import AvProject.Protocol.Message

/-!
The keepalive message: a message header, behind which a UDP client puts what it knows about
its reception. The three `double` fields of the report are copied as they stand, so only
their 64 bits are modelled.
-/

namespace AvProject.Protocol

open AvProject.Lib

structure UdpReceiverReport where
  reportTimestampNs : ℕ
  datagramsReceived : ℕ
  invalidDatagrams : ℕ
  fragmentsReceived : ℕ
  duplicateFragments : ℕ
  timedOutFragments : ℕ
  timedOutFrames : ℕ
  completedFrames : ℕ
  reorderedFrames : ℕ
  jitterSamples : ℕ
  jitterLastMs : UInt64
  jitterAvgMs : UInt64
  jitterMaxMs : UInt64
  deriving DecidableEq, Repr, Inhabited

def sizeofUdpReceiverReport : ℕ := 104

namespace UdpReceiverReport

def toBytes (r : UdpReceiverReport) : Bytes :=
  writeLe 8 r.reportTimestampNs ++ (writeLe 8 r.datagramsReceived ++
    (writeLe 8 r.invalidDatagrams ++ (writeLe 8 r.fragmentsReceived ++
    (writeLe 8 r.duplicateFragments ++ (writeLe 8 r.timedOutFragments ++
    (writeLe 8 r.timedOutFrames ++ (writeLe 8 r.completedFrames ++
    (writeLe 8 r.reorderedFrames ++ (writeLe 8 r.jitterSamples ++
    (writeLe 8 r.jitterLastMs.toNat ++ (writeLe 8 r.jitterAvgMs.toNat ++
    writeLe 8 r.jitterMaxMs.toNat)))))))))))

/-- `memcpy` into a `UdpReceiverReport`. -/
def ofBytes (b : Bytes) : UdpReceiverReport :=
  let reportTimestampNs := takeLe 8 b
  let datagramsReceived := takeLe 8 reportTimestampNs.2
  let invalidDatagrams := takeLe 8 datagramsReceived.2
  let fragmentsReceived := takeLe 8 invalidDatagrams.2
  let duplicateFragments := takeLe 8 fragmentsReceived.2
  let timedOutFragments := takeLe 8 duplicateFragments.2
  let timedOutFrames := takeLe 8 timedOutFragments.2
  let completedFrames := takeLe 8 timedOutFrames.2
  let reorderedFrames := takeLe 8 completedFrames.2
  let jitterSamples := takeLe 8 reorderedFrames.2
  let jitterLastMs := takeLe 8 jitterSamples.2
  let jitterAvgMs := takeLe 8 jitterLastMs.2
  let jitterMaxMs := takeLe 8 jitterAvgMs.2
  { reportTimestampNs := reportTimestampNs.1
    datagramsReceived := datagramsReceived.1
    invalidDatagrams := invalidDatagrams.1
    fragmentsReceived := fragmentsReceived.1
    duplicateFragments := duplicateFragments.1
    timedOutFragments := timedOutFragments.1
    timedOutFrames := timedOutFrames.1
    completedFrames := completedFrames.1
    reorderedFrames := reorderedFrames.1
    jitterSamples := jitterSamples.1
    jitterLastMs := .ofNat jitterLastMs.1
    jitterAvgMs := .ofNat jitterAvgMs.1
    jitterMaxMs := .ofNat jitterMaxMs.1 }

/-- Every counter fits the 64 bits that the packed structure gives it. -/
structure Fits (r : UdpReceiverReport) : Prop where
  reportTimestampNs : r.reportTimestampNs < 2 ^ 64
  datagramsReceived : r.datagramsReceived < 2 ^ 64
  invalidDatagrams : r.invalidDatagrams < 2 ^ 64
  fragmentsReceived : r.fragmentsReceived < 2 ^ 64
  duplicateFragments : r.duplicateFragments < 2 ^ 64
  timedOutFragments : r.timedOutFragments < 2 ^ 64
  timedOutFrames : r.timedOutFrames < 2 ^ 64
  completedFrames : r.completedFrames < 2 ^ 64
  reorderedFrames : r.reorderedFrames < 2 ^ 64
  jitterSamples : r.jitterSamples < 2 ^ 64

@[simp] theorem length_toBytes (r : UdpReceiverReport) :
    r.toBytes.length = sizeofUdpReceiverReport := by
  simp [toBytes, sizeofUdpReceiverReport]

theorem ofBytes_toBytes_append {r : UdpReceiverReport} (hfits : r.Fits) (rest : Bytes) :
    ofBytes (r.toBytes ++ rest) = r := by
  obtain ⟨h0, h1, h2, h3, h4, h5, h6, h7, h8, h9⟩ := hfits
  have hbits (x : UInt64) : UInt64.ofNat (x.toNat % 256 ^ 8) = x := by
    rw [Nat.mod_eq_of_lt (by simpa using x.toNat_lt)]
    exact UInt64.ofNat_toNat
  simp only [ofBytes, toBytes, List.append_assoc, takeLe_writeLe_append, hbits]
  cases r
  simp only [mk.injEq, and_true]
  refine ⟨?_, ?_, ?_, ?_, ?_, ?_, ?_, ?_, ?_, ?_⟩ <;>
    exact Nat.mod_eq_of_lt (by simpa using ‹_›)

end UdpReceiverReport

end AvProject.Protocol
