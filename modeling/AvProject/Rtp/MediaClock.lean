import AvProject.Server.RtpPacketizer

/-!
The RTP timestamp of a frame is its capture time in ticks of the media clock. The product of
the two is formed in 64 bits, which a capture time of a few days no longer fits in.
-/

namespace AvProject.Rtp

open AvProject.Server

/-- The capture time in whole ticks. -/
def captureTicks (p : RtpPacketizer) (frame : EncodedFrame) : ℕ :=
  frame.captureTimestampNs * p.clockRate.toNat / 10 ^ 9

/-- The timestamp is the number of ticks, in 32 bits. -/
def TimestampExact (p : RtpPacketizer) (frame : EncodedFrame) : Prop :=
  (p.buildTimestamp frame).toNat = captureTicks p frame % 2 ^ 32

/-- Both timestamps are exact, and the difference between them is less than a tick away from
the time that has passed. -/
structure FollowsMediaClock (p : RtpPacketizer) (earlier later : EncodedFrame) : Prop where
  earlier_exact : TimestampExact p earlier
  later_exact : TimestampExact p later
  difference : ∃ ticks : ℕ,
    p.buildTimestamp later - p.buildTimestamp earlier = UInt32.ofNat ticks ∧
      |(ticks : ℚ) - (later.captureTimestampNs - earlier.captureTimestampNs) *
        p.clockRate.toNat / 10 ^ 9| < 1

/-- What the 64 bits of the product leave out is a multiple of `5 ^ 9`. -/
def OverflowHarmless (p : RtpPacketizer) (frame : EncodedFrame) : Prop :=
  5 ^ 9 ∣ frame.captureTimestampNs * p.clockRate.toNat / 2 ^ 64

/-! ### One timestamp -/

/-- Sums of multiples of `2 ^ 32` that agree up to less than `10 ^ 9`. -/
theorem eq_of_near {n m x y a b : ℕ} (hx : x = 2 ^ 32 * n + y) (ha : a = b + 2 ^ 32 * m)
    (hxlo : a ≤ x) (hxhi : x < a + 10 ^ 9) (hylo : b ≤ y) (hyhi : y < b + 10 ^ 9) : n = m := by
  omega

/-- Division after reduction to 64 bits: `2 ^ 64 * 5 ^ 9 = 2 ^ 55 * 10 ^ 9`, so a quotient that
`5 ^ 9` divides changes the result by a multiple of `2 ^ 32`; any other one changes it. -/
theorem mod_div_mod_iff (x : ℕ) :
    x % 2 ^ 64 / 10 ^ 9 % 2 ^ 32 = x / 10 ^ 9 % 2 ^ 32 ↔ 5 ^ 9 ∣ x / 2 ^ 64 := by
  have hx : x = 2 ^ 64 * (x / 2 ^ 64) + x % 2 ^ 64 := (Nat.div_add_mod x _).symm
  generalize x / 2 ^ 64 = q at hx ⊢
  generalize x % 2 ^ 64 = y at hx ⊢
  constructor
  · intro hmod
    have hle : y / 10 ^ 9 ≤ x / 10 ^ 9 := Nat.div_le_div_right (hx ▸ Nat.le_add_left _ _)
    obtain ⟨w, hw⟩ := (Nat.modEq_iff_dvd' hle).mp hmod
    have hscaled : 2 ^ 32 * q = 10 ^ 9 * w := by
      have hsplit : x = 2 ^ 32 * (2 ^ 32 * q) + y := by
        rw [hx]
        ring
      have hticks : 10 ^ 9 * (x / 10 ^ 9) = 10 ^ 9 * (y / 10 ^ 9) + 2 ^ 32 * (10 ^ 9 * w) := by
        rw [Nat.eq_add_of_sub_eq hle hw]
        ring
      exact eq_of_near hsplit hticks (Nat.mul_div_le x _) (Nat.lt_mul_div_self_add (by norm_num))
        (Nat.mul_div_le y _) (Nat.lt_mul_div_self_add (by norm_num))
    have hreduced : 2 ^ 23 * q = 5 ^ 9 * w := by
      refine Nat.eq_of_mul_eq_mul_left (show 0 < 2 ^ 9 by norm_num) ?_
      calc 2 ^ 9 * (2 ^ 23 * q) = 2 ^ 32 * q := by ring
        _ = 10 ^ 9 * w := hscaled
        _ = 2 ^ 9 * (5 ^ 9 * w) := by ring
    have hcoprime : Nat.Coprime (5 ^ 9) (2 ^ 23) := by norm_num
    exact hcoprime.dvd_of_dvd_mul_left ⟨w, hreduced⟩
  · rintro ⟨k, rfl⟩
    have hsum : x = y + 10 ^ 9 * (2 ^ 55 * k) := by
      rw [hx]
      ring
    rw [hsum, Nat.add_mul_div_left _ _ (by norm_num),
      show 2 ^ 55 * k = 2 ^ 32 * (2 ^ 23 * k) by ring, Nat.add_mul_mod_self_left]

section

variable {p : RtpPacketizer} {frame earlier later : EncodedFrame}

theorem timestampExact_iff (hcapture : frame.captureTimestampNs ≠ 0) :
    TimestampExact p frame ↔ OverflowHarmless p frame := by
  rw [TimestampExact, RtpPacketizer.buildTimestamp, if_neg hcapture, UInt32.toNat_ofNat']
  exact mod_div_mod_iff (frame.captureTimestampNs * p.clockRate.toNat)

/-! ### Two timestamps -/

theorem captureTicks_le (hle : earlier.captureTimestampNs ≤ later.captureTimestampNs) :
    captureTicks p earlier ≤ captureTicks p later :=
  Nat.div_le_div_right (Nat.mul_le_mul_right _ hle)

/-- Two floors differ by less than one from the difference of what they round. -/
theorem abs_floor_sub_lt {a b : ℕ} (hle : a / 10 ^ 9 ≤ b / 10 ^ 9) :
    |((b / 10 ^ 9 - a / 10 ^ 9 : ℕ) : ℚ) - ((b : ℚ) - a) / 10 ^ 9| < 1 := by
  have hbounds (n : ℕ) : ((n / 10 ^ 9 : ℕ) : ℚ) ≤ n / 10 ^ 9 ∧
      (n : ℚ) / 10 ^ 9 < ((n / 10 ^ 9 : ℕ) : ℚ) + 1 := by
    have hcast : ((10 ^ 9 : ℕ) : ℚ) = 10 ^ 9 := by norm_num
    constructor
    · rw [← hcast]
      exact Nat.cast_div_le
    · rw [div_lt_iff₀ (by norm_num)]
      have hlt : n < 10 ^ 9 * (n / 10 ^ 9) + 10 ^ 9 := Nat.lt_mul_div_self_add (by norm_num)
      have hlt' : (n : ℚ) < ((10 ^ 9 * (n / 10 ^ 9) + 10 ^ 9 : ℕ) : ℚ) := by exact_mod_cast hlt
      push_cast at hlt' ⊢
      linarith
  obtain ⟨halo, hahi⟩ := hbounds a
  obtain ⟨hblo, hbhi⟩ := hbounds b
  rw [Nat.cast_sub hle, abs_lt, sub_div]
  constructor <;> linarith

theorem TimestampExact.difference (hearlier : TimestampExact p earlier)
    (hlater : TimestampExact p later)
    (hle : captureTicks p earlier ≤ captureTicks p later) :
    p.buildTimestamp later - p.buildTimestamp earlier =
      UInt32.ofNat (captureTicks p later - captureTicks p earlier) := by
  rw [TimestampExact] at hearlier hlater
  apply UInt32.toNat_inj.mp
  rw [UInt32.toNat_sub, hearlier, hlater, UInt32.toNat_ofNat']
  omega

theorem FollowsMediaClock.of_exact (hearlier : TimestampExact p earlier)
    (hlater : TimestampExact p later)
    (hle : earlier.captureTimestampNs ≤ later.captureTimestampNs) :
    FollowsMediaClock p earlier later := by
  have hticks := captureTicks_le (p := p) hle
  refine ⟨hearlier, hlater, _, hearlier.difference hlater hticks, ?_⟩
  have hfloor := abs_floor_sub_lt hticks
  push_cast at hfloor
  rw [← sub_mul] at hfloor
  exact hfloor

end

/-- The timestamps of two frames follow the media clock exactly where what their products
lose is harmless; below a product of `2 ^ 64` nothing is lost. -/
theorem followsMediaClock_iff (p : RtpPacketizer) {earlier later : EncodedFrame}
    (hearlier : earlier.captureTimestampNs ≠ 0)
    (hle : earlier.captureTimestampNs ≤ later.captureTimestampNs) :
    FollowsMediaClock p earlier later ↔ OverflowHarmless p earlier ∧ OverflowHarmless p later := by
  have hlater : later.captureTimestampNs ≠ 0 := by omega
  rw [← timestampExact_iff hearlier, ← timestampExact_iff hlater]
  exact ⟨fun h => ⟨h.earlier_exact, h.later_exact⟩, fun h => .of_exact h.1 h.2 hle⟩

/-- The clock of video, and frames half a second and a bit apart. -/
def videoPacketizer : RtpPacketizer where
  payloadType := 96
  clockRate := 90000
  maxPayloadSize := 1200
  ssrc := 1
  enableLatencyExtension := false
  sequenceNumber := 0

def frameAt (captureTimestampNs : UInt64) : EncodedFrame := .numbered 0 captureTimestampNs false []

def firstFrame : EncodedFrame := frameAt 1000000000

def secondFrame : EncodedFrame := frameAt 1500000001

theorem followsMediaClock_firstFrame :
    FollowsMediaClock videoPacketizer firstFrame secondFrame ↔
      OverflowHarmless videoPacketizer firstFrame ∧ OverflowHarmless videoPacketizer secondFrame :=
  followsMediaClock_iff videoPacketizer (by decide) (by decide)

/-- A frame that is captured 57 hours after the start of the clock. -/
def lateFrame : EncodedFrame := frameAt 204963823041218

theorem not_followsMediaClock_lateFrame :
    ¬ FollowsMediaClock videoPacketizer lateFrame lateFrame := by
  intro h
  have hharmless := (timestampExact_iff (by decide)).mp h.later_exact
  rw [OverflowHarmless] at hharmless
  revert hharmless
  decide

end AvProject.Rtp
