import AvProject.Protocol.AnnexB
import AvProject.Protocol.Rtp

/-!
What a sequence of RTP payloads says: which NAL units it carries, and whether every
fragment has the fragment before it.
-/

namespace AvProject.Rtp

open AvProject.Lib AvProject.Protocol

/-- A FU-A fragment that is not the first of its NAL unit. -/
def ContinuesNalu (payload : Bytes) : Prop :=
  nalType payload = kH264FuAType ∧ byteAt payload 1 &&& 0x80 = 0

/-- A FU-A fragment that is not the last of its NAL unit. -/
def LeavesNaluOpen (payload : Bytes) : Prop :=
  nalType payload = kH264FuAType ∧ byteAt payload 1 &&& 0x40 = 0

/-- A FU-A fragment with both bits set. -/
def StartsAndEnds (payload : Bytes) : Prop :=
  nalType payload = kH264FuAType ∧ byteAt payload 1 &&& 0x80 ≠ 0 ∧ byteAt payload 1 &&& 0x40 ≠ 0

instance (payload : Bytes) : Decidable (ContinuesNalu payload) :=
  inferInstanceAs (Decidable (_ ∧ _))

instance (payload : Bytes) : Decidable (LeavesNaluOpen payload) :=
  inferInstanceAs (Decidable (_ ∧ _))

/-- A single NAL unit, or a fragment that carries some data. -/
def WellFormed (payload : Bytes) : Prop :=
  0 < nalType payload ∧ nalType payload < 24 ∨
    nalType payload = kH264FuAType ∧ 2 < payload.length

/-- What a payload adds to the frame. -/
def naluBytes (payload : Bytes) : Bytes :=
  if nalType payload = kH264FuAType then
    if byteAt payload 1 &&& 0x80 = 0 then payload.drop 2
    else
      [0, 0, 0, 1] ++
        (((byteAt payload 0 &&& 0xE0) ||| (byteAt payload 1 &&& 0x1F)) :: payload.drop 2)
  else [0, 0, 0, 1] ++ payload

/-- A fragment that continues a NAL unit comes after one that leaves it open. -/
def Follows (payload next : Bytes) : Prop := ContinuesNalu next → LeavesNaluOpen payload

instance (payload next : Bytes) : Decidable (Follows payload next) :=
  inferInstanceAs (Decidable (_ → _))

/-- The payloads carry these bytes, the first of them in an open NAL unit if `continues`. -/
structure Spells (continues : Bool) (payloads : List Bytes) (bytes : Bytes) : Prop where
  ne_nil : payloads ≠ []
  wellFormed : ∀ payload ∈ payloads, WellFormed payload
  notBoth : ∀ payload ∈ payloads, ¬StartsAndEnds payload
  first : ∀ payload ∈ payloads.head?, ContinuesNalu payload ↔ continues = true
  chain : payloads.IsChain Follows
  last : ∀ payload ∈ payloads.getLast?, ¬LeavesNaluOpen payload
  bytes : payloads.flatMap naluBytes = bytes

theorem WellFormed.ne_nil {payload : Bytes} (h : WellFormed payload) : payload ≠ [] := by
  rintro rfl
  rcases h with ⟨hpos, -⟩ | ⟨-, hlength⟩
  · simp [nalType] at hpos
  · simp at hlength

namespace Spells

variable {continues : Bool} {payload : Bytes} {payloads payloads' : List Bytes}
  {bytes bytes' : Bytes}

/-- A payload after which no NAL unit is open, alone. -/
theorem singleton (hwellFormed : WellFormed payload) (hboth : ¬StartsAndEnds payload)
    (hfirst : ContinuesNalu payload ↔ continues = true) (hlast : ¬LeavesNaluOpen payload) :
    Spells continues [payload] (naluBytes payload) where
  ne_nil := List.cons_ne_nil _ _
  wellFormed := by simpa using hwellFormed
  notBoth := by simpa using hboth
  first := by simpa using hfirst
  chain := List.isChain_singleton _
  last := by simpa using hlast
  bytes := by simp

/-- A fragment that leaves its NAL unit open goes in front of its continuation. -/
theorem cons (h : Spells true payloads bytes) (hwellFormed : WellFormed payload)
    (hboth : ¬StartsAndEnds payload) (hfirst : ContinuesNalu payload ↔ continues = true)
    (hopen : LeavesNaluOpen payload) :
    Spells continues (payload :: payloads) (naluBytes payload ++ bytes) where
  ne_nil := List.cons_ne_nil _ _
  wellFormed := List.forall_mem_cons.mpr ⟨hwellFormed, h.wellFormed⟩
  notBoth := List.forall_mem_cons.mpr ⟨hboth, h.notBoth⟩
  first := by simpa using hfirst
  chain := by
    rw [List.isChain_cons]
    exact ⟨fun _ _ _ => hopen, h.chain⟩
  last := by
    obtain ⟨next, rest, rfl⟩ := List.exists_cons_of_ne_nil h.ne_nil
    rw [List.getLast?_cons_cons]
    exact h.last
  bytes := by rw [List.flatMap_cons, h.bytes]

/-- NAL units one after the other. -/
theorem append (h : Spells continues payloads bytes) (h' : Spells false payloads' bytes') :
    Spells continues (payloads ++ payloads') (bytes ++ bytes') where
  ne_nil := List.append_ne_nil_of_left_ne_nil h.ne_nil _
  wellFormed := List.forall_mem_append.mpr ⟨h.wellFormed, h'.wellFormed⟩
  notBoth := List.forall_mem_append.mpr ⟨h.notBoth, h'.notBoth⟩
  first := by
    rw [List.head?_append_of_ne_nil _ h.ne_nil]
    exact h.first
  chain := by
    rw [List.isChain_append]
    refine ⟨h.chain, h'.chain, fun a _ b hb hcontinues => ?_⟩
    exact absurd ((h'.first b hb).mp hcontinues) Bool.false_ne_true
  last := by
    rw [List.getLast?_append_of_ne_nil _ h'.ne_nil]
    exact h'.last
  bytes := by rw [List.flatMap_append, h.bytes, h'.bytes]

end Spells

end AvProject.Rtp
