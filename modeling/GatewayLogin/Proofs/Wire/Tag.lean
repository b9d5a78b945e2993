/-
Which words are taken for tags.

A word is taken for a tag exactly if it is the packed word of a tag whose field number lies in the
admitted range (`Tag.ofValue_eq_ok_iff`).
-/
import Mathlib.Tactic.SplitIfs
import GatewayLogin.Proofs.Wire.Varint
import GatewayLogin.Wire.Tag

namespace GatewayLogin

/-- The field number of a tag lies in the admitted range. -/
def Tag.Admitted (tag : Tag) : Prop :=
  1 ≤ tag.fieldNumber.toNat ∧ tag.fieldNumber.toNat ≤ maxFieldNumber

theorem WireType.ofBits_eq_ok_iff {bits : UInt8} {wireType : WireType} :
    ofBits bits = .ok wireType ↔ bits = wireType.bits := by
  constructor
  · intro h
    simp only [ofBits] at h
    split_ifs at h with hbits hbits hbits hbits
    all_goals
      cases h
      exact hbits
  · rintro rfl
    exact ofBits_bits wireType

theorem WireType.bits_lt (wireType : WireType) : wireType.bits.toNat < 8 := by
  cases wireType <;> decide

theorem Tag.value_toNat (tag : Tag) :
    tag.value.toNat = tag.fieldNumber.toNat * 8 + tag.wireType.bits.toNat := by
  have hnumber := tag.fieldNumber.toNat_lt
  have hbits := tag.wireType.bits_lt
  simp only [value, Nat.toUInt64, UInt64.toNat_ofNat']
  omega

/-- A word is taken for a tag exactly if it is the word of an admitted one. -/
theorem Tag.ofValue_eq_ok_iff {raw : UInt64} {tag : Tag} :
    ofValue raw = .ok tag ↔ tag.Admitted ∧ raw = tag.value := by
  have hraw := raw.toNat_lt
  constructor
  · intro h
    simp only [ofValue] at h
    split at h
    · cases h
    rename_i hrange
    split at h
    · rename_i wireType hbits
      cases h
      have hlow := congrArg UInt8.toNat (WireType.ofBits_eq_ok_iff.mp hbits)
      simp only [maxFieldNumber, Nat.toUInt8, UInt8.toNat_ofNat'] at hrange hlow
      have hnumber : (raw.toNat / 8).toUInt32.toNat = raw.toNat / 8 := by
        simp only [Nat.toUInt32, UInt32.toNat_ofNat']
        omega
      refine ⟨by simp only [Admitted, hnumber, maxFieldNumber]; omega, ?_⟩
      apply UInt64.toNat_inj.mp
      rw [value_toNat, hnumber]
      simp only
      omega
    · cases h
  · rintro ⟨⟨hpos, hmax⟩, rfl⟩
    have hbits := tag.wireType.bits_lt
    have hnumber : tag.value.toNat / 8 = tag.fieldNumber.toNat := by
      rw [value_toNat]
      omega
    have hlow : (tag.value.toNat % 8).toUInt8 = tag.wireType.bits := by
      apply UInt8.toNat_inj.mp
      simp only [value_toNat, Nat.toUInt8, UInt8.toNat_ofNat']
      omega
    have hrange : ¬ (tag.fieldNumber.toNat = 0 ∨ maxFieldNumber < tag.fieldNumber.toNat) := by
      omega
    simp only [ofValue, hnumber, hlow, if_neg hrange, WireType.ofBits_bits]
    simp

theorem Tag.read_reads :
    Tag.read.Reads fun tag form => tag.Admitted ∧ Varint.Form form tag.value := by
  intro bytes tag rest
  constructor
  · intro h
    simp only [read] at h
    split at h
    · rename_i raw left hraw
      split at h
      · rename_i found hfound
        cases h
        obtain ⟨hadmitted, rfl⟩ := ofValue_eq_ok_iff.mp hfound
        obtain ⟨form, rfl, hform⟩ := (Varint.read_reads _ _ _).mp hraw
        exact ⟨form, rfl, hadmitted, hform⟩
      · cases h
    · cases h
  · rintro ⟨form, rfl, hadmitted, hform⟩
    simp only [read, Varint.read_reads.read_append hform rest,
      ofValue_eq_ok_iff.mpr ⟨hadmitted, rfl⟩]

theorem WireType.ofBits_fault {bits : UInt8} {fault : Fault} (h : ofBits bits = .error fault) :
    fault = .unsupportedWireType bits := by
  simp only [ofBits] at h
  split_ifs at h
  cases h
  rfl

theorem Tag.ofValue_fault {raw : UInt64} {fault : Fault} (h : ofValue raw = .error fault) :
    fault.isCodecFault = true := by
  simp only [ofValue] at h
  split at h
  · cases h
    rfl
  · split at h
    · cases h
    · rename_i hbits
      cases h
      rw [WireType.ofBits_fault hbits]
      rfl

theorem Tag.read_isCodec : Tag.read.IsCodec := by
  intro bytes fault h
  simp only [read] at h
  split at h
  · split at h
    · cases h
    · rename_i hfault
      cases h
      exact ofValue_fault hfault
  · rename_i hraw
    cases h
    exact Varint.read_isCodec hraw

end GatewayLogin
