import Lodging.Text.Ascii

/-! # Letter case

Two texts with the same capital forms have the same small forms, so it does not matter by which of them
texts are compared. -/

namespace Lodging.Text

theorem toNat_toUpper (c : Char) :
    c.toUpper.toNat = if 97 ≤ c.toNat ∧ c.toNat ≤ 122 then c.toNat - 32 else c.toNat := by
  have hiff : ('a'.val ≤ c.val ∧ c.val ≤ 'z'.val) ↔ 97 ≤ c.toNat ∧ c.toNat ≤ 122 := by
    rw [UInt32.le_iff_toNat_le, UInt32.le_iff_toNat_le]
    rfl
  unfold Char.toUpper
  split
  · next h =>
    have hsum : (c.val + ('A'.val - 'a'.val)).toNat = (c.toNat + 4294967264) % 4294967296 :=
      UInt32.toNat_add _ _
    have hbounds := hiff.mp h
    rw [if_pos hbounds]
    exact hsum.trans (by omega)
  · next h => rw [if_neg fun hn => h (hiff.mpr hn)]

theorem toNat_toLower (c : Char) :
    c.toLower.toNat = if 65 ≤ c.toNat ∧ c.toNat ≤ 90 then c.toNat + 32 else c.toNat := by
  have hiff : (c.val ≥ 'A'.val ∧ c.val ≤ 'Z'.val) ↔ 65 ≤ c.toNat ∧ c.toNat ≤ 90 := by
    rw [ge_iff_le, UInt32.le_iff_toNat_le, UInt32.le_iff_toNat_le]
    rfl
  unfold Char.toLower
  split
  · next h =>
    have hsum : (c.val + ('a'.val - 'A'.val)).toNat = (c.toNat + 32) % 4294967296 :=
      UInt32.toNat_add _ _
    have hbounds := hiff.mp h
    rw [if_pos hbounds]
    exact hsum.trans (by omega)
  · next h => rw [if_neg fun hn => h (hiff.mpr hn)]

theorem toUpper_eq_iff (c d : Char) : c.toUpper = d.toUpper ↔ c.toLower = d.toLower := by
  rw [← Char.toNat_inj, ← Char.toNat_inj, toNat_toUpper, toNat_toUpper, toNat_toLower,
    toNat_toLower]
  split <;> split <;> split <;> split <;> omega

theorem upperAscii_eq_iff {s t : List Char} :
    upperAscii s = upperAscii t ↔ sameAscii s t = true := by
  rw [sameAscii, beq_iff_eq, upperAscii, upperAscii, lowerAscii, lowerAscii]
  induction s generalizing t with
  | nil => cases t <;> simp
  | cons c s ih =>
    cases t with
    | nil => simp
    | cons d t => simp only [List.map_cons, List.cons.injEq, toUpper_eq_iff, ih]

end Lodging.Text
