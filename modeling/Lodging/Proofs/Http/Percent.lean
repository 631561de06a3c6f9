import Lodging.Http.Percent
import Lodging.Proofs.Text.Utf8

/-! # Components of URLs

What is written as a component is decoded to the same text, so different texts are different components.
A component has nothing in it but letters, digits, four marks and percent signs, whatever the text is. -/

namespace Lodging.Http.Percent

variable {keep : Char → Bool}

/-! ## Digits -/

theorem hexValue?_capital {d : Nat} (h : d < 16) :
    Text.hexValue? (Text.hexChar 'A' d) = some d :=
  Text.hexValue?_hexChar (by decide) d h

theorem byte_digits (b : UInt8) : b.toNat / 16 < 16 ∧ b.toNat % 16 < 16 := by
  have := b.toNat_lt
  omega

/-! ## Decoding what is encoded -/

theorem bytes_encodeByte (b : UInt8) (rest : List Char) :
    bytes (fun _ => false) (encodeByte b ++ rest) = b :: bytes (fun _ => false) rest := by
  obtain ⟨hhigh, hlow⟩ := byte_digits b
  have hb : UInt8.ofNat (b.toNat / 16 * 16 + b.toNat % 16) = b := by
    rw [Nat.div_add_mod']
    exact UInt8.ofNat_toNat
  simp only [encodeByte, List.cons_append, List.nil_append, bytes, hexValue?_capital hhigh,
    hexValue?_capital hlow, hb]
  rfl

theorem bytes_encodeBytes (bs : List UInt8) (rest : List Char) :
    bytes (fun _ => false) (bs.flatMap encodeByte ++ rest) = bs ++ bytes (fun _ => false) rest := by
  induction bs with
  | nil => rfl
  | cons b bs ih => rw [List.flatMap_cons, List.append_assoc, bytes_encodeByte, ih, List.cons_append]

theorem bytes_cons_of_ne {keep : UInt8 → Bool} {c : Char} (hc : c ≠ '%') (rest : List Char) :
    bytes keep (c :: rest) = String.utf8EncodeChar c ++ bytes keep rest := by
  rw [bytes]
  rintro _ _ _ rfl -
  exact hc rfl

/-- If percent signs are not kept, the bytes of the text come back. -/
theorem bytes_encode (hkeep : keep '%' = false) (s : List Char) :
    bytes (fun _ => false) (encode keep s) = Text.Utf8.encode s := by
  induction s with
  | nil => rfl
  | cons c rest ih =>
    have hrest : bytes (fun _ => false) (rest.flatMap (encodeChar keep)) = Text.Utf8.encode rest := ih
    rw [encode, List.flatMap_cons, Text.Utf8.encode, List.flatMap_cons, encodeChar]
    split
    · next hc =>
      have hne : c ≠ '%' := by
        rintro rfl
        rw [hkeep] at hc
        cases hc
      rw [List.singleton_append, bytes_cons_of_ne hne, hrest]
      rfl
    · rw [bytes_encodeBytes, hrest]
      rfl

theorem decode_component (s : List Char) : decode (component s) = s := by
  rw [decode, component, bytes_encode (by decide), Text.Utf8.decode_encode]

theorem component_inj {s t : List Char} : component s = component t ↔ s = t :=
  ⟨fun h => by rw [← decode_component s, h, decode_component], congrArg component⟩

/-! ## The characters of a component -/

theorem encode_eq_self {s : List Char} (h : ∀ c ∈ s, keep c = true) : encode keep s = s := by
  induction s with
  | nil => rfl
  | cons c rest ih =>
    have hrest : rest.flatMap (encodeChar keep) = rest :=
      ih fun d hd => h d (List.mem_cons_of_mem _ hd)
    rw [encode, List.flatMap_cons, hrest, encodeChar, if_pos (h c List.mem_cons_self)]
    rfl

theorem encodeChar_ne_nil (c : Char) : encodeChar keep c ≠ [] := by
  unfold encodeChar
  split
  · exact List.cons_ne_nil _ _
  · unfold String.utf8EncodeChar
    simp only
    split
    · exact List.cons_ne_nil _ _
    · split
      · exact List.cons_ne_nil _ _
      · split <;> exact List.cons_ne_nil _ _

theorem encode_eq_nil_iff {s : List Char} : encode keep s = [] ↔ s = [] := by
  cases s with
  | nil => simp [encode]
  | cons c rest => simp [encode, encodeChar_ne_nil]

theorem mem_encodeByte {b : UInt8} {c : Char} (h : c ∈ encodeByte b) :
    c = '%' ∨ isUnreserved c = true := by
  obtain ⟨hhigh, hlow⟩ := byte_digits b
  have hhex : ∀ d < 16, isUnreserved (Text.hexChar 'A' d) = true := by decide
  simp only [encodeByte, List.mem_cons, List.not_mem_nil, or_false] at h
  rcases h with rfl | rfl | rfl
  · exact .inl rfl
  · exact .inr (hhex _ hhigh)
  · exact .inr (hhex _ hlow)

theorem mem_component {s : List Char} {c : Char} (h : c ∈ component s) :
    c = '%' ∨ isUnreserved c = true := by
  obtain ⟨d, -, hc⟩ := List.mem_flatMap.mp h
  unfold encodeChar at hc
  split at hc
  · next hd => exact .inr (List.mem_singleton.mp hc ▸ hd)
  · obtain ⟨b, -, hc⟩ := List.mem_flatMap.mp hc
    exact mem_encodeByte hc

theorem toNat_lt_of_isUnreserved {c : Char} (h : isUnreserved c = true) : c.toNat < 128 := by
  have hcode : ∀ a b : UInt32, a ≤ b → a.toNat ≤ b.toNat := fun _ _ h => h
  unfold isUnreserved Char.isAlphanum Char.isAlpha Char.isUpper Char.isLower Char.isDigit at h
  simp only [Bool.or_eq_true, Bool.and_eq_true, decide_eq_true_eq, beq_iff_eq] at h
  rcases h with ((((((⟨-, h⟩ | ⟨-, h⟩) | ⟨-, h⟩) | rfl) | rfl) | rfl) | rfl)
  · exact Nat.lt_of_le_of_lt (hcode _ _ h) (by decide)
  · exact Nat.lt_of_le_of_lt (hcode _ _ h) (by decide)
  · exact Nat.lt_of_le_of_lt (hcode _ _ h) (by decide)
  all_goals decide

/-- A byte of a character is the character, or is no ASCII. -/
theorem mem_utf8EncodeChar {c : Char} {b : UInt8} (h : b ∈ String.utf8EncodeChar c) :
    b.toNat = c.toNat ∨ 128 ≤ b.toNat := by
  have hbyte : ∀ n, 128 ≤ n → n < 256 → 128 ≤ (UInt8.ofNat n).toNat := fun n hlow hhigh => by
    rw [Text.Utf8.toNat_ofNat hhigh]
    exact hlow
  simp only [String.utf8EncodeChar, Char.toNat_val] at h
  split at h
  · rw [List.mem_singleton.mp h]
    exact .inl (Text.Utf8.toNat_ofNat (by omega))
  · right
    split at h
    · simp only [List.mem_cons, List.not_mem_nil, or_false] at h
      rcases h with rfl | rfl <;> exact hbyte _ (by omega) (by omega)
    · split at h
      · simp only [List.mem_cons, List.not_mem_nil, or_false] at h
        rcases h with rfl | rfl | rfl <;> exact hbyte _ (by omega) (by omega)
      · simp only [List.mem_cons, List.not_mem_nil, or_false] at h
        rcases h with rfl | rfl | rfl | rfl <;> exact hbyte _ (by omega) (by omega)

/-- A component is free of an encoded ASCII character that it could have kept. -/
theorem toNat_ne_of_not_unreserved {c d : Char} (hc : isUnreserved c = false)
    (hd : isUnreserved d = true) {b : UInt8} (hb : b ∈ String.utf8EncodeChar c) :
    b.toNat ≠ d.toNat := by
  intro he
  have := toNat_lt_of_isUnreserved hd
  rcases mem_utf8EncodeChar hb with h | h
  · rw [Char.toNat_inj.mp (h.symm.trans he), hd] at hc
    cases hc
  · omega

end Lodging.Http.Percent
