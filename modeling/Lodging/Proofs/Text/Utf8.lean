import Lodging.Text.Utf8

/-! # Bytes read back

The bytes that are written for a text are read as that text. What the first byte of a character says of
the second is what the shortest form of a character that is no surrogate has there. -/

namespace Lodging.Text.Utf8

/-! ## One byte -/

theorem toNat_ofNat {n : Nat} (h : n < 256) : (UInt8.ofNat n).toNat = n := UInt8.toNat_ofNat_of_lt' h

/-- The first byte of a longer character leaves the reader inside it. -/
theorem decodeFrom_first {b : Nat} {r : Reader} (hb : b < 256) (hfirst : Reader.first b = ([], r))
    (rest : List UInt8) : decodeFrom .between (UInt8.ofNat b :: rest) = decodeFrom r rest := by
  simp only [decodeFrom, Reader.next, toNat_ofNat hb, hfirst, List.nil_append]

theorem decodeFrom_two {a : Nat} (hlow : 2 ≤ a) (hhigh : a < 32) (rest : List UInt8) :
    decodeFrom .between (UInt8.ofNat (a + 192) :: rest) = decodeFrom (.inside 1 0x80 0xBF a) rest := by
  refine decodeFrom_first (by omega) ?_ rest
  unfold Reader.first
  rw [if_neg (by omega), if_neg (by omega), if_pos (by omega), Nat.add_sub_cancel]

theorem decodeFrom_three {a : Nat} (hhigh : a < 16) (rest : List UInt8) :
    decodeFrom .between (UInt8.ofNat (a + 224) :: rest) =
      decodeFrom (.inside 2 (if a = 0 then 0xA0 else 0x80) (if a = 13 then 0x9F else 0xBF) a) rest := by
  refine decodeFrom_first (by omega) ?_ rest
  revert a
  decide

theorem decodeFrom_four {a : Nat} (hhigh : a < 5) (rest : List UInt8) :
    decodeFrom .between (UInt8.ofNat (a + 240) :: rest) =
      decodeFrom (.inside 3 (if a = 0 then 0x90 else 0x80) (if a = 4 then 0x8F else 0xBF) a) rest := by
  refine decodeFrom_first (by omega) ?_ rest
  revert a
  decide

/-- A byte inside a character adds six bits. -/
theorem decodeFrom_inside {missing low high bits t : Nat} (ht : t < 64) (hlow : low ≤ t + 128)
    (hhigh : t + 128 ≤ high) (rest : List UInt8) :
    decodeFrom (.inside missing low high bits) (UInt8.ofNat (t + 128) :: rest) =
      if missing ≤ 1 then Char.ofNat (bits * 64 + t) :: decodeFrom .between rest
      else decodeFrom (.inside (missing - 1) 0x80 0xBF (bits * 64 + t)) rest := by
  have hb : (UInt8.ofNat (t + 128)).toNat = t + 128 := toNat_ofNat (by omega)
  simp only [decodeFrom, Reader.next, hb, hlow, hhigh, and_self, if_true, Nat.add_sub_cancel]
  split <;> rfl

/-! ## One character -/

theorem decodeFrom_utf8EncodeChar (c : Char) (rest : List UInt8) :
    decodeFrom .between (String.utf8EncodeChar c ++ rest) = c :: decodeFrom .between rest := by
  have hvalid : c.toNat < 0xD800 ∨ 0xDFFF < c.toNat ∧ c.toNat < 0x110000 := c.valid
  have hback : ∀ n, n = c.toNat → Char.ofNat n = c := by
    rintro n rfl
    exact Char.ofNat_toNat c
  simp only [String.utf8EncodeChar, Char.toNat_val]
  generalize c.toNat = v at hvalid hback
  split
  · next h1 =>
    have hb : (UInt8.ofNat v).toNat = v := toNat_ofNat (by omega)
    have hfirst : Reader.first v = ([c], .between) := by
      rw [Reader.first, if_pos (by omega), hback v rfl]
    simp only [decodeFrom, Reader.next, hb, hfirst, List.cons_append, List.nil_append]
  split
  · next h1 h2 =>
    simp only [List.cons_append, List.nil_append]
    rw [decodeFrom_two (by omega) (by omega), decodeFrom_inside (by omega) (by omega) (by omega),
      if_pos (Nat.le_refl 1), hback _ (by omega)]
  split
  · next h1 h2 h3 =>
    simp only [List.cons_append, List.nil_append]
    rw [decodeFrom_three (by omega), decodeFrom_inside (by omega) (by split <;> omega)
      (by split <;> omega), if_neg (by omega), decodeFrom_inside (by omega) (by omega) (by omega),
      if_pos (by omega), hback _ (by omega)]
  · next h1 h2 h3 =>
    simp only [List.cons_append, List.nil_append]
    rw [decodeFrom_four (by omega), decodeFrom_inside (by omega) (by split <;> omega)
      (by split <;> omega), if_neg (by omega), decodeFrom_inside (by omega) (by omega) (by omega),
      if_neg (by omega), decodeFrom_inside (by omega) (by omega) (by omega), if_pos (by omega),
      hback _ (by omega)]

theorem decode_encode (s : List Char) : decode (encode s) = s := by
  induction s with
  | nil => rfl
  | cons c rest ih =>
    rw [encode, List.flatMap_cons, decode, decodeFrom_utf8EncodeChar]
    exact congrArg (c :: ·) ih

/-! ## ASCII at the beginning -/

/-- A text whose first bytes are ASCII begins with their characters. -/
theorem exists_eq_append {s : List Char} {n : Nat} (h : ∀ b ∈ (encode s).take n, b.toNat < 0x80) :
    ∃ rest, s = ((encode s).take n).map (fun b => Char.ofNat b.toNat) ++ rest := by
  refine ⟨decode ((encode s).drop n), ?_⟩
  calc s = decode ((encode s).take n ++ (encode s).drop n) := by
        rw [List.take_append_drop, decode_encode]
    _ = _ := decodeFrom_ascii_append h _

/-- The bytes of ASCII characters are their numbers. -/
theorem encode_ascii {s : List Char} (h : ∀ c ∈ s, c.utf8Size = 1) :
    encode s = s.map fun c => UInt8.ofNat c.toNat := by
  induction s with
  | nil => rfl
  | cons c s ih =>
    obtain ⟨hc, htail⟩ := List.forall_mem_cons.mp h
    rw [encode, List.flatMap_cons, String.utf8EncodeChar_eq_singleton hc, List.map_cons]
    exact congrArg _ (ih htail)

end Lodging.Text.Utf8
