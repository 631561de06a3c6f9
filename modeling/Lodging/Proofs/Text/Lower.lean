import Mathlib.Data.List.TakeWhile
import Lodging.Text.Lower

/-!
# Lower-casing inside a text

Lower-casing treats each character on its own but for the capital sigma, whose small form depends on
the letters around it. So the small letters of a part of a text are the small letters of the part
taken alone, unless a sigma of the part gets another form from what stands around the part.

Only two sigmas can. One that opens the part and has no letter behind it in the part is `σ` alone and
may become `ς` behind a letter. One that closes the part behind a letter is `ς` alone and becomes `σ`
before another letter. The part that such a sigma changes is not found by comparing small letters:
one letter put next to it leaves the text with fewer sigmas of one form than the part has alone.
-/

namespace Lodging.Text

/-! ## What stands next to a character -/

theorem meetsCased_append_of_ignorable {s : List Char} (h : ∀ c ∈ s, isCaseIgnorable c = true)
    (t : List Char) : meetsCased (s ++ t) = meetsCased t := by
  simp only [meetsCased, List.dropWhile_append_of_pos h]

/-- Only the first character that counts is looked at. -/
theorem meetsCased_append_of_counting {s : List Char} (h : ¬ ∀ c ∈ s, isCaseIgnorable c = true)
    (t : List Char) : meetsCased (s ++ t) = meetsCased s := by
  have hne : s.dropWhile isCaseIgnorable ≠ [] := fun e => h (List.dropWhile_eq_nil_iff.mp e)
  obtain ⟨c, rest, hc⟩ := List.exists_cons_of_ne_nil hne
  simp [meetsCased, List.dropWhile_append, hc]

theorem meetsCased_of_ignorable {s : List Char} (h : ∀ c ∈ s, isCaseIgnorable c = true) :
    meetsCased s = false := by
  simpa [meetsCased] using meetsCased_append_of_ignorable h []

/-- Characters that are not cased make no difference behind others. -/
theorem meetsCased_append_of_not {t : List Char} (h : meetsCased t = false) (s : List Char) :
    meetsCased (s ++ t) = meetsCased s := by
  by_cases hs : ∀ c ∈ s, isCaseIgnorable c = true
  · rw [meetsCased_append_of_ignorable hs, h, meetsCased_of_ignorable hs]
  · exact meetsCased_append_of_counting hs t

/-- A cased character behind others can only add to them. -/
theorem meetsCased_append_of_cased {s : List Char} (h : meetsCased s = true) (t : List Char) :
    meetsCased (s ++ t) = true := by
  rw [meetsCased_append_of_counting (fun hs => ?_), h]
  rw [meetsCased_of_ignorable hs] at h
  cases h

theorem sigmaForm_eq_final_iff {before after : List Char} :
    sigmaForm before after = 'ς' ↔ meetsCased before = true ∧ meetsCased after = false := by
  unfold sigmaForm
  split <;> simp_all

theorem sigmaForm_eq_inner_iff {before after : List Char} :
    sigmaForm before after = 'σ' ↔ (meetsCased before = true → meetsCased after = true) := by
  unfold sigmaForm
  split <;> simp_all

theorem sigmaForm_congr {before before' after after' : List Char}
    (hb : meetsCased before = meetsCased before') (ha : meetsCased after = meetsCased after') :
    sigmaForm before after = sigmaForm before' after' := by
  simp only [sigmaForm, hb, ha]

/-! ## Parts of a text -/

/-- Lower-cases `s` as a part of a text, between the characters `before` (nearest first) and
`after`. -/
def lowerIn (before after : List Char) : List Char → List Char
  | [] => []
  | c :: rest =>
    (if c = 'Σ' then [sigmaForm before (rest ++ after)] else lowerChar c) ++
      lowerIn (c :: before) after rest

theorem lowerIn_nil_right (before s : List Char) : lowerIn before [] s = lowerFrom before s := by
  induction s generalizing before with
  | nil => rfl
  | cons c rest ih => by_cases hc : c = 'Σ' <;> simp [lowerIn, lowerFrom, hc, ih]

theorem lowerIn_append (before after s t : List Char) :
    lowerIn before after (s ++ t) =
      lowerIn before (t ++ after) s ++ lowerIn (s.reverse ++ before) after t := by
  induction s generalizing before with
  | nil => rfl
  | cons c rest ih => simp [lowerIn, ih, List.append_assoc]

theorem lower_eq_lowerIn (s : List Char) : lower s = lowerIn [] [] s :=
  (lowerIn_nil_right [] s).symm

/-- The small letters of a part stand in the small letters of the text. -/
theorem lowerIn_infix (before s after : List Char) :
    lowerIn before.reverse after s <:+: lower (before ++ s ++ after) := by
  refine ⟨lowerIn [] (s ++ after) before, lowerIn (s.reverse ++ before.reverse) [] after, ?_⟩
  rw [lower_eq_lowerIn, List.append_assoc, lowerIn_append, lowerIn_append]
  simp

/-- Two ways to lower-case a text that give its sigmas the same forms are the same. -/
theorem lowerIn_congr {s before after before' after' : List Char}
    (h : ∀ a b, s = a ++ 'Σ' :: b →
      sigmaForm (a.reverse ++ before) (b ++ after) = sigmaForm (a.reverse ++ before') (b ++ after')) :
    lowerIn before after s = lowerIn before' after' s := by
  induction s generalizing before before' with
  | nil => rfl
  | cons c rest ih =>
    have hrest : lowerIn (c :: before) after rest = lowerIn (c :: before') after' rest :=
      ih fun a b e => by simpa using h (c :: a) b (by rw [e]; rfl)
    by_cases hc : c = 'Σ'
    · have hform : sigmaForm before (rest ++ after) = sigmaForm before' (rest ++ after') :=
        h [] rest (by rw [hc]; rfl)
      simp only [lowerIn, hc, if_true, hform] at hrest ⊢
      rw [hrest]
    · simp only [lowerIn, hc, if_false, hrest]

/-- Where one way gives a sigma the form `d` only if the other does, it makes no more of them. -/
theorem count_lowerIn_le {s before after before' after' : List Char} {d : Char}
    (h : ∀ a b, s = a ++ 'Σ' :: b → sigmaForm (a.reverse ++ before) (b ++ after) = d →
      sigmaForm (a.reverse ++ before') (b ++ after') = d) :
    (lowerIn before after s).count d ≤ (lowerIn before' after' s).count d := by
  induction s generalizing before before' with
  | nil => exact Nat.le_refl _
  | cons c rest ih =>
    have hrest : (lowerIn (c :: before) after rest).count d ≤
        (lowerIn (c :: before') after' rest).count d :=
      ih fun a b e => by simpa using h (c :: a) b (by rw [e]; rfl)
    simp only [lowerIn, List.count_append]
    refine Nat.add_le_add ?_ hrest
    by_cases hc : c = 'Σ'
    · have hform := h [] rest (by rw [hc]; rfl)
      simp only [List.reverse_nil, List.nil_append] at hform
      by_cases hd : sigmaForm before (rest ++ after) = d
      · simp [hc, hd, hform hd]
      · simp [hc, hd]
    · simp [hc]

/-- It makes fewer, if one sigma has the form `d` the other way only. -/
theorem count_lowerIn_lt {a b before after before' after' : List Char} {d : Char}
    (h : ∀ x y, a ++ 'Σ' :: b = x ++ 'Σ' :: y → sigmaForm (x.reverse ++ before) (y ++ after) = d →
      sigmaForm (x.reverse ++ before') (y ++ after') = d)
    (hnot : sigmaForm (a.reverse ++ before) (b ++ after) ≠ d)
    (hd : sigmaForm (a.reverse ++ before') (b ++ after') = d) :
    (lowerIn before after (a ++ 'Σ' :: b)).count d <
      (lowerIn before' after' (a ++ 'Σ' :: b)).count d := by
  have hleft : (lowerIn before ('Σ' :: b ++ after) a).count d ≤
      (lowerIn before' ('Σ' :: b ++ after') a).count d :=
    count_lowerIn_le fun x y e => by simpa using h x (y ++ 'Σ' :: b) (by simp [e])
  have hright : (lowerIn ('Σ' :: (a.reverse ++ before)) after b).count d ≤
      (lowerIn ('Σ' :: (a.reverse ++ before')) after' b).count d :=
    count_lowerIn_le fun x y e => by simpa using h (a ++ 'Σ' :: x) y (by simp [e])
  simp only [lowerIn_append, lowerIn, List.count_append, if_true, hd]
  simp only [List.count_singleton, beq_iff_eq, hnot, if_false, if_true]
  omega

/-! ## Sigmas at the edges -/

/-- The first character that counts is a capital sigma, and no letter follows it. -/
def opensWithSigma (s : List Char) : Bool :=
  match s.dropWhile isCaseIgnorable with
  | [] => false
  | c :: rest => c == 'Σ' && !meetsCased rest

/-- The last character that counts is a capital sigma, and a letter stands before it. -/
def closesWithSigma (s : List Char) : Bool :=
  match s.reverse.dropWhile isCaseIgnorable with
  | [] => false
  | c :: rest => c == 'Σ' && meetsCased rest

theorem isCaseIgnorable_sigma : isCaseIgnorable 'Σ' = false := by
  decide +kernel

theorem opensWithSigma_iff {s : List Char} :
    opensWithSigma s = true ↔ ∃ a b, s = a ++ 'Σ' :: b ∧ (∀ c ∈ a, isCaseIgnorable c = true) ∧
      meetsCased b = false := by
  constructor
  · intro h
    unfold opensWithSigma at h
    split at h
    · cases h
    · rename_i c rest hs
      simp only [Bool.and_eq_true, beq_iff_eq, Bool.not_eq_true'] at h
      refine ⟨s.takeWhile isCaseIgnorable, rest, ?_, fun _ => List.mem_takeWhile_imp, h.2⟩
      rw [← h.1, ← hs, List.takeWhile_append_dropWhile]
  · rintro ⟨a, b, rfl, ha, hb⟩
    simp [opensWithSigma, List.dropWhile_append_of_pos ha, isCaseIgnorable_sigma, hb]

theorem closesWithSigma_iff {s : List Char} :
    closesWithSigma s = true ↔ ∃ a b, s = a ++ 'Σ' :: b ∧ meetsCased a.reverse = true ∧
      ∀ c ∈ b, isCaseIgnorable c = true := by
  constructor
  · intro h
    unfold closesWithSigma at h
    split at h
    · cases h
    · rename_i c rest hs
      simp only [Bool.and_eq_true, beq_iff_eq] at h
      refine ⟨rest.reverse, (s.reverse.takeWhile isCaseIgnorable).reverse, ?_, by simpa using h.2,
        fun x hx => List.mem_takeWhile_imp (List.mem_reverse.mp hx)⟩
      have hsplit := List.takeWhile_append_dropWhile (p := isCaseIgnorable) (l := s.reverse)
      rw [hs, h.1] at hsplit
      simpa using congrArg List.reverse hsplit.symm
  · rintro ⟨a, b, rfl, ha, hb⟩
    have hb' : ∀ c ∈ b.reverse, isCaseIgnorable c = true := fun c hc => hb c (List.mem_reverse.mp hc)
    simp [closesWithSigma, List.dropWhile_append_of_pos hb', isCaseIgnorable_sigma, ha]

/-- A text without such a sigma at its edges has the same small letters everywhere. -/
theorem lowerIn_eq_lower {s : List Char} (ho : opensWithSigma s = false)
    (hc : closesWithSigma s = false) (before after : List Char) :
    lowerIn before after s = lower s := by
  rw [lower_eq_lowerIn]
  refine lowerIn_congr fun a b e => ?_
  simp only [List.append_nil]
  by_cases ha : ∀ c ∈ a, isCaseIgnorable c = true
  · -- a letter follows, so that the sigma is `σ` in either case
    have hb : meetsCased b = true := by
      cases hb : meetsCased b with
      | true => rfl
      | false =>
        rw [opensWithSigma_iff.mpr ⟨a, b, e, ha, hb⟩] at ho
        cases ho
    exact (sigmaForm_eq_inner_iff.mpr fun _ => meetsCased_append_of_cased hb after).trans
      (sigmaForm_eq_inner_iff.mpr fun _ => hb).symm
  · have ha' : ¬ ∀ c ∈ a.reverse, isCaseIgnorable c = true := by simpa using ha
    by_cases hb : ∀ c ∈ b, isCaseIgnorable c = true
    · have hfirst : meetsCased a.reverse = false := by
        cases hm : meetsCased a.reverse with
        | false => rfl
        | true =>
          rw [closesWithSigma_iff.mpr ⟨a, b, e, hm, hb⟩] at hc
          cases hc
      have hinner : ∀ x y, meetsCased x = false → sigmaForm x y = 'σ' := fun x y hx =>
        sigmaForm_eq_inner_iff.mpr fun h => by
          rw [hx] at h
          cases h
      rw [hinner _ b hfirst, hinner _ _ (by rw [meetsCased_append_of_counting ha', hfirst])]
    · exact sigmaForm_congr (meetsCased_append_of_counting ha' before)
        (meetsCased_append_of_counting hb after)

/-- Nor does it matter what stands around a text if it is no letter. -/
theorem lowerIn_eq_lower_apart {before after : List Char} (hb : meetsCased before = false)
    (ha : meetsCased after = false) (s : List Char) : lowerIn before after s = lower s := by
  rw [lower_eq_lowerIn]
  exact lowerIn_congr fun a b _ => sigmaForm_congr
    (by rw [meetsCased_append_of_not hb, List.append_nil])
    (by rw [meetsCased_append_of_not ha, List.append_nil])

/-! ## Texts that are missed -/

theorem meetsCased_letter : meetsCased ['a'] = true := by
  decide +kernel

/-- Behind a letter, the sigma that opens the text is a final one. -/
theorem not_infix_of_opensWithSigma {s : List Char} (h : opensWithSigma s = true) :
    ¬ lower s <:+: lower ('a' :: s) := by
  obtain ⟨a, b, rfl, ha, hb⟩ := opensWithSigma_iff.mp h
  have ha' : ∀ c ∈ a.reverse, isCaseIgnorable c = true := by simpa using ha
  have hform : sigmaForm (a.reverse ++ ['a']) (b ++ []) = 'ς' :=
    sigmaForm_eq_final_iff.mpr
      ⟨by rw [meetsCased_append_of_ignorable ha', meetsCased_letter], by simpa using hb⟩
  have hlt : (lowerIn ['a'] [] (a ++ 'Σ' :: b)).count 'σ' < (lower (a ++ 'Σ' :: b)).count 'σ' := by
    rw [lower_eq_lowerIn]
    refine count_lowerIn_lt (fun x y _ hx => ?_) (by rw [hform]; decide) ?_
    · rw [sigmaForm_eq_inner_iff] at hx ⊢
      intro hc
      rw [List.append_nil] at hc
      exact hx (meetsCased_append_of_cased hc ['a'])
    · rw [sigmaForm_eq_inner_iff, List.append_nil, meetsCased_of_ignorable ha']
      intro hc
      cases hc
  intro hin
  have hle := hin.sublist.count_le 'σ'
  have hall : lower ('a' :: (a ++ 'Σ' :: b)) = 'a' :: lowerIn ['a'] [] (a ++ 'Σ' :: b) := by
    rw [lower_eq_lowerIn, lowerIn, if_neg (by decide), show lowerChar 'a' = ['a'] by decide +kernel]
    rfl
  rw [hall, List.count_cons_of_ne (by decide)] at hle
  omega

/-- Before a letter, the sigma that closes the text is no final one. -/
theorem not_infix_of_closesWithSigma {s : List Char} (h : closesWithSigma s = true) :
    ¬ lower s <:+: lower (s ++ ['a']) := by
  obtain ⟨a, b, rfl, ha, hb⟩ := closesWithSigma_iff.mp h
  have hform : sigmaForm (a.reverse ++ []) (b ++ ['a']) = 'σ' :=
    sigmaForm_eq_inner_iff.mpr fun _ => by
      rw [meetsCased_append_of_ignorable hb, meetsCased_letter]
  have hlt : (lowerIn [] ['a'] (a ++ 'Σ' :: b)).count 'ς' < (lower (a ++ 'Σ' :: b)).count 'ς' := by
    rw [lower_eq_lowerIn]
    refine count_lowerIn_lt (fun x y _ hx => ?_) (by rw [hform]; decide) ?_
    · rw [sigmaForm_eq_final_iff] at hx ⊢
      refine ⟨hx.1, ?_⟩
      cases hc : meetsCased y with
      | false => simpa using hc
      | true =>
        rw [meetsCased_append_of_cased hc] at hx
        cases hx.2
    · exact sigmaForm_eq_final_iff.mpr
        ⟨by simpa using ha, by simpa using meetsCased_of_ignorable hb⟩
  intro hin
  have hle := hin.sublist.count_le 'ς'
  have hall : lower (a ++ 'Σ' :: b ++ ['a']) = lowerIn [] ['a'] (a ++ 'Σ' :: b) ++ ['a'] := by
    rw [lower_eq_lowerIn, lowerIn_append, lowerIn, if_neg (by decide),
      show lowerChar 'a' = ['a'] by decide +kernel]
    rfl
  rw [hall, List.count_append, List.count_singleton, if_neg (by decide)] at hle
  omega

end Lodging.Text
