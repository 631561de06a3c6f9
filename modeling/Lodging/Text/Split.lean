/-!
# Cutting at a separator

`cut? sep s` parts a text at the first separator. What it returns, put together again with the
separator in between, is the text.
-/

namespace Lodging.Text

/-- The parts before and after the first `sep`; `none` when there is none. -/
def cut? (sep : Char) : List Char → Option (List Char × List Char)
  | [] => none
  | c :: rest =>
    if c = sep then some ([], rest) else (cut? sep rest).map fun (a, b) => (c :: a, b)

theorem eq_append_of_cut? {sep : Char} {s a b : List Char} (h : cut? sep s = some (a, b)) :
    s = a ++ sep :: b := by
  induction s generalizing a with
  | nil => simp [cut?] at h
  | cons c rest ih =>
    by_cases hc : c = sep
    · simp only [cut?, if_pos hc, Option.some.injEq, Prod.mk.injEq] at h
      simp [← h.1, ← h.2, hc]
    · simp only [cut?, if_neg hc, Option.map_eq_some_iff, Prod.exists, Prod.mk.injEq] at h
      obtain ⟨a', b', h', rfl, rfl⟩ := h
      simp [ih h']

theorem cut?_append {sep : Char} {a : List Char} (b : List Char) (h : sep ∉ a) :
    cut? sep (a ++ sep :: b) = some (a, b) := by
  induction a with
  | nil => simp [cut?]
  | cons c rest ih =>
    have hc : c ≠ sep := fun e => h (by simp [e])
    simp [cut?, hc, ih fun m => h (by simp [m])]

theorem cut?_eq_none {sep : Char} {s : List Char} (h : sep ∉ s) : cut? sep s = none := by
  induction s with
  | nil => rfl
  | cons c rest ih =>
    have hc : c ≠ sep := fun e => h (by simp [e])
    simp [cut?, hc, ih fun m => h (by simp [m])]

theorem not_mem_of_cut?_none {sep : Char} {s : List Char} (h : cut? sep s = none) : sep ∉ s := by
  induction s with
  | nil => exact List.not_mem_nil
  | cons c rest ih =>
    by_cases hc : c = sep
    · simp [cut?, hc] at h
    · simp only [cut?, if_neg hc, Option.map_eq_none_iff] at h
      simp only [List.mem_cons, not_or]
      exact ⟨fun e => hc e.symm, ih h⟩

theorem not_mem_of_cut? {sep : Char} {s a b : List Char} (h : cut? sep s = some (a, b)) :
    sep ∉ a := by
  induction s generalizing a with
  | nil => simp [cut?] at h
  | cons c rest ih =>
    by_cases hc : c = sep
    · simp only [cut?, if_pos hc, Option.some.injEq, Prod.mk.injEq] at h
      simp [← h.1]
    · simp only [cut?, if_neg hc, Option.map_eq_some_iff, Prod.exists, Prod.mk.injEq] at h
      obtain ⟨a', b', h', rfl, rfl⟩ := h
      simp only [List.mem_cons, not_or]
      exact ⟨fun e => hc e.symm, ih h'⟩

end Lodging.Text
