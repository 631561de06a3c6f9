import Lodging.Calendar.Line

/-! # Folded lines

A line may be written with any number of line breaks in it, each followed by a blank. Lines that are
written so one after another, whichever way each of them ends, are the logical lines of the text. A
piece of a line goes on where the piece before it ended, and the first piece of the next line begins
with no blank, so the pieces of different lines do not run into each other. -/

namespace Lodging.Calendar

def IsBreak (b : List Char) : Prop := b = ['\n'] ∨ b = ['\r', '\n']

/-- The line is written as the text: with line breaks at any of its characters, each of them followed by
a blank. -/
inductive Folded : List Char → List Char → Prop
  | nil : Folded [] []
  | char (c : Char) {line text : List Char} : Folded line text → Folded (c :: line) (c :: text)
  | fold (blank : Char) {line text b : List Char} : IsBreak b → isFold blank = true →
      Folded line text → Folded line (b ++ blank :: text)

inductive Written : List (List Char) → List Char → Prop
  | nil : Written [] []
  | line {lines : List (List Char)} {line text b rest : List Char} : Folded line text → IsBreak b →
      Written lines rest → Written (line :: lines) (text ++ b ++ rest)

def Unbroken (line : List Char) : Prop := '\r' ∉ line ∧ '\n' ∉ line

instance (line : List Char) : Decidable (Unbroken line) :=
  inferInstanceAs (Decidable ('\r' ∉ line ∧ '\n' ∉ line))

/-- Such a line can be folded: it does not begin like a continuation. -/
structure Foldable (line : List Char) : Prop where
  unbroken : Unbroken line
  head : ∀ c ∈ line.head?, isFold c = false

theorem foldable_iff {line : List Char} :
    Foldable line ↔ Unbroken line ∧ line.head?.all (!isFold ·) = true := by
  have hhead : line.head?.all (!isFold ·) = true ↔ ∀ c ∈ line.head?, isFold c = false := by
    cases line.head? <;> simp
  rw [hhead]
  exact ⟨fun h => ⟨h.unbroken, h.head⟩, fun h => ⟨h.1, h.2⟩⟩

instance (line : List Char) : Decidable (Foldable line) := decidable_of_iff _ foldable_iff.symm

/-- A line may be written as it is. -/
theorem folded_self : ∀ line : List Char, Folded line line
  | [] => .nil
  | c :: line => .char c (folded_self line)

theorem Folded.append {line₁ text₁ line₂ text₂ : List Char} (h₁ : Folded line₁ text₁)
    (h₂ : Folded line₂ text₂) : Folded (line₁ ++ line₂) (text₁ ++ text₂) := by
  induction h₁ with
  | nil => exact h₂
  | char c _ ih => exact .char c ih
  | fold blank hb hblank _ ih =>
    rw [List.append_assoc, List.cons_append]
    exact .fold blank hb hblank ih

/-! ## Pieces of a line -/

theorem dropReturn_eq_self {line : List Char} (h : '\r' ∉ line) : dropReturn line = line := by
  unfold dropReturn
  split
  · next rest hr =>
    have hmem : '\r' ∈ line.reverse := hr ▸ List.mem_cons_self
    exact absurd (List.mem_reverse.mp hmem) h
  · rfl

/-- A line break ends the piece before it. -/
theorem physicalFrom_break {b current : List Char} (hb : IsBreak b) (h : '\r' ∉ current)
    (rest : List Char) :
    physicalFrom current (b ++ rest) = current.reverse :: physicalFrom [] rest := by
  have hrev : '\r' ∉ current.reverse := mt List.mem_reverse.mp h
  rcases hb with rfl | rfl
  · show dropReturn (dropReturn current.reverse) :: _ = _
    rw [dropReturn_eq_self hrev, dropReturn_eq_self hrev]
    rfl
  · have hreturn : dropReturn ('\r' :: current).reverse = current.reverse := by
      simp [dropReturn]
    show dropReturn (dropReturn ('\r' :: current).reverse) :: _ = _
    rw [hreturn, dropReturn_eq_self hrev]
    rfl

theorem physicalFrom_char {c : Char} (hc : c ≠ '\n') (current rest : List Char) :
    physicalFrom current (c :: rest) = physicalFrom (c :: current) rest := by
  rw [physicalFrom, if_neg hc]

theorem ne_of_isFold {blank : Char} (h : isFold blank = true) : blank ≠ '\n' ∧ blank ≠ '\r' := by
  constructor <;> rintro rfl <;> cases h

/-- The physical lines of a folded line: its first piece, which is a part of it, and others that carry
it on. -/
theorem physicalFrom_folded {line text : List Char} (h : Folded line text) (hline : Unbroken line)
    {current : List Char} (hcurrent : '\r' ∉ current) {b : List Char} (hb : IsBreak b)
    (rest : List Char) : ∃ first folds,
      physicalFrom current (text ++ b ++ rest) =
        (current.reverse ++ first) :: (folds ++ physicalFrom [] rest) ∧
      first <+: line ∧ ∀ before more,
        joinFrom (before ++ first) (folds ++ more) = joinFrom (before ++ line) more := by
  induction h generalizing current with
  | nil =>
    refine ⟨[], [], ?_, List.prefix_refl _, fun _ _ => rfl⟩
    rw [List.nil_append, physicalFrom_break hb hcurrent]
    simp
  | @char c line text _ ih =>
    obtain ⟨hr, hn⟩ := hline
    have hc : c ≠ '\r' ∧ c ≠ '\n' :=
      ⟨fun he => hr (he ▸ List.mem_cons_self), fun he => hn (he ▸ List.mem_cons_self)⟩
    have hcurrent' : '\r' ∉ c :: current := by
      simpa using ⟨hc.1.symm, hcurrent⟩
    obtain ⟨first, folds, hlines, hfirst, hjoin⟩ :=
      ih ⟨fun hm => hr (List.mem_cons_of_mem _ hm), fun hm => hn (List.mem_cons_of_mem _ hm)⟩ hcurrent'
    refine ⟨c :: first, folds, ?_, (List.prefix_cons_inj c).mpr hfirst, fun before more => ?_⟩
    · show physicalFrom current (c :: (text ++ b ++ rest)) = _
      rw [physicalFrom_char hc.2, hlines]
      simp
    · rw [List.append_cons, List.append_cons before c line]
      exact hjoin _ more
  | @fold blank line text b' hb' hblank _ ih =>
    obtain ⟨hn, hr⟩ := ne_of_isFold hblank
    have hcurrent' : '\r' ∉ [blank] := by simpa using hr.symm
    obtain ⟨first, folds, hlines, -, hjoin⟩ := ih hline hcurrent'
    refine ⟨[], (blank :: first) :: folds, ?_, List.nil_prefix, fun before more => ?_⟩
    · rw [List.append_assoc, List.append_assoc, physicalFrom_break hb' hcurrent, List.cons_append,
        physicalFrom_char hn, ← List.append_assoc, hlines]
      simp
    · rw [List.append_nil, List.cons_append, joinFrom, if_pos hblank]
      exact hjoin before more

/-! ## Lines of a text -/

/-- What begins with no blank is a line of its own. -/
theorem joinFrom_cons {line : List Char} (h : ∀ c ∈ line.head?, isFold c = false)
    (current : List Char) (lines : List (List Char)) :
    joinFrom current (line :: lines) = current :: joinFrom line lines := by
  cases line with
  | nil => rfl
  | cons c rest => rw [joinFrom, if_neg (by simpa using h c rfl)]

theorem Foldable.head_of_prefix {first line : List Char} (h : Foldable line) (hp : first <+: line) :
    ∀ c ∈ first.head?, isFold c = false := by
  intro c hc
  obtain ⟨rest, rfl⟩ := hp
  cases first with
  | nil => cases hc
  | cons d first => exact h.head c hc

theorem joinFrom_written {lines : List (List Char)} {text : List Char} (h : Written lines text)
    (hlines : ∀ line ∈ lines, Foldable line) (current : List Char) :
    joinFrom current (physicalFrom [] text) = current :: lines := by
  induction h generalizing current with
  | nil => rfl
  | @line lines line text b rest hfolded hb _ ih =>
    obtain ⟨hline, hlines⟩ := List.forall_mem_cons.mp hlines
    obtain ⟨first, folds, hphysical, hfirst, hjoin⟩ :=
      physicalFrom_folded hfolded hline.unbroken List.not_mem_nil hb rest
    have hjoin := hjoin [] (physicalFrom [] rest)
    rw [List.nil_append, List.nil_append] at hjoin
    rw [hphysical, List.reverse_nil, List.nil_append, joinFrom_cons (hline.head_of_prefix hfirst),
      hjoin, ih hlines]

/-- However lines are folded and ended, they are the logical lines of the text. -/
theorem logicalLines_written {lines : List (List Char)} {text : List Char}
    (h : Written lines text) (hlines : ∀ line ∈ lines, Foldable line) : logicalLines text = lines := by
  cases h with
  | nil => rfl
  | @line lines line text b rest hfolded hb hrest =>
    obtain ⟨hline, hlines⟩ := List.forall_mem_cons.mp hlines
    obtain ⟨first, folds, hphysical, -, hjoin⟩ :=
      physicalFrom_folded hfolded hline.unbroken List.not_mem_nil hb rest
    have hjoin := hjoin [] (physicalFrom [] rest)
    rw [List.nil_append, List.nil_append] at hjoin
    rw [logicalLines, physicalLines, hphysical]
    exact hjoin.trans (joinFrom_written hrest hlines line)

end Lodging.Calendar
