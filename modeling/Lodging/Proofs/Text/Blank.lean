import Lodging.Text.Blank
import Mathlib.Data.List.TakeWhile

/-! # The ends of texts

What is dropped at an end of a text is all of one kind, and what is left is the same when it is dropped
again. -/

namespace Lodging.Text

theorem toNat_of_isDigit {c : Char} (h : c.isDigit = true) : 48 ≤ c.toNat ∧ c.toNat ≤ 57 := by
  simpa [Char.isDigit, UInt32.le_iff_toNat_le] using h

theorem isBlank_of_isDigit {c : Char} (h : c.isDigit = true) : isBlank c = false := by
  have hc := toNat_of_isDigit h
  simp only [isBlank, Bool.or_eq_false_iff, Bool.and_eq_false_iff, decide_eq_false_iff_not,
    beq_eq_false_iff_ne]
  omega

theorem trim_eq_self_of_forall {s : List Char} (h : ∀ c ∈ s, isBlank c = false) : trim s = s :=
  trim_eq_self (fun c hc => h c (List.mem_of_head? hc)) fun c hc => h c (List.mem_of_getLast? hc)

theorem getLast?_dropWhile {p : Char → Bool} {s : List Char} {c : Char}
    (h : c ∈ (s.dropWhile p).getLast?) : c ∈ s.getLast? := by
  rw [← List.takeWhile_append_dropWhile (p := p) (l := s), List.getLast?_append,
    Option.mem_def.mp h]
  rfl

theorem exists_dropTrailing (c : Char) (s : List Char) :
    ∃ k, s = dropTrailing c s ++ List.replicate k c := by
  let dropped := s.reverse.takeWhile (· == c)
  have hdropped : dropped = List.replicate dropped.length c :=
    List.eq_replicate_of_mem fun d hd => by simpa using List.mem_takeWhile_imp hd
  refine ⟨dropped.length, ?_⟩
  calc s = (dropped ++ s.reverse.dropWhile (· == c)).reverse := by
        rw [List.takeWhile_append_dropWhile, List.reverse_reverse]
    _ = dropTrailing c s ++ dropped.reverse := List.reverse_append
    _ = dropTrailing c s ++ List.replicate dropped.length c := by
        rw [hdropped, List.reverse_replicate, List.length_replicate]

theorem head?_dropWhile {p : Char → Bool} {s : List Char} {c : Char}
    (h : c ∈ (s.dropWhile p).head?) : p c = false := by
  have hstop := List.head?_dropWhile_not p s
  rw [Option.mem_def.mp h] at hstop
  simpa using hstop

/-- A trimmed text begins and ends with no blank. -/
theorem trim_trim (s : List Char) : trim (trim s) = trim s := by
  have hlast : ∀ c ∈ (trim s).getLast?, isBlank c = false := by
    intro c hc
    rw [trim, trimEnd, List.getLast?_reverse] at hc
    exact head?_dropWhile hc
  refine trim_eq_self (fun c hc => ?_) hlast
  have hhead : c ∈ (trimStart s).head? := by
    rw [trim, trimEnd, List.head?_reverse] at hc
    simpa using getLast?_dropWhile hc
  exact head?_dropWhile hhead

/-! ## Texts of blanks -/

def Blanks (s : List Char) : Prop := ∀ c ∈ s, isBlank c = true

instance (s : List Char) : Decidable (Blanks s) := decidable_of_iff (s.all isBlank = true) List.all_eq_true

theorem not_mem_of_blanks {b : List Char} (hb : Blanks b) {c : Char} (hc : isBlank c = false) :
    c ∉ b := fun h => by
  have hblank := hb c h
  rw [hc] at hblank
  cases hblank

theorem trimStart_append_cons {c : Char} (hc : isBlank c = false) (s t : List Char) :
    trimStart (s ++ c :: t) = trimStart s ++ c :: t := by
  rw [trimStart, trimStart, List.dropWhile_append]
  split
  · next h => rw [List.isEmpty_iff.mp h, List.dropWhile_cons_of_neg (by simp [hc])]; rfl
  · rfl

theorem trimEnd_append_cons {c : Char} (hc : isBlank c = false) (s t : List Char) :
    trimEnd (s ++ c :: t) = s ++ c :: trimEnd t := by
  have hstart := trimStart_append_cons hc t.reverse s.reverse
  unfold trimStart at hstart
  unfold trimEnd
  simp [hstart]

/-- Trimming works on both sides of a character that is no blank. -/
theorem trim_append_cons {c : Char} (hc : isBlank c = false) (s t : List Char) :
    trim (s ++ c :: t) = trimStart s ++ c :: trimEnd t := by
  rw [trim, trimStart_append_cons hc, trimEnd_append_cons hc]

theorem trim_append_left {b : List Char} (hb : Blanks b) (s : List Char) : trim (b ++ s) = trim s := by
  rw [trim, trim, trimStart, trimStart, List.dropWhile_append_of_pos hb]

theorem trimEnd_append_right {b : List Char} (hb : Blanks b) (s : List Char) :
    trimEnd (s ++ b) = trimEnd s := by
  have hrev : ∀ c ∈ b.reverse, isBlank c = true := fun c hc => hb c (List.mem_reverse.mp hc)
  rw [trimEnd, trimEnd, List.reverse_append, List.dropWhile_append_of_pos hrev]

theorem trim_append_right {b : List Char} (hb : Blanks b) (s : List Char) : trim (s ++ b) = trim s := by
  unfold trim trimStart
  rw [List.dropWhile_append]
  split
  · next h => rw [List.isEmpty_iff.mp h, List.dropWhile_eq_nil_iff.mpr hb]
  · exact trimEnd_append_right hb _

theorem trim_trimStart (s : List Char) : trim (trimStart s) = trim s := by
  have hb : Blanks (s.takeWhile isBlank) := fun _ hc => List.mem_takeWhile_imp hc
  have h := trim_append_left hb (trimStart s)
  rw [trimStart, List.takeWhile_append_dropWhile] at h
  exact h.symm

theorem trim_trimEnd (s : List Char) : trim (trimEnd s) = trim s := by
  have hb : Blanks (s.reverse.takeWhile isBlank).reverse :=
    fun _ hc => List.mem_takeWhile_imp (List.mem_reverse.mp hc)
  have h := trim_append_right hb (trimEnd s)
  rw [trimEnd, ← List.reverse_append, List.takeWhile_append_dropWhile, List.reverse_reverse] at h
  exact h.symm

theorem mem_of_mem_trim {c : Char} {s : List Char} (h : c ∈ trim s) : c ∈ s := by
  have hstart : c ∈ trimStart s := by
    rw [trim, trimEnd, List.mem_reverse] at h
    exact List.mem_reverse.mp ((List.dropWhile_sublist _).subset h)
  exact (List.dropWhile_sublist _).subset hstart

theorem trim_eq_nil_iff {s : List Char} : trim s = [] ↔ Blanks s := by
  constructor
  · intro h
    rw [trim, trimEnd, List.reverse_eq_nil_iff, List.dropWhile_eq_nil_iff] at h
    cases hs : trimStart s with
    | nil => exact List.dropWhile_eq_nil_iff.mp hs
    | cons c rest =>
      -- the first character that is left is no blank
      have hc : isBlank c = false := head?_dropWhile (by rw [← trimStart, hs]; rfl)
      have hblank := h c (by rw [hs]; simp)
      rw [hc] at hblank
      cases hblank
  · intro h
    rw [trim, trimStart, List.dropWhile_eq_nil_iff.mpr h]
    rfl

end Lodging.Text
