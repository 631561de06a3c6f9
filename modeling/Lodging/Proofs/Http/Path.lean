import Lodging.Http.Path
import Lodging.Proofs.Http.Percent

/-! # What is put behind a path

Names that are put behind a path of the web, each after a slash, become its last segments as they are,
behind what the path comes to when its slashes at the end do not count (`stem`). A component is such a
name whatever it is made from, save one dot and two dots, which are written as they are and then are
resolved. -/

namespace Lodging.Http.Path

def names : Path → List (List Char)
  | .rootless text => [text]
  | .segments names => names

/-! ## Dots -/

theorem plainDots_cons_of_ne {c : Char} (hc : c ≠ '%') (rest : List Char) :
    plainDots (c :: rest) = c :: plainDots rest := by
  rw [plainDots]
  rintro _ _ rfl -
  exact hc rfl

theorem plainDots_percent {a b : Char} (hdot : ¬ (a = '2' ∧ (b = 'e' ∨ b = 'E'))) (ha : a ≠ '%')
    (hb : b ≠ '%') (rest : List Char) :
    plainDots ('%' :: a :: b :: rest) = '%' :: a :: b :: plainDots rest := by
  have hrest : plainDots (b :: rest) = b :: plainDots rest := plainDots_cons_of_ne hb rest
  by_cases h2 : a = '2'
  · subst h2
    rw [plainDots, if_neg fun h => hdot ⟨rfl, h⟩, hrest]
  · rw [plainDots, plainDots_cons_of_ne ha, hrest]
    rintro _ _ - h
    exact h2 (List.cons.inj h).1

theorem plainDots_encodeByte {b : UInt8} (hb : b.toNat ≠ '.'.toNat) (rest : List Char) :
    plainDots (Percent.encodeByte b ++ rest) = Percent.encodeByte b ++ plainDots rest := by
  obtain ⟨hhigh, hlow⟩ := Percent.byte_digits b
  have hne : ∀ d < 16, Text.hexChar 'A' d ≠ '%' ∧ Text.hexChar 'A' d ≠ 'e' := by decide
  refine plainDots_percent ?_ (hne _ hhigh).1 (hne _ hlow).1 rest
  rintro ⟨h2, he | hE⟩
  · exact (hne _ hlow).2 he
  · have hdiv := Text.hexChar_inj (by decide) (e := 2) hhigh (by decide) h2
    have hmod := Text.hexChar_inj (by decide) (e := 14) hlow (by decide) hE
    have hdot : '.'.toNat = 46 := rfl
    omega

theorem plainDots_encodeBytes {bs : List UInt8} (hbs : ∀ b ∈ bs, b.toNat ≠ '.'.toNat)
    (rest : List Char) :
    plainDots (bs.flatMap Percent.encodeByte ++ rest) =
      bs.flatMap Percent.encodeByte ++ plainDots rest := by
  induction bs with
  | nil => rfl
  | cons b bs ih =>
    rw [List.flatMap_cons, List.append_assoc, plainDots_encodeByte (hbs b List.mem_cons_self),
      ih fun b' hb' => hbs b' (List.mem_cons_of_mem _ hb'), List.append_assoc]

/-- In a component no dot is encoded. -/
theorem plainDots_component (s : List Char) :
    plainDots (Percent.component s) = Percent.component s := by
  induction s with
  | nil => rfl
  | cons c rest ih =>
    have hcons : Percent.component (c :: rest) =
        Percent.encodeChar Percent.isUnreserved c ++ Percent.component rest := rfl
    rw [hcons, Percent.encodeChar]
    split
    · next hc =>
      have hne : c ≠ '%' := by
        rintro rfl
        cases hc
      rw [List.singleton_append, plainDots_cons_of_ne hne, ih]
    · next hc =>
      have hbytes : ∀ b ∈ String.utf8EncodeChar c, b.toNat ≠ '.'.toNat := fun b hb =>
        Percent.toNat_ne_of_not_unreserved (by simpa using hc) (by decide) hb
      rw [plainDots_encodeBytes hbytes, ih]

theorem isDot_component {s : List Char} : isDot (Percent.component s) = true ↔ s = ['.'] := by
  have hdot : Percent.component ['.'] = ['.'] := by decide
  rw [isDot, plainDots_component, beq_iff_eq, ← hdot, Percent.component_inj, hdot]

theorem isDoubleDot_component {s : List Char} :
    isDoubleDot (Percent.component s) = true ↔ s = ['.', '.'] := by
  have hdots : Percent.component ['.', '.'] = ['.', '.'] := by decide
  rw [isDoubleDot, plainDots_component, beq_iff_eq, ← hdots, Percent.component_inj, hdots]

/-! ## Names -/

/-- A text that is a segment as it stands. -/
structure IsName (s : List Char) : Prop where
  kept : ∀ c ∈ s, keepsInSegment c = true ∧ isSlash .web c = false
  notDot : isDot s = false
  notDoubleDot : isDoubleDot s = false

theorem kept_of_isUnreserved {c : Char} (h : c = '%' ∨ Percent.isUnreserved c = true) :
    keepsInSegment c = true ∧ isSlash .web c = false := by
  have hascii : ∀ n < 128, Char.ofNat n = '%' ∨ Percent.isUnreserved (Char.ofNat n) = true →
      keepsInSegment (Char.ofNat n) = true ∧ isSlash .web (Char.ofNat n) = false := by decide
  have hlt : c.toNat < 128 := by
    rcases h with rfl | h
    · decide
    · exact Percent.toNat_lt_of_isUnreserved h
  have hc := hascii c.toNat hlt
  rw [Char.ofNat_toNat] at hc
  exact hc h

theorem isName_component {s : List Char} (hdot : s ≠ ['.']) (hdots : s ≠ ['.', '.']) :
    IsName (Percent.component s) where
  kept := fun _ hc => kept_of_isUnreserved (Percent.mem_component hc)
  notDot := by
    rw [← Bool.not_eq_true, isDot_component]
    exact hdot
  notDoubleDot := by
    rw [← Bool.not_eq_true, isDoubleDot_component]
    exact hdots

theorem IsName.place {s : List Char} (hs : IsName s) (done : List (List Char)) :
    place .web done s = s :: done := by
  rw [Path.place, Percent.encode_eq_self fun c hc => (hs.kept c hc).1]
  all_goals simp

/-! ## Resolving -/

/-- What a segment that others follow makes of those before, last first. -/
def enter (done : List (List Char)) (s : List Char) : List (List Char) :=
  if isDoubleDot s then back done else if isDot s then done else place .web done s

theorem resolveFrom_cons {rest : List (List Char)} (hrest : rest ≠ []) (done : List (List Char))
    (s : List Char) : resolveFrom .web done (s :: rest) = resolveFrom .web (enter done s) rest := by
  cases rest with
  | nil => exact absurd rfl hrest
  | cons t rest =>
    rw [resolveFrom, enter]
    · split
      · rfl
      · split <;> rfl
    · simp

theorem resolveFrom_append {rest : List (List Char)} (hrest : rest ≠ []) (done : List (List Char))
    (ss : List (List Char)) :
    resolveFrom .web done (ss ++ rest) = resolveFrom .web (ss.foldl enter done) rest := by
  induction ss generalizing done with
  | nil => rfl
  | cons s ss ih => rw [List.cons_append, resolveFrom_cons (by simp [hrest]), ih, List.foldl_cons]

/-- A last segment stays behind those before it, except that dots are resolved and leave an empty one. -/
theorem resolveFrom_singleton (done : List (List Char)) (s : List Char) :
    ∃ k, resolveFrom .web done [s] = (enter done s).reverse ++ List.replicate k [] := by
  rw [resolveFrom, enter]
  split
  · exact ⟨1, by simp⟩
  · split
    · exact ⟨1, by simp⟩
    · exact ⟨0, by simp⟩

theorem resolveFrom_names {names : List (List Char)} (hnames : ∀ s ∈ names, IsName s)
    (done : List (List Char)) : resolveFrom .web done names = done.reverse ++ names := by
  induction names generalizing done with
  | nil => simp [resolveFrom]
  | cons s names ih =>
    have hs := hnames s List.mem_cons_self
    by_cases hrest : names = []
    · simp [hrest, resolveFrom, hs.notDot, hs.notDoubleDot, hs.place]
    · rw [resolveFrom_cons hrest, ih fun t ht => hnames t (List.mem_cons_of_mem _ ht), enter,
        hs.notDot, hs.notDoubleDot]
      simp [hs.place]

/-! ## Segments behind a text -/

/-- A text behind whose last slash there is something that stays. -/
def endsInName (text : List Char) : Bool :=
  (split .web text).getLast?.any fun s => !s.isEmpty && !isDot s && !isDoubleDot s

/-- What the text behind an authority comes to, when a slash and more segments follow. -/
def stem : List Char → List (List Char)
  | [] => []
  | _ :: text => ((split .web text).foldl enter []).reverse

section

variable {segments : List (List Char)} (hsegments : ∀ s ∈ segments, ∀ c ∈ s, isSlash .web c = false)
include hsegments

theorem split_append (text : List Char) :
    split .web (text ++ segments.flatMap ('/' :: ·)) = split .web text ++ segments := by
  induction segments generalizing text with
  | nil => simp
  | cons s segments ih =>
    have hs : split .web (text ++ '/' :: s) = split .web text ++ [s] := by
      refine (List.splitOnP_append_cons text s rfl).trans (congrArg (_ ++ ·) ?_)
      exact List.splitOnP_eq_singleton (hsegments s List.mem_cons_self)
    have hmore := ih (fun t ht => hsegments t (List.mem_cons_of_mem _ ht)) (text ++ '/' :: s)
    rw [List.flatMap_cons, ← List.append_assoc, hmore, hs, List.append_assoc]
    rfl

theorem ofText_append (hne : segments ≠ []) (rest : List Char) :
    ofText .web ((rest ++ segments.flatMap ('/' :: ·)).drop 1) =
      .segments (resolveFrom .web (stem rest).reverse segments) := by
  cases rest with
  | nil =>
    cases segments with
    | nil => exact absurd rfl hne
    | cons s segments =>
      have hsplit : split .web (s ++ segments.flatMap ('/' :: ·)) = s :: segments := by
        rw [split_append fun t ht => hsegments t (List.mem_cons_of_mem _ ht)]
        exact congrArg (· ++ segments)
          (List.splitOnP_eq_singleton (hsegments s List.mem_cons_self))
      show Path.segments (resolveFrom .web [] (split .web (s ++ segments.flatMap ('/' :: ·)))) = _
      rw [hsplit]
      rfl
  | cons c text =>
    show Path.segments (resolveFrom .web [] (split .web (text ++ segments.flatMap ('/' :: ·)))) = _
    rw [split_append hsegments, resolveFrom_append hne, stem, List.reverse_reverse]

end

theorem ofText_names {names : List (List Char)} (hnames : ∀ s ∈ names, IsName s) (hne : names ≠ [])
    (rest : List Char) :
    ofText .web ((rest ++ names.flatMap ('/' :: ·)).drop 1) = .segments (stem rest ++ names) := by
  rw [ofText_append (fun s hs c hc => ((hnames s hs).kept c hc).2) hne, resolveFrom_names hnames,
    List.reverse_reverse]

/-- A dot behind a name stands for an empty segment, and two dots take the name away with it. -/
theorem ofText_dots {s : List Char} (hs : IsName s) (hfixed : isFixed s = false) (rest : List Char) :
    ofText .web ((rest ++ [s, ['.']].flatMap ('/' :: ·)).drop 1) = .segments (stem rest ++ [s, []]) ∧
      ofText .web ((rest ++ [s, ['.', '.']].flatMap ('/' :: ·)).drop 1) =
        .segments (stem rest ++ [[]]) := by
  have hresolve : ∀ dots, resolveFrom .web (stem rest).reverse [s, dots] =
      resolveFrom .web (s :: (stem rest).reverse) [dots] := by
    intro dots
    rw [resolveFrom_cons (by simp), enter, hs.notDot, hs.notDoubleDot, hs.place]
    rfl
  have hslash : ∀ dots : List Char, (∀ c ∈ dots, c = '.') →
      ∀ t ∈ [s, dots], ∀ c ∈ t, isSlash .web c = false := by
    intro dots hdots t ht c hc
    simp only [List.mem_cons, List.not_mem_nil, or_false] at ht
    rcases ht with rfl | rfl
    · exact (hs.kept c hc).2
    · rw [hdots c hc]
      rfl
  constructor
  · rw [ofText_append (hslash _ (by simp)) (by simp), hresolve, resolveFrom]
    simp [show isDoubleDot ['.'] = false by decide, show isDot ['.'] = true by decide]
  · rw [ofText_append (hslash _ (by simp)) (by simp), hresolve, resolveFrom]
    simp [show isDoubleDot ['.', '.'] = true by decide, back, hfixed]

theorem exists_split_eq (text : List Char) :
    ∃ before last, split .web text = before ++ [last] := by
  have hne : split .web text ≠ [] := List.splitOnP_ne_nil _ _
  exact ⟨_, _, (List.dropLast_concat_getLast hne).symm⟩

theorem isName_nil : IsName [] := ⟨by simp, by decide, by decide⟩

/-- Slashes at the end are empty segments, and so is what dots at the end come to. -/
theorem ofText_slashes (rest : List Char) (k : Nat) :
    ∃ j, ofText .web ((rest ++ List.replicate k '/').drop 1) =
      .segments (stem rest ++ List.replicate j []) := by
  cases k with
  | succ k =>
    have hslashes : List.replicate (k + 1) '/' =
        (List.replicate (k + 1) ([] : List Char)).flatMap ('/' :: ·) := by
      simp [List.flatMap_replicate]
    refine ⟨k + 1, ?_⟩
    rw [hslashes, ofText_names (fun s hs => List.eq_of_mem_replicate hs ▸ isName_nil) (by simp)]
  | zero =>
    cases rest with
    | nil => exact ⟨1, rfl⟩
    | cons c text =>
      obtain ⟨before, last, hsplit⟩ := exists_split_eq text
      obtain ⟨j, hj⟩ := resolveFrom_singleton (before.foldl enter []) last
      refine ⟨j, ?_⟩
      show Path.segments (resolveFrom .web [] (split .web (text ++ []))) = _
      rw [List.append_nil, hsplit, resolveFrom_append (by simp), hj, stem, hsplit, List.foldl_append]
      rfl

theorem endsInName_append (text : List Char) {c : Char} (hc : isSlash .web c = true)
    (rest : List Char) : endsInName (text ++ c :: rest) = endsInName rest := by
  have hsplit : split .web (text ++ c :: rest) = split .web text ++ split .web rest :=
    List.splitOnP_append_cons text rest hc
  obtain ⟨before, last, hlast⟩ := exists_split_eq rest
  simp [endsInName, hsplit, hlast, List.getLast?_append]

/-- Where a name ends the text, no slashes are left at the end of the stem. -/
theorem getLast?_stem_ne {c : Char} {text : List Char} (h : endsInName text = true) :
    (stem (c :: text)).getLast? ≠ some [] := by
  obtain ⟨before, last, hsplit⟩ := exists_split_eq text
  rw [endsInName, hsplit, List.getLast?_concat] at h
  simp only [Option.any_some, Bool.and_eq_true, Bool.not_eq_true', List.isEmpty_eq_false_iff] at h
  obtain ⟨⟨hne, hdot⟩, hdots⟩ := h
  have hplace : ∀ done, place .web done last = Percent.encode keepsInSegment last :: done := by
    intro done
    rw [place]
    all_goals simp
  rw [stem, hsplit, List.foldl_append, List.foldl_cons, List.foldl_nil, List.getLast?_reverse, enter,
    hdot, hdots, hplace]
  simpa [Percent.encode_eq_nil_iff] using hne

end Lodging.Http.Path
