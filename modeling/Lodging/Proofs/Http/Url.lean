import Lodging.Http.Url
import Lodging.Proofs.Http.Path
import Lodging.Proofs.Text.Blank
import Mathlib.Data.List.TakeDrop

/-! # What is put behind a URL

A text that begins with a slash and is put behind a URL of the web without query and fragment goes into
its path and changes nothing else, as long as it has no character in it that would end the path, or that
does not count. -/

namespace Lodging.Http.Url

/-- Whether all characters count wherever they stand in a URL, and none of them ends a path. -/
def Inner (s : List Char) : Prop := ∀ c ∈ s, 0x20 < c.toNat ∧ c ≠ '?' ∧ c ≠ '#'

theorem inner_slashes (k : Nat) : Inner (List.replicate k '/') := by
  intro c hc
  rw [List.eq_of_mem_replicate hc]
  decide

/-! ## Blanks and scheme -/

theorem clean_eq {s : List Char} (hs : ∀ c ∈ s.getLast?, 0x20 < c.toNat) :
    clean s = (s.dropWhile (·.toNat ≤ 0x20)).filter fun c => !(c == '\t' || c == '\n' || c == '\r') := by
  unfold clean
  dsimp only
  rw [Text.dropWhile_eq_self_of_head (s := (s.dropWhile _).reverse), List.reverse_reverse]
  intro c hc
  rw [List.head?_reverse] at hc
  simpa using hs c (Text.getLast?_dropWhile hc)

theorem clean_append {s more : List Char} (hs : ∀ c ∈ s.getLast?, 0x20 < c.toNat)
    (hmore : Inner more) : clean (s ++ more) = clean s ++ more := by
  have hlast : ∀ c ∈ (s ++ more).getLast?, 0x20 < c.toNat := by
    intro c hc
    rw [List.getLast?_append, Option.mem_def, Option.or_eq_some_iff] at hc
    rcases hc with hc | ⟨-, hc⟩
    · exact (hmore c (List.mem_of_getLast? hc)).1
    · exact hs c hc
  have hdrop : (s ++ more).dropWhile (fun c => decide (c.toNat ≤ 0x20)) =
      s.dropWhile (fun c => decide (c.toNat ≤ 0x20)) ++ more := by
    rw [List.dropWhile_append]
    split
    · next h =>
      rw [List.isEmpty_iff.mp h, List.nil_append]
      refine Text.dropWhile_eq_self_of_head fun c hc => ?_
      simpa using (hmore c (List.mem_of_head? hc)).1
    · rfl
  rw [clean_eq hlast, clean_eq hs, hdrop, List.filter_append]
  congr 1
  refine List.filter_eq_self.mpr fun c hc => ?_
  have hcode := (hmore c hc).1
  have hne : ∀ d : Char, d.toNat ≤ 0x20 → c ≠ d := fun d hd he => by
    rw [he] at hcode
    omega
  simp [hne '\t' (by decide), hne '\n' (by decide), hne '\r' (by decide)]

/-- What follows the scheme is not read with it. -/
theorem scheme?_append {s scheme rest : List Char} {k : Nat}
    (h : scheme? (s ++ List.replicate k '/') = some (scheme, rest)) :
    ∃ before text, s = before ++ text ∧ rest = text ++ List.replicate k '/' ∧
      ∀ more, scheme? (s ++ more) = some (scheme, text ++ more) := by
  unfold scheme? at h
  split at h
  · next c name rest' hcut =>
    split at h
    · next hname =>
      obtain ⟨rfl, rfl⟩ := Prod.mk.inj (Option.some.inj h)
      have hcolon : ':' ∉ List.replicate k '/' := fun hc => by
        cases List.eq_of_mem_replicate hc
      obtain ⟨text, rfl, rfl⟩ : ∃ text, s = (c :: name) ++ ':' :: text ∧
          rest' = text ++ List.replicate k '/' := by
        -- the first colon is none of the slashes at the end
        rcases List.append_eq_append_iff.mp (Text.eq_append_of_cut? hcut) with
          ⟨more, -, hmore⟩ | ⟨more, hs, hmore⟩
        · exact absurd (by simp [hmore]) hcolon
        · cases more with
          | nil =>
            rw [List.nil_append] at hmore
            exact absurd (hmore ▸ List.mem_cons_self) hcolon
          | cons d text =>
            obtain ⟨rfl, rfl⟩ := List.cons.inj hmore
            exact ⟨text, hs, rfl⟩
      refine ⟨c :: name ++ [':'], text, by simp, rfl, fun more => ?_⟩
      have hcut' : Text.cut? ':' ((c :: name) ++ ':' :: text ++ more) =
          some (c :: name, text ++ more) := by
        rw [List.append_assoc]
        exact Text.cut?_append _ (Text.not_mem_of_cut? hcut)
      rw [scheme?, hcut']
      exact if_pos hname
    · cases h
  · cases h

/-! ## Authority -/

theorem mem_of_cutUser? {s : List Char} {c : Char} (hc : c ∈ ((cutUser? s).getD ([], s)).2) :
    c ∈ s := by
  unfold cutUser? at hc
  cases hcut : Text.cut? '@' s.reverse with
  | none => simpa [hcut] using hc
  | some cut =>
    have hafter : c ∈ cut.1 := by simpa [hcut] using hc
    rw [← List.mem_reverse, Text.eq_append_of_cut? hcut]
    exact List.mem_append_left _ hafter

theorem mem_of_cutPort {s : List Char} {inBrackets : Bool} {c : Char}
    (hc : c ∈ (cutPort inBrackets s).2.getD []) : c ∈ s := by
  induction s generalizing inBrackets with
  | nil => cases hc
  | cons d rest ih =>
    rw [cutPort] at hc
    split at hc
    · exact List.mem_cons_of_mem _ hc
    · exact List.mem_cons_of_mem _ (ih hc)

theorem mem_of_port? {scheme s rest : List Char} {port : Option Nat}
    (h : port? scheme s = some (port, rest)) {c : Char} (hc : c ∈ rest) : c ∈ s := by
  have hrest : rest = (s.span Char.isDigit).2 := by
    unfold port? at h
    dsimp only at h
    split at h
    · exact (Prod.mk.inj (Option.some.inj h)).2.symm
    · split at h
      · exact (Prod.mk.inj (Option.some.inj h)).2.symm
      · cases h
  rw [hrest, List.span_eq_takeWhile_dropWhile] at hc
  exact (List.dropWhile_suffix _).subset hc

section

variable {scheme : List Char} (hkind : kind scheme = .web)
include hkind

/-- It does not matter to an authority whether something follows. -/
theorem authority?_followed (s : List Char) (followed : Bool) :
    authority? scheme s followed = authority? scheme s false := by
  by_cases hs : s = ['@']
  · subst hs
    have hhost : Host.ofWeb? (cutPort false ((cutUser? ['@']).getD ([], ['@'])).2).1 = none := by decide
    simp [authority?, hkind, hhost]
  · simp [authority?, hs]

/-- Without a backslash nothing of the text is left behind an authority. -/
theorem rest_of_authority? {s more : List Char} {a : Authority} (hs : '\\' ∉ s)
    (h : authority? scheme s false = some (a, more)) : more = [] := by
  simp only [authority?, hkind, Bool.and_false, Bool.false_eq_true, if_false, reduceCtorEq] at h
  obtain ⟨-, -, h⟩ := Option.bind_eq_some_iff.mp h
  obtain ⟨host, -, h⟩ := Option.bind_eq_some_iff.mp h
  obtain ⟨⟨port, rest⟩, hport, h⟩ := Option.bind_eq_some_iff.mp h
  have hrest : ∀ c ∈ rest, c ∈ s := fun c hc =>
    mem_of_cutUser? (mem_of_cutPort (mem_of_port? hport hc))
  split at h
  · cases h
  · split at h
    · next hend =>
      obtain rfl := (Prod.mk.inj (Option.some.inj h)).2
      rw [Bool.or_eq_true, List.isEmpty_iff, beq_iff_eq] at hend
      exact hend.resolve_right fun hhead => hs (hrest _ (List.mem_of_head? hhead))
    · cases h

end

/-! ## Path -/

theorem not_mem_of_cutTail {kind : SchemeKind} {s : List Char} (hquery : (cutTail kind s).query = none)
    (hfragment : (cutTail kind s).fragment = none) : '#' ∉ s ∧ '?' ∉ s := by
  unfold cutTail at hquery hfragment
  cases hnumber : Text.cut? '#' s with
  | some cut =>
    rw [hnumber] at hfragment
    dsimp only at hfragment
    split at hfragment <;> cases hfragment
  | none =>
    rw [hnumber] at hquery
    dsimp only at hquery
    split at hquery
    · cases hquery
    · next hmark => exact ⟨Text.not_mem_of_cut?_none hnumber, Text.not_mem_of_cut?_none hmark⟩

theorem cutTail_eq {kind : SchemeKind} {s : List Char} (hs : '#' ∉ s ∧ '?' ∉ s) :
    cutTail kind s = ⟨s, none, none⟩ := by
  rw [cutTail, Text.cut?_eq_none hs.1]
  dsimp only
  rw [Text.cut?_eq_none hs.2]

/-- A host is read up to the first character that ends it, and the rest is path, query and fragment. -/
theorem withAuthority?_eq {scheme : List Char} (hkind : kind scheme = .web) {host rest : List Char}
    (hhost : ∀ c ∈ host, endsAuthority .web c = false)
    (hrest : ∀ c ∈ rest.head?, endsAuthority .web c = true) :
    withAuthority? scheme (host ++ rest) = (authority? scheme host false).map fun (a, _) =>
      let t := cutTail .web rest
      { scheme, authority := some a, path := .ofText .web (t.rest.drop 1), query := t.query,
        fragment := t.fragment } := by
  have hspan : (host ++ rest).span (fun c => !endsAuthority .web c) = (host, rest) := by
    have hstop : rest.dropWhile (fun c => !endsAuthority .web c) = rest :=
      Text.dropWhile_eq_self_of_head fun c hc => by simp [hrest c hc]
    have hnone : rest.takeWhile (fun c => !endsAuthority .web c) = [] := by
      simpa [hstop] using List.takeWhile_append_dropWhile (p := fun c => !endsAuthority .web c) (l := rest)
    rw [List.span_eq_takeWhile_dropWhile, List.takeWhile_append_of_pos, List.dropWhile_append_of_pos,
      hstop, hnone, List.append_nil]
    all_goals exact fun c hc => by simp [hhost c hc]
  rw [withAuthority?, hkind]
  dsimp only
  rw [hspan]
  dsimp only
  rw [authority?_followed hkind]
  cases hauthority : authority? scheme host false with
  | none => rfl
  | some found =>
    obtain ⟨a, more⟩ := found
    obtain rfl := rest_of_authority? hkind (fun hc => by cases hhost _ hc) hauthority
    rfl

/-- What begins with a slash, or is nothing, and has no end of a path in it. -/
structure Behind (more : List Char) : Prop where
  inner : Inner more
  head : ∀ c ∈ more.head?, c = '/'

theorem behind_slashes (k : Nat) : Behind (List.replicate k '/') where
  inner := inner_slashes k
  head := fun _ hc => List.eq_of_mem_replicate (List.mem_of_head? hc)

theorem exists_host (s : List Char) : ∃ host rest, s = host ++ rest ∧
    (∀ c ∈ host, endsAuthority .web c = false) ∧ ∀ c ∈ rest.head?, endsAuthority .web c = true := by
  let inHost : Char → Bool := fun c => !endsAuthority .web c
  refine ⟨s.takeWhile inHost, s.dropWhile inHost, List.takeWhile_append_dropWhile.symm,
    fun c hc => ?_, fun c hc => ?_⟩
  · simpa [inHost] using List.mem_takeWhile_imp hc
  · simpa [inHost] using Text.head?_dropWhile hc

/-- What is put behind an authority and a path goes into the path. -/
theorem withAuthority?_append {scheme s : List Char} {k : Nat} {b : Url}
    (hkind : kind scheme = .web) (h : withAuthority? scheme (s ++ List.replicate k '/') = some b)
    (hquery : b.query = none) (hfragment : b.fragment = none) :
    ∃ host rest, s = host ++ rest ∧ (∀ c ∈ rest.head?, Path.isSlash .web c = true) ∧
      b.path = .ofText .web ((rest ++ List.replicate k '/').drop 1) ∧ ∀ more, Behind more →
        withAuthority? scheme (s ++ more) = some { b with path := .ofText .web ((rest ++ more).drop 1) } := by
  obtain ⟨host, rest, rfl, hhost, hrest⟩ := exists_host s
  have hends : ∀ more, Behind more → ∀ c ∈ (rest ++ more).head?, endsAuthority .web c = true := by
    intro more hmore c hc
    rw [List.head?_append, Option.mem_def, Option.or_eq_some_iff] at hc
    rcases hc with hc | ⟨-, hc⟩
    · exact hrest c hc
    · rw [hmore.head c hc]
      rfl
  rw [List.append_assoc, withAuthority?_eq hkind hhost (hends _ (behind_slashes k))] at h
  obtain ⟨⟨a, m⟩, hauthority, rfl⟩ := Option.map_eq_some_iff.mp h
  obtain ⟨hnumber, hmark⟩ := not_mem_of_cutTail hquery hfragment
  have hplain : ∀ more, Behind more → '#' ∉ rest ++ more ∧ '?' ∉ rest ++ more := by
    intro more hmore
    rw [List.mem_append, not_or] at hnumber hmark
    simp only [List.mem_append, not_or]
    exact ⟨⟨hnumber.1, fun hc => (hmore.inner _ hc).2.2 rfl⟩,
      ⟨hmark.1, fun hc => (hmore.inner _ hc).2.1 rfl⟩⟩
  refine ⟨host, rest, rfl, fun c hc => ?_, ?_, fun more hmore => ?_⟩
  · have hc' := List.mem_of_head? hc
    have hend := hrest c hc
    simp only [endsAuthority, Bool.or_eq_true, beq_iff_eq] at hend
    rcases hend with (hslash | rfl) | rfl
    · exact hslash
    · exact absurd (List.mem_append_left _ hc') hmark
    · exact absurd (List.mem_append_left _ hc') hnumber
  · rw [cutTail_eq ⟨hnumber, hmark⟩]
  · rw [List.append_assoc, withAuthority?_eq hkind hhost (hends more hmore), hauthority,
      cutTail_eq (hplain more hmore), cutTail_eq ⟨hnumber, hmark⟩]
    rfl

theorem withAuthority?_nil {scheme : List Char} (hkind : kind scheme = .web) :
    withAuthority? scheme [] = none := by
  have hhost : Host.ofWeb? (cutPort false ((cutUser? []).getD ([], [])).2).1 = none := by decide
  have hnone : authority? scheme [] false = none := by simp [authority?, hkind, hhost]
  have hend : ∀ c ∈ ([] : List Char), endsAuthority .web c = false := by simp
  have hread := withAuthority?_eq hkind hend (fun c (hc : c ∈ [].head?) => by cases hc)
  rwa [hnone] at hread

/-! ## The whole URL -/

theorem scheme_of_withAuthority? {scheme s : List Char} {b : Url}
    (h : withAuthority? scheme s = some b) : b.scheme = scheme := by
  unfold withAuthority? at h
  obtain ⟨found, -, h⟩ := Option.bind_eq_some_iff.mp h
  exact congrArg Url.scheme (Option.some.inj h).symm

theorem scheme_of_file? {scheme s : List Char} {b : Url} (h : file? scheme s = some b) :
    b.scheme = scheme := by
  unfold file? at h
  extract_lets isSlash isHostChar at h
  split at h
  extract_lets at h
  split at h
  · obtain ⟨host, -, h⟩ := Option.bind_eq_some_iff.mp h
    exact congrArg Url.scheme (Option.some.inj h).symm
  · obtain ⟨host, -, h⟩ := Option.bind_eq_some_iff.mp h
    exact congrArg Url.scheme (Option.some.inj h).symm

theorem scheme?_of_ofText? {s : String} {b : Url} (h : ofText? s = some b) :
    ∃ rest, scheme? (clean s.toList) = some (b.scheme, rest) := by
  obtain ⟨⟨scheme, rest⟩, hscheme, h⟩ := Option.bind_eq_some_iff.mp h
  suffices hb : b.scheme = scheme from ⟨rest, hb ▸ hscheme⟩
  dsimp only at h
  split at h
  · exact scheme_of_withAuthority? h
  · exact scheme_of_file? h
  · split at h
    · exact scheme_of_withAuthority? h
    · cases h
      rfl

/-- What is put behind the text of a URL of the web, where it may have had slashes at its end, goes into
the path. -/
theorem ofText?_append {s : List Char} {k : Nat} {b : Url}
    (h : ofText? (.ofList (s ++ List.replicate k '/')) = some b) (hkind : kind b.scheme = .web)
    (hquery : b.query = none) (hfragment : b.fragment = none)
    (hlast : ∀ c ∈ s.getLast?, 0x20 < c.toNat) :
    ∃ before rest, clean s = before ++ rest ∧ (∀ c ∈ rest.head?, Path.isSlash .web c = true) ∧
      b.path = .ofText .web ((rest ++ List.replicate k '/').drop 1) ∧ ∀ more, Behind more →
        ofText? (.ofList (s ++ more)) = some { b with path := .ofText .web ((rest ++ more).drop 1) } := by
  have hclean : ∀ more, Behind more →
      clean (String.ofList (s ++ more)).toList = clean s ++ more := by
    intro more hmore
    rw [String.toList_ofList, clean_append hlast hmore.inner]
  obtain ⟨found, hscheme⟩ := scheme?_of_ofText? h
  rw [hclean _ (behind_slashes k)] at hscheme
  obtain ⟨name, text, hs, rfl, happend⟩ := scheme?_append hscheme
  have hread : ∀ more, Behind more → ofText? (.ofList (s ++ more)) =
      withAuthority? b.scheme ((text ++ more).dropWhile (Path.isSlash .web)) := by
    intro more hmore
    rw [ofText?, hclean more hmore, happend]
    simp [hkind]
  rw [hread _ (behind_slashes k)] at h
  have hdrop : ∀ more, (text ++ more).dropWhile (Path.isSlash .web) =
      text.dropWhile (Path.isSlash .web) ++ more := by
    intro more
    rw [List.dropWhile_append, if_neg]
    -- slashes alone have no host behind them, so the text would have been no URL
    intro hempty
    rw [List.dropWhile_append, if_pos hempty, List.dropWhile_eq_nil_iff.mpr,
      withAuthority?_nil hkind] at h
    · cases h
    · intro c hc
      rw [List.eq_of_mem_replicate hc]
      rfl
  rw [hdrop] at h
  obtain ⟨host, rest, hrest, hhead, hpath, hmore⟩ := withAuthority?_append hkind h hquery hfragment
  refine ⟨name ++ text.takeWhile (Path.isSlash .web) ++ host, rest, ?_, hhead, hpath, fun more h => ?_⟩
  · rw [hs, List.append_assoc, ← hrest, List.append_assoc, List.takeWhile_append_dropWhile]
  · rw [hread more h, hdrop, hmore more h]

end Lodging.Http.Url
