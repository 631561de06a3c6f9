import Lodging.Proofs.Http.Path
import Lodging.Proofs.Http.Url
import Lodging.Proofs.Remote.PartnerApi
import Mathlib.Data.List.Induction

/-! # Where a partner is asked for a listing

Listings are put below the path of the base URL. A lookup goes to a segment there that says the identifier
and nothing else, unless the identifier is one dot or two: those are written as they are, and the way that
they name is taken. -/

namespace Lodging.Remote

open Http

namespace PartnerApi

variable {p : PartnerApi} {b : Url}

def listings (root : List (List Char)) : List (List Char) := root ++ ["listings".toList]

/-- The path that is asked for a listing. One dot leaves nothing behind the listings, and two dots lead
out of them. -/
def listingPath (root : List (List Char)) (id : String) : List (List Char) :=
  if id = "." then listings root ++ [[]]
  else if id = ".." then root ++ [[]]
  else listings root ++ [Percent.component id.toList]

def listingAt (b : Url) (root : List (List Char)) (id : String) : Url :=
  { b.requested with path := .segments (listingPath root id) }

def trimmedBase (p : PartnerApi) : List Char := Text.dropTrailing '/' p.baseUrl.toList

theorem listingUrl_eq (id : String) : p.listingUrl id =
    p.trimmedBase ++ ["listings".toList, Percent.component id.toList].flatMap ('/' :: ·) := by
  simp [listingUrl, listingsUrl, trimmedBase]

theorem isName_listings : Path.IsName "listings".toList where
  kept := fun c hc => Path.kept_of_isUnreserved (.inr (List.all_eq_true.mp (by decide) c hc))
  notDot := by decide
  notDoubleDot := by decide

theorem behind_listing (id : String) :
    Url.Behind (["listings".toList, Percent.component id.toList].flatMap ('/' :: ·)) where
  inner := by
    have hkept : ∀ c, Path.keepsInSegment c = true → 0x20 < c.toNat ∧ c ≠ '?' ∧ c ≠ '#' := by
      intro c hc
      simp only [Path.keepsInSegment, Path.keeps, Bool.and_eq_true, decide_eq_true_eq] at hc
      refine ⟨hc.1.1, ?_, ?_⟩ <;> rintro rfl <;> exact absurd hc.2 (by decide)
    intro c hc
    simp only [List.flatMap_cons, List.flatMap_nil, List.append_nil, List.mem_append] at hc
    rcases hc with hc | hc
    · rcases List.mem_cons.mp hc with rfl | hc
      · exact hkept _ (by decide)
      · exact hkept c (isName_listings.kept c hc).1
    · rcases List.mem_cons.mp hc with rfl | hc
      · exact hkept _ (by decide)
      · exact hkept c (Path.kept_of_isUnreserved (Percent.mem_component hc)).1
  head := by simp

theorem ofText_listing (rest : List Char) (id : String) :
    Path.ofText .web
      ((rest ++ ["listings".toList, Percent.component id.toList].flatMap ('/' :: ·)).drop 1) =
      .segments (listingPath (Path.stem rest) id) := by
  obtain ⟨hdot, hdots⟩ := Path.ofText_dots isName_listings (by decide) rest
  unfold listingPath listings
  split
  · next h =>
    subst h
    rw [List.append_assoc]
    exact hdot
  · split
    · next h =>
      subst h
      exact hdots
    · next h h' =>
      have hne : ∀ t : String, id ≠ t → id.toList ≠ t.toList := fun t ht h => ht (String.toList_inj.mp h)
      have hname := Path.isName_component (hne "." h) (hne ".." h')
      have hnames : ∀ s ∈ ["listings".toList, Percent.component id.toList], Path.IsName s := by
        intro s hs
        simp only [List.mem_cons, List.not_mem_nil, or_false] at hs
        rcases hs with rfl | rfl
        · exact isName_listings
        · exact hname
      rw [Path.ofText_names hnames (by simp), List.append_assoc]
      rfl

theorem sent_of_lookup (net : Network) (i : Listing.Inquiry) :
    (p.lookup net i).2 = (Url.ofText? (.ofList (p.listingUrl i.id))).elim [] fun u =>
      if u.requested.isSendable then [⟨u.requested, partnerUserAgent⟩] else [] := by
  rw [lookup_eq]
  dsimp only
  rw [sent_eq]

theorem exists_trimmed (names : List (List Char)) :
    ∃ root k, names = root ++ List.replicate k [] ∧ root.getLast? ≠ some [] := by
  induction names using List.reverseRecOn with
  | nil => exact ⟨[], 0, rfl, by simp⟩
  | append_singleton names s ih =>
    by_cases hs : s = []
    · obtain ⟨root, k, hnames, hroot⟩ := ih
      exact ⟨root, k + 1, by rw [hnames, hs, List.replicate_succ', List.append_assoc], hroot⟩
    · exact ⟨names ++ [s], 0, by simp, by simpa using hs⟩

theorem scheme_of_listingUrl {k : Nat} {u : Url} {id : String}
    (hbase : Url.ofText? (.ofList (p.trimmedBase ++ List.replicate k '/')) = some b)
    (hend : ∀ c ∈ p.trimmedBase.getLast?, 0x20 < c.toNat)
    (h : Url.ofText? (.ofList (p.listingUrl id)) = some u) : u.scheme = b.scheme := by
  obtain ⟨rest, hscheme⟩ := Url.scheme?_of_ofText? hbase
  rw [String.toList_ofList, Url.clean_append hend (Url.inner_slashes k)] at hscheme
  obtain ⟨-, text, -, -, happend⟩ := Url.scheme?_append hscheme
  obtain ⟨rest', hscheme'⟩ := Url.scheme?_of_ofText? h
  rw [String.toList_ofList, listingUrl_eq, Url.clean_append hend (behind_listing id).inner,
    happend] at hscheme'
  exact (Prod.mk.inj (Option.some.inj hscheme')).1.symm

section

variable (hbase : Url.ofText? p.baseUrl = some b) (hquery : b.query = none)
  (hfragment : b.fragment = none) (hend : ∀ c ∈ p.trimmedBase.getLast?, 0x20 < c.toNat)
include hbase hquery hfragment hend

/-- Every lookup asks for the listing below one and the same root, which is the path of the base URL up to
empty segments at its end. -/
theorem exists_root : ∃ root k, b.path.names = root ++ List.replicate k [] ∧
    (Path.endsInName (Url.clean p.trimmedBase) = true → root.getLast? ≠ some []) ∧
    ∀ net i, (p.lookup net i).2 =
      if (listingAt b root i.id).isSendable then [⟨listingAt b root i.id, partnerUserAgent⟩] else [] := by
  obtain ⟨k, hslashes⟩ := Text.exists_dropTrailing '/' p.baseUrl.toList
  have htext : Url.ofText? (.ofList (p.trimmedBase ++ List.replicate k '/')) = some b := by
    rw [trimmedBase, ← hslashes, String.ofList_toList]
    exact hbase
  by_cases hkind : Url.kind b.scheme = .web
  · obtain ⟨before, rest, hclean, hhead, hpath, hmore⟩ :=
      Url.ofText?_append htext hkind hquery hfragment hend
    obtain ⟨j, hj⟩ := Path.ofText_slashes rest k
    refine ⟨Path.stem rest, j, by rw [hpath, hj]; rfl, fun hname => ?_, fun net i => ?_⟩
    · cases rest with
      | nil => simp [Path.stem]
      | cons c text =>
        rw [hclean, Path.endsInName_append before (hhead c rfl)] at hname
        exact Path.getLast?_stem_ne hname
    · have hread := hmore _ (behind_listing i.id)
      rw [ofText_listing, ← listingUrl_eq] at hread
      rw [sent_of_lookup, hread, Option.elim_some, Url.requested_withPath]
      rfl
  · -- nothing is asked for in another scheme, so the root only has to fit the base
    obtain ⟨root, j, hnames, hroot⟩ := exists_trimmed b.path.names
    refine ⟨root, j, hnames, fun _ => hroot, fun net i => ?_⟩
    have hnot : ∀ u : Url, u.scheme = b.scheme → u.isSendable = false :=
      fun u hu => Url.not_isSendable (hu ▸ hkind)
    obtain ⟨a, ha⟩ := b.requested_eq
    rw [sent_of_lookup, hnot (listingAt b root i.id) (by rw [listingAt, ha])]
    cases hu : Url.ofText? (.ofList (p.listingUrl i.id)) with
    | none => rfl
    | some u =>
      obtain ⟨a, ha⟩ := u.requested_eq
      have hscheme : u.scheme = b.scheme := scheme_of_listingUrl htext hend hu
      rw [Option.elim_some, hnot u.requested (by rw [ha]; exact hscheme)]
      rfl

/-- What a lookup asks for is below the path of the base URL, without the slashes at its end, and below that
at one segment that says the identifier: different identifiers are asked for at different URLs, and none
leads to another place. The identifiers of one and of two dots are excepted. -/
theorem lookup_names_listing : ∃ root k, b.path.names = root ++ List.replicate k [] ∧
    (Path.endsInName (Url.clean p.trimmedBase) = true → root.getLast? ≠ some []) ∧
    ∀ id, id ≠ "." → id ≠ ".." →
      (∃ segment, (listingAt b root id).path = .segments (root ++ ["listings".toList, segment]) ∧
        Path.IsName segment ∧ Percent.decode segment = id.toList) ∧
      (listingAt b root id).query = none ∧ (listingAt b root id).fragment = none ∧
      (∀ id', id' ≠ "." → id' ≠ ".." → listingAt b root id' = listingAt b root id → id' = id) ∧
      ∀ net demand reservations, (p.lookup net ⟨demand, id, reservations⟩).2 =
        if (listingAt b root id).isSendable then [⟨listingAt b root id, partnerUserAgent⟩] else [] := by
  obtain ⟨root, k, hpath, hroot, hsent⟩ := exists_root hbase hquery hfragment hend
  have hname : ∀ id, id ≠ "." → id ≠ ".." →
      listingPath root id = listings root ++ [Percent.component id.toList] :=
    fun id hdot hdots => by rw [listingPath, if_neg hdot, if_neg hdots]
  obtain ⟨a, ha⟩ := b.requested_eq
  refine ⟨root, k, hpath, hroot, fun id hdot hdots => ⟨?_, ?_, ?_, ?_, ?_⟩⟩
  · have hne : ∀ t : String, id ≠ t → id.toList ≠ t.toList := fun t ht h => ht (String.toList_inj.mp h)
    refine ⟨Percent.component id.toList, ?_, Path.isName_component (hne "." hdot) (hne ".." hdots),
      Percent.decode_component _⟩
    rw [listingAt, hname id hdot hdots, listings, List.append_assoc]
    rfl
  · rw [listingAt, ha]
    exact hquery
  · rw [listingAt, ha]
    exact hfragment
  · intro id' hdot' hdots' h
    have hpaths := Path.segments.inj (congrArg Url.path h)
    rw [hname id hdot hdots, hname id' hdot' hdots'] at hpaths
    have hsegments := List.append_cancel_left hpaths
    exact String.toList_inj.mp (Percent.component_inj.mp (List.cons.inj hsegments).1)
  · exact fun net demand reservations => hsent net ⟨demand, id, reservations⟩

end

def cove : PartnerApi := ⟨"cove", "https://p.test/api/"⟩

def coveBase : Url where
  scheme := "https".toList
  authority := some { Authority.empty with host := "p.test".toList }
  path := .segments ["api".toList, []]
  query := none
  fragment := none

theorem cove_names_listing :
    Url.ofText? cove.baseUrl = some coveBase ∧ "a/.." ≠ "." ∧ "a/.." ≠ ".." ∧
      ∃ root k, coveBase.path.names = root ++ List.replicate k [] ∧
        ∃ segment, (listingAt coveBase root "a/..").path =
            .segments (root ++ ["listings".toList, segment]) ∧
          Percent.decode segment = "a/..".toList := by
  have hbase : Url.ofText? cove.baseUrl = some coveBase := by decide +kernel
  have hlast : cove.trimmedBase.getLast? = some 'i' := by decide +kernel
  have hend : ∀ c ∈ cove.trimmedBase.getLast?, 0x20 < c.toNat := by
    rw [hlast]
    rintro c ⟨⟩
    decide
  obtain ⟨root, k, hpath, -, hnames⟩ := lookup_names_listing hbase rfl rfl hend
  obtain ⟨⟨segment, hsegment, -, hdecode⟩, -⟩ := hnames "a/.." (by decide) (by decide)
  exact ⟨hbase, by decide, by decide, root, k, hpath, segment, hsegment, hdecode⟩

/-- Two dots lead out of the listings, and one dot is asked for where the empty identifier is. -/
theorem cove_leaves_listings :
    (cove.lookup unreachable ⟨.any, "..", false⟩).2.map (·.url.chars) = ["https://p.test/api/".toList] ∧
      ∀ id ∈ [".", ""], (cove.lookup unreachable ⟨.any, id, false⟩).2.map (·.url.chars) =
        ["https://p.test/api/listings/".toList] := by
  decide +kernel

end PartnerApi

end Lodging.Remote
