import Lodging.Listing.Registry
import Lodging.Proofs.Timed.Eventual
import Mathlib.Order.Nat

/-! # How a search is merged from its answers

The result of a search has a closed form, in which every partner has a contribution and a waiting time
of its own (`search_after`). The same comes out when the answers are taken one at a time, in any order
among those that are there at once, while the clock goes on only when there is nothing to take. Of every
such course it is kept that what is taken is the contribution and that nothing missing is overdue
(`Fair`), so when all is taken the time and the result are those of the closed form. -/

namespace Lodging.Listing

open Timed (Eventual)

abbrev Answer := Except Error (List Listing)

/-- What a partner adds to a search when it behaves so. -/
def Partner.contribution (p : Partner) (x : Eventual Answer) : List Listing :=
  (x.success? p.limit).getD []

namespace Registry

def longest (r : Registry) (partner : String → Eventual Answer) : Nat :=
  (r.partners.map fun p => (partner p.name).wait p.limit).foldr max 0

section

variable {r : Registry} {partner : String → Eventual Answer}

theorem wait_le_longest {p : Partner} (hp : p ∈ r.partners) :
    (partner p.name).wait p.limit ≤ r.longest partner := by
  have hmem : (partner p.name).wait p.limit ∈
      r.partners.map fun p => (partner p.name).wait p.limit :=
    List.mem_map_of_mem hp
  exact List.le_max_of_le hmem le_rfl

theorem longest_le {n : Nat} (h : ∀ p ∈ r.partners, (partner p.name).wait p.limit ≤ n) :
    r.longest partner ≤ n := by
  refine List.max_le_of_forall_le (r.partners.map fun p => (partner p.name).wait p.limit) n ?_
  intro t ht
  obtain ⟨p, hp, rfl⟩ := List.mem_map.mp ht
  exact h p hp

theorem search_after (t : Nat) (x : Answer) :
    r.search (.after t x) partner = .after (max t (r.longest partner))
      (combine (x, r.partners.map fun p => p.contribution (partner p.name))) := by
  unfold search
  simp only [Eventual.recover_eq]
  rw [Eventual.all_map_after]
  rfl

end

end Registry

/-! ## Taking the answers one at a time -/

/-- A search under way: the time since its start, and what has been taken until then. -/
structure Aggregation where
  now : Nat
  own : Option Answer
  others : List (Option (List Listing))

namespace Aggregation

def Pending (s : Aggregation) : Prop := s.own = none ∨ none ∈ s.others

def taken (s : Aggregation) : Nat := s.own.toList.length + s.others.countP (·.isSome)

section

variable (r : Registry) (own : Eventual Answer) (partner : String → Eventual Answer)

def start : Aggregation := ⟨0, none, r.partners.map fun _ => none⟩

/-- One answer that is there is taken. -/
inductive Takes : Aggregation → Aggregation → Prop
  | own {s : Aggregation} {t : Nat} {x : Answer} :
      own = .after t x → t ≤ s.now → s.own = none → Takes s { s with own := some x }
  | other {s : Aggregation} {i : Nat} {p : Partner} {ls : List Listing} :
      r.partners[i]? = some p → s.others[i]? = some none →
      (partner p.name).poll? s.now p.limit [] = some ls →
      Takes s { s with others := s.others.set i (some ls) }

/-- The clock goes on when something is missing and nothing is there. -/
inductive Step : Aggregation → Aggregation → Prop
  | take {s s' : Aggregation} : Takes r own partner s s' → Step s s'
  | tick {s : Aggregation} : s.Pending → (∀ s', ¬ Takes r own partner s s') →
      Step s { s with now := s.now + 1 }

inductive Reaches : Nat → Aggregation → Prop
  | start : Reaches 0 (start r)
  | step {n : Nat} {s s' : Aggregation} :
      Reaches n s → Step r own partner s s' → Reaches (n + 1) s'

end

/-! ## What every course keeps -/

inductive OwnStands (own : Eventual Answer) (now : Nat) : Option Answer → Prop
  | taken {t : Nat} {x : Answer} : own = .after t x → t ≤ now → OwnStands own now (some x)
  | waiting : (∀ t x, own = Eventual.after t x → now ≤ t) → OwnStands own now none

inductive Stands (p : Partner) (x : Eventual Answer) (now : Nat) : Option (List Listing) → Prop
  | taken : x.wait p.limit ≤ now → Stands p x now (some (p.contribution x))
  | waiting : now ≤ x.wait p.limit → Stands p x now none

/-- What has been taken is what was to be taken, and nothing that is missing is overdue. -/
structure Fair (r : Registry) (own : Eventual Answer) (partner : String → Eventual Answer)
    (s : Aggregation) : Prop where
  inHouse : OwnStands own s.now s.own
  length : s.others.length = r.partners.length
  partners : ∀ {i : Nat} {p : Partner} {o : Option (List Listing)}, r.partners[i]? = some p →
    s.others[i]? = some o → Stands p (partner p.name) s.now o
  inTime : ∀ t x, own = Eventual.after t x → s.now ≤ max t (r.longest partner)

variable {r : Registry} {own : Eventual Answer} {partner : String → Eventual Answer}
  {s s' : Aggregation}

theorem Fair.start : Fair r own partner (start r) := by
  refine ⟨.waiting fun _ _ _ => Nat.zero_le _, by simp [Aggregation.start], ?_,
    fun _ _ _ => Nat.zero_le _⟩
  intro i p o _ ho
  obtain ⟨_, _, rfl⟩ := List.mem_map.mp (List.mem_of_getElem? ho)
  exact .waiting (Nat.zero_le _)

theorem Fair.takes (hs : Fair r own partner s) (h : Takes r own partner s s') :
    Fair r own partner s' := by
  cases h with
  | own hown ht _ => exact ⟨.taken hown ht, hs.length, hs.partners, hs.inTime⟩
  | @other i p ls hp hi hls =>
    refine ⟨hs.inHouse, by simpa using hs.length, ?_, hs.inTime⟩
    intro j q o hq ho
    by_cases hij : i = j
    · subst hij
      obtain rfl : p = q := Option.some.inj (hp.symm.trans hq)
      cases hs.partners hp hi with
      | waiting hnow =>
        obtain ⟨hwait, rfl⟩ := Eventual.poll?_eq_some hnow hls
        rw [List.getElem?_set_self (List.getElem?_eq_some_iff.mp hi).1] at ho
        exact Option.some.inj ho ▸ .taken hwait.le
    · rw [List.getElem?_set_ne hij] at ho
      exact hs.partners hq ho

section

variable (hidle : ∀ s', ¬ Takes r own partner s s')
include hidle

theorem lt_of_own_waiting (hnone : s.own = none) {t : Nat} {x : Answer}
    (hown : own = .after t x) : s.now < t :=
  Nat.lt_of_not_le fun ht => hidle _ (.own hown ht hnone)

theorem lt_of_other_waiting {i : Nat} {p : Partner} (hp : r.partners[i]? = some p)
    (hi : s.others[i]? = some none) : s.now < (partner p.name).wait p.limit := by
  have hnone : (partner p.name).poll? s.now p.limit [] = none := by
    cases hls : (partner p.name).poll? s.now p.limit [] with
    | none => rfl
    | some ls => exact absurd (.other hp hi hls) (hidle _)
  exact Eventual.poll?_eq_none.mp hnone

/-- Whatever is missing is still to come, so the time of the result is not reached yet. -/
theorem Fair.tick (hs : Fair r own partner s) (hpending : s.Pending) :
    Fair r own partner { s with now := s.now + 1 } := by
  refine ⟨?_, hs.length, ?_, ?_⟩
  · have hstands := hs.inHouse
    cases hown : s.own with
    | none => exact .waiting fun t x => lt_of_own_waiting hidle hown
    | some x =>
      rw [hown] at hstands
      cases hstands with
      | taken hx ht => exact .taken hx (Nat.le_succ_of_le ht)
  · intro i p o hp ho
    cases hs.partners hp ho with
    | taken hwait => exact .taken (Nat.le_succ_of_le hwait)
    | waiting _ => exact .waiting (lt_of_other_waiting hidle hp ho)
  · intro t x hx
    show s.now < max t (r.longest partner)
    rcases hpending with hown | hother
    · exact lt_max_of_lt_left (lt_of_own_waiting hidle hown hx)
    · obtain ⟨i, hlt, hi⟩ := List.getElem_of_mem hother
      obtain ⟨p, hp⟩ : ∃ p, r.partners[i]? = some p :=
        ⟨_, List.getElem?_eq_getElem (hs.length ▸ hlt)⟩
      have hwait := lt_of_other_waiting hidle hp (List.getElem?_eq_some_iff.mpr ⟨hlt, hi⟩)
      exact lt_max_of_lt_right
        (hwait.trans_le (Registry.wait_le_longest (List.mem_of_getElem? hp)))

end

theorem Fair.step (hs : Fair r own partner s) (h : Step r own partner s s') :
    Fair r own partner s' := by
  cases h with
  | take htakes => exact hs.takes htakes
  | tick hpending hidle => exact hs.tick hidle hpending

theorem Reaches.fair {n : Nat} (h : Reaches r own partner n s) : Fair r own partner s := by
  induction h with
  | start => exact .start
  | step _ hstep ih => exact ih.step hstep

/-! ## Where every course ends -/

/-- What is taken from a partner is what the partner adds by itself. -/
theorem Fair.contribution_eq (hs : Fair r own partner s) {i : Nat} {p : Partner}
    {ls : List Listing} (hp : r.partners[i]? = some p) (hi : s.others[i]? = some (some ls)) :
    ls = p.contribution (partner p.name) ∧ (partner p.name).wait p.limit ≤ s.now := by
  cases hs.partners hp hi with
  | taken hwait => exact ⟨rfl, hwait⟩

theorem Fair.search_eq (hs : Fair r own partner s) {x : Answer}
    {lss : List (List Listing)} (hown : s.own = some x) (hothers : s.others = lss.map some) :
    r.search own partner = .after s.now (Registry.combine (x, lss)) := by
  have hstands := hs.inHouse
  rw [hown] at hstands
  cases hstands with
  | @taken t _ hx ht =>
    have hlength : lss.length = r.partners.length := by simpa [hothers] using hs.length
    have hother : ∀ {i : Nat} {p : Partner}, r.partners[i]? = some p →
        lss[i]? = some (p.contribution (partner p.name)) ∧
          (partner p.name).wait p.limit ≤ s.now := by
      intro i p hp
      have hi : i < lss.length := hlength ▸ (List.getElem?_eq_some_iff.mp hp).1
      have hcame : s.others[i]? = some (some lss[i]) := by simp [hothers, hi]
      obtain ⟨hls, hwait⟩ := hs.contribution_eq hp hcame
      exact ⟨by rw [List.getElem?_eq_getElem hi, hls], hwait⟩
    have hlss : lss = r.partners.map fun p => p.contribution (partner p.name) := by
      refine List.ext_getElem? fun i => ?_
      rw [List.getElem?_map]
      cases hp : r.partners[i]? with
      | none => simpa [hlength] using hp
      | some p => exact (hother hp).1
    have hnow : s.now = max t (r.longest partner) := by
      refine le_antisymm (hs.inTime t x hx) (max_le ht (Registry.longest_le fun p hp => ?_))
      obtain ⟨i, hp⟩ := List.getElem?_of_mem hp
      exact (hother hp).2
    rw [hx, Registry.search_after, ← hlss, ← hnow]

/-! ## That every course ends -/

theorem exists_step (h : s.Pending) : ∃ s', Step r own partner s s' := by
  by_cases hidle : ∃ s', Takes r own partner s s'
  · obtain ⟨s', htakes⟩ := hidle
    exact ⟨s', .take htakes⟩
  · exact ⟨_, .tick h (not_exists.mp hidle)⟩

theorem Takes.taken_eq (h : Takes r own partner s s') : s'.taken = s.taken + 1 := by
  cases h with
  | own _ _ hnone => simp [taken, hnone, Nat.add_comm]
  | other _ hi _ =>
    obtain ⟨hlt, hi⟩ := List.getElem?_eq_some_iff.mp hi
    simp [taken, List.countP_set hlt, hi, Nat.add_assoc]

theorem Takes.now_eq (h : Takes r own partner s s') : s'.now = s.now := by
  cases h with
  | own _ _ _ => rfl
  | other _ _ _ => rfl

/-- Every step takes an answer or time. -/
theorem Reaches.steps_eq {n : Nat} (h : Reaches r own partner n s) : n = s.now + s.taken := by
  induction h with
  | start => simp [Aggregation.start, taken, List.countP_replicate]
  | step _ hstep ih =>
    cases hstep with
    | take htakes => rw [htakes.now_eq, htakes.taken_eq, ih, Nat.add_assoc]
    | tick _ _ => rw [ih]; exact Nat.add_right_comm _ _ 1

theorem Fair.taken_le (hs : Fair r own partner s) : s.taken ≤ 1 + r.partners.length := by
  refine Nat.add_le_add ?_ (hs.length ▸ List.countP_le_length)
  cases s.own with
  | none => exact Nat.zero_le 1
  | some _ => exact le_rfl

end Aggregation

namespace Registry

/-- A search gives the in-house listings and behind them, in the order of the registry, those of each
partner that answers well within its limit; or it gives the failure of the in-house provider. It takes
as long as the slowest of them, where a partner is waited for no longer than its limit. However the
answers are taken as they come in, what is taken from a partner is what it adds by itself, and after
boundedly many steps everything is taken, at that time and with that result. -/
theorem search_merges (r : Registry) (partner : String → Eventual Answer) :
    (∀ (t : Nat) (ds : List Listing), r.search (.after t (.ok ds)) partner =
      .after (max t (r.longest partner))
        (.ok (ds ++ r.partners.flatMap fun p => p.contribution (partner p.name)))) ∧
    (∀ (t : Nat) (e : Error), r.search (.after t (.error e)) partner =
      .after (max t (r.longest partner)) (.error e)) ∧
    r.search .never partner = .never ∧
    ∀ (own : Eventual Answer) (n : Nat) (s : Aggregation),
      Aggregation.Reaches r own partner n s →
        (∀ (i : Nat) (p : Partner) (ls : List Listing), r.partners[i]? = some p →
          s.others[i]? = some (some ls) → ls = p.contribution (partner p.name)) ∧
        (∀ (x : Answer) (lss : List (List Listing)), s.own = some x → s.others = lss.map some →
          r.search own partner = .after s.now (combine (x, lss))) ∧
        (s.Pending → ∃ s', Aggregation.Step r own partner s s') ∧
        ∀ (t : Nat) (x : Answer), own = .after t x →
          n ≤ max t (r.longest partner) + 1 + r.partners.length := by
  refine ⟨fun t ds => ?_, fun t e => search_after t _, rfl, fun own n s hreaches => ?_⟩
  · rw [search_after]
    simp [combine, Except.map, List.flatMap_def]
  · have hfair := hreaches.fair
    refine ⟨fun i p ls hp hi => (hfair.contribution_eq hp hi).1,
      fun x lss hown hothers => hfair.search_eq hown hothers, Aggregation.exists_step, ?_⟩
    intro t x hx
    have hnow := hfair.inTime t x hx
    have htaken := hfair.taken_le
    have hsteps := hreaches.steps_eq
    omega

end Registry

end Lodging.Listing
