import Lodging.Sync.Locks
import Mathlib.Data.List.Find
import Mathlib.Data.List.Nodup

/-! # One holder for a listing

The registry gives every listing at most one mutex and never forgets one that is in use, so all live
tickets for a listing are tickets for the same mutex and the oldest of them is the only one that holds
it. A lock that is held stays held until its ticket is given back: tickets are only added behind it,
and giving others back puts nothing in front of it. -/

namespace Lodging.Sync.Locks

variable {α : Type}

/-- Nobody has two tickets, the registry maps listings to mutexes one to one, and every live ticket is
for the mutex that its listing has there. -/
structure Consistent (l : Locks α) : Prop where
  owners : (l.live.map (·.owner)).Nodup
  keys : (l.registry.map Prod.fst).Nodup
  mutexes : (l.registry.map Prod.snd).Nodup
  below : ∀ e ∈ l.registry, e.2 < l.fresh
  registered : ∀ t ∈ l.live, (t.listing, t.mutex) ∈ l.registry

theorem consistent_empty : (empty : Locks α).Consistent := by
  constructor <;> simp [empty]

/-! ## The registry -/

theorem Consistent.mutex_eq_iff {l : Locks α} (hl : l.Consistent) {t u : Ticket α}
    (ht : t ∈ l.live) (hu : u ∈ l.live) : t.mutex = u.mutex ↔ t.listing = u.listing := by
  have ht' := hl.registered t ht
  have hu' := hl.registered u hu
  constructor
  · intro h
    exact congrArg Prod.fst (List.inj_on_of_nodup_map hl.mutexes ht' hu' h)
  · intro h
    exact congrArg Prod.snd (List.inj_on_of_nodup_map hl.keys ht' hu' h)

theorem lookup_eq_some_iff_mem {r : List (Int × Nat)} (hr : (r.map Prod.fst).Nodup) {id : Int}
    {mutex : Nat} : r.lookup id = some mutex ↔ (id, mutex) ∈ r := by
  constructor
  · intro h
    obtain ⟨r₁, r₂, rfl, -⟩ := List.lookup_eq_some_iff.mp h
    simp
  · intro h
    cases hm : r.lookup id with
    | none => simpa using List.lookup_eq_none_iff.mp hm _ h
    | some m =>
      obtain ⟨r₁, r₂, hr', -⟩ := List.lookup_eq_some_iff.mp hm
      have hmem : (id, m) ∈ r := by simp [hr']
      rw [show m = mutex from congrArg Prod.snd (List.inj_on_of_nodup_map hr hmem h rfl)]

theorem kept_sublist (l : Locks α) (listing : Int) : (l.kept listing).Sublist l.registry :=
  List.filter_sublist

/-- A mutex with a live ticket is not forgotten. -/
theorem Consistent.mem_kept_of_live {l : Locks α} (hl : l.Consistent) {t : Ticket α}
    (ht : t ∈ l.live) (listing : Int) : (t.listing, t.mutex) ∈ l.kept listing := by
  refine mem_kept.mpr ⟨hl.registered t ht, .inr ?_⟩
  exact List.any_eq_true.mpr ⟨t, ht, by simp⟩

/-- Drawing a ticket adds it behind all others. -/
theorem lock_live (l : Locks α) (o : α) (listing : Int) :
    ∃ mutex, (l.lock o listing).live = l.live ++ [⟨o, listing, mutex⟩] := by
  unfold lock
  split <;> exact ⟨_, rfl⟩

theorem Consistent.lock {l : Locks α} (hl : l.Consistent) {o : α} {listing : Int}
    (ho : ∀ t ∈ l.live, t.owner ≠ o) : (l.lock o listing).Consistent := by
  have hkeys : ((l.kept listing).map Prod.fst).Nodup :=
    hl.keys.sublist ((kept_sublist l listing).map _)
  have hmutexes : ((l.kept listing).map Prod.snd).Nodup :=
    hl.mutexes.sublist ((kept_sublist l listing).map _)
  have hbelow : ∀ e ∈ l.kept listing, e.2 < l.fresh := fun e he =>
    hl.below e ((kept_sublist l listing).subset he)
  have howners : ∀ mutex, ((l.live ++ [(⟨o, listing, mutex⟩ : Ticket α)]).map (·.owner)).Nodup := by
    intro mutex
    rw [List.map_append, List.nodup_append]
    refine ⟨hl.owners, by simp, ?_⟩
    intro a ha b hb
    obtain ⟨t, ht, rfl⟩ := List.mem_map.mp ha
    have hbo : b = o := by simpa using hb
    exact hbo ▸ ho t ht
  unfold Locks.lock
  split
  · next mutex hm =>
    refine ⟨howners _, hkeys, hmutexes, hbelow, ?_⟩
    intro t ht
    rcases List.mem_append.mp ht with ht | ht
    · exact hl.mem_kept_of_live ht listing
    · rw [List.mem_singleton.mp ht]
      exact (lookup_eq_some_iff_mem hkeys).mp hm
  · next hm =>
    have hnew : listing ∉ (l.kept listing).map Prod.fst := by
      intro h
      obtain ⟨e, he, hl⟩ := List.mem_map.mp h
      simpa [hl] using List.lookup_eq_none_iff.mp hm e he
    refine ⟨howners _, ?_, ?_, ?_, ?_⟩
    · rw [List.map_append, List.nodup_append]
      refine ⟨hkeys, by simp, ?_⟩
      rintro a ha b hb rfl
      have : a = listing := by simpa using hb
      exact hnew (this ▸ ha)
    · rw [List.map_append, List.nodup_append]
      refine ⟨hmutexes, by simp, ?_⟩
      rintro a ha b hb rfl
      obtain ⟨e, he, rfl⟩ := List.mem_map.mp ha
      have : e.2 = l.fresh := by simpa using hb
      exact absurd (hbelow e he) (by omega)
    · intro e he
      rcases List.mem_append.mp he with he | he
      · exact Nat.lt_succ_of_lt (hbelow e he)
      · rw [List.mem_singleton.mp he]
        exact Nat.lt_succ_self _
    · intro t ht
      rcases List.mem_append.mp ht with ht | ht
      · exact List.mem_append_left _ (hl.mem_kept_of_live ht listing)
      · rw [List.mem_singleton.mp ht]
        exact List.mem_append_right _ (List.mem_singleton.mpr rfl)

theorem Consistent.release {l : Locks α} (hl : l.Consistent) (p : α → Bool) :
    (l.release p).Consistent where
  owners := hl.owners.sublist (List.filter_sublist.map _)
  keys := hl.keys
  mutexes := hl.mutexes
  below := hl.below
  registered := fun t ht => hl.registered t (List.mem_filter.mp ht).1

/-! ## The holder for a listing -/

def holderOf? (l : Locks α) (listing : Int) : Option (Ticket α) :=
  (l.registry.lookup listing).bind l.holder?

/-- It is the oldest ticket for the listing. -/
theorem Consistent.holderOf?_eq {l : Locks α} (hl : l.Consistent) (listing : Int) :
    l.holderOf? listing = l.live.find? (·.listing == listing) := by
  unfold holderOf?
  cases hm : l.registry.lookup listing with
  | none =>
    refine (List.find?_eq_none.mpr fun t ht h => ?_).symm
    have := List.lookup_eq_none_iff.mp hm _ (hl.registered t ht)
    simp_all
  | some mutex =>
    have hmem := (lookup_eq_some_iff_mem hl.keys).mp hm
    refine List.find?_congr fun t ht => ?_
    have ht' := hl.registered t ht
    rw [Bool.eq_iff_iff, beq_iff_eq, beq_iff_eq]
    constructor
    · intro h
      exact congrArg Prod.fst (List.inj_on_of_nodup_map hl.mutexes ht' hmem h)
    · intro h
      exact congrArg Prod.snd (List.inj_on_of_nodup_map hl.keys ht' hmem h)

/-! ## The order of tickets -/

/-- One has a ticket, and the other has none that is older. -/
def Leads (l : Locks α) (a b : α) : Prop :=
  ∃ before t after, l.live = before ++ t :: after ∧ t.owner = a ∧ ∀ u ∈ before, u.owner ≠ b

theorem Leads.lock {l : Locks α} {a b : α} (h : l.Leads a b) (o : α) (listing : Int) :
    (l.lock o listing).Leads a b := by
  obtain ⟨before, t, after, hlive, ha, hb⟩ := h
  obtain ⟨mutex, hm⟩ := l.lock_live o listing
  exact ⟨before, t, after ++ [⟨o, listing, mutex⟩], by simp [hm, hlive], ha, hb⟩

theorem Leads.release {l : Locks α} {a b : α} (h : l.Leads a b) {p : α → Bool}
    (hp : p a = false) : (l.release p).Leads a b := by
  obtain ⟨before, t, after, hlive, rfl, hb⟩ := h
  refine ⟨before.filter (fun t => !p t.owner), t, after.filter (fun t => !p t.owner), ?_, rfl,
    fun u hu => hb u (List.mem_filter.mp hu).1⟩
  simp [Locks.release, hlive, hp]

/-! ## Tickets and holders -/

variable [DecidableEq α]

/-- The listing whose lock an owner has asked for. -/
def asked? (l : Locks α) (o : α) : Option Int := (l.ticket? o).map (·.listing)

theorem ticket?_eq_none_iff {l : Locks α} {o : α} :
    l.ticket? o = none ↔ ∀ t ∈ l.live, t.owner ≠ o := by
  simp [ticket?]

theorem asked?_eq_none_iff {l : Locks α} {o : α} :
    l.asked? o = none ↔ ∀ t ∈ l.live, t.owner ≠ o := by
  rw [asked?, Option.map_eq_none_iff, ticket?_eq_none_iff]

theorem ticket?_mem {l : Locks α} {o : α} {t : Ticket α} (h : l.ticket? o = some t) :
    t ∈ l.live ∧ t.owner = o :=
  ⟨List.mem_of_find?_eq_some h, by simpa using List.find?_some h⟩

theorem Consistent.ticket?_eq {l : Locks α} (hl : l.Consistent) {t : Ticket α} (ht : t ∈ l.live) :
    l.ticket? t.owner = some t := by
  cases h : l.ticket? t.owner with
  | none => exact absurd rfl (ticket?_eq_none_iff.mp h t ht)
  | some u =>
    obtain ⟨hu, ho⟩ := ticket?_mem h
    rw [List.inj_on_of_nodup_map hl.owners hu ht ho]

theorem asked?_lock {l : Locks α} {o : α} (ho : l.asked? o = none) (listing : Int) (o' : α) :
    (l.lock o listing).asked? o' = if o' = o then some listing else l.asked? o' := by
  obtain ⟨mutex, hm⟩ := l.lock_live o listing
  have hn : l.ticket? o = none := by simpa [asked?] using ho
  simp only [asked?, ticket?, hm, List.find?_append]
  by_cases h : o' = o
  · subst h
    have hf : l.live.find? (·.owner == o') = none := hn
    simp [hf]
  · simp [h, Ne.symm h]

theorem ticket?_release (l : Locks α) (p : α → Bool) (o : α) :
    (l.release p).ticket? o = if p o then none else l.ticket? o := by
  simp only [ticket?, release, List.find?_filter]
  split
  · next hp =>
    refine List.find?_eq_none.mpr fun t _ => ?_
    by_cases h : t.owner = o <;> simp [h, hp]
  · next hp =>
    refine congrArg (fun q => List.find? q l.live) (funext fun t => ?_)
    by_cases h : t.owner = o <;> simp [h, hp]

theorem asked?_release (l : Locks α) (p : α → Bool) (o : α) :
    (l.release p).asked? o = if p o then none else l.asked? o := by
  rw [asked?, ticket?_release]
  split <;> rfl

theorem holds_iff {l : Locks α} {o : α} :
    l.holds o = true ↔ ∃ t, l.ticket? o = some t ∧ l.holder? t.mutex = some t := by
  unfold holds
  cases l.ticket? o <;> simp

/-- Only one owner at a time holds the lock of a listing. -/
theorem Consistent.holds_unique {l : Locks α} (hl : l.Consistent) {a b : α} {listing : Int}
    (ha : l.holds a = true) (hb : l.holds b = true) (haL : l.asked? a = some listing)
    (hbL : l.asked? b = some listing) : a = b := by
  obtain ⟨t, ht, htm⟩ := holds_iff.mp ha
  obtain ⟨u, hu, hum⟩ := holds_iff.mp hb
  obtain ⟨htl, rfl⟩ := ticket?_mem ht
  obtain ⟨hul, rfl⟩ := ticket?_mem hu
  have hL : t.listing = u.listing := by
    simp only [asked?, ht, hu, Option.map_some, Option.some.injEq] at haL hbL
    rw [haL, hbL]
  rw [(hl.mutex_eq_iff htl hul).mpr hL, hum] at htm
  rw [Option.some.inj htm]

theorem holds_lock {l : Locks α} {o o' : α} (h : l.holds o' = true) (listing : Int) :
    (l.lock o listing).holds o' = true := by
  obtain ⟨t, ht, hm⟩ := holds_iff.mp h
  obtain ⟨mutex, hlive⟩ := l.lock_live o listing
  unfold ticket? at ht
  unfold holder? at hm
  refine holds_iff.mpr ⟨t, ?_, ?_⟩
  · simp [ticket?, hlive, ht]
  · simp [holder?, hlive, hm]

theorem holds_release {l : Locks α} {p : α → Bool} {o : α} (h : l.holds o = true)
    (hp : p o = false) : (l.release p).holds o = true := by
  obtain ⟨t, ht, hm⟩ := holds_iff.mp h
  refine holds_iff.mpr ⟨t, by rw [ticket?_release, hp]; simpa using ht, ?_⟩
  -- what stood before the ticket was for other mutexes, and still is
  obtain ⟨-, before, after, hlive, hbefore⟩ := List.find?_eq_some_iff_append.mp hm
  have ho : t.owner = o := (ticket?_mem ht).2
  refine List.find?_eq_some_iff_append.mpr ⟨by simp, before.filter (fun t => !p t.owner),
    after.filter (fun t => !p t.owner), ?_, ?_⟩
  · simp [release, hlive, ho, hp]
  · exact fun u hu => hbefore u (List.mem_filter.mp hu).1

theorem Consistent.holds_iff_holderOf? {l : Locks α} (hl : l.Consistent) {o : α} {listing : Int} :
    (l.holds o = true ∧ l.asked? o = some listing) ↔
      ∃ t, l.holderOf? listing = some t ∧ t.owner = o := by
  rw [hl.holderOf?_eq, holds_iff]
  have hcongr : ∀ t ∈ l.live, l.holder? t.mutex = l.live.find? (·.listing == t.listing) := by
    intro t ht
    refine List.find?_congr fun u hu => ?_
    rw [Bool.eq_iff_iff, beq_iff_eq, beq_iff_eq]
    exact hl.mutex_eq_iff hu ht
  constructor
  · rintro ⟨⟨t, ht, hm⟩, hL⟩
    obtain ⟨htl, ho⟩ := ticket?_mem ht
    have htL : t.listing = listing := by simpa [asked?, ht] using hL
    rw [hcongr t htl, htL] at hm
    exact ⟨t, hm, ho⟩
  · rintro ⟨t, ht, rfl⟩
    have htl := List.mem_of_find?_eq_some ht
    have htL : t.listing = listing := by simpa using List.find?_some ht
    have hticket := hl.ticket?_eq htl
    exact ⟨⟨t, hticket, by rw [hcongr t htl, htL]; exact ht⟩, by simp [asked?, hticket, htL]⟩

/-! ## Handing a lock on -/

/-- Who holds the lock of the listing. -/
def owner? (l : Locks α) (listing : Int) : Option α := (l.holderOf? listing).map (·.owner)

theorem Consistent.owner?_eq_some_iff {l : Locks α} (hl : l.Consistent) {o : α} {listing : Int} :
    l.owner? listing = some o ↔ l.holds o = true ∧ l.asked? o = some listing := by
  rw [hl.holds_iff_holderOf?, owner?, Option.map_eq_some_iff]

/-- Who asks for a lock gets it at once if nobody has it. -/
theorem Consistent.owner?_lock {l : Locks α} (hl : l.Consistent) {o : α}
    (ho : l.asked? o = none) (listing other : Int) :
    (l.lock o listing).owner? other =
      (l.owner? other).or (if listing = other then some o else none) := by
  obtain ⟨mutex, hm⟩ := l.lock_live o listing
  have hl' : (l.lock o listing).Consistent := hl.lock (asked?_eq_none_iff.mp ho)
  rw [owner?, owner?, hl'.holderOf?_eq, hl.holderOf?_eq, hm, List.find?_append]
  by_cases h : listing = other
  · cases l.live.find? (·.listing == other) <;> simp [h]
  · cases l.live.find? (·.listing == other) <;> simp [h]

/-- A lock is not taken away from its holder. -/
theorem Consistent.owner?_release_of_not {l : Locks α} (hl : l.Consistent) {p : α → Bool} {o : α}
    {listing : Int} (h : l.owner? listing = some o) (hp : p o = false) :
    (l.release p).owner? listing = some o := by
  obtain ⟨hh, ha⟩ := hl.owner?_eq_some_iff.mp h
  refine (hl.release p).owner?_eq_some_iff.mpr ⟨holds_release hh hp, ?_⟩
  rw [asked?_release, hp]
  exact ha

/-- Who holds a lock after tickets were given back asked for it before. -/
theorem Consistent.asked?_of_owner?_release {l : Locks α} (hl : l.Consistent) {p : α → Bool}
    {o : α} {listing : Int} (h : (l.release p).owner? listing = some o) :
    p o = false ∧ l.asked? o = some listing := by
  obtain ⟨-, ha⟩ := (hl.release p).owner?_eq_some_iff.mp h
  rw [asked?_release] at ha
  split at ha
  · cases ha
  · next hp => exact ⟨by simpa using hp, ha⟩

/-- A lock that nobody has is not waited for. -/
theorem Consistent.owner?_eq_none_iff {l : Locks α} (hl : l.Consistent) {listing : Int} :
    l.owner? listing = none ↔ ∀ o, l.asked? o ≠ some listing := by
  rw [owner?, Option.map_eq_none_iff, hl.holderOf?_eq, List.find?_eq_none]
  constructor
  · intro h o ha
    obtain ⟨t, ht, htl⟩ := Option.map_eq_some_iff.mp ha
    exact h t (ticket?_mem ht).1 (by simpa using htl)
  · intro h t ht htl
    exact h t.owner (by simpa [asked?, hl.ticket?_eq ht] using htl)

/-- Who has asked for a lock leads everybody who has not. -/
theorem leads_of_asked? {l : Locks α} {a b : α} {listing : Int} (ha : l.asked? a = some listing)
    (hb : l.asked? b = none) : l.Leads a b := by
  obtain ⟨t, ht, -⟩ := Option.map_eq_some_iff.mp ha
  obtain ⟨hmem, ho⟩ := ticket?_mem ht
  obtain ⟨before, after, hlive⟩ := List.append_of_mem hmem
  refine ⟨before, t, after, hlive, ho, fun u hu => asked?_eq_none_iff.mp hb u ?_⟩
  rw [hlive]
  exact List.mem_append_left _ hu

/-- A lock does not go to one who is led by another that wants it. -/
theorem Consistent.owner?_ne_of_leads {l : Locks α} (hl : l.Consistent) {a b : α} {listing : Int}
    (h : l.Leads a b) (hne : a ≠ b) (ha : l.asked? a = some listing) :
    l.owner? listing ≠ some b := by
  obtain ⟨before, t, after, hlive, rfl, hb⟩ := h
  have hlisting : t.listing = listing := by
    have hmem : t ∈ l.live := by simp [hlive]
    simpa [asked?, hl.ticket?_eq hmem] using ha
  rw [owner?, hl.holderOf?_eq, hlive, List.find?_append]
  cases hfind : before.find? (·.listing == listing) with
  | none => simpa [hlisting] using hne
  | some u => simpa using hb u (List.mem_of_find?_eq_some hfind)

end Lodging.Sync.Locks
