import Lodging.Proofs.Sync.Grounds
import Lodging.Proofs.Sync.Serial

/-! # How a lock is handed on

Whoever works on a listing had its lock before the step, so who has just got a lock has done nothing
under it yet. And nothing that the store has of a listing changes unless the holder of its lock makes
the step. -/

namespace Lodging.Sync.State

open Calendar

variable {size : Nat} {s s' : State} {e : Event}

theorem Orderly.owner?_eq_some_iff (ho : s.Orderly) {o : Party} {listing : Int} :
    s.locks.owner? listing = some o ↔ s.locks.holds o = true ∧ s.wants? o = some listing := by
  rw [ho.locks.owner?_eq_some_iff, ho.tickets]

/-- Who works on a listing has its lock. -/
theorem Orderly.owner?_of_isInside (ho : s.Orderly) {o : Party} {listing : Int}
    (hin : s.isInside o = true) (hw : s.wants? o = some listing) :
    s.locks.owner? listing = some o :=
  ho.owner?_eq_some_iff.mpr ⟨ho.inside o hin, hw⟩

/-! ## Who gets a lock has not begun -/

theorem Orderly.owner?_of_append (ho : s.Orderly) {store : Store} {locks : Locks Party} {k : Call}
    (hk : ∀ j, k.isInside j = false) {o : Party} {listing : Int}
    (hin : isInside ⟨store, locks, s.calls ++ [k]⟩ o = true)
    (hw : wants? ⟨store, locks, s.calls ++ [k]⟩ o = some listing) :
    s.locks.owner? listing = some o := by
  rw [isInside, calls_append] at hin
  rw [wants?, calls_append] at hw
  split at hin
  · simp [hk] at hin
  · next h =>
    rw [if_neg h] at hw
    exact ho.owner?_of_isInside hin hw

theorem Orderly.owner?_of_set (ho : s.Orderly) {store : Store} {locks : Locks Party} {c : Nat}
    {k₀ k : Call} (hc : s.calls[c]? = some k₀) {o : Party} {listing : Int}
    (hk : ∀ j, k.isInside j = true → k.wants? j = some listing →
      s.locks.owner? listing = some ⟨c, j⟩)
    (hin : isInside ⟨store, locks, s.calls.set c k⟩ o = true)
    (hw : wants? ⟨store, locks, s.calls.set c k⟩ o = some listing) :
    s.locks.owner? listing = some o := by
  rw [isInside, calls_set hc] at hin
  rw [wants?, calls_set hc] at hw
  split at hin
  · next h =>
    rw [if_pos h] at hw
    subst h
    exact hk o.slot hin hw
  · next h =>
    rw [if_neg h] at hw
    exact ho.owner?_of_isInside hin hw

/-- A pass whose feeds are all idle is inside only as a whole. -/
theorem isInside_of_load {r : Request} {feeds rest : List Feed} {guarded : Bool} {n : Nat}
    {results : List (List Block)} {j : Option Nat}
    (h : Call.isInside ⟨r, .passing feeds (Pass.load guarded n results rest)⟩ j = true) :
    j = none := by
  cases j with
  | none => rfl
  | some j =>
    have := Pass.isCleared_eq_false (p := Pass.load guarded n results rest)
      (fun slot h => by rw [Pass.load_idle h]; rfl) j
    simp only [Call.isInside, this] at h
    cases h

theorem Advance.owner?_of_isInside {c i : Nat} {r : Request} {feeds : List Feed} {p : Pass}
    {feed : Feed} {st st' : Stage} {store : Store} {locks : Locks Party}
    (ha : s.Advance c i p feed e st st' store locks) (ho : s.Orderly)
    (hc : s.calls[c]? = some ⟨r, .passing feeds p⟩) (hb : p.batch[i]? = some ⟨feed, st⟩)
    {j : Option Nat} {listing : Int}
    (hin : Call.isInside ⟨r, .passing feeds (p.setStage i st')⟩ j = true)
    (hw : Call.wants? ⟨r, .passing feeds (p.setStage i st')⟩ j = some listing) :
    s.locks.owner? listing = some ⟨c, j⟩ := by
  cases j with
  | none =>
    refine ho.owner?_of_isInside ?_ ?_
    · simpa [isInside, hc, Call.isInside] using hin
    · simpa [State.wants?, hc, Call.wants?] using hw
  | some j =>
    simp only [Call.isInside, Pass.getElem?_setStage hb] at hin
    simp only [Call.wants?, Pass.wants?_setStage hb] at hw
    by_cases hj : j = i
    · subst hj
      simp only [if_true, Option.any_some] at hin hw
      cases ha with
      | clear hh _ =>
        refine ho.owner?_eq_some_iff.mpr ⟨hh, ?_⟩
        simpa [State.wants?, hc, Call.wants?, Pass.wants?, hb, Stage.wantsLock] using hw
      | _ => cases hin
    · rw [if_neg hj] at hin hw
      refine ho.owner?_of_isInside ?_ ?_
      · simpa [isInside, hc, Call.isInside] using hin
      · simpa [State.wants?, hc, Call.wants?] using hw

/-- Whoever is inside after a step had the lock before it. -/
theorem Move.owner?_of_isInside (h : Move size s e s') (ho : s.Orderly) {o : Party} {listing : Int}
    (hin : s'.isInside o = true) (hw : s'.wants? o = some listing) :
    s.locks.owner? listing = some o := by
  cases h with
  | refuse _ => exact ho.owner?_of_append (fun j => by cases j <;> rfl) hin hw
  | join _ _ => exact ho.owner?_of_append (fun j => by cases j <;> rfl) hin hw
  | enter _ _ => exact ho.owner?_of_append (fun j => by cases j <;> rfl) hin hw
  | @list c r down store feeds hc hm _ =>
    refine ho.owner?_of_set hc (fun j hin hw => ?_) hin hw
    obtain rfl := isInside_of_load hin
    simp only [Call.isInside] at hin
    -- the call was let in because it had its lock
    have hh : s.locks.holds ⟨c, none⟩ = true := by
      simpa [mayList, Request.guarded, Option.isSome_iff_ne_none.mp hin] using hm
    exact ho.owner?_eq_some_iff.mpr ⟨hh, by simpa [wants?, hc, Call.wants?] using hw⟩
  | advance hc hb ha =>
    exact ho.owner?_of_set hc (fun j hin hw => ha.owner?_of_isInside ho hc hb hin hw) hin hw
  | @next c r feeds p written hc _ _ =>
    refine ho.owner?_of_set hc (fun j hin hw => ?_) hin hw
    obtain rfl := isInside_of_load hin
    refine ho.owner?_of_isInside ?_ ?_
    · simpa [isInside, hc, Call.isInside] using hin
    · simpa [wants?, hc, Call.wants?] using hw
  | listFail hc _ _ => exact ho.owner?_of_set hc (fun j hin => by cases j <;> cases hin) hin hw
  | finish hc _ _ => exact ho.owner?_of_set hc (fun j hin => by cases j <;> cases hin) hin hw
  | drop hc _ => exact ho.owner?_of_set hc (fun j hin => by cases j <;> cases hin) hin hw

/-- Whoever has just got a lock has not begun. -/
theorem Move.not_inside_of_new (h : Move size s e s') (ho : s.Orderly) {o : Party} {listing : Int}
    (hnew : s'.locks.owner? listing = some o) (hold : s.locks.owner? listing ≠ some o) :
    s'.isInside o = false := by
  have hw := ((ho.move h).owner?_eq_some_iff.mp hnew).2
  by_contra hin
  exact hold (h.owner?_of_isInside ho (by simpa using hin) hw)

/-! ## A lock is not taken away -/

theorem Advance.owner?_kept {c i : Nat} {p : Pass} {feed : Feed} {st st' : Stage} {store : Store}
    {locks : Locks Party} (ha : s.Advance c i p feed e st st' store locks) (ho : s.Orderly)
    {r : Request} {feeds : List Feed} (hc : s.calls[c]? = some ⟨r, .passing feeds p⟩)
    (hb : p.batch[i]? = some ⟨feed, st⟩) {o : Party} {listing : Int}
    (hown : s.locks.owner? listing = some o) (hne : o ≠ ⟨c, some i⟩) :
    locks.owner? listing = some o := by
  have hrelease : (s.locks.release (· == ⟨c, some i⟩)).owner? listing = some o :=
    ho.locks.owner?_release_of_not hown (by simpa using hne)
  cases ha with
  | lineUp _ =>
    have hask : s.locks.asked? ⟨c, some i⟩ = none := by
      rw [ho.asked?_eq hc]
      simp [Call.wants?, Pass.wants?, hb, Stage.wantsLock]
    rw [ho.locks.owner?_lock hask, hown, Option.some_or]
  | skip _ _ => exact hrelease
  | write _ _ => exact hrelease
  | fail _ _ => exact hrelease
  | _ => exact hown

/-- The steps of other calls leave a lock with its holder. -/
theorem Move.owner?_kept (h : Move size s e s') (ho : s.Orderly) {o : Party} {listing : Int}
    (hown : s.locks.owner? listing = some o) (hne : caller? e ≠ some o.call) :
    s'.locks.owner? listing = some o := by
  have hrelease : ∀ {c : Nat}, some c ≠ some o.call →
      (s.locks.release (·.call == c)).owner? listing = some o := fun hc =>
    ho.locks.owner?_release_of_not hown (by simpa using fun h => hc (congrArg some h.symm))
  cases h with
  | join _ _ => rw [ho.locks.owner?_lock (ho.asked?_new none), hown, Option.some_or]
  | advance hc hb ha =>
    exact ha.owner?_kept ho hc hb hown fun h => hne (by rw [h, ha.caller?])
  | listFail _ _ _ => exact hrelease hne
  | finish _ _ _ => exact hrelease hne
  | drop _ _ => exact hrelease hne
  | _ => exact hown

/-! ## Others leave the listing alone -/

/-- A call that works on one listing has its lock. -/
theorem owner?_of_passing (ho : s.Orderly) (hg : s.Grounded) {c : Nat} {r : Request}
    {feeds : List Feed} {p : Pass} {feed : Feed} (hc : s.calls[c]? = some ⟨r, .passing feeds p⟩)
    (hr : r.guarded = false) (hfeed : feed ∈ feeds) :
    s.locks.owner? feed.listing = some ⟨c, none⟩ := by
  obtain ⟨listing, hl⟩ := Request.listing?_of_not_guarded hr
  rw [← (hg.calls c _ hc).own feeds p listing rfl hl] at hfeed
  refine ho.owner?_of_isInside ?_ ?_
  · simp [isInside, hc, Call.isInside, hl]
  · simp [wants?, hc, Call.wants?, hl, ← (Store.mem_findFeeds_some.mp hfeed).2]

/-- A feed is written under the lock of its listing, by itself or within its call. -/
theorem owner?_of_toWrite? (ho : s.Orderly) (hg : s.Grounded) {c i : Nat} {r : Request}
    {feeds : List Feed} {p : Pass} {feed : Feed} {st : Stage} {ps : List Period}
    (hc : s.calls[c]? = some ⟨r, .passing feeds p⟩) (hb : p.batch[i]? = some ⟨feed, st⟩)
    (hw : toWrite? p st = some ps) :
    s.locks.owner? feed.listing = some ⟨c, if p.guarded then some i else none⟩ := by
  have hp := (ho.regular c _ hc).pass feeds p rfl
  unfold toWrite? at hw
  split at hw
  · -- the call has the lock of its listing
    cases hpg : p.guarded with
    | true => simp [hpg] at hw
    | false =>
      exact owner?_of_passing ho hg hc (hp.guarded_eq ▸ hpg) (hp.feed_mem (List.mem_of_getElem? hb))
  · -- the feed has it
    cases hpg : p.guarded with
    | false => simp [hpg] at hw
    | true =>
      refine ho.owner?_of_isInside ?_ ?_
      · simp [isInside, hc, Call.isInside, hb, Stage.isCleared]
      · simp [wants?, hc, Call.wants?, Pass.wants?, hb, Stage.wantsLock]
  · cases hw

theorem Advance.sameAt {c i : Nat} {r : Request} {feeds : List Feed} {p : Pass} {feed : Feed}
    {st st' : Stage} {store : Store} {locks : Locks Party}
    (ha : s.Advance c i p feed e st st' store locks) (ho : s.Orderly) (hg : s.Grounded)
    (hc : s.calls[c]? = some ⟨r, .passing feeds p⟩) (hb : p.batch[i]? = some ⟨feed, st⟩)
    {listing : Int}
    (hne : s.locks.owner? listing ≠ some ⟨c, if p.guarded then some i else none⟩) :
    SameAt listing store s.store := by
  cases ha with
  | write hw _ =>
    refine SameAt.replaceBlocks_of_ne _ (fun hl => hne ?_) _ _
    rw [hl]
    exact owner?_of_toWrite? ho hg hc hb hw
  | _ => exact SameAt.refl _ _

/-- The store keeps what it has of a listing unless the call with its lock makes the step. -/
theorem Move.sameAt (h : Move size s e s') (ho : s.Orderly) (hg : s.Grounded) {listing : Int}
    (hne : ∀ o, s.locks.owner? listing = some o → caller? e ≠ some o.call) :
    SameAt listing s'.store s.store := by
  cases h with
  | @list c r down store feeds hc hm hlist =>
    rcases listFeeds_eq_ok hlist with ⟨other, urls, rfl, -, he⟩ | ⟨_, rfl, -, rfl, -⟩
    · obtain ⟨rfl, -⟩ := Prod.mk.inj he
      refine SameAt.replaceFeeds_of_ne _ (fun hl => ?_) _
      have hown : s.locks.owner? listing = some ⟨c, none⟩ :=
        ho.owner?_eq_some_iff.mpr ⟨hm, by simp [wants?, hc, Call.wants?, Request.listing?, hl]⟩
      exact hne _ hown rfl
    · exact SameAt.refl _ _
  | advance hc hb ha => exact ha.sameAt ho hg hc hb fun h => hne _ h ha.caller?
  | _ => exact SameAt.refl _ _

end Lodging.Sync.State
