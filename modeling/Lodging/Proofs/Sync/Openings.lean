import Lodging.Proofs.Sync.Discipline

/-! # What can be done

As long as a call is not over there is a step that one of the calls can make. Either the call itself can
go on, or it waits for a lock, or all the feeds of its batch that are not done do; then somebody has the
lock, who waits for nothing. -/

namespace Lodging.Sync

open Calendar

namespace Pass

theorem exists_of_mapM_eq_none {slots : List Slot} (h : slots.mapM (·.stage.blocks?) = none) :
    ∃ slot ∈ slots, slot.stage.blocks? = none := by
  induction slots with
  | nil => cases h
  | cons slot slots ih =>
    cases hslot : slot.stage.blocks? with
    | none => exact ⟨slot, List.mem_cons_self, hslot⟩
    | some bs =>
      have hrest : slots.mapM (·.stage.blocks?) = none := by
        cases hw : slots.mapM (·.stage.blocks?) with
        | none => rfl
        | some _ => simp [hslot, hw] at h
      obtain ⟨other, hmem, hother⟩ := ih hrest
      exact ⟨other, List.mem_cons_of_mem _ hmem, hother⟩

/-- As long as there are no results for a batch, one of its feeds is not done. -/
theorem exists_of_written?_eq_none {p : Pass} (h : p.written? = none) :
    ∃ (i : Nat) (slot : Slot), p.batch[i]? = some slot ∧ slot.stage.blocks? = none := by
  obtain ⟨slot, hs, hnone⟩ := exists_of_mapM_eq_none h
  obtain ⟨i, hi⟩ := List.mem_iff_getElem?.mp hs
  exact ⟨i, slot, hi, hnone⟩

/-- Only the feeds of guarded passes ask for locks. -/
theorem Regular.guarded_of_wantsLock {guarded : Bool} {feeds : List Feed} {p : Pass}
    (hp : p.Regular guarded feeds) {slot : Slot} (hs : slot ∈ p.batch)
    (hw : slot.stage.wantsLock = true) : guarded = true := by
  refine Bool.not_eq_false _ |>.mp fun hg => ?_
  rw [hp.unguarded hg slot hs] at hw
  cases hw

end Pass

namespace State

def CanDo (size : Nat) (P : Event → Prop) (s : State) : Prop :=
  ∃ e, P e ∧ (s.step? size e).isSome = true

/-- Of every kind of step that carries on with a call there is one that is looked for, where a download
can end. -/
structure Offers (P : Event → Prop) (s : State) : Prop where
  list : ∀ c, ∃ down, P (.list c down)
  send : ∀ c i, P (.send c i)
  receive : ∀ c i p feed, s.slot? c i = some (p, ⟨feed, .fetching⟩) → ∃ d, P (.receive c i d)
  lineUp : ∀ c i, P (.lineUp c i)
  recheck : ∀ c i, ∃ down, P (.recheck c i down)
  write : ∀ c i found, s.slot? c i = some found → ∃ down, P (.write c i down)
  turn : ∀ c, P (.turn c)

variable {size : Nat} {P : Event → Prop} {s : State}

/-- Somebody has the lock that somebody wants. -/
theorem Orderly.exists_holder (hs : s.Orderly) {o : Party} {l : Int} (h : s.wants? o = some l) :
    ∃ o', s.locks.holds o' = true ∧ s.wants? o' = some l := by
  rw [← hs.tickets] at h
  cases ho : s.locks.owner? l with
  | none => exact absurd h (hs.locks.owner?_eq_none_iff.mp ho o)
  | some o' =>
    obtain ⟨hh, ha⟩ := hs.locks.owner?_eq_some_iff.mp ho
    exact ⟨o', hh, hs.tickets o' ▸ ha⟩

theorem Orderly.wants?_of_holds (hs : s.Orderly) {o : Party} (h : s.locks.holds o = true) :
    ∃ l, s.wants? o = some l := by
  obtain ⟨t, ht, -⟩ := Locks.holds_iff.mp h
  exact ⟨t.listing, by rw [← hs.tickets, Locks.asked?, ht]; rfl⟩

variable {c i : Nat} {r : Request} {feeds : List Feed} {p : Pass} {slot : Slot}

theorem slot?_of_batch (hc : s.calls[c]? = some ⟨r, .passing feeds p⟩)
    (hb : p.batch[i]? = some slot) : s.slot? c i = some (p, slot) := by
  simp [slot?, hc, hb]

theorem Offers.can_list (hP : s.Offers P) (hc : s.calls[c]? = some ⟨r, .waiting⟩)
    (hmay : s.mayList c r = true) : s.CanDo size P := by
  obtain ⟨down, hdown⟩ := hP.list c
  exact ⟨.list c down, hdown, by simp [step?, list?, hc, hmay]⟩

theorem Offers.can_write (hP : s.Offers P) (hs : s.slot? c i = some (p, slot)) {ps : List Period}
    (hps : toWrite? p slot.stage = some ps) : s.CanDo size P := by
  obtain ⟨down, hdown⟩ := hP.write c i _ hs
  exact ⟨.write c i down, hdown, by simp [step?, write?, writes?, hs, hps]⟩

/-- A feed that is not done goes on, or there is somebody who has the lock it wants. -/
theorem Offers.can_advance (hP : s.Offers P) (hs : s.slot? c i = some (p, slot))
    (hst : slot.stage.blocks? = none) (hlock : slot.stage.wantsLock = true → s.CanDo size P) :
    s.CanDo size P := by
  obtain ⟨feed, st⟩ := slot
  cases st with
  | idle => exact ⟨.send c i, hP.send c i, by simp [step?, send?, hs]⟩
  | fetching =>
    obtain ⟨d, hd⟩ := hP.receive c i p feed hs
    exact ⟨.receive c i d, hd, by simp [step?, receive?, hs]⟩
  | fetched ps =>
    cases hg : p.guarded with
    | true => exact ⟨.lineUp c i, hP.lineUp c i, by simp [step?, lineUp?, hs, hg]⟩
    | false => exact hP.can_write hs (show toWrite? p (.fetched ps) = some ps by simp [toWrite?, hg])
  | queued ps => exact hlock rfl
  | cleared ps => exact hlock rfl
  | done bs => cases hst

theorem Offers.can_pass (hP : s.Offers P) (hc : s.calls[c]? = some ⟨r, .passing feeds p⟩)
    (hlock : ∀ (i : Nat) (slot : Slot), p.batch[i]? = some slot → slot.stage.wantsLock = true →
      s.CanDo size P) :
    s.CanDo size P := by
  cases hw : p.written? with
  | none =>
    obtain ⟨i, slot, hb, hst⟩ := Pass.exists_of_written?_eq_none hw
    exact hP.can_advance (slot?_of_batch hc hb) hst (hlock i slot hb)
  | some written => exact ⟨.turn c, hP.turn c, by simp [step?, turn?, hc, hw]⟩

/-- Who has a lock can go on under it. -/
theorem Offers.can_use_lock (hP : s.Offers P) (hs : s.Orderly) {o : Party}
    (hh : s.locks.holds o = true) : s.CanDo size P := by
  obtain ⟨c, j⟩ := o
  obtain ⟨l, hl⟩ := hs.wants?_of_holds hh
  obtain ⟨⟨r, phase⟩, hc, hw⟩ := Option.bind_eq_some_iff.mp hl
  have hreg := hs.regular c _ hc
  cases phase with
  | waiting =>
    cases j with
    | none => exact hP.can_list hc (by simp [mayList, hh])
    | some i => cases hw
  | passing feeds p =>
    have hp := hreg.pass feeds p rfl
    cases j with
    | none =>
      -- the feeds of the call work under its own lock
      refine hP.can_pass hc fun i slot hb hwant => ?_
      have hg := hp.guarded_of_wantsLock (List.mem_of_getElem? hb) hwant
      have hnone : r.listing? = none := by simpa [Request.guarded] using hg
      rw [Call.wants?, hnone] at hw
      cases hw
    | some i =>
      obtain ⟨⟨feed, st⟩, hb, hst⟩ := Option.bind_eq_some_iff.mp hw
      have hslot := slot?_of_batch hc hb
      obtain ⟨hwant, -⟩ := Option.ite_none_right_eq_some.mp hst
      have hg : p.guarded = true :=
        hp.guarded_eq.trans (hp.guarded_of_wantsLock (List.mem_of_getElem? hb) hwant)
      cases st with
      | queued ps =>
        obtain ⟨down, hdown⟩ := hP.recheck c i
        exact ⟨.recheck c i down, hdown, by simp [step?, recheck?, hslot, hh]⟩
      | cleared ps =>
        exact hP.can_write hslot (show toWrite? p (.cleared ps) = some ps by simp [toWrite?, hg])
      | _ => cases hwant
  | finished o => cases j <;> cases hw
  | dropped => cases j <;> cases hw

/-- Where a call is not over there is something that can be done. -/
theorem Offers.can_go_on (hP : s.Offers P) (hs : s.Orderly) {k : Call}
    (hc : s.calls[c]? = some k) (hk : k.isOver = false) : s.CanDo size P := by
  have hwanted : ∀ {o : Party} {l : Int}, s.wants? o = some l → s.CanDo size P := fun hl => by
    obtain ⟨o', hh, -⟩ := hs.exists_holder hl
    exact hP.can_use_lock hs hh
  obtain ⟨r, phase⟩ := k
  cases phase with
  | waiting =>
    cases hr : r.listing? with
    | none => exact hP.can_list hc (by simp [mayList, Request.guarded, hr])
    | some l =>
      refine hwanted (o := ⟨c, none⟩) (l := l) ?_
      simp [wants?, hc, Call.wants?, hr]
  | passing feeds p =>
    refine hP.can_pass hc fun i slot hb hwant => ?_
    refine hwanted (o := ⟨c, some i⟩) (l := slot.feed.listing) ?_
    simp [wants?, hc, Call.wants?, Pass.wants?, hb, hwant]
  | finished o => cases hk
  | dropped => cases hk

end State

end Lodging.Sync
