import Lodging.Proofs.Sync.Background
import Lodging.Proofs.Sync.Stints
import Lodging.Sync.Refresher

/-! # One loop in the background

Whoever starts, stops and waits in whatever order has at most one loop at work, since a loop that runs
is behind the handle or is the one whose end is waited for, and never are both there. A pass that is at
work is the one that its loop waits for, so passes do not overlap, not even those of different loops,
and when no loop is left no pass is at work. Passes of one loop keep their distance because the next one
is due a period after the last one began, less the tolerance. -/

namespace Lodging.Sync.Refresher

variable {r r' : Refresher} {now : Nat} {x : Happening}

/-! ## What can happen -/

inductive Move (r : Refresher) (now : Nat) : Happening → Refresher → Prop
  | call {e : Event} {sync : State} : r.sync.step? r.batchSize e = some sync →
      Move r now (.call e) { r with sync }
  | again : r.ending = none → r.isRunning = true → Move r now .start r
  | start : r.ending = none → r.isRunning = false →
      Move r now .start
        { r with loops := r.loops ++ [some ⟨now, none⟩], handle := some r.loops.length }
  | tick {n due : Nat} : r.loop? n = some ⟨due, none⟩ → due ≤ now →
      Move r now (.tick n)
        { r.setLoop n (some
            ⟨Loop.nextDue (Loop.period r.interval) now due, some r.sync.calls.length⟩) with
          sync := r.sync.submit (.refresh none)
          passes := r.passes ++ [⟨now, n, r.sync.calls.length⟩] }
  | settle {n due c : Nat} : r.loop? n = some ⟨due, some c⟩ →
      (∀ k, r.sync.calls[c]? = some k → k.isOver = true) →
      Move r now (.settle n) (r.setLoop n (some ⟨due, none⟩))
  | stop : r.ending = none → Move r now .stop { r with handle := none, ending := r.handle }
  | giveUp {n : Nat} {l : Loop} : r.ending = some n → r.loop? n = some l →
      Move r now .giveUp { r.setLoop n none with sync := l.dropPass r.sync }
  | stopped {n : Nat} : r.ending = some n → r.loop? n = none →
      Move r now .stopped { r with ending := none }

theorem step?_move (h : r.step? now x = some r') : Move r now x r' := by
  cases x with
  | call e =>
    obtain ⟨sync, hs, rfl⟩ := Option.map_eq_some_iff.mp h
    exact .call hs
  | start =>
    simp only [step?, Option.ite_none_right_eq_some, Option.some.injEq] at h
    obtain ⟨he, rfl⟩ := h
    unfold start
    split
    · next hr => exact .again (by simpa using he) hr
    · next hr => exact .start (by simpa using he) (by simpa using hr)
  | tick n =>
    obtain ⟨l', hl', rfl⟩ := Option.map_eq_some_iff.mp h
    obtain ⟨l, hl, htick⟩ := Option.bind_eq_some_iff.mp hl'
    obtain ⟨due, rfl, hdue, rfl⟩ := Loop.tick?_eq_some.mp htick
    exact .tick hl hdue
  | settle n =>
    obtain ⟨l', hl', rfl⟩ := Option.map_eq_some_iff.mp h
    obtain ⟨l, hl, hsettle⟩ := Option.bind_eq_some_iff.mp hl'
    obtain ⟨due, c, rfl, hover, rfl⟩ := Loop.settle?_eq_some.mp hsettle
    exact .settle hl hover
  | stop =>
    simp only [step?, Option.ite_none_right_eq_some, Option.some.injEq] at h
    obtain ⟨he, rfl⟩ := h
    exact .stop (by simpa using he)
  | giveUp =>
    simp only [step?, giveUp?] at h
    split at h
    · next n he =>
      obtain ⟨l, hl, rfl⟩ := Option.map_eq_some_iff.mp h
      exact .giveUp he hl
    · cases h
  | stopped =>
    simp only [step?, stopped?] at h
    split at h
    · next n he =>
      simp only [Option.ite_none_right_eq_some, Option.some.injEq] at h
      obtain ⟨hl, rfl⟩ := h
      exact .stopped he (by simpa using hl)
    · cases h

theorem Move.step? (h : Move r now x r') : r.step? now x = some r' := by
  cases h with
  | call hstep => exact Option.map_eq_some_iff.mpr ⟨_, hstep, rfl⟩
  | again he hr => simp only [Refresher.step?, he, Refresher.start, hr, Option.isNone_none, if_true]
  | start he hr =>
    simp only [Refresher.step?, he, Refresher.start, hr, Option.isNone_none, if_true,
      Bool.false_eq_true, if_false]
  | tick hl hdue =>
    simp only [Refresher.step?, tick?, hl, Option.bind_some,
      Loop.tick?_eq_some.mpr ⟨_, rfl, hdue, rfl⟩, Option.map_some]
  | settle hl hover =>
    simp only [Refresher.step?, settle?, hl, Option.bind_some,
      Loop.settle?_eq_some.mpr ⟨_, _, rfl, hover, rfl⟩, Option.map_some]
  | stop he => simp only [Refresher.step?, he, Option.isNone_none, if_true]
  | giveUp he hl => simp only [Refresher.step?, giveUp?, he, hl, Option.map_some]
  | stopped he hl => simp only [Refresher.step?, stopped?, he, hl, Option.isNone_none, if_true]

theorem run?_cons {r₁ : Refresher} (hm : Move r now x r₁) (xs : List (Nat × Happening)) :
    r.run? ((now, x) :: xs) = r₁.run? xs := by
  rw [run?, hm.step?, Option.bind_some]

/-- What lasts through everything that happens lasts through every run. -/
theorem run?_induction {motive : Refresher → Prop}
    (step : ∀ {r r' : Refresher} {now : Nat} {x : Happening}, motive r → Move r now x r' → motive r')
    {xs : List (Nat × Happening)} (hr : motive r) (h : r.run? xs = some r') : motive r' := by
  induction xs generalizing r with
  | nil => exact Option.some.inj h ▸ hr
  | cons x xs ih =>
    obtain ⟨r₁, h₁, h₂⟩ := Option.bind_eq_some_iff.mp h
    exact ih (step hr (step?_move h₁)) h₂

theorem loop?_setLoop {n : Nat} {l₀ : Loop} (h : r.loop? n = some l₀) (l : Option Loop) (m : Nat) :
    (r.setLoop n l).loop? m = if m = n then l else r.loop? m := by
  have hlt : n < r.loops.length := by
    by_contra hge
    simp [loop?, List.getElem?_eq_none (Nat.le_of_not_lt hge)] at h
  by_cases hm : m = n
  · simp [loop?, setLoop, hm, hlt]
  · simp [loop?, setLoop, hm, Ne.symm hm]

/-! ## One loop -/

/-- A loop that has not ended is known, and there is only one to be known. -/
structure Single (r : Refresher) : Prop where
  known : ∀ n l, r.loop? n = some l → r.handle = some n ∨ r.ending = some n
  apart : r.ending ≠ none → r.handle = none

theorem Single.unique (h : r.Single) {m n : Nat} {k l : Loop} (hm : r.loop? m = some k)
    (hn : r.loop? n = some l) : m = n := by
  have hm := h.known m k hm
  have hn := h.known n l hn
  have := h.apart
  grind

/-- If a loop can be started, none is there. -/
theorem Single.loop?_eq_none (h : r.Single) (he : r.ending = none) (hr : r.isRunning = false)
    (n : Nat) : r.loop? n = none := by
  cases hl : r.loop? n with
  | none => rfl
  | some l =>
    rcases h.known n l hl with hn | hn
    · simp [isRunning, hn, hl] at hr
    · rw [he] at hn
      cases hn

theorem Single.setLoop (h : r.Single) {n : Nat} {l₀ : Loop} (hl : r.loop? n = some l₀)
    (l : Option Loop) : (r.setLoop n l).Single := by
  refine ⟨fun m k hm => ?_, h.apart⟩
  rw [loop?_setLoop hl] at hm
  split at hm
  · next he => exact he ▸ h.known n l₀ hl
  · exact h.known m k hm

theorem Single.move (h : r.Single) (hm : Move r now x r') : r'.Single := by
  cases hm with
  | call _ => exact ⟨h.known, h.apart⟩
  | again _ _ => exact h
  | start he hr =>
    refine ⟨fun n l hn => .inl ?_, fun hne => absurd he hne⟩
    by_cases hlt : n < r.loops.length
    · have hnone := h.loop?_eq_none he hr n
      rw [loop?, List.getElem?_append_left hlt] at hn
      rw [loop?, hn] at hnone
      cases hnone
    · by_cases heq : n = r.loops.length
      · rw [heq]
      · simp [loop?, List.getElem?_eq_none (l := r.loops ++ [some ⟨now, none⟩]) (i := n)
          (by simp; omega)] at hn
  | tick hl _ => exact ⟨(h.setLoop hl _).known, h.apart⟩
  | settle hl _ => exact h.setLoop hl _
  | stop he =>
    refine ⟨fun n l hn => .inr ?_, fun _ => rfl⟩
    rcases h.known n l hn with hk | hk
    · exact hk
    · rw [he] at hk
      cases hk
  | giveUp _ hl => exact ⟨(h.setLoop hl none).known, h.apart⟩
  | @stopped n he hn =>
    refine ⟨fun m l hm => .inl ?_, fun hne => absurd rfl hne⟩
    rcases h.known m l hm with hk | hk
    · exact hk
    · rw [he] at hk
      have hm : r.loop? m = some l := hm
      rw [← Option.some.inj hk, hn] at hm
      cases hm

theorem single_create (batchSize interval : Nat) : (create batchSize interval).Single := by
  constructor <;> simp [create, loop?]

/-! ## The pace of passes -/

theorem due_le_nextDue (period now due : Nat) : due ≤ Loop.nextDue period now due := by
  unfold Loop.nextDue
  split <;> omega

/-- The next pass is due a period after this one began, less the tolerance. -/
theorem add_period_le_nextDue (period now due : Nat) :
    now + period ≤ Loop.nextDue period now due + Loop.tolerance := by
  unfold Loop.nextDue
  split <;> omega

structure Paced (r : Refresher) : Prop where
  /-- A pass that is not over is the one that its loop is at. -/
  begun : ∀ p ∈ r.passes, p.loop < r.loops.length ∧ ∃ k, r.sync.calls[p.call]? = some k ∧
    (k.isOver = true ∨ ∃ due, r.loop? p.loop = some ⟨due, some p.call⟩)
  due : ∀ p ∈ r.passes, ∀ l, r.loop? p.loop = some l →
    p.time + Loop.period r.interval ≤ l.due + Loop.tolerance
  spaced : r.passes.Pairwise fun p q =>
    p.loop = q.loop → p.time + Loop.period r.interval ≤ q.time + Loop.tolerance
  inOrder : r.passes.Pairwise fun p q => p.call < q.call

/-- Calls may change as they like, as long as those that are over stay so. -/
def Grows (s s' : State) : Prop :=
  ∀ (c : Nat) (k : Call), s.calls[c]? = some k →
    ∃ k', s'.calls[c]? = some k' ∧ (k.isOver = true → k'.isOver = true)

theorem grows_of_step? {s s' : State} {size : Nat} {e : Event} (h : s.step? size e = some s') :
    Grows s s' := by
  intro c k hk
  have hm := State.step?_move h
  cases ho : k.isOver with
  | true => exact ⟨k, hm.calls_of_over hk ho, fun _ => ho⟩
  | false =>
    obtain ⟨k', hk', -⟩ := hm.request hk
    exact ⟨k', hk', fun h => by cases h⟩

theorem grows_dropPass (s : State) (l : Loop) : Grows s (l.dropPass s) := by
  rcases l.dropPass_eq s with h | ⟨c, h⟩
  · rw [h]
    exact fun c k hk => ⟨k, hk, id⟩
  · have hstep : s.step? 0 (.drop c) = some (l.dropPass s) := h
    exact grows_of_step? hstep

/-- A pass that is given up is over. -/
theorem over_of_dropPass {s : State} {l : Loop} {c : Nat} {k : Call} (hl : l.call = some c)
    (hk : (l.dropPass s).calls[c]? = some k) : k.isOver = true := by
  simp only [Loop.dropPass, hl, State.drop?] at hk
  split at hk
  · next k₀ hk₀ =>
    split at hk
    · next ho =>
      rw [Option.getD_none, hk₀] at hk
      exact Option.some.inj hk ▸ ho
    · rw [Option.getD_some, State.setPhase_eq hk₀] at hk
      have hk := (State.calls_set_self hk₀ _).symm.trans hk
      exact Option.some.inj hk ▸ rfl
  · next hnone =>
    rw [Option.getD_none, hnone] at hk
    cases hk

theorem Paced.call (h : r.Paced) {sync : State} (hsync : Grows r.sync sync) :
    Paced { r with sync } where
  begun := by
    intro p hp
    obtain ⟨hlt, k, hk, hat⟩ := h.begun p hp
    obtain ⟨k', hk', hover⟩ := hsync _ k hk
    exact ⟨hlt, k', hk', hat.imp_left hover⟩
  due := h.due
  spaced := h.spaced
  inOrder := h.inOrder

/-- A loop is put in the place of another loop that is not due later, and waits for the same pass unless
that is over. -/
theorem Paced.setLoop (h : r.Paced) {n : Nat} {l₀ : Loop} {l : Option Loop}
    (hl₀ : r.loop? n = some l₀) (hdue : ∀ k, l = some k → l₀.due ≤ k.due)
    (hcall : ∀ c k, l₀.call = some c → r.sync.calls[c]? = some k → k.isOver = true) :
    (r.setLoop n l).Paced where
  begun := by
    intro p hp
    obtain ⟨hlt, k, hk, hat⟩ := h.begun p hp
    refine ⟨by simpa [Refresher.setLoop] using hlt, k, hk, ?_⟩
    rcases hat with hover | ⟨due, hloop⟩
    · exact .inl hover
    · by_cases hn : p.loop = n
      · rw [hn, hl₀] at hloop
        exact .inl (hcall _ k (by rw [Option.some.inj hloop]) hk)
      · exact .inr ⟨due, by rw [loop?_setLoop hl₀, if_neg hn, hloop]⟩
  due := by
    intro p hp k hk
    rw [loop?_setLoop hl₀] at hk
    split at hk
    · next hn => exact Nat.le_trans (h.due p hp l₀ (hn ▸ hl₀)) (Nat.add_le_add_right (hdue k hk) _)
    · exact h.due p hp k hk
  spaced := h.spaced
  inOrder := h.inOrder

theorem Paced.tick (h : r.Paced) {n due : Nat} (hl : r.loop? n = some ⟨due, none⟩)
    (hdue : due ≤ now) :
    Paced { r.setLoop n (some
        ⟨Loop.nextDue (Loop.period r.interval) now due, some r.sync.calls.length⟩) with
      sync := r.sync.submit (.refresh none)
      passes := r.passes ++ [⟨now, n, r.sync.calls.length⟩] } := by
  have hset := h.setLoop
    (l := some ⟨Loop.nextDue (Loop.period r.interval) now due, some r.sync.calls.length⟩) hl
    (fun k hk => Option.some.inj hk ▸ due_le_nextDue ..) (fun c k hc => by cases hc)
  have hstep : r.sync.step? 0 (.submit (.refresh none)) = some (r.sync.submit (.refresh none)) := rfl
  have hgrown := hset.call (grows_of_step? hstep)
  have hlt : n < r.loops.length := by
    by_contra hge
    simp [loop?, List.getElem?_eq_none (Nat.le_of_not_lt hge)] at hl
  have hnew : (r.sync.submit (.refresh none)).calls[r.sync.calls.length]? =
      some ⟨.refresh none, .waiting⟩ := List.getElem?_concat_length
  refine ⟨?_, ?_, ?_, ?_⟩
  · intro p hp
    rcases List.mem_append.mp hp with hp | hp
    · exact hgrown.begun p hp
    · rw [List.mem_singleton.mp hp]
      exact ⟨by simpa [Refresher.setLoop] using hlt, _, hnew, .inr ⟨_, by
        exact (loop?_setLoop hl _ n).trans (if_pos rfl)⟩⟩
  · intro p hp k hk
    rcases List.mem_append.mp hp with hp | hp
    · exact hgrown.due p hp k hk
    · rw [List.mem_singleton.mp hp] at hk ⊢
      have hk := ((loop?_setLoop hl _ n).trans (if_pos rfl)).symm.trans hk
      rw [← Option.some.inj hk]
      exact add_period_le_nextDue ..
  · refine List.pairwise_append.mpr ⟨h.spaced, List.pairwise_singleton .., fun p hp q hq hpq => ?_⟩
    rw [List.mem_singleton.mp hq] at hpq ⊢
    have hpq : p.loop = n := hpq
    exact Nat.le_trans (h.due p hp _ (hpq ▸ hl)) (Nat.add_le_add_right hdue _)
  · refine List.pairwise_append.mpr ⟨h.inOrder, List.pairwise_singleton .., fun p hp q hq => ?_⟩
    rw [List.mem_singleton.mp hq]
    obtain ⟨-, k, hk, -⟩ := h.begun p hp
    exact (List.getElem?_eq_some_iff.mp hk).1

theorem Paced.move (h : r.Paced) (hm : Move r now x r') : r'.Paced := by
  cases hm with
  | call hstep => exact h.call (grows_of_step? hstep)
  | again _ _ => exact h
  | start _ _ =>
    have hold : ∀ p ∈ r.passes,
        (r.loops ++ [some ⟨now, none⟩])[p.loop]?.join = r.loop? p.loop := fun p hp => by
      rw [List.getElem?_append_left (h.begun p hp).1, loop?]
    refine ⟨fun p hp => ?_, fun p hp l hl => ?_, h.spaced, h.inOrder⟩
    · obtain ⟨hlt, k, hk, hat⟩ := h.begun p hp
      rw [← hold p hp] at hat
      exact ⟨by simp only [List.length_append]; omega, k, hk, hat⟩
    · exact h.due p hp l ((hold p hp).symm.trans hl)
  | tick hl hdue => exact h.tick hl hdue
  | settle hl hover =>
    refine h.setLoop hl (fun k hk => Option.some.inj hk ▸ Nat.le_refl _) fun c k hc hk => ?_
    exact hover k (Option.some.inj hc ▸ hk)
  | stop _ => exact ⟨h.begun, h.due, h.spaced, h.inOrder⟩
  | @giveUp n l _ hl =>
    -- the pass is given up first, so that it is over when its loop goes
    have hgrown := h.call (grows_dropPass r.sync l)
    refine hgrown.setLoop (n := n) hl (fun k hk => by cases hk) fun c k hc hk => ?_
    exact over_of_dropPass hc hk
  | stopped _ _ => exact ⟨h.begun, h.due, h.spaced, h.inOrder⟩

theorem paced_create (batchSize interval : Nat) : (create batchSize interval).Paced := by
  constructor <;> simp [create]

def AtWork (r : Refresher) (p : Beginning) : Prop :=
  ∃ k, r.sync.calls[p.call]? = some k ∧ k.isOver = false

theorem Paced.loop_of_atWork (h : r.Paced) {p : Beginning} (hp : p ∈ r.passes)
    (hw : r.AtWork p) : ∃ due, r.loop? p.loop = some ⟨due, some p.call⟩ := by
  obtain ⟨k, hk, ho⟩ := hw
  obtain ⟨-, k', hk', hat⟩ := h.begun p hp
  rcases hat with hover | hat
  · rw [hk] at hk'
    rw [← Option.some.inj hk', ho] at hover
    cases hover
  · exact hat

/-- Of all passes, at most one is at work. -/
theorem Paced.unique (h : r.Paced) (hs : r.Single) {p q : Beginning} (hp : p ∈ r.passes)
    (hq : q ∈ r.passes) (hpw : r.AtWork p) (hqw : r.AtWork q) : p = q := by
  obtain ⟨d, hpl⟩ := h.loop_of_atWork hp hpw
  obtain ⟨d', hql⟩ := h.loop_of_atWork hq hqw
  have hcall : p.call = q.call := by
    rw [hs.unique hpl hql, hql] at hpl
    simp only [Option.some.injEq, Loop.mk.injEq] at hpl
    exact hpl.2.symm
  have hd : (r.passes.map (·.call)).Nodup :=
    List.pairwise_map.mpr (h.inOrder.imp fun hlt => Nat.ne_of_lt hlt)
  exact List.inj_on_of_nodup_map hd hp hq hcall

/-! ## While no loop is there -/

/-- No loop is there, and none is on its way out. -/
def Idle (r : Refresher) : Prop := r.handle = none ∧ r.ending = none

theorem Single.loop?_of_idle (h : r.Single) (hi : r.Idle) (n : Nat) : r.loop? n = none :=
  h.loop?_eq_none hi.2 (by simp [isRunning, hi.1]) n

/-- What happens without a start brings no pass, and nothing happens in the passes that there were. -/
theorem Idle.move (hi : r.Idle) (hs : r.Single) (hp : r.Paced) (hm : Move r now x r')
    (hx : x ≠ .start) : r'.Idle ∧ r'.passes = r.passes ∧
      ∀ e, x = .call e → ∀ p ∈ r.passes, State.caller? e ≠ some p.call := by
  have hnone := hs.loop?_of_idle hi
  cases hm with
  | @call e sync hstep =>
    refine ⟨hi, rfl, ?_⟩
    rintro _ ⟨⟩ p hmem hcaller
    obtain ⟨-, k, hk, hat⟩ := hp.begun p hmem
    rcases hat with hover | ⟨due, hl⟩
    · rw [(State.step?_move hstep).not_over hcaller hk] at hover
      cases hover
    · rw [hnone] at hl
      cases hl
  | again _ _ => exact absurd rfl hx
  | start _ _ => exact absurd rfl hx
  | tick hl _ =>
    rw [hnone] at hl
    cases hl
  | settle hl _ =>
    rw [hnone] at hl
    cases hl
  | stop _ => exact ⟨⟨rfl, hi.1⟩, rfl, fun e h => by cases h⟩
  | giveUp he _ =>
    rw [hi.2] at he
    cases he
  | stopped he _ =>
    rw [hi.2] at he
    cases he

theorem Idle.run {xs : List (Nat × Happening)} (hi : r.Idle) (hs : r.Single) (hp : r.Paced)
    (hxs : ∀ y ∈ xs, y.2 ≠ .start) (h : r.run? xs = some r') :
    r'.passes = r.passes ∧
      ∀ y ∈ xs, ∀ e, y.2 = .call e → ∀ p ∈ r.passes, State.caller? e ≠ some p.call := by
  induction xs generalizing r with
  | nil => exact ⟨by rw [← Option.some.inj h], by simp⟩
  | cons y xs ih =>
    obtain ⟨r₁, h₁, h₂⟩ := Option.bind_eq_some_iff.mp h
    have hm := step?_move h₁
    obtain ⟨hi₁, hsame, hquiet⟩ := hi.move hs hp hm (hxs y (by simp))
    obtain ⟨hlast, hrest⟩ := ih hi₁ (hs.move hm) (hp.move hm) (fun z hz => hxs z (by simp [hz])) h₂
    refine ⟨hlast.trans hsame, fun z hz => ?_⟩
    rcases List.mem_cons.mp hz with rfl | hz
    · exact hquiet
    · rw [← hsame]
      exact hrest z hz

end Lodging.Sync.Refresher
