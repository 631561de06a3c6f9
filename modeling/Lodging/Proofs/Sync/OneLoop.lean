import Lodging.Proofs.Sync.RefresherService

/-! # What the background loop keeps to

The loop is alone, its passes keep their distance and survive failures, and a stop ends it for good. The
passes that are noted down are those that begin in the run. -/

namespace Lodging.Sync.Refresher

variable {r r' : Refresher} {now : Nat} {x : Happening}

def ticks (xs : List (Nat × Happening)) : List (Nat × Nat) :=
  xs.filterMap fun y =>
    match y.2 with
    | .tick n => some (y.1, n)
    | _ => none

theorem Move.passes (hm : Move r now x r') :
    r'.passes.map (fun p => (p.time, p.loop)) =
      r.passes.map (fun p => (p.time, p.loop)) ++ ticks [(now, x)] := by
  cases hm <;> simp [ticks, setLoop]

theorem passes_run {xs : List (Nat × Happening)} (h : r.run? xs = some r') :
    r'.passes.map (fun p => (p.time, p.loop)) =
      r.passes.map (fun p => (p.time, p.loop)) ++ ticks xs := by
  induction xs generalizing r with
  | nil => simp [ticks, Option.some.inj h]
  | cons y xs ih =>
    obtain ⟨r₁, h₁, h₂⟩ := Option.bind_eq_some_iff.mp h
    rw [ih h₂, (step?_move h₁).passes, List.append_assoc]
    exact congrArg _ (List.filterMap_append (l := [y])).symm

/-- Only a loop that is given up ends. -/
theorem Move.loop?_isSome (hm : Move r now x r') (hx : x ≠ .giveUp) {n : Nat}
    (hn : (r.loop? n).isSome) : (r'.loop? n).isSome := by
  have hset : ∀ {m : Nat} {l₀ l : Loop}, r.loop? m = some l₀ →
      ((r.setLoop m (some l)).loop? n).isSome := by
    intro m l₀ l hm
    rw [loop?_setLoop hm]
    split
    · rfl
    · exact hn
  cases hm with
  | call _ => exact hn
  | again _ _ => exact hn
  | start _ _ =>
    have hlt : n < r.loops.length := by
      by_contra hge
      simp [loop?, List.getElem?_eq_none (Nat.le_of_not_lt hge)] at hn
    rw [loop?, List.getElem?_append_left hlt]
    exact hn
  | tick hl _ => exact hset hl
  | settle hl _ => exact hset hl
  | stop _ => exact hn
  | giveUp _ _ => exact absurd rfl hx
  | stopped _ _ => exact hn

theorem Move.interval (hm : Move r now x r') : r'.interval = r.interval := by
  cases hm <;> rfl

/-- A loop that runs can be started again, which changes nothing. -/
theorem Single.again (hs : r.Single) (hr : r.isRunning = true) : Move r now .start r := by
  obtain ⟨n, hn, -⟩ := (Option.any_eq_true _ _).mp hr
  refine .again ?_ hr
  by_contra he
  rw [hs.apart he] at hn
  cases hn

/-- A loop that is started has a pass at once. -/
theorem tick_of_start (he : r.ending = none) (hr : r.isRunning = false) :
    ∃ r₁ r₂, Move r now .start r₁ ∧ Move r₁ now (.tick r.loops.length) r₂ ∧
      r₂.sync = r.sync.submit (.refresh none) := by
  refine ⟨_, _, .start he hr, .tick ?_ (Nat.le_refl now), rfl⟩
  simp [loop?]

/-- A stop that has returned leaves no loop. -/
theorem Single.idle (hs : r.Single)
    (hm : Move r now .stopped r' ∨ r.handle = none ∧ Move r now .stop r') :
    r'.Idle ∧ r'.passes = r.passes := by
  rcases hm with hm | ⟨hh, hm⟩
  · cases hm with
    | stopped he _ => exact ⟨⟨hs.apart (by simp [he]), rfl⟩, rfl⟩
  · cases hm with
    | stop _ => exact ⟨⟨rfl, hh⟩, rfl⟩

/-- However the loop is started and stopped and whatever happens in its passes: there is one loop at
most, and starting one that runs does nothing; there is one pass at most at work, and a pass of a loop
begins a period after the one before it at the earliest, less five milliseconds; only a loop that is
given up ends, and one whose pass is over, however it ended, can go on to the next; where nothing runs
or is waited for, a start lets a pass begin at once; and a stop that has returned leaves nothing that
makes a step, until the next start. The service sees its own run in all that. -/
theorem one_loop {batchSize interval : Nat} {xs : List (Nat × Happening)} {r : Refresher}
    (h : (create batchSize interval).run? xs = some r) :
    (Service.create batchSize interval).run? (signals xs) = some r.service ∧
    r.passes.map (fun p => (p.time, p.loop)) = ticks xs ∧
    (∀ m n, (r.loop? m).isSome → (r.loop? n).isSome → m = n) ∧
    (∀ now, r.isRunning = true → r.step? now .start = some r) ∧
    (∀ p ∈ r.passes, ∀ q ∈ r.passes, r.AtWork p → r.AtWork q → p = q) ∧
    (r.passes.Pairwise fun p q => p.loop = q.loop → p.time + max interval 1000 ≤ q.time + 5) ∧
    (∀ now x r₁ n, r.step? now x = some r₁ → x ≠ .giveUp → (r.loop? n).isSome →
      (r₁.loop? n).isSome) ∧
    (∀ n due c k, r.loop? n = some ⟨due, some c⟩ → r.sync.calls[c]? = some k → k.isOver = true →
      ∀ now later, due ≤ later → ∃ r₁ r₂, r.step? now (.settle n) = some r₁ ∧
        r₁.step? later (.tick n) = some r₂) ∧
    (∀ now, r.isRunning = false → r.ending = none → ∃ r₁ r₂, r.step? now .start = some r₁ ∧
      r₁.step? now (.tick r.loops.length) = some r₂ ∧
      r₂.sync = r.sync.submit (.refresh none)) ∧
    (∀ now r₁, r.step? now .stopped = some r₁ ∨ r.handle = none ∧ r.step? now .stop = some r₁ →
      ∀ ys r₂, (∀ y ∈ ys, y.2 ≠ .start) → r₁.run? ys = some r₂ →
        r₂.passes = r₁.passes ∧ ∀ y ∈ ys, ∀ e, y.2 = .call e → ∀ p ∈ r.passes,
          State.caller? e ≠ some p.call) := by
  have hcreate := single_create batchSize interval
  have hs : r.Single := run?_induction Single.move hcreate h
  have hp : r.Paced := run?_induction Paced.move (paced_create batchSize interval) h
  have hinterval : r.interval = interval :=
    run?_induction (motive := fun r => r.interval = interval)
      (fun hr hm => hm.interval.trans hr) rfl h
  refine ⟨hcreate.run_service h, (passes_run h).trans (by simp [create]), ?_, ?_, ?_, ?_, ?_, ?_, ?_,
    ?_⟩
  · intro m n hm hn
    obtain ⟨k, hk⟩ := Option.isSome_iff_exists.mp hm
    obtain ⟨l, hl⟩ := Option.isSome_iff_exists.mp hn
    exact hs.unique hk hl
  · exact fun now hr => (hs.again hr).step?
  · exact fun p hpm q hqm => hp.unique hs hpm hqm
  · have hspaced := hp.spaced
    rw [Loop.period, hinterval] at hspaced
    exact hspaced
  · exact fun now x r₁ n hx hne hn => (step?_move hx).loop?_isSome hne hn
  · intro n due c k hl hk ho now later hlater
    have hsettle : Move r now (.settle n) (r.setLoop n (some ⟨due, none⟩)) :=
      .settle hl fun k' hk' => Option.some.inj (hk.symm.trans hk') ▸ ho
    have hwaits := (loop?_setLoop hl (some ⟨due, none⟩) n).trans (if_pos rfl)
    exact ⟨_, _, hsettle.step?, (Move.tick hwaits hlater).step?⟩
  · intro now hr he
    obtain ⟨r₁, r₂, h₁, h₂, hsync⟩ := tick_of_start he hr
    exact ⟨r₁, r₂, h₁.step?, h₂.step?, hsync⟩
  · intro now r₁ hr₁ ys r₂ hys hrun
    have hm : Move r now .stopped r₁ ∨ r.handle = none ∧ Move r now .stop r₁ :=
      hr₁.imp step?_move (And.imp_right step?_move)
    obtain ⟨hidle, hsame⟩ := hs.idle hm
    have hmove : ∃ x, Move r now x r₁ := hm.elim (⟨_, ·⟩) (⟨_, ·.2⟩)
    obtain ⟨x, hx⟩ := hmove
    rw [← hsame]
    exact hidle.run (hs.move hx) (hp.move hx) hys hrun

/-- The store is down in the first pass; the second begins late and is given up while it waits for a
download. -/
def watch : List (Nat × Happening) :=
  [(0, .call (.submit (.setFeeds 1 ["http://a"]))), (0, .call (.list 0 [])), (0, .call (.send 0 0)),
    (0, .call (.receive 0 0 (.error (.fetch "down")))), (0, .call (.write 0 0 [])),
    (0, .call (.turn 0)), (10, .start), (10, .tick 0), (12, .call (.list 1 [.findFeeds])),
    (12, .settle 0), (500, .start), (1020, .tick 0), (1020, .call (.list 2 [])),
    (1021, .call (.send 2 0)), (1030, .stop), (1031, .giveUp)]

def aftermath : List (Nat × Happening) :=
  [(1100, .call (.submit (.refresh (some 1)))), (1100, .call (.list 3 [])),
    (1100, .call (.send 3 0)), (1200, .stop)]

theorem watch_one_loop : ∃ r r₁ r₂, (create 2 1000).run? watch = some r ∧
    r.passes = [⟨10, 0, 1⟩, ⟨1020, 0, 2⟩] ∧
    (r.passes.Pairwise fun p q => p.loop = q.loop → p.time + max 1000 1000 ≤ q.time + 5) ∧
    r.step? 1032 .stopped = some r₁ ∧ r₁.run? aftermath = some r₂ ∧ r₂.passes = r₁.passes := by
  have h : ((create 2 1000).run? watch).any (fun r =>
      r.passes == [⟨10, 0, 1⟩, ⟨1020, 0, 2⟩] &&
      (r.step? 1032 .stopped).any fun r₁ => (r₁.run? aftermath).isSome) = true := by decide
  obtain ⟨r, hr, h⟩ := (Option.any_eq_true _ _).mp h
  obtain ⟨hpasses, h⟩ := Bool.and_eq_true_iff.mp h
  obtain ⟨r₁, hr₁, h⟩ := (Option.any_eq_true _ _).mp h
  obtain ⟨r₂, hr₂⟩ := Option.isSome_iff_exists.mp h
  obtain ⟨-, -, -, -, -, hspaced, -, -, -, hstopped⟩ := one_loop hr
  have hquiet := hstopped 1032 r₁ (.inl hr₁) aftermath r₂ (by simp [aftermath]) hr₂
  exact ⟨r, r₁, r₂, hr, eq_of_beq hpasses, hspaced, hr₁, hr₂, hquiet.1⟩

end Lodging.Sync.Refresher
