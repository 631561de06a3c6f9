import Lodging.Proofs.Sync.Refresher

/-! # Starting and stopping, as a service

To the calls and the store, starting, stopping and waiting in whatever order looks like a service with
one loop that is there or not: whatever happens is one signal to the service or none. The other way
round every signal can come about, a stop as the order to end, the end, and the return. -/

namespace Lodging.Sync.Refresher

variable {r r' : Refresher} {now : Nat} {x : Happening}

def service (r : Refresher) : Service :=
  { batchSize := r.batchSize, interval := r.interval, sync := r.sync
    loop := (r.handle.or r.ending).bind r.loop? }

def Happening.signal? : Happening → Option Signal
  | call e => some (.call e)
  | start => some .start
  | tick _ => some .tick
  | settle _ => some .settle
  | stop => none
  | giveUp => some .stop
  | stopped => none

theorem Single.service_loop (h : r.Single) {n : Nat} {l : Loop} (hl : r.loop? n = some l) :
    r.service.loop = some l := by
  have hn : r.handle.or r.ending = some n := by
    rcases h.known n l hl with hn | hn
    · rw [hn, Option.some_or]
    · rw [hn, h.apart (by simp [hn]), Option.none_or]
  rw [service, hn, Option.bind_some, hl]

theorem Single.service_setLoop (h : r.Single) {n : Nat} {l₀ : Loop} (hl₀ : r.loop? n = some l₀)
    (l : Option Loop) : (r.setLoop n l).service.loop = l := by
  cases l with
  | some l => exact (h.setLoop hl₀ (some l)).service_loop ((loop?_setLoop hl₀ _ n).trans (if_pos rfl))
  | none =>
    have hnone : ∀ m, (r.setLoop n none).loop? m = none := by
      intro m
      rw [loop?_setLoop hl₀]
      split
      · rfl
      · next hne =>
        cases hm : r.loop? m with
        | none => rfl
        | some k => exact absurd (h.unique hm hl₀) hne
    show ((r.handle.or r.ending).bind (r.setLoop n none).loop?) = none
    cases r.handle.or r.ending with
    | none => rfl
    | some m => exact hnone m

/-- Whatever happens is a signal to the service, or nothing to it. -/
theorem Single.move_service (h : r.Single) (hm : Move r now x r') :
    match x.signal? with
    | some y => r.service.step? now y = some r'.service
    | none => r'.service = r.service := by
  cases hm with
  | call hstep => exact Option.map_eq_some_iff.mpr ⟨_, hstep, rfl⟩
  | again he hr =>
    obtain ⟨n, hn, hl⟩ := (Option.any_eq_true _ _).mp hr
    obtain ⟨l, hl⟩ := Option.isSome_iff_exists.mp hl
    simp only [Happening.signal?, Service.step?, Service.start, h.service_loop hl]
  | start he hr =>
    have hloop : r.service.loop = none := by
      rw [service, he, Option.or_none]
      cases r.handle with
      | none => rfl
      | some n => exact h.loop?_eq_none he hr n
    have hnew : (r.loops ++ [some (⟨now, none⟩ : Loop)])[r.loops.length]?.join = some ⟨now, none⟩ := by
      simp
    simp only [Happening.signal?, Service.step?, Service.start, hloop]
    exact congrArg (fun l => some (Service.mk r.batchSize r.interval r.sync l)) hnew.symm
  | @tick n due hl hdue =>
    have htick : Loop.tick? ⟨due, none⟩ (Loop.period r.interval) now r.sync.calls.length = some _ :=
      Loop.tick?_eq_some.mpr ⟨due, rfl, hdue, rfl⟩
    simp only [Happening.signal?, Service.step?, Service.tick?, h.service_loop hl, Option.bind_some]
    refine (congrArg (Option.map _) htick).trans (congrArg
      (fun l => some (Service.mk r.batchSize r.interval (r.sync.submit (.refresh none)) l)) ?_)
    exact (h.service_setLoop hl _).symm
  | @settle n due c hl hover =>
    have hsettle : Loop.settle? ⟨due, some c⟩ r.sync = some _ :=
      Loop.settle?_eq_some.mpr ⟨due, c, rfl, hover, rfl⟩
    simp only [Happening.signal?, Service.step?, Service.settle?, h.service_loop hl,
      Option.bind_some]
    refine (congrArg (Option.map _) hsettle).trans (congrArg
      (fun l => some (Service.mk r.batchSize r.interval r.sync l)) ?_)
    exact (h.service_setLoop hl _).symm
  | stop he =>
    show (⟨_, _, _, _⟩ : Service) = ⟨_, _, _, _⟩
    rw [he, Option.or_none, Option.none_or]
    rfl
  | @giveUp n l he hl =>
    simp only [Happening.signal?, Service.step?, Service.stop, h.service_loop hl, Option.elim_some]
    exact congrArg (fun k => some (Service.mk r.batchSize r.interval (l.dropPass r.sync) k))
      (h.service_setLoop hl none).symm
  | @stopped n he hl =>
    have hh : r.handle = none := h.apart (by simp [he])
    show (⟨_, _, _, _⟩ : Service) = ⟨_, _, _, _⟩
    rw [he, hh]
    exact congrArg (Service.mk r.batchSize r.interval r.sync) hl.symm

def signals (xs : List (Nat × Happening)) : List (Nat × Signal) :=
  xs.filterMap fun y => y.2.signal?.map (y.1, ·)

theorem Single.run_service {xs : List (Nat × Happening)} (hs : r.Single)
    (h : r.run? xs = some r') : r.service.run? (signals xs) = some r'.service := by
  induction xs generalizing r with
  | nil => rw [Option.some.inj h]; rfl
  | cons y xs ih =>
    obtain ⟨r₁, h₁, h₂⟩ := Option.bind_eq_some_iff.mp h
    have hm := step?_move h₁
    have hstep := hs.move_service hm
    have hrest := ih (hs.move hm) h₂
    cases hy : y.2.signal? with
    | some z =>
      rw [hy] at hstep
      have hcons : signals (y :: xs) = (y.1, z) :: signals xs := by simp [signals, hy]
      rw [hcons, Service.run?, hstep]
      exact hrest
    | none =>
      rw [hy] at hstep
      have hcons : signals (y :: xs) = signals xs := by simp [signals, hy]
      rw [hcons, ← show r₁.service = r.service from hstep]
      exact hrest

/-! ## Every run of the service comes about -/

/-- The loop of the service is behind the handle if no other is on its way out. -/
theorem exists_handle {l : Loop} (he : r.ending = none) (hl : r.service.loop = some l) :
    ∃ n, r.handle = some n ∧ r.loop? n = some l := by
  rw [service, he, Option.or_none] at hl
  exact Option.bind_eq_some_iff.mp hl

/-- A stop with all that comes of it. -/
theorem Single.exists_run_stop (hs : r.Single) (he : r.ending = none) (now : Nat) :
    ∃ xs r', r.run? xs = some r' ∧ r'.service = r.service.stop ∧ r'.ending = none := by
  have hstop : Move r now .stop { r with handle := none, ending := r.handle } := .stop he
  cases hl : r.service.loop with
  | some l =>
    obtain ⟨n, hn, hloop⟩ := exists_handle he hl
    rw [hn] at hstop
    have hgiveUp : Move { r with handle := none, ending := some n } now .giveUp _ :=
      .giveUp rfl hloop
    have hgone := (loop?_setLoop hloop none n).trans (if_pos rfl)
    have hstopped : Move { r.setLoop n none with
        handle := none, ending := some n, sync := l.dropPass r.sync } now .stopped _ :=
      .stopped rfl hgone
    have hrun := (run?_cons hstop _).trans ((run?_cons hgiveUp _).trans (run?_cons hstopped []))
    exact ⟨_, _, hrun, (Option.some.inj (hs.run_service hrun)).symm, rfl⟩
  | none =>
    have hsame : r.service.stop = r.service := by
      simp only [Service.stop, hl]
      exact congrArg (Service.mk r.batchSize r.interval r.sync) hl.symm
    rw [hsame]
    cases hn : r.handle with
    | none =>
      rw [hn] at hstop
      have hrun := run?_cons hstop []
      exact ⟨_, _, hrun, (Option.some.inj (hs.run_service hrun)).symm, rfl⟩
    | some n =>
      rw [hn] at hstop
      have hgone : r.loop? n = none := by
        rw [service, he, hn] at hl
        exact hl
      have hstopped : Move { r with handle := none, ending := some n } now .stopped _ :=
        .stopped rfl hgone
      have hrun := (run?_cons hstop _).trans (run?_cons hstopped [])
      exact ⟨_, _, hrun, (Option.some.inj (hs.run_service hrun)).symm, rfl⟩

/-- Every signal to the service can come about. -/
theorem Single.exists_run_step (hs : r.Single) (he : r.ending = none) {z : Signal} {s : Service}
    (h : r.service.step? now z = some s) :
    ∃ xs r', r.run? xs = some r' ∧ r'.service = s ∧ r'.ending = none := by
  -- what is the signal and leaves nothing to wait for is enough
  have hone : ∀ {x : Happening} {r₁ : Refresher}, Move r now x r₁ → x.signal? = some z →
      r₁.ending = none → ∃ xs r', r.run? xs = some r' ∧ r'.service = s ∧ r'.ending = none := by
    intro x r₁ hm hz he₁
    have hservice := hs.move_service hm
    rw [hz] at hservice
    exact ⟨_, r₁, run?_cons hm [], Option.some.inj (hservice.symm.trans h), he₁⟩
  cases z with
  | call e =>
    obtain ⟨sync, hsync, -⟩ := Option.map_eq_some_iff.mp h
    exact hone (.call hsync) rfl he
  | start =>
    cases hr : r.isRunning with
    | true => exact hone (.again he hr) rfl he
    | false => exact hone (.start he hr) rfl he
  | stop => exact Option.some.inj h ▸ hs.exists_run_stop he now
  | tick =>
    obtain ⟨l', hl', -⟩ := Option.map_eq_some_iff.mp h
    obtain ⟨l, hl, htick⟩ := Option.bind_eq_some_iff.mp hl'
    obtain ⟨due, rfl, hdue, -⟩ := Loop.tick?_eq_some.mp htick
    obtain ⟨n, -, hn⟩ := exists_handle he hl
    exact hone (.tick hn hdue) rfl he
  | settle =>
    obtain ⟨l', hl', -⟩ := Option.map_eq_some_iff.mp h
    obtain ⟨l, hl, hsettle⟩ := Option.bind_eq_some_iff.mp hl'
    obtain ⟨due, c, rfl, hover, -⟩ := Loop.settle?_eq_some.mp hsettle
    obtain ⟨n, -, hn⟩ := exists_handle he hl
    exact hone (.settle hn hover) rfl he

theorem run?_append (r : Refresher) (xs ys : List (Nat × Happening)) :
    r.run? (xs ++ ys) = (r.run? xs).bind (·.run? ys) := by
  induction xs generalizing r with
  | nil => rfl
  | cons x xs ih => cases h : r.step? x.1 x.2 <;> simp [run?, h, ih]

theorem Single.exists_run {zs : List (Nat × Signal)} {s : Service} (hs : r.Single)
    (he : r.ending = none) (h : r.service.run? zs = some s) :
    ∃ xs r', r.run? xs = some r' ∧ r'.service = s := by
  induction zs generalizing r with
  | nil => exact ⟨[], r, rfl, Option.some.inj h⟩
  | cons z zs ih =>
    obtain ⟨s₁, h₁, h₂⟩ := Option.bind_eq_some_iff.mp h
    obtain ⟨xs, r₁, hxs, rfl, he₁⟩ := hs.exists_run_step he h₁
    have hs₁ : r₁.Single := run?_induction Single.move hs hxs
    obtain ⟨ys, r', hys, hr'⟩ := ih hs₁ he₁ h₂
    exact ⟨xs ++ ys, r', by rw [run?_append, hxs, Option.bind_some, hys], hr'⟩

/-- Runs of the service are what runs of a refresher look like. -/
theorem service_run_iff {batchSize interval : Nat} {s : Service} :
    (∃ zs, (Service.create batchSize interval).run? zs = some s) ↔
      ∃ xs r, (create batchSize interval).run? xs = some r ∧ r.service = s := by
  have hs := single_create batchSize interval
  constructor
  · rintro ⟨zs, h⟩
    exact hs.exists_run rfl h
  · rintro ⟨xs, r, h, rfl⟩
    exact ⟨signals xs, hs.run_service h⟩

end Lodging.Sync.Refresher
