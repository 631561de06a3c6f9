import Lodging.Proofs.Sync.Grounds
import Lodging.Proofs.Sync.Openings
import Lodging.Proofs.Sync.Places
import Mathlib.Data.List.Perm.Subperm

/-! # Batches one after another

What a pass does is read off a run: when work on the feed at a place is begun, when its download is over
and when it is done. The stage of a feed says which of these there have been. As the batches of a pass
begin at multiples of their size, no feed of a batch is begun before all feeds of the batches before it
are done. -/

namespace Lodging.Sync

open Calendar

/-! ## What a run does for a call -/

inductive Milestone where
  /-- Its download begins. -/
  | begun
  | fetched
  /-- Written, skipped or failed. -/
  | finished
  deriving DecidableEq, Repr

def Stage.milestone? : Stage → Option Milestone
  | fetching => some .begun
  | fetched _ => some .fetched
  | done _ => some .finished
  | _ => none

def Stage.milestones : Stage → List Milestone
  | idle => []
  | fetching => [.begun]
  | fetched _ | queued _ | cleared _ => [.begun, .fetched]
  | done _ => [.begun, .fetched, .finished]

/-- A milestone of the feed at a place of a pass. -/
structure Deed where
  milestone : Milestone
  place : Nat
  feed : Feed
  deriving DecidableEq, Repr

def Event.slot? : Event → Option (Nat × Nat)
  | .send c i | .receive c i _ | .lineUp c i | .recheck c i _ | .write c i _ => some (c, i)
  | _ => none

def milestonesAt (deeds : List Deed) (n : Nat) : List Milestone :=
  (deeds.filter (·.place == n)).map (·.milestone)

namespace State

def deedAt? (s : State) (c i : Nat) : Option Deed :=
  (s.slot? c i).bind fun (p, slot) =>
    slot.stage.milestone?.map (⟨·, p.results.length + i, slot.feed⟩)

/-- What an event does for a call; `s` is the state after it. -/
def deed? (s : State) (c : Nat) (e : Event) : Option Deed :=
  e.slot?.bind fun (d, i) => if d = c then s.deedAt? c i else none

def deeds (size c : Nat) (s : State) : List Event → List Deed
  | [] => []
  | e :: es =>
    match s.step? size e with
    | some s' => (s'.deed? c e).toList ++ deeds size c s' es
    | none => []

end State

/-- No more than `size` feeds are begun and not finished. -/
def Bounded (size count : Nat) (deeds : List Deed) : Prop :=
  (List.range count).countP (fun n =>
    .begun ∈ milestonesAt deeds n ∧ .finished ∉ milestonesAt deeds n) ≤ size

/-- Before a feed is begun, all feeds of earlier batches are downloaded and finished. -/
def InOrder (size : Nat) (deeds : List Deed) : Prop :=
  ∀ before d after, deeds = before ++ d :: after → d.milestone = .begun →
    ∀ n, n / size < d.place / size →
      .fetched ∈ milestonesAt before n ∧ .finished ∈ milestonesAt before n

/-- Deeds as they should be: they are about the feeds at their places, each of these is begun, fetched
and finished once at most and in this order, and batches are bounded and in order. -/
structure Batched (size : Nat) (feeds : List Feed) (deeds : List Deed) : Prop where
  feed : ∀ d ∈ deeds, feeds[d.place]? = some d.feed
  once : ∀ n, milestonesAt deeds n <+: [.begun, .fetched, .finished]
  bounded : Bounded size feeds.length deeds
  inOrder : InOrder size deeds

namespace Pass

/-- A batch begins at a multiple of the size, and is full unless it is the last one. -/
structure Aligned (size : Nat) (p : Pass) : Prop where
  size_eq : p.size = size
  dvd : size ∣ p.results.length
  le : p.batch.length ≤ size
  full : p.rest ≠ [] → p.batch.length = size

theorem Aligned.load {size : Nat} (guarded : Bool) {results : List (List Block)}
    (h : size ∣ results.length) (feeds : List Feed) :
    (load guarded size results feeds).Aligned size where
  size_eq := rfl
  dvd := h
  le := by simp [Pass.load]
  full := by
    intro hr
    have hrest := List.length_pos_iff.mpr hr
    simp only [Pass.load, List.length_drop] at hrest
    simp only [Pass.load, List.length_map, List.length_take]
    omega

theorem Aligned.setStage {size : Nat} {p : Pass} (h : p.Aligned size) (i : Nat) (st : Stage) :
    (p.setStage i st).Aligned size where
  size_eq := h.size_eq
  dvd := h.dvd
  le := by simpa [Pass.setStage] using h.le
  full := by simpa [Pass.setStage] using h.full

theorem length_of_written? {p : Pass} {written : List (List Block)} (h : p.written? = some written) :
    written.length = p.batch.length := by
  simpa using (congrArg List.length (written?_eq_some h)).symm

theorem Aligned.next {size : Nat} {p : Pass} (h : p.Aligned size) {written : List (List Block)}
    (hw : p.written? = some written) (hr : p.rest ≠ []) : (p.next written).Aligned size := by
  rw [Pass.next, h.size_eq]
  refine Aligned.load _ ?_ _
  rw [List.length_append, length_of_written? hw, h.full hr]
  exact Nat.dvd_add h.dvd (Nat.dvd_refl _)

theorem stageAt_earlier {p : Pass} {n : Nat} (h : n < p.results.length) :
    ∃ bs, p.stageAt n = .done bs := by
  refine ⟨p.results[n], ?_⟩
  rw [stageAt, List.getElem?_append_left (by simpa using h), List.getElem?_map,
    List.getElem?_eq_getElem h]
  rfl

theorem stageAt_later {p : Pass} {n : Nat} (h : p.results.length + p.batch.length ≤ n) :
    p.stageAt n = .idle := by
  rw [stageAt, List.getElem?_eq_none (by simpa using h)]
  rfl

def Tallies (p : Pass) (deeds : List Deed) : Prop :=
  ∀ n, milestonesAt deeds n = (p.stageAt n).milestones

end Pass

theorem Stage.milestones_prefix (st : Stage) : st.milestones <+: [.begun, .fetched, .finished] := by
  cases st with
  | idle => exact ⟨_, rfl⟩
  | fetching => exact ⟨[.fetched, .finished], rfl⟩
  | fetched _ | queued _ | cleared _ => exact ⟨[.finished], rfl⟩
  | done _ => exact ⟨[], rfl⟩

variable {size : Nat} {feeds : List Feed} {p : Pass} {deeds : List Deed}

theorem milestonesAt_append (deeds more : List Deed) (n : Nat) :
    milestonesAt (deeds ++ more) n = milestonesAt deeds n ++ milestonesAt more n := by
  simp [milestonesAt]

/-- Only feeds of the batch are begun and not finished. -/
theorem Pass.Tallies.bounded (ht : p.Tallies deeds) (ha : p.Aligned size) (count : Nat) :
    Bounded size count deeds := by
  have hbatch : ∀ n, .begun ∈ milestonesAt deeds n ∧ .finished ∉ milestonesAt deeds n →
      n ∈ List.range' p.results.length p.batch.length := by
    intro n ⟨hbegun, hfinished⟩
    rw [ht n] at hbegun hfinished
    rw [List.mem_range'_1]
    by_contra hn
    rw [not_and_or] at hn
    rcases hn with hn | hn
    · obtain ⟨bs, hst⟩ := stageAt_earlier (Nat.lt_of_not_le hn)
      rw [hst] at hfinished
      exact hfinished (by simp [Stage.milestones])
    · rw [stageAt_later (Nat.le_of_not_lt hn)] at hbegun
      cases hbegun
  unfold Bounded
  rw [List.countP_eq_length_filter]
  refine Nat.le_trans ?_ ha.le
  have hnodup := (List.nodup_range (n := count)).filter fun n =>
    decide (.begun ∈ milestonesAt deeds n ∧ .finished ∉ milestonesAt deeds n)
  have hsub := (List.subperm_of_subset hnodup fun n hn =>
    hbatch n (of_decide_eq_true (List.mem_filter.mp hn).2)).length_le
  simpa using hsub

theorem InOrder.snoc (h : InOrder size deeds) {d : Deed} (hd : d.milestone = .begun →
    ∀ n, n / size < d.place / size →
      .fetched ∈ milestonesAt deeds n ∧ .finished ∈ milestonesAt deeds n) :
    InOrder size (deeds ++ [d]) := by
  intro before d' after heq hbegun
  rcases List.eq_nil_or_concat after with rfl | ⟨after, x, rfl⟩
  · obtain ⟨rfl, hd'⟩ := List.append_inj' heq rfl
    obtain rfl := List.singleton_inj.mp hd'
    exact hd hbegun
  · rw [List.concat_eq_append, ← List.cons_append, ← List.append_assoc] at heq
    exact h before d' after (List.append_inj' heq rfl).1 hbegun

/-- A batch is begun when those before it are done. -/
theorem Pass.Tallies.earlier (ht : p.Tallies deeds) (ha : p.Aligned size) {i n : Nat}
    (hi : i < p.batch.length) (hn : n / size < (p.results.length + i) / size) :
    .fetched ∈ milestonesAt deeds n ∧ .finished ∈ milestonesAt deeds n := by
  obtain ⟨q, hq⟩ := ha.dvd
  have hsize : 0 < size := by
    have := ha.le
    omega
  have hplace : (p.results.length + i) / size = q := by
    rw [hq, Nat.mul_add_div hsize, Nat.div_eq_of_lt (Nat.lt_of_lt_of_le hi ha.le), Nat.add_zero]
  have hlt : n < p.results.length := by
    rw [hplace] at hn
    rw [hq, Nat.mul_comm]
    exact (Nat.div_lt_iff_lt_mul hsize).mp hn
  obtain ⟨bs, hst⟩ := stageAt_earlier hlt
  rw [ht n, hst]
  simp [Stage.milestones]

/-- A feed of the batch moves on, and its milestone is added to the deeds. -/
theorem Pass.Tallies.setStage (ht : p.Tallies deeds) {i : Nat} {feed : Feed} {st st' : Stage}
    (hb : p.batch[i]? = some ⟨feed, st⟩)
    (hst : st'.milestones = st.milestones ++ st'.milestone?.toList) :
    (p.setStage i st').Tallies
      (deeds ++ (st'.milestone?.map (⟨·, p.results.length + i, feed⟩)).toList) := by
  intro n
  rw [milestonesAt_append, ht n, stageAt_setStage hb]
  split
  · next hn =>
    rw [hn, stageAt_batch hb, hst]
    cases st'.milestone? <;> simp [milestonesAt]
  · next hn =>
    cases st'.milestone? <;> simp [milestonesAt, Ne.symm hn]

/-- Deeds stay as they should be when a feed of the batch moves on. -/
theorem Batched.setStage (h : Batched size feeds deeds) {guarded : Bool}
    (hp : p.Regular guarded feeds) (ha : p.Aligned size) (ht : p.Tallies deeds) {i : Nat} {feed : Feed}
    {st st' : Stage} (hb : p.batch[i]? = some ⟨feed, st⟩)
    (hst : st'.milestones = st.milestones ++ st'.milestone?.toList) :
    Batched size feeds
      (deeds ++ (st'.milestone?.map (⟨·, p.results.length + i, feed⟩)).toList) := by
  have ht' := ht.setStage hb hst
  refine ⟨?_, fun n => ht' n ▸ Stage.milestones_prefix _, ht'.bounded (ha.setStage i st') _, ?_⟩
  · refine List.forall_mem_append.mpr ⟨h.feed, fun d hd => ?_⟩
    obtain ⟨m, -, rfl⟩ := Option.map_eq_some_iff.mp (Option.mem_toList.mp hd)
    exact hp.feed_at hb
  · cases hm : st'.milestone? with
    | none => simpa using h.inOrder
    | some m =>
      exact h.inOrder.snoc fun _ n hn =>
        ht.earlier ha (List.getElem?_eq_some_iff.mp hb).1 hn

namespace State

variable {c : Nat} {s s' : State} {e : Event}

theorem Advance.slot?_eq {i : Nat} {p : Pass} {feed : Feed} {st st' : Stage} {store : Store}
    {locks : Locks Party} (h : s.Advance c i p feed e st st' store locks) :
    e.slot? = some (c, i) := by
  cases h <;> rfl

theorem deed?_of_slot?_eq_none (h : e.slot? = none) : s.deed? c e = none := by
  rw [deed?, h]
  rfl

theorem deed?_of_ne {d i : Nat} (h : e.slot? = some (d, i)) (hne : d ≠ c) : s.deed? c e = none := by
  rw [deed?, h]
  exact if_neg hne

/-- A stage has the milestones of the one before and perhaps one more. -/
theorem Advance.milestones {i : Nat} {p : Pass} {feed : Feed} {st st' : Stage} {store : Store}
    {locks : Locks Party} (h : s.Advance c i p feed e st st' store locks) :
    st'.milestones = st.milestones ++ st'.milestone?.toList := by
  have hwrite : ∀ {ps : List Period}, toWrite? p st = some ps →
      st.milestones = [.begun, .fetched] := fun hw => by
    cases st with
    | fetched _ | cleared _ => rfl
    | _ => cases hw
  cases h with
  | write hw _ => rw [hwrite hw]; rfl
  | fail hw _ => rw [hwrite hw]; rfl
  | _ => rfl

theorem deed?_of_batch {i : Nat} {r : Request} {feeds : List Feed} {p : Pass} {slot : Slot}
    (he : e.slot? = some (c, i)) (hc : s.calls[c]? = some ⟨r, .passing feeds p⟩)
    (hb : p.batch[i]? = some slot) : s.deed? c e =
      slot.stage.milestone?.map (⟨·, p.results.length + i, slot.feed⟩) := by
  rw [deed?, he]
  show (if c = c then s.deedAt? c i else none) = _
  rw [if_pos rfl, deedAt?, slot?_of_batch hc hb]
  rfl

/-- How far a pass has come with the deeds of it. -/
inductive Progresses (size : Nat) (feeds : List Feed) (deeds : List Deed) : Phase → Prop
  | passing {p : Pass} : p.Aligned size → p.Tallies deeds →
      Progresses size feeds deeds (.passing feeds p)
  | finished {o : Outcome} :
      (∀ n < feeds.length, milestonesAt deeds n = [.begun, .fetched, .finished]) →
      Progresses size feeds deeds (.finished o)
  | dropped : Progresses size feeds deeds .dropped

def Runs (b : Nat) (feeds : List Feed) (c : Nat) (s : State) (deeds : List Deed) : Prop :=
  Batched b feeds deeds ∧ ∃ k, s.calls[c]? = some k ∧ Progresses b feeds deeds k.phase

variable {b : Nat}

theorem Runs.move {size : Nat} (hs : Runs b feeds c s deeds) (ho : s.Orderly) (h : Move size s e s') :
    Runs b feeds c s' (deeds ++ (s'.deed? c e).toList) := by
  obtain ⟨hbatched, k, hk, hp⟩ := hs
  have hlt := (List.getElem?_eq_some_iff.mp hk).1
  -- what becomes of the call when nothing happens to its feeds
  have hkeep : ∀ {s₁ : State} {k₁ : Call}, s₁.deed? c e = none → s₁.calls[c]? = some k₁ →
      Progresses b feeds deeds k₁.phase → Runs b feeds c s₁ (deeds ++ (s₁.deed? c e).toList) := by
    intro s₁ k₁ hnone hk₁ hp₁
    rw [hnone, Option.toList_none, List.append_nil]
    exact ⟨hbatched, k₁, hk₁, hp₁⟩
  have hset : ∀ {d : Nat} {k₀ k₁ : Call} {store : Store} {locks : Locks Party},
      s.calls[d]? = some k₀ → State.deed? ⟨store, locks, s.calls.set d k₁⟩ c e = none →
      (d = c → Progresses b feeds deeds k₀.phase → Progresses b feeds deeds k₁.phase) →
      Runs b feeds c ⟨store, locks, s.calls.set d k₁⟩
        (deeds ++ (State.deed? ⟨store, locks, s.calls.set d k₁⟩ c e).toList) := by
    intro d k₀ k₁ store locks hd hnone himp
    have hcalls := calls_set hd k₁ c
    by_cases hcd : c = d
    · subst hcd
      rw [if_pos rfl] at hcalls
      exact hkeep hnone hcalls (himp rfl (Option.some.inj (hk.symm.trans hd) ▸ hp))
    · rw [if_neg hcd] at hcalls
      exact hkeep hnone (hcalls.trans hk) hp
  cases h with
  | refuse _ | join _ _ | enter _ _ =>
    exact hkeep (deed?_of_slot?_eq_none rfl) ((List.getElem?_append_left hlt).trans hk) hp
  | list hd _ _ | listFail hd _ _ =>
    exact hset hd (deed?_of_slot?_eq_none rfl) fun _ hp => by cases hp
  | @advance _ d i r fs p feed st st' store locks hd hb ha =>
    by_cases hcd : d = c
    · subst hcd
      obtain rfl := Option.some.inj (hk.symm.trans hd)
      cases hp with
      | passing haligned ht =>
        have hself := calls_set_self hd ⟨r, .passing feeds (p.setStage i st')⟩
        have hstage : (p.setStage i st').batch[i]? = some ⟨feed, st'⟩ := by
          rw [Pass.getElem?_setStage hb, if_pos rfl]
        have hp := (ho.regular d _ hd).pass feeds p rfl
        rw [deed?_of_batch ha.slot?_eq hself hstage]
        exact ⟨hbatched.setStage hp haligned ht hb ha.milestones, _, hself,
          .passing (haligned.setStage i st') (ht.setStage hb ha.milestones)⟩
    · exact hset hd (deed?_of_ne ha.slot?_eq hcd) fun h => absurd h hcd
  | @next d r fs p written hd hw hr =>
    refine hset hd (deed?_of_slot?_eq_none rfl) fun _ hp => ?_
    cases hp with
    | passing ha ht => exact .passing (ha.next hw hr) fun n => by rw [ht n, Pass.stageAt_next hw]
  | @finish d r fs p written hd hw hr =>
    refine hset hd (deed?_of_slot?_eq_none rfl) fun _ hp => ?_
    cases hp with
    | passing ha ht =>
      refine .finished fun n hn => ?_
      have hlength := ((ho.regular d _ hd).pass _ p rfl).length_of_rest_nil hw hr
      have hat := Pass.stageAt_of_written? hw n
      rw [List.getElem?_eq_getElem (by omega)] at hat
      rw [ht n, hat]
      rfl
  | drop hd _ => exact hset hd (deed?_of_slot?_eq_none rfl) fun _ _ => .dropped

theorem Runs.run {size : Nat} {es : List Event} (hs : Runs b feeds c s deeds) (ho : s.Orderly)
    (h : s.run? size es = some s') : Runs b feeds c s' (deeds ++ s.deeds size c es) := by
  induction es generalizing s deeds with
  | nil =>
    obtain rfl := Option.some.inj h
    rwa [State.deeds, List.append_nil]
  | cons e es ih =>
    obtain ⟨s₁, h₁, h₂⟩ := Option.bind_eq_some_iff.mp h
    have hm := step?_move h₁
    have hrun := ih (hs.move ho hm) (ho.move hm) h₂
    rw [State.deeds, h₁, ← List.append_assoc]
    exact hrun

theorem batched_nil (size : Nat) (feeds : List Feed) : Batched size feeds [] where
  feed := nofun
  once := fun _ => List.nil_prefix
  bounded := by simp [Bounded, milestonesAt]
  inOrder := by simp [InOrder]

/-- Whatever other calls do, a pass over the feeds that a call has listed begins, fetches and finishes
each of them once, no more of them at a time than make a batch, and those of a batch when those of the
batches before it are finished. -/
theorem pass_batched {size : Nat} {store : Store} {es₀ es : List Event} {s₀ s₁ s : State} {c : Nat}
    {down : Outage} {r : Request} {feeds : List Feed} {p : Pass}
    (h₀ : (quiet store).run? size es₀ = some s₀) (hlist : s₀.step? size (.list c down) = some s₁)
    (hc : s₁.calls[c]? = some ⟨r, .passing feeds p⟩) (h : s₁.run? size es = some s) :
    Batched (max size 1) feeds (s₁.deeds size c es) ∧
      ∀ o, s.calls[c]? = some ⟨r, .finished o⟩ → ∀ n < feeds.length,
        milestonesAt (s₁.deeds size c es) n = [.begun, .fetched, .finished] := by
  have ho₀ : s₀.Orderly := Orderly.run (orderly_of_calls_nil rfl rfl) h₀
  have hm := step?_move hlist
  have hp : p = .start r.guarded size feeds := by
    cases hm with
    | @list _ r' _ store feeds' hc₀ _ _ =>
      rw [calls_set_self hc₀] at hc
      cases hc
      rfl
    | @listFail _ r' _ e hc₀ _ _ =>
      rw [calls_set_self hc₀] at hc
      cases hc
    | advance _ _ ha => cases ha
  have hs : Runs (max size 1) feeds c s₁ [] := by
    refine ⟨batched_nil _ _, _, hc, .passing ?_ fun n => ?_⟩
    · rw [hp]
      exact .load _ (Nat.dvd_zero _) _
    · rw [hp, Pass.stageAt_start]
      rfl
  obtain ⟨hbatched, k, hk, hprogress⟩ := hs.run (ho₀.move hm) h
  refine ⟨hbatched, fun o ho => ?_⟩
  obtain rfl := Option.some.inj (hk.symm.trans ho)
  cases hprogress with
  | finished hall => exact hall

def twoListings : Store := ⟨[⟨0, 1, "http://a"⟩, ⟨1, 2, "http://b"⟩, ⟨2, 2, "http://c"⟩], [], 3⟩

/-- While another call works on the first listing, the first batch of a pass over all feeds waits. -/
def errand : List Event :=
  [.submit (.refresh (some 1)), .list 1 [], .send 0 0, .send 0 1, .receive 0 1 (.error (.fetch "timeout")),
    .receive 0 0 (.ok "BEGIN:VCALENDAR"), .lineUp 0 0, .lineUp 0 1, .recheck 0 1 [], .write 0 1 [],
    .send 1 0, .receive 1 0 (.ok ""), .write 1 0 [], .turn 1, .recheck 0 0 [.findFeeds], .turn 0,
    .send 0 0, .receive 0 0 (.ok ""), .lineUp 0 0, .recheck 0 0 [], .write 0 0 [.replaceBlocks], .turn 0]

theorem errand_batched : ∃ s₀ s₁ s p o, (quiet twoListings).run? 2 [.submit (.refresh none)] = some s₀ ∧
    s₀.step? 2 (.list 0 []) = some s₁ ∧
    s₁.calls[0]? = some ⟨.refresh none, .passing twoListings.feeds p⟩ ∧ s₁.run? 2 errand = some s ∧
    s.calls[0]? = some ⟨.refresh none, .finished o⟩ ∧
    (s₁.deeds 2 0 errand).map (fun d => (d.milestone, d.place)) =
      [(.begun, 0), (.begun, 1), (.fetched, 1), (.fetched, 0), (.finished, 1), (.finished, 0),
        (.begun, 2), (.fetched, 2), (.finished, 2)] ∧
    Batched 2 twoListings.feeds (s₁.deeds 2 0 errand) ∧
    milestonesAt (s₁.deeds 2 0 errand) 2 = [.begun, .fetched, .finished] := by
  have h : ((quiet twoListings).run? 2 [.submit (.refresh none)]).any (fun s₀ =>
      (s₀.step? 2 (.list 0 [])).any fun s₁ => (s₁.run? 2 errand).any fun s =>
        s₁.calls[0]? = some ⟨.refresh none, .passing twoListings.feeds (.start true 2 twoListings.feeds)⟩ ∧
        s.calls[0]? = some ⟨.refresh none, .finished (.blocks [[], [], []])⟩ ∧
        (s₁.deeds 2 0 errand).map (fun d => (d.milestone, d.place)) =
          [(.begun, 0), (.begun, 1), (.fetched, 1), (.fetched, 0), (.finished, 1), (.finished, 0),
            (.begun, 2), (.fetched, 2), (.finished, 2)]) = true := by
    decide
  obtain ⟨s₀, h₀, h⟩ := (Option.any_eq_true _ _).mp h
  obtain ⟨s₁, h₁, h⟩ := (Option.any_eq_true _ _).mp h
  obtain ⟨s, hs, h⟩ := (Option.any_eq_true _ _).mp h
  obtain ⟨hpass, hover, hdeeds⟩ := of_decide_eq_true h
  obtain ⟨hbatched, hall⟩ := pass_batched h₀ h₁ hpass hs
  exact ⟨s₀, s₁, s, _, _, h₀, h₁, hpass, hs, hover, hdeeds, hbatched, hall _ hover 2 (by decide)⟩

end State

end Lodging.Sync
