import Lodging.Proofs.Sync.Progress
import Lodging.Proofs.Sync.Renewal
import Lodging.Proofs.Sync.Stints

/-! # Concurrent calls are serial on every listing

Once all calls have returned, a listing has the feeds and blocks, and the calls have returned for it,
what the same stints give when they are served one after another, in the order in which they got the
lock of the listing. The order grows with every handover; what its finished stints have done is kept up
with by the serial store, and the holder's progress makes up the difference. -/

namespace Lodging.Sync.State

open Calendar

variable {size : Nat} {s s' : State} {e : Event} {a : Account} {listing : Int} {t₀ : Store}

/-- The stints in the order are those that are done, served one after another, and the holder's. -/
def Accounted (t₀ : Store) (listing : Int) (s : State) (a : Account) : Prop :=
  ∃ past, a.order listing = past ++ ((s.locks.owner? listing).map s.stint).toList ∧ past.Nodup ∧
    (serveAll t₀ (past.map a.job)).2.map some = past.map s.answer? ∧
    Progress s a listing (serveAll t₀ (past.map a.job)).1 (s.locks.owner? listing)

/-- The holder of a lock has not returned anything. -/
theorem Progress.answer?_eq_none {t : Store} {o : Party} (h : Progress s a listing t (some o)) :
    s.answer? (s.stint o) = none := by
  cases h with
  | waiting hc _ _ => simp [stint, answer?, hc, Call.outcome?]
  | passing hc _ _ _ => simp [stint, answer?, hc, Call.outcome?]
  | @feed c i r feeds p f st hc hr hb hw _ _ _ =>
    have hst : st.blocks? = none := by
      cases st with
      | done bs => cases hw
      | _ => rfl
    simp [stint, answer?, place_eq hc, hc, Call.blocksAt?, hr, Pass.stageAt_batch hb, hst]

theorem answered_of_eq {past : List Stint} {os : List Outcome}
    (h : os.map some = past.map s.answer?) : ∀ w ∈ past, ∃ o, s.answer? w = some o := by
  intro w hw
  have : s.answer? w ∈ os.map some := h ▸ List.mem_map_of_mem hw
  obtain ⟨o, -, ho⟩ := List.mem_map.mp this
  exact ⟨o, ho.symm⟩

theorem order_grant (a : Account) (s s' : State) (listing : Int) :
    (a.grant s s').order listing = a.order listing ++
      if s'.locks.owner? listing = s.locks.owner? listing then []
      else ((s'.locks.owner? listing).map s'.stint).toList := rfl

theorem order_note (a : Account) (s : State) (e : Event) : (a.note s e).order = a.order := by
  cases e <;> rfl

/-- Whoever has a new lock, or nobody, starts from a store that agrees with the serial one. -/
theorem Progress.of_new {t : Store} (ho : s.Orderly) (hm : Move size s e s')
    (hst : SameAt listing s'.store t)
    (hnew : ∀ o, s'.locks.owner? listing = some o → s.locks.owner? listing ≠ some o) :
    Progress s' a listing t (s'.locks.owner? listing) := by
  cases hown : s'.locks.owner? listing with
  | none => exact .free hst
  | some o => exact .of_not_inside (ho.move hm) hown (hm.not_inside_of_new ho hown (hnew o hown)) hst

theorem Accounted.move (h : Accounted t₀ listing s a) (ho : s.Orderly) (hg : s.Grounded)
    (hf : Faithful s a) (hurls : s.store.Distinct)
    (hm : Move size s e s') (hdrop : ∀ d, e ≠ .drop d) :
    Accounted t₀ listing s' ((a.note s e).grant s s') := by
  obtain ⟨past, horder, hnodup, hanswers, hprog⟩ := h
  have hanswered := answered_of_eq hanswers
  -- what is done stays done
  have hjobs : past.map ((a.note s e).grant s s').job = past.map a.job := by
    refine List.map_congr_left fun w hw => ?_
    obtain ⟨o, ho⟩ := hanswered w hw
    rw [Account.job_grant, (hm.answer hdrop ho a).2]
  have hpast : past.map s'.answer? = past.map s.answer? := by
    refine List.map_congr_left fun w hw => ?_
    obtain ⟨o, ho⟩ := hanswered w hw
    rw [(hm.answer hdrop ho a).1, ho]
  cases hown : s.locks.owner? listing with
  | none =>
    rw [hown] at horder hprog
    cases hprog with
    | free hst =>
      have hsame : SameAt listing s'.store (serveAll t₀ (past.map a.job)).1 :=
        (hm.sameAt ho hg fun o h => by rw [hown] at h; cases h).trans hst
      refine ⟨past, ?_, hnodup, by rw [hjobs, hpast, hanswers], ?_⟩
      · rw [order_grant, order_note, horder, hown]
        cases s'.locks.owner? listing <;> simp
      · rw [hjobs]
        exact .of_new ho hm hsame fun o _ => by simp [hown]
  | some o =>
    rw [hown] at horder hprog
    rcases hprog.step ho hg hf hurls hm hdrop hown with ⟨hown', hstint, hprog'⟩ | ⟨hown', hst, hans⟩
    · -- the holder goes on
      refine ⟨past, ?_, hnodup, by rw [hjobs, hpast, hanswers], ?_⟩
      · rw [order_grant, order_note, horder, hown, hown']
        simp [hstint]
      · rw [hjobs, hown']
        exact hprog'.grant s s'
    · -- the holder is done
      have hjob : ((a.note s e).grant s s').job (s.stint o) = (a.note s e).job (s.stint o) := by
        rw [Account.job_grant]
      refine ⟨past ++ [s.stint o], ?_, ?_, ?_, ?_⟩
      · rw [order_grant, order_note, horder, hown, if_neg hown']
        simp
      · rw [List.nodup_append]
        refine ⟨hnodup, by simp, fun w hw v hv hwv => ?_⟩
        obtain ⟨x, hx⟩ := hanswered w hw
        rw [hwv, List.mem_singleton.mp hv, hprog.answer?_eq_none] at hx
        cases hx
      · rw [List.map_append, List.map_append, hjobs, List.map_singleton, serveAll_concat,
          List.map_append, hanswers, hpast, List.map_singleton, List.map_singleton, hjob, hans]
      · rw [List.map_append, hjobs, List.map_singleton, serveAll_concat, hjob]
        exact .of_new ho hm hst fun o' ho' heq => by
          rw [hown, Option.some.injEq] at heq
          exact hown' (heq ▸ ho')

/-! ## Whole runs -/

theorem Move.distinct (hm : Move size s e s') (hs : s.store.Distinct) : s'.store.Distinct := by
  cases hm with
  | list hc _ hlist =>
    rcases listFeeds_eq_ok hlist with ⟨listing, urls, rfl, -, he⟩ | ⟨_, rfl, -, rfl, -⟩
    · have := hs.replaceFeeds listing (nodup_distinct urls)
      rwa [he] at this
    · exact hs
  | advance _ _ ha =>
    intro other
    rw [Store.findFeeds, ha.feeds_eq.1]
    exact hs other
  | _ => exact hs

structure Serial (t₀ : Store) (s : State) (a : Account) : Prop where
  orderly : s.Orderly
  grounded : s.Grounded
  faithful : Faithful s a
  urls : s.store.Distinct
  accounted : ∀ listing, Accounted t₀ listing s a
  concerned : ∀ listing, ∀ w ∈ a.order listing, s.Concerns a listing w
  complete : ∀ listing, s.Complete a listing
  renewed : ∀ listing, s.Renewed listing

theorem serial_quiet (hn : t₀.Numbered) (hd : t₀.Distinct) : Serial t₀ (quiet t₀) .blank where
  orderly := orderly_of_calls_nil rfl rfl
  grounded := grounded_of_calls_nil hn rfl
  faithful := faithful_blank t₀
  urls := hd
  accounted := fun listing => ⟨[], rfl, List.nodup_nil, rfl, .free (SameAt.refl listing t₀)⟩
  concerned := fun _ w hw => by cases hw
  complete := by
    rintro listing ⟨c, _ | n⟩ h
    · obtain ⟨k, hk, -⟩ := h
      simp [quiet] at hk
    · obtain ⟨k, f, hk, -⟩ := h
      simp [quiet] at hk
  renewed := fun listing ⟨fs, c, k, hk, _⟩ => by simp [quiet] at hk

theorem Serial.move (hs : Serial t₀ s a) (hm : Move size s e s') (hdrop : ∀ d, e ≠ .drop d) :
    Serial t₀ s' ((a.note s e).grant s s') := by
  have ho' := hs.orderly.move hm
  have hf' := (hs.faithful.move hs.orderly hm).grant s s'
  refine ⟨ho', hs.grounded.move hs.orderly hm, hf', hm.distinct hs.urls,
    fun listing => (hs.accounted listing).move hs.orderly hs.grounded hs.faithful hs.urls hm hdrop,
    fun listing w hw => ?_, fun listing w hw => ?_,
    fun listing => (hs.renewed listing).move hs.orderly hs.grounded hm hdrop⟩
  · rw [order_grant, order_note] at hw
    rcases List.mem_append.mp hw with hw | hw
    · exact (hs.concerned listing w hw).move hm hs.faithful
    · split at hw
      · cases hw
      · obtain ⟨o, ho, rfl⟩ := Option.map_eq_some_iff.mp (Option.mem_toList.mp hw)
        exact concerns_of_owner? ho' hf' ho
  · have hheld : ∀ o, s.locks.owner? listing = some o → s.stint o ∈ a.order listing := by
      intro o ho
      obtain ⟨past, horder, -⟩ := hs.accounted listing
      rw [horder, ho]
      simp
    rcases (hs.complete listing).move hs.orderly hs.faithful hheld hm hdrop w hw with hin | hpend
    · refine .inl ?_
      rw [order_grant, order_note]
      exact List.mem_append_left _ hin
    · exact .inr hpend

theorem Serial.run (hn : t₀.Numbered) (hd : t₀.Distinct) {es : List Event}
    (h : (quiet t₀).run? size es = some s) (hkept : ∀ k ∈ s.calls, k.phase ≠ .dropped) :
    Serial t₀ s (Account.ofRun size (quiet t₀) .blank es) := by
  refine Account.ofRun_induction
    (motive := fun s a => (∀ k ∈ s.calls, k.phase ≠ .dropped) → Serial t₀ s a)
    (fun {s s' a e} hs h hkept => ?_) (fun _ => serial_quiet hn hd) h hkept
  have hm := step?_move h
  have hbefore : ∀ k ∈ s.calls, k.phase ≠ .dropped := by
    intro k hk hphase
    obtain ⟨c, hc⟩ := List.mem_iff_getElem?.mp hk
    have hover : k.isOver = true := by simp [Call.isOver, hphase]
    exact hkept k (List.mem_of_getElem? (hm.calls_of_over hc hover)) hphase
  refine (hs hbefore).move hm fun d he => ?_
  subst he
  generalize he : Event.drop d = e at hm
  cases hm with
  | drop hc _ => exact hkept _ (List.mem_of_getElem? (calls_set_self hc _)) rfl
  | advance _ _ ha => cases ha <;> cases he
  | _ => cases he

/-- Nobody has a lock once all calls are over. -/
theorem Orderly.owner?_eq_none (ho : s.Orderly) (hover : ∀ k ∈ s.calls, k.isOver = true)
    (listing : Int) : s.locks.owner? listing = none := by
  refine ho.locks.owner?_eq_none_iff.mpr fun o hask => ?_
  rw [ho.tickets] at hask
  obtain ⟨⟨r, phase⟩, hc, hw⟩ := Option.bind_eq_some_iff.mp hask
  have hk := hover _ (List.mem_of_getElem? hc)
  obtain ⟨c, _ | i⟩ := o
  · cases phase with
    | waiting => cases hk
    | passing feeds p => cases hk
    | finished o => cases hw
    | dropped => cases hw
  · cases phase with
    | passing feeds p => cases hk
    | _ => cases hw

/-- However calls are interleaved, and whatever they meet: when all have returned, every listing has the
feeds and blocks, and its calls and feeds have the answers, that the same stints give one after another,
each once and in the order in which they got the lock of the listing. If calls have given it new feeds,
it has those of one of them. -/
theorem serializable {store : Store} (hn : store.Numbered) (hd : store.Distinct) {es : List Event}
    (h : (quiet store).run? size es = some s) (hret : ∀ k ∈ s.calls, k.outcome?.isSome = true)
    (listing : Int) :
    let a := Account.ofRun size (quiet store) .blank es
    let order := a.order listing
    order.Nodup ∧ (∀ w, w ∈ order ↔ s.Concerns a listing w) ∧
      SameAt listing s.store (serveAll store (order.map a.job)).1 ∧
      order.map s.answer? = (serveAll store (order.map a.job)).2.map some ∧
      ∀ (c : Nat) (urls : List String) (fs : List Feed),
        s.calls[c]? = some ⟨.setFeeds listing urls, .finished (.feeds fs)⟩ →
        ∃ (c' : Nat) (urls' : List String) (fs' : List Feed),
          s.calls[c']? = some ⟨.setFeeds listing urls', .finished (.feeds fs')⟩ ∧
          HasOnly s.store listing fs' := by
  have hphase : ∀ k ∈ s.calls, ∃ o, k.phase = .finished o := by
    intro k hk
    have := hret k hk
    unfold Call.outcome? at this
    split at this
    · next o ho => exact ⟨o, ho⟩
    · cases this
  have hserial := Serial.run hn hd h fun k hk hp => by
    obtain ⟨o, ho⟩ := hphase k hk
    rw [ho] at hp
    cases hp
  have hfree := hserial.orderly.owner?_eq_none (fun k hk => by
    obtain ⟨o, ho⟩ := hphase k hk
    simp [Call.isOver, ho]) listing
  obtain ⟨past, horder, hnodup, hanswers, hprog⟩ := hserial.accounted listing
  rw [hfree] at horder hprog
  intro a order
  have hpast : order = past := by simpa using horder
  refine ⟨hpast ▸ hnodup, fun w => ⟨hserial.concerned listing w, fun hw => ?_⟩, ?_, ?_,
    fun c urls fs hc => (hserial.renewed listing).of_finished hphase hc⟩
  · exact (hserial.complete listing w hw).resolve_right (not_pending hphase w)
  · rw [hpast]
    cases hprog with
    | free hst => exact hst
  · rw [hpast]
    exact hanswers.symm

/-- A listing gets new feeds twice at once, and all feeds are read meanwhile. -/
def contest : List Event :=
  [.submit (.setFeeds 1 ["http://a"]), .submit (.setFeeds 1 ["http://b"]), .submit (.refresh none),
    .list 0 [], .send 0 0, .list 2 [], .send 2 0, .receive 2 0 (.ok "BEGIN:VCALENDAR"),
    .lineUp 2 0, .receive 0 0 (.ok "BEGIN:VCALENDAR\nBEGIN:VEVENT\nDTSTART:20250701\nEND:VEVENT"),
    .write 0 0 [], .turn 0, .list 1 [], .send 1 0, .receive 1 0 (.error (.fetch "timeout")),
    .write 1 0 [], .turn 1, .recheck 2 0 [], .turn 2]

theorem contest_serializable : ∃ s, (quiet .empty).run? 2 contest = some s ∧
    let a := Account.ofRun 2 (quiet .empty) .blank contest
    a.order 1 = [⟨0, none⟩, ⟨1, none⟩, ⟨2, some 0⟩] ∧
      SameAt 1 s.store (serveAll .empty ((a.order 1).map a.job)).1 := by
  have h : ((quiet .empty).run? 2 contest).any
      (fun s => s.calls.all (·.outcome?.isSome)) = true := by
    decide
  obtain ⟨s, hs, hret⟩ := (Option.any_eq_true _ _).mp h
  have hserial := serializable Store.numbered_empty Store.sound_empty.distinct hs
    (List.all_eq_true.mp hret) 1
  exact ⟨s, hs, by decide, hserial.2.2.1⟩

end Lodging.Sync.State
