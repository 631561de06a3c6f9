import Lodging.Proofs.Sync.Refresh
import Lodging.Proofs.Sync.Serializability

/-! # Which download is written last

A download that is over while a call has the lock of the listing is written before anybody else gets
the lock. In a call on all feeds it waits in line first, and is written before that of everybody who
came into the line behind it. So whoever asked for the lock first has written, or never will, when the
other writes. -/

namespace Lodging.Sync

open Calendar

/-- The call has `f` at a place of its list and so many steps to make for it at most, or is over. -/
def Call.Within (k : Call) (n : Nat) (f : Feed) (m : Nat) : Prop :=
  match k.phase with
  | .waiting => False
  | .passing feeds p => feeds[n]? = some f ∧ (p.stageAt n).left ≤ m
  | _ => True

theorem Call.within_of_isOver {k : Call} (hk : k.isOver = true) (n : Nat) (f : Feed) (m : Nat) :
    k.Within n f m := by
  obtain ⟨r, phase⟩ := k
  cases phase with
  | waiting => cases hk
  | passing feeds p => cases hk
  | finished o => trivial
  | dropped => trivial

/-- The feed at a place is in a slot and has a ticket for the lock of its listing. -/
def Call.Stands (k : Call) (i n : Nat) (f : Feed) : Prop :=
  match k.phase with
  | .passing _ p =>
    p.results.length + i = n ∧ ∃ st, p.batch[i]? = some ⟨f, st⟩ ∧ st.wantsLock = true
  | _ => False

namespace State

variable {size : Nat} {s s' : State} {e : Event} {c i n m : Nat} {f : Feed}

theorem request_of_run? {es : List Event} {k : Call} (hk : s.calls[c]? = some k)
    (h : s.run? size es = some s') : ∃ k', s'.calls[c]? = some k' ∧ k'.request = k.request := by
  refine run?_induction (motive := fun t => ∃ k', t.calls[c]? = some k' ∧ k'.request = k.request)
    ?_ ⟨k, hk, rfl⟩ h
  rintro t t' e ⟨k', hk', hr⟩ hstep
  obtain ⟨k'', hk'', hb⟩ := (step?_move hstep).becomes hk'
  exact ⟨k'', hk'', hb.request.trans hr⟩

/-! ## No feed is listed twice -/

structure Unrepeated (s : State) : Prop where
  store : s.store.Distinct
  feeds : s.EveryPass fun _ _ feeds _ => feeds.Nodup

theorem nodup_of_listFeeds {store store' : Store} {down : Outage} {r : Request} {feeds : List Feed}
    (hs : store'.Distinct) (h : listFeeds store down r = .ok (store', feeds)) : feeds.Nodup := by
  rcases listFeeds_eq_ok h with ⟨listing, urls, -, -, he⟩ | ⟨listing, -, -, rfl, rfl⟩
  · obtain ⟨rfl, rfl⟩ := Prod.mk.inj he
    rw [← Store.findFeeds_replaceFeeds]
    exact hs.nodup (some listing)
  · exact hs.nodup listing

theorem Unrepeated.move (hs : s.Unrepeated) (h : Move size s e s') : s'.Unrepeated := by
  have hd := h.distinct hs.store
  exact ⟨hd, hs.feeds.move h (fun _ hf => hf) (fun _ _ hl => nodup_of_listFeeds hd hl)
    (fun _ _ _ hf => hf) fun _ _ hf => hf⟩

theorem Unrepeated.run {es : List Event} (hs : s.Unrepeated) (h : s.run? size es = some s') :
    s'.Unrepeated :=
  run?_induction (motive := Unrepeated) (fun hs h => hs.move (step?_move h)) hs h

theorem unrepeated_quiet {store : Store} (hd : store.Distinct) : (quiet store).Unrepeated :=
  ⟨hd, everyPass_of_calls_nil rfl⟩

/-! ## Work that is left -/

def Within (s : State) (c n : Nat) (f : Feed) (m : Nat) : Prop :=
  ∃ k, s.calls[c]? = some k ∧ k.Within n f m

theorem Becomes.within {k k' : Call} (h : Becomes size s e c k k')
    (hk : k.Within n f m) : k'.Within n f m := by
  cases h with
  | same => exact hk
  | list _ => exact hk.elim
  | advance hb ha =>
    refine ⟨hk.1, ?_⟩
    rw [Pass.stageAt_setStage hb]
    split
    · next hn =>
      have hle := hk.2
      rw [hn, Pass.stageAt_batch hb] at hle
      exact Nat.le_trans (Nat.le_of_lt ha.left_lt) hle
    · exact hk.2
  | next hw => exact ⟨hk.1, by rw [Pass.stageAt_next hw]; exact hk.2⟩
  | finish hover _ => exact Call.within_of_isOver hover n f m

theorem Within.run {es : List Event} (hs : s.Within c n f m)
    (h : s.run? size es = some s') : s'.Within c n f m := by
  refine run?_induction (motive := fun t => t.Within c n f m) ?_ hs h
  rintro t t' e ⟨k, hk, hw⟩ hstep
  obtain ⟨k', hk', hb⟩ := (step?_move hstep).becomes hk
  exact ⟨k', hk', hb.within hw⟩

/-- What is known of the place of a feed is known of every slot that the feed is in. -/
theorem Within.slot (hs : s.Within c n f m) (ho : s.Orderly) (hu : s.Unrepeated) {p : Pass}
    {st : Stage} (h : s.slot? c i = some (p, ⟨f, st⟩)) : p.results.length + i = n ∧ st.left ≤ m := by
  obtain ⟨r, feeds, hc, hb⟩ := slot?_eq_some h
  obtain ⟨k, hk, hw⟩ := hs
  obtain rfl : _ = k := Option.some.inj (hc.symm.trans hk)
  obtain ⟨hn, hleft⟩ := hw
  have hat := ((ho.regular c _ hc).pass feeds p rfl).feed_at hb
  obtain rfl : p.results.length + i = n :=
    (List.getElem?_inj (List.getElem?_eq_some_iff.mp hat).1 (hu.feeds c r feeds p hc)).mp
      (hat.trans hn.symm)
  exact ⟨rfl, by rwa [Pass.stageAt_batch hb] at hleft⟩

/-- Nothing is written any more for a feed for which nothing is left to be done. -/
theorem Within.writes?_ne (hs : s.Within c n f 0) (ho : s.Orderly) (hu : s.Unrepeated) (i : Nat)
    (ps : List Period) : s.writes? c i ≠ some (f, ps) := by
  intro h
  obtain ⟨p, st, hslot, hw⟩ := writes?_eq_some h
  have hleft := (hs.slot ho hu hslot).2
  cases st with
  | fetched _ => cases hleft
  | cleared _ => cases hleft
  | _ => cases hw

/-! ## Standing in line -/

/-- A step changes nothing about who leads whom, as long as who leads has a ticket. -/
theorem Move.leads (h : Move size s e s') {a b : Party} (hl : s.locks.Leads a b)
    (ha : s'.locks.asked? a ≠ none) : s'.locks.Leads a b := by
  have hrelease : ∀ {q : Party → Bool}, (s.locks.release q).asked? a ≠ none →
      (s.locks.release q).Leads a b := by
    intro q hq
    refine hl.release ?_
    by_contra hqa
    rw [Locks.asked?_release, if_pos (by simpa using hqa)] at hq
    exact hq rfl
  cases h with
  | refuse _ => exact hl
  | join _ _ => exact hl.lock _ _
  | enter _ _ => exact hl
  | list _ _ _ => exact hl
  | next _ _ _ => exact hl
  | listFail _ _ _ => exact hrelease ha
  | finish _ _ _ => exact hrelease ha
  | drop _ _ => exact hrelease ha
  | advance _ _ hadv =>
    cases hadv with
    | lineUp _ => exact hl.lock _ _
    | skip _ _ => exact hrelease ha
    | write _ _ => exact hrelease ha
    | fail _ _ => exact hrelease ha
    | _ => exact hl

/-- A feed that stands in line goes on doing so until nothing is left to be done for it. -/
theorem Becomes.stands {k k' : Call} (h : Becomes size s e c k k') (hk : k.Stands i n f)
    (hw : k.Within n f m) : k'.Stands i n f ∨ k'.Within n f 0 := by
  cases h with
  | same => exact .inl hk
  | list _ => exact hk.elim
  | finish hover _ => exact .inr (Call.within_of_isOver hover n f 0)
  | next hwritten =>
    obtain ⟨-, st, hb, hst⟩ := hk
    obtain ⟨bs, -, hdone⟩ := Pass.done_of_written? hwritten (List.mem_of_getElem? hb)
    rw [show st = _ from hdone] at hst
    cases hst
  | @advance j r feeds p feed st₁ st₁' store locks hb' ha =>
    obtain ⟨hn, st, hb, hst⟩ := hk
    by_cases hj : i = j
    · subst hj
      obtain ⟨rfl, rfl⟩ : feed = f ∧ st₁ = st := by simpa [hb] using hb'.symm
      have hdone : ∀ bs, st₁' = .done bs →
          Call.Within ⟨r, .passing feeds (p.setStage i st₁')⟩ n feed 0 := by
        rintro bs rfl
        refine ⟨hw.1, ?_⟩
        rw [Pass.stageAt_setStage hb, if_pos hn.symm]
        exact Nat.le_refl 0
      cases ha with
      | send => cases hst
      | receive _ => cases hst
      | lineUp _ => cases hst
      | clear _ _ => exact .inl ⟨hn, _, by rw [Pass.getElem?_setStage hb, if_pos rfl], rfl⟩
      | skip _ _ => exact .inr (hdone _ rfl)
      | write _ _ => exact .inr (hdone _ rfl)
      | fail _ _ => exact .inr (hdone _ rfl)
    · exact .inl ⟨hn, st, by rw [Pass.getElem?_setStage hb', if_neg hj, hb], hst⟩

/-- The feed stands in line, where the other party has no older ticket. -/
structure Awaits (s : State) (c i n : Nat) (f : Feed) (b : Party) : Prop where
  stands : ∃ k, s.calls[c]? = some k ∧ k.Stands i n f
  leads : s.locks.Leads ⟨c, some i⟩ b

theorem Orderly.asked?_of_stands (ho : s.Orderly) {k : Call} (hc : s.calls[c]? = some k)
    (hk : k.Stands i n f) : s.locks.asked? ⟨c, some i⟩ = some f.listing := by
  obtain ⟨r, phase⟩ := k
  cases phase with
  | passing feeds p =>
    obtain ⟨-, st, hb, hst⟩ := hk
    rw [ho.asked?_slot hc hb, if_pos hst]
  | _ => exact hk.elim

theorem Awaits.run {es : List Event} {b : Party} (hs : s.Awaits c i n f b) (ho : s.Orderly)
    (hw : s.Within c n f m) (h : s.run? size es = some s') :
    s'.Awaits c i n f b ∨ s'.Within c n f 0 := by
  have := run?_induction
    (motive := fun t => t.Orderly ∧ t.Within c n f m ∧ (t.Awaits c i n f b ∨ t.Within c n f 0))
    ?_ ⟨ho, hw, .inl hs⟩ h
  · exact this.2.2
  rintro t t' e ⟨ho, hw, ht⟩ hstep
  have hm := step?_move hstep
  have hrun : t.run? size [e] = some t' := by simp [run?, hstep]
  refine ⟨ho.move hm, hw.run hrun, ?_⟩
  rcases ht with ⟨⟨k, hk, hstands⟩, hleads⟩ | hdone
  · obtain ⟨k₁, hk₁, hwithin⟩ := hw
    obtain rfl : k = k₁ := Option.some.inj (hk.symm.trans hk₁)
    obtain ⟨k', hk', hb⟩ := hm.becomes hk
    rcases hb.stands hstands hwithin with hstands' | hdone
    · refine .inl ⟨⟨k', hk', hstands'⟩, hm.leads hleads ?_⟩
      rw [(ho.move hm).asked?_of_stands hk' hstands']
      exact Option.some_ne_none _
    · exact .inr ⟨k', hk', hdone⟩
  · exact .inr (hdone.run hrun)

/-! ## Earlier downloads -/

/-- Who has the lock of the listing when a slot is written: the feed itself if its call works on all
feeds, or else the call. -/
def writer (s : State) (c i : Nat) : Party :=
  ⟨c, if (s.slot? c i).any (·.1.guarded) then some i else none⟩

theorem owner?_of_writes? (ho : s.Orderly) (hg : s.Grounded) {ps : List Period}
    (h : s.writes? c i = some (f, ps)) : s.locks.owner? f.listing = some (s.writer c i) := by
  obtain ⟨p, st, hslot, hw⟩ := writes?_eq_some h
  obtain ⟨r, feeds, hc, hb⟩ := slot?_eq_some hslot
  simpa [writer, hslot] using owner?_of_toWrite? ho hg hc hb hw

/-- The feed in a slot has asked for the lock of its listing, and the other party has not. -/
def AsksBefore (s : State) (c i : Nat) (f : Feed) (b : Party) : Prop :=
  ∃ p st, s.slot? c i = some (p, ⟨f, st⟩) ∧ st.wantsLock = true ∧ s.locks.asked? b = none

theorem AsksBefore.awaits {b : Party} (h : s.AsksBefore c i f b) (ho : s.Orderly)
    (hu : s.Unrepeated) (hw : s.Within c n f m) : s.Awaits c i n f b := by
  obtain ⟨p, st, hslot, hst, hb⟩ := h
  obtain ⟨r, feeds, hc, hslot'⟩ := slot?_eq_some hslot
  have hstands : Call.Stands ⟨r, .passing feeds p⟩ i n f :=
    ⟨(hw.slot ho hu hslot).1, st, hslot', hst⟩
  exact ⟨⟨_, hc, hstands⟩, Locks.leads_of_asked? (ho.asked?_of_stands hc hstands) hb⟩

/-- A document that has come in is at most three steps from being done with. -/
theorem within_of_receive {d : Download} {p : Pass} (ho : s.Orderly)
    (hslot : s.slot? c i = some (p, ⟨f, .fetching⟩))
    (h : s.step? size (.receive c i d) = some s') :
    ∃ r feeds, s.calls[c]? = some ⟨r, .passing feeds p⟩ ∧
      s'.Within c (p.results.length + i) f 3 := by
  obtain ⟨r, feeds, hc, hb⟩ := slot?_eq_some hslot
  have hs' : s' = s.setStage c i (.fetched (periodsOf d)) := by
    simpa [step?, receive?, hslot] using h.symm
  refine ⟨r, feeds, hc, ⟨r, .passing feeds (p.setStage i (.fetched (periodsOf d)))⟩, ?_, ((ho.regular c _ hc).pass feeds p rfl).feed_at hb, ?_⟩
  · rw [hs', setStage_eq hc]
    exact calls_set_self hc _
  · rw [Pass.stageAt_setStage hb, if_pos rfl]
    exact Nat.le_refl 3

/-- Nothing is left to be done for a feed whose document came in before, once another call is about to
write what it sent for later. -/
theorem within_zero_of_writes? {c' j : Nat} {k : Call} {ps : List Period} (ho : s.Orderly)
    (hg : s.Grounded) (hc : s.calls[c]? = some k) (hw : k.Within n f 3) (hne : c' ≠ c)
    (hwrites : s.writes? c' j = some (f, ps))
    (hline : k.request.guarded = true →
      s.Awaits c i n f (s.writer c' j) ∨ s.Within c n f 0) : s.Within c n f 0 := by
  have hown := owner?_of_writes? ho hg hwrites
  cases hguarded : k.request.guarded with
  | true =>
    rcases hline hguarded with ⟨⟨k', hk', hstands⟩, hleads⟩ | hdone
    · have hasked := ho.asked?_of_stands hk' hstands
      have hne' : (⟨c, some i⟩ : Party) ≠ s.writer c' j := fun h => hne (congrArg Party.call h).symm
      exact absurd hown (ho.locks.owner?_ne_of_leads hleads hne' hasked)
    · exact hdone
  | false =>
    obtain ⟨r, phase⟩ := k
    cases phase with
    | waiting => exact hw.elim
    | passing feeds p =>
      have hc' := owner?_of_passing ho hg hc hguarded (List.mem_of_getElem? hw.1)
      rw [hown] at hc'
      exact absurd (congrArg Party.call (Option.some.inj hc')) hne
    | finished o => exact ⟨_, hc, trivial⟩
    | dropped => exact ⟨_, hc, trivial⟩

/-- A download that was over before a later one of the same feed was sent for is not written after it:
if it was made by a call on the listing, or if its call had asked for the lock before whoever wrote the
later one. -/
theorem not_written_after {store : Store} (hn : store.Numbered) (hd : store.Distinct)
    {es₀ es es' : List Event} {s₀ s₁ s₂ s₃ s₄ sent : State} {c' j : Nat} {p : Pass} {d : Download}
    {ps : List Period} {down : Outage} (h₀ : (quiet store).run? size es₀ = some s₀)
    (hfetching : s₀.slot? c i = some (p, ⟨f, .fetching⟩))
    (h₁ : s₀.step? size (.receive c i d) = some s₁) (h₂ : s₁.run? size es = some s₂)
    (hsent : Sent size s₁ es c' j f sent) (hwrites : s₂.writes? c' j = some (f, ps))
    (h₃ : s₂.step? size (.write c' j down) = some s₃)
    (hline : p.guarded = true → ∃ before after s, es = before ++ after ∧
      s₁.run? size before = some s ∧ s.AsksBefore c i f (s₂.writer c' j))
    (h₄ : s₃.run? size es' = some s₄) (i' : Nat) (qs : List Period) :
    s₄.writes? c i' ≠ some (f, qs) := by
  obtain ⟨ho₀, hg₀⟩ := quiet_run hn h₀
  have hu₀ := (unrepeated_quiet hd).run h₀
  obtain ⟨r, feeds, hc, hw₁⟩ := within_of_receive ho₀ hfetching h₁
  have hm₁ := step?_move h₁
  obtain ⟨ho₁, hg₁⟩ : s₁.Orderly ∧ s₁.Grounded := ⟨ho₀.move hm₁, hg₀.move ho₀ hm₁⟩
  have hu₁ := hu₀.move hm₁
  obtain ⟨ho₂, hg₂⟩ := hg₁.run ho₁ h₂
  -- the later download is one of another call, since what has come in is not sent for again
  have hne : c' ≠ c := by
    rintro rfl
    obtain ⟨es₁, es₂, q, -, hrun, hidle, -⟩ := hsent
    have hleft := ((hw₁.run hrun).slot (hg₁.run ho₁ hrun).1 (hu₁.run hrun) hidle).2
    exact absurd hleft (by decide)
  obtain ⟨k, hk, hwithin⟩ := hw₁.run h₂
  have hdone : s₂.Within c (p.results.length + i) f 0 := by
    refine within_zero_of_writes? (i := i) ho₂ hg₂ hk hwithin hne hwrites fun hguarded => ?_
    have hall : s₀.run? size (.receive c i d :: es) = some s₂ := by
      simpa only [run?, h₁, Option.bind_some] using h₂
    obtain ⟨k', hk', hr⟩ := request_of_run? hc hall
    obtain rfl : k = k' := Option.some.inj (hk.symm.trans hk')
    obtain ⟨before, after, s, rfl, hrun, hasks⟩ := hline (by
      rw [((ho₀.regular c _ hc).pass feeds p rfl).guarded_eq, ← hguarded, hr])
    have hafter : s.run? size after = some s₂ := by
      rwa [run?_append, hrun, Option.bind_some] at h₂
    have ho := (hg₁.run ho₁ hrun).1
    exact (hasks.awaits ho (hu₁.run hrun) (hw₁.run hrun)).run ho (hw₁.run hrun) hafter
  have hrest : s₂.run? size (.write c' j down :: es') = some s₄ := by
    simpa only [run?, h₃, Option.bind_some] using h₄
  exact (hdone.run hrest).writes?_ne (hg₂.run ho₂ hrest).1 ((hu₁.run h₂).run hrest) i' qs

def unread : Feed := ⟨0, 1, "http://a"⟩

def oneFeed : Store := ⟨[unread], [], 1⟩

def otherDay : Download :=
  .ok "BEGIN:VCALENDAR\nBEGIN:VEVENT\nDTSTART:20250801\nEND:VEVENT\nEND:VCALENDAR"

theorem distinct_oneFeed : oneFeed.Distinct := Store.distinct_iff.mpr (by decide)

theorem numbered_oneFeed : oneFeed.Numbered := by
  simp [oneFeed, unread, Store.Numbered, Store.Knows]

/-- All feeds are read, and the one there is stands in line before its listing is read again. -/
def patience : List Event :=
  [.lineUp 0 0, .submit (.refresh (some 1)), .recheck 0 0 [], .write 0 0 [], .turn 0, .list 1 [],
    .send 1 0, .receive 1 0 otherDay]

theorem patience_not_written_after : ∃ s₀ s₁ s₂ s₃,
    (quiet oneFeed).run? 1 [.submit (.refresh none), .list 0 [], .send 0 0] = some s₀ ∧
    s₀.step? 1 (.receive 0 0 oneDay) = some s₁ ∧ s₁.run? 1 patience = some s₂ ∧
    s₂.step? 1 (.write 1 0 []) = some s₃ ∧ ∀ i ps, s₃.writes? 0 i ≠ some (unread, ps) := by
  have h : ((quiet oneFeed).run? 1 [.submit (.refresh none), .list 0 [], .send 0 0]).any
      (fun s₀ => (s₀.step? 1 (.receive 0 0 oneDay)).any fun s₁ =>
        (s₁.run? 1 (patience.take 1)).any fun waiting => (s₁.run? 1 (patience.take 6)).any fun sent =>
          (s₁.run? 1 patience).any fun s₂ => (s₂.step? 1 (.write 1 0 [])).any fun _ =>
            s₀.slot? 0 0 = some ((Pass.start true 1 [unread]).setStage 0 .fetching,
              ⟨unread, .fetching⟩) ∧
            waiting.slot? 0 0 = some ((Pass.start true 1 [unread]).setStage 0
              (.queued (periodsOf oneDay)), ⟨unread, .queued (periodsOf oneDay)⟩) ∧
            waiting.locks.asked? (s₂.writer 1 0) = none ∧
            sent.slot? 1 0 = some (Pass.start false 1 [unread], ⟨unread, .idle⟩) ∧
            s₂.writes? 1 0 = some (unread, periodsOf otherDay)) = true := by
    decide
  obtain ⟨s₀, h₀, h⟩ := (Option.any_eq_true _ _).mp h
  obtain ⟨s₁, h₁, h⟩ := (Option.any_eq_true _ _).mp h
  obtain ⟨waiting, hwaiting, h⟩ := (Option.any_eq_true _ _).mp h
  obtain ⟨sent, hsent, h⟩ := (Option.any_eq_true _ _).mp h
  obtain ⟨s₂, h₂, h⟩ := (Option.any_eq_true _ _).mp h
  obtain ⟨s₃, h₃, h⟩ := (Option.any_eq_true _ _).mp h
  obtain ⟨hfetching, hqueued, hasked, hidle, hwrites⟩ := of_decide_eq_true h
  refine ⟨s₀, s₁, s₂, s₃, h₀, h₁, h₂, h₃, ?_⟩
  exact not_written_after numbered_oneFeed distinct_oneFeed h₀ hfetching h₁ h₂
    ⟨patience.take 6, [.receive 1 0 otherDay], _, rfl, hsent, hidle, by simp⟩ hwrites h₃
    (fun _ => ⟨patience.take 1, patience.drop 1, waiting, rfl, hwaiting, _, _, hqueued, rfl, hasked⟩)
    (show s₃.run? 1 [] = some s₃ from rfl)

/-- While the listing is read somebody else waits to read it again, and all feeds are read. -/
def crowd : List Event :=
  [.submit (.refresh (some 1)), .list 0 [], .send 0 0, .submit (.refresh (some 1)),
    .submit (.refresh none), .list 2 [], .send 2 0]

/-- The one who waits gets the lock before the feed that came too late into the line. -/
def rush : List Event :=
  [.lineUp 2 0, .receive 0 0 oneDay, .write 0 0 [], .turn 0, .list 1 [], .send 1 0,
    .receive 1 0 otherDay]

/-- Without a place in line what the call on all feeds downloaded first is written last, over what the
other call sent for later. -/
theorem crowd_written_after : ∃ s₀ s₁ sent s₂ s₃ s₄ s₅ p,
    (quiet oneFeed).run? 1 crowd = some s₀ ∧ s₀.slot? 2 0 = some (p, ⟨unread, .fetching⟩) ∧
    s₀.step? 1 (.receive 2 0 oneDay) = some s₁ ∧ s₁.run? 1 rush = some s₂ ∧
    Sent 1 s₁ rush 1 0 unread sent ∧ s₂.writes? 1 0 = some (unread, periodsOf otherDay) ∧
    s₂.step? 1 (.write 1 0 []) = some s₃ ∧ s₃.run? 1 [.turn 1, .recheck 2 0 []] = some s₄ ∧
    s₄.writes? 2 0 = some (unread, periodsOf oneDay) ∧ s₄.step? 1 (.write 2 0 []) = some s₅ ∧
    s₃.store.ranges 1 "http://a" = periodsOf otherDay ∧
    s₅.store.ranges 1 "http://a" = periodsOf oneDay ∧ periodsOf oneDay ≠ periodsOf otherDay := by
  have h : ((quiet oneFeed).run? 1 crowd).any (fun s₀ =>
      (s₀.step? 1 (.receive 2 0 oneDay)).any fun s₁ => (s₁.run? 1 (rush.take 5)).any fun sent =>
        (s₁.run? 1 rush).any fun s₂ => (s₂.step? 1 (.write 1 0 [])).any fun s₃ =>
          (s₃.run? 1 [.turn 1, .recheck 2 0 []]).any fun s₄ =>
            (s₄.step? 1 (.write 2 0 [])).any fun s₅ =>
              s₀.slot? 2 0 = some ((Pass.start true 1 [unread]).setStage 0 .fetching,
                ⟨unread, .fetching⟩) ∧
              sent.slot? 1 0 = some (Pass.start false 1 [unread], ⟨unread, .idle⟩) ∧
              s₂.writes? 1 0 = some (unread, periodsOf otherDay) ∧
              s₄.writes? 2 0 = some (unread, periodsOf oneDay) ∧
              s₃.store.ranges 1 "http://a" = periodsOf otherDay ∧
              s₅.store.ranges 1 "http://a" = periodsOf oneDay ∧
              periodsOf oneDay ≠ periodsOf otherDay) = true := by
    decide
  obtain ⟨s₀, h₀, h⟩ := (Option.any_eq_true _ _).mp h
  obtain ⟨s₁, h₁, h⟩ := (Option.any_eq_true _ _).mp h
  obtain ⟨sent, hsent, h⟩ := (Option.any_eq_true _ _).mp h
  obtain ⟨s₂, h₂, h⟩ := (Option.any_eq_true _ _).mp h
  obtain ⟨s₃, h₃, h⟩ := (Option.any_eq_true _ _).mp h
  obtain ⟨s₄, h₄, h⟩ := (Option.any_eq_true _ _).mp h
  obtain ⟨s₅, h₅, h⟩ := (Option.any_eq_true _ _).mp h
  obtain ⟨hfetching, hidle, hlater, hearlier, hthen, hafter, hne⟩ := of_decide_eq_true h
  exact ⟨s₀, s₁, sent, s₂, s₃, s₄, s₅, _, h₀, hfetching, h₁, h₂,
    ⟨rush.take 5, [.receive 1 0 otherDay], _, rfl, hsent, hidle, by simp⟩, hlater, h₃, h₄, hearlier,
    h₅, hthen, hafter, hne⟩

end State

end Lodging.Sync
