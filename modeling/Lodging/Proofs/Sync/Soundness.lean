import Lodging.Proofs.Calendar.Document
import Lodging.Proofs.Sync.Background
import Lodging.Proofs.Sync.Course
import Lodging.Proofs.Sync.Grounds
import Lodging.Proofs.Sync.Places

/-! # The store stays sound

However calls are interleaved, whatever is downloaded, fails or is given up, every stored block belongs
to a registered feed and is not empty, and the URLs of a listing are different web addresses. The store
is only written by a call that was let in, with URLs that were checked, and for feeds that are there,
with periods that a document gave. -/

namespace Lodging.Sync

open Calendar

namespace State

theorem periodsOf_nonempty (d : Download) : ∀ q ∈ periodsOf d, q.start < q.stop := by
  unfold periodsOf
  split
  · next ps h =>
    cases d with
    | error e => cases h
    | ok text => exact readDocument_nonempty h
  · simp

structure Sound (s : State) : Prop where
  store : s.store.Sound
  /-- No feed is going to write an empty period. -/
  periods : s.EverySlot fun slot =>
    ∀ ps, slot.stage.periods? = some ps → ∀ q ∈ ps, q.start < q.stop

theorem Sound.store_move {size : Nat} {s s' : State} {e : Event} (hs : s.Sound) (ho : s.Orderly)
    (hg : s.Grounded) (h : Move size s e s') : s'.store.Sound := by
  cases h with
  | @list c r down store feeds hc _ hlist =>
    rcases listFeeds_eq_ok hlist with ⟨listing, urls, rfl, -, he⟩ | ⟨listing, rfl, -, rfl, -⟩
    · -- the call was let in, so its URLs were checked
      have hcheck : checkUrls urls = .ok () := (ho.regular c _ hc).admitted rfl
      have := hs.store.replaceFeeds listing (nodup_distinct urls)
        fun u hu => checkUrls_eq_ok hcheck u (mem_distinct.mp hu)
      rwa [he] at this
    · exact hs.store
  | @advance e c i r feeds p feed st st' store locks hc hb ha =>
    cases ha with
    | write hw _ =>
      have hfeed := hg.mem_of_toWrite? ho hc hb hw
      exact hs.store.replaceBlocks ⟨feed, hfeed, rfl, rfl⟩
        (hs.periods c r feeds p hc _ (List.mem_of_getElem? hb) _ (toWrite?_periods? hw))
    | _ => exact hs.store
  | _ => exact hs.store

theorem Sound.move {size : Nat} {s s' : State} {e : Event} (hs : s.Sound) (ho : s.Orderly)
    (hg : s.Grounded) (h : Move size s e s') : s'.Sound := by
  refine ⟨hs.store_move ho hg h,
    hs.periods.move h (fun _ _ h => by cases h) fun _ _ ha hst => ?_⟩
  cases ha with
  | receive d => exact fun ps h => Option.some.inj h ▸ periodsOf_nonempty d
  | lineUp _ => exact hst
  | clear _ _ => exact hst
  | _ => exact fun ps h => by cases h

theorem Sound.run {size : Nat} {s s' : State} {es : List Event} (hs : s.Sound) (ho : s.Orderly)
    (hg : s.Grounded) (h : s.run? size es = some s') : s'.Sound := by
  have := run?_induction (motive := fun s => s.Sound ∧ s.Orderly ∧ s.Grounded)
    (fun ⟨hs, ho, hg⟩ h =>
      have hm := step?_move h
      ⟨hs.move ho hg hm, ho.move hm, hg.move ho hm⟩) ⟨hs, ho, hg⟩ h
  exact this.1

end State

namespace Service

/-- Whatever calls and background passes do to an empty store, and wherever they fail or are given up,
every block has its feed and is not empty, and the URLs of a listing are different web addresses. -/
theorem store_sound_of_run? {batchSize interval : Nat} {signals : List (Nat × Signal)}
    {s : Service} (h : (create batchSize interval).run? signals = some s) : s.sync.store.Sound := by
  obtain ⟨es, hes⟩ := run?_sync h
  have hsound : State.empty.Sound := ⟨Store.sound_empty, State.everyPass_of_calls_nil rfl⟩
  have horderly : State.empty.Orderly := State.orderly_of_calls_nil rfl rfl
  have hgrounded : State.empty.Grounded := State.grounded_of_calls_nil Store.numbered_empty rfl
  exact (hsound.run horderly hgrounded hes).store

/-- A feed is submitted twice and read, while a background pass begins and is given up. -/
def registration : List (Nat × Signal) :=
  [(0, .call (.submit (.setFeeds 1 ["http://a", "http://a"]))), (0, .call (.list 0 [])),
    (1, .call (.send 0 0)), (1, .start), (1, .tick), (1, .call (.list 1 [])),
    (2, .call (.receive 0 0 (.ok "BEGIN:VCALENDAR\nBEGIN:VEVENT\nDTSTART:20250701\nEND:VEVENT"))),
    (3, .call (.write 0 0 [])), (4, .stop), (4, .call (.turn 0))]

theorem store_sound_of_registration : ∃ s, (create 2 1000).run? registration = some s ∧
    s.sync.store.blocks.length = 1 ∧ s.sync.store.Sound := by
  have h : ((create 2 1000).run? registration).any (·.sync.store.blocks.length == 1) = true := by
    decide
  obtain ⟨s, hs, hb⟩ := (Option.any_eq_true _ _).mp h
  exact ⟨s, hs, by simpa using hb, store_sound_of_run? hs⟩

end Service

end Lodging.Sync
