import Lodging.Proofs.Sync.Discipline

/-! # The places of the feeds of a call

A feed keeps its place in the list of its call while batches come and go. What a pass has come to is
said place by place, so that going on to the next batch changes nothing, and moving a feed on changes
its own place only. -/

namespace Lodging.Sync

open Calendar

def Stage.periods? : Stage → Option (List Period)
  | fetched ps => some ps
  | queued ps => some ps
  | cleared ps => some ps
  | _ => none

/-- What may be written was read before. -/
theorem State.toWrite?_periods? {p : Pass} {st : Stage} {ps : List Period}
    (h : toWrite? p st = some ps) : st.periods? = some ps := by
  unfold toWrite? at h
  split at h
  · split at h
    · cases h
    · exact h
  · split at h
    · exact h
    · cases h
  · cases h

namespace Pass

/-- How far the feed at a place has come. Feeds of later batches are idle. -/
def stageAt (p : Pass) (n : Nat) : Stage :=
  (p.results.map .done ++ p.batch.map (·.stage))[n]?.getD .idle

theorem stageAt_add (p : Pass) (i : Nat) :
    p.stageAt (p.results.length + i) = (p.batch[i]?.map (·.stage)).getD .idle := by
  rw [stageAt, List.getElem?_append_right (by simp), List.getElem?_map]
  simp

theorem stageAt_batch {p : Pass} {i : Nat} {slot : Slot} (h : p.batch[i]? = some slot) :
    p.stageAt (p.results.length + i) = slot.stage := by
  rw [stageAt_add, h]
  rfl

theorem stageAt_start (guarded : Bool) (size : Nat) (feeds : List Feed) (n : Nat) :
    (start guarded size feeds).stageAt n = .idle := by
  simp only [stageAt, start, load, List.map_nil, List.nil_append, List.map_map, List.getElem?_map]
  cases (feeds.take (max size 1))[n]? <;> rfl

theorem stageAt_setStage {p : Pass} {i : Nat} {slot : Slot} (h : p.batch[i]? = some slot)
    (st : Stage) (n : Nat) :
    (p.setStage i st).stageAt n = if n = p.results.length + i then st else p.stageAt n := by
  obtain ⟨feed, st₀⟩ := slot
  have hbatch := getElem?_setStage h st
  by_cases hn : n < p.results.length
  · rw [if_neg (by omega)]
    simp [stageAt, setStage, List.getElem?_append, hn]
  · obtain ⟨j, rfl⟩ := Nat.exists_eq_add_of_le (Nat.le_of_not_lt hn)
    have hadd : (p.setStage i st).stageAt (p.results.length + j) = _ := stageAt_add _ j
    rw [hadd, hbatch, stageAt_add]
    by_cases hj : j = i
    · simp [hj]
    · simp [hj]

/-- Once a batch is written its results are at the places of its feeds. -/
theorem stageAt_of_written? {p : Pass} {written : List (List Block)}
    (h : p.written? = some written) (n : Nat) :
    p.stageAt n = ((p.results ++ written)[n]?.map .done).getD .idle := by
  rw [stageAt, written?_eq_some h, ← List.map_append, List.getElem?_map]

theorem stageAt_next {p : Pass} {written : List (List Block)} (h : p.written? = some written)
    (n : Nat) : (p.next written).stageAt n = p.stageAt n := by
  rw [stageAt_of_written? h, stageAt, List.getElem?_append]
  simp only [next, load, List.length_map, List.map_map, List.getElem?_map]
  split
  · rfl
  · next hn =>
    rw [List.getElem?_eq_none (Nat.le_of_not_lt hn)]
    cases (p.rest.take p.size)[n - (p.results ++ written).length]? <;> rfl

theorem Regular.feed_at {guarded : Bool} {feeds : List Feed} {p : Pass}
    (hp : p.Regular guarded feeds) {i : Nat} {slot : Slot} (h : p.batch[i]? = some slot) :
    feeds[p.results.length + i]? = some slot.feed := by
  rw [← List.getElem?_drop, hp.drop_eq, List.getElem?_append_left, List.getElem?_map, h]
  · rfl
  · rw [List.length_map]
    exact (List.getElem?_eq_some_iff.mp h).1

/-- After the last batch every feed has its result. -/
theorem Regular.length_of_rest_nil {guarded : Bool} {feeds : List Feed} {p : Pass}
    (hp : p.Regular guarded feeds) {written : List (List Block)} (h : p.written? = some written)
    (hr : p.rest = []) : (p.results ++ written).length = feeds.length := by
  have hwritten := congrArg List.length (written?_eq_some h)
  have hdrop := congrArg List.length hp.drop_eq
  have hle := hp.length_le
  simp only [hr, List.append_nil, List.length_map, List.length_drop] at hwritten hdrop
  rw [List.length_append]
  omega

end Pass

end Lodging.Sync
