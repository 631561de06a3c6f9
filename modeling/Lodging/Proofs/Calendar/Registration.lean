import Lodging.Proofs.Calendar.Store
import Mathlib.Data.List.Induction

/-! # Feeds for submitted URLs

The feeds that a listing is given stand for its URLs in the order in which these were first named. Their
identifiers are free: every row of the tables has one that is used up, so no row had one of the new ones.
The rows of other listings stay where they are. -/

namespace Lodging.Calendar

theorem distinct_concat (urls : List String) (url : String) :
    distinct (urls ++ [url]) = if url ∈ urls then distinct urls else distinct urls ++ [url] := by
  unfold distinct
  rw [List.eraseDups_append]
  by_cases h : url ∈ urls <;> simp [List.removeAll, List.eraseDups_cons, h]

/-- Of two URLs the one that was named earlier comes first. -/
theorem pairwise_distinct (urls : List String) :
    (distinct urls).Pairwise fun u v => urls.idxOf u < urls.idxOf v := by
  induction urls using List.reverseRecOn with
  | nil => exact .nil
  | append_singleton urls url ih =>
    have hold : (distinct urls).Pairwise fun u v =>
        (urls ++ [url]).idxOf u < (urls ++ [url]).idxOf v := by
      refine List.Pairwise.imp_of_mem (fun {u v} hu hv h => ?_) ih
      rwa [List.idxOf_append_of_mem (mem_distinct.mp hu), List.idxOf_append_of_mem (mem_distinct.mp hv)]
    rw [distinct_concat]
    split
    · exact hold
    · next hnew =>
      refine List.pairwise_append.mpr ⟨hold, List.pairwise_singleton _ _, fun u hu v hv => ?_⟩
      have hlt := List.idxOf_lt_length_iff.mpr (mem_distinct.mp hu)
      rw [List.mem_singleton.mp hv, List.idxOf_append_of_mem (mem_distinct.mp hu),
        List.idxOf_append_of_notMem hnew]
      omega

namespace Store

structure UsedUp (s : Store) : Prop where
  feeds : ∀ f ∈ s.feeds, f.id < s.fresh
  blocks : ∀ b ∈ s.blocks, b.id < s.fresh

theorem usedUp_empty : empty.UsedUp := by constructor <;> simp [empty]

theorem UsedUp.replaceFeeds {s : Store} (hs : s.UsedUp) (listing : Int) (urls : List String) :
    (s.replaceFeeds listing urls).1.UsedUp where
  feeds := by
    intro f hf
    rcases mem_feeds_replaceFeeds.mp hf with hf | hf
    · exact Nat.lt_add_right _ (hs.feeds f hf.1)
    · exact (mem_newFeeds hf).2.2.2
  blocks := fun b hb => Nat.lt_add_right _ (hs.blocks b (List.mem_filter.mp hb).1)

theorem UsedUp.replaceBlocks {s : Store} (hs : s.UsedUp) (listing : Int) (url : String)
    (ps : List Period) : (s.replaceBlocks listing url ps).1.UsedUp where
  feeds := fun f hf => Nat.lt_add_right _ (hs.feeds f hf)
  blocks := by
    intro b hb
    rcases List.mem_append.mp hb with hb | hb
    · exact Nat.lt_add_right _ (hs.blocks b (List.mem_filter.mp hb).1)
    · simp only [newBlocks, List.mem_map, Prod.exists] at hb
      obtain ⟨p, id, hm, rfl⟩ := hb
      exact List.snd_lt_add_of_mem_zipIdx hm

/-- No row had the identifier of a new feed. -/
theorem UsedUp.ne_of_mem_newFeeds {s : Store} (hs : s.UsedUp) {listing : Int} {urls : List String}
    {f : Feed} (hf : f ∈ newFeeds s.fresh listing urls) :
    (∀ g ∈ s.feeds, g.id ≠ f.id) ∧ ∀ b ∈ s.blocks, b.id ≠ f.id := by
  have hle := (mem_newFeeds hf).2.2.1
  exact ⟨fun g hg => Nat.ne_of_lt (Nat.lt_of_lt_of_le (hs.feeds g hg) hle),
    fun b hb => Nat.ne_of_lt (Nat.lt_of_lt_of_le (hs.blocks b hb) hle)⟩

theorem filter_feeds_replaceFeeds (s : Store) (listing : Int) (urls : List String) :
    (s.replaceFeeds listing urls).1.feeds.filter (·.listing != listing) =
      s.feeds.filter (·.listing != listing) := by
  have hnew : (newFeeds s.fresh listing urls).filter (·.listing != listing) = [] :=
    List.filter_eq_nil_iff.mpr fun f hf => by simp [(mem_newFeeds hf).1]
  simp [replaceFeeds, List.filter_append, List.filter_filter, hnew]

theorem filter_blocks_replaceFeeds (s : Store) (listing : Int) (urls : List String) :
    (s.replaceFeeds listing urls).1.blocks.filter (·.listing != listing) =
      s.blocks.filter (·.listing != listing) := by
  simp only [replaceFeeds, List.filter_filter]
  refine List.filter_congr fun b _ => ?_
  cases b.listing != listing <;> rfl

end Store

end Lodging.Calendar
