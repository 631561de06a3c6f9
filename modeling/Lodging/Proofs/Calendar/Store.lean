import Lodging.Calendar.Registration
import Lodging.Calendar.Store
import Mathlib.Data.List.Nodup

/-! # Rows of the calendar store

What the two writing operations do to the feeds and to the blocks of one listing, and what they keep.
A row that the store once had is told from every other by its identifier for good (`Knows`): new rows
are numbered from where nothing was numbered yet. A store in which every block has its feed stays so
(`Sound`), because new feeds take the blocks of dropped URLs with them and blocks are only written for
feeds that are there. -/

namespace Lodging.Calendar

/-! ## Submitted URLs -/

theorem isWebUrl_iff {url : String} : isWebUrl url = true ↔
    "http://".toList <+: url.toList ∨ "https://".toList <+: url.toList := by
  simp only [isWebUrl, Bool.or_eq_true, List.isPrefixOf_iff_prefix]

theorem mem_distinct {url : String} {urls : List String} : url ∈ distinct urls ↔ url ∈ urls :=
  List.mem_eraseDups

theorem nodup_distinct (urls : List String) : (distinct urls).Nodup := by
  unfold distinct
  -- the tail loses the head before it is looked at, so the induction is on the length
  induction hn : urls.length using Nat.strongRecOn generalizing urls with
  | ind n ih =>
    cases urls with
    | nil => simp
    | cons u rest =>
      have hlt : (rest.filter fun v => !v == u).length < n :=
        Nat.lt_of_le_of_lt (List.length_filter_le _ _) (by simp [← hn])
      rw [List.eraseDups_cons, List.nodup_cons]
      exact ⟨by simp, ih _ hlt _ rfl⟩

namespace Store

/-- The blocks of a listing from a URL, in the order of the table. -/
def blocksOf (s : Store) (listing : Int) (url : String) : List Block :=
  s.blocks.filter fun b => b.listing == listing && b.url == url

/-! ## New rows -/

theorem mem_newFeeds {n : Nat} {listing : Int} {urls : List String} {f : Feed}
    (h : f ∈ newFeeds n listing urls) :
    f.listing = listing ∧ f.url ∈ urls ∧ n ≤ f.id ∧ f.id < n + urls.length := by
  simp only [newFeeds, List.mem_map, Prod.exists] at h
  obtain ⟨u, id, hm, rfl⟩ := h
  exact ⟨rfl, List.fst_mem_of_mem_zipIdx hm, List.le_snd_of_mem_zipIdx hm,
    List.snd_lt_add_of_mem_zipIdx hm⟩

theorem newFeeds_urls (n : Nat) (listing : Int) (urls : List String) :
    (newFeeds n listing urls).map (·.url) = urls := by
  simp [newFeeds, Function.comp_def, List.zipIdx_map_fst]

theorem newFeeds_ids (n : Nat) (listing : Int) (urls : List String) :
    (newFeeds n listing urls).map (·.id) = List.range' n urls.length := by
  simp [newFeeds, Function.comp_def, List.zipIdx_map_snd]

theorem newFeeds_inj {n : Nat} {listing : Int} {urls : List String} {f g : Feed}
    (hf : f ∈ newFeeds n listing urls) (hg : g ∈ newFeeds n listing urls) (h : g.id = f.id) :
    g = f := by
  have hd : ((newFeeds n listing urls).map (·.id)).Nodup := by
    rw [newFeeds_ids]; exact List.nodup_range'
  exact List.inj_on_of_nodup_map hd hg hf h

theorem mem_newBlocks {n : Nat} {listing : Int} {url : String} {ps : List Period} {b : Block}
    (h : b ∈ newBlocks n listing url ps) :
    b.listing = listing ∧ b.url = url ∧ b.period ∈ ps := by
  simp only [newBlocks, List.mem_map, Prod.exists] at h
  obtain ⟨p, id, hm, rfl⟩ := h
  exact ⟨rfl, rfl, List.fst_mem_of_mem_zipIdx hm⟩

theorem newBlocks_periods (n : Nat) (listing : Int) (url : String) (ps : List Period) :
    (newBlocks n listing url ps).map (·.period) = ps := by
  simp [newBlocks, Function.comp_def, List.zipIdx_map_fst]

/-! ## The rows of one listing -/

theorem mem_findFeeds_some {s : Store} {listing : Int} {f : Feed} :
    f ∈ s.findFeeds (some listing) ↔ f ∈ s.feeds ∧ f.listing = listing := by
  simp [findFeeds]

theorem findFeeds_congr {s t : Store} (h : s.feeds = t.feeds) (listing : Option Int) :
    s.findFeeds listing = t.findFeeds listing := by
  cases listing with
  | none => exact h
  | some listing => rw [findFeeds, findFeeds, h]

theorem findFeeds_sublist (s : Store) (listing : Option Int) :
    (s.findFeeds listing).Sublist s.feeds := by
  cases listing with
  | none => exact List.Sublist.refl _
  | some listing => exact List.filter_sublist

theorem mem_feeds_of_mem_findFeeds {s : Store} {listing : Option Int} {f : Feed}
    (h : f ∈ s.findFeeds listing) : f ∈ s.feeds :=
  (s.findFeeds_sublist listing).mem h

/-- A listing with new feeds has these feeds and no other. -/
theorem findFeeds_replaceFeeds (s : Store) (listing : Int) (urls : List String) :
    (s.replaceFeeds listing urls).1.findFeeds (some listing) = newFeeds s.fresh listing urls := by
  have hold : (s.feeds.filter (·.listing != listing)).filter (·.listing == listing) = [] := by
    simp [List.filter_filter]
  have hnew : (newFeeds s.fresh listing urls).filter (·.listing == listing) =
      newFeeds s.fresh listing urls :=
    List.filter_eq_self.mpr fun f hf => by simp [(mem_newFeeds hf).1]
  simp [findFeeds, replaceFeeds, List.filter_append, hold, hnew]

theorem findFeeds_replaceFeeds_of_ne (s : Store) {listing other : Int} (h : other ≠ listing)
    (urls : List String) :
    (s.replaceFeeds listing urls).1.findFeeds (some other) = s.findFeeds (some other) := by
  have hold : (s.feeds.filter (·.listing != listing)).filter (·.listing == other) =
      s.feeds.filter (·.listing == other) := by
    rw [List.filter_filter]
    refine List.filter_congr fun f _ => ?_
    by_cases hf : f.listing = other <;> simp [hf, h]
  have hnew : (newFeeds s.fresh listing urls).filter (·.listing == other) = [] :=
    List.filter_eq_nil_iff.mpr fun f hf => by simp [(mem_newFeeds hf).1, Ne.symm h]
  simp [findFeeds, replaceFeeds, List.filter_append, hold, hnew]

@[simp] theorem findFeeds_replaceBlocks (s : Store) (listing : Int) (url : String)
    (ps : List Period) (l : Option Int) :
    (s.replaceBlocks listing url ps).1.findFeeds l = s.findFeeds l := by
  cases l <;> rfl

theorem blocksOf_replaceFeeds (s : Store) (listing : Int) (urls : List String) (url : String) :
    (s.replaceFeeds listing urls).1.blocksOf listing url =
      if url ∈ urls then s.blocksOf listing url else [] := by
  simp only [blocksOf, replaceFeeds, List.filter_filter]
  split
  · next h =>
    refine List.filter_congr fun b _ => ?_
    by_cases hl : b.listing = listing <;> by_cases hu : b.url = url <;> simp [hl, hu, h]
  · next h =>
    refine List.filter_eq_nil_iff.mpr fun b _ => ?_
    by_cases hl : b.listing = listing <;> by_cases hu : b.url = url <;> simp [hl, hu, h]

theorem blocksOf_replaceFeeds_of_ne (s : Store) {listing other : Int} (h : other ≠ listing)
    (urls : List String) (url : String) :
    (s.replaceFeeds listing urls).1.blocksOf other url = s.blocksOf other url := by
  simp only [blocksOf, replaceFeeds, List.filter_filter]
  refine List.filter_congr fun b _ => ?_
  by_cases hl : b.listing = other <;> simp [hl, h]

theorem blocksOf_replaceBlocks (s : Store) (listing : Int) (url : String) (ps : List Period) :
    (s.replaceBlocks listing url ps).1.blocksOf listing url =
      newBlocks s.fresh listing url ps := by
  have hold : (s.blocks.filter fun b => !(b.listing == listing && b.url == url)).filter
      (fun b => b.listing == listing && b.url == url) = [] := by
    rw [List.filter_filter]
    refine List.filter_eq_nil_iff.mpr fun b _ => ?_
    cases (b.listing == listing && b.url == url) <;> simp
  have hnew : (newBlocks s.fresh listing url ps).filter
      (fun b => b.listing == listing && b.url == url) = newBlocks s.fresh listing url ps :=
    List.filter_eq_self.mpr fun b hb => by simp [(mem_newBlocks hb).1, (mem_newBlocks hb).2.1]
  simp only [blocksOf, replaceBlocks, List.filter_append, hold, hnew, List.nil_append]

/-- Blocks that are not of the pair stay in their rows. -/
theorem filter_replaceBlocks (s : Store) {listing : Int} {url : String} {q : Block → Bool}
    (hq : ∀ b, b.listing = listing → b.url = url → q b = false) (ps : List Period) :
    (s.replaceBlocks listing url ps).1.blocks.filter q = s.blocks.filter q := by
  have hold : (s.blocks.filter fun b => !(b.listing == listing && b.url == url)).filter q =
      s.blocks.filter q := by
    rw [List.filter_filter]
    refine List.filter_congr fun b _ => ?_
    by_cases hb : b.listing = listing ∧ b.url = url
    · simp [hq b hb.1 hb.2]
    · by_cases hl : b.listing = listing <;> by_cases hu : b.url = url <;> simp_all
  have hnew : (newBlocks s.fresh listing url ps).filter q = [] :=
    List.filter_eq_nil_iff.mpr fun b hb => by
      simp [hq b (mem_newBlocks hb).1 (mem_newBlocks hb).2.1]
  simp only [replaceBlocks, List.filter_append, hold, hnew, List.append_nil]

/-- The blocks of other pairs are left alone. -/
theorem blocksOf_replaceBlocks_of_ne (s : Store) {listing other : Int} {url url' : String}
    (h : ¬ (other = listing ∧ url' = url)) (ps : List Period) :
    (s.replaceBlocks listing url ps).1.blocksOf other url' = s.blocksOf other url' := by
  refine s.filter_replaceBlocks (fun b hl hu => ?_) ps
  simp only [hl, hu, Bool.and_eq_false_imp, beq_iff_eq, beq_eq_false_iff_ne]
  exact fun h₁ h₂ => h ⟨h₁.symm, h₂.symm⟩

/-! ## Identifiers -/

/-- The identifier of the row is used up, and no other row has it. -/
def Knows (s : Store) (f : Feed) : Prop := f.id < s.fresh ∧ ∀ g ∈ s.feeds, g.id = f.id → g = f

/-- Every feed can be told by its identifier. -/
def Numbered (s : Store) : Prop := ∀ f ∈ s.feeds, s.Knows f

theorem numbered_empty : empty.Numbered := by simp [Numbered, empty]

theorem mem_feeds_replaceFeeds {s : Store} {listing : Int} {urls : List String} {f : Feed} :
    f ∈ (s.replaceFeeds listing urls).1.feeds ↔
      f ∈ s.feeds ∧ f.listing ≠ listing ∨ f ∈ newFeeds s.fresh listing urls := by
  simp [replaceFeeds]

/-- A row with a used identifier was there before. -/
theorem mem_feeds_of_lt {s : Store} {listing : Int} {urls : List String} {f : Feed}
    (h : f ∈ (s.replaceFeeds listing urls).1.feeds) (hf : f.id < s.fresh) : f ∈ s.feeds := by
  rcases mem_feeds_replaceFeeds.mp h with h | h
  · exact h.1
  · have := (mem_newFeeds h).2.2.1
    omega

theorem Knows.replaceFeeds {s : Store} {f : Feed} (h : s.Knows f) (listing : Int)
    (urls : List String) : (s.replaceFeeds listing urls).1.Knows f := by
  refine ⟨Nat.lt_add_right _ h.1, fun g hg he => h.2 g ?_ he⟩
  exact mem_feeds_of_lt hg (he ▸ h.1)

theorem Numbered.replaceFeeds {s : Store} (hs : s.Numbered) (listing : Int) (urls : List String) :
    (s.replaceFeeds listing urls).1.Numbered := by
  intro f hf
  rcases mem_feeds_replaceFeeds.mp hf with hf | hf
  · exact (hs f hf.1).replaceFeeds listing urls
  · obtain ⟨-, -, hle, hlt⟩ := mem_newFeeds hf
    refine ⟨hlt, fun g hg he => ?_⟩
    rcases mem_feeds_replaceFeeds.mp hg with hg | hg
    · have := (hs g hg.1).1
      omega
    · exact newFeeds_inj hf hg he

/-! ## Different URLs -/

def Distinct (s : Store) : Prop :=
  ∀ listing, ((s.findFeeds (some listing)).map (·.url)).Nodup

theorem Distinct.replaceFeeds {s : Store} (hs : s.Distinct) (listing : Int) {urls : List String}
    (hd : urls.Nodup) : (s.replaceFeeds listing urls).1.Distinct := by
  intro other
  by_cases ho : other = listing
  · rw [ho, findFeeds_replaceFeeds, newFeeds_urls]
    exact hd
  · rw [findFeeds_replaceFeeds_of_ne s ho]
    exact hs other

/-- No two feeds are of the same listing and have the same URL. -/
theorem distinct_iff {s : Store} : s.Distinct ↔
    s.feeds.Pairwise fun f g => ¬ (f.listing = g.listing ∧ f.url = g.url) := by
  constructor
  · refine fun hs => List.pairwise_iff_getElem.mpr fun i j hi hj hij ⟨hl, hu⟩ => ?_
    have hd : (s.feeds.filter (·.listing == s.feeds[j].listing)).Pairwise
        fun f g => f.url ≠ g.url := List.pairwise_map.mp (hs s.feeds[j].listing)
    have hp := List.pairwise_iff_getElem.mp (List.pairwise_filter.mp hd) i j hi hj hij
    exact hp (by simpa using hl) (by simp) hu
  · refine fun hs listing => List.pairwise_map.mpr (List.pairwise_filter.mpr ?_)
    refine hs.imp fun h hf hg hu => h ⟨?_, hu⟩
    rw [beq_iff_eq] at hf hg
    rw [hf, hg]

theorem Distinct.nodup {s : Store} (hs : s.Distinct) (listing : Option Int) :
    (s.findFeeds listing).Nodup := by
  refine List.Nodup.sublist (findFeeds_sublist s listing) ((distinct_iff.mp hs).imp ?_)
  rintro f _ h rfl
  exact h ⟨rfl, rfl⟩

/-! ## Every block has its feed -/

structure Sound (s : Store) : Prop where
  registered : ∀ b ∈ s.blocks, ∃ f ∈ s.feeds, f.listing = b.listing ∧ f.url = b.url
  nonempty : ∀ b ∈ s.blocks, b.period.start < b.period.stop
  distinct : s.Distinct
  web : ∀ f ∈ s.feeds, "http://".toList <+: f.url.toList ∨ "https://".toList <+: f.url.toList

theorem sound_empty : empty.Sound := by
  constructor <;> simp [empty, findFeeds, Distinct]

theorem Sound.replaceFeeds {s : Store} (hs : s.Sound) (listing : Int) {urls : List String}
    (hd : urls.Nodup) (hw : ∀ u ∈ urls, isWebUrl u = true) :
    (s.replaceFeeds listing urls).1.Sound where
  registered := by
    intro b hb
    obtain ⟨hb, hkeep⟩ := List.mem_filter.mp hb
    by_cases hl : b.listing = listing
    · -- the URL is among the new ones, so one of the new feeds has it
      have hu : b.url ∈ (newFeeds s.fresh listing urls).map (·.url) := by
        rw [newFeeds_urls]
        simpa [hl] using hkeep
      obtain ⟨f, hf, hfu⟩ := List.mem_map.mp hu
      exact ⟨f, mem_feeds_replaceFeeds.mpr (.inr hf), hl ▸ (mem_newFeeds hf).1, hfu⟩
    · obtain ⟨f, hf, hfl, hfu⟩ := hs.registered b hb
      exact ⟨f, mem_feeds_replaceFeeds.mpr (.inl ⟨hf, hfl ▸ hl⟩), hfl, hfu⟩
  nonempty := fun b hb => hs.nonempty b (List.mem_filter.mp hb).1
  distinct := hs.distinct.replaceFeeds listing hd
  web := by
    intro f hf
    rcases mem_feeds_replaceFeeds.mp hf with hf | hf
    · exact hs.web f hf.1
    · exact isWebUrl_iff.mp (hw f.url (mem_newFeeds hf).2.1)

theorem Sound.replaceBlocks {s : Store} (hs : s.Sound) {listing : Int} {url : String}
    {ps : List Period} (hf : ∃ f ∈ s.feeds, f.listing = listing ∧ f.url = url)
    (hp : ∀ p ∈ ps, p.start < p.stop) : (s.replaceBlocks listing url ps).1.Sound where
  registered := by
    intro b hb
    rcases List.mem_append.mp hb with hb | hb
    · exact hs.registered b (List.mem_filter.mp hb).1
    · obtain ⟨hl, hu, -⟩ := mem_newBlocks hb
      rw [hl, hu]
      exact hf
  nonempty := by
    intro b hb
    rcases List.mem_append.mp hb with hb | hb
    · exact hs.nonempty b (List.mem_filter.mp hb).1
    · exact hp _ (mem_newBlocks hb).2.2
  distinct := fun other => by simpa using hs.distinct other
  web := hs.web

end Store

end Lodging.Calendar
