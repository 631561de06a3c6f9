import Lodging.Calendar.Store

/-!
# Passes over feeds

A pass downloads feeds and writes their busy periods, a batch of them at once and the batches one after
another. In a guarded pass every feed takes the lock of its listing between download and write, and is
looked up again under it, because the list of feeds may have changed since it was read; in any other
pass the lock is held all the time.
-/

namespace Lodging.Sync

open Calendar

/-- How far a feed has come. -/
inductive Stage where
  | idle
  | fetching
  /-- The download is over; the periods are none if it failed. -/
  | fetched (periods : List Period)
  /-- Waits for the lock of the listing. -/
  | queued (periods : List Period)
  /-- Has the lock, and is registered still. -/
  | cleared (periods : List Period)
  /-- Written, skipped or failed; the blocks that were written. -/
  | done (blocks : List Block)
  deriving DecidableEq

namespace Stage

def blocks? : Stage → Option (List Block)
  | done bs => some bs
  | _ => none

end Stage

/-- A feed of the batch at work. -/
structure Slot where
  feed : Feed
  stage : Stage
  deriving DecidableEq

structure Pass where
  guarded : Bool
  /-- How many feeds make a batch, at least one. -/
  size : Nat
  /-- What was written for the feeds of earlier batches. -/
  results : List (List Block)
  batch : List Slot
  /-- The feeds of later batches. -/
  rest : List Feed
  deriving DecidableEq

namespace Pass

def load (guarded : Bool) (size : Nat) (results : List (List Block)) (feeds : List Feed) : Pass :=
  { guarded, size, results, batch := (feeds.take size).map (⟨·, .idle⟩), rest := feeds.drop size }

/-- A batch size of zero counts as one. -/
def start (guarded : Bool) (size : Nat) (feeds : List Feed) : Pass :=
  load guarded (max size 1) [] feeds

/-- What was written for the batch, once all its feeds are done. -/
def written? (p : Pass) : Option (List (List Block)) := p.batch.mapM (·.stage.blocks?)

/-- The pass with the next batch, after the results of this one. -/
def next (p : Pass) (written : List (List Block)) : Pass :=
  load p.guarded p.size (p.results ++ written) p.rest

def setStage (p : Pass) (i : Nat) (stage : Stage) : Pass :=
  { p with batch := p.batch.modify i fun s => { s with stage } }

end Pass

end Lodging.Sync
