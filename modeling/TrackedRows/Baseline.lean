import TrackedRows.ChangeSet
import TrackedRows.Transaction

namespace TrackedRows

/-- What all transactions share: the committed changes, and the last stamp issued. -/
structure Baseline where
  changes : ChangeSet
  lastId : Stamp
deriving DecidableEq

/-- The rows a commit wrote, and those of them that it cancelled. -/
structure CommitReport where
  id : Stamp
  written : Nat
  removed : List Key
deriving DecidableEq

namespace Baseline

def empty : Baseline := ⟨.empty, 0⟩

def begin (b : Baseline) : Transaction × Baseline :=
  (⟨b.lastId + 1, .active, b.changes⟩, { b with lastId := b.lastId + 1 })

def land (b : Baseline) (incoming : ChangeSet) : Except Fault (List Key × Baseline) := do
  let landing ← b.changes.land incoming
  return (landing.removed, { b with changes := landing.baseline })

/-- Rows that the transaction only read are left out, so that they cannot conflict. -/
def commit (b : Baseline) (tx : Transaction) : Except Fault (CommitReport × Baseline) :=
  if !tx.isActive then .error (.closedTransaction tx.id)
  else do
    let incoming := tx.changes.writtenBy tx.id
    let (removed, b) ← b.land incoming
    return (⟨tx.id, incoming.entries.size, removed⟩, b)

/-- Rows that storage holds enter clean. They may not meet a row that a transaction wrote. -/
def seed (b : Baseline) (rows : List Row) : Except Fault (Nat × Baseline) := do
  let seed : Keyed Change.key := .ofList (rows.map (Change.seeded · 0))
  let (_, b) ← b.land ⟨seed, b.changes.dangling⟩
  return (seed.size, b)

/-- Whether storage now has a row that was cancelled while the batch was on its way. -/
def hasOrphan (b : Baseline) (batch : List Change) : Bool :=
  batch.any fun c => c.isLive && !b.changes.entries.contains c.key

/-- The baseline once storage has taken over a batch. A row that must leave storage again gets a stamp
above those of all transactions begun so far. -/
def reconcile (b : Baseline) (batch : List Change) : Nat × Baseline :=
  let id := if b.hasOrphan batch then b.lastId + 1 else b.lastId
  let (changes, marked) := b.changes.reconcile batch id
  (marked, ⟨changes, id⟩)

end Baseline

end TrackedRows
