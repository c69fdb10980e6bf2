import TrackedRows.Change

namespace TrackedRows

abbrev KeySet : Type := Keyed (id : Key → Key)

/-- The latest change of every row that is looked after, and the dangling keys: those of rows whose
insert was pending when a commit cancelled it. -/
structure ChangeSet where
  entries : Keyed Change.key
  dangling : KeySet
deriving DecidableEq

namespace ChangeSet

def empty : ChangeSet := ⟨.empty, .empty⟩

def get? (s : ChangeSet) (k : Key) : Option Change := s.entries.get? k

def live? (s : ChangeSet) (k : Key) : Option Row := (s.get? k).bind Change.live?

def unsettled (s : ChangeSet) : List Change := s.entries.items.filter fun c => !c.isSettled

def isSettled (s : ChangeSet) : Bool := s.entries.items.all Change.isSettled

def excludes (s : ChangeSet) (k : Key) : Bool := s.dangling.contains k

def exclude (s : ChangeSet) (k : Key) : ChangeSet := { s with dangling := s.dangling.put k }

def readmit (s : ChangeSet) (k : Key) : ChangeSet := { s with dangling := s.dangling.erase k }

def put (s : ChangeSet) (c : Change) : ChangeSet := { s with entries := s.entries.put c }

def drop (s : ChangeSet) (k : Key) : ChangeSet := { s with entries := s.entries.erase k }

/-- A change by the writer of the entry is absorbed by it, and any other replaces the entry. -/
def write (s : ChangeSet) (c : Change) : Except Fault ChangeSet :=
  match s.get? c.key with
  | none => .ok (s.put c)
  | some old =>
    if old.writeId ≠ c.writeId then .ok (s.put c)
    else (old.absorb c .transaction).map fun
      | some c => s.put c
      | none => s.drop c.key

def writtenBy (s : ChangeSet) (id : Stamp) : ChangeSet :=
  { s with entries := s.entries.filter (·.writeId = id) }

/-- The set when storage has taken over all of it. -/
def settled (s : ChangeSet) : ChangeSet :=
  ⟨(s.entries.filter Change.isLive).map Change.settled fun _ => rfl, .empty⟩

end ChangeSet

/-- A set of changes after another has landed on it, and the keys of the rows cancelled by that. -/
structure Landing where
  changes : ChangeSet
  removed : List Key
deriving DecidableEq

/-- The keys of cancelled rows dangle from now on. -/
def Landing.baseline (l : Landing) : ChangeSet := l.removed.foldl ChangeSet.exclude l.changes

namespace ChangeSet

/-- What the set will hold for the row of a change that lands on it. A row that it does not hold has to
be a new one, and not one that the writer knew to be cancelled. -/
def landOne (s : ChangeSet) (dangling : KeySet) (c : Change) : Except Fault (Option Change) :=
  match s.get? c.key with
  | some old => old.absorb c .baseline
  | none =>
    if (c.pending = .insert || c.writeId = 0) && !dangling.contains c.key then .ok (some c)
    else .error (.missingRow c.key.label)

def place (s : ChangeSet) (k : Key) : Option Change → ChangeSet
  | some c => s.put c
  | none => s.drop k

/-- All rows land or none does. The dangling keys are those of the set that lands. -/
def land (s incoming : ChangeSet) : Except Fault Landing := do
  let landed ← incoming.entries.items.mapM fun c => return (c.key, ← s.landOne incoming.dangling c)
  return {
    changes := landed.foldl (fun s (k, c) => s.place k c) ⟨s.entries, incoming.dangling⟩
    removed := landed.filterMap fun (k, c) => if c.isNone then some k else none }

end ChangeSet

namespace Change

/-- The entry of a row once storage has taken over a change of it. An entry written meanwhile stays, and
what it has to tell storage starts from what storage holds now. A row cancelled meanwhile has to leave
storage again. -/
def reconciled (taken : Change) (id : Stamp) : Option Change → Option Change
  | none => if taken.isLive then some (condemned taken.row id) else none
  | some c =>
    if c.sameVersion taken then if c.isLive then some c.settled else none
    else if taken.isLive then
      some { c with
        isStored := true
        pending := if c.pending = .insert then .update else c.pending }
    else if c.isLive then some { c with isStored := false, pending := .insert }
    else none

end Change

namespace ChangeSet

def reconcileOne (s : ChangeSet) (id : Stamp) (taken : Change) : ChangeSet :=
  let s' := if !s.entries.contains taken.key && taken.isLive then s.readmit taken.key else s
  match taken.reconciled id (s.get? taken.key) with
  | some c => s'.put c
  | none => s'.drop taken.key

/-- The entry of the row is still the given change. -/
def isUntouched (s : ChangeSet) (taken : Change) : Bool :=
  (s.get? taken.key).any (·.sameVersion taken)

/-- The set after storage has taken over a batch, and how many entries were still as in the batch.
Nothing dangles in a set without pending changes. -/
def reconcile (s : ChangeSet) (batch : List Change) (id : Stamp) : ChangeSet × Nat :=
  let step := fun (s, marked) taken => (s.reconcileOne id taken, marked + (s.isUntouched taken).toNat)
  let (s, marked) := batch.foldl step (s, 0)
  (if s.isSettled then { s with dangling := .empty } else s, marked)

end ChangeSet

end TrackedRows
