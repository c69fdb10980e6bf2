import TrackedRows.Row

namespace TrackedRows

/-- A number of the counter that stamps transactions and the rows they write. The counter never issues
the stamp 0, which belongs to rows found in storage. -/
abbrev Stamp : Type := UInt64

def Stamp.render (s : Stamp) : String := String.ofList (Text.natural s.toNat)

/-- Why an operation failed. A row is named by the text of its key. -/
inductive Fault
  | conflict (row : String) (baselineReadId incomingReadId : Stamp)
  | missingRow (row : String)
  | existingRow (row : String)
  | closedTransaction (id : Stamp)
  | poisonedLock (lock : String)
  | storage (reason : String)
deriving DecidableEq

namespace Fault

def message : Fault → String
  | .conflict row baselineReadId incomingReadId =>
    "concurrency conflict on row " ++ row ++ ": baseline read id " ++ baselineReadId.render ++
      " is newer than incoming read id " ++ incomingReadId.render
  | .missingRow row => "modification of non-existing row: " ++ row
  | .existingRow row => "row already exists: " ++ row
  | .closedTransaction id => "transaction " ++ id.render ++ " is no longer open"
  | .poisonedLock lock => "lock poisoned: " ++ lock
  | .storage reason => "persistence adapter failed: " ++ reason

/-- Only a conflict can vanish when the transaction is run once more on a fresh snapshot. -/
def retryable : Fault → Bool
  | .conflict .. => true
  | _ => false

end Fault

/-- What storage has yet to be told about a row. -/
inductive Pending
  | nothing
  | insert
  | update
  | delete
deriving DecidableEq, Inhabited

/-- A row as one writer left it, with the version it was read at, the version that wrote it, whether
storage has a row with its key, and what storage has yet to be told. -/
structure Change where
  row : Row
  readId : Stamp
  writeId : Stamp
  isStored : Bool
  pending : Pending
deriving DecidableEq

/-- Where two changes of a row meet: inside one transaction, or when a transaction lands on the
baseline. -/
inductive Meeting
  | transaction
  | baseline
deriving DecidableEq, Inhabited

namespace Change

def key (c : Change) : Key := c.row.key

def seeded (row : Row) (id : Stamp) : Change := ⟨row, id, id, true, .nothing⟩

def inserted (row : Row) (id : Stamp) : Change := ⟨row, id, id, false, .insert⟩

def rewritten (c : Change) (row : Row) (id : Stamp) (p : Pending) : Change :=
  ⟨row, c.readId, id, c.isStored, p⟩

def updated (c : Change) (row : Row) (id : Stamp) : Change := c.rewritten row id .update

def deleted (c : Change) (row : Row) (id : Stamp) : Change := c.rewritten row id .delete

/-- A row that storage holds and nobody wants any more. -/
def condemned (row : Row) (id : Stamp) : Change := ⟨row, id, id, true, .delete⟩

def settled (c : Change) : Change := { c with isStored := true, pending := .nothing }

def isSettled (c : Change) : Bool := c.isStored && c.pending = .nothing

def isLive (c : Change) : Bool := c.pending ≠ .delete

def live? (c : Change) : Option Row := if c.isLive then some c.row else none

def sameRow (a b : Change) : Bool := a.key = b.key

/-- All but the values of the columns is equal. -/
def sameVersion (a b : Change) : Bool :=
  a.key = b.key ∧ a.readId = b.readId ∧ a.writeId = b.writeId ∧ a.isStored = b.isStored ∧
    a.pending = b.pending

/-- The later change over the earlier one, which it must not be older than in its reading. Nothing is
left of a row that is deleted before storage had it. -/
def absorb (old new : Change) (m : Meeting) : Except Fault (Option Change) :=
  if old.readId > new.readId then .error (.conflict new.key.label old.readId new.readId)
  else if !old.isStored && new.pending = .delete then .ok none
  else .ok (some {
    row := new.row
    readId := match m with
      | .transaction => old.readId
      | .baseline => new.writeId
    writeId := new.writeId
    isStored := old.isStored
    pending := if old.isStored then new.pending else old.pending })

end Change

end TrackedRows
