import TrackedRows.ChangeSet

namespace TrackedRows

/-- A transaction moves through these in their order. -/
inductive Stage
  | active
  | committing
  | closed
deriving DecidableEq, Inhabited

/-- A unit of work: a copy of the baseline as it was at the start, with the writes made since. -/
structure Transaction where
  id : Stamp
  stage : Stage
  changes : ChangeSet
deriving DecidableEq

inductive Edit
  | insert (row : Row)
  | update (row : Row)
  | delete (row : Row)
  | erase (key : Key)
deriving DecidableEq

def Edit.key : Edit → Key
  | .insert row | .update row | .delete row => row.key
  | .erase key => key

namespace Transaction

def isActive (tx : Transaction) : Bool := tx.stage = .active

def row? (tx : Transaction) (k : Key) : Option Row := tx.changes.live? k

def add (tx : Transaction) (changes : ChangeSet) (c : Change) : Except Fault Transaction :=
  (changes.write c).map fun changes => { tx with changes }

/-- A row that this transaction deleted comes back as an update of it. One that another deleted is
gone, and starts anew. -/
def insert (tx : Transaction) (row : Row) : Except Fault Transaction :=
  match tx.changes.get? row.key with
  | none => tx.add (tx.changes.readmit row.key) (.inserted row tx.id)
  | some c =>
    if c.isLive then .error (.existingRow row.key.label)
    else tx.add (tx.changes.drop row.key)
      (if c.writeId = tx.id then c.updated row tx.id else .inserted row tx.id)

def entry (tx : Transaction) (k : Key) : Except Fault Change :=
  match (tx.changes.get? k).filter Change.isLive with
  | some c => .ok c
  | none => .error (.missingRow k.label)

def edit (tx : Transaction) (e : Edit) : Except Fault Transaction :=
  if !tx.isActive then .error (.closedTransaction tx.id)
  else match e with
    | .insert row => tx.insert row
    | .update row => do tx.add tx.changes ((← tx.entry row.key).updated row tx.id)
    | .delete row => do tx.add tx.changes ((← tx.entry row.key).deleted row tx.id)
    | .erase key => do
      let c ← tx.entry key
      tx.add tx.changes (c.deleted c.row tx.id)

def closed (tx : Transaction) : Transaction := ⟨tx.id, .closed, .empty⟩

def describe (tx : Transaction) : String :=
  let stage := match tx.stage with
    | .active => "Open"
    | .committing => "Committing"
    | .closed => "Closed"
  "Transaction \x7b id: " ++ tx.id.render ++ ", state: " ++ stage ++ ", rows: " ++
    String.ofList (Text.natural tx.changes.entries.size) ++ " \x7d"

end Transaction

end TrackedRows
