import TrackedRows.Session.Basic

namespace TrackedRows

/-- How many changes went to storage, and how many entries were then still as they went. -/
structure FlushReport where
  persisted : Nat
  marked : Nat
deriving DecidableEq

/-- A call that may hand a batch to storage: its outcome, the batches, and what happened while they
were on their way. -/
structure Storing (α : Type) where
  outcome : Except Fault α
  batches : List (List Change)
  during : List Event

/-- Nothing happens on the way, and storage gets the batch. -/
def Flight.direct : Flight Action := ⟨[], [], true, none⟩

namespace Session

/-- The armed flight takes place once. A batch that the store refuses ends it there and then. -/
def persist (s : Session) (batch : List Change) : Except String Unit × List Event × Session :=
  let flight := s.armed.getD .direct
  let (before, s) := { s with armed := none }.run flight.before
  let (delivered, store) := if flight.delivers then s.store.persist batch else (.ok (), s.store)
  let s := { s with store }
  match delivered with
  | .error reason => (.error reason, before, s)
  | .ok () =>
    let (after, s) := s.run flight.after
    match flight.refusal with
    | some reason => (.error reason, before ++ after, s)
    | none => (.ok (), before ++ after, s)

/-- Everything pending goes to storage as one batch. If storage fails, all of it stays pending. -/
def flush (s : Session) : Storing FlushReport × Session :=
  match s.baseline.changes.unsettled with
  | [] => (⟨.ok ⟨0, 0⟩, [], []⟩, s)
  | batch =>
    match s.persist batch with
    | (.error reason, during, s) => (⟨.error (.storage reason), [batch], during⟩, s)
    | (.ok (), during, s) =>
      let (marked, baseline) := s.baseline.reconcile batch
      (⟨.ok ⟨batch.length, marked⟩, [batch], during⟩, { s with baseline })

/-- A failure of the flush is reported although the commit has taken place. -/
def commitAndFlush (s : Session) (name : String) (tx : Transaction) :
    Storing CommitReport × Session :=
  match s.commit name tx with
  | (.error fault, s) => (⟨.error fault, [], []⟩, s)
  | (.ok report, s) =>
    if s.settings.autoFlush then
      let (flushed, s) := s.flush
      ({ flushed with outcome := flushed.outcome.map fun _ => report }, s)
    else (⟨.ok report, [], []⟩, s)

end Session

/-- What can be asked of a session while no batch is on its way. -/
inductive Command
  | act (a : Action)
  | flush
  | commitAndFlush (tx : String)

inductive Outcome
  | acted (reply : Reply)
  | flushed (result : Storing FlushReport)
  | committed (result : Storing CommitReport)

namespace Session

def execute (s : Session) : Command → Outcome × Session
  | .act a => (s.act a).map .acted id
  | .flush => s.flush.map .flushed id
  | .commitAndFlush name =>
    match s.transaction? name with
    | some tx => (s.commitAndFlush name tx).map .committed id
    | none => (.acted .unknownTransaction, s)

end Session

end TrackedRows
