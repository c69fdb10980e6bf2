import TrackedRows.Baseline

namespace TrackedRows

structure Settings where
  name : String
  autoFlush : Bool
deriving DecidableEq

namespace Settings

def default : Settings := ⟨"default", false⟩

/-- Blanks around the word and the case of its letters count for nothing. -/
def flag? (s : String) : Option Bool :=
  let word := String.ofList ((Text.trim s.toList).map Char.toLower)
  if word ∈ ["true", "1", "yes", "on"] then some true
  else if word ∈ ["false", "0", "no", "off"] then some false
  else none

/-- The settings that an environment asks for, or a flag that is none. -/
def ofEnvironment (lookup : String → Option String) : Except String Settings :=
  let name := (lookup "ROWTRACK_CONTEXT_NAME").getD default.name
  match lookup "ROWTRACK_AUTO_FLUSH" with
  | none => .ok { default with name }
  | some word =>
    match flag? word with
    | some autoFlush => .ok ⟨name, autoFlush⟩
    | none => .error word

def refusal (word : String) : String := "Invalid ROWTRACK_AUTO_FLUSH value: " ++ word

def describe (s : Settings) : String :=
  "Config \x7b name: " ++ Text.quoted s.name ++ ", auto_flush: " ++
    (if s.autoFlush then "true" else "false") ++ " \x7d"

end Settings

/-- Storage that keeps its rows in memory. It counts the batches it took, and can be told to refuse
the next one. -/
structure Store where
  rows : Keyed Row.key
  batches : Nat
  refusesNext : Bool
deriving DecidableEq

namespace Store

def ofRows (rows : List Row) : Store := ⟨.ofList rows, 0, false⟩

def write (rows : Keyed Row.key) (c : Change) : Keyed Row.key :=
  match c.pending with
  | .insert | .update => rows.put c.row
  | .delete => rows.erase c.key
  | .nothing => rows

/-- A batch is taken as a whole or refused as a whole. -/
def persist (s : Store) (batch : List Change) : Except String Unit × Store :=
  if s.refusesNext then (.error "injected batch failure", { s with refusesNext := false })
  else (.ok (), { s with rows := batch.foldl write s.rows, batches := s.batches + 1 })

end Store

/-- A look at one part of a session. -/
inductive Query
  | row (tx : String) (key : Key)
  | changes (tx : String)
  | transaction (tx : String)
  | state
  | pending
  | storedRow (key : Key)
  | settings
deriving DecidableEq

/-- What happens while a batch is on its way to storage: actions before it gets there, whether it does
get there, actions after that, and whether the call is reported as failed in the end. -/
structure Flight (Action : Type) where
  before : List Action
  after : List Action
  delivers : Bool
  refusal : Option String

/-- What can be done to a session, also while a batch is on its way. Transactions go by names. -/
inductive Action
  | begin (tx : String)
  | edit (tx : String) (e : Edit)
  | commit (tx : String)
  | rollback (tx : String)
  | drop (tx : String)
  | seed (rows : List Row)
  | refuseNext
  | arm (flight : Flight Action)
  | look (query : Query)

/-- A baseline over a store, with the transactions under way. An armed flight waits for the next
batch. -/
structure Session where
  settings : Settings
  baseline : Baseline
  store : Store
  transactions : Keyed (Prod.fst : String × Transaction → String)
  armed : Option (Flight Action)

inductive Reply
  | done
  | edited (outcome : Except Fault Unit)
  | committed (outcome : Except Fault CommitReport)
  | seeded (outcome : Except Fault Nat)
  | unknownTransaction

/-- An action, what came of it, and the session right after it. -/
structure Event where
  action : Action
  reply : Reply
  after : Session

namespace Session

/-- A session on a store, which knows of no row yet. -/
def new (settings : Settings) (store : Store) : Session := ⟨settings, .empty, store, .empty, none⟩

def transaction? (s : Session) (name : String) : Option Transaction :=
  (s.transactions.get? name).map Prod.snd

def setTransaction (s : Session) (name : String) (tx : Transaction) : Session :=
  { s with transactions := s.transactions.put (name, tx) }

def begin (s : Session) (name : String) : Session :=
  let (tx, baseline) := s.baseline.begin
  { s with baseline }.setTransaction name tx

def edit (s : Session) (name : String) (tx : Transaction) (e : Edit) : Except Fault Unit × Session :=
  match tx.edit e with
  | .ok tx => (.ok (), s.setTransaction name tx)
  | .error fault => (.error fault, s)

/-- Whatever the outcome, the transaction is closed. -/
def commit (s : Session) (name : String) (tx : Transaction) : Except Fault CommitReport × Session :=
  let closed := s.setTransaction name tx.closed
  match s.baseline.commit tx with
  | .ok (report, baseline) => (.ok report, { closed with baseline })
  | .error fault => (.error fault, closed)

def seed (s : Session) (rows : List Row) : Except Fault Nat × Session :=
  match s.baseline.seed rows with
  | .ok (count, baseline) => (.ok count, { s with baseline })
  | .error fault => (.error fault, s)

/-- A session that starts with the rows storage was found to hold. -/
def open? (settings : Settings) (store : Store) (found : Except String (List Row)) :
    Except Fault Session :=
  match found with
  | .error reason => .error (.storage reason)
  | .ok rows =>
    match (new settings store).seed rows with
    | (.ok _, s) => .ok s
    | (.error fault, _) => .error fault

def describe (s : Session) : String :=
  "DataContext \x7b config: " ++ s.settings.describe ++ ", last_tx_id: " ++
    s.baseline.lastId.render ++ " \x7d"

def act (s : Session) : Action → Reply × Session
  | .begin name => (.done, s.begin name)
  | .edit name e =>
    match s.transaction? name with
    | some tx => (s.edit name tx e).map .edited id
    | none => (.unknownTransaction, s)
  | .commit name =>
    match s.transaction? name with
    | some tx => (s.commit name tx).map .committed id
    | none => (.unknownTransaction, s)
  | .rollback name =>
    match s.transaction? name with
    | some tx => (.done, s.setTransaction name tx.closed)
    | none => (.unknownTransaction, s)
  | .drop name => (.done, { s with transactions := s.transactions.erase name })
  | .seed rows => (s.seed rows).map .seeded id
  | .refuseNext => (.done, { s with store.refusesNext := true })
  | .arm flight => (.done, { s with armed := some flight })
  | .look _ => (.done, s)

/-- The actions one after the other, with what each of them did. -/
def run (s : Session) : List Action → List Event × Session
  | [] => ([], s)
  | a :: rest =>
    let (reply, next) := s.act a
    let (events, last) := next.run rest
    (⟨a, reply, next⟩ :: events, last)

end Session

end TrackedRows
