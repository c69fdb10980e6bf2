import TrackedRows.Form.Basic
import TrackedRows.Session.Command

namespace TrackedRows

def Pending.name : Pending → String
  | .nothing => "none"
  | .insert => "insert"
  | .update => "update"
  | .delete => "delete"

def Pending.ofName? (s : String) : Option Pending :=
  [nothing, insert, update, delete].find? (·.name = s)

theorem Pending.ofName?_eq_some_iff {s : String} {p : Pending} : ofName? s = some p ↔ p.name = s := by
  constructor
  · exact fun h => by simpa using List.find?_some h
  · rintro rfl
    cases p <;> rfl

namespace Form

instance : Form Key where
  encode
    | .number n => .integer n.toInt
    | .text s => .text s
  decode
    | .integer n =>
      if Int64.minValue.toInt ≤ n ∧ n ≤ Int64.maxValue.toInt then some (.number (.ofInt n)) else none
    | .text s => some (.text s)
    | _ => none

/-- Of several columns with one name the last is meant. -/
instance : Form Columns where
  encode columns := .object (columns.items.map fun m => (m.1, encode m.2))
  decode
    | .object members => (members.mapM fun m => (decode m.2).map (m.1, ·)).map Keyed.ofList
    | _ => none

instance : Form Row where
  encode row := .object [("key", encode row.key), ("columns", encode row.columns)]
  decode j := do
    let [some key, some columns] ← j.fields? ["key", "columns"] | none
    return ⟨← decode key, ← decode columns⟩

instance : Form Pending where
  encode p := .text p.name
  decode j := j.word?.bind Pending.ofName?

instance : Form Change where
  encode c := .object [("record", encode c.row), ("readId", encode c.readId),
    ("writeId", encode c.writeId), ("isWritten", encode c.isStored), ("rowAction", encode c.pending)]
  decode j := do
    let [some row, some readId, some writeId, some isStored, some pending] ←
      j.fields? ["record", "readId", "writeId", "isWritten", "rowAction"] | none
    return ⟨← decode row, ← decode readId, ← decode writeId, ← decode isStored, ← decode pending⟩

end Form

def Stage.name : Stage → String
  | .active => "open"
  | .committing => "committing"
  | .closed => "closed"

def Stage.ofName? (s : String) : Option Stage := [active, committing, closed].find? (·.name = s)

theorem Stage.ofName?_eq_some_iff {s : String} {t : Stage} : ofName? s = some t ↔ t.name = s := by
  constructor
  · exact fun h => by simpa using List.find?_some h
  · rintro rfl
    cases t <;> rfl

namespace Form

instance : Form Stage where
  encode s := .text s.name
  decode j := j.word?.bind Stage.ofName?

/-- A setting that is not given has its default. -/
def orDefault {α : Type} [Form α] (default : α) : Option Json → Option α
  | none => some default
  | some j => decode j

instance : Form Settings where
  encode s := .object [("name", encode s.name), ("autoFlush", encode s.autoFlush)]
  decode j := do
    let [name, autoFlush] ← j.fields? ["name", "autoFlush"] | none
    return ⟨← orDefault Settings.default.name name,
      ← orDefault Settings.default.autoFlush autoFlush⟩

instance : Form FlushReport where
  encode s := .object [("persisted", encode s.persisted), ("marked", encode s.marked)]
  decode j := do
    let [some persisted, some marked] ← j.fields? ["persisted", "marked"] | none
    return ⟨← decode persisted, ← decode marked⟩

instance : Form CommitReport where
  encode s := .object [("txId", encode s.id), ("written", encode s.written),
    ("removed", encode s.removed)]
  decode j := do
    let [some id, some written, some removed] ← j.fields? ["txId", "written", "removed"] | none
    return ⟨← decode id, ← decode written, ← decode removed⟩

end Form

end TrackedRows
