import TrackedRows.Json.Token

namespace TrackedRows.Json

/-- A list or an object that is still open, with what is complete of it, the last part first. -/
inductive Frame
  | list (before : List Json)
  | object (before : List (Option String × Json)) (name : Option String)

/-- What may come next. Just after its start a list or an object may also end. -/
inductive Due
  | item (closable : Bool)
  | name (before : List (Option String × Json)) (closable : Bool)
  | colon (before : List (Option String × Json)) (name : Option String)
  | done (j : Json)

structure Reading where
  due : Due
  around : List Frame

/-- An object with a name that has no value has none either. -/
def ofMembers (ms : List (Option String × Json)) : Json :=
  match ms.mapM fun (name, j) => name.map (·, j) with
  | some ms => .object ms
  | none => .unreadable

def ofQuoted : Option String → Json
  | some s => .text s
  | none => .unreadable

def Reading.next : Reading → Token → Option Reading
  | ⟨.item _, around⟩, .literal j => some ⟨.done j, around⟩
  | ⟨.item _, around⟩, .quoted s => some ⟨.done (ofQuoted s), around⟩
  | ⟨.item _, around⟩, .listStart => some ⟨.item true, .list [] :: around⟩
  | ⟨.item _, around⟩, .objectStart => some ⟨.name [] true, around⟩
  | ⟨.item true, .list _ :: around⟩, .listEnd => some ⟨.done (.list []), around⟩
  | ⟨.name before _, around⟩, .quoted name => some ⟨.colon before name, around⟩
  | ⟨.name _ true, around⟩, .objectEnd => some ⟨.done (.object []), around⟩
  | ⟨.colon before name, around⟩, .colon => some ⟨.item false, .object before name :: around⟩
  | ⟨.done j, .list before :: around⟩, .comma => some ⟨.item false, .list (j :: before) :: around⟩
  | ⟨.done j, .list before :: around⟩, .listEnd => some ⟨.done (.list (j :: before).reverse), around⟩
  | ⟨.done j, .object before name :: around⟩, .comma =>
    some ⟨.name ((name, j) :: before) false, around⟩
  | ⟨.done j, .object before name :: around⟩, .objectEnd =>
    some ⟨.done (ofMembers ((name, j) :: before).reverse), around⟩
  | _, _ => none

def ofTokens? (ts : List Token) : Option Json :=
  match ts.foldlM Reading.next ⟨.item false, []⟩ with
  | some ⟨.done j, []⟩ => some j
  | _ => none

/-- One value, with blanks around it. -/
def read? (s : String) : Option Json := (Token.ofText? s.toList).bind ofTokens?

end TrackedRows.Json
