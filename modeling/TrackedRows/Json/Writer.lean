import TrackedRows.Json.Basic

namespace TrackedRows.Json

def hexDigits (n width : Nat) : List Char :=
  let ds := Nat.toDigits 16 n
  List.replicate (width - ds.length) '0' ++ ds

/-- Characters that end a line for some reader are escaped, so that a written value is one line. -/
def escape (c : Char) : List Char :=
  if c = '"' ∨ c = '\\' then ['\\', c]
  else if c < ' ' ∨ c = '\u0085' ∨ c = '\u2028' ∨ c = '\u2029' then
    ['\\', 'u'] ++ hexDigits c.toNat 4
  else [c]

def writeText (s : String) : String := String.ofList (['"'] ++ s.toList.flatMap escape ++ ['"'])

mutual

def write : Json → String
  | .null => "null"
  | .boolean b => if b then "true" else "false"
  | .integer n => String.ofList (Text.integer n)
  | .double d => String.ofList d.render
  | .text s => writeText s
  | .list items => "[" ++ ",".intercalate (writeItems items) ++ "]"
  | .object members => "\x7b" ++ ",".intercalate (writeMembers members) ++ "\x7d"
  | .unreadable => "1e999"

def writeItems : List Json → List String
  | [] => []
  | j :: rest => write j :: writeItems rest

def writeMembers : List (String × Json) → List String
  | [] => []
  | (name, j) :: rest => (writeText name ++ ":" ++ write j) :: writeMembers rest

end

end TrackedRows.Json
