import TrackedRows.Json.Basic

namespace TrackedRows.Json

/-- The parts of a text. A quoted part has no value if there is half a surrogate pair in it. -/
inductive Token
  | listStart
  | listEnd
  | objectStart
  | objectEnd
  | comma
  | colon
  | quoted (s : Option String)
  | literal (j : Json)

namespace Token

/-- A number from the digits on either side of its point. -/
def double (negative : Bool) (whole part : List Char) (exponent : Int) : Json :=
  match (Magnitude.ofDigits whole part exponent).size? with
  | some n => .double ⟨negative, n⟩
  | none => .unreadable

/-- A number of digits alone, with or without a sign. Zero with a sign is no integer, and neither is what
fits into no word of 64 bits. -/
def integer (negative : Bool) (ds : List Char) : Json :=
  let n : Int := Text.ofDigits ds
  let signed := if negative then -n else n
  if (negative && n = 0) || signed < Int64.minValue.toInt || UInt64.size ≤ signed then
    double negative ds [] 0
  else .integer signed

/-- The power of ten that ends a number. -/
def exponent? : List Char → Option Int
  | [] => some 0
  | e :: rest =>
    if e ≠ 'e' ∧ e ≠ 'E' then none
    else
      let (sign, ds) : Int × List Char := match rest with
        | '-' :: ds => (-1, ds)
        | '+' :: ds => (1, ds)
        | ds => (1, ds)
      if ds ≠ [] ∧ ds.all Char.isDigit then some (sign * Text.ofDigits ds) else none

def unsigned? (negative : Bool) (w : List Char) : Option Json :=
  match Text.spanDigits w with
  | ([], _) => none
  | ('0' :: _ :: _, _) => none
  | (whole, []) => some (integer negative whole)
  | (whole, '.' :: rest) =>
    match Text.spanDigits rest with
    | ([], _) => none
    | (part, rest) => (exponent? rest).map (double negative whole part)
  | (whole, rest) => (exponent? rest).map (double negative whole [])

def number? : List Char → Option Json
  | '-' :: w => unsigned? true w
  | w => unsigned? false w

def word? (w : List Char) : Option Json :=
  if w = ['n', 'u', 'l', 'l'] then some .null
  else if w = ['t', 'r', 'u', 'e'] then some (.boolean true)
  else if w = ['f', 'a', 'l', 's', 'e'] then some (.boolean false)
  else number? w

/-- The characters of a quoted text: the halves of a surrogate pair that stand side by side are one
character, and a half that stands alone is none. -/
def joinHalves : List Nat → Option (List Char)
  | [] => some []
  | u :: rest =>
    if 0xD800 ≤ u ∧ u < 0xDC00 then
      match rest with
      | [] => none
      | v :: rest =>
        if 0xDC00 ≤ v ∧ v < 0xE000 then
          (joinHalves rest).map (Char.ofNat (0x10000 + (u - 0xD800) * 0x400 + (v - 0xDC00)) :: ·)
        else none
    else if 0xDC00 ≤ u ∧ u < 0xE000 then none
    else (joinHalves rest).map (Char.ofNat u :: ·)

def hexValue? (c : Char) : Option Nat :=
  if c.isDigit then some (Text.digit c)
  else if 'a' ≤ c ∧ c ≤ 'f' then some (c.toNat - 'a'.toNat + 10)
  else if 'A' ≤ c ∧ c ≤ 'F' then some (c.toNat - 'A'.toNat + 10)
  else none

/-- Where a text stands between two characters. What has been read of a word or of a quoted text is
kept with the last part first. -/
inductive Scan
  | gap
  | word (w : List Char)
  | inside (units : List Nat)
  | escape (units : List Nat)
  | hex (units : List Nat) (due : Nat) (value : Nat)

def Scan.ofGap (c : Char) (ts : List Token) : Scan × List Token :=
  match c with
  | ' ' | '\t' | '\n' | '\r' => (.gap, ts)
  | '[' => (.gap, .listStart :: ts)
  | ']' => (.gap, .listEnd :: ts)
  | '\x7b' => (.gap, .objectStart :: ts)
  | '\x7d' => (.gap, .objectEnd :: ts)
  | ',' => (.gap, .comma :: ts)
  | ':' => (.gap, .colon :: ts)
  | '"' => (.inside [], ts)
  | c => (.word [c], ts)

def isWordPart (c : Char) : Bool := c.isAlphanum || c = '.' || c = '+' || c = '-'

def endWord (w : List Char) (ts : List Token) : Option (List Token) :=
  (word? w.reverse).map fun j => .literal j :: ts

def escaped? (c : Char) : Option Nat :=
  match c with
  | '"' | '\\' | '/' => some c.toNat
  | 'b' => some 8
  | 'f' => some 12
  | 'n' => some 10
  | 'r' => some 13
  | 't' => some 9
  | _ => none

/-- One character further. The parts found so far come last part first. -/
def Scan.next : Scan × List Token → Char → Option (Scan × List Token)
  | (.gap, ts), c => some (ofGap c ts)
  | (.word w, ts), c =>
    if isWordPart c then some (.word (c :: w), ts) else (endWord w ts).map (ofGap c)
  | (.inside units, ts), c =>
    if c = '"' then some (.gap, .quoted ((joinHalves units.reverse).map String.ofList) :: ts)
    else if c = '\\' then some (.escape units, ts)
    else if c < ' ' then none
    else some (.inside (c.toNat :: units), ts)
  | (.escape units, ts), c =>
    if c = 'u' then some (.hex units 3 0, ts)
    else (escaped? c).map fun u => (.inside (u :: units), ts)
  | (.hex units due value, ts), c => do
    let value := 16 * value + (← hexValue? c)
    match due with
    | 0 => return (.inside (value :: units), ts)
    | due + 1 => return (.hex units due value, ts)

def Scan.finish : Scan × List Token → Option (List Token)
  | (.gap, ts) => some ts.reverse
  | (.word w, ts) => (endWord w ts).map List.reverse
  | _ => none

def ofText? (s : List Char) : Option (List Token) :=
  (s.foldlM Scan.next (.gap, [])).bind Scan.finish

end Token

end TrackedRows.Json
