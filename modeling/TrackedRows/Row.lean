import TrackedRows.Json.Canonical
import TrackedRows.Text

namespace TrackedRows

/-- The primary key of a row. -/
inductive Key
  | number (n : Int64)
  | text (s : String)
deriving DecidableEq, Inhabited

namespace Key

/-- Numbers come before texts. -/
instance : Ord Key where
  compare
    | .number m, .number n => compare m n
    | .number _, .text _ => .lt
    | .text _, .number _ => .gt
    | .text s, .text t => compare s t

instance : Std.OrientedOrd Key where
  eq_swap {a b} := match a, b with
    | .number _, .number _ => Std.OrientedOrd.eq_swap (α := Int64)
    | .text _, .text _ => Std.OrientedOrd.eq_swap (α := String)
    | .number _, .text _ | .text _, .number _ => rfl

instance : Std.TransOrd Key where
  isLE_trans {a b c} hab hbc := match a, b, c with
    | .number _, .number _, .number _ => Std.TransOrd.isLE_trans (α := Int64) hab hbc
    | .text _, .text _, .text _ => Std.TransOrd.isLE_trans (α := String) hab hbc
    | .number _, _, .text _ => rfl

instance : Std.LawfulEqOrd Key where
  compare_self {a} := match a with
    | .number _ => Std.ReflOrd.compare_self (α := Int64)
    | .text _ => Std.ReflOrd.compare_self (α := String)
  eq_of_compare {a b} h := match a, b with
    | .number _, .number _ => congrArg _ (Std.LawfulEqOrd.eq_of_compare (α := Int64) h)
    | .text _, .text _ => congrArg _ (Std.LawfulEqOrd.eq_of_compare (α := String) h)

def plain : Key → String
  | .number n => String.ofList (Text.integer n.toInt)
  | .text s => s

/-- The text that stands for a row in messages. It tells the number 1 from the text 1. -/
def label : Key → String
  | .number n => "Int(" ++ String.ofList (Text.integer n.toInt) ++ ")"
  | .text s => "Text(" ++ Text.quoted s ++ ")"

end Key

/-- The columns come in the order of their names. -/
abbrev Columns : Type := Keyed (Prod.fst : String × Json.Value → String)

structure Row where
  key : Key
  columns : Columns
deriving DecidableEq

namespace Row

def blank (key : Key) : Row := ⟨key, .empty⟩

def column? (row : Row) (name : String) : Option Json.Value := (row.columns.get? name).map Prod.snd

/-- No column can rewrite the key, which is none of them. -/
def set (row : Row) (name : String) (value : Json.Value) : Row :=
  { row with columns := row.columns.put (name, value) }

end Row

end TrackedRows
