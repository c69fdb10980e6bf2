import TrackedRows.Json.Canonical

namespace TrackedRows

/-- A type whose values have a JSON form. Reading accepts more than the form that is written. -/
class Form (α : Type) where
  encode : α → Json
  decode : Json → Option α

export Form (encode decode)

namespace Json

def valuesOf (name : String) (ms : List (String × Json)) : List Json :=
  ms.filterMap fun (n, j) => if n = name then some j else none

def atMostOne : List Json → Option (Option Json)
  | [] => some none
  | [j] => some (some j)
  | _ => none

/-- What a record holds in the fields of the given names. As an object it may have its members in any
order and others among them, but no field twice. As a list it has the fields in the order of the names,
perhaps not all of them. -/
def fields? (names : List String) : Json → Option (List (Option Json))
  | .object members => names.mapM fun name => atMostOne (valuesOf name members)
  | .list items =>
    if items.length ≤ names.length then
      some (items.map some ++ List.replicate (names.length - items.length) none)
    else none
  | _ => none

/-- A word may also be written as the name of the only member of an object, whose value is then null. -/
def word? : Json → Option String
  | .text s => some s
  | .object [(s, .null)] => some s
  | _ => none

section Lookup

variable {name : String} {j : Json} {ms ns : List (String × Json)}

@[simp] theorem mem_valuesOf : j ∈ valuesOf name ms ↔ (name, j) ∈ ms := by
  simp [valuesOf]

theorem valuesOf_cons {m : String × Json} : valuesOf name (m :: ms) =
    (if m.1 = name then [m.2] else []) ++ valuesOf name ms := by
  by_cases h : m.1 = name <;> simp [valuesOf, h]

theorem length_valuesOf : (valuesOf name ms).length = (ms.map Prod.fst).count name := by
  induction ms with
  | nil => rfl
  | cons m ms ih => by_cases h : m.1 = name <;> simp_all [valuesOf]

@[simp] theorem atMostOne_eq_some_iff {l : List Json} {o : Option Json} :
    atMostOne l = some o ↔ l = o.toList := by
  match l with
  | [] => cases o <;> simp [atMostOne]
  | [j] => cases o <;> simp [atMostOne]
  | _ :: _ :: _ => cases o <;> simp [atMostOne]

theorem valuesOf_append : valuesOf name (ms ++ ns) = valuesOf name ms ++ valuesOf name ns :=
  List.filterMap_append

theorem valuesOf_eq_of_perm {o : Option Json} (h : ms.Perm ns) (hns : valuesOf name ns = o.toList) :
    valuesOf name ms = o.toList := by
  have hperm : (valuesOf name ms).Perm o.toList := hns ▸ h.filterMap _
  cases o with
  | none => exact hperm.eq_nil
  | some j => exact hperm.eq_singleton

theorem valuesOf_eq_nil (h : ∀ m ∈ ms, m.1 ≠ name) : valuesOf name ms = [] := by
  refine List.filterMap_eq_nil_iff.2 fun m hm => ?_
  simp [h m hm]

end Lookup

end Json

namespace Form

instance : Form Bool where
  encode := .boolean
  decode
    | .boolean b => some b
    | _ => none

instance : Form String where
  encode := .text
  decode
    | .text s => some s
    | _ => none

/-- A number with a point or an exponent is none of these, whatever its value. -/
instance : Form Nat where
  encode n := .integer n
  decode
    | .integer n => if 0 ≤ n ∧ n < UInt64.size then some n.toNat else none
    | _ => none

instance : Form UInt64 where
  encode n := encode n.toNat
  decode j := (decode j : Option Nat).map UInt64.ofNat

instance : Form Json.Value where
  encode := Subtype.val
  decode := Json.value?

instance {α : Type} [Form α] : Form (List α) where
  encode l := .list (l.map encode)
  decode
    | .list items => items.mapM decode
    | _ => none

end Form

end TrackedRows
