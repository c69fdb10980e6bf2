import TrackedRows.Json.Number

namespace TrackedRows

/-- A document. An object has its members in the order written, and a name may come twice. A part is
unreadable if it is well formed and still has no value: a number beyond every double, a text with half
a surrogate pair, or an object with such a text for a name. -/
inductive Json where
  | null
  | boolean (b : Bool)
  | integer (n : Int)
  | double (d : Json.Double)
  | text (s : String)
  | list (items : List Json)
  | object (members : List (String × Json))
  | unreadable
deriving Inhabited

namespace Json

mutual

def same : Json → Json → Bool
  | .null, .null => true
  | .boolean a, .boolean b => a = b
  | .integer a, .integer b => a = b
  | .double a, .double b => a = b
  | .text a, .text b => a = b
  | .list a, .list b => sameItems a b
  | .object a, .object b => sameMembers a b
  | .unreadable, .unreadable => true
  | _, _ => false

def sameItems : List Json → List Json → Bool
  | [], [] => true
  | a :: as, b :: bs => same a b && sameItems as bs
  | _, _ => false

def sameMembers : List (String × Json) → List (String × Json) → Bool
  | [], [] => true
  | (m, a) :: as, (n, b) :: bs => m = n && same a b && sameMembers as bs
  | _, _ => false

end

mutual

theorem same_iff : ∀ a b : Json, same a b = true ↔ a = b
  | .null, b | .boolean _, b | .integer _, b | .double _, b | .text _, b | .unreadable, b => by
      cases b <;> simp [same]
  | .list as, b => by cases b <;> simp [same, sameItems_iff as]
  | .object as, b => by cases b <;> simp [same, sameMembers_iff as]

theorem sameItems_iff : ∀ as bs : List Json, sameItems as bs = true ↔ as = bs
  | [], bs => by cases bs <;> simp [sameItems]
  | a :: as, bs => by cases bs <;> simp [sameItems, same_iff a, sameItems_iff as]

theorem sameMembers_iff : ∀ as bs : List (String × Json), sameMembers as bs = true ↔ as = bs
  | [], bs => by cases bs <;> simp [sameMembers]
  | (m, a) :: as, bs => by
      cases bs <;> simp [sameMembers, same_iff a, sameMembers_iff as, Prod.ext_iff]

end

instance : DecidableEq Json := fun a b => decidable_of_iff _ (same_iff a b)

end Json

end TrackedRows
