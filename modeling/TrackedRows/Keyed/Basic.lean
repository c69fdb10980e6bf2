namespace TrackedRows

open Std

/-- Values in strictly ascending order of a key that each of them carries. Two collections with the
same values are therefore the same collection. -/
structure Keyed {α κ : Type} [Ord κ] (key : α → κ) where
  items : List α
  ascending : items.Pairwise fun a b => compare (key a) (key b) = .lt

namespace Keyed

open Std

variable {α β κ : Type} [Ord κ] {key : α → κ} {key' : β → κ}

theorem ext_items {s t : Keyed key} (h : s.items = t.items) : s = t := by
  cases s; cases t; cases h; rfl

instance [DecidableEq α] : DecidableEq (Keyed key) := fun s t =>
  decidable_of_iff (s.items = t.items) ⟨ext_items, congrArg items⟩

def empty : Keyed key := ⟨[], .nil⟩

def size (s : Keyed key) : Nat := s.items.length

def keys (s : Keyed key) : List κ := s.items.map key

def get? [DecidableEq κ] (s : Keyed key) (k : κ) : Option α := s.items.find? (key · = k)

def contains [DecidableEq κ] (s : Keyed key) (k : κ) : Bool := (s.get? k).isSome

def filter (p : α → Bool) (s : Keyed key) : Keyed key := ⟨s.items.filter p, s.ascending.filter p⟩

def erase [DecidableEq κ] (s : Keyed key) (k : κ) : Keyed key := s.filter (key · ≠ k)

/-- A change of the values that leaves every key as it is. -/
def map (f : α → β) (h : ∀ a, key' (f a) = key a) (s : Keyed key) : Keyed key' :=
  ⟨s.items.map f, List.pairwise_map.2 (s.ascending.imp fun hab => by rwa [h, h])⟩

def below (s : Keyed key) (k : κ) : List α := s.items.filter fun b => compare (key b) k = .lt

def above (s : Keyed key) (k : κ) : List α := s.items.filter fun b => compare k (key b) = .lt

variable [TransOrd κ]

/-- The value takes the place of the one with its key, if there is one. -/
def put (s : Keyed key) (a : α) : Keyed key where
  items := s.below (key a) ++ a :: s.above (key a)
  ascending := by
    refine List.pairwise_append.2 ⟨s.ascending.filter _, ?_, ?_⟩
    · exact List.pairwise_cons.2
        ⟨fun b hb => by simpa using (List.mem_filter.1 hb).2, s.ascending.filter _⟩
    · intro b hb c hc
      have hba : compare (key b) (key a) = .lt := by simpa using (List.mem_filter.1 hb).2
      rcases List.mem_cons.1 hc with rfl | hc
      · exact hba
      · exact TransCmp.lt_trans hba (by simpa using (List.mem_filter.1 hc).2)

def putAll (s : Keyed key) (l : List α) : Keyed key := l.foldl put s

/-- Of several values with one key the last is kept. -/
def ofList (l : List α) : Keyed key := empty.putAll l

end Keyed

end TrackedRows
