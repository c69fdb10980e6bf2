import TrackedRows.Json.Basic
import TrackedRows.Keyed.Lemmas

namespace TrackedRows.Json

mutual

/-- Nothing in the document is unreadable, and the names of every object ascend. -/
def isCanonical : Json → Bool
  | .list items => areCanonical items
  | .object members =>
    members.Pairwise (fun a b => compare a.1 b.1 = .lt) && membersAreCanonical members
  | .unreadable => false
  | _ => true

def areCanonical : List Json → Bool
  | [] => true
  | j :: rest => isCanonical j && areCanonical rest

def membersAreCanonical : List (String × Json) → Bool
  | [] => true
  | (_, j) :: rest => isCanonical j && membersAreCanonical rest

end

mutual

/-- The canonical document with the same meaning: the order of members counts for nothing, and of
several members with one name the last is meant. -/
def canonical? : Json → Option Json
  | .list items => (canonicalItems? items).map .list
  | .object members =>
    (canonicalMembers? members).map fun ms =>
      .object (Keyed.ofList ms : Keyed (Prod.fst : String × Json → String)).items
  | .unreadable => none
  | j => some j

def canonicalItems? : List Json → Option (List Json)
  | [] => some []
  | j :: rest => do return (← canonical? j) :: (← canonicalItems? rest)

def canonicalMembers? : List (String × Json) → Option (List (String × Json))
  | [] => some []
  | (name, j) :: rest => do return (name, ← canonical? j) :: (← canonicalMembers? rest)

end

theorem membersAreCanonical_iff {ms : List (String × Json)} :
    membersAreCanonical ms = true ↔ ∀ m ∈ ms, m.2.isCanonical = true := by
  induction ms with
  | nil => simp [membersAreCanonical]
  | cons m ms ih => simp [membersAreCanonical, ih]

mutual

theorem isCanonical_of_canonical? : ∀ {j v : Json}, canonical? j = some v → v.isCanonical = true
  | .null, _, h | .boolean _, _, h | .integer _, _, h | .double _, _, h | .text _, _, h => by
      simp only [canonical?, Option.some.injEq] at h
      subst h
      rfl
  | .unreadable, _, h => by simp [canonical?] at h
  | .list items, _, h => by
      simp only [canonical?, Option.map_eq_some_iff] at h
      obtain ⟨l, hl, rfl⟩ := h
      exact areCanonical_of_canonicalItems? hl
  | .object members, _, h => by
      simp only [canonical?, Option.map_eq_some_iff] at h
      obtain ⟨ms, hms, rfl⟩ := h
      simp only [isCanonical, Bool.and_eq_true, decide_eq_true_eq, membersAreCanonical_iff]
      refine ⟨Keyed.ascending _, fun m hm => ?_⟩
      exact membersAreCanonical_iff.1 (membersAreCanonical_of_canonicalMembers? hms) m
        ((Keyed.mem_of_mem_putAll hm).resolve_left (by simp [Keyed.empty]))

theorem areCanonical_of_canonicalItems? :
    ∀ {l vs : List Json}, canonicalItems? l = some vs → areCanonical vs = true
  | [], _, h => by
      simp only [canonicalItems?, Option.some.injEq] at h
      subst h
      rfl
  | j :: rest, _, h => by
      simp only [canonicalItems?, Option.bind_eq_bind, Option.bind_eq_some_iff, Option.pure_def,
        Option.some.injEq] at h
      obtain ⟨v, hv, vs, hvs, rfl⟩ := h
      simp [areCanonical, isCanonical_of_canonical? hv, areCanonical_of_canonicalItems? hvs]

theorem membersAreCanonical_of_canonicalMembers? :
    ∀ {l ms : List (String × Json)}, canonicalMembers? l = some ms → membersAreCanonical ms = true
  | [], _, h => by
      simp only [canonicalMembers?, Option.some.injEq] at h
      subst h
      rfl
  | (name, j) :: rest, _, h => by
      simp only [canonicalMembers?, Option.bind_eq_bind, Option.bind_eq_some_iff, Option.pure_def,
        Option.some.injEq] at h
      obtain ⟨v, hv, ms, hms, rfl⟩ := h
      simp [membersAreCanonical, isCanonical_of_canonical? hv,
        membersAreCanonical_of_canonicalMembers? hms]

end

mutual

theorem canonical?_of_isCanonical : ∀ {j : Json}, j.isCanonical = true → canonical? j = some j
  | .null, _ | .boolean _, _ | .integer _, _ | .double _, _ | .text _, _ => rfl
  | .unreadable, h => by simp [isCanonical] at h
  | .list items, h => by
      rw [isCanonical] at h
      rw [canonical?, canonicalItems?_of_areCanonical h]
      rfl
  | .object members, h => by
      simp only [isCanonical, Bool.and_eq_true, decide_eq_true_eq] at h
      have hkeep := Keyed.ofList_items (⟨members, h.1⟩ : Keyed (Prod.fst : String × Json → String))
      rw [canonical?, canonicalMembers?_of_areCanonical h.2, Option.map_some]
      exact congrArg (fun s => some (object s.items)) hkeep

theorem canonicalItems?_of_areCanonical :
    ∀ {l : List Json}, areCanonical l = true → canonicalItems? l = some l
  | [], _ => rfl
  | j :: rest, h => by
      simp only [areCanonical, Bool.and_eq_true] at h
      simp [canonicalItems?, canonical?_of_isCanonical h.1, canonicalItems?_of_areCanonical h.2]

theorem canonicalMembers?_of_areCanonical :
    ∀ {ms : List (String × Json)}, membersAreCanonical ms = true → canonicalMembers? ms = some ms
  | [], _ => rfl
  | (name, j) :: rest, h => by
      simp only [membersAreCanonical, Bool.and_eq_true] at h
      simp [canonicalMembers?, canonical?_of_isCanonical h.1, canonicalMembers?_of_areCanonical h.2]

end

/-- What a column holds. -/
abbrev Value : Type := { j : Json // j.isCanonical = true }

def value? (j : Json) : Option Value :=
  match h : canonical? j with
  | some v => some ⟨v, isCanonical_of_canonical? h⟩
  | none => none

@[simp] theorem value?_val (v : Value) : value? v.1 = some v := by
  have hv := canonical?_of_isCanonical v.2
  rw [value?]
  split
  · next w hw => exact congrArg some (Subtype.ext (Option.some.inj (hw.symm.trans hv)))
  · next hnone => cases hnone.symm.trans hv

end TrackedRows.Json
