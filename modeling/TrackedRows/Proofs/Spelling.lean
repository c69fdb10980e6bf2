import Mathlib.Data.List.Forall2
import TrackedRows.Form.Basic

namespace TrackedRows

theorem mapM_eq_some_iff {α β : Type} {f : α → Option β} {l : List α} {l' : List β} :
    l.mapM f = some l' ↔ List.Forall₂ (fun a b => f a = some b) l l' := by
  induction l generalizing l' with
  | nil => simp [eq_comm]
  | cons a l ih =>
      simp only [List.mapM_cons, Option.bind_eq_bind, Option.bind_eq_some_iff, Option.pure_def,
        Option.some.injEq, ih, List.forall₂_cons_left_iff]
      constructor
      · rintro ⟨b, hb, bs, hbs, rfl⟩
        exact ⟨b, bs, hb, hbs, rfl⟩
      · rintro ⟨b, bs, hb, hbs, rfl⟩
        exact ⟨b, hb, bs, hbs, rfl⟩

theorem mapM_eq_none {α β : Type} {f : α → Option β} {l : List α} {a : α} (ha : a ∈ l)
    (hnone : f a = none) : l.mapM f = none := by
  induction l with
  | nil => cases ha
  | cons b l ih =>
      rcases List.mem_cons.1 ha with rfl | ha
      · simp [List.mapM_cons, hnone]
      · simp [List.mapM_cons, ih ha]

theorem exists_forall₂_iff {α β : Type*} {P Q : α → β → Prop} {l : List α} :
    (∃ l', List.Forall₂ P l l' ∧ List.Forall₂ Q l l') ↔ ∀ a ∈ l, ∃ b, P a b ∧ Q a b := by
  induction l with
  | nil => simp
  | cons a l ih =>
      simp only [List.forall₂_cons_left_iff, List.forall_mem_cons, ← ih]
      constructor
      · rintro ⟨_, ⟨b, l', hP, hPs, rfl⟩, b', l'', hQ, hQs, heq⟩
        cases heq
        exact ⟨⟨b, hP, hQ⟩, l', hPs, hQs⟩
      · rintro ⟨⟨b, hP, hQ⟩, l', hPs, hQs⟩
        exact ⟨b :: l', ⟨b, l', hP, hPs, rfl⟩, b, l', hQ, hQs, rfl⟩

theorem forall_getElem?_cons_iff {α : Type*} {a : α} {l : List α} {p : Nat → α → Prop} :
    (∀ i b, (a :: l)[i]? = some b → p i b) ↔ p 0 a ∧ ∀ i b, l[i]? = some b → p (i + 1) b := by
  constructor
  · exact fun h => ⟨h 0 a rfl, fun i b hb => h (i + 1) b hb⟩
  · rintro ⟨hhead, htail⟩ i b hb
    cases i with
    | zero => exact Option.some.inj hb ▸ hhead
    | succ i => exact htail i b hb

/-- A list that is filled up to the length of another. -/
theorem forall₂_padded_iff {α β : Type*} {R : α → Option β → Prop} {l : List α} {l' : List β}
    (hle : l'.length ≤ l.length) :
    List.Forall₂ R l (l'.map some ++ List.replicate (l.length - l'.length) none) ↔
      ∀ (i : Nat) (a : α), l[i]? = some a → R a l'[i]? := by
  induction l generalizing l' with
  | nil => simp [List.length_eq_zero_iff.1 (Nat.le_zero.1 hle)]
  | cons a l ih =>
      rw [forall_getElem?_cons_iff]
      cases l' with
      | nil =>
          have hrest := @ih [] (Nat.zero_le _)
          simpa [List.replicate_succ] using fun _ => hrest
      | cons b l' => simpa using fun _ => ih (Nat.le_of_succ_le_succ hle)

namespace Form

/-- The documents that stand for a value, and documents that stand for none. -/
class Spelling (α : Type) where
  Spells : Json → α → Prop
  Faulty : Json → Prop

export Spelling (Spells Faulty)

/-- Every document that stands for a value is read as that value, and the faulty ones are not read. -/
structure Faithful (α : Type) [Form α] [Spelling α] : Prop where
  decode_of_spells : ∀ {j : Json} {v : α}, Spells j v → decode j = some v
  decode_of_faulty : ∀ {j : Json}, Faulty α j → (decode j : Option α) = none

/-- A field of a record. One that may be left out has a value where it is absent. -/
structure Field (α : Type) where
  name : String
  {Value : Type}
  [form : Form Value]
  [spelling : Spelling Value]
  value : α → Value
  absent : Option Value

attribute [instance] Field.form Field.spelling

namespace Field

variable {α : Type}

def Spelled (f : Field α) (v : α) : Option Json → Prop
  | some j => Spells j (f.value v)
  | none => f.absent = some (f.value v)

def Reads (f : Field α) (v : α) : Option Json → Prop
  | some j => decode j = some (f.value v)
  | none => f.absent = some (f.value v)

variable {f : Field α} {v : α} {o : Option Json}

theorem reads_of_spelled (hf : Faithful f.Value) (h : f.Spelled v o) : f.Reads v o := by
  cases o with
  | none => exact h
  | some j => exact hf.decode_of_spells h

theorem not_reads_of_faulty (hf : Faithful f.Value) {j : Json} (h : Faulty f.Value j) :
    ¬ f.Reads v (some j) := by
  intro hreads
  cases (hf.decode_of_faulty h).symm.trans hreads

theorem not_reads_of_absent (h : f.absent = none) : ¬ f.Reads v none := by
  intro hreads
  cases h.symm.trans hreads

theorem forall₂_reads_required_iff {name : String} {β : Type} [Form β] [Spelling β] {value : α → β}
    {fs : List (Field α)} {given : List (Option Json)} :
    List.Forall₂ (fun f o => f.Reads v o) (⟨name, value, none⟩ :: fs) given ↔
      ∃ j rest, decode j = some (value v) ∧ List.Forall₂ (fun f o => f.Reads v o) fs rest ∧
        given = some j :: rest := by
  rw [List.forall₂_cons_left_iff]
  constructor
  · rintro ⟨o, rest, hreads, hrest, rfl⟩
    cases o with
    | none => cases hreads
    | some j => exact ⟨j, rest, hreads, hrest, rfl⟩
  · rintro ⟨j, rest, hreads, hrest, rfl⟩
    exact ⟨some j, rest, hreads, hrest, rfl⟩

end Field

/-- Records are written as an object with a member for each field, and are read field by field. -/
class Record (α : Type) [Form α] where
  fields : List (Field α)
  nodup : (fields.map Field.name).Nodup
  encode_eq : ∀ v : α, encode v = .object (fields.map fun f => (f.name, encode (f.value v)))
  decode_iff : ∀ {j : Json} {v : α}, decode j = some v ↔
    ∃ given, j.fields? (fields.map Field.name) = some given ∧
      List.Forall₂ (fun f o => f.Reads v o) fields given

namespace Record

variable {α : Type}

/-- A member for each of the fields, in their order. Only those that have their value anyway may be
missing. -/
inductive Filled (v : α) : List (Field α) → List (String × Json) → Prop
  | nil : Filled v [] []
  | given {f : Field α} {fs : List (Field α)} {j : Json} {ms : List (String × Json)} :
      Spells j (f.value v) → Filled v fs ms → Filled v (f :: fs) ((f.name, j) :: ms)
  | omitted {f : Field α} {fs : List (Field α)} {ms : List (String × Json)} :
      f.absent = some (f.value v) → Filled v fs ms → Filled v (f :: fs) ms

namespace Filled

variable {v : α} {fs : List (Field α)} {ms : List (String × Json)}

theorem mem_names (h : Filled v fs ms) {m : String × Json} (hm : m ∈ ms) :
    m.1 ∈ fs.map Field.name := by
  induction h with
  | nil => cases hm
  | given _ _ ih =>
      rcases List.mem_cons.1 hm with rfl | hm
      · simp
      · exact List.mem_cons_of_mem _ (ih hm)
  | omitted _ _ ih => exact List.mem_cons_of_mem _ (ih hm)

theorem valuesOf (h : Filled v fs ms) (hd : (fs.map Field.name).Nodup) {f : Field α} (hf : f ∈ fs) :
    ∃ o : Option Json, Json.valuesOf f.name ms = o.toList ∧ f.Spelled v o := by
  induction h with
  | nil => cases hf
  | @given g fs j ms hj hrest ih =>
      obtain ⟨hg, hd⟩ := List.nodup_cons.1 hd
      rcases List.mem_cons.1 hf with rfl | hf
      · have hnil : Json.valuesOf f.name ms = [] :=
          Json.valuesOf_eq_nil fun m hm he => hg (he ▸ hrest.mem_names hm)
        exact ⟨some j, by simp [Json.valuesOf_cons, hnil], hj⟩
      · have hne : g.name ≠ f.name := fun he => hg (he ▸ List.mem_map_of_mem hf)
        simpa [Json.valuesOf_cons, hne] using ih hd hf
  | @omitted g fs ms hg hrest ih =>
      obtain ⟨hg', hd⟩ := List.nodup_cons.1 hd
      rcases List.mem_cons.1 hf with rfl | hf
      · have hnil : Json.valuesOf f.name ms = [] :=
          Json.valuesOf_eq_nil fun m hm he => hg' (he ▸ hrest.mem_names hm)
        exact ⟨none, hnil, hg⟩
      · exact ih hd hf

theorem of_fields (h : ∀ f ∈ fs, Spells (encode (f.value v)) (f.value v)) :
    Filled v fs (fs.map fun f => (f.name, encode (f.value v))) := by
  induction fs with
  | nil => exact .nil
  | cons f fs ih =>
      obtain ⟨hf, hfs⟩ := List.forall_mem_cons.1 h
      exact .given hf (ih hfs)

end Filled

variable [Form α] [Record α]

/-- The members of an object may come in any order, and others may stand among them. A list has the
fields in their order. -/
inductive Spelled (v : α) : Json → Prop
  | object {ms known others : List (String × Json)} : ms.Perm (known ++ others) →
      Filled v fields known → (∀ m ∈ others, ∀ f ∈ fields (α := α), m.1 ≠ f.name) →
      Spelled v (.object ms)
  | list {items : List Json} : items.length ≤ (fields (α := α)).length →
      (∀ (i : Nat) (f : Field α), fields[i]? = some f → f.Spelled v items[i]?) → Spelled v (.list items)

variable (α) in
/-- Records in which a field is missing, repeated or itself faulty, and lists with too many parts. -/
inductive Spoilt : Json → Prop
  | missing {f : Field α} {ms : List (String × Json)} : f ∈ fields → f.absent = none →
      f.name ∉ ms.map Prod.fst → Spoilt (.object ms)
  | repeated {f : Field α} {ms : List (String × Json)} : f ∈ fields →
      1 < (ms.map Prod.fst).count f.name → Spoilt (.object ms)
  | member {f : Field α} {ms : List (String × Json)} {j : Json} : f ∈ fields →
      (f.name, j) ∈ ms → Faulty f.Value j → Spoilt (.object ms)
  | short {i : Nat} {f : Field α} {items : List Json} : fields[i]? = some f → f.absent = none →
      items.length ≤ i → Spoilt (.list items)
  | item {i : Nat} {f : Field α} {items : List Json} {j : Json} : fields[i]? = some f →
      items[i]? = some j → Faulty f.Value j → Spoilt (.list items)
  | long {items : List Json} : (fields (α := α)).length < items.length → Spoilt (.list items)

instance : Spelling α := ⟨fun j v => Spelled v j, Spoilt α⟩

variable {v : α} {ms : List (String × Json)} {items : List Json}

theorem decode_object_iff : decode (.object ms) = some v ↔
    ∀ f ∈ fields (α := α), ∃ o : Option Json, Json.valuesOf f.name ms = o.toList ∧ f.Reads v o := by
  rw [decode_iff]
  simp only [Json.fields?, mapM_eq_some_iff, List.forall₂_map_left_iff, Json.atMostOne_eq_some_iff]
  exact exists_forall₂_iff

theorem decode_list_iff : decode (.list items) = some v ↔ items.length ≤ (fields (α := α)).length ∧
    ∀ (i : Nat) (f : Field α), fields[i]? = some f → f.Reads v items[i]? := by
  rw [decode_iff]
  simp only [Json.fields?, List.length_map, Option.ite_none_right_eq_some, Option.some.injEq]
  constructor
  · rintro ⟨_, ⟨hle, rfl⟩, hreads⟩
    exact ⟨hle, (forall₂_padded_iff hle).1 hreads⟩
  · rintro ⟨hle, hreads⟩
    exact ⟨_, ⟨hle, rfl⟩, (forall₂_padded_iff hle).2 hreads⟩

theorem decode_of_spelled (hfields : ∀ f ∈ fields (α := α), Faithful f.Value) {j : Json}
    (h : Spelled v j) : decode j = some v := by
  cases h with
  | object hperm hfilled hothers =>
      refine decode_object_iff.2 fun f hf => ?_
      obtain ⟨o, hvalues, hspelled⟩ := hfilled.valuesOf nodup hf
      refine ⟨o, Json.valuesOf_eq_of_perm hperm ?_, Field.reads_of_spelled (hfields f hf) hspelled⟩
      rw [Json.valuesOf_append, hvalues, Json.valuesOf_eq_nil fun m hm => hothers m hm f hf,
        List.append_nil]
  | list hle hspelled =>
      refine decode_list_iff.2 ⟨hle, fun i f hf => ?_⟩
      exact Field.reads_of_spelled (hfields f (List.mem_of_getElem? hf)) (hspelled i f hf)

theorem decode_of_spoilt (hfields : ∀ f ∈ fields (α := α), Faithful f.Value) {j : Json}
    (h : Spoilt α j) : (decode j : Option α) = none := by
  refine Option.eq_none_iff_forall_ne_some.2 fun v hv => ?_
  cases h with
  | @missing f ms hf habsent hname =>
      obtain ⟨o, hvalues, hreads⟩ := decode_object_iff.1 hv f hf
      have hnil : Json.valuesOf f.name ms = [] :=
        Json.valuesOf_eq_nil fun m hm he => hname (he ▸ List.mem_map_of_mem hm)
      have hnone : o = none := by simpa using hvalues.symm.trans hnil
      subst hnone
      exact Field.not_reads_of_absent habsent hreads
  | @repeated f ms hf hcount =>
      obtain ⟨o, hvalues, -⟩ := decode_object_iff.1 hv f hf
      rw [← Json.length_valuesOf, hvalues] at hcount
      cases o <;> simp at hcount
  | @member f ms j hf hm hj =>
      obtain ⟨o, hvalues, hreads⟩ := decode_object_iff.1 hv f hf
      have hmem : j ∈ o.toList := hvalues ▸ Json.mem_valuesOf.2 hm
      rw [Option.mem_toList.1 hmem] at hreads
      exact Field.not_reads_of_faulty (hfields f hf) hj hreads
  | @short i f items hf habsent hle =>
      have hreads := (decode_list_iff.1 hv).2 i f hf
      rw [List.getElem?_eq_none hle] at hreads
      exact Field.not_reads_of_absent habsent hreads
  | @item i f items j hf hitem hj =>
      have hreads := (decode_list_iff.1 hv).2 i f hf
      rw [hitem] at hreads
      exact Field.not_reads_of_faulty (hfields f (List.mem_of_getElem? hf)) hj hreads
  | long hlt => exact absurd (decode_list_iff.1 hv).1 (Nat.not_le_of_gt hlt)

theorem faithful (hfields : ∀ f ∈ fields (α := α), Faithful f.Value) : Faithful α :=
  ⟨decode_of_spelled hfields, decode_of_spoilt hfields⟩

theorem spells_encode (h : ∀ f ∈ fields (α := α), Spells (encode (f.value v)) (f.value v)) :
    Spells (encode v) v := by
  rw [encode_eq]
  have hperm : ∀ ms : List (String × Json), ms.Perm (ms ++ []) := by simp
  exact Spelled.object (hperm _) (Filled.of_fields h) fun _ hm => absurd hm List.not_mem_nil

end Record

end Form

end TrackedRows
