import TrackedRows.Keyed.Basic

namespace TrackedRows

/-- Steps that each change what is found at a key of their own, one after the other. -/
theorem lookup_foldl {σ β κ γ : Type} [DecidableEq κ] {step : σ → β → σ} {key : β → κ}
    (lookup : σ → κ → γ) (new : β → γ → γ) {l : List β} (hd : (l.map key).Nodup)
    (hstep : ∀ b ∈ l, ∀ s k, lookup (step s b) k = if k = key b then new b (lookup s k) else lookup s k)
    (s : σ) : (∀ b ∈ l, lookup (l.foldl step s) (key b) = new b (lookup s (key b))) ∧
      ∀ k, k ∉ l.map key → lookup (l.foldl step s) k = lookup s k := by
  induction l generalizing s with
  | nil => simp
  | cons b l ih =>
      obtain ⟨hb, hd⟩ := List.nodup_cons.1 hd
      obtain ⟨hin, hout⟩ := ih hd (fun c hc => hstep c (by simp [hc])) (step s b)
      have hhead := hstep b (by simp) s
      refine ⟨?_, ?_⟩
      · intro c hc
        rcases List.mem_cons.1 hc with rfl | hc
        · rw [List.foldl_cons, hout _ hb, hhead, if_pos rfl]
        · have hne : key c ≠ key b := fun he => hb (he ▸ List.mem_map_of_mem hc)
          rw [List.foldl_cons, hin c hc, hhead, if_neg hne]
      · intro k hk
        simp only [List.map_cons, List.mem_cons, not_or] at hk
        rw [List.foldl_cons, hout k hk.2, hhead, if_neg hk.1]

namespace Keyed

open Std

variable {α β κ : Type} [Ord κ] {key : α → κ} {key' : β → κ}

theorem nodup_keys [ReflOrd κ] (s : Keyed key) : s.keys.Nodup :=
  List.pairwise_map.2 (s.ascending.imp fun hab he => by simp [he, ReflCmp.compare_self] at hab)

section Order

variable [TransOrd κ] [LawfulEqOrd κ]

theorem mem_items_put {s : Keyed key} {a b : α} :
    b ∈ (s.put a).items ↔ b = a ∨ b ∈ s.items ∧ key b ≠ key a := by
  have hlt : ∀ {x y : κ}, compare x y = .lt → x ≠ y := fun h he => by
    simp [he, ReflCmp.compare_self] at h
  simp only [put, below, above, List.mem_append, List.mem_cons, List.mem_filter, decide_eq_true_eq]
  constructor
  · rintro (⟨h, hb⟩ | rfl | ⟨h, hb⟩)
    · exact .inr ⟨h, hlt hb⟩
    · exact .inl rfl
    · exact .inr ⟨h, (hlt hb).symm⟩
  · rintro (rfl | ⟨h, hne⟩)
    · exact .inr (.inl rfl)
    · cases hc : compare (key b) (key a) with
      | lt => exact .inl ⟨h, rfl⟩
      | eq => exact absurd (LawfulEqCmp.eq_of_compare hc) hne
      | gt => exact .inr (.inr ⟨h, OrientedCmp.lt_of_gt hc⟩)

theorem items_ext {s t : Keyed key} (h : ∀ a, a ∈ s.items ↔ a ∈ t.items) : s = t := by
  obtain ⟨l, hl⟩ := s
  obtain ⟨m, hm⟩ := t
  refine ext_items (List.Perm.eq_of_pairwise ?_ hl hm ?_)
  · intro a b _ _ hab hba
    simp [OrientedCmp.gt_of_lt hba] at hab
  · have nodup : ∀ {l : List α}, l.Pairwise (fun a b => compare (key a) (key b) = .lt) → l.Nodup :=
      fun h => h.imp fun hab he => by simp [he, ReflCmp.compare_self] at hab
    exact (List.perm_ext_iff_of_nodup (nodup hl) (nodup hm)).2 h

theorem mem_of_mem_putAll {l : List α} {s : Keyed key} {a : α} (h : a ∈ (s.putAll l).items) :
    a ∈ s.items ∨ a ∈ l := by
  induction l generalizing s with
  | nil => exact .inl h
  | cons b l ih =>
      rcases ih h with h | h
      · rcases mem_items_put.1 h with rfl | ⟨h, -⟩
        · exact .inr (by simp)
        · exact .inl h
      · exact .inr (by simp [h])

end Order

section Lookup

variable [DecidableEq κ]

theorem key_of_get? {s : Keyed key} {k : κ} {a : α} (h : s.get? k = some a) : key a = k := by
  simpa using List.find?_some h

theorem mem_of_get? {s : Keyed key} {k : κ} {a : α} (h : s.get? k = some a) : a ∈ s.items :=
  List.mem_of_find?_eq_some h

theorem get?_eq_none_iff {s : Keyed key} {k : κ} : s.get? k = none ↔ ∀ a ∈ s.items, key a ≠ k := by
  simp [get?]

@[simp] theorem get?_empty (k : κ) : (empty : Keyed key).get? k = none := rfl

theorem get?_map (f : α → β) (h : ∀ a, key' (f a) = key a) (s : Keyed key) (k : κ) :
    (s.map f h).get? k = (s.get? k).map f := by
  simp only [get?, map, List.find?_map]
  congr 2
  funext a
  simp [h]

variable [LawfulEqOrd κ]

theorem get?_of_mem {s : Keyed key} {a : α} (h : a ∈ s.items) : s.get? (key a) = some a := by
  obtain ⟨l, hl⟩ := s
  simp only [get?] at *
  induction l with
  | nil => simp at h
  | cons b l ih =>
      have hb := List.pairwise_cons.1 hl
      rcases List.mem_cons.1 h with rfl | h
      · simp
      · have hlt := hb.1 a h
        have hne : key b ≠ key a := fun he => by simp [he, ReflCmp.compare_self] at hlt
        rw [List.find?_cons_of_neg (by simpa using hne)]
        exact ih hb.2 h

theorem get?_eq_some_iff {s : Keyed key} {k : κ} {a : α} :
    s.get? k = some a ↔ a ∈ s.items ∧ key a = k :=
  ⟨fun h => ⟨mem_of_get? h, key_of_get? h⟩, fun ⟨h, hk⟩ => hk ▸ get?_of_mem h⟩

theorem get?_filter (p : α → Bool) (s : Keyed key) (k : κ) :
    (s.filter p).get? k = (s.get? k).filter p := by
  apply Option.ext
  intro a
  simp only [get?_eq_some_iff, Option.filter_eq_some_iff, filter, List.mem_filter]
  exact ⟨fun ⟨⟨h, hp⟩, hk⟩ => ⟨⟨h, hk⟩, hp⟩, fun ⟨⟨h, hk⟩, hp⟩ => ⟨⟨h, hp⟩, hk⟩⟩

theorem get?_erase (s : Keyed key) (j k : κ) :
    (s.erase j).get? k = if k = j then none else s.get? k := by
  rw [erase, get?_filter]
  cases h : s.get? k with
  | none => simp
  | some a => by_cases hk : k = j <;> simp [Option.filter, key_of_get? h, hk]

variable [TransOrd κ]

theorem get?_put (s : Keyed key) (a : α) (k : κ) :
    (s.put a).get? k = if k = key a then some a else s.get? k := by
  apply Option.ext
  intro b
  by_cases hk : k = key a
  · subst hk
    simp only [get?_eq_some_iff, mem_items_put, if_true, Option.some.injEq]
    exact ⟨fun ⟨h, hb⟩ => h.elim Eq.symm fun h => absurd hb h.2, fun h => ⟨.inl h.symm, h ▸ rfl⟩⟩
  · simp only [get?_eq_some_iff, mem_items_put, if_neg hk]
    constructor
    · rintro ⟨rfl | ⟨h, -⟩, hb⟩
      · exact absurd hb.symm hk
      · exact ⟨h, hb⟩
    · rintro ⟨h, rfl⟩
      exact ⟨.inr ⟨h, hk⟩, rfl⟩

/-- The last value with a key is the one that is kept. -/
theorem get?_putAll (s : Keyed key) (l : List α) (k : κ) :
    (s.putAll l).get? k = (l.reverse.find? (key · = k)).or (s.get? k) := by
  induction l generalizing s with
  | nil => rfl
  | cons a l ih =>
      rw [putAll, List.foldl_cons, ← putAll, ih, get?_put, List.reverse_cons, List.find?_append]
      cases l.reverse.find? (key · = k) with
      | some b => rfl
      | none => by_cases hk : k = key a <;> simp [hk, eq_comm]

theorem get?_putAll_eq_none_iff {s : Keyed key} {l : List α} {k : κ} :
    (s.putAll l).get? k = none ↔ s.get? k = none ∧ k ∉ l.map key := by
  rw [get?_putAll, Option.or_eq_none_iff, List.find?_eq_none, and_comm]
  refine and_congr_right fun _ => ?_
  simp only [List.mem_reverse, decide_eq_true_eq, List.mem_map]
  exact ⟨fun h ⟨a, ha, hk⟩ => h a ha hk, fun h a ha hk => h ⟨a, ha, hk⟩⟩

theorem ext_get? {s t : Keyed key} (h : ∀ k, s.get? k = t.get? k) : s = t :=
  items_ext fun a => by
    constructor
    · exact fun ha => mem_of_get? ((h _).symm.trans (get?_of_mem ha))
    · exact fun ha => mem_of_get? ((h _).trans (get?_of_mem ha))

/-- The values of a collection make it up again. -/
@[simp] theorem ofList_items (s : Keyed key) : ofList s.items = s := by
  obtain ⟨hin, hout⟩ := lookup_foldl get? (fun a _ => some a) s.nodup_keys
    (fun a _ s k => get?_put s a k) (empty : Keyed key)
  refine ext_get? fun k => ?_
  cases hk : s.get? k with
  | none =>
      refine (hout k fun hmem => ?_).trans rfl
      obtain ⟨a, ha, rfl⟩ := List.mem_map.1 hmem
      exact get?_eq_none_iff.1 hk a ha rfl
  | some a =>
      obtain ⟨ha, rfl⟩ := get?_eq_some_iff.1 hk
      exact hin a ha

end Lookup

end Keyed

end TrackedRows
