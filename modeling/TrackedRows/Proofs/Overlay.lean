import TrackedRows.Proofs.Dangling

namespace TrackedRows

namespace Change

/-- What a set has for a row once another has landed on it, told from what the two had for it. -/
def merged : Option Change → Option Change → Option Change
  | old, none => old
  | none, some c => some c
  | some old, some c =>
    if old.isStored = false ∧ c.pending = .delete then none
    else some {
      row := c.row
      readId := c.writeId
      writeId := c.writeId
      isStored := old.isStored
      pending := if old.isStored then c.pending else old.pending }

@[simp] theorem merged_none (old : Option Change) : merged old none = old := by
  cases old <;> rfl

theorem absorb_baseline (old c : Change) : old.absorb c .baseline =
    if old.readId ≤ c.readId then .ok (merged (some old) (some c))
    else .error (.conflict c.key.label old.readId c.readId) := by
  by_cases hle : old.readId ≤ c.readId
  · have hgt : ¬ old.readId > c.readId := UInt64.not_lt.2 hle
    rw [absorb, if_neg hgt, if_pos hle]
    cases hs : old.isStored <;> by_cases hp : c.pending = .delete <;> simp [merged, hs, hp]
  · have hgt : old.readId > c.readId := UInt64.not_le.1 hle
    rw [absorb, if_pos hgt, if_neg hle]

end Change

namespace ChangeSet

variable {s incoming : ChangeSet} {l : Landing} {c : Change} {k : Key}

/-- A change may land on an entry that is not ahead of the version it was read at, or as a new row that
its set does not know to be cancelled. -/
def admits (s incoming : ChangeSet) (c : Change) : Bool :=
  match s.get? c.key with
  | some old => old.readId ≤ c.readId
  | none => (c.pending = .insert || c.writeId = 0) && !incoming.excludes c.key

def refusal (s : ChangeSet) (c : Change) : Fault :=
  match s.get? c.key with
  | some old => .conflict c.key.label old.readId c.readId
  | none => .missingRow c.key.label

theorem landOne_eq (s incoming : ChangeSet) (c : Change) : s.landOne incoming.dangling c =
    if s.admits incoming c then .ok (Change.merged (s.get? c.key) (some c)) else .error (s.refusal c) := by
  cases hold : s.get? c.key with
  | none => simp only [landOne, admits, refusal, excludes, hold, Change.merged]
  | some old =>
      rw [landOne_of_some hold, Change.absorb_baseline]
      simp [admits, refusal, hold]

theorem admits_of_landOne {o : Option Change} (h : s.landOne incoming.dangling c = .ok o) :
    s.admits incoming c = true ∧ o = Change.merged (s.get? c.key) (some c) := by
  rw [landOne_eq] at h
  split at h
  · rename_i hadmits
    cases h
    exact ⟨hadmits, rfl⟩
  · cases h

theorem exists_land_iff : (∃ l, s.land incoming = .ok l) ↔
    ∀ c, incoming.get? c.key = some c → s.admits incoming c = true := by
  constructor
  · rintro ⟨l, hl⟩ c hc
    exact (admits_of_landOne ((get?_land hl c.key).1 c hc)).1
  · intro hadmits
    apply exists_land
    intro c hc
    exact ⟨_, (landOne_eq s incoming c).trans (if_pos (hadmits c hc))⟩

theorem get?_baseline (l : Landing) (k : Key) : l.baseline.get? k = l.changes.get? k :=
  get?_foldl_exclude l.removed l.changes k

theorem get?_merged (h : s.land incoming = .ok l) (k : Key) :
    l.changes.get? k = Change.merged (s.get? k) (incoming.get? k) := by
  obtain ⟨hin, hout⟩ := get?_land h k
  rw [get?_baseline] at hin hout
  cases hc : incoming.get? k with
  | none => rw [hout hc, Change.merged_none]
  | some c =>
      obtain rfl : c.key = k := key_of_get? hc
      exact (admits_of_landOne (hin c hc)).2

theorem mem_removed_iff (h : s.land incoming = .ok l) :
    k ∈ l.removed ↔ ∃ c, incoming.get? k = some c ∧ s.landOne incoming.dangling c = .ok none := by
  refine ⟨(dangling_and_removed_of_land h).2 k, ?_⟩
  rintro ⟨c, hc, hnone⟩
  obtain rfl : c.key = k := key_of_get? hc
  obtain ⟨landed, hm, -, hremoved⟩ := land_eq_ok h
  obtain ⟨o, ho, hl⟩ := (mapM_landOne_ok hm).2.1 c (Keyed.mem_of_get? hc)
  cases hnone.symm.trans hl
  rw [hremoved, List.mem_filterMap]
  exact ⟨(c.key, none), ho, rfl⟩

/-- The rows that are cancelled are those that storage never had, and that are deleted. -/
theorem mem_removed_iff_deleted (h : s.land incoming = .ok l) : k ∈ l.removed ↔
    ∃ old c, s.get? k = some old ∧ incoming.get? k = some c ∧ old.isStored = false ∧ c.pending = .delete := by
  rw [mem_removed_iff h]
  constructor
  · rintro ⟨c, hc, hnone⟩
    obtain rfl : c.key = k := key_of_get? hc
    have hmerged := (admits_of_landOne hnone).2
    cases hold : s.get? c.key with
    | none => simp [hold, Change.merged] at hmerged
    | some old =>
        rw [hold, Change.merged] at hmerged
        split at hmerged
        · rename_i hdeleted
          exact ⟨old, c, rfl, hc, hdeleted⟩
        · cases hmerged
  · rintro ⟨old, c, hold, hc, hdeleted⟩
    obtain rfl : c.key = k := key_of_get? hc
    refine ⟨c, hc, ?_⟩
    have hadmits := exists_land_iff.1 ⟨l, h⟩ c hc
    rw [landOne_eq, if_pos hadmits, hold, Change.merged, if_pos hdeleted]

theorem ascending_removed (h : s.land incoming = .ok l) :
    l.removed.Pairwise fun j k => compare j k = .lt := by
  obtain ⟨landed, hm, -, hremoved⟩ := land_eq_ok h
  have hkeys : (landed.map Prod.fst).Pairwise fun j k => compare j k = .lt := by
    rw [(mapM_landOne_ok hm).1]
    exact List.pairwise_map.2 incoming.entries.ascending
  have hsublist : l.removed.Sublist (landed.map Prod.fst) := by
    rw [hremoved]
    clear hm hremoved hkeys
    induction landed with
    | nil => exact .slnil
    | cons p landed ih =>
        obtain ⟨k, o⟩ := p
        cases o with
        | none => exact ih.cons_cons k
        | some d => exact ih.cons k
  exact hkeys.sublist hsublist

theorem refusal_of_land {fault : Fault} (h : s.land incoming = .error fault) :
    ∃ c, incoming.get? c.key = some c ∧ s.admits incoming c = false ∧ fault = s.refusal c ∧
      ∀ d, incoming.get? d.key = some d → compare d.key c.key = .lt → s.admits incoming d = true := by
  obtain ⟨c, hc, he, hbelow⟩ := landOne_error_of_land h
  rw [landOne_eq] at he
  split at he
  · cases he
  · rename_i hrefused
    cases he
    refine ⟨c, hc, by simpa using hrefused, rfl, fun d hd hlt => ?_⟩
    obtain ⟨o, ho⟩ := hbelow d hd hlt
    exact (admits_of_landOne ho).1

/-- One more row lands on what those before it have left. -/
def landNext (dangling : KeySet) (l : Landing) (c : Change) : Except Fault Landing := do
  let o ← l.changes.landOne dangling c
  return ⟨l.changes.place c.key o, if o.isNone then l.removed ++ [c.key] else l.removed⟩

/-- All that has become of the rows is put in its place. -/
def placeAll (l : Landing) (landed : List (Key × Option Change)) : Landing where
  changes := landed.foldl (fun s (k, c) => s.place k c) l.changes
  removed := l.removed ++ landed.filterMap fun (k, c) => if c.isNone then some k else none

theorem placeAll_nil (l : Landing) : placeAll l [] = l := by
  simp [placeAll]

theorem placeAll_cons (l : Landing) (k : Key) (o : Option Change) (landed : List (Key × Option Change)) :
    placeAll l ((k, o) :: landed) =
      placeAll ⟨l.changes.place k o, if o.isNone then l.removed ++ [k] else l.removed⟩ landed := by
  cases o <;> simp [placeAll]

theorem foldlM_landNext {dangling : KeySet} {items : List Change} (hd : (items.map Change.key).Nodup)
    (l : Landing) (hs : ∀ c ∈ items, l.changes.get? c.key = s.get? c.key) :
    items.foldlM (landNext dangling) l =
      (items.mapM fun c => return (c.key, ← s.landOne dangling c)).map (placeAll l) := by
  induction items generalizing l with
  | nil => exact congrArg Except.ok (placeAll_nil l).symm
  | cons c items ih =>
      obtain ⟨hnew, hd⟩ := List.nodup_cons.1 hd
      rw [List.foldlM_cons, List.mapM_cons, landNext, landOne_congr (hs c (List.mem_cons_self ..))]
      cases ho : s.landOne dangling c with
      | error fault => rfl
      | ok o =>
          -- The rows that are still to land have other keys, and find the set as it was.
          have hrest : ∀ d ∈ items, (l.changes.place c.key o).get? d.key = s.get? d.key := by
            intro d hmem
            have hne : d.key ≠ c.key := fun he => hnew (he ▸ List.mem_map_of_mem hmem)
            rw [get?_place _ fun e he => key_of_landOne (he ▸ ho), if_neg hne]
            exact hs d (List.mem_cons_of_mem _ hmem)
          refine (ih hd ⟨l.changes.place c.key o, _⟩ hrest).trans ?_
          cases items.mapM fun c => (do
              return (c.key, ← s.landOne dangling c) : Except Fault (Key × Option Change)) with
          | error fault => rfl
          | ok rest => exact congrArg Except.ok (placeAll_cons l c.key o rest).symm

/-- It makes no difference that all rows are tried before the first of them is placed: they can as well
land one after the other, until one is refused. -/
theorem land_eq_foldlM (s incoming : ChangeSet) : s.land incoming =
    incoming.entries.items.foldlM (landNext incoming.dangling) ⟨⟨s.entries, incoming.dangling⟩, []⟩ := by
  rw [foldlM_landNext (s := s) incoming.entries.nodup_keys _ fun c _ => rfl, land]
  cases incoming.entries.items.mapM fun c => (do
      return (c.key, ← s.landOne incoming.dangling c) : Except Fault (Key × Option Change)) with
  | error fault => rfl
  | ok landed => rfl

/-- A set lands on another exactly if each of its rows may, and then row by row. The keys of cancelled
rows are reported in ascending order, and dangle together with those of the set that landed. Otherwise
the first row that may not land is the one that is reported. -/
theorem land_pointwise (s incoming : ChangeSet) :
    ((∃ l, s.land incoming = .ok l) ↔
      ∀ k c, incoming.get? k = some c → s.admits incoming c = true) ∧
    (∀ l, s.land incoming = .ok l →
      (∀ k, l.changes.get? k = Change.merged (s.get? k) (incoming.get? k)) ∧
      (∀ k, l.baseline.get? k = l.changes.get? k) ∧
      (l.removed.Pairwise fun j k => compare j k = .lt) ∧
      (∀ k, k ∈ l.removed ↔ ∃ old c, s.get? k = some old ∧ incoming.get? k = some c ∧
        old.isStored = false ∧ c.pending = .delete) ∧
      l.changes.dangling = incoming.dangling ∧
      ∀ k, l.baseline.excludes k = true ↔ k ∈ l.removed ∨ incoming.excludes k = true) ∧
    ∀ fault, s.land incoming = .error fault →
      ∃ k c, incoming.get? k = some c ∧ s.admits incoming c = false ∧
        (∀ j d, incoming.get? j = some d → compare j k = .lt → s.admits incoming d = true) ∧
        fault = match s.get? k with
          | some old => .conflict k.label old.readId c.readId
          | none => .missingRow k.label := by
  refine ⟨?_, fun l hl => ⟨get?_merged hl, get?_baseline l, ascending_removed hl,
    fun k => mem_removed_iff_deleted hl, (dangling_and_removed_of_land hl).1, excludes_land hl⟩, ?_⟩
  · rw [exists_land_iff]
    constructor
    · intro hadmits k c hc
      exact hadmits c ((key_of_get? hc).symm ▸ hc)
    · intro hadmits c hc
      exact hadmits c.key c hc
  · intro fault hfault
    obtain ⟨c, hc, hrefused, rfl, hbelow⟩ := refusal_of_land hfault
    refine ⟨c.key, c, hc, hrefused, fun j d hd hlt => ?_, rfl⟩
    obtain rfl : d.key = j := key_of_get? hd
    exact hbelow d hd hlt

/-- The insert of row 2 was read too early, and there is no row 1 to be updated. -/
example :
    let s := empty.put (.inserted (.blank (.number 2)) 5)
    let incoming := (empty.put (.inserted (.blank (.number 2)) 4)).put
      ((Change.seeded (.blank (.number 1)) 3).updated (.blank (.number 1)) 4)
    s.land incoming = .error (.missingRow "Int(1)") := rfl

end ChangeSet

end TrackedRows
