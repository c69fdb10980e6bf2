import TrackedRows.Baseline

namespace TrackedRows

namespace Change

def overlaid (old new : Change) (m : Meeting) : Change where
  row := new.row
  readId := match m with
    | .transaction => old.readId
    | .baseline => new.writeId
  writeId := new.writeId
  isStored := old.isStored
  pending := if old.isStored then new.pending else old.pending

theorem absorb_error_iff {old new : Change} {m : Meeting} :
    (∃ fault, old.absorb new m = .error fault) ↔ new.readId < old.readId := by
  unfold absorb
  split
  · simp_all
  · split <;> simp_all

theorem absorb_ok {old new : Change} {m : Meeting} {o : Option Change}
    (h : old.absorb new m = .ok o) : old.readId ≤ new.readId ∧
      (old.isStored = false ∧ new.pending = .delete ∧ o = none ∨
        (old.isStored = true ∨ new.pending ≠ .delete) ∧ o = some (old.overlaid new m)) := by
  unfold absorb at h
  split at h
  · cases h
  · rename_i hle
    refine ⟨by simpa using hle, ?_⟩
    split at h
    · cases h; simp_all
    · rename_i hkept
      cases h
      refine .inr ⟨?_, rfl⟩
      cases hs : old.isStored <;> simp_all

theorem key_of_absorb {old new c : Change} {m : Meeting} (h : old.absorb new m = .ok (some c)) :
    c.key = new.key := by
  obtain ⟨-, ⟨-, -, hc⟩ | ⟨-, hc⟩⟩ := absorb_ok h
  · cases hc
  · cases hc; rfl

/-- What a change makes of the entry that it lands on. -/
inductive Lands (c : Change) : Option Change → Option Change → Prop
  | fresh (hnew : c.pending = .insert ∨ c.writeId = 0) : Lands c none (some c)
  | onto {old : Change} (hle : old.readId ≤ c.readId)
      (hkept : old.isStored = true ∨ c.pending ≠ .delete) :
      Lands c (some old) (some (old.overlaid c .baseline))
  | cancel {old : Change} (hle : old.readId ≤ c.readId) (hs : old.isStored = false)
      (hp : c.pending = .delete) : Lands c (some old) none

end Change

namespace ChangeSet

variable {s incoming : ChangeSet} {c : Change} {dangling : KeySet}

theorem key_of_get? {k : Key} (h : s.get? k = some c) : c.key = k := Keyed.key_of_get? h

theorem ext_get? {s t : ChangeSet} (h : ∀ k, s.get? k = t.get? k) (hd : s.dangling = t.dangling) :
    s = t := by
  obtain ⟨entries, dangling⟩ := s
  cases hd
  rw [show entries = t.entries from Keyed.ext_get? h]

theorem live?_ne_none_iff {k : Key} : s.live? k ≠ none ↔ ∃ c, s.get? k = some c ∧ c.isLive = true := by
  cases hc : s.get? k with
  | none => simp [live?, hc]
  | some c => simp [live?, hc, Change.live?]

theorem get?_put (s : ChangeSet) (c : Change) (k : Key) :
    (s.put c).get? k = if k = c.key then some c else s.get? k := Keyed.get?_put _ _ _

theorem get?_drop (s : ChangeSet) (j k : Key) :
    (s.drop j).get? k = if k = j then none else s.get? k := Keyed.get?_erase _ _ _

theorem get?_writtenBy (s : ChangeSet) (id : Stamp) (k : Key) :
    (s.writtenBy id).get? k = (s.get? k).filter (·.writeId = id) := Keyed.get?_filter _ _ _

theorem get?_writtenBy_eq_some_iff {id : Stamp} {k : Key} :
    (s.writtenBy id).get? k = some c ↔ s.get? k = some c ∧ c.writeId = id := by
  simp [get?_writtenBy, Option.filter_eq_some_iff]

theorem get?_place (s : ChangeSet) {o : Option Change} {j : Key} (ho : ∀ c, o = some c → c.key = j)
    (k : Key) : (s.place j o).get? k = if k = j then o else s.get? k := by
  cases o with
  | none => exact get?_drop s j k
  | some c => rw [place, get?_put, ho c rfl]

theorem get?_foldl_place {landed : List (Key × Option Change)} (hd : (landed.map Prod.fst).Nodup)
    (hk : ∀ p ∈ landed, ∀ c, p.2 = some c → c.key = p.1) (s : ChangeSet) :
    (∀ p ∈ landed, (landed.foldl (fun s (k, c) => s.place k c) s).get? p.1 = p.2) ∧
      ∀ k, k ∉ landed.map Prod.fst →
        (landed.foldl (fun s (k, c) => s.place k c) s).get? k = s.get? k :=
  lookup_foldl get? (fun p _ => p.2) hd (fun p hp s k => get?_place s (hk p hp) k) s

theorem get?_foldl_exclude (l : List Key) (s : ChangeSet) (k : Key) :
    (l.foldl exclude s).get? k = s.get? k := by
  induction l generalizing s with
  | nil => rfl
  | cons j l ih => exact ih (s.exclude j)

theorem key_of_landOne {d : Change} (h : s.landOne dangling c = .ok (some d)) : d.key = c.key := by
  simp only [landOne] at h
  split at h
  · exact Change.key_of_absorb h
  · split at h
    · cases h; rfl
    · cases h

theorem landOne_congr {t : ChangeSet} (h : s.get? c.key = t.get? c.key) :
    s.landOne dangling c = t.landOne dangling c := by
  simp only [landOne, h]

theorem landOne_of_some {old : Change} (hold : s.get? c.key = some old) :
    s.landOne dangling c = old.absorb c .baseline := by
  simp only [landOne, hold]

theorem lands_of_landOne {k : Key} {o : Option Change} (hk : c.key = k)
    (h : s.landOne dangling c = .ok o) : c.Lands (s.get? k) o := by
  subst hk
  cases hold : s.get? c.key with
  | none =>
      simp only [landOne, hold] at h
      split at h
      · rename_i hnew
        cases h
        simp only [Bool.and_eq_true, Bool.or_eq_true, decide_eq_true_eq] at hnew
        exact .fresh hnew.1
      · cases h
  | some old =>
      rw [landOne_of_some hold] at h
      obtain ⟨hle, ⟨hs, hp, rfl⟩ | ⟨hkept, rfl⟩⟩ := Change.absorb_ok h
      · exact .cancel hle hs hp
      · exact .onto hle hkept

/-- All rows of the set that lands are tried, in their order, against the set as it was. -/
theorem mapM_landOne_ok {items : List Change} {landed : List (Key × Option Change)}
    (h : items.mapM (fun c => return (c.key, ← s.landOne dangling c)) = Except.ok landed) :
    landed.map Prod.fst = items.map Change.key ∧
      (∀ c ∈ items, ∃ o, (c.key, o) ∈ landed ∧ s.landOne dangling c = .ok o) ∧
      ∀ p ∈ landed, ∃ c ∈ items, c.key = p.1 ∧ s.landOne dangling c = .ok p.2 := by
  induction items generalizing landed with
  | nil => cases h; simp
  | cons c items ih =>
      rw [List.mapM_cons] at h
      cases ho : s.landOne dangling c with
      | error fault => rw [ho] at h; cases h
      | ok o =>
          cases hm : items.mapM fun c => (do
              return (c.key, ← s.landOne dangling c) : Except Fault (Key × Option Change)) with
          | error fault => rw [ho, hm] at h; cases h
          | ok rest =>
              rw [ho, hm] at h
              cases h
              obtain ⟨hkeys, hin, hfrom⟩ := ih hm
              refine ⟨by simp [hkeys], ?_, ?_⟩
              · intro d hd
                rcases List.mem_cons.1 hd with rfl | hd
                · exact ⟨o, by simp, ho⟩
                · obtain ⟨o', ho', hl⟩ := hin d hd
                  exact ⟨o', by simp [ho'], hl⟩
              · intro p hp
                rcases List.mem_cons.1 hp with rfl | hp
                · exact ⟨c, by simp, rfl, ho⟩
                · obtain ⟨d, hd, hl⟩ := hfrom p hp
                  exact ⟨d, by simp [hd], hl⟩

/-- The first row that cannot land is the one that is reported. -/
theorem mapM_landOne_error {items : List Change} {fault : Fault}
    (h : items.mapM (fun c => return (c.key, ← s.landOne dangling c)) =
      (.error fault : Except Fault (List (Key × Option Change)))) :
    ∃ earlier c later, items = earlier ++ c :: later ∧
      (∀ d ∈ earlier, ∃ o, s.landOne dangling d = .ok o) ∧ s.landOne dangling c = .error fault := by
  induction items with
  | nil => cases h
  | cons c items ih =>
      rw [List.mapM_cons] at h
      cases ho : s.landOne dangling c with
      | error fault' => rw [ho] at h; cases h; exact ⟨[], c, items, rfl, by simp, ho⟩
      | ok o =>
          cases hm : items.mapM fun c => (do
              return (c.key, ← s.landOne dangling c) : Except Fault (Key × Option Change)) with
          | error fault' =>
              rw [ho, hm] at h
              cases h
              obtain ⟨earlier, d, later, rfl, hearlier, he⟩ := ih hm
              exact ⟨c :: earlier, d, later, rfl, List.forall_mem_cons.2 ⟨⟨o, ho⟩, hearlier⟩, he⟩
          | ok rest => rw [ho, hm] at h; cases h

/-- If a set lands, all of its rows do, and are placed in the other set in their order. -/
theorem land_eq_ok {l : Landing} (h : s.land incoming = .ok l) :
    ∃ landed : List (Key × Option Change),
      incoming.entries.items.mapM (fun c => return (c.key, ← s.landOne incoming.dangling c)) =
        Except.ok landed ∧
      l.changes = landed.foldl (fun s (k, c) => s.place k c) ⟨s.entries, incoming.dangling⟩ ∧
      l.removed = landed.filterMap fun (k, c) => if c.isNone then some k else none := by
  unfold land at h
  cases hm : incoming.entries.items.mapM fun c => (do
      return (c.key, ← s.landOne incoming.dangling c) : Except Fault (Key × Option Change)) with
  | error fault => rw [hm] at h; cases h
  | ok landed =>
      rw [hm] at h
      cases h
      exact ⟨landed, rfl, rfl, rfl⟩

/-- A set lands row by row: what is made of one row depends on the entries of that row alone. -/
theorem get?_land {l : Landing} (h : s.land incoming = .ok l) (k : Key) :
    (∀ c, incoming.get? k = some c → s.landOne incoming.dangling c = .ok (l.baseline.get? k)) ∧
      (incoming.get? k = none → l.baseline.get? k = s.get? k) := by
  obtain ⟨landed, hm, hchanges, -⟩ := land_eq_ok h
  obtain ⟨hkeys, hin, hfrom⟩ := mapM_landOne_ok hm
  have hkeyed : ∀ p ∈ landed, ∀ d, p.2 = some d → d.key = p.1 := by
    intro p hp d hd
    obtain ⟨c, -, hc, hl⟩ := hfrom p hp
    exact (key_of_landOne (hd ▸ hl)).trans hc
  obtain ⟨hput, hkept⟩ := get?_foldl_place (hkeys ▸ incoming.entries.nodup_keys) hkeyed
    ⟨s.entries, incoming.dangling⟩
  rw [Landing.baseline, get?_foldl_exclude, hchanges]
  refine ⟨?_, ?_⟩
  · intro c hc
    obtain ⟨o, ho, hl⟩ := hin c (Keyed.mem_of_get? hc)
    rw [← key_of_get? hc, hput _ ho, hl]
  · intro hnone
    refine hkept k ?_
    rw [hkeys]
    intro hk
    obtain ⟨c, hc, rfl⟩ := List.mem_map.1 hk
    exact Keyed.get?_eq_none_iff.1 hnone c hc rfl

theorem dangling_foldl_place (landed : List (Key × Option Change)) (s : ChangeSet) :
    (landed.foldl (fun s (k, c) => s.place k c) s).dangling = s.dangling := by
  induction landed generalizing s with
  | nil => rfl
  | cons p landed ih =>
      obtain ⟨k, o⟩ := p
      rw [List.foldl_cons, ih]
      cases o <;> rfl

/-- The rows that are cancelled are those of which nothing is left where they land. -/
theorem dangling_and_removed_of_land {l : Landing} (h : s.land incoming = .ok l) :
    l.changes.dangling = incoming.dangling ∧ ∀ k ∈ l.removed,
      ∃ c, incoming.get? k = some c ∧ s.landOne incoming.dangling c = .ok none := by
  obtain ⟨landed, hm, hchanges, hremoved⟩ := land_eq_ok h
  refine ⟨hchanges ▸ dangling_foldl_place landed _, fun k hk => ?_⟩
  obtain ⟨⟨j, o⟩, hp, hjk⟩ := List.mem_filterMap.1 (hremoved ▸ hk)
  obtain ⟨c, hc, rfl, hl⟩ := (mapM_landOne_ok hm).2.2 _ hp
  cases o with
  | some d => simp at hjk
  | none =>
      simp only [Option.isNone_none, if_true, Option.some.injEq] at hjk
      exact ⟨c, hjk ▸ Keyed.get?_of_mem hc, hl⟩

/-- A set that cannot land fails at the first of its rows, in the order of their keys, that cannot. -/
theorem landOne_error_of_land {fault : Fault} (h : s.land incoming = .error fault) :
    ∃ c, incoming.get? c.key = some c ∧ s.landOne incoming.dangling c = .error fault ∧
      ∀ d, incoming.get? d.key = some d → compare d.key c.key = .lt →
        ∃ o, s.landOne incoming.dangling d = .ok o := by
  unfold land at h
  cases hm : incoming.entries.items.mapM fun c => (do
      return (c.key, ← s.landOne incoming.dangling c) : Except Fault (Key × Option Change)) with
  | ok landed => rw [hm] at h; cases h
  | error fault' =>
      rw [hm] at h
      cases h
      obtain ⟨earlier, c, later, hitems, hearlier, he⟩ := mapM_landOne_error hm
      have hc : c ∈ incoming.entries.items := by simp [hitems]
      refine ⟨c, Keyed.get?_of_mem hc, he, fun d hd hlt => ?_⟩
      have hsorted := incoming.entries.ascending
      rw [hitems, List.pairwise_append, List.pairwise_cons] at hsorted
      have hmem := Keyed.mem_of_get? hd
      rw [hitems, List.mem_append, List.mem_cons] at hmem
      rcases hmem with hd | rfl | hd
      · exact hearlier d hd
      · rw [Std.ReflOrd.compare_self] at hlt
        cases hlt
      · have hgt := Std.OrientedCmp.gt_of_lt (hsorted.2.1.1 d hd)
        rw [hlt] at hgt
        cases hgt

theorem exists_land (h : ∀ c, incoming.get? c.key = some c →
    ∃ o, s.landOne incoming.dangling c = .ok o) : ∃ l, s.land incoming = .ok l := by
  cases hl : s.land incoming with
  | ok l => exact ⟨l, rfl⟩
  | error fault =>
      obtain ⟨c, hc, he, -⟩ := landOne_error_of_land hl
      obtain ⟨o, ho⟩ := h c hc
      cases he.symm.trans ho

section Seeds

variable {rows : List Row} {k : Key}

/-- Rows found in storage, as a set that is to land. -/
def seeds (rows : List Row) (dangling : KeySet) : ChangeSet :=
  ⟨.ofList (rows.map (Change.seeded · 0)), dangling⟩

theorem get?_seeds (rows : List Row) (dangling : KeySet) (k : Key) :
    (seeds rows dangling).get? k = (rows.reverse.find? (·.key = k)).map (Change.seeded · 0) := by
  have hlast := Keyed.get?_putAll (.empty : Keyed Change.key) (rows.map (Change.seeded · 0)) k
  rw [Keyed.get?_empty, Option.or_none, ← List.map_reverse, List.find?_map] at hlast
  exact hlast

theorem get?_seeds_of_mem (dangling : KeySet) (hk : k ∈ rows.map Row.key) :
    ∃ row ∈ rows, (Change.seeded row 0).key = k ∧ rows.reverse.find? (·.key = k) = some row ∧
      (seeds rows dangling).get? k = some (.seeded row 0) := by
  obtain ⟨row, hrow, hkey⟩ := List.mem_map.1 hk
  cases hfind : rows.reverse.find? (·.key = k) with
  | none =>
      have hne := List.find?_eq_none.1 hfind row (List.mem_reverse.2 hrow)
      simp [hkey] at hne
  | some last =>
      have hkey : last.key = k := by simpa using List.find?_some hfind
      have hmem : last ∈ rows := List.mem_reverse.1 (List.mem_of_find?_eq_some hfind)
      refine ⟨last, hmem, hkey, rfl, ?_⟩
      rw [get?_seeds, hfind]
      rfl

theorem get?_seeds_of_not_mem (hk : k ∉ rows.map Row.key) : (seeds rows dangling).get? k = none :=
  Keyed.get?_putAll_eq_none_iff.2 ⟨rfl, by simpa [Change.key, Change.seeded] using hk⟩

theorem seeded_of_get? (h : (seeds rows dangling).get? k = some c) : ∃ row ∈ rows, c = .seeded row 0 := by
  rw [get?_seeds] at h
  obtain ⟨row, hrow, rfl⟩ := Option.map_eq_some_iff.1 h
  exact ⟨row, List.mem_reverse.1 (List.mem_of_find?_eq_some hrow), rfl⟩

/-- No row is cancelled by one that storage holds. -/
theorem removed_land_seeds {l : Landing} (h : s.land (seeds rows dangling) = .ok l) : l.removed = [] := by
  apply List.eq_nil_iff_forall_not_mem.2
  intro k hk
  obtain ⟨c, hc, hnone⟩ := (dangling_and_removed_of_land h).2 k hk
  obtain ⟨row, -, rfl⟩ := seeded_of_get? hc
  have hlands := lands_of_landOne rfl hnone
  generalize s.get? (Change.seeded row 0).key = old at hlands
  cases hlands with
  | cancel _ _ hp => cases hp

end Seeds

end ChangeSet

/-- The set of the transaction has an entry for the row that the transaction has written. -/
def Transaction.Writes (tx : Transaction) (k : Key) : Prop :=
  ∃ c, tx.changes.get? k = some c ∧ c.writeId = tx.id

theorem Transaction.writes_iff_mem_keys {tx : Transaction} {k : Key} :
    tx.Writes k ↔ k ∈ (tx.changes.writtenBy tx.id).entries.keys := by
  constructor
  · rintro ⟨c, hc, hown⟩
    have hget := ChangeSet.get?_writtenBy_eq_some_iff.2 ⟨hc, hown⟩
    exact List.mem_map.2 ⟨c, Keyed.mem_of_get? hget, ChangeSet.key_of_get? hc⟩
  · intro hk
    obtain ⟨c, hc, rfl⟩ := List.mem_map.1 hk
    exact ⟨c, ChangeSet.get?_writtenBy_eq_some_iff.1 (Keyed.get?_of_mem hc)⟩

namespace Baseline

variable {b b' : Baseline} {tx : Transaction}

def Refuses (b : Baseline) (tx : Transaction) (k : Key) (fault : Fault) : Prop :=
  ∃ c, tx.changes.get? k = some c ∧ c.writeId = tx.id ∧
    b.changes.landOne tx.changes.dangling c = .error fault

theorem land_of_commit {report : CommitReport} (h : b.commit tx = .ok (report, b')) :
    tx.isActive = true ∧ b'.lastId = b.lastId ∧
      ∃ l, b.changes.land (tx.changes.writtenBy tx.id) = .ok l ∧ report.removed = l.removed ∧
        b'.changes = l.baseline := by
  simp only [commit] at h
  split at h
  · cases h
  · rename_i hact
    cases hl : b.changes.land (tx.changes.writtenBy tx.id) with
    | error fault => simp only [land, hl] at h; cases h
    | ok l => simp only [land, hl] at h; cases h; exact ⟨by simpa using hact, rfl, l, rfl, rfl, rfl⟩

theorem commit_ok {report : CommitReport} (h : b.commit tx = .ok (report, b')) :
    tx.isActive = true ∧ b'.lastId = b.lastId ∧ ∀ k,
      (∀ c, tx.changes.get? k = some c → c.writeId = tx.id →
        b.changes.landOne tx.changes.dangling c = .ok (b'.changes.get? k)) ∧
      ((∀ c, tx.changes.get? k = some c → c.writeId ≠ tx.id) →
        b'.changes.get? k = b.changes.get? k) := by
  obtain ⟨hact, hid, l, hland, -, hb⟩ := land_of_commit h
  refine ⟨hact, hid, fun k => ?_⟩
  obtain ⟨hin, hout⟩ := ChangeSet.get?_land hland k
  rw [← hb] at hin hout
  refine ⟨fun c hc hid => hin c (ChangeSet.get?_writtenBy_eq_some_iff.2 ⟨hc, hid⟩), fun hno => ?_⟩
  apply hout
  rw [Option.eq_none_iff_forall_ne_some]
  intro c hc
  obtain ⟨hc, hid⟩ := ChangeSet.get?_writtenBy_eq_some_iff.1 hc
  exact hno c hc hid

theorem lands_of_commit {report : CommitReport} {k : Key} {c : Change} (h : b.commit tx = .ok (report, b'))
    (hc : tx.changes.get? k = some c) (hown : c.writeId = tx.id) :
    c.Lands (b.changes.get? k) (b'.changes.get? k) :=
  ChangeSet.lands_of_landOne (ChangeSet.key_of_get? hc) (((commit_ok h).2.2 k).1 c hc hown)

theorem refuses_of_commit_error {fault : Fault} (hact : tx.isActive = true)
    (h : b.commit tx = .error fault) : ∃ k, b.Refuses tx k fault := by
  simp only [commit, hact, Bool.not_true, Bool.false_eq_true, if_false] at h
  cases hl : b.changes.land (tx.changes.writtenBy tx.id) with
  | error fault' =>
      simp only [land, hl] at h
      cases h
      obtain ⟨c, hc, he, -⟩ := ChangeSet.landOne_error_of_land hl
      obtain ⟨hc, hid⟩ := ChangeSet.get?_writtenBy_eq_some_iff.1 hc
      exact ⟨c.key, c, hc, hid, he⟩
  | ok l =>
      simp only [land, hl] at h
      cases h

theorem commit_fails_iff (hact : tx.isActive = true) :
    (∃ fault, b.commit tx = .error fault) ↔ ∃ k fault, b.Refuses tx k fault := by
  constructor
  · rintro ⟨fault, h⟩
    obtain ⟨k, hk⟩ := refuses_of_commit_error hact h
    exact ⟨k, fault, hk⟩
  · rintro ⟨k, fault, c, hc, hid, he⟩
    cases h : b.commit tx with
    | error fault' => exact ⟨fault', rfl⟩
    | ok landed => simp [((commit_ok h).2.2 k).1 c hc hid] at he

theorem land_of_seed {rows : List Row} {n : Nat} (h : b.seed rows = .ok (n, b')) :
    b'.lastId = b.lastId ∧ ∃ l, b'.changes = l.baseline ∧
      b.changes.land (.seeds rows b.changes.dangling) = .ok l := by
  simp only [seed] at h
  cases hl : b.changes.land ⟨.ofList (rows.map (Change.seeded · 0)), b.changes.dangling⟩ with
  | error fault => simp only [land, hl] at h; cases h
  | ok l => simp only [land, hl] at h; cases h; exact ⟨rfl, l, rfl, hl⟩

theorem seed_ok {rows : List Row} {n : Nat} (h : b.seed rows = .ok (n, b')) :
    b'.lastId = b.lastId ∧ ∀ k,
      (k ∈ rows.map Row.key → ∃ row ∈ rows, row.key = k ∧
        (Change.seeded row 0).Lands (b.changes.get? k) (b'.changes.get? k)) ∧
      (k ∉ rows.map Row.key → b'.changes.get? k = b.changes.get? k) := by
  obtain ⟨hid, l, hb, hland⟩ := land_of_seed h
  refine ⟨hid, fun k => ?_⟩
  obtain ⟨hin, hout⟩ := ChangeSet.get?_land hland k
  rw [← hb] at hin hout
  refine ⟨fun hk => ?_, fun hk => hout (ChangeSet.get?_seeds_of_not_mem hk)⟩
  obtain ⟨row, hrow, hkey, -, hseed⟩ := ChangeSet.get?_seeds_of_mem b.changes.dangling hk
  exact ⟨row, hrow, hkey, ChangeSet.lands_of_landOne hkey (hin _ hseed)⟩

end Baseline

end TrackedRows
