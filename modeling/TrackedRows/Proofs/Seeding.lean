import Mathlib.Data.List.Dedup
import TrackedRows.Proofs.Grounded
import TrackedRows.Proofs.Overlay

namespace TrackedRows

theorem Keyed.mem_keys_ofList {α κ : Type} [Ord κ] [Std.TransOrd κ] [Std.LawfulEqOrd κ] [DecidableEq κ]
    {key : α → κ} {l : List α} {k : κ} : k ∈ (ofList l : Keyed key).keys ↔ k ∈ l.map key := by
  have hnone : (ofList l : Keyed key).get? k = none ↔ k ∉ l.map key :=
    get?_putAll_eq_none_iff.trans (by simp)
  rw [keys, ← not_iff_not, ← hnone, get?_eq_none_iff]
  simp

/-- Values with the same key count once. -/
theorem Keyed.size_ofList {α κ : Type} [Ord κ] [Std.TransOrd κ] [Std.LawfulEqOrd κ] [DecidableEq κ]
    {key : α → κ} (l : List α) : (ofList l : Keyed key).size = (l.map key).dedup.length := by
  have hperm : (ofList l : Keyed key).keys.Perm (l.map key).dedup := by
    apply (List.perm_ext_iff_of_nodup (nodup_keys _) (List.nodup_dedup _)).2
    intro k
    rw [mem_keys_ofList, List.mem_dedup]
  simpa [keys, size] using hperm.length_eq

namespace ChangeSet

variable {s : ChangeSet} {rows : List Row}

/-- A row found in storage may enter over one that was found there too, or as a new row whose key does
not dangle. -/
def isOpenTo (s : ChangeSet) (k : Key) : Bool :=
  match s.get? k with
  | some c => c.readId = 0
  | none => !s.excludes k

theorem write_seeded (hs : ∀ k c, s.get? k = some c → ∃ row, c = .seeded row 0) (row : Row) :
    s.write (.seeded row 0) = .ok (s.put (.seeded row 0)) := by
  cases hold : s.get? (Change.seeded row 0).key with
  | none => simp only [write, hold]
  | some old =>
      obtain ⟨row', rfl⟩ := hs _ _ hold
      have hsame : ¬ (Change.seeded row' 0).writeId ≠ (Change.seeded row 0).writeId := fun h => h rfl
      have habsorb : (Change.seeded row' 0).absorb (.seeded row 0) .transaction =
          .ok (some (.seeded row 0)) := rfl
      simp only [write, hold, if_neg hsame, habsorb]
      rfl

/-- It makes no difference that the rows are put into the set at once: they can as well be written one
after the other, each over the one before it with its key. -/
theorem foldlM_write_seeded (rows : List Row) :
    rows.foldlM (fun s row => s.write (.seeded row 0)) empty = .ok (seeds rows .empty) := by
  have hfold : ∀ (s : ChangeSet), (∀ k c, s.get? k = some c → ∃ row, c = .seeded row 0) →
      rows.foldlM (fun s row => s.write (.seeded row 0)) s =
        .ok ⟨s.entries.putAll (rows.map (Change.seeded · 0)), s.dangling⟩ := by
    induction rows with
    | nil => exact fun _ _ => rfl
    | cons row rows ih =>
        intro s hs
        rw [List.foldlM_cons, write_seeded hs]
        apply ih (s.put (.seeded row 0))
        intro k c hc
        rw [get?_put] at hc
        split at hc
        · cases hc
          exact ⟨row, rfl⟩
        · exact hs k c hc
  exact hfold empty fun k c hc => by cases hc

theorem admits_seeded (s : ChangeSet) (rows : List Row) (row : Row) :
    s.admits (seeds rows s.dangling) (.seeded row 0) = s.isOpenTo (Change.seeded row 0).key := by
  rw [admits, isOpenTo]
  cases s.get? (Change.seeded row 0).key with
  | none => simp [Change.seeded, excludes, seeds]
  | some old => simp [Change.seeded, UInt64.le_zero_iff]

theorem exists_land_seeds_iff :
    (∃ l, s.land (seeds rows s.dangling) = .ok l) ↔ ∀ row ∈ rows, s.isOpenTo row.key = true := by
  rw [exists_land_iff]
  constructor
  · intro hadmits row hrow
    obtain ⟨last, -, hkey, -, hlast⟩ := get?_seeds_of_mem s.dangling (List.mem_map_of_mem hrow)
    have hlands := hadmits (.seeded last 0) (hkey ▸ hlast)
    rwa [admits_seeded, hkey] at hlands
  · intro hopen c hc
    obtain ⟨row, hrow, rfl⟩ := seeded_of_get? hc
    rw [admits_seeded]
    exact hopen row hrow

/-- The first row that may not enter is the one that is reported. -/
theorem refusal_of_land_seeds {fault : Fault} (h : s.land (seeds rows s.dangling) = .error fault) :
    ∃ row ∈ rows, s.isOpenTo row.key = false ∧ fault = s.refusal (.seeded row 0) ∧
      ∀ other ∈ rows, compare other.key row.key = .lt → s.isOpenTo other.key = true := by
  obtain ⟨c, hc, hrefused, hfault, hbelow⟩ := refusal_of_land h
  obtain ⟨row, hrow, rfl⟩ := seeded_of_get? hc
  refine ⟨row, hrow, (admits_seeded s rows row).symm.trans hrefused, hfault, fun other hother hlt => ?_⟩
  obtain ⟨last, -, hkey, -, hlast⟩ := get?_seeds_of_mem s.dangling (List.mem_map_of_mem hother)
  have hlands := hbelow (.seeded last 0) (hkey ▸ hlast) (hkey ▸ hlt)
  rwa [admits_seeded, hkey] at hlands

end ChangeSet

theorem Baseline.seed_eq (b : Baseline) (rows : List Row) : b.seed rows =
    (b.changes.land (.seeds rows b.changes.dangling)).map fun l =>
      ((rows.map Row.key).dedup.length, { b with changes := l.baseline }) := by
  have hsize : (Keyed.ofList (rows.map (Change.seeded · 0)) : Keyed Change.key).size =
      (rows.map Row.key).dedup.length := by
    rw [Keyed.size_ofList, List.map_map]
    rfl
  simp only [seed, land, hsize]
  rw [show ChangeSet.mk (.ofList (rows.map (Change.seeded · 0))) b.changes.dangling =
    .seeds rows b.changes.dangling from rfl]
  cases b.changes.land (.seeds rows b.changes.dangling) <;> rfl

theorem Baseline.exists_seed_iff_isOpenTo {b : Baseline} {rows : List Row} :
    (∃ seeded, b.seed rows = .ok seeded) ↔ ∀ row ∈ rows, b.changes.isOpenTo row.key = true := by
  rw [seed_eq, ← ChangeSet.exists_land_seeds_iff]
  cases b.changes.land (.seeds rows b.changes.dangling) <;> simp [Except.map]

namespace Session

variable {s : Session} {rows : List Row}

theorem seed_of_land_ok {l : Landing}
    (hl : s.baseline.changes.land (.seeds rows s.baseline.changes.dangling) = .ok l) :
    s.seed rows = (.ok (rows.map Row.key).dedup.length,
      { s with baseline := { s.baseline with changes := l.baseline } }) := by
  rw [seed, Baseline.seed_eq, hl]
  rfl

theorem seed_of_land_error {fault : Fault}
    (hl : s.baseline.changes.land (.seeds rows s.baseline.changes.dangling) = .error fault) :
    s.seed rows = (.error fault, s) := by
  rw [seed, Baseline.seed_eq, hl]
  rfl

end Session

namespace Scene

variable {s : Scene} {rows : List Row} {l : Landing} {k : Key}

/-- A row that enters from storage takes the place of one that is as storage had it, and that no
transaction has written. -/
theorem Reachable.get?_of_land_seeds (h : s.Reachable)
    (hl : s.baseline.changes.land (.seeds rows s.baseline.changes.dangling) = .ok l)
    (hk : k ∈ rows.map Row.key) :
    (∀ c, s.entry? k = some c → c.isSettled = true ∧ c.writeId = 0) ∧
      ∃ row, rows.reverse.find? (·.key = k) = some row ∧ l.baseline.get? k = some (.seeded row 0) := by
  obtain ⟨row, -, -, hlast, hseed⟩ := ChangeSet.get?_seeds_of_mem s.baseline.changes.dangling hk
  have hopen : s.baseline.changes.isOpenTo k = true := by
    obtain ⟨row, hrow, rfl⟩ := List.mem_map.1 hk
    exact ChangeSet.exists_land_seeds_iff.1 ⟨l, hl⟩ row hrow
  have hfound : ∀ c, s.entry? k = some c → c.isSettled = true ∧ c.writeId = 0 := by
    intro c hc
    have hread : c.readId = 0 := by
      rw [ChangeSet.isOpenTo, show s.baseline.changes.get? k = some c from hc] at hopen
      simpa using hopen
    have hwrite : c.writeId = 0 := (h.sound.committed k c hc).1.readId_eq.symm.trans hread
    exact ⟨h.grounded.settled k c hc hwrite, hwrite⟩
  refine ⟨hfound, row, hlast, ?_⟩
  rw [ChangeSet.get?_baseline, ChangeSet.get?_merged hl, hseed]
  cases hold : s.baseline.changes.get? k with
  | none => rfl
  | some old =>
      have hsettled := (hfound old hold).1
      simp only [Change.isSettled, Bool.and_eq_true] at hsettled
      simp [Change.merged, Change.seeded, hsettled.1]

/-- Rows found in storage enter the baseline all or none. If each may, the last of those with one key is
what the baseline has for it afterwards, and nothing that is pending or that a transaction has written
is touched. Otherwise the baseline stays as it is, and the first row that may not enter is reported. -/
theorem Reachable.seed_is_all_or_nothing (h : s.Reachable) (rows : List Row) :
    let before := s.baseline.changes
    let after := (s.session.seed rows).2.baseline.changes
    ((∃ count, (s.session.seed rows).1 = .ok count) ↔ ∀ row ∈ rows, before.isOpenTo row.key = true) ∧
    (∀ count, (s.session.seed rows).1 = .ok count →
      count = (rows.map Row.key).dedup.length ∧
      (∀ k ∈ rows.map Row.key, ∃ row, rows.reverse.find? (·.key = k) = some row ∧
        after.get? k = some (.seeded row 0)) ∧
      (∀ k, k ∉ rows.map Row.key → after.get? k = before.get? k) ∧
      after.dangling = before.dangling ∧
      ∀ k c, before.get? k = some c → c.isSettled = false ∨ c.writeId ≠ 0 → after.get? k = some c) ∧
    ∀ fault, (s.session.seed rows).1 = .error fault → (s.session.seed rows).2 = s.session ∧
      ∃ row ∈ rows, before.isOpenTo row.key = false ∧
        (∀ other ∈ rows, compare other.key row.key = .lt → before.isOpenTo other.key = true) ∧
        fault = match before.get? row.key with
          | some c => .conflict row.key.label c.readId 0
          | none => .missingRow row.key.label := by
  intro before after
  cases hl : before.land (.seeds rows before.dangling) with
  | ok l =>
      have hsession := Session.seed_of_land_ok hl
      have hafter : after = l.baseline := congrArg (·.2.baseline.changes) hsession
      have hout : ∀ k, k ∉ rows.map Row.key → after.get? k = before.get? k := by
        intro k hk
        rw [hafter]
        exact (ChangeSet.get?_land hl k).2 (ChangeSet.get?_seeds_of_not_mem hk)
      rw [hsession]
      refine ⟨iff_of_true ⟨_, rfl⟩ (ChangeSet.exists_land_seeds_iff.1 ⟨l, hl⟩), fun count hcount => ?_,
        fun fault hfault => by cases hfault⟩
      cases hcount
      refine ⟨rfl, fun k hk => ?_, hout, ?_, fun k c hc htracked => ?_⟩
      · rw [hafter]
        exact (h.get?_of_land_seeds hl hk).2
      · rw [hafter, Landing.baseline, ChangeSet.removed_land_seeds hl]
        exact (ChangeSet.dangling_and_removed_of_land hl).1
      · rw [hout k, hc]
        intro hk
        obtain ⟨hsettled, hzero⟩ := (h.get?_of_land_seeds hl hk).1 c hc
        rcases htracked with hunsettled | hwritten
        · cases hunsettled.symm.trans hsettled
        · exact hwritten hzero
  | error fault =>
      have hclosed : ¬ ∀ row ∈ rows, before.isOpenTo row.key = true := fun hopen => by
        obtain ⟨l, hl'⟩ := ChangeSet.exists_land_seeds_iff.2 hopen
        cases hl.symm.trans hl'
      rw [Session.seed_of_land_error hl]
      refine ⟨iff_of_false ?_ hclosed, fun count hcount => ?_, fun fault' he => ⟨rfl, ?_⟩⟩
      · rintro ⟨count, hcount⟩
        cases hcount
      · cases hcount
      · cases he
        obtain ⟨row, hrow, hrefused, rfl, hbelow⟩ := ChangeSet.refusal_of_land_seeds hl
        exact ⟨row, hrow, hrefused, hbelow, rfl⟩

end Scene

/-- A row found in storage is found there twice more, while a transaction has written another. -/
theorem rows_found_again_enter_unless_written :
    let plan : List Happening := [.act (.seed [.sample 1]), .act (.begin "a"),
      .act (.edit "a" (.insert (.blank (.number 2)))), .act (.commit "a")]
    let s := (Scene.blank.play plan).2
    let entered := s.session.seed [.sample 2, .sample 3]
    let refused := s.session.seed [.blank (.number 2), .sample 2]
    s.Reachable ∧ entered.1 = .ok 1 ∧
      entered.2.baseline.changes.get? (.number 1) = some (.seeded (.sample 3) 0) ∧
      entered.2.baseline.changes.get? (.number 2) = some (.inserted (.blank (.number 2)) 1) ∧
      refused.1 = .error (.conflict "Int(2)" 1 0) ∧ refused.2 = s.session := by
  intro plan s entered refused
  have hreach : s.Reachable := Scene.reachable_of_play (by decide)
  have hok : entered.1 = .ok 1 := rfl
  have hfault : refused.1 = .error (.conflict "Int(2)" 1 0) := rfl
  obtain ⟨-, hentered, -⟩ := hreach.seed_is_all_or_nothing [.sample 2, .sample 3]
  obtain ⟨-, hlisted, -, -, hkept⟩ := hentered 1 hok
  obtain ⟨-, -, hrefused⟩ := hreach.seed_is_all_or_nothing [.blank (.number 2), .sample 2]
  obtain ⟨row, hlast, hrow⟩ := hlisted (.number 1) (by decide)
  cases hlast
  exact ⟨hreach, hok, hrow, hkept _ _ (by decide) (.inl rfl), hfault, (hrefused _ hfault).1⟩

end TrackedRows
