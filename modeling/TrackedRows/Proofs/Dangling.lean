import TrackedRows.Proofs.Step

namespace TrackedRows

namespace ChangeSet

variable {s t incoming : ChangeSet} {c : Change} {k : Key}

theorem excludes_exclude (s : ChangeSet) (j k : Key) :
    (s.exclude j).excludes k = (k = j || s.excludes k) := by
  simp only [excludes, exclude, Keyed.contains, Keyed.get?_put, id]
  by_cases hk : k = j <;> simp [hk]

theorem excludes_readmitted (s : ChangeSet) (j k : Key) :
    (s.readmit j).excludes k = (k ≠ j && s.excludes k) := by
  simp only [excludes, readmit, Keyed.contains, Keyed.get?_erase]
  by_cases hk : k = j <;> simp [hk]

theorem excludes_foldl_exclude (l : List Key) (s : ChangeSet) (k : Key) :
    (l.foldl exclude s).excludes k = true ↔ k ∈ l ∨ s.excludes k = true := by
  induction l generalizing s with
  | nil => simp
  | cons j l ih =>
      rw [List.foldl_cons, ih, excludes_exclude]
      simp only [List.mem_cons, Bool.or_eq_true, decide_eq_true_eq]
      exact or_left_comm.trans or_assoc.symm

/-- The dangling keys are those of the set that lands, and those of the rows it cancels. -/
theorem excludes_land {l : Landing} (h : s.land incoming = .ok l) (k : Key) :
    l.baseline.excludes k = true ↔ k ∈ l.removed ∨ incoming.excludes k = true := by
  rw [Landing.baseline, excludes_foldl_exclude, excludes, (dangling_and_removed_of_land h).1]
  rfl

/-- A row that is new to a set does not land on it if its key dangles. -/
theorem not_excludes_of_land {l : Landing} (h : s.land incoming = .ok l) (hnone : s.get? k = none)
    (hsome : l.baseline.get? k ≠ none) : incoming.excludes k = false := by
  obtain ⟨hin, hout⟩ := get?_land h k
  cases hc : incoming.get? k with
  | none => exact absurd ((hout hc).trans hnone) hsome
  | some c =>
      have hkey : c.key = k := key_of_get? hc
      have hone := hin c hc
      simp only [landOne, hkey, hnone] at hone
      split at hone
      · rename_i hnew
        simp only [Bool.and_eq_true, Bool.not_eq_true'] at hnew
        exact hnew.2
      · cases hone

theorem dangling_write (h : s.write c = .ok t) : t.dangling = s.dangling := by
  simp only [write] at h
  split at h
  · cases h; rfl
  · rename_i old _
    split at h
    · cases h; rfl
    · cases ha : old.absorb c .transaction with
      | error fault => rw [ha] at h; cases h
      | ok o =>
          rw [ha] at h
          cases o <;> cases h <;> rfl

theorem excludes_reconcileOne (s : ChangeSet) (id : Stamp) (taken : Change) (k : Key) :
    (s.reconcileOne id taken).excludes k =
      if k = taken.key then s.excludes k && !((s.get? k).isNone && taken.isLive) else s.excludes k := by
  have hreadmitted : (s.reconcileOne id taken).excludes k =
      (if !s.entries.contains taken.key && taken.isLive then s.readmit taken.key else s).excludes k := by
    simp only [reconcileOne]
    cases taken.reconciled id (s.get? taken.key) <;> rfl
  rw [hreadmitted]
  by_cases hk : k = taken.key
  · subst hk
    cases hc : s.get? taken.key <;> cases hl : taken.isLive <;>
      simp_all [get?, Keyed.contains, excludes_readmitted]
  · split <;> simp [excludes_readmitted, hk]

/-- The key is that of a row which is brought back to leave storage again. -/
def Recalls (s : ChangeSet) (batch : List Change) (k : Key) : Prop :=
  s.get? k = none ∧ ∃ taken ∈ batch, taken.key = k ∧ taken.isLive = true

theorem excludes_foldl_reconcileOne {batch : List Change} (hd : (batch.map Change.key).Nodup)
    (s : ChangeSet) (id : Stamp) (k : Key) :
    (batch.foldl (fun s taken => s.reconcileOne id taken) s).excludes k = true ↔
      s.excludes k = true ∧ ¬ s.Recalls batch k := by
  have hstep : ∀ taken ∈ batch, ∀ (s : ChangeSet) (k : Key),
      ((s.reconcileOne id taken).get? k, (s.reconcileOne id taken).excludes k) =
        if k = taken.key then
          (taken.reconciled id (s.get? k), s.excludes k && !((s.get? k).isNone && taken.isLive))
        else (s.get? k, s.excludes k) := fun taken _ s k => by
    rw [get?_reconcileOne, excludes_reconcileOne]
    split <;> rfl
  obtain ⟨hin, hout⟩ := lookup_foldl (fun (s : ChangeSet) k => (s.get? k, s.excludes k))
    (fun taken p => (taken.reconciled id p.1, p.2 && !(p.1.isNone && taken.isLive))) hd hstep s
  by_cases hrecalls : s.Recalls batch k
  · refine ⟨fun h => ?_, fun h => absurd hrecalls h.2⟩
    obtain ⟨hnone, taken, ht, rfl, hl⟩ := hrecalls
    have hfreed := congrArg Prod.snd (hin taken ht)
    simp [hnone, hl, h] at hfreed
  · have hkept : (batch.foldl (fun s taken => s.reconcileOne id taken) s).excludes k = s.excludes k := by
      by_cases hk : k ∈ batch.map Change.key
      · obtain ⟨taken, ht, rfl⟩ := List.mem_map.1 hk
        have hlive : ((s.get? taken.key).isNone && taken.isLive) = false := by
          cases hc : s.get? taken.key with
          | some c => rfl
          | none => simpa using fun hl => hrecalls ⟨hc, taken, ht, rfl, hl⟩
        have hfreed := congrArg Prod.snd (hin taken ht)
        dsimp only at hfreed
        rw [hfreed, hlive, Bool.not_false, Bool.and_true]
      · exact congrArg Prod.snd (hout k hk)
    simp [hkept, hrecalls]

/-- A batch frees the keys of rows that are brought back, and all keys if nothing is left pending. -/
theorem excludes_reconcile {batch : List Change} (hd : (batch.map Change.key).Nodup) (s : ChangeSet)
    (id : Stamp) (k : Key) : (s.reconcile batch id).1.excludes k = true ↔
      s.excludes k = true ∧ ¬ s.Recalls batch k ∧ (s.reconcile batch id).1.isSettled = false := by
  have hfold := excludes_foldl_reconcileOne hd s id k
  rw [fst_reconcile]
  dsimp only
  generalize batch.foldl (fun s taken => s.reconcileOne id taken) s = t at hfold ⊢
  cases ht : t.isSettled with
  | true =>
      have hempty : ({ t with dangling := .empty } : ChangeSet).excludes k = false := rfl
      have hsettled : ({ t with dangling := .empty } : ChangeSet).isSettled = true := ht
      simp [hempty, hsettled]
  | false => simp [ht, hfold]

end ChangeSet

theorem Transaction.excludes_edit {tx tx' : Transaction} {e : Edit} (h : tx.edit e = .ok tx') (k : Key) :
    tx'.changes.excludes k = true ↔
      tx.changes.excludes k = true ∧ (k = e.key → tx.changes.get? k ≠ none) := by
  have hadd : ∀ {s c}, tx.add s c = .ok tx' → tx'.changes.excludes k = s.excludes k := fun ha => by
    rw [ChangeSet.excludes, ChangeSet.dangling_write (add_ok ha).2.2]
    rfl
  obtain ⟨-, ⟨row, rfl, hins⟩ | ⟨c, row, p, -, hc, -, hrewrite⟩⟩ := edit_cases h
  · simp only [insert] at hins
    split at hins
    · rename_i hnone
      rw [hadd hins, ChangeSet.excludes_readmitted]
      by_cases hk : k = row.key
      · simp [hk, Edit.key, hnone]
      · simp [hk, Edit.key]
    · rename_i c hc
      split at hins
      · cases hins
      · rw [hadd hins]
        exact ⟨fun hx => ⟨hx, fun hk => by rw [hk, Edit.key, hc]; simp⟩, And.left⟩
  · rw [hadd hrewrite]
    exact ⟨fun hx => ⟨hx, fun hk => by rw [hk, (entry_ok hc).1]; simp⟩, And.left⟩

namespace Baseline

variable {b b' : Baseline} {tx : Transaction} {report : CommitReport} {k : Key}

theorem excludes_of_commit (h : b.commit tx = .ok (report, b')) (k : Key) :
    b'.changes.excludes k = true ↔ k ∈ report.removed ∨ tx.changes.excludes k = true := by
  obtain ⟨-, -, l, hl, hremoved, hchanges⟩ := land_of_commit h
  rw [hremoved, hchanges]
  exact ChangeSet.excludes_land hl k

theorem of_mem_removed (h : b.commit tx = .ok (report, b')) (hk : k ∈ report.removed) :
    tx.Writes k ∧ b'.changes.get? k = none := by
  obtain ⟨-, -, l, hl, hremoved, hchanges⟩ := land_of_commit h
  obtain ⟨c, hc, hnone⟩ := (ChangeSet.dangling_and_removed_of_land hl).2 k (hremoved ▸ hk)
  refine ⟨⟨c, ChangeSet.get?_writtenBy_eq_some_iff.1 hc⟩, ?_⟩
  rw [hchanges]
  exact (Except.ok.inj (hnone.symm.trans ((ChangeSet.get?_land hl k).1 c hc))).symm

/-- A row that a commit puts into the baseline does not dangle. -/
theorem not_excludes_of_commit (h : b.commit tx = .ok (report, b')) (hnone : b.changes.get? k = none)
    (hsome : b'.changes.get? k ≠ none) : b'.changes.excludes k = false := by
  have hremoved : k ∉ report.removed := fun hk => hsome (of_mem_removed h hk).2
  have hadmitted : tx.changes.excludes k = false := by
    obtain ⟨-, -, l, hl, -, hchanges⟩ := land_of_commit h
    have hland := ChangeSet.not_excludes_of_land hl hnone (hchanges ▸ hsome)
    exact hland
  have hiff := excludes_of_commit h k
  simpa [hremoved, hadmitted] using hiff

theorem excludes_of_seed {rows : List Row} {n : Nat} (h : b.seed rows = .ok (n, b')) (k : Key) :
    b'.changes.excludes k = b.changes.excludes k := by
  obtain ⟨-, l, hb, hland⟩ := land_of_seed h
  have hremoved : k ∉ l.removed := by
    rw [ChangeSet.removed_land_seeds hland]
    exact List.not_mem_nil
  rw [hb]
  exact Bool.eq_iff_iff.2 ((ChangeSet.excludes_land hland k).trans (or_iff_right hremoved))

theorem not_excludes_of_seed {rows : List Row} {n : Nat} (h : b.seed rows = .ok (n, b'))
    (hnone : b.changes.get? k = none) (hsome : b'.changes.get? k ≠ none) :
    b'.changes.excludes k = false := by
  rw [excludes_of_seed h]
  obtain ⟨-, l, hb, hl⟩ := land_of_seed h
  have hland := ChangeSet.not_excludes_of_land hl hnone (hb ▸ hsome)
  exact hland

end Baseline

end TrackedRows
