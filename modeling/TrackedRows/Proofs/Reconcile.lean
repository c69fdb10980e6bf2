import TrackedRows.Proofs.Landing

namespace TrackedRows

namespace Change

variable {taken c d : Change} {id : Stamp}

theorem reconciled_none_of_isLive (h : taken.isLive = true) :
    taken.reconciled id none = some (condemned taken.row id) := by
  simp [reconciled, h]

theorem reconciled_self (c : Change) (id : Stamp) :
    c.reconciled id (some c) = if c.isLive then some c.settled else none := by
  simp [reconciled, sameVersion]

/-- An entry that outlives the batch keeps its row, its stamps and whether it is live. -/
theorem of_reconciled_eq_some (h : taken.reconciled id (some c) = some d) :
    d.row = c.row ∧ d.readId = c.readId ∧ d.writeId = c.writeId ∧ d.isLive = c.isLive ∧
      (d.isStored = false → d.pending = .insert) := by
  simp only [reconciled] at h
  split at h
  · split at h
    · cases h
      simp_all [settled, isLive]
    · cases h
  · split at h
    · cases h
      refine ⟨rfl, rfl, rfl, ?_, by simp⟩
      cases hp : c.pending <;> simp [isLive, hp]
    · split at h
      · cases h
        simp_all [isLive]
      · cases h

theorem not_isLive_of_reconciled_eq_none (h : taken.reconciled id (some c) = none) :
    c.isLive = false := by
  simp only [reconciled] at h
  split at h
  · simpa using h
  · split at h <;> simp_all

theorem not_isLive_of_reconciled_other (h : taken.reconciled id (some c) = none)
    (hne : c.sameVersion taken = false) : taken.isLive = false := by
  simp only [reconciled, hne, Bool.false_eq_true, if_false] at h
  split at h
  · cases h
  · rename_i hl
    simpa using hl

theorem isSettled_of_reconciled (h : taken.reconciled id (some c) = some d) (hl : taken.isLive = true)
    (hc : c.isSettled = true) : d.isSettled = true := by
  simp only [reconciled, hl, if_true] at h
  split at h
  · split at h
    · cases h
      rfl
    · cases h
  · cases h
    simp only [isSettled, Bool.and_eq_true, decide_eq_true_eq] at hc
    simp [isSettled, hc.2]

/-- Readers do not see a batch go to storage. -/
theorem live?_reconciled (taken : Change) (id : Stamp) (o : Option Change) :
    (taken.reconciled id o).bind live? = o.bind live? := by
  cases o with
  | none =>
      simp only [reconciled]
      split
      · rfl
      · rfl
  | some c =>
      cases hr : taken.reconciled id (some c) with
      | none => simp [live?, not_isLive_of_reconciled_eq_none hr]
      | some d =>
          obtain ⟨hrow, -, -, hlive, -⟩ := of_reconciled_eq_some hr
          simp [live?, hrow, hlive]

theorem key_of_reconciled {o : Option Change} (ho : ∀ c, o = some c → c.key = taken.key)
    (h : taken.reconciled id o = some d) : d.key = taken.key := by
  cases o with
  | none =>
      simp only [reconciled] at h
      split at h
      · cases h; rfl
      · cases h
  | some c => exact (congrArg Row.key (of_reconciled_eq_some h).1).trans (ho c rfl)

end Change

namespace ChangeSet

theorem mem_unsettled_iff {s : ChangeSet} {c : Change} :
    c ∈ s.unsettled ↔ s.get? c.key = some c ∧ c.isSettled = false := by
  rw [unsettled, List.mem_filter, get?, Keyed.get?_eq_some_iff]
  simp

theorem get?_reconcileOne (s : ChangeSet) (id : Stamp) (taken : Change) (k : Key) :
    (s.reconcileOne id taken).get? k =
      if k = taken.key then taken.reconciled id (s.get? k) else s.get? k := by
  have hs : ∀ b : Bool, (if b then s.readmit taken.key else s).get? k = s.get? k := by
    intro b
    cases b <;> rfl
  simp only [reconcileOne]
  split
  · rename_i c hc
    rw [get?_put, Change.key_of_reconciled (fun _ => key_of_get?) hc, hs, ← hc]
    split
    · rename_i hk
      rw [hk]
    · rfl
  · rename_i hnone
    rw [get?_drop, hs, ← hnone]
    split
    · rename_i hk
      rw [hk]
    · rfl

theorem get?_foldl_reconcileOne {batch : List Change} (hd : (batch.map Change.key).Nodup)
    (s : ChangeSet) (id : Stamp) :
    (∀ taken ∈ batch, (batch.foldl (fun s taken => s.reconcileOne id taken) s).get? taken.key =
        taken.reconciled id (s.get? taken.key)) ∧
      ∀ k, k ∉ batch.map Change.key →
        (batch.foldl (fun s taken => s.reconcileOne id taken) s).get? k = s.get? k :=
  lookup_foldl get? (fun taken o => taken.reconciled id o) hd
    (fun taken _ s k => get?_reconcileOne s id taken k) s

theorem reconcile_eq (s : ChangeSet) (batch : List Change) (id : Stamp) :
    s.reconcile batch id =
      let r := batch.foldl (fun (r : ChangeSet × Nat) taken =>
        (r.1.reconcileOne id taken, r.2 + (r.1.isUntouched taken).toNat)) (s, 0)
      (if r.1.isSettled then { r.1 with dangling := .empty } else r.1, r.2) := rfl

theorem fst_reconcile (s : ChangeSet) (batch : List Change) (id : Stamp) :
    (s.reconcile batch id).1 =
      let t := batch.foldl (fun s taken => s.reconcileOne id taken) s
      if t.isSettled then { t with dangling := .empty } else t := by
  have hfst : ∀ r : ChangeSet × Nat, (batch.foldl (fun r taken =>
      (r.1.reconcileOne id taken, r.2 + (r.1.isUntouched taken).toNat)) r).1 =
        batch.foldl (fun s taken => s.reconcileOne id taken) r.1 := by
    induction batch with
    | nil => exact fun _ => rfl
    | cons taken batch ih => exact fun r => ih _
  rw [reconcile_eq]
  simp only [hfst]

/-- Each change of the batch is compared with the entry that its row had before. -/
theorem snd_reconcile {batch : List Change} (hd : (batch.map Change.key).Nodup) (s : ChangeSet)
    (id : Stamp) : (s.reconcile batch id).2 = batch.countP s.isUntouched := by
  have hsnd : ∀ r : ChangeSet × Nat, (batch.foldl (fun r taken =>
      (r.1.reconcileOne id taken, r.2 + (r.1.isUntouched taken).toNat)) r).2 =
        r.2 + batch.countP r.1.isUntouched := by
    induction batch with
    | nil => exact fun _ => rfl
    | cons taken batch ih =>
        intro r
        obtain ⟨hnew, hd⟩ := List.nodup_cons.1 hd
        have hsame : batch.countP (r.1.reconcileOne id taken).isUntouched = batch.countP r.1.isUntouched := by
          refine List.countP_congr fun w hw => ?_
          have hk : w.key ≠ taken.key := fun hk => hnew (hk ▸ List.mem_map_of_mem hw)
          rw [isUntouched, isUntouched, get?_reconcileOne, if_neg hk]
        rw [List.foldl_cons, ih hd, hsame, List.countP_cons]
        cases r.1.isUntouched taken with
        | true => exact (Nat.add_right_comm ..)
        | false => rfl
  exact (hsnd (s, 0)).trans (Nat.zero_add _)

theorem get?_reconcile (s : ChangeSet) (batch : List Change) (id : Stamp) (k : Key) :
    (s.reconcile batch id).1.get? k =
      (batch.foldl (fun s taken => s.reconcileOne id taken) s).get? k := by
  rw [fst_reconcile]
  dsimp only
  split
  · rfl
  · rfl

end ChangeSet

namespace Baseline

variable {b : Baseline} {batch : List Change}

theorem get?_reconcile_of_mem (hd : (batch.map Change.key).Nodup) {taken : Change}
    (ht : taken ∈ batch) : (b.reconcile batch).2.changes.get? taken.key =
      taken.reconciled (b.reconcile batch).2.lastId (b.changes.get? taken.key) :=
  (ChangeSet.get?_reconcile ..).trans ((ChangeSet.get?_foldl_reconcileOne hd ..).1 taken ht)

theorem get?_reconcile_of_not_mem (hd : (batch.map Change.key).Nodup) {k : Key}
    (hk : k ∉ batch.map Change.key) :
    (b.reconcile batch).2.changes.get? k = b.changes.get? k :=
  (ChangeSet.get?_reconcile ..).trans ((ChangeSet.get?_foldl_reconcileOne hd ..).2 k hk)

theorem lastId_reconcile (b : Baseline) (batch : List Change) :
    (b.reconcile batch).2.lastId = if b.hasOrphan batch then b.lastId + 1 else b.lastId := rfl

theorem hasOrphan_of_mem {taken : Change} (ht : taken ∈ batch) (hl : taken.isLive = true)
    (hnone : b.changes.get? taken.key = none) : b.hasOrphan batch = true := by
  rw [hasOrphan, List.any_eq_true]
  refine ⟨taken, ht, ?_⟩
  have hn : b.changes.entries.get? taken.key = none := hnone
  simp [hl, Keyed.contains, hn]

end Baseline

end TrackedRows
