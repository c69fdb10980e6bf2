import TrackedRows.Proofs.Landing

namespace TrackedRows

namespace ChangeSet

variable {s t : ChangeSet} {c : Change}

theorem get?_write_of_ne (h : s.write c = .ok t) {k : Key} (hk : k ≠ c.key) :
    t.get? k = s.get? k := by
  simp only [write] at h
  split at h
  · cases h
    rw [get?_put, if_neg hk]
  · rename_i old _
    split at h
    · cases h
      rw [get?_put, if_neg hk]
    · cases ha : old.absorb c .transaction with
      | error fault => rw [ha] at h; cases h
      | ok o =>
          rw [ha] at h
          cases o with
          | none => cases h; rw [get?_drop, if_neg hk]
          | some d =>
              cases h
              rw [get?_put, Change.key_of_absorb ha, if_neg hk]

theorem get?_write_of_foreign (h : s.write c = .ok t)
    (hf : ∀ old, s.get? c.key = some old → old.writeId ≠ c.writeId) : t.get? c.key = some c := by
  simp only [write] at h
  split at h
  · cases h
    rw [get?_put, if_pos rfl]
  · rename_i old hold
    rw [if_pos (hf old hold)] at h
    cases h
    rw [get?_put, if_pos rfl]

theorem get?_write_of_own (h : s.write c = .ok t) {old : Change} (hold : s.get? c.key = some old)
    (hown : old.writeId = c.writeId) : old.absorb c .transaction = .ok (t.get? c.key) := by
  simp only [write, hold, hown, ne_eq, not_true_eq_false, if_false] at h
  cases ha : old.absorb c .transaction with
  | error fault => rw [ha] at h; cases h
  | ok o =>
      rw [ha] at h
      cases o with
      | none => cases h; rw [get?_drop, if_pos rfl]
      | some d =>
          cases h
          rw [get?_put, Change.key_of_absorb ha, if_pos rfl]

end ChangeSet

/-- What one successful edit makes of the entry of its row, in the hands of the writer `id`. -/
inductive Edited (id : Stamp) : Option Change → Option Change → Prop
  | insert {old : Option Change} (row : Row)
      (hold : ∀ c, old = some c → c.isLive = false ∧ c.writeId ≠ id) :
      Edited id old (some (.inserted row id))
  | revive {c : Change} (row : Row) (hl : c.isLive = false) (hown : c.writeId = id) :
      Edited id (some c) (some (c.rewritten row id .update))
  | replace {c : Change} (row : Row) {p : Pending} (hp : p = .update ∨ p = .delete)
      (hl : c.isLive = true) (hf : c.writeId ≠ id) : Edited id (some c) (some (c.rewritten row id p))
  | fold {c : Change} {new : Option Change} (row : Row) {p : Pending} (hp : p = .update ∨ p = .delete)
      (hl : c.isLive = true) (hown : c.writeId = id)
      (ha : c.absorb (c.rewritten row id p) .transaction = .ok new) : Edited id (some c) new

namespace Transaction

variable {tx tx' : Transaction} {e : Edit}

theorem add_ok {s : ChangeSet} {c : Change} (h : tx.add s c = .ok tx') :
    tx'.id = tx.id ∧ tx'.stage = tx.stage ∧ s.write c = .ok tx'.changes := by
  unfold add at h
  cases hw : s.write c with
  | error fault => rw [hw] at h; cases h
  | ok t => rw [hw] at h; cases h; exact ⟨rfl, rfl, rfl⟩

theorem entry_ok {k : Key} {c : Change} (h : tx.entry k = .ok c) :
    tx.changes.get? k = some c ∧ c.isLive = true := by
  unfold entry at h
  split at h
  · rename_i d hd
    cases h
    simpa [Option.filter_eq_some_iff] using hd
  · cases h

theorem rewrite_ok {k : Key} {c : Change} {row : Row} {p : Pending} (hp : p = .update ∨ p = .delete)
    (hc : tx.entry k = .ok c) (hrow : row.key = k)
    (h : tx.add tx.changes (c.rewritten row tx.id p) = .ok tx') :
    tx'.id = tx.id ∧ tx'.stage = tx.stage ∧
      (∀ j, j ≠ k → tx'.changes.get? j = tx.changes.get? j) ∧
      Edited tx.id (tx.changes.get? k) (tx'.changes.get? k) := by
  obtain ⟨hget, hlive⟩ := entry_ok hc
  obtain ⟨hid, hstage, hw⟩ := add_ok h
  have hkey : (c.rewritten row tx.id p).key = k := hrow
  refine ⟨hid, hstage, fun j hj => ChangeSet.get?_write_of_ne hw (hkey.symm ▸ hj), ?_⟩
  rw [hget]
  by_cases hown : c.writeId = tx.id
  · have ha := ChangeSet.get?_write_of_own hw (hkey.symm ▸ hget) hown
    rw [hkey] at ha
    exact .fold row hp hlive hown ha
  · have hnew := ChangeSet.get?_write_of_foreign hw fun old hold => by
      rw [hkey, hget] at hold
      cases hold
      exact hown
    rw [hkey] at hnew
    rw [hnew]
    exact .replace row hp hlive hown

theorem insert_ok {row : Row} (h : tx.insert row = .ok tx') :
    tx'.id = tx.id ∧ tx'.stage = tx.stage ∧
      (∀ j, j ≠ row.key → tx'.changes.get? j = tx.changes.get? j) ∧
      Edited tx.id (tx.changes.get? row.key) (tx'.changes.get? row.key) := by
  unfold insert at h
  split at h
  · rename_i hnone
    obtain ⟨hid, hstage, hw⟩ := add_ok h
    have hnew := ChangeSet.get?_write_of_foreign hw fun old hold => by
      have hn : (tx.changes.readmit row.key).get? row.key = none := hnone
      simp [Change.inserted, Change.key, hn] at hold
    refine ⟨hid, hstage, fun j hj => ChangeSet.get?_write_of_ne hw hj, ?_⟩
    rw [hnone]
    exact hnew ▸ .insert row (by simp)
  · rename_i c hc
    split at h
    · cases h
    · rename_i hlive
      obtain ⟨hid, hstage, hw⟩ := add_ok h
      have hgone : (tx.changes.drop row.key).get? row.key = none := by
        rw [ChangeSet.get?_drop, if_pos rfl]
      have hkey :
          (if c.writeId = tx.id then c.updated row tx.id else .inserted row tx.id).key = row.key := by
        split <;> rfl
      have hnew := ChangeSet.get?_write_of_foreign hw fun old hold => by
        rw [hkey, hgone] at hold
        cases hold
      rw [hkey] at hnew
      refine ⟨hid, hstage, fun j hj => ?_, ?_⟩
      · rw [ChangeSet.get?_write_of_ne hw (hkey.symm ▸ hj), ChangeSet.get?_drop, if_neg hj]
      · rw [hnew, hc]
        split
        · rename_i hown
          exact .revive row (by simpa using hlive) hown
        · rename_i hf
          refine .insert row fun d hd => ?_
          cases hd
          exact ⟨by simpa using hlive, hf⟩

/-- An edit inserts a row, or rewrites one that is live. -/
theorem edit_cases (h : tx.edit e = .ok tx') :
    tx.isActive = true ∧ ((∃ row, e = .insert row ∧ tx.insert row = .ok tx') ∨
      ∃ c row p, (p = .update ∨ p = .delete) ∧ tx.entry e.key = .ok c ∧ row.key = e.key ∧
        tx.add tx.changes (c.rewritten row tx.id p) = .ok tx') := by
  unfold edit at h
  split at h
  · cases h
  · rename_i hact
    refine ⟨by simpa using hact, ?_⟩
    cases e with
    | insert row => exact .inl ⟨row, rfl, h⟩
    | update row =>
        cases hc : tx.entry row.key with
        | error fault => simp only [hc] at h; cases h
        | ok c => simp only [hc] at h; exact .inr ⟨c, row, .update, .inl rfl, hc, rfl, h⟩
    | delete row =>
        cases hc : tx.entry row.key with
        | error fault => simp only [hc] at h; cases h
        | ok c => simp only [hc] at h; exact .inr ⟨c, row, .delete, .inr rfl, hc, rfl, h⟩
    | erase key =>
        cases hc : tx.entry key with
        | error fault => simp only [hc] at h; cases h
        | ok c =>
            simp only [hc] at h
            exact .inr ⟨c, c.row, .delete, .inr rfl, hc, ChangeSet.key_of_get? (entry_ok hc).1, h⟩

theorem edit_ok (h : tx.edit e = .ok tx') :
    tx.isActive = true ∧ tx'.id = tx.id ∧ tx'.stage = tx.stage ∧
      (∀ k, k ≠ e.key → tx'.changes.get? k = tx.changes.get? k) ∧
      Edited tx.id (tx.changes.get? e.key) (tx'.changes.get? e.key) := by
  obtain ⟨hact, ⟨row, rfl, hins⟩ | ⟨c, row, p, hp, hc, hrow, hadd⟩⟩ := edit_cases h
  · exact ⟨hact, insert_ok hins⟩
  · exact ⟨hact, rewrite_ok hp hc hrow hadd⟩

end Transaction

/-- There is no live row, or storage does not have it yet. -/
def Unbacked (old : Option Change) : Prop :=
  ∀ c, old = some c → c.isLive = true → c.isStored = false

/-- What the writer `id` holds for a row it has written, where its snapshot had `old`. A row it had
found unstored can be gone without a trace. -/
inductive Written (id : Stamp) (old : Option Change) : Option Change → Prop
  | fresh (row : Row) (h : Unbacked old) : Written id old (some (.inserted row id))
  | derived {c : Change} (row : Row) {p : Pending} (hold : old = some c) (hl : c.isLive = true)
      (hp : p = .update ∨ p = .delete) : Written id old (some (c.rewritten row id p))
  | gone (h : Unbacked old) : Written id old none

namespace Written

variable {id : Stamp} {old cur new : Option Change}

theorem writeId_eq {c : Change} (h : Written id old (some c)) : c.writeId = id := by
  cases h <;> rfl

theorem pending_ne {c : Change} (h : Written id old (some c)) : c.pending ≠ .nothing := by
  cases h with
  | fresh => simp [Change.inserted]
  | derived _ _ _ hp => rcases hp with rfl | rfl <;> simp [Change.rewritten]

/-- Two writes of one transaction meet without a conflict, and the row keeps the version at which it
was read. -/
theorem fold {c : Change} {row : Row} {p : Pending} (h : Written id old (some c))
    (hp : p = .update ∨ p = .delete) (hl : c.isLive = true)
    (ha : c.absorb (c.rewritten row id p) .transaction = .ok new) : Written id old new := by
  obtain ⟨-, ⟨hs, -, rfl⟩ | ⟨hkept, rfl⟩⟩ := Change.absorb_ok ha
  · refine .gone fun d hd hdl => ?_
    cases h with
    | fresh row' h => exact h d hd hdl
    | derived row' hold _ _ =>
        cases hold.symm.trans hd
        exact hs
  · have hupdate : c.isStored = false → p = .update := fun hs => by
      rcases hp with rfl | rfl
      · rfl
      · simp [Change.rewritten, hs] at hkept
    cases h with
    | fresh row' h => exact .fresh row h
    | @derived e row' p' hold hl' hp' =>
        have hp'' : p' = .update := by
          rcases hp' with rfl | rfl
          · rfl
          · simp [Change.isLive, Change.rewritten] at hl
        have heq : (e.rewritten row' id p').overlaid ((e.rewritten row' id p').rewritten row id p)
            .transaction = e.rewritten row id p := by
          cases hs : e.isStored with
          | true => simp [Change.overlaid, Change.rewritten, hs]
          | false => simp [Change.overlaid, Change.rewritten, hs, hp'', hupdate hs]
        rw [heq]
        exact .derived row hold hl' hp

theorem edited (hold : ∀ c, old = some c → c.writeId ≠ id) (hcur : cur = old ∨ Written id old cur)
    (h : Edited id cur new) : Written id old new := by
  cases h with
  | insert row hc =>
      refine .fresh row fun c hs hl => ?_
      rcases hcur with rfl | hw
      · simp [(hc c hs).1] at hl
      · cases hw with
        | fresh row' h => exact h c hs hl
        | derived row' hold' hl' hp' => exact absurd rfl (hc _ rfl).2
        | gone h => exact h c hs hl
  | revive row hl hown =>
      rcases hcur with rfl | hw
      · exact absurd hown (hold _ rfl)
      · cases hw with
        | fresh row' h => simp [Change.inserted, Change.isLive] at hl
        | @derived d row' p hold' hl' _ => exact .derived (c := d) (p := .update) row hold' hl' (.inl rfl)
  | replace row hp hl hf =>
      rcases hcur with rfl | hw
      · exact .derived row rfl hl hp
      · exact absurd hw.writeId_eq hf
  | fold row hp hl hown ha =>
      rcases hcur with rfl | hw
      · exact absurd hown (hold _ rfl)
      · exact hw.fold hp hl ha

end Written

end TrackedRows
