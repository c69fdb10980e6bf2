import TrackedRows.Proofs.Sound

namespace TrackedRows

theorem Change.Committed.absorb_self {c : Change} (h : c.Committed) :
    c.absorb c .baseline = .ok (some c) := by
  obtain ⟨row, readId, writeId, isStored, pending⟩ := c
  have hread : readId = writeId := h.readId_eq
  subst hread
  have hle : ¬ readId > readId := UInt64.lt_irrefl _
  cases isStored with
  | true => simp [absorb, hle]
  | false =>
      have hinsert : pending = .insert := h.pending_of_unstored rfl
      simp [absorb, hle, hinsert]

namespace ChangeSet

variable {s : ChangeSet}

/-- What only holds entries of a baseline lands on itself without a trace. -/
theorem land_self (h : ∀ k c, s.get? k = some c → c.Committed) :
    ∃ l, s.land s = .ok l ∧ l.removed = [] ∧ l.baseline = s := by
  have hone : ∀ k c, s.get? k = some c → s.landOne s.dangling c = .ok (some c) := by
    intro k c hc
    have hc' : s.get? c.key = some c := (key_of_get? hc).symm ▸ hc
    rw [landOne_of_some hc', (h k c hc).absorb_self]
  obtain ⟨l, hl⟩ := exists_land fun c hc => ⟨some c, hone c.key c hc⟩
  obtain ⟨hdangling, hremoved⟩ := dangling_and_removed_of_land hl
  have hnil : l.removed = [] := List.eq_nil_iff_forall_not_mem.2 fun k hk => by
    obtain ⟨c, hc, hnone⟩ := hremoved k hk
    cases (hone k c hc).symm.trans hnone
  refine ⟨l, hl, hnil, ext_get? (fun k => ?_) ?_⟩
  · obtain ⟨hin, hout⟩ := get?_land hl k
    cases hc : s.get? k with
    | none => rw [hout hc, hc]
    | some c =>
        exact (Except.ok.inj ((hone k c hc).symm.trans (hin c hc))).symm
  · rw [Landing.baseline, hnil]
    exact hdangling

end ChangeSet

theorem Transaction.Copies.readId_le_writeId {base : ChangeSet} {tx : Transaction} {k : Key} {c : Change}
    (h : tx.Copies base) (hc : tx.changes.get? k = some c) : c.readId ≤ c.writeId := by
  rcases h.rows k with heq | hw
  · rw [(h.older k c (heq ▸ hc)).1.readId_eq]
    exact UInt64.le_refl _
  · have hown : c.writeId = tx.id := (hc ▸ hw).writeId_eq
    rw [hown]
    exact h.readId_le hc hown

/-- Whatever has happened, the baseline holds rows at the versions that wrote them, no transaction has
written a row at a version below the one it read, and the baseline lands on itself without a trace. -/
theorem Scene.Reachable.well_stamped {s : Scene} (h : s.Reachable) :
    (∀ k c, s.entry? k = some c → c.key = k ∧ c.readId = c.writeId ∧ c.writeId ≤ s.lastId ∧
      (c.isStored = false → c.pending = .insert)) ∧
    (∀ name tx, s.transaction? name = some tx → tx.isActive = true →
      ∀ k c, tx.changes.get? k = some c → c.key = k ∧ c.readId ≤ c.writeId) ∧
    ∃ l, s.baseline.changes.land s.baseline.changes = .ok l ∧ l.removed = [] ∧
      l.baseline = s.baseline.changes := by
  have hsound := h.sound
  refine ⟨fun k c hc => ?_, fun name tx htx hact k c hc => ?_, ?_⟩
  · obtain ⟨hcommitted, hid⟩ := hsound.committed k c hc
    exact ⟨ChangeSet.key_of_get? hc, hcommitted.readId_eq, hid, hcommitted.pending_of_unstored⟩
  · obtain ⟨-, -, base, hcopies⟩ := hsound.copies name tx htx hact
    exact ⟨ChangeSet.key_of_get? hc, hcopies.readId_le_writeId hc⟩
  · exact ChangeSet.land_self fun k c hc => (hsound.committed k c hc).1

/-- A row that storage is to lose again, while a transaction has inserted it anew. -/
theorem recalled_row_lands_on_itself :
    let plan : List Happening := [.act (.begin "a"), .act (.edit "a" (.insert (.sample 1))),
      .act (.commit "a"), .ship, .deliver, .act (.begin "b"), .act (.edit "b" (.erase (.number 1))),
      .act (.commit "b"), .settle, .act (.begin "c"), .act (.edit "c" (.insert (.sample 2)))]
    let now := (Scene.blank.play plan).2
    now.Reachable ∧ now.entry? (.number 1) = some (.condemned (.sample 1) 3) ∧
      ∃ l, now.baseline.changes.land now.baseline.changes = .ok l ∧ l.removed = [] ∧
        l.baseline = now.baseline.changes := by
  intro plan now
  have hreach : now.Reachable := Scene.reachable_of_play (by decide)
  exact ⟨hreach, by decide, hreach.well_stamped.2.2⟩

end TrackedRows
