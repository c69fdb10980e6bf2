import TrackedRows.Proofs.Step

namespace TrackedRows

theorem Stamp.lt_next {s : Stamp} (h : s ≤ s + 1) : s < s + 1 := by
  grind

/-- An entry of a baseline was read at the version that wrote it, and storage has its row or is still
to insert it. -/
structure Change.Committed (c : Change) : Prop where
  readId_eq : c.readId = c.writeId
  pending_of_unstored : c.isStored = false → c.pending = .insert

namespace Change.Committed

variable {old c d : Change} {id : Stamp} {row : Row}

theorem inserted : (Change.inserted row id).Committed := ⟨rfl, fun _ => rfl⟩

theorem seeded : (Change.seeded row id).Committed := ⟨rfl, fun h => by cases h⟩

theorem condemned : (Change.condemned row id).Committed := ⟨rfl, fun h => by cases h⟩

theorem pending_ne_of_unsettled (h : c.Committed) (hc : c.isSettled = false) :
    c.pending ≠ .nothing := by
  intro hp
  cases hs : c.isStored with
  | true => simp [Change.isSettled, hs, hp] at hc
  | false => cases hp.symm.trans (h.pending_of_unstored hs)

theorem overlaid (h : old.Committed) (new : Change) : (old.overlaid new .baseline).Committed := by
  refine ⟨rfl, fun hs => ?_⟩
  have hs' : old.isStored = false := hs
  simp [Change.overlaid, hs', h.pending_of_unstored hs']

theorem isLive_overlaid {new : Change} (h : old.Committed)
    (hkept : old.isStored = true ∨ new.pending ≠ .delete) :
    (old.overlaid new .baseline).isLive = new.isLive := by
  cases hs : old.isStored with
  | true => simp [Change.overlaid, Change.isLive, hs]
  | false =>
      have hp : new.pending ≠ .delete := by simpa [hs] using hkept
      simp [Change.overlaid, Change.isLive, hs, hp, h.pending_of_unstored hs]

theorem pending_overlaid {new : Change} (h : old.Committed) (hp : new.pending ≠ .nothing) :
    (old.overlaid new .baseline).pending ≠ .nothing := by
  cases hs : old.isStored with
  | true => simpa [Change.overlaid, hs] using hp
  | false => simp [Change.overlaid, hs, h.pending_of_unstored hs]

theorem reconciled {taken : Change} (h : c.Committed) (hr : taken.reconciled id (some c) = some d) :
    d.Committed := by
  obtain ⟨-, hread, hwrite, -, hins⟩ := Change.of_reconciled_eq_some hr
  exact ⟨by rw [hread, hwrite, h.readId_eq], hins⟩

end Change.Committed

namespace Change.Lands

variable {c d old : Change} {o r : Option Change}

theorem writeId_eq (h : c.Lands o (some d)) : d.writeId = c.writeId := by
  cases h <;> rfl

theorem writeId_le (h : c.Lands (some old) (some d)) (hold : old.Committed)
    (hle : c.readId ≤ c.writeId) : old.writeId ≤ d.writeId := by
  cases h with
  | onto hread hkept => exact hold.readId_eq ▸ UInt64.le_trans hread hle

theorem committed (h : c.Lands o (some d)) (hold : ∀ old, o = some old → old.Committed)
    (hnew : c.pending = .insert ∨ c.writeId = 0 → c.Committed) : d.Committed := by
  cases h with
  | fresh h => exact hnew h
  | onto _ _ => exact (hold _ rfl).overlaid c

theorem pending_ne (h : c.Lands o (some d)) (hold : ∀ old, o = some old → old.Committed)
    (hp : c.pending ≠ .nothing) : d.pending ≠ .nothing := by
  cases h with
  | fresh _ => exact hp
  | onto _ _ => exact (hold _ rfl).pending_overlaid hp

theorem live?_eq (h : c.Lands o r) (hold : ∀ old, o = some old → old.Committed) :
    r.bind live? = c.live? := by
  cases h with
  | fresh _ => rfl
  | onto _ hkept => simp only [Option.bind_some, live?, (hold _ rfl).isLive_overlaid hkept]; rfl
  | cancel _ _ hp => simp [live?, isLive, hp]

end Change.Lands

namespace Transaction

/-- The transaction works on a copy of the set, and has written some rows of it since. -/
structure Copies (base : ChangeSet) (tx : Transaction) : Prop where
  older : ∀ k c, base.get? k = some c → c.Committed ∧ c.writeId < tx.id
  rows : ∀ k, tx.changes.get? k = base.get? k ∨
    Written tx.id (base.get? k) (tx.changes.get? k)

namespace Copies

variable {base : ChangeSet} {tx tx' : Transaction} {e : Edit} {k : Key} {c : Change}

theorem written_of_edit (h : Copies base tx) (he : tx.edit e = .ok tx') :
    Written tx'.id (base.get? e.key) (tx'.changes.get? e.key) := by
  obtain ⟨-, hid, -, -, hedited⟩ := edit_ok he
  rw [hid]
  refine Written.edited (fun c hc hown => ?_) (h.rows e.key) hedited
  have hlt := (h.older _ c hc).2
  rw [hown] at hlt
  exact UInt64.lt_irrefl _ hlt

theorem edit (h : Copies base tx) (he : tx.edit e = .ok tx') : Copies base tx' := by
  have hwritten := h.written_of_edit he
  obtain ⟨-, hid, -, hother, -⟩ := edit_ok he
  refine ⟨fun k c hc => hid ▸ h.older k c hc, fun k => ?_⟩
  by_cases hk : k = e.key
  · exact .inr (hk ▸ hwritten)
  · rw [hother k hk, hid]
    exact h.rows k

theorem written_of_own (h : Copies base tx) (hc : tx.changes.get? k = some c)
    (hown : c.writeId = tx.id) : Written tx.id (base.get? k) (some c) := by
  rcases h.rows k with heq | hw
  · have hlt := (h.older k c (heq ▸ hc)).2
    rw [hown] at hlt
    exact absurd hlt (UInt64.lt_irrefl _)
  · exact hc ▸ hw

theorem readId_le (h : Copies base tx) (hc : tx.changes.get? k = some c) (hown : c.writeId = tx.id) :
    c.readId ≤ tx.id := by
  generalize hold : base.get? k = old at *
  cases hold ▸ h.written_of_own hc hown with
  | fresh => exact UInt64.le_refl _
  | @derived d row p hd _ _ =>
      obtain ⟨hcommitted, hlt⟩ := h.older k d (hold.trans hd)
      exact UInt64.le_of_lt (hcommitted.readId_eq ▸ hlt)

theorem readId_eq {e : Change} (h : Copies base tx) (hc : tx.changes.get? k = some c)
    (hown : c.writeId = tx.id) (hp : c.pending = .update ∨ c.pending = .delete)
    (he : base.get? k = some e) : c.readId = e.writeId := by
  have hw := h.written_of_own hc hown
  rw [he] at hw
  cases hw with
  | fresh => rcases hp with hp | hp <;> cases hp
  | derived row hold _ _ =>
      cases hold
      exact (h.older k e he).1.readId_eq

theorem eq_inserted (h : Copies base tx) (hc : tx.changes.get? k = some c)
    (hown : c.writeId = tx.id) (hp : c.pending = .insert) : ∃ row, c = .inserted row tx.id := by
  cases h.written_of_own hc hown with
  | fresh row => exact ⟨row, rfl⟩
  | derived row _ _ hp' => rcases hp' with rfl | rfl <;> cases hp

end Copies

end Transaction

end TrackedRows
