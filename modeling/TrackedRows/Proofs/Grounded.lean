import TrackedRows.Proofs.Storage

namespace TrackedRows

/-- A row that no transaction has written is as storage has it, and the entry of a row which a batch
deletes stays until the batch settles. -/
structure Scene.Grounded (s : Scene) : Prop where
  settled : ∀ k c, s.entry? k = some c → c.writeId = 0 → c.isSettled = true
  leaving : ∀ sh, s.shipment = some sh → ∀ w ∈ sh.batch, w.isLive = false →
    ∃ c, s.entry? w.key = some c ∧ c.isStored = true ∧ c.writeId ≠ 0

namespace Change

variable {taken c d old : Change} {id : Stamp} {r : Option Change}

theorem Lands.readId_le (h : c.Lands (some old) r) : old.readId ≤ c.readId := by
  cases h <;> assumption

theorem isSettled_overlaid_seeded (h : old.isSettled = true) (row : Row) :
    (old.overlaid (.seeded row id) .baseline).isSettled = true := by
  simp only [isSettled, Bool.and_eq_true] at h
  simp [isSettled, overlaid, seeded, h.1]

/-- A batch settles only entries that are still as in the batch. -/
theorem isSettled_of_isSettled_reconciled (h : taken.reconciled id (some c) = some d) (hc : c.Committed)
    (hne : c.sameVersion taken = false) (hd : d.isSettled = true) : c.isSettled = true := by
  simp only [reconciled, hne, Bool.false_eq_true, if_false] at h
  split at h
  · cases h
    cases hp : c.pending with
    | nothing =>
        cases hs : c.isStored with
        | true => simp [isSettled, hs, hp]
        | false => cases hp.symm.trans (hc.pending_of_unstored hs)
    | insert | update | delete => simp [isSettled, hp] at hd
  · split at h
    · cases h
      simp [isSettled] at hd
    · cases h

end Change

/-- Rows found in storage do not meet a row that a transaction wrote. -/
theorem Moment.Seeds.readId_eq_zero {m : Moment} {k : Key} {c : Change} (h : m.Seeds k)
    (hc : m.before.entry? k = some c) : c.readId = 0 := by
  obtain ⟨rows, count, b, -, hok, hk⟩ := h
  obtain ⟨row, -, -, hl⟩ := ((Baseline.seed_ok hok).2 k).1 hk
  rw [show m.before.baseline.changes.get? k = some c from hc] at hl
  exact UInt64.le_zero_iff.1 hl.readId_le

namespace Step

variable {s t : Scene} {what : Happening} {k : Key} {c : Change}

theorem isSettled_of_writeId_eq_zero (h : Step s what t) (hs : s.Sound) (hle : s.lastId ≤ t.lastId)
    (hg : s.Grounded) (hc : t.entry? k = some c) (hid : c.writeId = 0) : c.isSettled = true := by
  cases h.turn k with
  | same he => exact hg.settled k c (he ▸ hc) hid
  | @commit name tx report b d htx hok hd hown hl _ =>
      rw [hc] at hl
      have hpos := (hs.copies name tx htx (Baseline.commit_ok hok).1).1
      rw [← hown, ← hl.writeId_eq, hid] at hpos
      exact absurd hpos (UInt64.lt_irrefl _)
  | @seed rows count b row hok hk hl =>
      rw [hc] at hl
      generalize hold : s.entry? k = o at hl
      cases hl with
      | fresh _ => rfl
      | @onto old hread _ =>
          have hzero : old.readId = 0 := UInt64.le_zero_iff.1 hread
          rw [(hs.committed k old hold).1.readId_eq] at hzero
          exact Change.isSettled_overlaid_seeded (hg.settled k old hold hzero) row
  | @settle sh taken hsh ht hk he horphan =>
      rw [hc] at he
      cases hold : s.entry? k with
      | none =>
          rw [hold, Change.reconciled] at he
          split at he
          · rename_i hl
            cases he
            have hlt := Stamp.lt_next (horphan hold hl ▸ hle)
            rw [← horphan hold hl, show t.lastId = 0 from hid] at hlt
            exact absurd hlt UInt64.not_lt_zero
          · cases he
      | some old =>
          rw [hold] at he
          have hzero : old.writeId = 0 := (Change.of_reconciled_eq_some he.symm).2.2.1.symm.trans hid
          -- A batch that deletes the row would leave it to be inserted, but keeps an entry with a stamp.
          refine Change.isSettled_of_reconciled he.symm (Bool.of_not_eq_false fun hl => ?_)
            (hg.settled k old hold hzero)
          obtain ⟨old', hold', -, hne⟩ := hg.leaving sh hsh taken ht hl
          rw [hk] at hold'
          cases hold.symm.trans hold'
          exact hne hzero

theorem stays (h : Step s what t) (hs : s.Sound) (hsettle : what ≠ .settle) (hc : s.entry? k = some c)
    (hstored : c.isStored = true) (hid : c.writeId ≠ 0) :
    ∃ d, t.entry? k = some d ∧ d.isStored = true ∧ d.writeId ≠ 0 := by
  cases h.turn k with
  | same he => exact ⟨c, he.trans hc, hstored, hid⟩
  | @commit name tx report b d htx hok hd hown hl _ =>
      have hpos := (hs.copies name tx htx (Baseline.commit_ok hok).1).1
      rw [hc] at hl
      generalize t.entry? k = r at hl ⊢
      cases hl with
      | onto _ _ => exact ⟨_, rfl, hstored, hown ▸ (UInt64.ne_of_lt hpos).symm⟩
      | cancel _ hunstored _ => cases hunstored.symm.trans hstored
  | @seed rows count b row hok hk _ =>
      have hzero := Moment.Seeds.readId_eq_zero (m := ⟨s, .act (.seed rows), t⟩) ⟨rows, count, b, rfl, hok, hk⟩ hc
      exact absurd ((hs.committed k c hc).1.readId_eq.symm.trans hzero) hid
  | settle => exact absurd rfl hsettle

theorem leaving (h : Step s what t) (hs : s.Sound) (hg : s.Grounded) {sh : Shipment} (hsh : t.shipment = some sh)
    {w : Change} (hw : w ∈ sh.batch) (hl : w.isLive = false) :
    ∃ c, t.entry? w.key = some c ∧ c.isStored = true ∧ c.writeId ≠ 0 := by
  cases what with
  | act a =>
      obtain ⟨c, hc, hstored, hid⟩ := hg.leaving sh (h.frame.1 ▸ hsh) w hw hl
      exact h.stays hs (by simp) hc hstored hid
  | ship =>
      cases h with
      | ship _ =>
          cases hsh
          obtain ⟨hentry, hunsettled⟩ := ChangeSet.mem_unsettled_iff.1 hw
          refine ⟨w, hentry, Bool.of_not_eq_false fun hunstored => ?_, fun hid => ?_⟩
          · have hins := (hs.committed w.key w hentry).1.pending_of_unstored hunstored
            simp [Change.isLive, hins] at hl
          · cases (hg.settled w.key w hentry hid).symm.trans hunsettled
  | deliver =>
      cases h with
      | deliver hs' _ =>
          cases hsh
          exact hg.leaving _ hs' w hw hl
      | refuse _ _ => cases hsh
  | settle =>
      cases h with
      | settle _ => cases hsh
  | giveUp =>
      cases h with
      | giveUp _ => cases hsh
  | idle =>
      cases h with
      | idle hs' _ => cases hs'.symm.trans hsh

theorem grounded (h : Step s what t) (hs : s.Sound) (hle : s.lastId ≤ t.lastId) (hg : s.Grounded) :
    t.Grounded where
  settled _ _ hc hid := h.isSettled_of_writeId_eq_zero hs hle hg hc hid
  leaving _ hsh _ hw hl := h.leaving hs hg hsh hw hl

end Step

theorem Run.grounded {s t : Scene} {log : List Moment} (run : Run s log t) (hs : s.Sound) (hg : s.Grounded)
    (hsteady : Steady log) : t.Grounded := by
  refine And.right (run.invariant (I := fun t => t.Sound ∧ t.Grounded) ⟨hs, hg⟩ ?_)
  rintro m hm hnext ⟨hs, hg⟩
  have hstep := Scene.step_of_next hnext
  exact ⟨hstep.sound hs (hsteady m hm), hstep.grounded hs (hsteady m hm) hg⟩

theorem Scene.Reachable.grounded {s : Scene} (h : s.Reachable) : s.Grounded := by
  obtain ⟨settings, store, log, run, hsteady⟩ := h
  refine run.grounded (.new settings store) ⟨fun k c hc => ?_, fun sh hsh => ?_⟩ hsteady
  · cases hc
  · cases hsh

end TrackedRows
