import TrackedRows.Proofs.Stamps

namespace TrackedRows

/-- What holds in every scene of every session. A stamp that an active transaction still holds is on no
row, so that each transaction brings its stamp to the baseline once. -/
structure Scene.Sound (s : Scene) : Prop where
  committed : ∀ k c, s.entry? k = some c → c.Committed ∧ c.writeId ≤ s.lastId
  copies : ∀ name tx, s.transaction? name = some tx → tx.isActive = true →
    0 < tx.id ∧ tx.id ≤ s.lastId ∧ ∃ base, tx.Copies base
  distinct : ∀ name other tx tx', s.transaction? name = some tx → s.transaction? other = some tx' →
    tx.isActive = true → tx'.isActive = true → tx.id = tx'.id → name = other
  unspent : ∀ name tx, s.transaction? name = some tx → tx.isActive = true →
    ∀ k c, s.entry? k = some c → c.writeId ≠ tx.id

namespace Step

variable {s t : Scene} {what : Happening}

theorem committed (h : Step s what t) (hs : s.Sound) (hle : s.lastId ≤ t.lastId) {k : Key} {c : Change}
    (hc : t.entry? k = some c) : c.Committed ∧ c.writeId ≤ t.lastId := by
  cases h.turn k with
  | same he =>
      obtain ⟨hcommitted, hid⟩ := hs.committed k c (he ▸ hc)
      exact ⟨hcommitted, UInt64.le_trans hid hle⟩
  | @commit name tx report b d htx hok hd hown hl _ =>
      obtain ⟨hpos, hid, base, hcopies⟩ := hs.copies name tx htx (Baseline.commit_ok hok).1
      rw [hc] at hl
      refine ⟨hl.committed (fun old hold => (hs.committed k old hold).1) fun hnew => ?_, ?_⟩
      · have hins : d.pending = .insert := hnew.resolve_right fun hzero => by
          rw [← hown, hzero] at hpos
          exact UInt64.lt_irrefl _ hpos
        obtain ⟨row, rfl⟩ := hcopies.eq_inserted hd hown hins
        exact .inserted
      · rw [hl.writeId_eq, hown]
        exact UInt64.le_trans hid hle
  | @seed rows count b row hok hk hl =>
      rw [hc] at hl
      refine ⟨hl.committed (fun old hold => (hs.committed k old hold).1) fun _ => .seeded, ?_⟩
      exact hl.writeId_eq ▸ UInt64.zero_le
  | @settle sh taken hsh ht hk he horphan =>
      rw [hc] at he
      cases hold : s.entry? k with
      | none =>
          rw [hold, Change.reconciled] at he
          split at he
          · cases he
            exact ⟨.condemned, UInt64.le_refl _⟩
          · cases he
      | some old =>
          rw [hold] at he
          obtain ⟨hcommitted, hid⟩ := hs.committed k old hold
          refine ⟨hcommitted.reconciled he.symm, ?_⟩
          rw [(Change.of_reconciled_eq_some he.symm).2.2.1]
          exact UInt64.le_trans hid hle

/-- The stamp of a row is the one it had before, or that of a transaction which is closed with the step,
or the 0 of rows found in storage, or a new one. -/
theorem writeId_origin (h : Step s what t) {k : Key} {c : Change} (hc : t.entry? k = some c) :
    (∃ c₀, s.entry? k = some c₀ ∧ c.writeId = c₀.writeId) ∨
      (∃ name tx, s.transaction? name = some tx ∧ tx.isActive = true ∧
        t.transaction? name = some tx.closed ∧ c.writeId = tx.id) ∨
      (Moment.mk s what t).Seeds k ∧ c.writeId = 0 ∨ t.lastId = s.lastId + 1 ∧ c.writeId = t.lastId := by
  cases h.turn k with
  | same he => exact .inl ⟨c, he ▸ hc, rfl⟩
  | @commit name tx report b d htx hok hd hown hl hclosed =>
      rw [hc] at hl
      exact .inr (.inl ⟨name, tx, htx, (Baseline.commit_ok hok).1, hclosed, hl.writeId_eq.trans hown⟩)
  | @seed rows count b row hok hk hl =>
      rw [hc] at hl
      exact .inr (.inr (.inl ⟨⟨rows, count, b, rfl, hok, hk⟩, hl.writeId_eq⟩))
  | @settle sh taken hsh ht hk he horphan =>
      rw [hc] at he
      cases hold : s.entry? k with
      | none =>
          rw [hold, Change.reconciled] at he
          split at he
          · rename_i hl
            cases he
            exact .inr (.inr (.inr ⟨horphan hold hl, rfl⟩))
          · cases he
      | some old =>
          rw [hold] at he
          exact .inl ⟨old, rfl, (Change.of_reconciled_eq_some he.symm).2.2.1⟩

theorem origin (h : Step s what t) {name : String} {tx : Transaction}
    (htx : t.transaction? name = some tx) (hact : tx.isActive = true) :
    (∃ tx₀, s.transaction? name = some tx₀ ∧ tx₀.isActive = true ∧ tx₀.id = tx.id ∧
        ∀ base, tx₀.Copies base → tx.Copies base) ∨
      what = .act (.begin name) ∧ tx = ⟨s.lastId + 1, .active, s.baseline.changes⟩ ∧
        t.lastId = s.lastId + 1 := by
  rcases h.transaction htx hact with htx | ⟨e, tx₀, -, htx₀, he⟩ | hnew
  · exact .inl ⟨tx, htx, hact, rfl, fun _ h => h⟩
  · obtain ⟨hact₀, hid, -⟩ := Transaction.edit_ok he
    exact .inl ⟨tx₀, htx₀, hact₀, hid.symm, fun base hcopies => hcopies.edit he⟩
  · exact .inr hnew

theorem sound (h : Step s what t) (hs : s.Sound) (hle : s.lastId ≤ t.lastId) : t.Sound where
  committed k c hc := h.committed hs hle hc
  copies name tx htx hact := by
    rcases h.origin htx hact with ⟨tx₀, htx₀, hact₀, hid, hcopies⟩ | ⟨-, rfl, hid⟩
    · obtain ⟨hpos, hid₀, base, hbase⟩ := hs.copies name tx₀ htx₀ hact₀
      exact ⟨hid ▸ hpos, hid ▸ UInt64.le_trans hid₀ hle, base, hcopies base hbase⟩
    · have hlt := Stamp.lt_next (hid ▸ hle)
      refine ⟨UInt64.lt_of_le_of_lt UInt64.zero_le hlt, hid ▸ UInt64.le_refl _, s.baseline.changes,
        fun k c hc => ?_, fun _ => .inl rfl⟩
      obtain ⟨hcommitted, hid⟩ := hs.committed k c hc
      exact ⟨hcommitted, UInt64.lt_of_le_of_lt hid hlt⟩
  distinct name other tx tx' htx htx' hact hact' heq := by
    have hfresh : ∀ name tx, s.transaction? name = some tx → tx.isActive = true →
        t.lastId = s.lastId + 1 → tx.id ≠ s.lastId + 1 := by
      intro name tx htx hact ht he
      have hid := (hs.copies name tx htx hact).2.1
      rw [he] at hid
      exact UInt64.lt_irrefl _ (UInt64.lt_of_lt_of_le (Stamp.lt_next (ht ▸ hle)) hid)
    rcases h.origin htx hact with ⟨tx₀, htx₀, hact₀, hid, -⟩ | ⟨hbegin, rfl, ht⟩
    · rcases h.origin htx' hact' with ⟨tx₁, htx₁, hact₁, hid', -⟩ | ⟨-, rfl, ht⟩
      · exact hs.distinct name other tx₀ tx₁ htx₀ htx₁ hact₀ hact₁ (by rw [hid, hid', heq])
      · exact absurd (hid.trans heq) (hfresh name tx₀ htx₀ hact₀ ht)
    · rcases h.origin htx' hact' with ⟨tx₁, htx₁, hact₁, hid', -⟩ | ⟨hbegin', -, -⟩
      · exact absurd (hid'.trans heq.symm) (hfresh other tx₁ htx₁ hact₁ ht)
      · simpa using hbegin.symm.trans hbegin'
  unspent name tx htx hact k c hc := by
    have hlast : ∀ tx₀ name, s.transaction? name = some tx₀ → tx₀.isActive = true →
        t.lastId = s.lastId + 1 → tx₀.id < t.lastId := fun tx₀ name htx₀ hact₀ ht =>
      UInt64.lt_of_le_of_lt (hs.copies name tx₀ htx₀ hact₀).2.1 (ht ▸ Stamp.lt_next (ht ▸ hle))
    rcases h.origin htx hact with ⟨tx₀, htx₀, hact₀, hid, -⟩ | ⟨hbegin, rfl, ht⟩
    · rw [← hid]
      rcases h.writeId_origin hc with ⟨c₀, hc₀, heq⟩ | ⟨other, tx₁, htx₁, hact₁, hclosed, heq⟩ |
        ⟨-, heq⟩ | ⟨ht, heq⟩
      · exact heq ▸ hs.unspent name tx₀ htx₀ hact₀ k c₀ hc₀
      · intro hsame
        have hname := hs.distinct name other tx₀ tx₁ htx₀ htx₁ hact₀ hact₁ (by rw [← hsame, heq])
        rw [hname, hclosed] at htx
        cases htx
        cases hact
      · exact heq ▸ UInt64.ne_of_lt (hs.copies name tx₀ htx₀ hact₀).1
      · exact heq ▸ (UInt64.ne_of_lt (hlast tx₀ name htx₀ hact₀ ht)).symm
    · subst hbegin
      cases h.turn k with
      | same he =>
          have hid := (hs.committed k c (he ▸ hc)).2
          exact UInt64.ne_of_lt (UInt64.lt_of_le_of_lt hid (Stamp.lt_next (ht ▸ hle)))

end Step

theorem Scene.Sound.new (settings : Settings) (store : Store) :
    Scene.Sound ⟨.new settings store, none⟩ where
  committed k c hc := by cases hc
  copies name tx htx := by cases htx
  distinct name other tx tx' htx := by cases htx
  unspent name tx htx := by cases htx

theorem Run.sound {s t : Scene} {log : List Moment} (run : Run s log t) (hs : s.Sound)
    (hsteady : Steady log) : t.Sound :=
  run.invariant hs fun m hm hnext h => (Scene.step_of_next hnext).sound h (hsteady m hm)

theorem Scene.Reachable.sound {s : Scene} (h : s.Reachable) : s.Sound := by
  obtain ⟨settings, store, log, run, hsteady⟩ := h
  exact run.sound (.new settings store) hsteady

end TrackedRows
