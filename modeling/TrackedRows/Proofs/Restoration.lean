import TrackedRows.Proofs.Conflict

namespace TrackedRows

/-- A row that has to leave storage again is brought back under a new stamp. -/
theorem Step.entry?_of_restores {s t : Scene} {what : Happening} {k : Key} (h : Step s what t)
    (hm : (Moment.mk s what t).Restores k) :
    t.lastId = s.lastId + 1 ∧ ∃ row, t.entry? k = some (.condemned row t.lastId) := by
  obtain ⟨rfl, hnone, sh, taken, hsh, ht, rfl, hl⟩ := hm
  have hgone : s.baseline.changes.get? taken.key = none := hnone
  cases h with
  | @settle sh' hsh' =>
      cases hsh.symm.trans hsh'
      have hentry := Baseline.get?_reconcile_of_mem (b := s.baseline) sh.distinct ht
      rw [hgone, Change.reconciled_none_of_isLive hl] at hentry
      have horphan := Baseline.hasOrphan_of_mem ht hl hgone
      exact ⟨(Baseline.lastId_reconcile ..).trans (if_pos horphan), taken.row, hentry⟩

namespace Run

variable {s t : Scene} {log : List Moment} {name : String} {tx : Transaction}

theorem lastId_le (run : Run s log t) (hsteady : Steady log) : s.lastId ≤ t.lastId :=
  run.invariant (I := fun t => s.lastId ≤ t.lastId) (UInt64.le_refl _) fun m hm _ hle =>
    UInt64.le_trans hle (hsteady m hm)

/-- A transaction that has not begun since was there, under the stamp it has now. -/
theorem active_of_active (run : Run s log t) (hno : ∀ m ∈ log, m.what ≠ .act (.begin name))
    (htx : t.transaction? name = some tx) (hact : tx.isActive = true) :
    ∃ tx₀, s.transaction? name = some tx₀ ∧ tx₀.isActive = true ∧ tx₀.id = tx.id := by
  refine run.invariant (I := fun t => ∀ tx, t.transaction? name = some tx → tx.isActive = true →
    ∃ tx₀, s.transaction? name = some tx₀ ∧ tx₀.isActive = true ∧ tx₀.id = tx.id)
    (fun tx htx hact => ⟨tx, htx, hact, rfl⟩) ?_ tx htx hact
  intro m hm hnext ih tx htx hact
  rcases (Scene.step_of_next hnext).origin htx hact with ⟨tx₁, htx₁, hact₁, hid, -⟩ | ⟨hbegin, -⟩
  · obtain ⟨tx₀, htx₀, hact₀, hid₀⟩ := ih tx₁ htx₁ hact₁
    exact ⟨tx₀, htx₀, hact₀, hid₀.trans hid⟩
  · exact absurd hbegin (hno m hm)

theorem begun_id_le {b : Moment} (run : Run s log t) (hsteady : Steady log) (hb : b ∈ log)
    (hwhat : b.what = .act (.begin name)) (htx : b.after.transaction? name = some tx) :
    tx.id ≤ t.lastId := by
  obtain ⟨earlier, later, rfl⟩ := List.append_of_mem hb
  obtain ⟨-, hbegin, hlater⟩ := run.split
  have hbegun : b.before.begun name = b.after := by
    rw [hwhat] at hbegin
    exact Option.some.inj hbegin
  have hissued := hlater.lastId_le fun m hm => hsteady m (by simp [hm])
  rw [← hbegun] at htx hissued
  rw [Scene.transaction?_begun, if_pos rfl] at htx
  cases htx
  exact hissued

end Run

namespace Scene

variable {s : Scene} {name : String} {tx : Transaction} {k : Key}

/-- Where the row is in the baseline, a transaction that has written no other is rejected for a conflict. -/
theorem conflict_of_rejects {old : Change} (hr : s.Rejects name tx k) (hact : tx.isActive = true)
    (hold : s.entry? k = some old) (honly : ∀ j, tx.Writes j → j = k) :
    ∃ c, tx.changes.get? k = some c ∧
      s.baseline.commit tx = .error (.conflict k.label old.readId c.readId) := by
  obtain ⟨fault, hfault, -⟩ := hr.failed
  obtain ⟨j, c, hc, hown, hone⟩ := Baseline.refuses_of_commit_error hact hfault
  obtain rfl := honly j ⟨c, hc, hown⟩
  have hkey : c.key = j := ChangeSet.key_of_get? hc
  refine ⟨c, hc, hfault.trans ?_⟩
  rw [ChangeSet.landOne_of_some (hkey.symm ▸ hold), Change.absorb, hkey] at hone
  split at hone
  · cases hone
    rfl
  · split at hone <;> cases hone

end Scene

/-- While a row stays in the baseline, no transaction older than its stamp can write it. -/
theorem Run.rejects_of_older {s t : Scene} {log : List Moment} {name : String} {tx : Transaction} {k : Key}
    {c₀ : Change} (run : Run s log t) (hs : s.Sound) (hsteady : Steady log) (hc₀ : s.entry? k = some c₀)
    (hstays : ∀ m ∈ log, m.after.entry? k ≠ none) (htx : t.transaction? name = some tx)
    (hact : tx.isActive = true) (holder : tx.id < c₀.writeId) (hwrites : tx.Writes k) :
    t.Rejects name tx k ∧ ((∀ j, tx.Writes j → j = k) → ∃ old c, t.entry? k = some old ∧
      tx.changes.get? k = some c ∧
        t.baseline.commit tx = .error (.conflict k.label old.readId c.readId)) := by
  obtain ⟨c, hc, hown⟩ := hwrites
  have ht : t.Sound := run.sound hs hsteady
  obtain ⟨-, -, base, hcopies⟩ := ht.copies name tx htx hact
  obtain ⟨old, hold⟩ : ∃ old, t.entry? k = some old := Option.ne_none_iff_exists'.1 <|
    run.invariant (I := fun t => t.entry? k ≠ none) (by simp [hc₀]) fun m hm _ _ => hstays m hm
  have houtranked : c₀.writeId ≤ old.writeId := run.writeId_le hs hsteady hstays hc₀ hold
  have hread : c.readId < old.writeId :=
    UInt64.lt_of_le_of_lt (hcopies.readId_le hc hown) (UInt64.lt_of_lt_of_le holder houtranked)
  have hrejects : t.Rejects name tx k := (Scene.rejects_iff_of_some ht htx hact hc hown hold).2 hread
  refine ⟨hrejects, fun honly => ?_⟩
  obtain ⟨d, hd, hconflict⟩ := Scene.conflict_of_rejects hrejects hact hold honly
  exact ⟨old, d, hold, hd, hconflict⟩

/-- A row that has to leave storage again gets a stamp above all that were issued before. No transaction
that had begun by then can write the row while it stays in the baseline, whoever has rewritten it since. -/
theorem Run.restored_delete_outranks {settings : Settings} {store : Store} {earlier later : List Moment}
    {m : Moment} {now : Scene} {k : Key}
    (run : Run ⟨.new settings store, none⟩ (earlier ++ m :: later) now)
    (hsteady : Steady (earlier ++ m :: later)) (hm : m.Restores k) :
    ∃ row id, m.after.entry? k = some (.condemned row id) ∧
      (∀ j c, m.before.entry? j = some c → c.readId < id ∧ c.writeId < id) ∧
      (∀ b ∈ earlier, ∀ name tx, b.what = .act (.begin name) → b.after.transaction? name = some tx →
        tx.id < id) ∧
      ∀ name tx, now.transaction? name = some tx → tx.isActive = true →
        (∀ b ∈ later, b.what ≠ .act (.begin name)) → tx.Writes k →
        (∀ m' ∈ later, m'.after.entry? k ≠ none) → now.Rejects name tx k ∧
          ((∀ j, tx.Writes j → j = k) → ∃ old c, now.entry? k = some old ∧ tx.changes.get? k = some c ∧
            now.baseline.commit tx = .error (.conflict k.label old.readId c.readId)) := by
  obtain ⟨hearlier, hnext, hlater⟩ := run.split
  have hsteadyEarlier : Steady earlier := fun m' hm' => hsteady m' (by simp [hm'])
  have hsteadyLater : Steady later := fun m' hm' => hsteady m' (by simp [hm'])
  have hsound : m.before.Sound := hearlier.sound (.new settings store) hsteadyEarlier
  have hle : m.before.lastId ≤ m.after.lastId := hsteady m (by simp)
  have hsound' : m.after.Sound := (Scene.step_of_next hnext).sound hsound hle
  obtain ⟨hid, row, hrow⟩ := (Scene.step_of_next hnext).entry?_of_restores hm
  have hlt : m.before.lastId < m.after.lastId := by
    rw [hid] at hle ⊢
    exact Stamp.lt_next hle
  refine ⟨row, m.after.lastId, hrow, fun j c hc => ?_, fun b hb name tx hwhat htx => ?_, ?_⟩
  · obtain ⟨hcommitted, hissued⟩ := hsound.committed j c hc
    have hwrite : c.writeId < m.after.lastId := UInt64.lt_of_le_of_lt hissued hlt
    exact ⟨hcommitted.readId_eq ▸ hwrite, hwrite⟩
  · exact UInt64.lt_of_le_of_lt (hearlier.begun_id_le hsteadyEarlier hb hwhat htx) hlt
  · intro name tx htx hact hkept hwrites hstays
    obtain ⟨tx₀, htx₀, hact₀, hid₀⟩ := hlater.active_of_active hkept htx hact
    have hissued : tx.id < m.after.lastId := by
      rcases (Scene.step_of_next hnext).origin htx₀ hact₀ with ⟨tx₁, htx₁, hact₁, hid₁, -⟩ | ⟨hbegin, -⟩
      · rw [← hid₀, ← hid₁]
        exact UInt64.lt_of_le_of_lt (hsound.copies name tx₁ htx₁ hact₁).2.1 hlt
      · cases hm.1.symm.trans hbegin
    exact hlater.rejects_of_older hsound' hsteadyLater hrow hstays htx hact hissued hwrites

/-- A transaction has updated the row before another cancels it, and a third inserts it anew over the
restored delete. -/
theorem update_of_restored_row_conflicts :
    let begun : List Happening := [.act (.begin "t"), .act (.edit "t" (.update (.sample 2)))]
    let flight : List Happening := [.ship, .deliver, .act (.begin "b"),
      .act (.edit "b" (.erase (.number 1))), .act (.commit "b")]
    let later : List Happening := [.act (.begin "c"), .act (.edit "c" (.insert (.sample 3))),
      .act (.commit "c")]
    let before := (Scene.insertedOnce.play (begun ++ flight)).2
    let after := (before.play [.settle]).2
    let now := (after.play later).2
    let c := (Change.inserted (.sample 1) 1).updated (.sample 2) 2
    before.entry? (.number 1) = none ∧ now.live? (.number 1) = some (.sample 3) ∧
      ∃ tx, now.transaction? "t" = some tx ∧ tx.changes.get? (.number 1) = some c ∧
        now.Rejects "t" tx (.number 1) ∧
        now.baseline.commit tx = .error (.conflict "Int(1)" 5 1) := by
  intro begun flight later before after now c
  let start : List Happening := [.act (.begin "a"), .act (.edit "a" (.insert (.sample 1))), .act (.commit "a")]
  let tx : Transaction := ⟨2, .active, ChangeSet.empty.put c⟩
  have run : Run Scene.blank (((Scene.blank.play start).1 ++ (Scene.insertedOnce.play (begun ++ flight)).1) ++
      ⟨before, .settle, after⟩ :: (after.play later).1) now :=
    ((Run.play Scene.blank start).append (.play Scene.insertedOnce _)).append
      (.cons rfl (.play after later))
  have hrestores : Moment.Restores ⟨before, .settle, after⟩ (.number 1) :=
    ⟨rfl, by decide, _, .inserted (.sample 1) 1, rfl, .head _, rfl, rfl⟩
  have htx : now.transaction? "t" = some tx := by decide
  have hwrites : ∀ j, tx.Writes j → j = .number 1 := fun j hj =>
    List.mem_singleton.1 (Transaction.writes_iff_mem_keys.1 hj)
  obtain ⟨row, id, -, -, -, houtranks⟩ := run.restored_delete_outranks (by decide) hrestores
  have hkept : ∀ m ∈ (after.play later).1, m.what ≠ .act (.begin "t") := fun m hm he =>
    absurd (he ▸ Scene.what_mem_of_mem_play hm) (by simp [later])
  obtain ⟨hrejects, hconflict⟩ := houtranks "t" tx htx rfl hkept ⟨c, rfl, rfl⟩ (by decide)
  obtain ⟨old, d, hold, hd, hcommit⟩ := hconflict hwrites
  have hrewritten : now.entry? (.number 1) = some ⟨.sample 3, 5, 5, true, .insert⟩ := by decide
  cases hrewritten.symm.trans hold
  cases hd
  exact ⟨by decide, by decide, tx, htx, rfl, hrejects, hcommit⟩

end TrackedRows
