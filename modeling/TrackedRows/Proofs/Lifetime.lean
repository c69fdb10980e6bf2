import TrackedRows.Proofs.Sound

namespace TrackedRows

namespace Lifetime

variable {name : String} {start now : Scene} {log : List Moment} {tx : Transaction} {k : Key}

theorem induction {P : List Moment → Scene → Prop} (h : Lifetime name start log now)
    (hbegin : P [] (start.begun name))
    (hstep : ∀ log t what u, Lifetime name start log t → t.next what = some u →
      t.lastId ≤ u.lastId → what ≠ .act (.begin name) → P log t → P (log ++ [⟨t, what, u⟩]) u) :
    P log now := by
  obtain ⟨hreach, run, ⟨hroom, hsteady⟩, hkept⟩ := h
  induction run with
  | nil => exact hbegin
  | @snoc t u log what run hu ih =>
      have hsteady' : Steady log := fun m hm => hsteady m (by simp [hm])
      have hkept' : ∀ m ∈ log, m.what ≠ .act (.begin name) := fun m hm => hkept m (by simp [hm])
      exact hstep log t what u ⟨hreach, run, ⟨hroom, hsteady'⟩, hkept'⟩ hu
        (hsteady ⟨t, what, u⟩ (by simp)) (hkept ⟨t, what, u⟩ (by simp)) (ih hkept' hsteady')

theorem begun_sound (h : Lifetime name start log now) : (start.begun name).Sound :=
  Step.sound (.begin name) h.reachable.sound h.steady.1

theorem sound (h : Lifetime name start log now) : now.Sound := h.run.sound h.begun_sound h.steady.2

theorem origin {t u : Scene} {what : Happening} (h : t.next what = some u)
    (hne : what ≠ .act (.begin name)) (htx : u.transaction? name = some tx) (hact : tx.isActive = true) :
    t.transaction? name = some tx ∨
      ∃ e tx₀, what = .act (.edit name e) ∧ t.transaction? name = some tx₀ ∧ tx₀.edit e = .ok tx := by
  rcases (Scene.step_of_next h).transaction htx hact with htx | hedit | ⟨hbegin, -⟩
  · exact .inl htx
  · exact .inr hedit
  · exact absurd hbegin hne

/-- The transaction keeps its stamp, and goes on with the copy it was given. -/
theorem copies (h : Lifetime name start log now) (htx : now.transaction? name = some tx)
    (hact : tx.isActive = true) : tx.id = start.lastId + 1 ∧ tx.Copies start.baseline.changes := by
  refine h.induction (P := fun _ t => ∀ tx, t.transaction? name = some tx → tx.isActive = true →
    tx.id = start.lastId + 1 ∧ tx.Copies start.baseline.changes) ?_ ?_ tx htx hact
  · intro tx htx _
    rw [Scene.transaction?_begun, if_pos rfl] at htx
    cases htx
    refine ⟨rfl, fun k c hc => ?_, fun _ => .inl rfl⟩
    obtain ⟨hcommitted, hid⟩ := h.reachable.sound.committed k c hc
    exact ⟨hcommitted, UInt64.lt_of_le_of_lt hid (Stamp.lt_next h.steady.1)⟩
  · intro log t what u _ hnext _ hne ih tx htx hact
    rcases origin hnext hne htx hact with htx | ⟨e, tx₀, -, htx₀, he⟩
    · exact ih tx htx hact
    · obtain ⟨hact₀, hid, -⟩ := Transaction.edit_ok he
      obtain ⟨hid₀, hcopies⟩ := ih tx₀ htx₀ hact₀
      exact ⟨hid.trans hid₀, hcopies.edit he⟩

/-- What only edits of a row could change is as it was in the baseline when the transaction began. -/
theorem unedited {α : Type} {f : ChangeSet → α} (h : Lifetime name start log now)
    (hother : ∀ (tx tx' : Transaction) e, tx.edit e = .ok tx' → k ≠ e.key → f tx'.changes = f tx.changes)
    (htx : now.transaction? name = some tx) (hact : tx.isActive = true)
    (hno : ∀ m ∈ log, ¬ m.Edits name k) : f tx.changes = f start.baseline.changes := by
  refine h.induction (P := fun log t => (∀ m ∈ log, ¬ m.Edits name k) → ∀ tx,
    t.transaction? name = some tx → tx.isActive = true → f tx.changes = f start.baseline.changes)
    ?_ ?_ hno tx htx hact
  · intro _ tx htx _
    rw [Scene.transaction?_begun, if_pos rfl] at htx
    cases htx
    rfl
  · intro log t what u _ hnext _ hne ih hno tx htx hact
    have hno' : ∀ m ∈ log, ¬ m.Edits name k := fun m hm => hno m (by simp [hm])
    rcases origin hnext hne htx hact with htx | ⟨e, tx₀, rfl, htx₀, he⟩
    · exact ih hno' tx htx hact
    · have hk : k ≠ e.key := fun hk =>
        hno ⟨t, _, u⟩ (by simp) ⟨e, tx₀, tx, rfl, hk.symm, htx₀, he⟩
      exact (hother tx₀ tx e he hk).trans (ih hno' tx₀ htx₀ (Transaction.edit_ok he).1)

/-- The transaction holds a row it has not written as the baseline had it. -/
theorem eq_of_unedited (h : Lifetime name start log now) (htx : now.transaction? name = some tx)
    (hact : tx.isActive = true) (hno : ∀ m ∈ log, ¬ m.Edits name k) :
    tx.changes.get? k = start.entry? k :=
  h.unedited (f := (·.get? k)) (fun _ _ _ he hk => (Transaction.edit_ok he).2.2.2.1 k hk) htx hact hno

theorem not_writes_of_unedited (h : Lifetime name start log now) (htx : now.transaction? name = some tx)
    (hact : tx.isActive = true) (hno : ∀ m ∈ log, ¬ m.Edits name k) : ¬ tx.Writes k := by
  rintro ⟨c, hc, hown⟩
  rw [h.eq_of_unedited htx hact hno] at hc
  have hlt := ((h.copies htx hact).2.older k c hc).2
  rw [hown] at hlt
  exact UInt64.lt_irrefl _ hlt

theorem written_of_edits (h : Lifetime name start log now) (htx : now.transaction? name = some tx)
    (hact : tx.isActive = true) (hedits : ∃ m ∈ log, m.Edits name k) :
    Written tx.id (start.entry? k) (tx.changes.get? k) := by
  refine h.induction (P := fun log t => (∃ m ∈ log, m.Edits name k) → ∀ tx,
    t.transaction? name = some tx → tx.isActive = true →
      Written tx.id (start.entry? k) (tx.changes.get? k)) ?_ ?_ hedits tx htx hact
  · rintro ⟨m, hm, -⟩
    cases hm
  · rintro log t what u hlife hnext _ hne ih ⟨m, hm, hmk⟩ tx htx hact
    by_cases hlast : Moment.Edits ⟨t, what, u⟩ name k
    · obtain ⟨e, tx₀, tx', rfl, rfl, htx₀, he⟩ := hlast
      rw [Scene.transaction?_of_edit hnext htx₀ he] at htx
      cases htx
      exact (hlife.copies htx₀ (Transaction.edit_ok he).1).2.written_of_edit he
    · have hedits : ∃ m ∈ log, m.Edits name k := by
        rcases List.mem_append.1 hm with hm | hm
        · exact ⟨m, hm, hmk⟩
        · exact absurd (List.mem_singleton.1 hm ▸ hmk) hlast
      rcases origin hnext hne htx hact with htx | ⟨e, tx₀, rfl, htx₀, he⟩
      · exact ih hedits tx htx hact
      · obtain ⟨hact₀, hid, -, hother, -⟩ := Transaction.edit_ok he
        rw [hid, hother k fun hk => hlast ⟨e, tx₀, tx, rfl, hk.symm, htx₀, he⟩]
        exact ih hedits tx₀ htx₀ hact₀

theorem not_commits (h : Lifetime name start log now) (htx : now.transaction? name = some tx)
    (hact : tx.isActive = true) : ∀ m ∈ log, ¬ m.Commits name k := by
  refine h.induction (P := fun log t => ∀ tx, t.transaction? name = some tx → tx.isActive = true →
    ∀ m ∈ log, ¬ m.Commits name k) ?_ ?_ tx htx hact
  · intro _ _ _ m hm
    cases hm
  · intro log t what u _ hnext _ hne ih tx htx hact m hm
    rcases List.mem_append.1 hm with hm | hm
    · rcases origin hnext hne htx hact with htx | ⟨e, tx₀, -, htx₀, he⟩
      · exact ih tx htx hact m hm
      · exact ih tx₀ htx₀ (Transaction.edit_ok he).1 m hm
    · obtain rfl := List.mem_singleton.1 hm
      rintro ⟨tx₀, report, b, c, rfl, htx₀, hc, -⟩
      rw [Scene.transaction?_of_commit hnext htx₀ hc] at htx
      cases htx
      cases hact

theorem not_commits_of_others (h : Lifetime name start log now) (htx : now.transaction? name = some tx)
    (hact : tx.isActive = true) (hcommit : ∀ m ∈ log, ∀ other, other ≠ name → ¬ m.Commits other k) :
    ∀ m ∈ log, ∀ other, ¬ m.Commits other k := by
  intro m hm other
  by_cases hn : other = name
  · exact hn ▸ h.not_commits htx hact m hm
  · exact hcommit m hm other hn

/-- As long as nobody else writes a row, readers find the row in the baseline that they found there
when the transaction began. -/
theorem live?_eq (h : Lifetime name start log now) (hcommit : ∀ m ∈ log, ∀ other, ¬ m.Commits other k)
    (hseed : ∀ m ∈ log, ¬ m.Seeds k) : now.live? k = start.live? k :=
  h.run.live?_eq hcommit hseed

theorem play {plan : List Happening} (hreach : start.Reachable) (hroom : start.lastId ≤ start.lastId + 1)
    (hsteady : Steady ((start.begun name).play plan).1) (hkept : .act (.begin name) ∉ plan) :
    Lifetime name start ((start.begun name).play plan).1 ((start.begun name).play plan).2 :=
  ⟨hreach, .play .., ⟨hroom, hsteady⟩, fun _ hm he => hkept (he ▸ Scene.what_mem_of_mem_play hm)⟩

end Lifetime

end TrackedRows
