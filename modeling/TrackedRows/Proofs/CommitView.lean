import TrackedRows.Proofs.Lifetime

namespace TrackedRows

/-- The transaction found a row that storage did not have yet, wrote it, and deleted what it had
written. Nothing is left in it to tell the baseline of the delete. -/
def Transaction.Forgets (tx : Transaction) (base : ChangeSet) (k : Key) : Prop :=
  tx.changes.get? k = none ∧ ∃ c, base.get? k = some c ∧ c.isLive = true ∧ c.isStored = false

theorem Unbacked.forgets_iff {tx : Transaction} {base : ChangeSet} {k : Key}
    (h : Unbacked (base.get? k)) (hk : tx.changes.get? k = none) :
    tx.Forgets base k ↔ base.live? k ≠ none := by
  rw [ChangeSet.live?_ne_none_iff]
  constructor
  · rintro ⟨-, c, hc, hl, -⟩
    exact ⟨c, hc, hl⟩
  · rintro ⟨c, hc, hl⟩
    exact ⟨hk, c, hc, hl, h c hc hl⟩

namespace Lifetime

variable {name : String} {start now : Scene} {log : List Moment} {tx : Transaction} {k : Key}
  {report : CommitReport} {b : Baseline}

theorem live?_of_written {c : Change} (h : Lifetime name start log now)
    (hc : now.baseline.commit tx = .ok (report, b))
    (hw : Written tx.id (start.entry? k) (tx.changes.get? k)) (hk : tx.changes.get? k = some c) :
    b.changes.live? k = tx.row? k := by
  have hown : c.writeId = tx.id := (hk ▸ hw).writeId_eq
  have hl := Baseline.lands_of_commit hc hk hown
  rw [Transaction.row?, ChangeSet.live?, ChangeSet.live?, hk]
  exact hl.live?_eq fun old hold => (h.sound.committed k old hold).1

/-- After a commit readers see what the transaction saw of the rows it wrote, except where it forgot a
delete. All other entries are as they were. -/
theorem commit_shows_view (h : Lifetime name start log now) (htx : now.transaction? name = some tx)
    (hc : now.baseline.commit tx = .ok (report, b)) :
    (∀ k, (∃ m ∈ log, m.Edits name k) → (∀ m ∈ log, ∀ other, other ≠ name → ¬ m.Commits other k) →
      (∀ m ∈ log, ¬ m.Seeds k) →
        (b.changes.live? k = tx.row? k ↔ ¬ tx.Forgets start.baseline.changes k)) ∧
      ∀ k, (∀ m ∈ log, ¬ m.Edits name k) → b.changes.get? k = now.entry? k := by
  obtain ⟨hact, -, hland⟩ := Baseline.commit_ok hc
  refine ⟨fun k hedits hcommit hseed => ?_, fun k hno => ?_⟩
  · have hw := h.written_of_edits htx hact hedits
    cases hk : tx.changes.get? k with
    | some c => simp [h.live?_of_written hc hw hk, Transaction.Forgets, hk]
    | none =>
        have hcommit' : ∀ m ∈ log, ∀ other, ¬ m.Commits other k := by
          intro m hm other
          by_cases hn : other = name
          · exact hn ▸ h.not_commits htx hact m hm
          · exact hcommit m hm other hn
        have hsame : b.changes.get? k = now.entry? k := (hland k).2 fun c hc => by
          rw [hk] at hc
          cases hc
        have hlive : b.changes.live? k = start.live? k :=
          (congrArg (·.bind Change.live?) hsame).trans (h.live?_eq hcommit' hseed)
        have hunbacked : Unbacked (start.entry? k) := by
          rw [hk] at hw
          cases hw with
          | gone h => exact h
        have hrow : tx.row? k = none := by rw [Transaction.row?, ChangeSet.live?, hk]; rfl
        rw [hunbacked.forgets_iff hk, hlive, hrow]
        exact Classical.not_not.symm
  · have hk := h.eq_of_unedited htx hact hno
    refine (hland k).2 fun c hc hown => ?_
    obtain ⟨hid, hcopies⟩ := h.copies htx hact
    have hlt := (hcopies.older k c (hk.symm.trans hc)).2
    rw [hown] at hlt
    exact UInt64.lt_irrefl _ hlt

end Lifetime

theorem updates_are_shown :
    let plan : List Happening := [.act (.edit "b" (.update (.sample 2))), .ship, .deliver, .settle]
    let now := ((Scene.insertedOnce.begun "b").play plan).2
    ∃ tx report b, now.transaction? "b" = some tx ∧ now.baseline.commit tx = .ok (report, b) ∧
      b.changes.live? (.number 1) = tx.row? (.number 1) := by
  intro plan now
  have hlife : Lifetime "b" Scene.insertedOnce ((Scene.insertedOnce.begun "b").play plan).1 now :=
    .play Scene.insertedOnce_reachable (by decide) (by decide) (by simp [plan])
  refine ⟨_, _, _, rfl, rfl, ?_⟩
  have hshown := (hlife.commit_shows_view rfl rfl).1 (.number 1)
  refine (hshown ⟨_, .head _, _, _, _, rfl, rfl, rfl, rfl⟩ ?_ ?_).2 fun hforgets => ?_
  · exact fun m hm other _ => Scene.not_commits_of_play (by simp [plan]) m hm other
  · exact Scene.not_seeds_of_play (by simp [plan])
  · cases hforgets.1

/-- The transaction sees no row when it commits, and everybody else sees the row that was there. -/
theorem deletes_can_be_forgotten :
    let plan : List Happening :=
      [.act (.edit "b" (.update (.sample 2))), .act (.edit "b" (.erase (.number 1)))]
    let log := ((Scene.insertedOnce.begun "b").play plan).1
    let now := ((Scene.insertedOnce.begun "b").play plan).2
    Lifetime "b" Scene.insertedOnce log now ∧ (∃ m ∈ log, m.Edits "b" (.number 1)) ∧
      (∀ m ∈ log, ∀ other, ¬ m.Commits other (.number 1)) ∧ (∀ m ∈ log, ¬ m.Seeds (.number 1)) ∧
      ∃ tx report b, now.transaction? "b" = some tx ∧ now.baseline.commit tx = .ok (report, b) ∧
        tx.row? (.number 1) = none ∧ b.changes.live? (.number 1) = some (.sample 1) := by
  intro plan log now
  refine ⟨.play Scene.insertedOnce_reachable (by decide) (by decide) (by simp [plan]), ?_, ?_, ?_, ?_⟩
  · exact ⟨_, .head _, _, _, _, rfl, rfl, rfl, rfl⟩
  · exact Scene.not_commits_of_play (by simp [plan])
  · exact Scene.not_seeds_of_play (by simp [plan])
  · exact ⟨_, _, _, rfl, rfl, rfl, by decide⟩

end TrackedRows
