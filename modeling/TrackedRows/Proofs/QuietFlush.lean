import TrackedRows.Proofs.Convergence

namespace TrackedRows

namespace ChangeSet

variable {s : ChangeSet}

theorem isSettled_iff : s.isSettled = true ↔ ∀ k c, s.get? k = some c → c.isSettled = true := by
  rw [isSettled, List.all_eq_true]
  constructor
  · exact fun h k c hc => h c (Keyed.mem_of_get? hc)
  · exact fun h c hc => h c.key c (Keyed.get?_of_mem hc)

/-- Settling everything that is pending comes to the same as settling the whole set. -/
theorem reconcile_unsettled (s : ChangeSet) (id : Stamp) : (s.reconcile s.unsettled id).1 = s.settled := by
  have hget := get?_reconcile_unsettled s id
  refine ext_get? hget ?_
  have hfold : (s.unsettled.foldl (fun s taken => s.reconcileOne id taken) s).isSettled = true := by
    refine isSettled_iff.2 fun k c hc => ?_
    rw [← get?_reconcile, hget] at hc
    exact isSettled_of_get?_settled hc
  rw [fst_reconcile]
  dsimp only
  rw [if_pos hfold]
  rfl

/-- Where nothing is pending, only dangling keys tell the set from a settled one. -/
theorem eq_settled_iff (h : s.unsettled = []) : s = s.settled ↔ s.dangling = .empty := by
  constructor
  · exact fun heq => congrArg dangling heq
  · intro hdangling
    have hreconciled := reconcile_unsettled s 0
    rw [h, fst_reconcile] at hreconciled
    refine ext_get? (fun k => ?_) hdangling
    rw [← hreconciled]
    dsimp only
    split <;> rfl

end ChangeSet

namespace Session

variable {s : Session} {report : FlushReport}

/-- A flush in which nothing lands settles the whole baseline and frees all dangling keys, so that rows
the baseline does not hold can enter it from storage. Where nothing was pending, it leaves the dangling keys
as they were, and rows with such a key cannot enter. -/
theorem quiet_flush_settles_iff (hok : s.flush.1.outcome = .ok report)
    (hquiet : ∀ e ∈ s.flush.1.during, e.reply.lands = false) :
    let before := s.baseline.changes
    let after := s.flush.2.baseline.changes
    (∀ k, after.get? k = before.settled.get? k) ∧
      (after = before.settled ↔ before.unsettled ≠ [] ∨ before.dangling = .empty) ∧
      ∀ rows : List Row, (∀ row ∈ rows, after.get? row.key = none) →
        ((∃ count, (s.flush.2.seed rows).1 = .ok count) ↔
          before.unsettled ≠ [] ∨ ∀ row ∈ rows, before.excludes row.key = false) := by
  intro before after
  have hseed : ∀ rows : List Row, (∃ count, (s.flush.2.seed rows).1 = .ok count) ↔
      ∃ seeded, s.flush.2.baseline.seed rows = .ok seeded := fun rows => by
    rw [seed]
    cases s.flush.2.baseline.seed rows <;> simp
  refine ⟨get?_flush hok hquiet, ?_⟩
  rcases changes_flush hok hquiet with ⟨hnil, hflush⟩ | ⟨hne, id, hflush⟩
  · have hsame : after = before := congrArg (·.baseline.changes) hflush
    refine ⟨?_, fun rows hnew => ?_⟩
    · rw [hsame, ChangeSet.eq_settled_iff hnil]
      exact (or_iff_right (not_not_intro hnil)).symm
    · rw [hseed, Baseline.exists_seed_iff hnew, or_iff_right (not_not_intro hnil), ← hsame]
  · have hsettled : after = before.settled := hflush.trans (ChangeSet.reconcile_unsettled before id)
    refine ⟨iff_of_true hsettled (.inl hne), fun rows hnew => ?_⟩
    have hfree : ∀ row ∈ rows, after.excludes row.key = false := fun row _ => by
      rw [hsettled]
      rfl
    rw [hseed, Baseline.exists_seed_iff hnew]
    exact iff_of_true hfree (.inl hne)

end Session

namespace QuietFlush

/-- A row is inserted, and cancelled before storage has it. -/
def cancellation : List Happening := [.act (.begin "a"), .act (.edit "a" (.insert (.sample 1))),
  .act (.commit "a"), .act (.begin "d"), .act (.edit "d" (.erase (.number 1))), .act (.commit "d")]

def cancelled : Scene := (Scene.blank.play cancellation).2

theorem cancelled_reachable : cancelled.Reachable := Scene.reachable_of_play (by decide)

end QuietFlush

open QuietFlush in
/-- Another row is pending, and a transaction begins while it is on its way. -/
theorem pending_row_frees_dangling_keys :
    let insertion : List Happening := [.act (.begin "c"),
      .act (.edit "c" (.insert (.blank (.number 2)))), .act (.commit "c"),
      .act (.arm ⟨[.begin "b"], [], true, none⟩)]
    let s := (cancelled.play insertion).2.session
    s.baseline.changes.excludes (.number 1) = true ∧ s.flush.1.outcome = .ok ⟨1, 1⟩ ∧
      s.flush.2.baseline.changes = s.baseline.changes.settled ∧
      ∃ count, (s.flush.2.seed [.sample 2]).1 = .ok count := by
  intro insertion s
  have hok : s.flush.1.outcome = .ok ⟨1, 1⟩ := rfl
  obtain ⟨-, hsettled, hseed⟩ := Session.quiet_flush_settles_iff hok (by decide)
  have hne : s.baseline.changes.unsettled ≠ [] := by decide
  exact ⟨by decide, hok, hsettled.2 (.inl hne), (hseed _ (by decide)).2 (.inl hne)⟩

open QuietFlush in
/-- Nothing is pending once the row is cancelled. A flush then lets its key dangle, and storage cannot
bring the row in. -/
theorem dangling_keys_can_outlive_flush :
    let s := cancelled.session
    Scene.Reachable ⟨s, none⟩ ∧ s.flush.1.outcome = .ok ⟨0, 0⟩ ∧ s.flush.1.during = [] ∧
      s.flush.2.baseline.changes ≠ s.baseline.changes.settled ∧
      s.flush.2.baseline.changes.get? (.number 1) = none ∧
      (s.flush.2.seed [.sample 1]).1 = .error (.missingRow "Int(1)") := by
  intro s
  exact ⟨cancelled_reachable, rfl, rfl, by decide, rfl, rfl⟩

end TrackedRows
