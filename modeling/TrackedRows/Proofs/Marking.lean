import TrackedRows.Proofs.Convergence
import TrackedRows.Proofs.Legality

namespace TrackedRows

/-- What a batch meets on its way to storage. -/
def Flight.plan (f : Flight Action) : List Happening :=
  f.before.map .act ++ ((if f.delivers then [.deliver] else []) ++ f.after.map .act)

namespace Session

/-- The scene in which the next batch starts on its way. -/
def shipped (s : Session) : Scene := ⟨{ s with armed := none }, some s.baseline.changes.shipment⟩

/-- All that happens while the next batch is on its way, and the scene in which it settles. -/
def inFlight (s : Session) : List Moment × Scene :=
  match s.baseline.changes.unsettled with
  | [] => ([], ⟨s, none⟩)
  | _ :: _ => s.shipped.play s.flight.plan

end Session

theorem Flight.what_of_mem_plan {f : Flight Action} {what : Happening} (h : what ∈ f.plan) :
    what = .deliver ∨ ∃ a, what = .act a := by
  simp only [plan, List.mem_append, List.mem_map] at h
  rcases h with ⟨a, -, rfl⟩ | hdeliver | ⟨a, -, rfl⟩
  · exact .inr ⟨a, rfl⟩
  · cases hd : f.delivers <;> simp [hd] at hdeliver
    exact .inl hdeliver
  · exact .inr ⟨a, rfl⟩

theorem Flight.not_settle_of_mem_play {f : Flight Action} {s : Scene} {m : Moment}
    (hm : m ∈ (s.play f.plan).1) : m.what ≠ .settle := by
  rcases what_of_mem_plan (Scene.what_mem_of_mem_play hm) with hwhat | ⟨a, hwhat⟩
  · simp [hwhat]
  · simp [hwhat]

theorem Scene.play_acts (s : Session) (sh : Option Shipment) (as : List Action) :
    (play ⟨s, sh⟩ (as.map .act)).2 = ⟨(s.run as).2, sh⟩ := by
  induction as generalizing s with
  | nil => rfl
  | cons a as ih => exact ih (s.act a).2

/-- Rows found in storage do not enter over an entry that a transaction wrote. -/
theorem Run.entry?_eq_of_uncommitted {s t : Scene} {log : List Moment} {k : Key} {c : Change}
    (run : Run s log t) (hc : s.entry? k = some c) (hread : c.readId ≠ 0)
    (hcommit : ∀ m ∈ log, ∀ name, ¬ m.Commits name k) (hsettle : ∀ m ∈ log, m.what ≠ .settle) :
    t.entry? k = some c := by
  refine run.invariant (I := fun t => t.entry? k = some c) hc fun m hm hnext hk => ?_
  have hseed : ¬ m.Seeds k := fun hseeds => hread (hseeds.readId_eq_zero hk)
  have hsettles : ¬ m.Settles k := fun hsettles => hsettle m hm hsettles.1
  exact ((Scene.step_of_next hnext).entry?_eq (hcommit m hm) hseed hsettles).trans hk

namespace Session

variable {s : Session} {report : FlushReport} {w c : Change} {k : Key}

theorem play_plan_of_persist_ok {batch : List Change} {hd : (batch.map Change.key).Nodup}
    (hok : (s.persist batch).1 = .ok ()) :
    (Scene.play ⟨{ s with armed := none }, some ⟨batch, hd, false⟩⟩ s.flight.plan).2 =
      ⟨(s.persist batch).2.2, some ⟨batch, hd, s.flight.delivers⟩⟩ := by
  have hflight : s.armed.getD .direct = s.flight := rfl
  simp only [persist, hflight] at hok ⊢
  rw [Flight.plan, Scene.play_append, Scene.play_acts]
  generalize { s with armed := none }.run s.flight.before = r at hok ⊢
  obtain ⟨before, s₁⟩ := r
  cases hdel : s.flight.delivers with
  | false =>
      simp only [Bool.false_eq_true, if_false, List.nil_append, Scene.play_acts]
      cases s.flight.refusal <;> rfl
  | true =>
      simp only [hdel, if_true] at hok ⊢
      cases hp : s₁.store.persist batch with
      | mk delivered store =>
          rw [hp] at hok
          cases delivered with
          | error reason => cases hok
          | ok _ =>
              have harrive : Scene.next ⟨s₁, some ⟨batch, hd, false⟩⟩ .deliver =
                  some ⟨{ s₁ with store }, some ⟨batch, hd, true⟩⟩ := by
                simp only [Scene.next, hp]
              simp only [List.singleton_append, Scene.play, harrive, Scene.play_acts]
              cases s.flight.refusal <;> rfl

theorem inFlight_of_pending (hne : s.baseline.changes.unsettled ≠ []) :
    s.inFlight = s.shipped.play s.flight.plan := by
  obtain ⟨c, rest, hb⟩ := List.exists_cons_of_ne_nil hne
  simp only [inFlight, hb]

theorem inFlight_of_persist_ok (hne : s.baseline.changes.unsettled ≠ [])
    (hok : (s.persist s.baseline.changes.unsettled).1 = .ok ()) :
    s.inFlight.2 = ⟨(s.persist s.baseline.changes.unsettled).2.2,
      some ⟨_, s.baseline.changes.shipment.distinct, s.flight.delivers⟩⟩ := by
  rw [inFlight_of_pending hne]
  exact play_plan_of_persist_ok hok

/-- Where there is no batch, this holds of the entries, which are all settled. -/
theorem flush_settles_inFlight (hok : s.flush.1.outcome = .ok report) :
    report.persisted = s.baseline.changes.unsettled.length ∧
      report.marked = (s.inFlight.2.baseline.reconcile s.baseline.changes.unsettled).1 ∧
      ∀ k, s.flush.2.baseline.changes.get? k =
        (s.inFlight.2.baseline.reconcile s.baseline.changes.unsettled).2.changes.get? k := by
  by_cases hb : s.baseline.changes.unsettled = []
  · have hnow : s.inFlight.2 = ⟨s, none⟩ := by simp only [inFlight, hb]
    have hd : (([] : List Change).map Change.key).Nodup := List.nodup_nil
    rw [flush_of_settled hb] at hok ⊢
    cases hok
    rw [hnow, hb]
    exact ⟨rfl, rfl, fun k => (Baseline.get?_reconcile_of_not_mem hd List.not_mem_nil).symm⟩
  · obtain ⟨hpersist, rfl, hflush⟩ := flush_of_ok hok hb
    rw [inFlight_of_persist_ok hb hpersist, hflush]
    exact ⟨rfl, rfl, fun _ => rfl⟩

theorem shipped_sound (hreach : Scene.Reachable ⟨s, none⟩) : s.shipped.Sound :=
  (Step.ship rfl).sound hreach.sound (UInt64.le_refl _)

theorem inFlight_of_mem (hw : w ∈ s.baseline.changes.unsettled) :
    s.inFlight = s.shipped.play s.flight.plan :=
  inFlight_of_pending (List.ne_nil_of_mem hw)

theorem inFlight_sound (hreach : Scene.Reachable ⟨s, none⟩) (hsteady : Steady s.inFlight.1)
    (hw : w ∈ s.baseline.changes.unsettled) : s.inFlight.2.Sound := by
  rw [inFlight_of_mem hw] at hsteady ⊢
  exact (Run.play ..).sound (shipped_sound hreach) hsteady

/-- A commit in flight replaces the entry of a batch by one that differs from it in its stamp, and nothing
else in flight touches it. -/
theorem untouched_iff (hreach : Scene.Reachable ⟨s, none⟩) (hsteady : Steady s.inFlight.1)
    (hw : w ∈ s.baseline.changes.unsettled) :
    (Scene.entry? s.inFlight.2 w.key = some w ↔ ∀ m ∈ s.inFlight.1, ∀ name, ¬ m.Commits name w.key) ∧
      ∀ c, Scene.entry? s.inFlight.2 w.key = some c → c = w ∨ c.writeId ≠ w.writeId := by
  rw [inFlight_of_mem hw] at hsteady ⊢
  have run := Run.play s.shipped s.flight.plan
  have hsound := shipped_sound hreach
  obtain ⟨hentry, hunsettled⟩ := ChangeSet.mem_unsettled_iff.1 hw
  -- Rows found in storage may come back under the stamp 0, and so could be taken for an entry with it.
  have hwritten : w.writeId ≠ 0 := fun hzero => by
    cases (hreach.grounded.settled w.key w hentry hzero).symm.trans hunsettled
  have hkept : (∀ m ∈ (s.shipped.play s.flight.plan).1, ∀ name, ¬ m.Commits name w.key) →
      Scene.entry? (s.shipped.play s.flight.plan).2 w.key = some w := fun hcommit => by
    refine run.entry?_eq_of_uncommitted hentry ?_ hcommit fun m hm => Flight.not_settle_of_mem_play hm
    rwa [(hsound.committed w.key w hentry).1.readId_eq]
  have hreplaced : (∃ m ∈ (s.shipped.play s.flight.plan).1, ∃ name, m.Commits name w.key) →
      ∀ c, Scene.entry? (s.shipped.play s.flight.plan).2 w.key = some c → c.writeId ≠ w.writeId :=
    fun hcommit c hc => run.writeId_ne_of_commits hsteady (hsound.spent hentry)
      (fun hzero => absurd hzero hwritten) hcommit hc
  refine ⟨⟨fun hsame m hm name hcommits => ?_, hkept⟩, fun c hc => ?_⟩
  · exact hreplaced ⟨m, hm, name, hcommits⟩ w hsame rfl
  · by_cases hcommit : ∃ m ∈ (s.shipped.play s.flight.plan).1, ∃ name, m.Commits name w.key
    · exact .inr (hreplaced hcommit c hc)
    · have hsame := hkept fun m hm name hcommits => hcommit ⟨m, hm, name, hcommits⟩
      exact .inl (Option.some.inj (hc.symm.trans hsame))

theorem isUntouched_iff (hreach : Scene.Reachable ⟨s, none⟩) (hsteady : Steady s.inFlight.1)
    (hw : w ∈ s.baseline.changes.unsettled) :
    s.inFlight.2.baseline.changes.isUntouched w = true ↔ Scene.entry? s.inFlight.2 w.key = some w := by
  obtain ⟨-, hother⟩ := untouched_iff hreach hsteady hw
  rw [ChangeSet.isUntouched, Option.any_eq_true]
  constructor
  · rintro ⟨c, hc, hsame⟩
    rcases hother c hc with rfl | hne
    · exact hc
    · simp [Change.sameVersion, hne] at hsame
  · exact fun hc => ⟨w, hc, by simp [Change.sameVersion]⟩

theorem flush_of_mem (hok : s.flush.1.outcome = .ok report) (hc : Scene.entry? s.inFlight.2 k = some c)
    (hbatch : c ∈ s.baseline.changes.unsettled) :
    s.flush.2.baseline.changes.get? k = if c.isLive then some c.settled else none := by
  obtain ⟨-, -, hafter⟩ := flush_settles_inFlight hok
  obtain rfl : c.key = k := ChangeSet.key_of_get? hc
  refine (hafter c.key).trans ?_
  refine (Baseline.get?_reconcile_of_mem s.baseline.changes.shipment.distinct hbatch).trans ?_
  rw [show s.inFlight.2.baseline.changes.get? c.key = some c from hc]
  exact Change.reconciled_self ..

theorem flush_of_not_mem (hreach : Scene.Reachable ⟨s, none⟩) (hok : s.flush.1.outcome = .ok report)
    (hsteady : Steady s.inFlight.1) (hc : Scene.entry? s.inFlight.2 k = some c)
    (hbatch : c ∉ s.baseline.changes.unsettled) :
    (∀ d, s.flush.2.baseline.changes.get? k = some d → d.isSettled = true → c.isSettled = true) ∧
      (s.flush.2.baseline.changes.get? k = none →
        c.isLive = false ∧ ∃ w ∈ s.baseline.changes.unsettled, w.key = k ∧ w.isLive = false) := by
  obtain ⟨-, -, hafter⟩ := flush_settles_inFlight hok
  have hd : (s.baseline.changes.unsettled.map Change.key).Nodup := s.baseline.changes.shipment.distinct
  have hnow : s.inFlight.2.baseline.changes.get? k = some c := hc
  rw [hafter k]
  by_cases hk : k ∈ s.baseline.changes.unsettled.map Change.key
  · obtain ⟨w, hw, rfl⟩ := List.mem_map.1 hk
    have hne : c.writeId ≠ w.writeId :=
      ((untouched_iff hreach hsteady hw).2 c hc).resolve_left fun h => hbatch (h ▸ hw)
    have hother : c.sameVersion w = false := by simp [Change.sameVersion, hne]
    rw [Baseline.get?_reconcile_of_mem hd hw, hnow]
    refine ⟨fun d hsome hsettled => ?_, fun hnone => ?_⟩
    · exact Change.isSettled_of_isSettled_reconciled hsome
        ((inFlight_sound hreach hsteady hw).committed w.key c hc).1 hother hsettled
    · exact ⟨Change.not_isLive_of_reconciled_eq_none hnone, w, hw, rfl,
        Change.not_isLive_of_reconciled_other hnone hother⟩
  · rw [Baseline.get?_reconcile_of_not_mem hd hk, hnow]
    refine ⟨fun d hsome hsettled => ?_, fun hnone => ?_⟩
    · cases hsome
      exact hsettled
    · cases hnone

/-- A flush hands to storage, as one batch, all that is pending. It counts and settles those entries of
the batch that are still, in every field, as they went to storage, and these are the entries that no commit
has written meanwhile. Any other entry stays as pending as it is, and is dropped only where both it and
what went to storage delete the row. -/
theorem flush_marks_exactly (hreach : Scene.Reachable ⟨s, none⟩) (hok : s.flush.1.outcome = .ok report)
    (hsteady : Steady s.inFlight.1) :
    let batch := s.baseline.changes.unsettled
    let log := s.inFlight.1
    let now := s.inFlight.2
    let after := s.flush.2.baseline.changes
    (batch = [] → s.flush.1.batches = []) ∧
      (batch ≠ [] → s.flush.1.batches = [batch] ∧ (s.persist batch).1 = .ok () ∧
        s.flush.1.during = (s.persist batch).2.1 ∧ now.session = (s.persist batch).2.2 ∧
        s.flush.2.store = (s.persist batch).2.2.store) ∧
      (s.flight.isHonest = true → s.flush.2.store.rows = batch.foldl Store.write s.store.rows) ∧
      report.persisted = batch.length ∧
      report.marked = batch.countP (fun w => now.entry? w.key = some w) ∧
      (∀ w ∈ batch, now.entry? w.key = some w ↔ ∀ m ∈ log, ∀ name, ¬ m.Commits name w.key) ∧
      ∀ k c, now.entry? k = some c →
        (c ∈ batch → after.get? k = if c.isLive then some c.settled else none) ∧
        (c ∉ batch → (∀ d, after.get? k = some d → d.isSettled = true → c.isSettled = true) ∧
          (after.get? k = none → c.isLive = false ∧ ∃ w ∈ batch, w.key = k ∧ w.isLive = false)) := by
  intro batch log now after
  obtain ⟨hpersisted, hmarked, -⟩ := flush_settles_inFlight hok
  refine ⟨fun hnil => ?_, fun hne => ?_, fun hflight => rows_flush hflight hok, hpersisted, ?_,
    fun w hw => (untouched_iff hreach hsteady hw).1,
    fun k c hc => ⟨flush_of_mem hok hc, flush_of_not_mem hreach hok hsteady hc⟩⟩
  · rw [flush_of_settled hnil]
  · obtain ⟨hpersist, -, hflush⟩ := flush_of_ok hok hne
    have hnow := congrArg Scene.session (inFlight_of_persist_ok hne hpersist)
    rw [hflush]
    exact ⟨rfl, hpersist, rfl, hnow, rfl⟩
  · rw [hmarked]
    refine (ChangeSet.snd_reconcile s.baseline.changes.shipment.distinct ..).trans ?_
    refine List.countP_congr fun w hw => ?_
    rw [decide_eq_true_iff]
    exact isUntouched_iff hreach hsteady hw

end Session

namespace Interference

/-- One of two rows is updated while both are on their way. -/
def flight : Flight Action where
  before := [.begin "b", .edit "b" (.update (.sample 2)), .commit "b"]
  after := []
  delivers := true
  refusal := none

def setup : List Happening :=
  [.act (.begin "a"), .act (.edit "a" (.insert (.sample 1))), .act (.edit "a" (.insert (.blank (.number 2)))),
    .act (.commit "a"), .act (.arm flight)]

def start : Session := (Scene.blank.play setup).2.session

end Interference

open Interference in
/-- Storage gets both rows as they were taken. -/
theorem rewritten_entry_is_not_marked :
    let w : Change := .inserted (.blank (.number 2)) 1
    let c : Change := ⟨.sample 2, 2, 2, false, .insert⟩
    start.flush.1.outcome = .ok ⟨2, 1⟩ ∧ start.flush.1.batches = [[.inserted (.sample 1) 1, w]] ∧
      start.flush.2.store.rows.items = [.sample 1, .blank (.number 2)] ∧
      Scene.entry? start.inFlight.2 (.number 1) = some c ∧
      start.flush.2.baseline.changes.get? (.number 1) = some { c with isStored := true, pending := .update } ∧
      start.flush.2.baseline.changes.get? (.number 2) = some w.settled := by
  intro w c
  have hreach : Scene.Reachable ⟨start, none⟩ :=
    Scene.reachable_of_play (by decide : Steady (Scene.blank.play setup).1)
  have hok : start.flush.1.outcome = .ok ⟨2, 1⟩ := rfl
  have hsteady : Steady start.inFlight.1 := by decide
  obtain ⟨-, hbatch, hrows, -, -, huntouched, hentries⟩ :=
    Session.flush_marks_exactly hreach hok hsteady
  obtain ⟨hbatches, -⟩ := hbatch (by decide)
  have hw : w ∈ start.baseline.changes.unsettled := by decide
  have hflight : start.flight = flight := rfl
  have hforeign : ∀ m ∈ start.inFlight.1, ((m.before.transaction? "b").all fun tx =>
      (tx.changes.get? w.key).all fun d => d.writeId ≠ tx.id) = true := by decide
  have hkept : Scene.entry? start.inFlight.2 w.key = some w := (huntouched w hw).2 <| by
    rintro m hm name ⟨tx, _, _, d, hwhat, htx, -, hd, hown⟩
    have hplan := hm
    rw [Session.inFlight_of_mem hw] at hplan
    obtain rfl : name = "b" := by
      simpa [hwhat, hflight, Flight.plan, flight] using Scene.what_mem_of_mem_play hplan
    simpa [htx, hd, hown] using hforeign m hm
  have hstored := congrArg Keyed.items (hrows (by decide))
  exact ⟨hok, hbatches.trans (by decide), hstored.trans (by decide), by decide, by decide,
    (hentries w.key w hkept).1 hw⟩

end TrackedRows
