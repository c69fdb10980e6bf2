import TrackedRows.Proofs.Execution
import TrackedRows.Proofs.Seeding

namespace TrackedRows

namespace Change

variable {c : Change}

theorem isLive_of_isSettled (h : c.isSettled = true) : c.isLive = true := by
  simp_all [isSettled, isLive]

theorem settled_of_isSettled (h : c.isSettled = true) : c.settled = c := by
  obtain ⟨row, readId, writeId, isStored, pending⟩ := c
  simp_all [isSettled, settled]

end Change

namespace ChangeSet

variable {s : ChangeSet} {k : Key} {c : Change}

theorem get?_settled (s : ChangeSet) (k : Key) :
    s.settled.get? k = ((s.get? k).filter Change.isLive).map Change.settled :=
  (Keyed.get?_map Change.settled (fun _ => rfl) _ k).trans
    (congrArg (Option.map Change.settled) (Keyed.get?_filter ..))

theorem isSettled_of_get?_settled (h : s.settled.get? k = some c) : c.isSettled = true := by
  rw [get?_settled] at h
  obtain ⟨d, -, rfl⟩ := Option.map_eq_some_iff.1 h
  rfl

theorem live?_settled (s : ChangeSet) (k : Key) : s.settled.live? k = s.live? k := by
  rw [live?, live?, get?_settled]
  cases s.get? k with
  | none => rfl
  | some c =>
      cases hl : c.isLive with
      | false => simp [Option.filter, Change.live?, hl]
      | true =>
          have hsettled : c.settled.live? = some c.row := rfl
          simpa [Option.filter, Change.live?, hl] using hsettled

theorem isSettled_of_not_mem (hk : k ∉ s.unsettled.map Change.key) (hc : s.get? k = some c) :
    c.isSettled = true := by
  cases hs : c.isSettled with
  | true => rfl
  | false =>
      have hkey : c.key = k := key_of_get? hc
      exact absurd (List.mem_map.2 ⟨c, mem_unsettled_iff.2 ⟨hkey.symm ▸ hc, hs⟩, hkey⟩) hk

theorem unsettled_eq_nil (h : ∀ k c, s.get? k = some c → c.isSettled = true) : s.unsettled = [] := by
  refine List.eq_nil_iff_forall_not_mem.2 fun c hc => ?_
  obtain ⟨hget, hunsettled⟩ := mem_unsettled_iff.1 hc
  cases (h c.key c hget).symm.trans hunsettled

/-- Entries that nobody has touched since their batch was shipped are settled with it. -/
theorem get?_reconcile_unsettled (s : ChangeSet) (id : Stamp) (k : Key) :
    (s.reconcile s.unsettled id).1.get? k = s.settled.get? k := by
  obtain ⟨hin, hout⟩ := get?_foldl_reconcileOne s.shipment.distinct s id
  rw [get?_reconcile, get?_settled]
  by_cases hk : k ∈ s.unsettled.map Change.key
  · obtain ⟨w, hw, rfl⟩ := List.mem_map.1 hk
    refine (hin w hw).trans ?_
    rw [(mem_unsettled_iff.1 hw).1, Change.reconciled_self]
    cases hl : w.isLive <;> simp [Option.filter, hl]
  · refine (hout k hk).trans ?_
    cases hc : s.get? k with
    | none => rfl
    | some c =>
        have hsettled := isSettled_of_not_mem hk hc
        simp [Option.filter, Change.isLive_of_isSettled hsettled, Change.settled_of_isSettled hsettled]

end ChangeSet

/-- A store that agrees with a set, and takes over all that is pending in it, holds what is live in it. -/
theorem Store.get?_foldl_write_unsettled {s : ChangeSet} {rows : Keyed Row.key}
    (hagrees : ∀ k, Agrees (s.get? k) (rows.get? k)) (hs : ∀ k c, s.get? k = some c → c.Committed)
    (k : Key) : (s.unsettled.foldl write rows).get? k = s.live? k := by
  have hnews : ∀ w ∈ s.unsettled, w.pending ≠ .nothing := fun w hw => by
    obtain ⟨hc, hunsettled⟩ := ChangeSet.mem_unsettled_iff.1 hw
    exact (hs w.key w hc).pending_ne_of_unsettled hunsettled
  obtain ⟨hin, hout⟩ := get?_foldl_write s.shipment.distinct hnews rows
  by_cases hk : k ∈ s.unsettled.map Change.key
  · obtain ⟨w, hw, rfl⟩ := List.mem_map.1 hk
    refine (hin w hw).trans ?_
    rw [ChangeSet.live?, (ChangeSet.mem_unsettled_iff.1 hw).1]
    rfl
  · refine (hout k hk).trans ?_
    rw [ChangeSet.live?]
    cases hc : s.get? k with
    | none => exact (hagrees k).absent hc
    | some c =>
        have hsettled := ChangeSet.isSettled_of_not_mem hk hc
        rw [(hagrees k).row c hc hsettled]
        simp [Change.live?, Change.isLive_of_isSettled hsettled]

/-- The action has put rows into the baseline. -/
def Reply.lands : Reply → Bool
  | .committed (.ok _) | .seeded (.ok _) => true
  | _ => false

namespace Session

variable {s : Session}

theorem changes_act {a : Action} (h : (s.act a).1.lands = false) :
    (s.act a).2.baseline.changes = s.baseline.changes := by
  cases a with
  | edit name e =>
      simp only [act]
      split
      · simp only [edit, Prod.map]
        split <;> rfl
      · rfl
  | commit name =>
      simp only [act] at h ⊢
      split at h
      · rename_i tx htx
        cases hc : s.baseline.commit tx with
        | ok landed => simp [commit, hc, Reply.lands] at h
        | error fault => simp [commit, hc, setTransaction]
      · rfl
  | rollback name =>
      simp only [act]
      split <;> rfl
  | seed rows =>
      cases hs : s.baseline.seed rows with
      | ok seeded => simp [act, seed, hs, Reply.lands] at h
      | error fault => simp [act, seed, hs]
  | begin | drop | refuseNext | arm | look => rfl

theorem rows_act (s : Session) (a : Action) : (s.act a).2.store.rows = s.store.rows :=
  Keyed.ext_get? (show Step ⟨s, none⟩ (.act a) ⟨(s.act a).2, none⟩ from Scene.step_of_act).frame.2

theorem changes_run (s : Session) (as : List Action) (h : ∀ e ∈ (s.run as).1, e.reply.lands = false) :
    (s.run as).2.baseline.changes = s.baseline.changes := by
  induction as generalizing s with
  | nil => rfl
  | cons a as ih =>
      have hfirst := h ⟨a, (s.act a).1, (s.act a).2⟩ (List.mem_cons_self ..)
      exact (ih _ fun e he => h e (List.mem_cons_of_mem _ he)).trans (changes_act hfirst)

theorem rows_run (s : Session) (as : List Action) : (s.run as).2.store.rows = s.store.rows := by
  induction as generalizing s with
  | nil => rfl
  | cons a as ih => exact (ih (s.act a).2).trans (rows_act s a)

/-- While nothing lands, the changes of the baseline stay as they are until their batch settles. -/
theorem changes_persist (batch : List Change) (hquiet : ∀ e ∈ (s.persist batch).2.1, e.reply.lands = false) :
    (s.persist batch).2.2.baseline.changes = s.baseline.changes := by
  have harmed : s.armed.getD .direct = s.flight := rfl
  have hbefore := changes_run { s with armed := none } s.flight.before
  simp only [persist, harmed] at hquiet ⊢
  generalize { s with armed := none }.run s.flight.before = r at hbefore hquiet ⊢
  obtain ⟨before, s₁⟩ := r
  generalize (if s.flight.delivers then s₁.store.persist batch else (.ok (), s₁.store)) = delivery at hquiet ⊢
  obtain ⟨delivered, store⟩ := delivery
  cases delivered with
  | error reason => exact hbefore hquiet
  | ok _ =>
      have hafter := changes_run { s₁ with store } s.flight.after
      generalize s.flight.refusal = refusal at hquiet ⊢
      cases refusal with
      | none | some reason =>
          exact (hafter fun e he => hquiet e (List.mem_append_right _ he)).trans
            (hbefore fun e he => hquiet e (List.mem_append_left _ he))

/-- Of all that happens on the way, only the batch itself changes the rows of the store. -/
theorem rows_persist (batch : List Change) (hflight : s.flight.isHonest = true)
    (hok : (s.persist batch).1 = .ok ()) :
    (s.persist batch).2.2.store.rows = batch.foldl Store.write s.store.rows := by
  have harmed : s.armed.getD .direct = s.flight := rfl
  have hrows := rows_run { s with armed := none } s.flight.before
  simp only [persist, harmed] at hok ⊢
  generalize { s with armed := none }.run s.flight.before = r at hrows hok ⊢
  obtain ⟨before, s₁⟩ := r
  cases hdel : s.flight.delivers with
  | false =>
      obtain ⟨reason, hreason⟩ : ∃ reason, s.flight.refusal = some reason := by
        simpa [Flight.isHonest, hdel, Option.isSome_iff_exists] using hflight
      simp [hdel, hreason] at hok
  | true =>
      have hnone : s.flight.refusal = none := by simpa [Flight.isHonest, hdel] using hflight
      cases hrefuses : s₁.store.refusesNext with
      | true => simp [hdel, Store.persist, hrefuses] at hok
      | false =>
          simp only [hnone, Store.persist, hrefuses, if_true, if_false, Bool.false_eq_true]
          exact (rows_run ..).trans (congrArg (batch.foldl Store.write) hrows)

/-- A flush in which nothing lands settles its batch in the baseline as it was, if there is a batch. -/
theorem changes_flush {report : FlushReport} (hok : s.flush.1.outcome = .ok report)
    (hquiet : ∀ e ∈ s.flush.1.during, e.reply.lands = false) :
    s.baseline.changes.unsettled = [] ∧ s.flush.2 = s ∨ s.baseline.changes.unsettled ≠ [] ∧
      ∃ id, s.flush.2.baseline.changes = (s.baseline.changes.reconcile s.baseline.changes.unsettled id).1 := by
  by_cases hb : s.baseline.changes.unsettled = []
  · exact .inl ⟨hb, by rw [flush_of_settled hb]⟩
  · obtain ⟨-, -, hflush⟩ := flush_of_ok hok hb
    rw [hflush] at hquiet ⊢
    have hchanges := changes_persist _ hquiet
    exact .inr ⟨hb, _, congrArg (fun changes : ChangeSet => (changes.reconcile _ _).1) hchanges⟩

/-- Whether there is a batch or not, the entries are then all settled. -/
theorem get?_flush {report : FlushReport} (hok : s.flush.1.outcome = .ok report)
    (hquiet : ∀ e ∈ s.flush.1.during, e.reply.lands = false) (k : Key) :
    s.flush.2.baseline.changes.get? k = s.baseline.changes.settled.get? k := by
  rcases changes_flush hok hquiet with ⟨hnil, hflush⟩ | ⟨-, id, hflush⟩
  · rw [hflush, ← ChangeSet.get?_reconcile_unsettled _ 0, hnil, ChangeSet.get?_reconcile]
    rfl
  · rw [hflush]
    exact ChangeSet.get?_reconcile_unsettled _ id k

theorem rows_flush {report : FlushReport} (hflight : s.flight.isHonest = true)
    (hok : s.flush.1.outcome = .ok report) :
    s.flush.2.store.rows = s.baseline.changes.unsettled.foldl Store.write s.store.rows := by
  by_cases hb : s.baseline.changes.unsettled = []
  · rw [flush_of_settled hb, hb]
    rfl
  · obtain ⟨hpersist, -, hflush⟩ := flush_of_ok hok hb
    rw [hflush]
    exact rows_persist _ hflight hpersist

end Session

/-- Rows that the baseline does not hold can enter it, unless their keys dangle. -/
theorem Baseline.exists_seed_iff {b : Baseline} {rows : List Row}
    (hnew : ∀ row ∈ rows, b.changes.get? row.key = none) :
    (∃ seeded, b.seed rows = .ok seeded) ↔ ∀ row ∈ rows, b.changes.excludes row.key = false := by
  rw [exists_seed_iff_isOpenTo]
  refine forall_congr' fun row => forall_congr' fun hrow => ?_
  simp [ChangeSet.isOpenTo, hnew row hrow]

namespace Session

theorem exists_open (settings : Settings) (store : Store) (rows : List Row) :
    ∃ s, open? settings store (.ok rows) = .ok s := by
  obtain ⟨seeded, hseeded⟩ : ∃ seeded, Baseline.empty.seed rows = .ok seeded :=
    (Baseline.exists_seed_iff fun _ _ => rfl).2 fun _ _ => rfl
  exact ⟨{ new settings store with baseline := seeded.2 }, by simp [open?, seed, new, hseeded]⟩

end Session

/-- A flush that succeeds, and in which nothing lands, makes the rows of the store those that are live in
the baseline, which it leaves as they were. Nothing is left to be flushed, and whoever opens the store
finds the same rows. -/
theorem Run.flush_converges {settings : Settings} {store : Store} {s : Session} {log : List Moment}
    {now : Scene} {report : FlushReport}
    (hopen : Session.open? settings store (.ok store.rows.items) = .ok s)
    (run : Run ⟨s, none⟩ log now) (hsteady : Steady log) (hhonest : ∀ m ∈ log, m.isHonest = true)
    (hseed : ∀ m ∈ log, ∀ k, ¬ m.Seeds k) (hidle : now.shipment = none)
    (hflight : now.session.flight.isHonest = true) (hok : now.session.flush.1.outcome = .ok report)
    (hquiet : ∀ e ∈ now.session.flush.1.during, e.reply.lands = false) :
    let last := now.session.flush.2
    (∀ k c, last.baseline.changes.get? k = some c → c.isSettled = true) ∧
      (∀ k, last.baseline.changes.live? k = now.live? k) ∧
      (∀ k, last.store.rows.get? k = now.live? k) ∧
      last.flush = (⟨.ok ⟨0, 0⟩, [], []⟩, last) ∧
      ∀ settings', ∃ fresh, Session.open? settings' last.store (.ok last.store.rows.items) = .ok fresh ∧
        ∀ k, fresh.baseline.changes.live? k = now.live? k := by
  intro last
  have hsound : now.Sound := run.sound (Scene.reachable_of_open hopen).sound hsteady
  have hagrees : ∀ k, Agrees (now.entry? k) (now.stored? k) :=
    (run.truthful_of_open hopen hsteady hhonest hseed).agrees_of_idle hidle
  have hchanges := Session.get?_flush hok hquiet
  have hrows := Session.rows_flush hflight hok
  have hsettled : ∀ k c, last.baseline.changes.get? k = some c → c.isSettled = true :=
    fun k c hc => ChangeSet.isSettled_of_get?_settled ((hchanges k).symm.trans hc)
  have hlive : ∀ k, last.baseline.changes.live? k = now.live? k := fun k =>
    (congrArg (·.bind Change.live?) (hchanges k)).trans (ChangeSet.live?_settled ..)
  have hstored : ∀ k, last.store.rows.get? k = now.live? k := fun k => by
    rw [hrows]
    exact Store.get?_foldl_write_unsettled hagrees (fun k c hc => (hsound.committed k c hc).1) k
  refine ⟨hsettled, hlive, hstored, ?_, fun settings' => ?_⟩
  · simp [Session.flush, ChangeSet.unsettled_eq_nil hsettled]
  · obtain ⟨fresh, hfresh⟩ := Session.exists_open settings' last.store last.store.rows.items
    refine ⟨fresh, hfresh, fun k => ?_⟩
    rw [ChangeSet.live?, Session.get?_of_open hfresh, hstored]
    cases now.live? k <;> rfl

/-- A row is cancelled while storage takes it over, the next batch is refused, and during the last one a
transaction begins. -/
theorem recalled_row_converges :
    let plan : List Happening := [.act (.begin "a"), .act (.edit "a" (.insert (.sample 1))),
      .act (.commit "a"), .ship, .deliver, .act (.begin "b"), .act (.edit "b" (.erase (.number 1))),
      .act (.commit "b"), .settle, .act .refuseNext, .ship, .deliver, .act (.begin "c"),
      .act (.edit "c" (.insert (.blank (.number 2)))), .act (.commit "c"),
      .act (.arm ⟨[.begin "d"], [], true, none⟩)]
    let now := (Scene.blank.play plan).2
    let last := now.session.flush.2
    now.stored? (.number 1) = some (.sample 1) ∧ now.session.flush.1.outcome = .ok ⟨2, 2⟩ ∧
      last.store.rows.get? (.number 1) = none ∧ (∀ k, last.store.rows.get? k = now.live? k) ∧
      last.flush = (⟨.ok ⟨0, 0⟩, [], []⟩, last) := by
  intro plan now last
  have hopen : Session.open? .default ⟨.empty, 0, false⟩ (.ok []) = .ok Scene.blank.session := rfl
  have hok : now.session.flush.1.outcome = .ok ⟨2, 2⟩ := rfl
  obtain ⟨-, -, hstored, hflush, -⟩ := (Run.play Scene.blank plan).flush_converges hopen (by decide)
    (by decide) (fun m hm k => Scene.not_seeds_of_play (by simp [plan]) m hm) rfl rfl hok (by decide)
  exact ⟨by decide, hok, (hstored _).trans (by decide), hstored, hflush⟩

end TrackedRows
