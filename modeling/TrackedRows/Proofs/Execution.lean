import TrackedRows.Proofs.Storage

namespace TrackedRows

def Session.flight (s : Session) : Flight Action := s.armed.getD .direct

def Flight.actions (f : Flight Action) : List Action := f.before ++ f.after

/-- The call is reported as failed if the batch did not get there, and only then. -/
def Flight.isHonest (f : Flight Action) : Bool := f.delivers = f.refusal.isNone

/-- The moment is an honest one if so promised, and no action but one of the given takes place. -/
structure Moment.Within (m : Moment) (p : Prop) (as : List Action) : Prop where
  honest : p → m.isHonest = true
  acts : ∀ a, m.what = .act a → a ∈ as

def Scene.Leads (s : Scene) (p : Prop) (as : List Action) (t : Scene) : Prop :=
  ∃ log, Run s log t ∧ ∀ m ∈ log, m.Within p as

namespace Scene.Leads

variable {s t u : Scene} {p : Prop} {as bs : List Action}

theorem refl : s.Leads p as s := ⟨[], .nil s, by simp⟩

theorem mono {q : Prop} (h : s.Leads q as t) (hq : p → q) (hsub : as ⊆ bs) : s.Leads p bs t := by
  obtain ⟨log, run, hlog⟩ := h
  refine ⟨log, run, fun m hm => ⟨fun hp => ?_, fun a ha => ?_⟩⟩
  · exact (hlog m hm).honest (hq hp)
  · exact hsub ((hlog m hm).acts a ha)

theorem trans (h : s.Leads p as t) (h' : t.Leads p as u) : s.Leads p as u := by
  obtain ⟨log, run, hlog⟩ := h
  obtain ⟨log', run', hlog'⟩ := h'
  exact ⟨log ++ log', run.append run', fun m hm => (List.mem_append.1 hm).elim (hlog m) (hlog' m)⟩

theorem of_next (what : Happening) (ht : s.next what = some t) (hm : (Moment.mk s what t).Within p as) :
    s.Leads p as t := by
  refine ⟨_, (Run.nil s).snoc ht, fun m h => ?_⟩
  obtain rfl := List.mem_singleton.1 h
  exact hm

end Scene.Leads

namespace Session

variable {s : Session}

theorem leads_run (s : Session) (sh : Option Shipment) (as : List Action) :
    Scene.Leads ⟨s, sh⟩ True as ⟨(s.run as).2, sh⟩ := by
  induction as generalizing s with
  | nil => exact .refl
  | cons a as ih =>
      have hfirst : Scene.Leads ⟨s, sh⟩ True (a :: as) ⟨(s.act a).2, sh⟩ :=
        .of_next (.act a) rfl ⟨fun _ => rfl, fun b hb => by cases hb; simp⟩
      exact hfirst.trans ((ih (s.act a).2).mono id (List.subset_cons_self a as))

/-- A batch on its way meets its flight, and is where the flight and the store leave it. -/
theorem leads_persist (s : Session) (batch : List Change) (hd : (batch.map Change.key).Nodup) :
    ∃ sh, Scene.Leads ⟨{ s with armed := none }, some ⟨batch, hd, false⟩⟩ True s.flight.actions
        ⟨(s.persist batch).2.2, sh⟩ ∧
      ((s.persist batch).1 = .ok () ∧ s.flight.refusal = none ∧ sh = some ⟨batch, hd, s.flight.delivers⟩ ∨
        (∃ reason, (s.persist batch).1 = .error reason) ∧
          (sh = none ∨ s.flight.refusal ≠ none ∧ sh = some ⟨batch, hd, s.flight.delivers⟩)) := by
  have hflight : s.armed.getD .direct = s.flight := rfl
  have hbefore := (leads_run { s with armed := none } (some ⟨batch, hd, false⟩) s.flight.before).mono id
    (List.subset_append_left _ s.flight.after)
  have hafter := fun s₁ sh => (leads_run s₁ sh s.flight.after).mono id
    (List.subset_append_right s.flight.before _)
  simp only [persist, hflight]
  generalize { s with armed := none }.run s.flight.before = r at hbefore ⊢
  obtain ⟨before, s₁⟩ := r
  cases hdel : s.flight.delivers with
  | false =>
      simp only [Bool.false_eq_true, if_false]
      refine ⟨some ⟨batch, hd, false⟩, ?_, ?_⟩
      · cases s.flight.refusal <;> exact hbefore.trans (hafter s₁ _)
      · cases s.flight.refusal <;> simp
  | true =>
      simp only [if_true]
      have hdeliver : ∀ t, Scene.next ⟨s₁, some ⟨batch, hd, false⟩⟩ .deliver = some t →
          Scene.Leads ⟨{ s with armed := none }, some ⟨batch, hd, false⟩⟩ True s.flight.actions t :=
        fun t ht => hbefore.trans (.of_next .deliver ht ⟨fun _ => rfl, fun a ha => by cases ha⟩)
      cases hp : s₁.store.persist batch with
      | mk delivered store =>
          cases delivered with
          | error reason =>
              exact ⟨none, hdeliver ⟨{ s₁ with store }, none⟩ (by simp only [Scene.next, hp]), by simp⟩
          | ok _ =>
              have harrived := hdeliver ⟨{ s₁ with store }, some ⟨batch, hd, true⟩⟩ (by simp only [Scene.next, hp])
              refine ⟨some ⟨batch, hd, true⟩, ?_, ?_⟩
              · cases s.flight.refusal <;> exact harrived.trans (hafter _ _)
              · cases s.flight.refusal <;> simp

theorem flush_of_settled (hnil : s.baseline.changes.unsettled = []) :
    s.flush = (⟨.ok ⟨0, 0⟩, [], []⟩, s) := by
  simp only [flush, hnil]

theorem flush_of_persist_ok (hne : s.baseline.changes.unsettled ≠ []) :
    let batch := s.baseline.changes.unsettled
    let last := (s.persist batch).2.2
    (s.persist batch).1 = .ok () →
      s.flush = (⟨.ok ⟨batch.length, (last.baseline.reconcile batch).1⟩, [batch], (s.persist batch).2.1⟩,
        { last with baseline := (last.baseline.reconcile batch).2 }) := by
  obtain ⟨c, rest, hb⟩ := List.exists_cons_of_ne_nil hne
  simp only [flush, hb]
  generalize s.persist (c :: rest) = p
  obtain ⟨outcome, during, last⟩ := p
  rintro rfl
  rfl

theorem flush_of_persist_error {reason : String} (hne : s.baseline.changes.unsettled ≠ []) :
    let batch := s.baseline.changes.unsettled
    (s.persist batch).1 = .error reason →
      s.flush = (⟨.error (.storage reason), [batch], (s.persist batch).2.1⟩, (s.persist batch).2.2) := by
  obtain ⟨c, rest, hb⟩ := List.exists_cons_of_ne_nil hne
  simp only [flush, hb]
  generalize s.persist (c :: rest) = p
  obtain ⟨outcome, during, last⟩ := p
  rintro rfl
  rfl

/-- A flush that succeeds has handed its batch to storage, which took it, and settles it in the baseline
that the flight has led to. -/
theorem flush_of_ok {report : FlushReport} (hok : s.flush.1.outcome = .ok report)
    (hne : s.baseline.changes.unsettled ≠ []) :
    let batch := s.baseline.changes.unsettled
    let last := (s.persist batch).2.2
    (s.persist batch).1 = .ok () ∧ report = ⟨batch.length, (last.baseline.reconcile batch).1⟩ ∧
      s.flush = (⟨.ok report, [batch], (s.persist batch).2.1⟩,
        { last with baseline := (last.baseline.reconcile batch).2 }) := by
  cases hp : (s.persist s.baseline.changes.unsettled).1 with
  | error reason =>
      rw [flush_of_persist_error hne hp] at hok
      cases hok
  | ok _ =>
      rw [flush_of_persist_ok hne hp] at hok ⊢
      cases hok
      exact ⟨hp, rfl, rfl⟩

theorem leads_flush (s : Session) :
    Scene.Leads ⟨s, none⟩ (s.flight.isHonest = true) s.flight.actions ⟨s.flush.2, none⟩ := by
  by_cases hne : s.baseline.changes.unsettled = []
  · have hidle : Scene.next ⟨s, none⟩ .idle = some ⟨s, none⟩ := by simp only [Scene.next, hne]
    rw [flush_of_settled hne]
    exact .of_next .idle hidle ⟨fun _ => rfl, fun a ha => by cases ha⟩
  · have hship : Scene.next ⟨s, none⟩ .ship =
        some ⟨{ s with armed := none }, some s.baseline.changes.shipment⟩ := by
      obtain ⟨c, rest, hb⟩ := List.exists_cons_of_ne_nil hne
      simp only [Scene.next, hb]
    obtain ⟨sh, hpersist, hout⟩ :=
      leads_persist s s.baseline.changes.unsettled s.baseline.changes.shipment.distinct
    have hshipped := (Scene.Leads.of_next .ship hship ⟨fun _ => rfl, fun a ha => by cases ha⟩).trans
      (hpersist.mono (fun _ : s.flight.isHonest = true => trivial) (List.Subset.refl _))
    rcases hout with ⟨hok, hrefusal, rfl⟩ | ⟨⟨reason, herror⟩, rfl | ⟨hrefusal, rfl⟩⟩
    · rw [flush_of_persist_ok hne hok]
      refine hshipped.trans (.of_next .settle rfl ⟨fun hf => ?_, fun a ha => by cases ha⟩)
      simpa [Moment.isHonest, Flight.isHonest, hrefusal] using hf
    · rw [flush_of_persist_error hne herror]
      exact hshipped
    · rw [flush_of_persist_error hne herror]
      refine hshipped.trans (.of_next .giveUp rfl ⟨fun hf => ?_, fun a ha => by cases ha⟩)
      cases hr : s.flight.refusal with
      | none => exact absurd hr hrefusal
      | some reason => simpa [Moment.isHonest, Flight.isHonest, hr] using hf

theorem snd_commitAndFlush (s : Session) (name : String) (tx : Transaction) :
    (s.commitAndFlush name tx).2 = (s.commit name tx).2 ∨
      (s.commitAndFlush name tx).2 = (s.commit name tx).2.flush.2 := by
  simp only [commitAndFlush]
  generalize s.commit name tx = r
  obtain ⟨outcome, s'⟩ := r
  cases outcome with
  | error fault => exact .inl rfl
  | ok report => by_cases hauto : s'.settings.autoFlush = true <;> simp [hauto]

theorem flight_commit (s : Session) (name : String) (tx : Transaction) :
    (s.commit name tx).2.flight = s.flight := by
  simp only [commit]
  split <;> rfl

end Session

def Command.actions (s : Session) : Command → List Action
  | .act a => [a]
  | .flush => s.flight.actions
  | .commitAndFlush name => .commit name :: s.flight.actions

/-- Whatever a session is told to do leads it on by steps, and honestly if the flight is honest. -/
theorem Session.leads_execute (s : Session) (c : Command) :
    Scene.Leads ⟨s, none⟩ (s.flight.isHonest = true) (c.actions s) ⟨(s.execute c).2, none⟩ := by
  cases c with
  | act a => exact .of_next (.act a) rfl ⟨fun _ => rfl, fun b hb => by cases hb; simp [Command.actions]⟩
  | flush => exact s.leads_flush
  | commitAndFlush name =>
      cases htx : s.transaction? name with
      | none =>
          rw [show (s.execute (.commitAndFlush name)).2 = s by simp [execute, htx]]
          exact .refl
      | some tx =>
          have hcommit : Scene.Leads ⟨s, none⟩ (s.flight.isHonest = true)
              (Command.actions s (.commitAndFlush name)) ⟨(s.commit name tx).2, none⟩ := by
            refine .of_next (.act (.commit name)) ?_ ⟨fun _ => rfl, fun a ha => ?_⟩
            · simp [Scene.next, act, htx]
            · cases ha
              simp [Command.actions]
          have hflush := (s.commit name tx).2.leads_flush
          rw [flight_commit] at hflush
          replace hflush := hflush.mono id (List.subset_cons_self (.commit name) _)
          have hexecute : (s.execute (.commitAndFlush name)).2 = (s.commitAndFlush name tx).2 := by
            simp [execute, htx]
          rw [hexecute]
          rcases snd_commitAndFlush s name tx with h | h
          · exact h ▸ hcommit
          · exact h ▸ hcommit.trans hflush

end TrackedRows
