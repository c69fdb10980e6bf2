import TrackedRows.Proofs.Dangling
import TrackedRows.Proofs.Lifetime

namespace TrackedRows

namespace Moment

/-- A commit goes through. -/
def lands (m : Moment) : Bool :=
  match m.what with
  | .act (.commit name) =>
    (m.before.transaction? name).any fun tx => (m.before.baseline.commit tx).isOk
  | _ => false

theorem lands_iff {before after : Scene} {name : String} :
    (Moment.mk before (.act (.commit name)) after).lands = true ↔
      ∃ tx report b, before.transaction? name = some tx ∧ before.baseline.commit tx = .ok (report, b) := by
  simp only [lands]
  cases before.transaction? name with
  | none => simp
  | some tx =>
      simp only [Option.any_some, Option.some.injEq, exists_and_left, exists_eq_left']
      cases before.baseline.commit tx with
      | error fault => simp [Except.isOk, Except.toBool]
      | ok landed => exact ⟨fun _ => ⟨landed.1, landed.2, rfl⟩, fun _ => rfl⟩

/-- A commit cancels the row. -/
def Cancels (m : Moment) (k : Key) : Prop :=
  ∃ name tx report b, m.what = .act (.commit name) ∧ m.before.transaction? name = some tx ∧
    m.before.baseline.commit tx = .ok (report, b) ∧ k ∈ report.removed

/-- A commit brings the row into the baseline. -/
def Brings (m : Moment) (k : Key) : Prop :=
  (∃ name, m.what = .act (.commit name)) ∧ m.before.entry? k = none ∧ m.after.entry? k ≠ none

/-- A transaction inserts the row, and had no entry for it. -/
def Readmits (m : Moment) (k : Key) : Prop :=
  ∃ name row tx tx', m.what = .act (.edit name (.insert row)) ∧ row.key = k ∧
    m.before.transaction? name = some tx ∧ tx.changes.get? k = none ∧ tx.edit (.insert row) = .ok tx'

/-- A flush is over, whether it has succeeded or not. -/
def ends (m : Moment) : Bool :=
  match m.what with
  | .settle | .giveUp | .idle => true
  | .deliver => m.after.shipment.isNone
  | _ => false

/-- A flush succeeds, and leaves nothing pending. -/
def Clears (m : Moment) : Prop :=
  (m.what = .settle ∨ m.what = .idle) ∧ m.after.baseline.changes.isSettled = true

/-- The key does not dangle any longer. -/
inductive Frees (m : Moment) (k : Key) : Prop
  | brings (h : m.Brings k)
  | readmits (h : m.Readmits k)
  | restores (h : m.Restores k)
  | clears (h : m.Clears)

/-- A transaction commits for which the key dangles, and the baseline has an entry for the row. -/
def Returns (m : Moment) (k : Key) : Prop :=
  ∃ name tx, m.what = .act (.commit name) ∧ m.before.transaction? name = some tx ∧ m.lands = true ∧
    tx.changes.excludes k = true ∧ m.before.entry? k ≠ none

end Moment

/-- The first has happened, and the second has not happened since. -/
def Since (log : List Moment) (P Q : Moment → Prop) : Prop :=
  ∃ earlier m later, log = earlier ++ m :: later ∧ P m ∧ ∀ m' ∈ later, ¬ Q m'

/-- The row has been cancelled, and nothing has freed its key since. -/
def Dangles (line : List Moment) (k : Key) : Prop := Since line (·.Cancels k) (·.Frees k)

/-- The row has been cancelled, and nothing has freed its key since, unless a flush with nothing to ship
does so. -/
def MayDangle (line : List Moment) (k : Key) : Prop :=
  Since line (·.Cancels k) fun m => m.what ≠ .idle ∧ m.Frees k

/-- Where the dangling keys come from: what has happened to those of the baseline, and to those of each
transaction. -/
structure Lineage where
  shared : List Moment
  own : String → List Moment

namespace Lineage

/-- A transaction starts with the dangling keys of the baseline, and a commit puts its own in their
place. -/
def next (l : Lineage) (m : Moment) : Lineage :=
  match m.what with
  | .act (.begin name) => { l with own := fun other => if other = name then l.shared else l.own other }
  | .act (.edit name _) =>
    { l with own := fun other => if other = name then l.own name ++ [m] else l.own other }
  | .act (.commit name) => if m.lands then { l with shared := l.own name ++ [m] } else l
  | _ => { l with shared := l.shared ++ [m] }

def ofLog (log : List Moment) : Lineage := log.foldl next ⟨[], fun _ => []⟩

end Lineage

section Line

variable {line : List Moment} {m : Moment} {k : Key} {P Q : Moment → Prop}

theorem Since.append {later : List Moment} (h : Since line P Q) (hlater : ∀ m ∈ later, ¬ Q m) :
    Since (line ++ later) P Q := by
  obtain ⟨earlier, m, rest, rfl, hm, hrest⟩ := h
  refine ⟨earlier, m, rest ++ later, by simp, hm, fun m' hm' => ?_⟩
  exact (List.mem_append.1 hm').elim (hrest m') (hlater m')

theorem since_snoc : Since (line ++ [m]) P Q ↔ P m ∨ Since line P Q ∧ ¬ Q m := by
  constructor
  · rintro ⟨earlier, c, later, heq, hc, hnone⟩
    rcases List.eq_nil_or_concat later with rfl | ⟨later, last, rfl⟩
    · obtain ⟨rfl, rfl⟩ := List.append_singleton_inj.1 heq
      exact .inl hc
    · rw [List.concat_eq_append, ← List.cons_append, ← List.append_assoc] at heq
      obtain ⟨rfl, rfl⟩ := List.append_singleton_inj.1 heq
      exact .inr ⟨⟨earlier, c, later, rfl, hc, fun m' hm' => hnone m' (by simp [hm'])⟩, hnone m (by simp)⟩
  · rintro (hc | ⟨hsince, hm⟩)
    · exact ⟨line, m, [], rfl, hc, by simp⟩
    · exact hsince.append (by simpa using hm)

theorem not_since_nil : ¬ Since [] P Q := by
  rintro ⟨earlier, m, later, h, -⟩
  simp at h

theorem Dangles.mayDangle (h : Dangles line k) : MayDangle line k := by
  obtain ⟨earlier, m, later, heq, hc, hnone⟩ := h
  exact ⟨earlier, m, later, heq, hc, fun m' hm' hfrees => hnone m' hm' hfrees.2⟩

theorem mayDangle_snoc : MayDangle (line ++ [m]) k ↔
    m.Cancels k ∨ MayDangle line k ∧ ¬ (m.what ≠ .idle ∧ m.Frees k) :=
  since_snoc

theorem mayDangle_snoc_of_not_commit (hno : ∀ name, m.what ≠ .act (.commit name)) :
    MayDangle (line ++ [m]) k ↔ MayDangle line k ∧ ¬ (m.what ≠ .idle ∧ m.Frees k) := by
  rw [mayDangle_snoc, or_iff_right]
  rintro ⟨name, _, _, _, hwhat, -⟩
  exact hno name hwhat

end Line

namespace Scene

variable {s t : Scene} {name : String} {tx : Transaction} {k : Key}

theorem baseline_of_edit {e : Edit} (hnext : s.next (.act (.edit name e)) = some t) :
    t.baseline = s.baseline := by
  cases step_of_next hnext with
  | edit | close => rfl
  | rest hb => exact hb

theorem baseline_of_not_lands (hnext : s.next (.act (.commit name)) = some t)
    (h : ¬ (Moment.mk s (.act (.commit name)) t).lands = true) : t.baseline = s.baseline := by
  cases step_of_next hnext with
  | commit htx hc => exact absurd (Moment.lands_iff.2 ⟨_, _, _, htx, hc⟩) h
  | close => rfl
  | rest hb => exact hb

theorem frees_edit_iff {e : Edit} : (Moment.mk s (.act (.edit name e)) t).Frees k ↔
    (Moment.mk s (.act (.edit name e)) t).Readmits k := by
  refine ⟨?_, .readmits⟩
  rintro (⟨⟨_, hwhat⟩, -⟩ | hreadmits | ⟨hwhat, -⟩ | ⟨hwhat | hwhat, -⟩)
  · cases hwhat
  · exact hreadmits
  · cases hwhat
  · cases hwhat
  · cases hwhat

theorem dangling_of_edit {e : Edit} (hnext : s.next (.act (.edit name e)) = some t)
    (htx : s.transaction? name = some tx) : ∃ tx', t.transaction? name = some tx' ∧
      ∀ k, tx'.changes.excludes k = true ↔
        tx.changes.excludes k = true ∧ ¬ (Moment.mk s (.act (.edit name e)) t).Frees k := by
  -- The moment belongs to the line also where the edit fails, and then frees nothing.
  cases he : tx.edit e with
  | error fault =>
      refine ⟨tx, ?_, fun k => ?_⟩
      · have hs : s.session.transaction? name = some tx := htx
        cases hnext
        simp [transaction?, Session.act, Session.edit, hs, he]
      · rw [frees_edit_iff, iff_self_and]
        rintro - ⟨_, row, tx₀, tx', hwhat, -, htx₀, -, he₀⟩
        cases hwhat
        cases htx.symm.trans htx₀
        cases he.symm.trans he₀
  | ok tx' =>
      refine ⟨tx', transaction?_of_edit hnext htx he, fun k => ?_⟩
      rw [frees_edit_iff, Transaction.excludes_edit he]
      refine and_congr_right fun _ => ⟨?_, fun hno hk hnone => ?_⟩
      · rintro htracked ⟨_, row, tx₀, _, hwhat, hrow, htx₀, hnone, -⟩
        cases hwhat
        cases htx.symm.trans htx₀
        exact htracked hrow.symm hnone
      · obtain ⟨-, ⟨row, rfl, -⟩ | ⟨c, row, p, -, hc, -⟩⟩ := Transaction.edit_cases he
        · exact hno ⟨name, row, tx, tx', rfl, hk.symm, htx, hnone, he⟩
        · rw [hk, (Transaction.entry_ok hc).1] at hnone
          cases hnone

theorem dangling_of_commit {report : CommitReport} {b : Baseline}
    (hnext : s.next (.act (.commit name)) = some t) (htx : s.transaction? name = some tx)
    (hc : s.baseline.commit tx = .ok (report, b)) (k : Key) :
    t.baseline.changes.excludes k = true ↔ (Moment.mk s (.act (.commit name)) t).Cancels k ∨
      tx.changes.excludes k = true ∧ ¬ (Moment.mk s (.act (.commit name)) t).Frees k := by
  have hb : t.baseline = b := baseline_of_commit hnext htx hc
  have hcancels : (Moment.mk s (.act (.commit name)) t).Cancels k ↔ k ∈ report.removed := by
    refine ⟨?_, fun hk => ⟨name, tx, report, b, rfl, htx, hc, hk⟩⟩
    rintro ⟨_, tx₀, report₀, b₀, hwhat, htx₀, hc₀, hk⟩
    cases hwhat
    cases htx.symm.trans htx₀
    cases hc.symm.trans hc₀
    exact hk
  have hfree : t.baseline.changes.excludes k = true → ¬ (Moment.mk s (.act (.commit name)) t).Frees k := by
    rintro hx (⟨-, hnone, hsome⟩ | ⟨_, _, _, _, hwhat, -⟩ | ⟨hwhat, -⟩ | ⟨hwhat | hwhat, -⟩)
    · rw [hb] at hx
      rw [Scene.entry?, hb] at hsome
      cases (Baseline.not_excludes_of_commit hc hnone hsome).symm.trans hx
    · cases hwhat
    · cases hwhat
    · cases hwhat
    · cases hwhat
  have hiff : t.baseline.changes.excludes k = true ↔ k ∈ report.removed ∨ tx.changes.excludes k = true :=
    hb ▸ Baseline.excludes_of_commit hc k
  rw [hcancels]
  constructor
  · exact fun hx => (hiff.1 hx).imp_right fun hown => ⟨hown, hfree hx⟩
  · exact fun hx => hiff.2 (hx.imp_right And.left)

theorem dangling_of_settle (hnext : s.next .settle = some t) (k : Key) :
    t.baseline.changes.excludes k = true ↔
      s.baseline.changes.excludes k = true ∧ ¬ (Moment.mk s .settle t).Frees k := by
  cases step_of_next hnext with
  | @settle sh hsh =>
      rw [show Scene.baseline _ = (s.baseline.reconcile sh.batch).2 from rfl]
      refine (ChangeSet.excludes_reconcile sh.distinct ..).trans (and_congr_right fun _ => ⟨?_, fun hno => ?_⟩)
      · rintro ⟨hrecalls, hpending⟩ (⟨⟨_, hwhat⟩, -⟩ | ⟨_, _, _, _, hwhat, -⟩ |
          ⟨-, hnone, sh₀, taken, hsh₀, htaken⟩ | ⟨-, hsettled⟩)
        · cases hwhat
        · cases hwhat
        · cases hsh.symm.trans hsh₀
          exact hrecalls ⟨hnone, taken, htaken⟩
        · cases hpending.symm.trans hsettled
      · refine ⟨fun ⟨hnone, taken, htaken⟩ => hno (.restores ⟨rfl, hnone, sh, taken, hsh, htaken⟩), ?_⟩
        exact Bool.eq_false_iff.2 fun hsettled => hno (.clears ⟨.inl rfl, hsettled⟩)

/-- Only commits and batches that settle change the dangling keys of the baseline. -/
theorem dangling_of_other {what : Happening} (hnext : s.next what = some t)
    (hedit : ∀ name e, what ≠ .act (.edit name e)) (hcommit : ∀ name, what ≠ .act (.commit name)) (k : Key) :
    t.baseline.changes.excludes k = true ↔
      s.baseline.changes.excludes k = true ∧ ¬ (what ≠ .idle ∧ (Moment.mk s what t).Frees k) := by
  by_cases hsettle : what = .settle
  · subst hsettle
    simpa using dangling_of_settle hnext k
  · have hfree : ¬ (what ≠ .idle ∧ (Moment.mk s what t).Frees k) := by
      rintro ⟨hidle, ⟨⟨name, hwhat⟩, -⟩ | ⟨name, row, _, _, hwhat, -⟩ | ⟨hwhat, -⟩ | ⟨hwhat | hwhat, -⟩⟩
      · exact hcommit name hwhat
      · exact hedit name _ hwhat
      · exact hsettle hwhat
      · exact hsettle hwhat
      · exact hidle hwhat
    have hsame : t.baseline.changes.excludes k = s.baseline.changes.excludes k := by
      cases step_of_next hnext with
      | edit => exact absurd rfl (hedit _ _)
      | commit => exact absurd rfl (hcommit _)
      | settle => exact absurd rfl hsettle
      | seed hs => exact Baseline.excludes_of_seed hs k
      | rest hb => exact congrArg (fun b : Baseline => b.changes.excludes k) hb
      | begin | close | drop | ship | deliver | refuse | giveUp | idle => rfl
    rw [hsame]
    exact ⟨fun hx => ⟨hx, hfree⟩, And.left⟩

/-- A key comes to dangle beside an entry only when a commit brings it back. -/
theorem returns_of_next {what : Happening} (hnext : s.next what = some t)
    (hx : t.baseline.changes.excludes k = true) (he : t.entry? k ≠ none)
    (hfirst : s.baseline.changes.excludes k = true → s.entry? k = none) :
    (Moment.mk s what t).Returns k := by
  cases step_of_next hnext with
  | @commit name tx report b htx hc =>
      have hgone : k ∉ report.removed := fun hk => he (Baseline.of_mem_removed hc hk).2
      have hown := ((Baseline.excludes_of_commit hc k).1 hx).resolve_left hgone
      refine ⟨name, tx, rfl, htx, Moment.lands_iff.2 ⟨_, _, _, htx, hc⟩, hown, fun hnone => ?_⟩
      cases (Baseline.not_excludes_of_commit hc hnone he).symm.trans hx
  | seed hs =>
      have hnone := hfirst ((Baseline.excludes_of_seed hs k).symm.trans hx)
      cases (Baseline.not_excludes_of_seed hs hnone he).symm.trans hx
  | settle hsh =>
      obtain ⟨hx, hfree⟩ := (dangling_of_settle hnext k).1 hx
      have hnone := hfirst hx
      cases (Step.settle hsh).turn k with
      | same hsame => exact absurd (hsame.trans hnone) he
      | @settle sh taken hsh ht hk hafter _ =>
          rw [hnone, Change.reconciled] at hafter
          split at hafter
          · rename_i hl
            exact absurd (.restores ⟨rfl, hnone, sh, taken, hsh, ht, hk, hl⟩) hfree
          · exact absurd hafter he
  | rest hb =>
      have hbefore := hfirst ((congrArg (fun b : Baseline => b.changes.excludes k) hb).symm.trans hx)
      exact absurd ((congrArg (fun b : Baseline => b.changes.get? k) hb).trans hbefore) he
  | begin | edit | close | drop | ship | deliver | refuse | giveUp | idle => exact absurd (hfirst hx) he

end Scene

namespace Lineage

variable {l : Lineage} {s t : Scene} {what : Happening} {name : String} {tx : Transaction} {k : Key}

/-- The dangling keys are those that the line of descent accounts for. -/
structure Tells (l : Lineage) (s : Scene) : Prop where
  shared : ∀ k, s.baseline.changes.excludes k = true ↔ MayDangle l.shared k
  own : ∀ name tx, s.transaction? name = some tx → tx.isActive = true →
    ∀ k, tx.changes.excludes k = true ↔ MayDangle (l.own name) k

theorem next_of_other {m : Moment} (hbegin : ∀ name, m.what ≠ .act (.begin name))
    (hedit : ∀ name e, m.what ≠ .act (.edit name e)) (hcommit : ∀ name, m.what ≠ .act (.commit name)) :
    l.next m = { l with shared := l.shared ++ [m] } := by
  unfold next
  split
  · rename_i hwhat; exact absurd hwhat (hbegin _)
  · rename_i hwhat; exact absurd hwhat (hedit _ _)
  · rename_i hwhat; exact absurd hwhat (hcommit _)
  · rfl

namespace Tells

theorem own_of_kept (h : l.Tells s) (hnext : s.next what = some t) (hbegin : what ≠ .act (.begin name))
    (hedit : ∀ e, what ≠ .act (.edit name e)) (htx : t.transaction? name = some tx)
    (hact : tx.isActive = true) (k : Key) : tx.changes.excludes k = true ↔ MayDangle (l.own name) k := by
  rcases Lifetime.origin hnext hbegin htx hact with htx | ⟨e, _, hwhat, -⟩
  · exact h.own name tx htx hact k
  · exact absurd hwhat (hedit e)

theorem begin (h : l.Tells s) (hnext : s.next (.act (.begin name)) = some t) :
    (l.next ⟨s, .act (.begin name), t⟩).Tells t := by
  cases hnext
  refine ⟨h.shared, fun other tx htx hact k => ?_⟩
  by_cases hn : other = name
  · subst hn
    have hbegun := (Scene.transaction?_begun s other other).trans (if_pos rfl)
    cases htx.symm.trans hbegun
    simpa [next] using h.shared k
  · have hbegins : s.next (.act (.begin name)) = some (s.begun name) := rfl
    have hown := h.own_of_kept hbegins (by simpa using Ne.symm hn) (by simp) htx hact k
    simpa [next, hn] using hown

theorem edit {e : Edit} (h : l.Tells s) (hnext : s.next (.act (.edit name e)) = some t) :
    (l.next ⟨s, .act (.edit name e), t⟩).Tells t := by
  refine ⟨fun k => ?_, fun other tx htx hact k => ?_⟩
  · rw [Scene.baseline_of_edit hnext]
    exact h.shared k
  by_cases hn : other = name
  · subst hn
    have hown : ∃ tx₀, s.transaction? other = some tx₀ ∧ tx₀.isActive = true := by
      rcases Lifetime.origin hnext (by simp) htx hact with htx | ⟨_, tx₀, -, htx₀, he⟩
      · exact ⟨tx, htx, hact⟩
      · exact ⟨tx₀, htx₀, (Transaction.edit_ok he).1⟩
    obtain ⟨tx₀, htx₀, hact₀⟩ := hown
    obtain ⟨tx', htx', hdangling⟩ := Scene.dangling_of_edit hnext htx₀
    cases htx.symm.trans htx'
    simp only [next, if_true]
    rw [mayDangle_snoc_of_not_commit (by simp), ← h.own other tx₀ htx₀ hact₀ k]
    simpa using hdangling k
  · simp only [next, if_neg hn]
    exact h.own_of_kept hnext (by simp) (by simpa using Ne.symm hn) htx hact k

theorem commit (h : l.Tells s) (hnext : s.next (.act (.commit name)) = some t) :
    (l.next ⟨s, .act (.commit name), t⟩).Tells t := by
  have hothers : ∀ other tx, t.transaction? other = some tx → tx.isActive = true →
      ∀ k, tx.changes.excludes k = true ↔ MayDangle (l.own other) k :=
    fun other tx => h.own_of_kept hnext (by simp) (by simp)
  by_cases hlands : (Moment.mk s (.act (.commit name)) t).lands = true
  · simp only [next, if_pos hlands]
    refine ⟨fun k => ?_, hothers⟩
    obtain ⟨tx, report, b, htx, hc⟩ := Moment.lands_iff.1 hlands
    rw [mayDangle_snoc, ← h.own name tx htx (Baseline.commit_ok hc).1 k]
    simpa using Scene.dangling_of_commit hnext htx hc k
  · simp only [next, if_neg hlands]
    refine ⟨?_, hothers⟩
    rw [Scene.baseline_of_not_lands hnext hlands]
    exact h.shared

theorem other (h : l.Tells s) (hnext : s.next what = some t) (hbegin : ∀ name, what ≠ .act (.begin name))
    (hedit : ∀ name e, what ≠ .act (.edit name e)) (hcommit : ∀ name, what ≠ .act (.commit name)) :
    (l.next ⟨s, what, t⟩).Tells t := by
  rw [next_of_other hbegin hedit hcommit]
  refine ⟨fun k => ?_, fun name tx => h.own_of_kept hnext (hbegin name) (hedit name)⟩
  rw [mayDangle_snoc_of_not_commit hcommit, ← h.shared k]
  exact Scene.dangling_of_other hnext hedit hcommit k

theorem next (h : l.Tells s) (hnext : s.next what = some t) : (l.next ⟨s, what, t⟩).Tells t := by
  by_cases hbegin : ∃ name, what = .act (.begin name)
  · obtain ⟨name, rfl⟩ := hbegin
    exact h.begin hnext
  by_cases hedit : ∃ name e, what = .act (.edit name e)
  · obtain ⟨name, e, rfl⟩ := hedit
    exact h.edit hnext
  by_cases hcommit : ∃ name, what = .act (.commit name)
  · obtain ⟨name, rfl⟩ := hcommit
    exact h.commit hnext
  · exact h.other hnext (fun name hw => hbegin ⟨name, hw⟩) (fun name e hw => hedit ⟨name, e, hw⟩)
      fun name hw => hcommit ⟨name, hw⟩

end Tells

end Lineage

theorem Run.tells {s t : Scene} {log : List Moment} {l : Lineage} (run : Run s log t) (h : l.Tells s) :
    (log.foldl Lineage.next l).Tells t := by
  induction run with
  | nil => exact h
  | snoc _ hu ih =>
      rw [List.foldl_append]
      exact ih.next hu

theorem Lineage.tells_new (settings : Settings) (store : Store) :
    (ofLog []).Tells ⟨.new settings store, none⟩ where
  shared _ := ⟨fun h => (by cases h), fun h => absurd h not_since_nil⟩
  own _ _ htx := by cases htx

/-- A key that dangles beside an entry does so ever since a commit brought it back. -/
theorem Run.returned {s t : Scene} {log : List Moment} {k : Key} (run : Run s log t)
    (hs : s.baseline.changes.excludes k = false) (hx : t.baseline.changes.excludes k = true)
    (he : t.entry? k ≠ none) : Since log (·.Returns k) fun m =>
      m.after.entry? k = none ∨ m.after.baseline.changes.excludes k = false := by
  induction run with
  | nil => cases hs.symm.trans hx
  | @snoc t u log what run hu ih =>
      rw [since_snoc]
      by_cases hboth : t.baseline.changes.excludes k = true ∧ t.entry? k ≠ none
      · exact .inr ⟨ih hboth.1 hboth.2, by simp [he, hx]⟩
      · have hfirst : t.baseline.changes.excludes k = true → t.entry? k = none :=
          fun hbefore => Classical.byContradiction fun hne => hboth ⟨hbefore, hne⟩
        exact .inl (Scene.returns_of_next hu hx he hfirst)

namespace Lifetime

variable {name : String} {start now : Scene} {log : List Moment} {tx : Transaction} {k : Key}

/-- A transaction keeps the dangling keys it found, but for those of rows it writes. -/
theorem excludes_eq (h : Lifetime name start log now) (htx : now.transaction? name = some tx)
    (hact : tx.isActive = true) (hno : ∀ m ∈ log, ¬ m.Edits name k) :
    tx.changes.excludes k = start.baseline.changes.excludes k := by
  refine h.unedited (f := (·.excludes k)) (fun tx tx' e he hk => ?_) htx hact hno
  rw [Bool.eq_iff_iff, Transaction.excludes_edit he]
  exact and_iff_left fun hk' => absurd hk' hk

end Lifetime

/-- A commit puts the dangling keys of its transaction in the place of those of the baseline, so it is in
the line of descent that a row has been cancelled, and nothing has freed its key since. Nothing is said
here of a flush with nothing to ship. A key dangles beside an entry only where a commit has brought it
back. A commit of a transaction that has not written the row leaves its key as it was when the transaction
began. -/
theorem Run.dangling_keys_descend {settings : Settings} {store : Store} {log : List Moment} {now : Scene}
    (run : Run ⟨.new settings store, none⟩ log now) (k : Key) :
    let line := (Lineage.ofLog log).shared
    (Dangles line k → now.baseline.changes.excludes k = true) ∧
      (now.baseline.changes.excludes k = true → MayDangle line k) ∧
      (now.baseline.changes.excludes k = true → now.entry? k ≠ none → Since log (·.Returns k) fun m =>
        m.after.entry? k = none ∨ m.after.baseline.changes.excludes k = false) ∧
      ∀ name start since tx report b, Lifetime name start since now → now.transaction? name = some tx →
        now.baseline.commit tx = .ok (report, b) → (∀ m ∈ since, ¬ m.Edits name k) →
        (b.changes.excludes k = true ↔ start.baseline.changes.excludes k = true) := by
  intro line
  have hline := (run.tells (Lineage.tells_new settings store)).shared k
  refine ⟨fun h => hline.2 h.mayDangle, hline.1, run.returned rfl, ?_⟩
  intro name start since tx report b hlife htx hc hno
  have hact : tx.isActive = true := (Baseline.commit_ok hc).1
  have hremoved : k ∉ report.removed := fun hk =>
    hlife.not_writes_of_unedited htx hact hno (Baseline.of_mem_removed hc hk).1
  rw [Baseline.excludes_of_commit hc, or_iff_right hremoved, hlife.excludes_eq htx hact hno]

namespace Cancellation

def first : List Happening :=
  [.act (.begin "a"), .act (.edit "a" (.insert (.sample 1))), .act (.commit "a")]

def deletion : List Happening :=
  [.act (.begin "d"), .act (.edit "d" (.erase (.number 1))), .act (.commit "d")]

def insertion : List Happening :=
  [.act (.begin "b"), .act (.edit "b" (.insert (.sample 2))), .act (.commit "b")]

def start : Scene := (Scene.insertedOnce.play deletion).2

def now : Scene := ((start.begun "v").play insertion).2

def after : Scene := (now.play [.act (.commit "v")]).2

def log : List Moment := (Scene.blank.play first).1 ++ (Scene.insertedOnce.play deletion).1

theorem run_start : Run Scene.blank log start :=
  (Run.play Scene.blank first).append (.play Scene.insertedOnce deletion)

theorem since_cancelled (Q : Moment → Prop) :
    Since (Lineage.ofLog log).shared (·.Cancels (.number 1)) Q :=
  ⟨_, ⟨_, .act (.commit "d"), start⟩, [], rfl, ⟨"d", _, _, _, rfl, rfl, rfl, .head _⟩, by simp⟩

theorem run_now : Run Scene.blank
    (log ++ ⟨start, .act (.begin "v"), start.begun "v"⟩ :: ((start.begun "v").play insertion).1) now :=
  run_start.append (.cons rfl (.play (start.begun "v") insertion))

theorem not_edits_since : ∀ m ∈ ((start.begun "v").play insertion).1, ¬ m.Edits "v" (.number 1) :=
  Scene.not_edits_of_play (by simp [insertion])

end Cancellation

open Cancellation in
/-- A row has been cancelled and inserted anew. A transaction that began in between puts its key back among
the dangling ones. -/
theorem dangling_keys_can_return :
    start.baseline.changes.excludes (.number 1) = true ∧ now.baseline.changes.excludes (.number 1) = false ∧
      after.live? (.number 1) = some (.sample 2) ∧ after.baseline.changes.excludes (.number 1) = true ∧
      ∃ log, Run Scene.blank log after ∧ MayDangle (Lineage.ofLog log).shared (.number 1) ∧
        Since log (·.Returns (.number 1)) fun m => m.after.entry? (.number 1) = none ∨
          m.after.baseline.changes.excludes (.number 1) = false := by
  let since : List Moment := ((start.begun "v").play insertion).1
  let tx : Transaction := ⟨3, .active, .empty, Keyed.empty.put (.number 1)⟩
  have hafter := run_now.append (.play now [.act (.commit "v")])
  have hcancelled : (start.baseline.changes.excludes (.number 1)) = true :=
    (run_start.dangling_keys_descend (.number 1)).1 (since_cancelled _)
  have hlife : Lifetime "v" start since now :=
    .play ⟨_, _, _, run_start, by decide⟩ (by decide) (by decide) (by simp [insertion])
  have htx : now.transaction? "v" = some tx := by decide
  have hcommit : now.baseline.commit tx = .ok (⟨3, 0, []⟩, after.baseline) := rfl
  obtain ⟨-, -, -, hleft⟩ := run_now.dangling_keys_descend (.number 1)
  have hdangling : after.baseline.changes.excludes (.number 1) = true :=
    (hleft "v" start since tx _ _ hlife htx hcommit not_edits_since).2 hcancelled
  obtain ⟨-, hline, hreturned, -⟩ := hafter.dangling_keys_descend (.number 1)
  exact ⟨hcancelled, by decide, by decide, hdangling, _, hafter, hline hdangling,
    hreturned hdangling (by decide)⟩

/-- The row has been cancelled, and since then no commit has brought it into the baseline, no flush has
restored it, and none has ended with nothing pending. -/
def Cancelled (log : List Moment) (k : Key) : Prop :=
  Since log (·.Cancels k) fun m =>
    m.Brings k ∨ m.Restores k ∨ m.ends = true ∧ m.after.baseline.changes.isSettled = true

theorem Cancelled.append {log later : List Moment} {k : Key} (h : Cancelled log k)
    (hlater : ∀ m ∈ later, m.ends = false ∧ m.after.entry? k = none) : Cancelled (log ++ later) k := by
  refine Since.append h fun m hm => ?_
  obtain ⟨hends, hgone⟩ := hlater m hm
  rintro (hbrings | hrestores | ⟨hends', -⟩)
  · exact hbrings.2.2 hgone
  · simp [Moment.ends, hrestores.1] at hends
  · cases hends.symm.trans hends'

theorem not_cancelled_snoc {log : List Moment} {m : Moment} {k : Key} (hends : m.ends = true)
    (hsettled : m.after.baseline.changes.isSettled = true) : ¬ Cancelled (log ++ [m]) k := by
  rw [Cancelled, since_snoc]
  rintro (⟨_, _, _, _, hwhat, -⟩ | ⟨-, hno⟩)
  · simp [Moment.ends, hwhat] at hends
  · exact hno (.inr (.inr ⟨hends, hsettled⟩))

namespace Cancellation

def overtaken : List Happening := [.act (.begin "t"), .act (.begin "a"),
  .act (.edit "a" (.insert (.sample 1))), .act (.commit "a"), .act (.begin "d"),
  .act (.edit "d" (.erase (.number 1)))]

def elsewhere : List Happening := [.act (.edit "t" (.insert (.blank (.number 2))))]

def readmission : List Happening := [.act (.begin "t"), .act (.edit "t" (.insert (.sample 2))),
  .act (.edit "t" (.erase (.number 1))), .act (.commit "t")]

def cancelling : Scene := (Scene.blank.play overtaken).2

def cancelled : Scene := (cancelling.play [.act (.commit "d")]).2

def older : Scene := (cancelled.play elsewhere).2

def forgotten : Scene := (older.play [.act (.commit "t")]).2

def readmitted : Scene := (start.play readmission).2

def failing : Scene := (Scene.insertedOnce.play (.ship :: deletion)).2

def failed : Scene := (failing.play [.giveUp]).2

end Cancellation

open Cancellation in
/-- The keys that dangle are not those of the rows cancelled. A commit of a transaction older than the row
forgets the key, and so does one of a transaction that inserts the row and erases it again. One of a
transaction that began after the row was cancelled brings the key back beside a new entry. And a flush
leaves the key alone if it fails, or if it has nothing to ship. -/
theorem dangling_keys_are_not_those_cancelled :
    (∃ log, Run Scene.blank (log ++ [⟨older, .act (.commit "t"), forgotten⟩]) forgotten ∧
      Cancelled (log ++ [⟨older, .act (.commit "t"), forgotten⟩]) (.number 1) ∧
      (∀ m ∈ log, ¬ m.Edits "t" (.number 1)) ∧ older.baseline.changes.excludes (.number 1) = true ∧
      forgotten.baseline.changes.excludes (.number 1) = false) ∧
    (∃ log, Run Scene.blank log readmitted ∧ Cancelled (Lineage.ofLog log).shared (.number 1) ∧
      readmitted.baseline.changes.excludes (.number 1) = false) ∧
    (∃ log, Run Scene.blank (log ++ [⟨now, .act (.commit "v"), after⟩]) after ∧
      (∀ m ∈ log, ¬ m.Edits "v" (.number 1)) ∧ now.baseline.changes.excludes (.number 1) = false ∧
      after.baseline.changes.excludes (.number 1) = true ∧ after.entry? (.number 1) ≠ none) ∧
    (∃ log, Run Scene.blank (log ++ [⟨failing, .giveUp, failed⟩]) failed ∧
      failed.baseline.changes.isSettled = true ∧
      ¬ Cancelled (log ++ [⟨failing, .giveUp, failed⟩]) (.number 1) ∧
      failed.baseline.changes.excludes (.number 1) = true) ∧
    ∃ log, Run Scene.blank (log ++ [⟨start, .idle, start⟩]) start ∧
      start.baseline.changes.isSettled = true ∧
      ¬ Cancelled (log ++ [⟨start, .idle, start⟩]) (.number 1) ∧
      start.baseline.changes.excludes (.number 1) = true := by
  refine ⟨?_, ?_, ?_, ?_, ?_⟩
  · let since : List Moment := (cancelled.play elsewhere).1
    let log : List Moment :=
      (Scene.blank.play overtaken).1 ++ [⟨cancelling, .act (.commit "d"), cancelled⟩] ++ since
    have hdelete : cancelling.next (.act (.commit "d")) = some cancelled := rfl
    have hcommit : older.next (.act (.commit "t")) = some forgotten := rfl
    have run : Run Scene.blank log older :=
      ((Run.play Scene.blank overtaken).snoc hdelete).append (.play cancelled elsewhere)
    have hcancels : Moment.Cancels ⟨cancelling, .act (.commit "d"), cancelled⟩ (.number 1) :=
      ⟨"d", _, _, _, rfl, rfl, rfl, .head _⟩
    have hcancelled : Cancelled log (.number 1) := by
      refine Cancelled.append ⟨(Scene.blank.play overtaken).1, _, [], rfl, hcancels, by simp⟩ ?_
      decide
    have hno : ∀ m ∈ log, ¬ m.Edits "t" (.number 1) := by
      refine List.forall_mem_append.2 ⟨List.forall_mem_append.2 ⟨?_, ?_⟩, ?_⟩
      · exact Scene.not_edits_of_play (by simp [overtaken])
      · rintro m hm ⟨_, _, _, hwhat, -⟩
        cases List.mem_singleton.1 hm ▸ hwhat
      · exact Scene.not_edits_of_play (by simp [elsewhere, Edit.key, Row.blank])
    exact ⟨log, run.snoc hcommit, hcancelled.append (by decide), hno, by decide, by decide⟩
  · let later : List Moment := (start.play readmission).1
    have hline : (Lineage.ofLog (log ++ later)).shared = (Lineage.ofLog log).shared ++ later.tail := rfl
    have hcancelled : Cancelled (Lineage.ofLog log).shared (.number 1) := since_cancelled _
    refine ⟨log ++ later, run_start.append (.play start readmission), ?_, by decide⟩
    rw [hline]
    exact hcancelled.append (by decide)
  · have hcommit : now.next (.act (.commit "v")) = some after := rfl
    refine ⟨_, run_now.snoc hcommit, ?_, by decide, by decide, by decide⟩
    refine List.forall_mem_append.2
      ⟨List.forall_mem_append.2 ⟨?_, ?_⟩, List.forall_mem_cons.2 ⟨?_, not_edits_since⟩⟩
    · exact Scene.not_edits_of_play (by simp [first])
    · exact Scene.not_edits_of_play (by simp [deletion])
    · rintro ⟨_, _, _, hwhat, -⟩
      cases hwhat
  · have hgiveUp : failing.next .giveUp = some failed := rfl
    have run : Run Scene.blank _ failing :=
      (Run.play Scene.blank first).append (.play Scene.insertedOnce (.ship :: deletion))
    have hclean : failed.baseline.changes.isSettled = true := by decide
    exact ⟨_, run.snoc hgiveUp, hclean, not_cancelled_snoc rfl hclean, by decide⟩
  · have hidle : start.next .idle = some start := rfl
    have hclean : start.baseline.changes.isSettled = true := by decide
    exact ⟨_, run_start.snoc hidle, hclean, not_cancelled_snoc rfl hclean, by decide⟩

end TrackedRows
