import TrackedRows.Proofs.Step

namespace TrackedRows

namespace ChangeSet

variable {s t incoming : ChangeSet}

theorem mapM_landOne_congr {dangling : KeySet} {items : List Change}
    (h : ∀ c ∈ items, s.get? c.key = t.get? c.key) :
    items.mapM (fun c => return (c.key, ← s.landOne dangling c)) =
      (items.mapM fun c => return (c.key, ← t.landOne dangling c) :
        Except Fault (List (Key × Option Change))) := by
  induction items with
  | nil => rfl
  | cons c items ih =>
      rw [List.mapM_cons, List.mapM_cons, landOne_congr (h c (by simp)), ih fun d hd => h d (by simp [hd])]

/-- Whether a set can land, and which rows it cancels, depends on the entries of its own rows alone. -/
theorem removed_land_congr (h : ∀ c, incoming.get? c.key = some c → s.get? c.key = t.get? c.key) :
    (s.land incoming).map Landing.removed = (t.land incoming).map Landing.removed := by
  unfold land
  rw [mapM_landOne_congr fun c hc => h c (Keyed.get?_of_mem hc)]
  cases incoming.entries.items.mapM fun c => (do
      return (c.key, ← t.landOne incoming.dangling c) : Except Fault (Key × Option Change)) <;> rfl

end ChangeSet

namespace Baseline

variable {b b' : Baseline} {tx tx' : Transaction} {k : Key}

/-- The baseline after a commit has been tried. -/
def tried (b : Baseline) (tx : Transaction) : Baseline :=
  match b.commit tx with
  | .ok (_, b') => b'
  | .error _ => b

theorem report_commit_congr (h : ∀ k, tx.Writes k → b.changes.get? k = b'.changes.get? k) :
    (b.commit tx).map Prod.fst = (b'.commit tx).map Prod.fst := by
  have hland : (b.changes.land (tx.changes.writtenBy tx.id)).map Landing.removed =
      (b'.changes.land (tx.changes.writtenBy tx.id)).map Landing.removed := by
    refine ChangeSet.removed_land_congr fun c hc => h c.key ?_
    exact ⟨c, ChangeSet.get?_writtenBy_eq_some_iff.1 hc⟩
  simp only [commit, land]
  split
  · rfl
  · generalize b.changes.land (tx.changes.writtenBy tx.id) = r at hland
    generalize b'.changes.land (tx.changes.writtenBy tx.id) = r' at hland
    cases r with
    | error fault =>
        cases r' with
        | error fault' => cases hland; rfl
        | ok l' => cases hland
    | ok l =>
        cases r' with
        | error fault' => cases hland
        | ok l' =>
            have hremoved : l.removed = l'.removed := Except.ok.inj hland
            show Except.ok _ = Except.ok _
            rw [hremoved]

theorem get?_tried_of_not_writes (h : ¬ tx.Writes k) :
    (b.tried tx).changes.get? k = b.changes.get? k := by
  unfold tried
  split
  · rename_i report b' hc
    exact ((commit_ok hc).2.2 k).2 fun c hget hown => h ⟨c, hget, hown⟩
  · rfl

/-- What a commit makes of a row depends on the entries of the rows that it writes, and on none else. -/
theorem get?_tried_congr (h : ∀ k, tx.Writes k → b.changes.get? k = b'.changes.get? k)
    (hk : b.changes.get? k = b'.changes.get? k) :
    (b.tried tx).changes.get? k = (b'.tried tx).changes.get? k := by
  by_cases hw : tx.Writes k
  · have hreport := report_commit_congr h
    obtain ⟨c, hc, hown⟩ := hw
    unfold tried
    cases hb : b.commit tx with
    | error fault =>
        cases hb' : b'.commit tx with
        | error fault' => exact hk
        | ok landed => rw [hb, hb'] at hreport; cases hreport
    | ok landed =>
        cases hb' : b'.commit tx with
        | error fault => rw [hb, hb'] at hreport; cases hreport
        | ok landed' =>
            have hl := ((commit_ok hb).2.2 k).1 c hc hown
            have hl' := ((commit_ok hb').2.2 k).1 c hc hown
            have hkey : c.key = k := ChangeSet.key_of_get? hc
            have hone : b.changes.landOne tx.changes.dangling c = b'.changes.landOne tx.changes.dangling c :=
              ChangeSet.landOne_congr (hkey.symm ▸ hk)
            exact Except.ok.inj (hl.symm.trans (hone.trans hl'))
  · rw [get?_tried_of_not_writes hw, get?_tried_of_not_writes hw, hk]

theorem get?_tried_comm (h : ∀ k, ¬ (tx.Writes k ∧ tx'.Writes k)) (k : Key) :
    ((b.tried tx).tried tx').changes.get? k = ((b.tried tx').tried tx).changes.get? k := by
  have hkept : ∀ j, tx.Writes j → b.changes.get? j = (b.tried tx').changes.get? j := fun j hj =>
    (get?_tried_of_not_writes fun hj' => h j ⟨hj, hj'⟩).symm
  have hkept' : ∀ j, tx'.Writes j → (b.tried tx).changes.get? j = b.changes.get? j := fun j hj' =>
    get?_tried_of_not_writes fun hj => h j ⟨hj, hj'⟩
  by_cases hk : tx'.Writes k
  · have hk' : ¬ tx.Writes k := fun hk' => h k ⟨hk', hk⟩
    rw [get?_tried_of_not_writes hk', get?_tried_congr hkept' (hkept' k hk)]
  · rw [get?_tried_of_not_writes hk, ← get?_tried_congr hkept (get?_tried_of_not_writes hk).symm]

end Baseline

namespace Session

variable {s : Session} {name other : String} {tx tx' : Transaction}

theorem act_commit (htx : s.transaction? name = some tx) :
    (s.act (.commit name)).1 = .committed ((s.baseline.commit tx).map Prod.fst) ∧
      (s.act (.commit name)).2.baseline = s.baseline.tried tx := by
  simp only [act, htx, commit, Baseline.tried]
  cases s.baseline.commit tx with
  | error fault => exact ⟨rfl, rfl⟩
  | ok landed => exact ⟨rfl, rfl⟩

theorem transaction?_act_commit (hne : other ≠ name) :
    (s.act (.commit name)).2.transaction? other = s.transaction? other := by
  simp only [act]
  split
  · rename_i tx htx
    have hput := transaction?_setTransaction s name other tx.closed
    rw [if_neg hne] at hput
    cases hc : s.baseline.commit tx with
    | error fault => simpa [commit, hc] using hput
    | ok landed => exact (by simp [commit, hc, transaction?] : _ = _).trans hput
  · rfl

/-- Of two transactions that have written no row in common, neither notices which of them was the first
to commit. The entries of the baseline do not tell it either, whether the commits succeed or fail. -/
theorem commits_commute (htx : s.transaction? name = some tx) (htx' : s.transaction? other = some tx')
    (hne : name ≠ other) (hdisjoint : ∀ k, ¬ (tx.Writes k ∧ tx'.Writes k)) :
    let first := s.act (.commit name)
    let second := first.2.act (.commit other)
    let first' := s.act (.commit other)
    let second' := first'.2.act (.commit name)
    first.1 = second'.1 ∧ second.1 = first'.1 ∧
      second.2.baseline.changes.entries = second'.2.baseline.changes.entries := by
  intro first second first' second'
  obtain ⟨hreply, hbaseline⟩ := act_commit htx
  obtain ⟨hreply', hbaseline'⟩ := act_commit htx'
  obtain ⟨hsecond, hlast⟩ := act_commit ((transaction?_act_commit hne.symm).trans htx' :
    first.2.transaction? other = some tx')
  obtain ⟨hsecond', hlast'⟩ := act_commit ((transaction?_act_commit hne).trans htx :
    first'.2.transaction? name = some tx)
  rw [show first.2.baseline = _ from hbaseline] at hsecond hlast
  rw [show first'.2.baseline = _ from hbaseline'] at hsecond' hlast'
  refine ⟨?_, ?_, ?_⟩
  · rw [show first.1 = _ from hreply, hsecond', Baseline.report_commit_congr fun k hk =>
      (Baseline.get?_tried_of_not_writes fun hk' => hdisjoint k ⟨hk, hk'⟩).symm]
  · rw [show first'.1 = _ from hreply', hsecond, Baseline.report_commit_congr fun k hk' =>
      Baseline.get?_tried_of_not_writes fun hk => hdisjoint k ⟨hk, hk'⟩]
  · rw [hlast, hlast']
    exact Keyed.ext_get? (Baseline.get?_tried_comm hdisjoint)

end Session

/-- One of the commits cancels a row, and the other is refused since a younger transaction has inserted
its row before. -/
theorem cancelling_and_refused_commits_commute :
    let plan : List Happening := [.act (.begin "b"), .act (.edit "b" (.erase (.number 1))),
      .act (.begin "c"), .act (.edit "c" (.insert (.blank (.number 2)))), .act (.begin "d"),
      .act (.edit "d" (.insert (.blank (.number 2)))), .act (.commit "d")]
    let s := (Scene.insertedOnce.play plan).2.session
    let afterB := (s.act (.commit "b")).2
    let afterC := (s.act (.commit "c")).2
    (s.act (.commit "b")).1 = .committed (.ok ⟨2, 1, [.number 1]⟩) ∧
      (s.act (.commit "c")).1 = .committed (.error (.conflict "Int(2)" 4 3)) ∧
      (afterB.act (.commit "c")).1 = (s.act (.commit "c")).1 ∧
      (s.act (.commit "b")).1 = (afterC.act (.commit "b")).1 ∧
      (afterB.act (.commit "c")).2.baseline.changes.entries =
        (afterC.act (.commit "b")).2.baseline.changes.entries := by
  intro plan s afterB afterC
  obtain ⟨tx, htx⟩ : ∃ tx, s.transaction? "b" = some tx := ⟨_, rfl⟩
  obtain ⟨tx', htx'⟩ : ∃ tx, s.transaction? "c" = some tx := ⟨_, rfl⟩
  have hdisjoint : ∀ k, ¬ (tx.Writes k ∧ tx'.Writes k) := by
    rintro k ⟨hk, hk'⟩
    cases htx
    cases htx'
    rw [Transaction.writes_iff_mem_keys] at hk hk'
    exact absurd ((List.mem_singleton.1 hk).symm.trans (List.mem_singleton.1 hk')) (by decide)
  obtain ⟨hb, hc, hentries⟩ := Session.commits_commute htx htx' (by decide) hdisjoint
  exact ⟨rfl, rfl, hc, hb, hentries⟩

end TrackedRows
