import TrackedRows.Proofs.Sound

namespace TrackedRows

/-- No transaction is left that could bring the stamp to the baseline. -/
structure Scene.Spent (s : Scene) (r : Stamp) : Prop where
  issued : r ≤ s.lastId
  foreign : ∀ name tx, s.transaction? name = some tx → tx.isActive = true → tx.id ≠ r

theorem Scene.Sound.spent {s : Scene} (h : s.Sound) {k : Key} {c : Change} (hc : s.entry? k = some c) :
    s.Spent c.writeId where
  issued := (h.committed k c hc).2
  foreign name tx htx hact := (h.unspent name tx htx hact k c hc).symm

namespace Moment

variable {m : Moment} {name : String} {k : Key}

theorem Commits.lands (hm : m.Commits name k) (hnext : m.before.next m.what = some m.after) :
    ∃ tx c, m.before.transaction? name = some tx ∧ tx.isActive = true ∧
      tx.changes.get? k = some c ∧ c.writeId = tx.id ∧ c.Lands (m.before.entry? k) (m.after.entry? k) := by
  obtain ⟨tx, report, b, c, hwhat, htx, hok, hc, hown⟩ := hm
  rw [hwhat] at hnext
  refine ⟨tx, c, htx, (Baseline.commit_ok hok).1, hc, hown, ?_⟩
  rw [Scene.entry?, Scene.entry?, Scene.baseline_of_commit hnext htx hok]
  exact Baseline.lands_of_commit hok hc hown

theorem Commits.writeId (hm : m.Commits name k) (hnext : m.before.next m.what = some m.after) :
    ∃ tx, m.before.transaction? name = some tx ∧ tx.isActive = true ∧
      ∀ d, m.after.entry? k = some d → d.writeId = tx.id := by
  obtain ⟨tx, c, htx, hact, -, hown, hl⟩ := hm.lands hnext
  refine ⟨tx, htx, hact, fun d hd => ?_⟩
  rw [hd] at hl
  exact hl.writeId_eq.trans hown

/-- A commit puts the stamp of its transaction on a row that it leaves in the baseline, in the place of an
older one. -/
theorem Commits.stamps {tx : Transaction} {d : Change} (hm : m.Commits name k) (hs : m.before.Sound)
    (hs' : m.after.Sound) (hnext : m.before.next m.what = some m.after)
    (htx : m.before.transaction? name = some tx) (hd : m.after.entry? k = some d) :
    d.readId = tx.id ∧ d.writeId = tx.id ∧ ∀ c, m.before.entry? k = some c → c.readId < tx.id := by
  obtain ⟨tx', e, htx', hact, he, hown, hl⟩ := hm.lands hnext
  cases htx.symm.trans htx'
  rw [hd] at hl
  have hwrite : d.writeId = tx.id := hl.writeId_eq.trans hown
  refine ⟨(hs'.committed k d hd).1.readId_eq.trans hwrite, hwrite, fun c hc => ?_⟩
  obtain ⟨-, -, base, hcopies⟩ := hs.copies name tx htx hact
  have hread : c.readId = c.writeId := (hs.committed k c hc).1.readId_eq
  have hle : c.writeId ≤ d.writeId :=
    (hc ▸ hl).writeId_le (hs.committed k c hc).1 (hown.symm ▸ hcopies.readId_le he hown)
  rw [hread]
  exact UInt64.lt_of_le_of_ne (hwrite ▸ hle) (hs.unspent name tx htx hact k c hc)

end Moment

namespace Step

variable {s t : Scene} {what : Happening} {k : Key} {c d : Change} {r : Stamp}

theorem spent (h : Step s what t) (hle : s.lastId ≤ t.lastId) (hr : s.Spent r) : t.Spent r where
  issued := UInt64.le_trans hr.issued hle
  foreign name tx htx hact := by
    rcases h.origin htx hact with ⟨tx₀, htx₀, hact₀, hid, -⟩ | ⟨-, rfl, ht⟩
    · exact hid ▸ hr.foreign name tx₀ htx₀ hact₀
    · have hlt := UInt64.lt_of_le_of_lt hr.issued (Stamp.lt_next (ht ▸ hle))
      exact (UInt64.ne_of_lt hlt).symm

/-- As long as a row does not leave the baseline, its stamp does not get older. -/
theorem writeId_le (h : Step s what t) (hs : s.Sound) (hc : s.entry? k = some c)
    (hd : t.entry? k = some d) : c.writeId ≤ d.writeId := by
  have hcommitted := (hs.committed k c hc).1
  cases h.turn k with
  | same he =>
      rw [he, hc] at hd
      cases hd
      exact UInt64.le_refl _
  | @commit name tx report b e htx hok he hown hl _ =>
      obtain ⟨-, -, base, hcopies⟩ := hs.copies name tx htx (Baseline.commit_ok hok).1
      rw [hc, hd] at hl
      exact hl.writeId_le hcommitted (hown.symm ▸ hcopies.readId_le he hown)
  | @seed rows count b row hok hk hl =>
      rw [hc, hd] at hl
      exact hl.writeId_le hcommitted (UInt64.le_refl _)
  | @settle sh taken hsh ht hk he horphan =>
      rw [hd, hc] at he
      exact (Change.of_reconciled_eq_some he.symm).2.2.1 ▸ UInt64.le_refl _

theorem unwritten (h : Step s what t) (hcommit : ∀ name, ¬ (Moment.mk s what t).Commits name k)
    (hseed : ¬ (Moment.mk s what t).Seeds k) (hc : s.entry? k = some c) (hl : c.isLive = true) :
    ∃ d, t.entry? k = some d ∧ d.isLive = true ∧ d.writeId = c.writeId := by
  rcases h.entry?_of_unwritten hcommit hseed with he | ⟨-, sh, taken, -, -, -, he⟩
  · exact ⟨c, he.trans hc, hl, rfl⟩
  · rw [hc] at he
    cases hd : taken.reconciled t.lastId (some c) with
    | none => cases (Change.not_isLive_of_reconciled_eq_none hd).symm.trans hl
    | some d =>
        obtain ⟨-, -, hid, hlive, -⟩ := Change.of_reconciled_eq_some hd
        exact ⟨d, he.trans hd, hlive.trans hl, hid⟩

/-- Nothing but a commit changes the stamps of a row that stays in the baseline. -/
theorem stamps_eq (h : Step s what t) (hs : s.Sound)
    (hcommit : ∀ name, ¬ (Moment.mk s what t).Commits name k) (hc : s.entry? k = some c)
    (hd : t.entry? k = some d) : d.readId = c.readId ∧ d.writeId = c.writeId := by
  have hread : c.readId = c.writeId := (hs.committed k c hc).1.readId_eq
  cases h.turn k with
  | same he =>
      cases hd.symm.trans (he.trans hc)
      exact ⟨rfl, rfl⟩
  | @commit name tx report b e htx hok he hown _ _ =>
      exact absurd ⟨tx, report, b, e, rfl, htx, hok, he, hown⟩ (hcommit name)
  | @seed rows count b row hok hk hl =>
      rw [hc, hd] at hl
      cases hl with
      | onto hle _ =>
          have hzero : c.readId = 0 := UInt64.le_zero_iff.1 hle
          exact ⟨hzero.symm, (hread ▸ hzero).symm⟩
  | @settle sh taken hsh ht hk he horphan =>
      rw [hd, hc] at he
      obtain ⟨-, hread', hwrite', -⟩ := Change.of_reconciled_eq_some he.symm
      exact ⟨hread', hwrite'⟩

end Step

namespace Run

variable {s t : Scene} {log : List Moment} {k : Key} {c d : Change} {r : Stamp}

theorem writeId_le (run : Run s log t) (hs : s.Sound) (hsteady : Steady log)
    (hkept : ∀ m ∈ log, m.after.entry? k ≠ none) (hc : s.entry? k = some c)
    (hd : t.entry? k = some d) : c.writeId ≤ d.writeId := by
  induction run generalizing d with
  | nil =>
      cases hc.symm.trans hd
      exact UInt64.le_refl _
  | @snoc t u log what run hu ih =>
      have hsteady' : Steady log := fun m hm => hsteady m (by simp [hm])
      have hkept' : ∀ m ∈ log, m.after.entry? k ≠ none := fun m hm => hkept m (by simp [hm])
      cases he : t.entry? k with
      | some e =>
          have hstep := Scene.step_of_next hu
          exact UInt64.le_trans (ih hsteady' hkept' he) (hstep.writeId_le (run.sound hs hsteady') he hd)
      | none =>
          cases run with
          | nil => cases he.symm.trans hc
          | snoc => exact absurd he (hkept' _ (List.mem_append_right _ (.head _)))

theorem unwritten (run : Run s log t) (hcommit : ∀ m ∈ log, ∀ name, ¬ m.Commits name k)
    (hseed : ∀ m ∈ log, ¬ m.Seeds k) (hc : s.entry? k = some c) (hl : c.isLive = true) :
    ∃ d, t.entry? k = some d ∧ d.isLive = true ∧ d.writeId = c.writeId := by
  refine run.invariant (I := fun t => ∃ d, t.entry? k = some d ∧ d.isLive = true ∧
    d.writeId = c.writeId) ⟨c, hc, hl, rfl⟩ ?_
  rintro m hm hnext ⟨d, hd, hlive, hid⟩
  obtain ⟨e, he, hlive', hid'⟩ :=
    (Scene.step_of_next hnext).unwritten (hcommit m hm) (hseed m hm) hd hlive
  exact ⟨e, he, hlive', hid'.trans hid⟩

/-- Once a row has been written over, the stamp it had does not come back, unless it is that of rows found
in storage. -/
theorem writeId_ne_of_commits (run : Run s log t) (hsteady : Steady log) (hr : s.Spent r)
    (hseed : r = 0 → ∀ m ∈ log, ¬ m.Seeds k) (hcommit : ∃ m ∈ log, ∃ name, m.Commits name k)
    (hd : t.entry? k = some d) : d.writeId ≠ r := by
  have hspent : t.Spent r ∧ ((∃ m ∈ log, ∃ name, m.Commits name k) → ∀ d, t.entry? k = some d →
      d.writeId ≠ r) := by
    clear hd hcommit
    induction run with
    | nil =>
        refine ⟨hr, ?_⟩
        rintro ⟨m, hm, -⟩
        cases hm
    | @snoc t u log what run hu ih =>
        have hstep := Scene.step_of_next hu
        have hle : t.lastId ≤ u.lastId := hsteady ⟨t, what, u⟩ (by simp)
        obtain ⟨hspent, hne⟩ :=
          ih (fun m hm => hsteady m (by simp [hm])) fun hzero m hm => hseed hzero m (by simp [hm])
        refine ⟨hstep.spent hle hspent, fun hcommit d hd => ?_⟩
        by_cases hlast : ∃ name, (Moment.mk t what u).Commits name k
        · obtain ⟨name, hlast⟩ := hlast
          obtain ⟨tx, htx, hact, hid⟩ := hlast.writeId hu
          exact hid d hd ▸ hspent.foreign name tx htx hact
        · have hearlier : ∃ m ∈ log, ∃ name, m.Commits name k := by
            obtain ⟨m, hm, hmk⟩ := hcommit
            rcases List.mem_append.1 hm with hm | hm
            · exact ⟨m, hm, hmk⟩
            · exact absurd (List.mem_singleton.1 hm ▸ hmk) hlast
          rcases hstep.writeId_origin hd with ⟨c, hc, heq⟩ | ⟨name, tx, htx, hact, -, heq⟩ |
            ⟨hseeds, heq⟩ | ⟨ht, heq⟩
          · exact heq ▸ hne hearlier c hc
          · exact heq ▸ hspent.foreign name tx htx hact
          · exact heq ▸ fun hzero => hseed hzero.symm _ (by simp) hseeds
          · have hlt := UInt64.lt_of_le_of_lt hspent.issued (Stamp.lt_next (ht ▸ hle))
            exact heq ▸ (UInt64.ne_of_lt (ht ▸ hlt)).symm
  exact hspent.2 hcommit d hd

theorem writeId_ne (run : Run s log t) (hsteady : Steady log) (hr : s.Spent r)
    (hseed : ∀ m ∈ log, ¬ m.Seeds k) (hcommit : ∃ m ∈ log, ∃ name, m.Commits name k)
    (hd : t.entry? k = some d) : d.writeId ≠ r :=
  run.writeId_ne_of_commits hsteady hr (fun _ => hseed) hcommit hd

theorem readId_lt_or_eq (run : Run s log t) (hs : s.Sound) (hsteady : Steady log)
    (hkept : ∀ m ∈ log, m.after.entry? k ≠ none) (hc : s.entry? k = some c) (hd : t.entry? k = some d) :
    c.readId < d.readId ∧ (∃ m ∈ log, ∃ name, m.Commits name k) ∨
      c.readId = d.readId ∧ ∀ m ∈ log, ∀ name, ¬ m.Commits name k := by
  induction run generalizing d with
  | nil =>
      cases hc.symm.trans hd
      exact .inr ⟨rfl, by simp⟩
  | @snoc t u log what run hu ih =>
      have hsteady' : Steady log := fun m hm => hsteady m (by simp [hm])
      have hkept' : ∀ m ∈ log, m.after.entry? k ≠ none := fun m hm => hkept m (by simp [hm])
      obtain ⟨e, he⟩ : ∃ e, t.entry? k = some e := Option.ne_none_iff_exists'.1 <|
        run.invariant (I := fun t => t.entry? k ≠ none) (by simp [hc]) fun m hm _ _ => hkept' m hm
      have ht : t.Sound := run.sound hs hsteady'
      have hstep := Scene.step_of_next hu
      by_cases hlast : ∃ name, (Moment.mk t what u).Commits name k
      · obtain ⟨name, hlast⟩ := hlast
        obtain ⟨tx, htx, -⟩ := hlast.writeId hu
        obtain ⟨hread, -, hlt⟩ := hlast.stamps ht (hstep.sound ht (hsteady ⟨t, what, u⟩ (by simp))) hu htx hd
        have hle : c.readId ≤ e.readId := by
          rcases ih hsteady' hkept' he with ⟨hlt, -⟩ | ⟨heq, -⟩
          · exact UInt64.le_of_lt hlt
          · exact heq ▸ UInt64.le_refl _
        exact .inl ⟨hread ▸ UInt64.lt_of_le_of_lt hle (hlt e he), _, by simp, name, hlast⟩
      · have hno : ∀ name, ¬ (Moment.mk t what u).Commits name k := fun name h => hlast ⟨name, h⟩
        rw [(hstep.stamps_eq ht hno he hd).1]
        rcases ih hsteady' hkept' he with ⟨hlt, m, hm, hcommit⟩ | ⟨heq, hcommit⟩
        · exact .inl ⟨hlt, m, by simp [hm], hcommit⟩
        · refine .inr ⟨heq, fun m hm => ?_⟩
          rcases List.mem_append.1 hm with hm | hm
          · exact hcommit m hm
          · exact List.mem_singleton.1 hm ▸ hno

/-- While a row stays in the baseline its stamps only move forward, and they move with each commit that
writes it. No flush and no row found in storage changes them, nor does anything else. -/
theorem stamps_move_forward (hreach : s.Reachable) (run : Run s log t) (hsteady : Steady log) (k : Key) :
    (∀ c d, s.entry? k = some c → t.entry? k = some d → (∀ m ∈ log, m.after.entry? k ≠ none) →
      c.readId ≤ d.readId ∧ (c.readId < d.readId ↔ ∃ m ∈ log, ∃ name, m.Commits name k)) ∧
    ∀ m ∈ log, ∀ d, m.after.entry? k = some d →
      (∀ name tx, m.Commits name k → m.before.transaction? name = some tx →
        d.readId = tx.id ∧ d.writeId = tx.id ∧ ∀ c, m.before.entry? k = some c → c.readId < tx.id) ∧
      ((∀ name, ¬ m.Commits name k) → ∀ c, m.before.entry? k = some c →
        d.readId = c.readId ∧ d.writeId = c.writeId) := by
  refine ⟨fun c d hc hd hkept => ?_, fun m hm d hd => ?_⟩
  · rcases run.readId_lt_or_eq hreach.sound hsteady hkept hc hd with ⟨hlt, hcommit⟩ | ⟨heq, hcommit⟩
    · exact ⟨UInt64.le_of_lt hlt, iff_of_true hlt hcommit⟩
    · refine ⟨heq ▸ UInt64.le_refl _, iff_of_false (heq ▸ UInt64.lt_irrefl _) ?_⟩
      rintro ⟨m, hm, name, h⟩
      exact hcommit m hm name h
  · obtain ⟨earlier, later, rfl⟩ := List.append_of_mem hm
    obtain ⟨hearlier, hnext, -⟩ := run.split
    have hs : m.before.Sound := hearlier.sound hreach.sound fun m hm => hsteady m (by simp [hm])
    have hstep := Scene.step_of_next hnext
    have hs' : m.after.Sound := hstep.sound hs (hsteady m (by simp))
    exact ⟨fun name tx hcommit htx => hcommit.stamps hs hs' hnext htx hd,
      fun hcommit c hc => hstep.stamps_eq hs hcommit hc hd⟩

end Run

/-- A row is updated while its insert is on its way, and another row is found in storage. -/
theorem row_updated_in_flight_moves_forward :
    let flight : List Happening :=
      [.act (.begin "b"), .act (.edit "b" (.update (.sample 2))), .ship, .deliver]
    let later : List Happening := [.settle, .act (.seed [.blank (.number 2)])]
    let before := (Scene.insertedOnce.play flight).2
    let after := (before.play [.act (.commit "b")]).2
    let now := (after.play later).2
    let c : Change := .inserted (.sample 1) 1
    let d : Change := ⟨.sample 2, 2, 2, true, .update⟩
    before.entry? (.number 1) = some c ∧ now.entry? (.number 1) = some d ∧ c.readId < d.readId ∧
      ∃ e, after.entry? (.number 1) = some e ∧ e.readId = 2 ∧ e.writeId = 2 := by
  intro flight later before after now c d
  let tx : Transaction := ⟨2, .active, ChangeSet.empty.put (c.updated (.sample 2) 2)⟩
  have run : Run Scene.insertedOnce ((Scene.insertedOnce.play flight).1 ++
      ⟨before, .act (.commit "b"), after⟩ :: (after.play later).1) now :=
    (Run.play Scene.insertedOnce flight).append (.cons rfl (.play after later))
  have htx : before.transaction? "b" = some tx := by decide
  have hcommits : Moment.Commits ⟨before, .act (.commit "b"), after⟩ "b" (.number 1) :=
    Moment.commits_of_isOk htx (by decide) rfl rfl
  obtain ⟨hstretch, hmoments⟩ :=
    run.stamps_move_forward Scene.insertedOnce_reachable (by decide) (.number 1)
  have hnow : now.entry? (.number 1) = some d := by decide
  obtain ⟨-, hforward⟩ := hstretch c d (by decide) hnow (by decide)
  obtain ⟨e, he⟩ : ∃ e, after.entry? (.number 1) = some e := ⟨_, rfl⟩
  obtain ⟨hread, hwrite, -⟩ := (hmoments _ (by simp) e he).1 "b" tx hcommits htx
  exact ⟨by decide, hnow, hforward.2 ⟨_, by simp, "b", hcommits⟩, e, he, hread, hwrite⟩

end TrackedRows
