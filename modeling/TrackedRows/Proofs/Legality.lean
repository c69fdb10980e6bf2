import TrackedRows.Proofs.Conflict
import TrackedRows.Proofs.Execution

namespace TrackedRows

/-- A store can take the change that inserts only rows it does not hold, and updates and deletes only
rows it does. -/
def Change.Fits (c : Change) (stored : Option Row) : Prop :=
  match c.pending with
  | .insert => stored = none
  | .update | .delete => stored ≠ none
  | .nothing => False

/-- A commit inserts the row anew where the entry says that storage has it. -/
def Moment.Reinserts (m : Moment) (k : Key) (id : Stamp) : Prop :=
  ∃ tx old, m.CommitsInsert tx k ∧ tx.id = id ∧ m.before.entry? k = some old ∧ old.isStored = true

/-- The commit that wrote the change inserted the row where storage had it, and no batch has settled the
row since. -/
def Change.Reinserted (c : Change) (log : List Moment) : Prop :=
  ∃ earlier m later, log = earlier ++ m :: later ∧ m.Reinserts c.key c.writeId ∧
    ∀ m ∈ later, ¬ m.Settles c.key

/-- What a batch leaves to be inserted, storage does not have. -/
theorem Change.isStored_of_reconciled {taken d : Change} {id : Stamp} {o : Option Change}
    (h : taken.reconciled id o = some d) (hp : d.pending = .insert) : d.isStored = false := by
  cases o with
  | none =>
      simp only [reconciled] at h
      split at h
      · cases h
        cases hp
      · cases h
  | some c =>
      simp only [reconciled] at h
      split at h
      · split at h
        · cases h
          cases hp
        · cases h
      · split at h
        · cases h
          by_cases hins : c.pending = .insert <;> simp [hins] at hp
        · split at h
          · cases h
            rfl
          · cases h

theorem Moment.Reinserts.entry? {m : Moment} {k : Key} {id : Stamp} (h : m.Reinserts k id)
    (hnext : m.before.next m.what = some m.after) :
    ∃ c, m.after.entry? k = some c ∧ c.pending = .insert ∧ c.isStored = true ∧ c.writeId = id := by
  obtain ⟨tx, old, ⟨⟨d, hd, hown, hp⟩, name, hcommits, htx⟩, rfl, hold, hstored⟩ := h
  obtain ⟨tx', d', htx', -, hd', -, hl⟩ := hcommits.lands hnext
  cases htx.symm.trans htx'
  cases hd.symm.trans hd'
  rw [hold] at hl
  generalize m.after.entry? k = r at hl ⊢
  cases hl with
  | onto _ _ => exact ⟨_, rfl, by simp [Change.overlaid, hstored, hp], hstored, hown⟩
  | cancel _ hs _ => cases hs.symm.trans hstored

namespace Step

variable {s t : Scene} {what : Happening} {k : Key} {d : Change}

theorem reinserts (h : Step s what t) (hs : s.Sound) (hseed : ¬ (Moment.mk s what t).Seeds k)
    (hd : t.entry? k = some d) (hp : d.pending = .insert) (hstored : d.isStored = true) :
    s.entry? k = some d ∧ ¬ (Moment.mk s what t).Settles k ∨
      (Moment.mk s what t).Reinserts k d.writeId := by
  by_cases hsettles : (Moment.mk s what t).Settles k
  · obtain ⟨rfl, sh, hsh, hk⟩ := hsettles
    obtain ⟨w, hw, rfl⟩ := List.mem_map.1 hk
    cases h with
    | @settle sh' hsh' =>
        cases hsh.symm.trans hsh'
        have hreconciled := Baseline.get?_reconcile_of_mem (b := s.baseline) sh.distinct hw
        cases (Change.isStored_of_reconciled (hreconciled.symm.trans hd) hp).symm.trans hstored
  · cases h.turn k with
    | same he => exact .inl ⟨he ▸ hd, hsettles⟩
    | @commit name tx report b c htx hok hc hown hl _ =>
        rw [hd] at hl
        generalize hold : s.entry? k = o at hl
        cases hl with
        | fresh hnew =>
            obtain ⟨-, -, base, hcopies⟩ := hs.copies name tx htx (Baseline.commit_ok hok).1
            obtain ⟨row, rfl⟩ := hcopies.eq_inserted hc hown hp
            cases hstored
        | @onto old _ _ =>
            have hstored' : old.isStored = true := hstored
            have hp' : c.pending = .insert := by simpa [Change.overlaid, hstored'] using hp
            exact .inr ⟨tx, old, ⟨⟨c, hc, hown, hp'⟩, name, ⟨tx, report, b, c, rfl, htx, hok, hc, hown⟩, htx⟩,
              hown.symm, hold, hstored'⟩
    | @seed rows count b row hok hk _ => exact absurd ⟨rows, count, b, rfl, hok, hk⟩ hseed
    | @settle sh taken hsh ht hk _ _ =>
        exact absurd ⟨rfl, sh, hsh, List.mem_map.2 ⟨taken, ht, hk⟩⟩ hsettles

theorem entry?_eq (h : Step s what t) (hcommit : ∀ name, ¬ (Moment.mk s what t).Commits name k)
    (hseed : ¬ (Moment.mk s what t).Seeds k) (hsettle : ¬ (Moment.mk s what t).Settles k) :
    t.entry? k = s.entry? k := by
  rcases h.entry?_of_unwritten hcommit hseed with he | ⟨rfl, sh, taken, hsh, ht, hk, -⟩
  · exact he
  · exact absurd ⟨rfl, sh, hsh, List.mem_map.2 ⟨taken, ht, hk⟩⟩ hsettle

end Step

namespace Run

variable {s t : Scene} {log : List Moment} {k : Key} {c : Change}

theorem entry?_eq (run : Run s log t) (hcommit : ∀ m ∈ log, ∀ name, ¬ m.Commits name k)
    (hseed : ∀ m ∈ log, ¬ m.Seeds k) (hsettle : ∀ m ∈ log, ¬ m.Settles k) :
    t.entry? k = s.entry? k := by
  refine run.invariant (I := fun t => t.entry? k = s.entry? k) rfl fun m hm hnext he => ?_
  exact ((Scene.step_of_next hnext).entry?_eq (hcommit m hm) (hseed m hm) (hsettle m hm)).trans he

theorem reinserted (run : Run s log t) (hs : s.Sound) (hsteady : Steady log)
    (hseed : ∀ m ∈ log, ¬ m.Seeds k)
    (hstart : ∀ c, s.entry? k = some c → c.pending ≠ .insert)
    (hc : t.entry? k = some c) (hp : c.pending = .insert) (hstored : c.isStored = true) :
    c.Reinserted log := by
  induction run with
  | nil => exact absurd hp (hstart c hc)
  | @snoc t u log what run hu ih =>
      have hsteady' : Steady log := fun m hm => hsteady m (by simp [hm])
      have hseed' : ∀ m ∈ log, ¬ m.Seeds k := fun m hm => hseed m (by simp [hm])
      have hkey : c.key = k := ChangeSet.key_of_get? hc
      rcases (Scene.step_of_next hu).reinserts (run.sound hs hsteady') (hseed _ (by simp)) hc hp hstored with
        ⟨hc', hsettles⟩ | hlast
      · obtain ⟨earlier, m, later, rfl, hm, hlater⟩ := ih hsteady' hseed' hc'
        refine ⟨earlier, m, later ++ [⟨t, what, u⟩], by simp, hm, fun m' hm' => ?_⟩
        rcases List.mem_append.1 hm' with hm' | hm'
        · exact hlater m' hm'
        · exact List.mem_singleton.1 hm' ▸ hkey.symm ▸ hsettles
      · exact ⟨log, ⟨t, what, u⟩, [], rfl, hkey.symm ▸ hlast, by simp⟩

/-- Nothing else has happened to a row that was inserted anew, and was last written by that. -/
theorem of_reinserted (run : Run s log t) (hs : s.Sound) (hsteady : Steady log)
    (hseed : ∀ m ∈ log, ¬ m.Seeds c.key) (hc : t.entry? c.key = some c) (h : c.Reinserted log) :
    c.pending = .insert ∧ c.isStored = true := by
  obtain ⟨earlier, m, later, rfl, hm, hsettle⟩ := h
  obtain ⟨hearlier, hnext, hlater⟩ := run.split
  have hsteady' : Steady later := fun m hm => hsteady m (by simp [hm])
  have hseed' : ∀ m ∈ later, ¬ m.Seeds c.key := fun m hm => hseed m (by simp [hm])
  have hsound : m.before.Sound := hearlier.sound hs fun m hm => hsteady m (by simp [hm])
  have hsound' : m.after.Sound := (Scene.step_of_next hnext).sound hsound (hsteady m (by simp))
  obtain ⟨d, hd, hp, hstored, hid⟩ := hm.entry? hnext
  have hcommit : ∀ m ∈ later, ∀ name, ¬ m.Commits name c.key := fun m hm name hcommits =>
    hlater.writeId_ne hsteady' (hsound'.spent hd) hseed' ⟨m, hm, name, hcommits⟩ hc hid.symm
  cases hd.symm.trans ((hlater.entry?_eq hcommit hseed' hsettle).symm.trans hc)
  exact ⟨hp, hstored⟩

end Run

theorem Session.eq_unsettled_of_mem_batches {s : Session} {batch : List Change}
    (h : batch ∈ s.flush.1.batches) : batch = s.baseline.changes.unsettled := by
  by_cases hb : s.baseline.changes.unsettled = []
  · rw [flush_of_settled hb] at h
    cases h
  · cases hp : (s.persist s.baseline.changes.unsettled).1 with
    | ok _ =>
        rw [flush_of_persist_ok hb hp] at h
        exact List.mem_singleton.1 h
    | error reason =>
        rw [flush_of_persist_error hb hp] at h
        exact List.mem_singleton.1 h

/-- A flush hands over one change of each row, in the order of the keys. All of them fit what the store
holds, but for inserts of rows that were inserted where the store had them. -/
theorem Run.batch_fits_iff {settings : Settings} {store : Store} {s : Session} {log : List Moment}
    {now : Scene} {batch : List Change}
    (hopen : Session.open? settings store (.ok store.rows.items) = .ok s)
    (run : Run ⟨s, none⟩ log now) (hsteady : Steady log) (hhonest : ∀ m ∈ log, m.isHonest = true)
    (hseed : ∀ m ∈ log, ∀ k, ¬ m.Seeds k) (hidle : now.shipment = none)
    (hbatch : batch ∈ now.session.flush.1.batches) :
    batch.Pairwise (fun a b => compare a.key b.key = .lt) ∧
      ∀ w ∈ batch, (w.pending ≠ .insert → w.Fits (now.stored? w.key)) ∧
        (w.Fits (now.stored? w.key) ↔ ¬ w.Reinserted log) := by
  have hopened : Scene.Sound ⟨s, none⟩ := (Scene.reachable_of_open hopen).sound
  have hsound : now.Sound := run.sound hopened hsteady
  have htruthful : now.Truthful := run.truthful_of_open hopen hsteady hhonest hseed
  obtain rfl := Session.eq_unsettled_of_mem_batches hbatch
  refine ⟨now.baseline.changes.entries.ascending.filter _, fun w hw => ?_⟩
  obtain ⟨hentry, hunsettled⟩ := ChangeSet.mem_unsettled_iff.1 hw
  have hseed' : ∀ m ∈ log, ¬ m.Seeds w.key := fun m hm => hseed m hm w.key
  have hcommitted : w.Committed := (hsound.committed w.key w hentry).1
  have hflag := (htruthful.agrees_of_idle hidle w.key).flag w hentry
  have hreinserted : w.Reinserted log ↔ w.pending = .insert ∧ w.isStored = true := by
    refine ⟨run.of_reinserted hopened hsteady hseed' hentry, fun ⟨hp, hstored⟩ => ?_⟩
    refine run.reinserted hopened hsteady hseed' (fun c hc => ?_) hentry hp hstored
    have hget : s.baseline.changes.get? w.key = some c := hc
    rw [Session.get?_of_open hopen] at hget
    obtain ⟨row, -, rfl⟩ := Option.map_eq_some_iff.1 hget
    simp [Change.seeded]
  have hnews : w.pending ≠ .nothing := hcommitted.pending_ne_of_unsettled hunsettled
  rw [hreinserted]
  cases hp : w.pending with
  | nothing => exact absurd hp hnews
  | insert =>
      simp only [Change.Fits, hp, ne_eq, not_true_eq_false, false_implies, true_and]
      rw [hflag, Option.eq_none_iff_forall_ne_some, not_exists]
  | update | delete =>
      have hstored : w.isStored = true := by
        cases hs : w.isStored with
        | true => rfl
        | false => cases hp.symm.trans (hcommitted.pending_of_unstored hs)
      obtain ⟨row, hrow⟩ := hflag.1 hstored
      simp [Change.Fits, hp, hrow]

namespace Reinsertion

def store : Store := .ofRows [.sample 1]

def opened : Session := { Session.new .default store with
  baseline := ⟨⟨.ofList [.seeded (.sample 1) 0], .empty⟩, 0⟩ }

def deletion : List Happening :=
  [.act (.begin "a"), .act (.edit "a" (.erase (.number 1))), .act (.commit "a")]

def insertion : List Happening :=
  [.act (.begin "b"), .act (.edit "b" (.insert (.sample 2))), .act (.commit "b")]

end Reinsertion

open Reinsertion in
/-- A row that is inserted anew while its delete is on its way fits the store when it goes there. -/
theorem row_inserted_in_flight_fits :
    let plan := deletion ++ [.ship, .deliver] ++ insertion ++ [.settle]
    let log := (Scene.play ⟨opened, none⟩ plan).1
    let now := (Scene.play ⟨opened, none⟩ plan).2
    let w : Change := .inserted (.sample 2) 2
    now.session.flush.1.batches = [[w]] ∧ w.Fits (now.stored? (.number 1)) ∧ ¬ w.Reinserted log := by
  intro plan log now w
  have hopen : Session.open? .default store (.ok store.rows.items) = .ok opened := rfl
  have hbatches : now.session.flush.1.batches = [[w]] := by decide
  have hfits : w.Fits (now.stored? (.number 1)) := show now.stored? (.number 1) = none by decide
  have hmem : [w] ∈ now.session.flush.1.batches := hbatches ▸ List.mem_singleton.2 rfl
  obtain ⟨-, hbatch⟩ := (Run.play ⟨opened, none⟩ plan).batch_fits_iff hopen (by decide) (by decide)
    (fun m hm k => Scene.not_seeds_of_play (by simp [plan, deletion, insertion]) m hm) rfl hmem
  exact ⟨hbatches, hfits, (hbatch w (by simp)).2.1 hfits⟩

open Reinsertion in
/-- The delete of a row has been committed, and no flush has taken it to the store. The row is inserted
anew, and so goes to the store as an insert. -/
theorem inserts_of_stored_rows_are_flushed :
    let plan := deletion ++ insertion
    let log := (Scene.play ⟨opened, none⟩ plan).1
    let now := (Scene.play ⟨opened, none⟩ plan).2
    Session.open? .default store (.ok store.rows.items) = .ok opened ∧ Run ⟨opened, none⟩ log now ∧
      Steady log ∧ (∀ m ∈ log, m.isHonest = true) ∧ (∀ m ∈ log, ∀ k, ¬ m.Seeds k) ∧
      now.shipment = none ∧ ∃ batch ∈ now.session.flush.1.batches, ∃ w ∈ batch,
        w.pending = .insert ∧ now.stored? w.key = some (.sample 1) := by
  intro plan log now
  refine ⟨rfl, .play _ plan, by decide, by decide, fun m hm k => ?_, rfl, ?_⟩
  · exact Scene.not_seeds_of_play (by simp [plan, deletion, insertion]) m hm
  · exact ⟨_, List.mem_cons_self .., _, List.mem_cons_self .., by decide, by decide⟩

end TrackedRows
