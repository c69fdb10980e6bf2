import TrackedRows.Proofs.Conflict
import TrackedRows.Proofs.Dangling

namespace TrackedRows

namespace ChangeSet

variable {s : ChangeSet}

theorem landOne_inserted {dangling : KeySet} {row : Row} {id : Stamp}
    (hnone : s.get? (Change.inserted row id).key = none) :
    (∃ fault, s.landOne dangling (.inserted row id) = .error fault) ↔
      dangling.contains (Change.inserted row id).key = true := by
  simp only [landOne, hnone]
  cases dangling.contains (Change.inserted row id).key <;> simp [Change.inserted]

end ChangeSet

/-- An edit leaves an insert only where it finds a row that another has deleted, or an insert. -/
theorem Edited.of_insert {id : Stamp} {d c : Change} (h : Edited id (some d) (some c))
    (hp : c.pending = .insert) :
    d.isLive = false ∧ d.writeId ≠ id ∨ d.writeId = id ∧ d.pending = .insert := by
  cases h with
  | insert row hold => exact .inl (hold d rfl)
  | revive row hl hown => cases hp
  | replace row hp' hl hf => rcases hp' with rfl | rfl <;> cases hp
  | fold row hp' hl hown ha =>
      obtain ⟨-, ⟨-, -, hc⟩ | ⟨-, hc⟩⟩ := Change.absorb_ok ha
      · cases hc
      · cases hc
        refine .inr ⟨hown, ?_⟩
        cases hs : d.isStored with
        | true => rcases hp' with rfl | rfl <;> simp [Change.overlaid, Change.rewritten, hs] at hp
        | false => simpa [Change.overlaid, hs] using hp

namespace Transaction

variable {tx : Transaction} {k : Key}

theorem Copies.writeId_le_readId {base : ChangeSet} {c d : Change} (h : tx.Copies base)
    (hc : tx.changes.get? k = some c) (hown : c.writeId = tx.id) (hd : base.get? k = some d) :
    d.writeId ≤ c.readId := by
  obtain ⟨hcommitted, hlt⟩ := h.older k d hd
  have hw := h.written_of_own hc hown
  rw [hd] at hw
  cases hw with
  | fresh row _ => exact UInt64.le_of_lt hlt
  | derived row hold _ _ =>
      cases hold
      exact hcommitted.readId_eq ▸ UInt64.le_refl _

end Transaction

namespace Step

variable {s t : Scene} {what : Happening} {k : Key} {d : Change}

theorem writeId_eq (h : Step s what t) (hcommit : ∀ name, ¬ (Moment.mk s what t).Commits name k)
    (hseed : ¬ (Moment.mk s what t).Seeds k) (hrestore : ¬ (Moment.mk s what t).Restores k)
    (hd : t.entry? k = some d) : ∃ c, s.entry? k = some c ∧ d.writeId = c.writeId := by
  rcases h.entry?_of_unwritten hcommit hseed with he | ⟨rfl, sh, taken, hsh, ht, hk, he⟩
  · exact ⟨d, he ▸ hd, rfl⟩
  · rw [hd] at he
    cases hc : s.entry? k with
    | some c =>
        rw [hc] at he
        exact ⟨c, rfl, (Change.of_reconciled_eq_some he.symm).2.2.1⟩
    | none =>
        rw [hc, Change.reconciled] at he
        split at he
        · rename_i hl
          exact absurd ⟨rfl, hc, sh, taken, hsh, ht, hk, hl⟩ hrestore
        · cases he

end Step

theorem Run.writeId_eq {s t : Scene} {log : List Moment} {k : Key} {d : Change} (run : Run s log t)
    (hcommit : ∀ m ∈ log, ∀ name, ¬ m.Commits name k) (hseed : ∀ m ∈ log, ¬ m.Seeds k)
    (hrestore : ∀ m ∈ log, ¬ m.Restores k) (hd : t.entry? k = some d) :
    ∃ c, s.entry? k = some c ∧ d.writeId = c.writeId := by
  refine run.invariant (I := fun t => ∀ d, t.entry? k = some d →
    ∃ c, s.entry? k = some c ∧ d.writeId = c.writeId) (fun d hd => ⟨d, hd, rfl⟩) ?_ d hd
  intro m hm hnext ih d hd
  obtain ⟨e, he, hid⟩ :=
    (Scene.step_of_next hnext).writeId_eq (hcommit m hm) (hseed m hm) (hrestore m hm) hd
  obtain ⟨c, hc, hid'⟩ := ih e he
  exact ⟨c, hc, hid.trans hid'⟩

namespace Lifetime

variable {name : String} {start now : Scene} {log : List Moment} {tx : Transaction} {k : Key}

/-- A transaction that has inserted a row and holds its key dangling began with the key dangling, and
found the row deleted by another. -/
theorem deleted_of_excludes (h : Lifetime name start log now) (htx : now.transaction? name = some tx)
    (hact : tx.isActive = true) (hins : tx.Inserts k) (hk : tx.changes.excludes k = true) :
    start.baseline.changes.excludes k = true ∧ ∃ c, start.entry? k = some c ∧ c.isLive = false := by
  refine (h.induction (P := fun _ t => ∀ tx, t.transaction? name = some tx → tx.isActive = true →
    tx.changes.excludes k = true → start.baseline.changes.excludes k = true ∧
      (tx.Inserts k → ∃ c, start.entry? k = some c ∧ c.isLive = false)) ?_ ?_ tx htx hact hk).imp_right
    fun hdeleted => hdeleted hins
  · intro tx htx _ hk
    rw [Scene.transaction?_begun, if_pos rfl] at htx
    cases htx
    refine ⟨hk, fun ⟨c, hc, hown, _⟩ => ?_⟩
    have hle := (h.reachable.sound.committed k c hc).2
    rw [hown] at hle
    exact absurd (UInt64.lt_of_lt_of_le (Stamp.lt_next h.steady.1) hle) (UInt64.lt_irrefl _)
  · intro log t what u hlife hnext _ hne ih tx htx hact hk
    rcases origin hnext hne htx hact with htx | ⟨e, tx₀, -, htx₀, he⟩
    · exact ih tx htx hact hk
    · obtain ⟨hact₀, hid, -, hother, hedited⟩ := Transaction.edit_ok he
      obtain ⟨hk₀, hfound⟩ := (Transaction.excludes_edit he k).1 hk
      obtain ⟨hstart, hdeleted⟩ := ih tx₀ htx₀ hact₀ hk₀
      refine ⟨hstart, fun ⟨c, hc, hown, hp⟩ => ?_⟩
      by_cases hke : k = e.key
      · subst hke
        cases hd : tx₀.changes.get? e.key with
        | none => exact absurd hd (hfound rfl)
        | some d =>
            rw [hd, hc] at hedited
            rcases hedited.of_insert hp with ⟨hl, hf⟩ | ⟨hown₀, hp₀⟩
            · rcases (hlife.copies htx₀ hact₀).2.rows e.key with heq | hw
              · exact ⟨d, heq.symm.trans hd, hl⟩
              · exact absurd (hd ▸ hw).writeId_eq hf
            · exact hdeleted ⟨d, hd, hown₀, hp₀⟩
      · exact hdeleted ⟨c, (hother k hke).symm.trans hc, hown.trans hid, hp⟩

/-- Where nobody else has written a row, only an insert of a row that was deleted can be rejected: the
baseline has forgotten the row since, and the transaction still holds its key dangling. -/
theorem rejects_iff (h : Lifetime name start log now) (htx : now.transaction? name = some tx)
    (hact : tx.isActive = true) (hcommit : ∀ m ∈ log, ∀ other, other ≠ name → ¬ m.Commits other k)
    (hseed : ∀ m ∈ log, ¬ m.Seeds k) (hrestore : ∀ m ∈ log, ¬ m.Restores k) {c : Change}
    (hc : tx.changes.get? k = some c) (hown : c.writeId = tx.id) : now.Rejects name tx k ↔
      tx.Inserts k ∧ tx.changes.excludes k = true ∧ now.entry? k = none := by
  have hcommit' := h.not_commits_of_others htx hact hcommit
  obtain ⟨-, hcopies⟩ := h.copies htx hact
  cases hnow : now.entry? k with
  | some d =>
      obtain ⟨e, he, hid⟩ := h.run.writeId_eq hcommit' hseed hrestore hnow
      have hle : e.writeId ≤ c.readId := hcopies.writeId_le_readId hc hown he
      rw [Scene.rejects_iff_of_some h.sound htx hact hc hown hnow, hid]
      simpa using hle
  | none =>
      have hw := hcopies.written_of_own hc hown
      generalize hstart : start.baseline.changes.get? k = old at hw
      cases hw with
      | @derived e row p he hl _ =>
          -- a live row that nobody writes does not leave the baseline
          obtain ⟨d, hd, -⟩ := h.run.unwritten hcommit' hseed (hstart.trans he) hl
          cases hnow.symm.trans hd
      | fresh row _ =>
          have hkey : (Change.inserted row tx.id).key = k := ChangeSet.key_of_get? hc
          have hins : tx.Inserts k := ⟨_, hc, hown, rfl⟩
          have hnone : now.baseline.changes.get? (Change.inserted row tx.id).key = none := hkey.symm ▸ hnow
          rw [Scene.rejects_iff htx hact hc hown, ChangeSet.landOne_inserted hnone, hkey]
          exact ⟨fun hx => ⟨hins, hx, rfl⟩, fun hx => hx.2.1⟩

/-- If nobody else has written the rows that a transaction wrote, it can commit, except where it inserts
a row that it found deleted by another, whose key was dangling all the same, and which the baseline has
forgotten since. -/
theorem commit_succeeds_iff (h : Lifetime name start log now) (htx : now.transaction? name = some tx)
    (hact : tx.isActive = true)
    (halone : ∀ k c, tx.changes.get? k = some c → c.writeId = tx.id → ∀ m ∈ log,
      (∀ other, other ≠ name → ¬ m.Commits other k) ∧ ¬ m.Seeds k ∧ ¬ m.Restores k) :
    ((∃ landed, now.baseline.commit tx = .ok landed) ↔
      ¬ ∃ k, tx.Inserts k ∧ tx.changes.excludes k = true ∧ now.entry? k = none) ∧
      ∀ k, tx.Inserts k → tx.changes.excludes k = true →
        start.baseline.changes.excludes k = true ∧ ∃ c, start.entry? k = some c ∧ c.isLive = false := by
  refine ⟨?_, fun k hins hk => h.deleted_of_excludes htx hact hins hk⟩
  have hok : (∃ landed, now.baseline.commit tx = .ok landed) ↔
      ¬ ∃ fault, now.baseline.commit tx = .error fault := by
    cases now.baseline.commit tx <;> simp
  have hrejects : ∀ k c, tx.changes.get? k = some c → c.writeId = tx.id → (now.Rejects name tx k ↔
      tx.Inserts k ∧ tx.changes.excludes k = true ∧ now.entry? k = none) := fun k c hc hown =>
    h.rejects_iff htx hact (fun m hm => (halone k c hc hown m hm).1)
      (fun m hm => (halone k c hc hown m hm).2.1) (fun m hm => (halone k c hc hown m hm).2.2) hc hown
  rw [hok, Baseline.commit_fails_iff hact]
  refine not_congr (exists_congr fun k => ?_)
  rw [← Scene.rejects_iff_refuses htx hact]
  constructor
  · intro hrejected
    obtain ⟨fault, c, hc, hown, -⟩ := hrejected.refused
    exact (hrejects k c hc hown).1 hrejected
  · intro hbarred
    obtain ⟨c, hc, hown, -⟩ := hbarred.1
    exact (hrejects k c hc hown).2 hbarred

end Lifetime

namespace FreshInsert

/-- The row is in storage, and its delete is committed and pending. -/
def deleted : List Happening := [.act (.begin "b"), .act (.edit "b" (.insert (.sample 1))),
  .act (.commit "b"), .ship, .deliver, .settle, .act (.begin "c"),
  .act (.edit "c" (.erase (.number 1))), .act (.commit "c")]

/-- The row is inserted and cancelled, and a transaction begins that knows no more of it. -/
def cancelled : List Happening := [.act (.begin "a"), .act (.edit "a" (.insert (.sample 1))),
  .act (.commit "a"), .act (.begin "d"), .act (.edit "d" (.erase (.number 1))), .act (.commit "d"),
  .act (.begin "v")]

def plan : List Happening := [.act (.edit "t" (.insert (.sample 2))), .ship, .deliver, .settle]

def held (id : Stamp) (dangling : KeySet) : Transaction :=
  ⟨id, .active, .ofList [.inserted (.sample 2) id], dangling⟩

theorem eq_of_get?_held {id : Stamp} {dangling : KeySet} {k : Key} {c : Change}
    (hc : (held id dangling).changes.get? k = some c) : k = .number 1 := by
  obtain rfl := List.mem_singleton.1 (Keyed.mem_of_get? hc)
  exact (ChangeSet.key_of_get? hc).symm

theorem not_restores {s : Scene} (h : ∀ m ∈ (s.play plan).1, m.before.entry? (.number 1) ≠ none) :
    ∀ m ∈ (s.play plan).1, ¬ m.Restores (.number 1) :=
  fun m hm hrestores => h m hm hrestores.2.1

end FreshInsert

open FreshInsert in
theorem insert_over_flushed_delete_succeeds :
    let start := (Scene.blank.play deleted).2
    let now := ((start.begun "t").play plan).2
    now.transaction? "t" = some (held 3 .empty) ∧ now.entry? (.number 1) = none ∧
      ∃ landed, now.baseline.commit (held 3 .empty) = .ok landed := by
  intro start now
  have htx : now.transaction? "t" = some (held 3 .empty) := by decide
  have hlife : Lifetime "t" start ((start.begun "t").play plan).1 now :=
    .play (Scene.reachable_of_play (by decide)) (by decide) (by decide) (by simp [plan])
  have hrestores := not_restores (s := start.begun "t") (by decide)
  refine ⟨htx, by decide, (hlife.commit_succeeds_iff htx rfl fun k c hc _ m hm => ?_).1.2 ?_⟩
  · obtain rfl := eq_of_get?_held hc
    exact ⟨fun other _ => Scene.not_commits_of_play (by simp [plan]) m hm other,
      Scene.not_seeds_of_play (by simp [plan]) m hm, hrestores m hm⟩
  · rintro ⟨k, -, hk, -⟩
    cases hk

/-- The older transaction brings the dangling key back with its commit. -/
def FreshInsert.staleStart : Scene :=
  (Scene.blank.play (cancelled ++ deleted ++ [.act (.commit "v")])).2

open FreshInsert in
/-- Nobody writes the row while a transaction inserts it, and still it cannot commit. -/
theorem fresh_inserts_can_be_refused :
    let log := ((staleStart.begun "t").play plan).1
    let now := ((staleStart.begun "t").play plan).2
    let tx := held 6 (.ofList [.number 1])
    Lifetime "t" staleStart log now ∧ now.transaction? "t" = some tx ∧
      (∀ k c, tx.changes.get? k = some c → ∀ m ∈ log,
        (∀ other, ¬ m.Commits other k) ∧ ¬ m.Seeds k ∧ ¬ m.Restores k) ∧
      now.baseline.commit tx = .error (.missingRow "Int(1)") := by
  intro log now tx
  have hrestores : ∀ m ∈ log, ¬ m.Restores (.number 1) := not_restores (by decide)
  refine ⟨?_, by decide, fun k c hc m hm => ?_, rfl⟩
  · exact .play (Scene.reachable_of_play (by decide)) (by decide) (by decide) (by simp [plan])
  · obtain rfl := eq_of_get?_held hc
    exact ⟨Scene.not_commits_of_play (by simp [plan]) m hm, Scene.not_seeds_of_play (by simp [plan]) m hm,
      hrestores m hm⟩

end TrackedRows
