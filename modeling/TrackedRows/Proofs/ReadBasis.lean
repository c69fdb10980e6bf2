import TrackedRows.Proofs.Lifetime

namespace TrackedRows

/-- The transaction keeps no entry of a row that it edits: it deletes what it has itself written of a row
that storage does not have yet. -/
def Moment.Loses (m : Moment) (name : String) (k : Key) : Prop :=
  ∃ e tx tx', m.what = .act (.edit name e) ∧ e.key = k ∧ m.before.transaction? name = some tx ∧
    tx.edit e = .ok tx' ∧ tx'.changes.get? k = none

theorem Moment.Loses.edits {m : Moment} {name : String} {k : Key} (h : m.Loses name k) : m.Edits name k := by
  obtain ⟨e, tx, tx', hwhat, hk, htx, he, -⟩ := h
  exact ⟨e, tx, tx', hwhat, hk, htx, he⟩

/-- Nothing that the writer holds of the row goes back to its snapshot. -/
def StartsAnew (id : Stamp) (o : Option Change) : Prop := ∀ c, o = some c → ∃ row, c = .inserted row id

namespace StartsAnew

variable {id : Stamp} {old cur new : Option Change} {c : Change} {row : Row} {p : Pending}

theorem inserted (row : Row) (id : Stamp) : StartsAnew id (some (.inserted row id)) := by
  rintro _ ⟨⟩
  exact ⟨row, rfl⟩

theorem not_rewritten (hp : p = .update ∨ p = .delete) : ¬ StartsAnew id (some (c.rewritten row id p)) := by
  intro h
  obtain ⟨row', hrow⟩ := h _ rfl
  rcases hp with rfl | rfl <;> cases congrArg Change.pending hrow

theorem overlaid_iff (hown : c.writeId = id) (hkept : c.isStored = true ∨ p ≠ .delete) :
    StartsAnew id (some (c.overlaid (c.rewritten row id p) .transaction)) ↔ StartsAnew id (some c) := by
  constructor
  · rintro h _ ⟨⟩
    obtain ⟨row', hrow⟩ := h _ rfl
    have hs : c.isStored = false := congrArg Change.isStored hrow
    have hread : c.readId = id := congrArg Change.readId hrow
    have hpending : c.pending = .insert := by
      simpa [Change.overlaid, Change.inserted, hs] using congrArg Change.pending hrow
    obtain ⟨row₀, readId, writeId, isStored, pending⟩ := c
    cases hs; cases hread; cases hpending; cases hown
    exact ⟨row₀, rfl⟩
  · intro h
    obtain ⟨row', rfl⟩ := h _ rfl
    rintro _ ⟨⟩
    exact ⟨row, rfl⟩

/-- An edit makes the row start anew if it leaves no entry, and otherwise leaves it at that. -/
theorem edited_iff (h : Edited id cur new)
    (hcur : (∃ e, cur = some e ∧ e.isLive = true ∧ e.writeId ≠ id) ∨ Written id old cur) :
    StartsAnew id new ↔ new = none ∨ StartsAnew id cur := by
  cases h with
  | insert row hold =>
      refine iff_of_true (inserted row id) (.inr fun c hc => ?_)
      obtain ⟨hdead, hforeign⟩ := hold c hc
      rcases hcur with ⟨e, he, hlive, -⟩ | hw
      · cases he.symm.trans hc
        cases hdead.symm.trans hlive
      · exact absurd (hc ▸ hw).writeId_eq hforeign
  | @revive c row hl hown =>
      refine iff_of_false (not_rewritten (.inl rfl)) ?_
      rintro (hnone | h)
      · cases hnone
      · obtain ⟨row', rfl⟩ := h _ rfl
        cases hl
  | @replace c row p hp hl hf =>
      refine iff_of_false (not_rewritten hp) ?_
      rintro (hnone | h)
      · cases hnone
      · obtain ⟨row', rfl⟩ := h _ rfl
        exact hf rfl
  | @fold c new row p hp hl hown ha =>
      obtain ⟨-, ⟨-, -, rfl⟩ | ⟨hkept, rfl⟩⟩ := Change.absorb_ok ha
      · exact iff_of_true (fun c hc => by cases hc) (.inl rfl)
      · have hkept' : c.isStored = true ∨ p ≠ .delete := hkept
        simpa only [reduceCtorEq, false_or] using overlaid_iff hown hkept'

end StartsAnew

namespace Lifetime

variable {name : String} {start now : Scene} {log : List Moment} {tx : Transaction} {k : Key} {c e : Change}

theorem startsAnew_iff (h : Lifetime name start log now) (htx : now.transaction? name = some tx)
    (hact : tx.isActive = true) (he : start.entry? k = some e) (hl : e.isLive = true) :
    StartsAnew tx.id (tx.changes.get? k) ↔ ∃ m ∈ log, m.Loses name k := by
  have hlt : e.writeId < start.lastId + 1 :=
    UInt64.lt_of_le_of_lt (h.reachable.sound.committed k e he).2 (Stamp.lt_next h.steady.1)
  refine h.induction (P := fun log t => ∀ tx, t.transaction? name = some tx → tx.isActive = true →
    (StartsAnew tx.id (tx.changes.get? k) ↔ ∃ m ∈ log, m.Loses name k)) ?_ ?_ tx htx hact
  · intro tx htx _
    rw [Scene.transaction?_begun, if_pos rfl] at htx
    cases htx
    refine iff_of_false (fun hnew => ?_) (by simp)
    obtain ⟨row, rfl⟩ := hnew e he
    exact UInt64.lt_irrefl _ hlt
  · intro log t what u hlife hnext _ hne ih tx htx hact
    simp only [List.mem_append, List.mem_singleton, or_and_right, exists_or, exists_eq_left]
    by_cases hlast : Moment.Edits ⟨t, what, u⟩ name k
    · obtain ⟨ed, tx₀, tx', rfl, rfl, htx₀, hed⟩ := hlast
      obtain ⟨hact₀, hid, -, -, hedited⟩ := Transaction.edit_ok hed
      cases (Scene.transaction?_of_edit hnext htx₀ hed).symm.trans htx
      obtain ⟨hid₀, hcopies⟩ := hlife.copies htx₀ hact₀
      have hloses : Moment.Loses ⟨t, .act (.edit name ed), u⟩ name ed.key ↔ tx.changes.get? ed.key = none := by
        constructor
        · rintro ⟨_, _, _, ⟨⟩, -, htx₁, hed₁, hnone⟩
          cases htx₀.symm.trans htx₁
          cases hed.symm.trans hed₁
          exact hnone
        · exact fun hnone => ⟨ed, tx₀, tx, rfl, rfl, htx₀, hed, hnone⟩
      rw [hid, hloses, ← ih tx₀ htx₀ hact₀, or_comm]
      refine StartsAnew.edited_iff hedited ((hcopies.rows ed.key).imp_left fun hsame => ?_)
      exact ⟨e, hsame.trans he, hl, fun hown => UInt64.lt_irrefl _ (hid₀ ▸ hown ▸ hlt)⟩
    · have hno : ¬ Moment.Loses ⟨t, what, u⟩ name k := fun hloses => hlast hloses.edits
      simp only [hno, or_false]
      rcases origin hnext hne htx hact with htx₀ | ⟨ed, tx₀, rfl, htx₀, hed⟩
      · exact ih tx htx₀ hact
      · obtain ⟨hact₀, hid, -, hother, -⟩ := Transaction.edit_ok hed
        rw [hid, hother k fun hk => hlast ⟨ed, tx₀, tx, rfl, hk.symm, htx₀, hed⟩]
        exact ih tx₀ htx₀ hact₀

/-- Of a row that was live when the transaction began, an entry written by the transaction was read at the
version that the row then had, unless the transaction has lost the row on the way. It can only lose a row
that storage did not have. -/
theorem keeps_read_basis_iff (h : Lifetime name start log now) (htx : now.transaction? name = some tx)
    (hact : tx.isActive = true) (he : start.entry? k = some e) (hl : e.isLive = true)
    (hc : tx.changes.get? k = some c) (hown : c.writeId = tx.id) :
    (c.readId = e.readId ↔ ∀ m ∈ log, ¬ m.Loses name k) ∧ (e.isStored = true → c.readId = e.readId) := by
  have hanew := h.startsAnew_iff htx hact he hl
  obtain ⟨-, hcopies⟩ := h.copies htx hact
  have hw := hcopies.written_of_own hc hown
  have hbase : start.baseline.changes.get? k = some e := he
  rw [hc] at hanew
  have hno : (∀ m ∈ log, ¬ m.Loses name k) ↔ ¬ StartsAnew tx.id (some c) := by
    rw [hanew]
    simp
  rw [hno]
  cases hw with
  | fresh row hunbacked =>
      obtain ⟨hcommitted, hlt⟩ := hcopies.older k e he
      have hne : tx.id ≠ e.readId := (UInt64.ne_of_lt (hcommitted.readId_eq ▸ hlt)).symm
      refine ⟨iff_of_false hne (not_not_intro (.inserted row tx.id)), fun hs => ?_⟩
      cases (hunbacked e hbase hl).symm.trans hs
  | @derived d row p hd _ hp =>
      cases hbase.symm.trans hd
      exact ⟨iff_of_true rfl (StartsAnew.not_rewritten hp), fun _ => rfl⟩

end Lifetime

/-- The row is deleted and inserted again, and updated in between, which starts no row anew. -/
theorem reinserted_row_keeps_read_basis :
    let plan : List Happening := [.act (.edit "b" (.erase (.number 1))),
      .act (.edit "b" (.insert (.sample 2))), .ship, .act (.edit "b" (.update (.sample 3)))]
    let now := ((Scene.insertedOnce.begun "b").play plan).2
    let c := (Change.inserted (.sample 1) 1).updated (.sample 3) 2
    Scene.insertedOnce.entry? (.number 1) = some (.inserted (.sample 1) 1) ∧
      (∃ tx, now.transaction? "b" = some tx ∧ tx.changes.get? (.number 1) = some c) ∧
      ∀ m ∈ ((Scene.insertedOnce.begun "b").play plan).1, ¬ m.Loses "b" (.number 1) := by
  intro plan now c
  have hlife : Lifetime "b" Scene.insertedOnce ((Scene.insertedOnce.begun "b").play plan).1 now :=
    .play Scene.insertedOnce_reachable (by decide) (by decide) (by simp [plan])
  have htx : now.transaction? "b" = some ⟨2, .active, ChangeSet.empty.put c⟩ := rfl
  have hc : (ChangeSet.empty.put c).get? (.number 1) = some c := rfl
  have hbasis := (hlife.keeps_read_basis_iff htx rfl rfl rfl hc rfl).1
  exact ⟨rfl, ⟨_, htx, hc⟩, hbasis.1 rfl⟩

/-- The row is updated, deleted and inserted again. Its entry then says that it was read at the stamp of the
transaction itself. -/
theorem read_basis_can_be_lost :
    let plan : List Happening := [.act (.edit "b" (.update (.sample 2))),
      .act (.edit "b" (.erase (.number 1))), .act (.edit "b" (.insert (.sample 3)))]
    let log := ((Scene.insertedOnce.begun "b").play plan).1
    let now := ((Scene.insertedOnce.begun "b").play plan).2
    let e : Change := .inserted (.sample 1) 1
    let c : Change := .inserted (.sample 3) 2
    Lifetime "b" Scene.insertedOnce log now ∧ Scene.insertedOnce.entry? (.number 1) = some e ∧
      e.isLive = true ∧ ∃ tx, now.transaction? "b" = some tx ∧ tx.isActive = true ∧
        tx.changes.get? (.number 1) = some c ∧ c.writeId = tx.id ∧ c.readId ≠ e.readId := by
  intro plan log now e c
  refine ⟨.play Scene.insertedOnce_reachable (by decide) (by decide) (by simp [plan]), rfl, rfl, ?_⟩
  exact ⟨⟨2, .active, ChangeSet.empty.put c⟩, rfl, rfl, rfl, rfl, by decide⟩

end TrackedRows
