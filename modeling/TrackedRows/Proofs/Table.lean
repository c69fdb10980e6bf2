import TrackedRows.Proofs.Lifetime

namespace TrackedRows

/-- Rows by their keys, without versions and without a history. -/
abbrev Table : Type := Key → Option Row

namespace Table

def put (t : Table) (k : Key) (row : Option Row) : Table := fun j => if j = k then row else t j

/-- An insert needs that there is no row with its key yet, and any other edit that there is one. -/
def edit (t : Table) (e : Edit) : Except Fault Table :=
  match e, t e.key with
  | .insert row, none | .update row, some _ => .ok (t.put row.key (some row))
  | .delete row, some _ => .ok (t.put row.key none)
  | .erase key, some _ => .ok (t.put key none)
  | .insert row, some _ => .error (.existingRow row.key.label)
  | e, none => .error (.missingRow e.key.label)

def next (name : String) (t : Table) (m : Moment) : Table :=
  match m.what with
  | .act (.edit other e) => if other = name then (t.edit e).toOption.getD t else t
  | _ => t

/-- The table after all edits that were made under the name. Edits that fail leave it as it is. -/
def after (name : String) (t : Table) (log : List Moment) : Table := log.foldl (next name) t

theorem put_of_key {t : Table} {k : Key} (row : Option Row) : t.put k row k = row := if_pos rfl

theorem put_of_ne {t : Table} {j k : Key} (h : j ≠ k) (row : Option Row) : t.put k row j = t j := if_neg h

theorem fault_of_edit {t : Table} {e : Edit} {fault : Fault} (h : t.edit e = .error fault) :
    fault = .existingRow e.key.label ∨ fault = .missingRow e.key.label := by
  unfold edit at h
  split at h <;> cases h
  · exact .inl rfl
  · exact .inr rfl

theorem after_snoc (name : String) (t : Table) (log : List Moment) (m : Moment) :
    t.after name (log ++ [m]) = (t.after name log).next name m := by
  simp [after]

end Table

/-- What is left of a live row when a change folds into it is live exactly if the change is. -/
theorem Change.live?_of_absorb {old new : Change} {o : Option Change} {m : Meeting}
    (h : old.absorb new m = .ok o) (hl : old.isLive = true) : o.bind live? = new.live? := by
  obtain ⟨-, ⟨-, hp, rfl⟩ | ⟨hkept, rfl⟩⟩ := absorb_ok h
  · simp [live?, isLive, hp]
  · have hlive : (old.overlaid new m).isLive = new.isLive := by
      cases hs : old.isStored with
      | true => simp [overlaid, isLive, hs]
      | false =>
          have hp : new.pending ≠ .delete := by simpa [hs] using hkept
          have hold : old.pending ≠ .delete := by simpa [isLive] using hl
          simp [overlaid, isLive, hs, hp, hold]
    simp only [Option.bind_some, live?, hlive]
    rfl

namespace ChangeSet

variable {s : ChangeSet} {c : Change}

theorem live?_of_get? {k : Key} (h : s.get? k = some c) (hl : c.isLive = true) : s.live? k = some c.row := by
  simp [live?, h, Change.live?, hl]

/-- A change can be written over a live row that it is not older than in its reading. Readers then find
the change, and all other rows as they were. -/
theorem exists_write (h : ∀ old, s.get? c.key = some old → old.isLive = true ∧ old.readId ≤ c.readId) :
    ∃ t, s.write c = .ok t ∧ t.live? = Table.put s.live? c.key c.live? := by
  have hwrite : ∃ t, s.write c = .ok t := by
    simp only [write]
    split
    · exact ⟨_, rfl⟩
    · rename_i old hold
      split
      · exact ⟨_, rfl⟩
      · cases ha : old.absorb c .transaction with
        | ok o => exact ⟨_, rfl⟩
        | error fault =>
            have hlt := Change.absorb_error_iff.1 ⟨fault, ha⟩
            exact absurd hlt (UInt64.not_lt.2 (h old hold).2)
  obtain ⟨t, ht⟩ := hwrite
  refine ⟨t, ht, funext fun k => ?_⟩
  by_cases hk : k = c.key
  · subst hk
    rw [Table.put_of_key, live?]
    by_cases hown : ∃ old, s.get? c.key = some old ∧ old.writeId = c.writeId
    · obtain ⟨old, hold, hown⟩ := hown
      exact Change.live?_of_absorb (get?_write_of_own ht hold hown) (h old hold).1
    · rw [get?_write_of_foreign ht fun old hold hid => hown ⟨old, hold, hid⟩]
      rfl
  · rw [Table.put_of_ne hk, live?, get?_write_of_ne ht hk]
    rfl

end ChangeSet

namespace Transaction

variable {tx : Transaction}

theorem row?_add {s : ChangeSet} {c : Change} {k : Key} (hk : c.key = k)
    (h : ∀ old, s.get? k = some old → old.isLive = true ∧ old.readId ≤ c.readId) :
    (tx.add s c).map row? = .ok (Table.put s.live? k c.live?) := by
  subst hk
  obtain ⟨t, ht, hlive⟩ := ChangeSet.exists_write h
  rw [add, ht, ← hlive]
  rfl

theorem row?_insert (tx : Transaction) (row : Row) :
    (tx.insert row).map row? = Table.edit tx.row? (.insert row) := by
  cases hc : tx.changes.get? row.key with
  | none =>
      have hrow : tx.row? row.key = none := by simp [row?, ChangeSet.live?, hc]
      have hnew : ∀ old, (tx.changes.readmit row.key).get? row.key = some old →
          old.isLive = true ∧ old.readId ≤ tx.id := fun old hold => by
        cases hold.symm.trans hc
      simp only [insert, hc, Table.edit, Edit.key, hrow]
      exact row?_add rfl hnew
  | some c =>
      cases hl : c.isLive with
      | true =>
          have hrow : tx.row? row.key = some c.row := ChangeSet.live?_of_get? hc hl
          simp only [insert, hc, hl, if_true, Table.edit, Edit.key, hrow]
          rfl
      | false =>
          have hrow : tx.row? row.key = none := by simp [row?, ChangeSet.live?, hc, Change.live?, hl]
          simp only [insert, hc, hl, Bool.false_eq_true, if_false, Table.edit, Edit.key, hrow]
          -- The deleted entry goes first, so that the row starts anew without meeting it.
          have hgone : ∀ k, (tx.changes.drop row.key).live? k = tx.changes.live? k := fun k => by
            rw [ChangeSet.live?, ChangeSet.get?_drop]
            split
            · rename_i hk
              rw [hk]
              exact hrow.symm
            · rfl
          have hadd : ∀ c : Change, c.key = row.key → (tx.add (tx.changes.drop row.key) c).map row? =
              .ok (Table.put (tx.changes.drop row.key).live? row.key c.live?) := fun c hk => by
            refine row?_add hk fun old hold => ?_
            rw [ChangeSet.get?_drop, if_pos rfl] at hold
            cases hold
          rw [show tx.row? = (tx.changes.drop row.key).live? from funext fun k => (hgone k).symm]
          split
          · exact hadd _ rfl
          · exact hadd _ rfl

theorem row?_rewrite {k : Key} {c : Change} {row : Row} {p : Pending} (hc : tx.entry k = .ok c)
    (hrow : row.key = k) : (tx.add tx.changes (c.rewritten row tx.id p)).map row? =
      .ok (Table.put tx.row? k (c.rewritten row tx.id p).live?) := by
  obtain ⟨hget, hlive⟩ := entry_ok hc
  refine row?_add hrow fun old hold => ?_
  cases hget.symm.trans hold
  exact ⟨hlive, UInt64.le_refl _⟩

theorem entry_eq (tx : Transaction) (k : Key) :
    (∃ c, tx.entry k = .ok c ∧ tx.row? k = some c.row) ∨
      tx.entry k = .error (.missingRow k.label) ∧ tx.row? k = none := by
  cases hc : tx.changes.get? k with
  | none => exact .inr (by simp [entry, row?, ChangeSet.live?, hc])
  | some c =>
      cases hl : c.isLive with
      | true => exact .inl ⟨c, by simp [entry, row?, ChangeSet.live?, hc, Option.filter, Change.live?, hl]⟩
      | false => exact .inr (by simp [entry, row?, ChangeSet.live?, hc, Option.filter, Change.live?, hl])

/-- Whoever edits the rows of an active transaction, and reads them again, cannot tell its entries from a
table. -/
theorem row?_edit (hact : tx.isActive = true) (e : Edit) :
    (tx.edit e).map row? = Table.edit tx.row? e := by
  simp only [edit, hact, Bool.not_true, Bool.false_eq_true, if_false]
  cases e with
  | insert row => exact row?_insert tx row
  | update row | delete row =>
      rcases entry_eq tx row.key with ⟨c, hc, hrow⟩ | ⟨hc, hrow⟩
      · simp only [hc, Table.edit, Edit.key, hrow]
        exact row?_rewrite hc rfl
      · simp only [hc, Table.edit, Edit.key, hrow]
        rfl
  | erase key =>
      rcases entry_eq tx key with ⟨c, hc, hrow⟩ | ⟨hc, hrow⟩
      · simp only [hc, Table.edit, Edit.key, hrow]
        exact row?_rewrite hc (ChangeSet.key_of_get? (entry_ok hc).1)
      · simp only [hc, Table.edit, Edit.key, hrow]
        rfl

end Transaction

theorem Session.act_edit {s : Session} {name : String} {tx : Transaction} (e : Edit)
    (htx : s.transaction? name = some tx) :
    s.act (.edit name e) = match tx.edit e with
      | .ok tx' => (.edited (.ok ()), s.setTransaction name tx')
      | .error fault => (.edited (.error fault), s) := by
  simp only [act, htx, edit]
  cases tx.edit e <;> rfl

namespace Table

variable {s t start now : Scene} {name : String} {tx : Transaction} {log : List Moment} {table : Table}

/-- A table that an active transaction looks like goes along with every step. -/
theorem next_eq {what : Happening} (hnext : s.next what = some t) (hne : what ≠ .act (.begin name))
    (h : ∀ tx, s.transaction? name = some tx → tx.isActive = true → tx.row? = table)
    (htx : t.transaction? name = some tx) (hact : tx.isActive = true) :
    tx.row? = table.next name ⟨s, what, t⟩ := by
  by_cases hedit : ∃ e, what = .act (.edit name e)
  · obtain ⟨e, rfl⟩ := hedit
    simp only [next, if_true]
    cases htx₀ : s.transaction? name with
    | none =>
        have hnone : s.session.transaction? name = none := htx₀
        have hsame : t = s := by cases hnext; simp [Session.act, hnone]
        cases (hsame ▸ htx₀).symm.trans htx
    | some tx₀ =>
        have hact' := Session.act_edit (s := s.session) e htx₀
        cases he : tx₀.edit e with
        | ok tx' =>
            obtain ⟨hact₀, -⟩ := Transaction.edit_ok he
            cases (Scene.transaction?_of_edit hnext htx₀ he).symm.trans htx
            have hrow := Transaction.row?_edit hact₀ e
            rw [he, h tx₀ htx₀ hact₀] at hrow
            rw [← hrow]
            rfl
        | error fault =>
            have hsame : t = s := by cases hnext; simp [hact', he]
            cases (hsame ▸ htx₀).symm.trans htx
            have hrow := Transaction.row?_edit hact e
            rw [he, h tx htx₀ hact] at hrow
            rw [← hrow]
            exact h tx htx₀ hact
  · have hsame : table.next name ⟨s, what, t⟩ = table := by
      unfold next
      split
      · rename_i other e hwhat
        exact if_neg fun hname : other = name => hedit ⟨e, hwhat.trans (by rw [hname])⟩
      · rfl
    rw [hsame]
    rcases Lifetime.origin hnext hne htx hact with htx₀ | ⟨e, -, hwhat, -⟩
    · exact h tx htx₀ hact
    · exact absurd ⟨e, hwhat⟩ hedit

end Table

namespace Run

variable {start now : Scene} {name : String} {log : List Moment} {tx : Transaction}

theorem row?_eq_after (run : Run (start.begun name) log now) (hkept : ∀ m ∈ log, m.what ≠ .act (.begin name))
    (htx : now.transaction? name = some tx) (hact : tx.isActive = true) :
    tx.row? = Table.after name start.live? log := by
  induction run generalizing tx with
  | nil =>
      rw [Scene.transaction?_begun, if_pos rfl] at htx
      cases htx
      rfl
  | @snoc t u log what run hu ih =>
      rw [Table.after_snoc]
      refine Table.next_eq hu (hkept ⟨t, what, u⟩ (by simp)) (fun tx htx hact => ?_) htx hact
      exact ih (fun m hm => hkept m (by simp [hm])) htx hact

/-- To its user a transaction is a table that starts with the live rows of the baseline. Whatever else
happens, it shows the rows of the table, and each edit of it is answered as the table answers it: with a
fault only for a row that is there already, or for one that is missing. An edit that fails leaves
everything as it is. -/
theorem answers_as_table (run : Run (start.begun name) log now)
    (hkept : ∀ m ∈ log, m.what ≠ .act (.begin name)) (htx : now.transaction? name = some tx)
    (hact : tx.isActive = true) :
    let table := Table.after name start.live? log
    (∀ k, tx.row? k = table k) ∧
      ∀ e, (now.session.act (.edit name e)).1 = .edited ((table.edit e).map fun _ => ()) ∧
        ∀ fault, table.edit e = .error fault →
          (fault = .existingRow e.key.label ∨ fault = .missingRow e.key.label) ∧
            (now.session.act (.edit name e)).2 = now.session := by
  intro table
  have hrow : tx.row? = table := run.row?_eq_after hkept htx hact
  refine ⟨congrFun hrow, fun e => ?_⟩
  have hedit := Transaction.row?_edit hact e
  rw [hrow] at hedit
  rw [Session.act_edit e htx, ← hedit]
  cases he : tx.edit e with
  | ok tx' =>
      refine ⟨rfl, fun fault hfault => ?_⟩
      cases hfault
  | error fault =>
      refine ⟨rfl, fun fault' hfault => ⟨?_, rfl⟩⟩
      cases hfault
      rw [he] at hedit
      exact Table.fault_of_edit hedit.symm

end Run

/-- A row is deleted and inserted again while another transaction commits an update of it. -/
theorem reinserted_row_answers_as_table :
    let plan : List Happening := [.act (.edit "b" (.update (.sample 2))), .act (.begin "c"),
      .act (.edit "b" (.erase (.number 1))), .act (.edit "c" (.update (.sample 4))), .act (.commit "c"),
      .act (.edit "b" (.insert (.sample 3)))]
    let now := ((Scene.insertedOnce.begun "b").play plan).2
    now.live? (.number 1) = some (.sample 4) ∧ ∃ tx, now.transaction? "b" = some tx ∧
      tx.row? (.number 1) = some (.sample 3) ∧
      (now.session.act (.edit "b" (.insert (.sample 5)))).1 = .edited (.error (.existingRow "Int(1)")) ∧
      (now.session.act (.edit "b" (.insert (.sample 5)))).2 = now.session := by
  intro plan now
  have hkept : ∀ m ∈ ((Scene.insertedOnce.begun "b").play plan).1, m.what ≠ .act (.begin "b") := fun m hm he =>
    absurd (he ▸ Scene.what_mem_of_mem_play hm) (by simp [plan])
  let tx : Transaction := ⟨2, .active, ChangeSet.empty.put (.inserted (.sample 3) 2)⟩
  have htx : now.transaction? "b" = some tx := rfl
  obtain ⟨hrow, hedit⟩ := (Run.play (Scene.insertedOnce.begun "b") plan).answers_as_table hkept htx rfl
  obtain ⟨hanswer, hfails⟩ := hedit (.insert (.sample 5))
  exact ⟨by decide, tx, htx, hrow _, hanswer, (hfails _ rfl).2⟩

end TrackedRows
