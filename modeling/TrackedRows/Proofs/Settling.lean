import TrackedRows.Proofs.QuietFlush

namespace TrackedRows

namespace Change

/-- What may have become of the entry of a row while storage took over changes of the row. Readers find
the row that they found before, at the same version. -/
inductive Unseen (taken : Change → Prop) (id : Stamp) : Option Change → Option Change → Prop
  | absent : Unseen taken id none none
  | kept {c d : Change} (hrow : d.row = c.row) (hread : d.readId = c.readId)
      (hwrite : d.writeId = c.writeId) (hlive : d.isLive = c.isLive)
      (hstored : c.isStored = true → d.isLive = false → d.isStored = true) :
      Unseen taken id (some c) (some d)
  | gone {c : Change} (hdead : c.isLive = false) : Unseen taken id (some c) none
  | recalled {o : Option Change} {w : Change} (hdead : o.bind live? = none) (hw : taken w)
      (hlive : w.isLive = true) : Unseen taken id o (some (condemned w.row id))

theorem live?_eq_none_iff {c : Change} : c.live? = none ↔ c.isLive = false := by
  cases hl : c.isLive <;> simp [live?, hl]

namespace Unseen

variable {taken : Change → Prop} {id : Stamp} {o r q : Option Change} {c d w : Change}

theorem refl (o : Option Change) : Unseen taken id o o := by
  cases o with
  | none => exact .absent
  | some c => exact .kept rfl rfl rfl rfl fun hs _ => hs

theorem live?_eq (h : Unseen taken id o r) : r.bind live? = o.bind live? := by
  cases h with
  | absent => rfl
  | kept hrow _ _ hlive _ => simp [live?, hrow, hlive]
  | gone hdead => exact (live?_eq_none_iff.2 hdead).symm
  | recalled hdead _ _ => exact hdead.symm

theorem none_of_dead (hdead : o.bind live? = none) : Unseen taken id o none := by
  cases o with
  | none => exact .absent
  | some c => exact .gone (live?_eq_none_iff.1 hdead)

/-- A row that was brought back to leave storage again stays as it is, or leaves. -/
theorem of_condemned {row : Row} (h : Unseen taken id (some (condemned row id)) (some d)) :
    d = condemned row id ∨ ∃ w, taken w ∧ w.isLive = true ∧ d = condemned w.row id := by
  cases h with
  | kept hrow hread hwrite hlive hstored =>
      have hdead : d.isLive = false := hlive
      have hs : d.isStored = true := hstored rfl hdead
      obtain ⟨row', readId, writeId, isStored, pending⟩ := d
      cases hrow
      cases hread
      cases hwrite
      cases hs
      have hp : pending = .delete := by simpa [isLive] using hdead
      cases hp
      exact .inl rfl
  | recalled _ hw hlive => exact .inr ⟨_, hw, hlive, rfl⟩

theorem trans (h : Unseen taken id o r) (h' : Unseen taken id r q) : Unseen taken id o q := by
  cases h with
  | absent => exact h'
  | kept hrow hread hwrite hlive hstored =>
      cases h' with
      | kept hrow' hread' hwrite' hlive' hstored' =>
          refine .kept (hrow'.trans hrow) (hread'.trans hread) (hwrite'.trans hwrite)
            (hlive'.trans hlive) fun hs hdead => ?_
          exact hstored' (hstored hs (hlive'.symm.trans hdead)) hdead
      | gone hdead => exact .gone (hlive.symm.trans hdead)
      | recalled hdead hw hl =>
          refine .recalled ?_ hw hl
          exact live?_eq_none_iff.2 (hlive.symm.trans (live?_eq_none_iff.1 hdead))
  | gone hdead =>
      cases h' with
      | absent => exact .gone hdead
      | recalled _ hw hl => exact .recalled (live?_eq_none_iff.2 hdead) hw hl
  | recalled hdead hw hlive =>
      cases q with
      | none => exact none_of_dead hdead
      | some d =>
          rcases h'.of_condemned with rfl | ⟨w', hw', hlive', rfl⟩
          · exact .recalled hdead hw hlive
          · exact .recalled hdead hw' hlive'

theorem reconciled (hw : taken w) (o : Option Change) : Unseen taken id o (w.reconciled id o) := by
  cases o with
  | none =>
      cases hl : w.isLive with
      | true =>
          rw [reconciled_none_of_isLive hl]
          exact .recalled rfl hw hl
      | false =>
          rw [Change.reconciled, hl]
          exact .absent
  | some c =>
      cases hr : w.reconciled id (some c) with
      | none => exact .gone (not_isLive_of_reconciled_eq_none hr)
      | some d =>
          obtain ⟨hrow, hread, hwrite, hlive, hins⟩ := of_reconciled_eq_some hr
          refine .kept hrow hread hwrite hlive fun _ hdead => ?_
          cases hs : d.isStored with
          | true => rfl
          | false => simp [isLive, hins hs] at hdead

theorem of_isLive (h : Unseen taken id (some c) r) (hl : c.isLive = true) :
    ∃ d, r = some d ∧ d.isLive = true ∧ d.row = c.row ∧ d.readId = c.readId ∧ d.writeId = c.writeId := by
  cases h with
  | kept hrow hread hwrite hlive _ => exact ⟨_, rfl, hlive.trans hl, hrow, hread, hwrite⟩
  | gone hdead => cases hdead.symm.trans hl
  | recalled hdead _ _ => cases (live?_eq_none_iff.1 hdead).symm.trans hl

theorem of_not_isLive (h : Unseen taken id o (some d)) (hdead : d.isLive = false) :
    (∃ c, o = some c ∧ c.isLive = false ∧ c.row = d.row ∧ c.readId = d.readId ∧ c.writeId = d.writeId) ∨
      ∃ w, taken w ∧ w.isLive = true ∧ d = condemned w.row id := by
  cases h with
  | kept hrow hread hwrite hlive _ =>
      exact .inl ⟨_, rfl, hlive.symm.trans hdead, hrow.symm, hread.symm, hwrite.symm⟩
  | recalled _ hw hl => exact .inr ⟨_, hw, hl, rfl⟩

end Unseen

end Change

namespace ChangeSet

variable {batch : List Change} {id : Stamp} {k : Key}

theorem unseen_reconcileOne (s : ChangeSet) {w : Change} (hw : w ∈ batch) :
    Change.Unseen (fun w => w ∈ batch ∧ w.key = k) id (s.get? k) ((s.reconcileOne id w).get? k) := by
  rw [get?_reconcileOne]
  by_cases hk : k = w.key
  · rw [if_pos hk]
    exact .reconciled ⟨hw, hk.symm⟩ _
  · rw [if_neg hk]
    exact .refl _

/-- The batch may have several changes of a row. Each of them meets what those before it have left. -/
theorem unseen_reconcile (s : ChangeSet) (batch : List Change) (id : Stamp) (k : Key) :
    Change.Unseen (fun w => w ∈ batch ∧ w.key = k) id (s.get? k) ((s.reconcile batch id).1.get? k) := by
  have hfold : ∀ (rest : List Change) (s : ChangeSet), (∀ w ∈ rest, w ∈ batch) →
      Change.Unseen (fun w => w ∈ batch ∧ w.key = k) id (s.get? k)
        ((rest.foldl (fun s w => s.reconcileOne id w) s).get? k) := by
    intro rest
    induction rest with
    | nil => exact fun s _ => .refl _
    | cons w rest ih =>
        intro s hrest
        obtain ⟨hw, hrest⟩ := List.forall_mem_cons.1 hrest
        exact (unseen_reconcileOne s hw).trans (ih (s.reconcileOne id w) hrest)
  rw [get?_reconcile]
  exact hfold batch s fun _ hw => hw

/-- Neither readers nor the check for conflicts notice that storage has taken over a batch, whatever is in
it. All rows that are live stay so, at their versions, and a deleted row is one that was deleted before
or that has to leave storage again. -/
theorem reconcile_is_unseen (s : ChangeSet) (batch : List Change) (id : Stamp) :
    let t := (s.reconcile batch id).1
    (∀ k, t.live? k = s.live? k) ∧
      (∀ k c, s.get? k = some c → c.isLive = true → ∃ d, t.get? k = some d ∧ d.isLive = true ∧
        d.row = c.row ∧ d.readId = c.readId ∧ d.writeId = c.writeId) ∧
      ∀ k d, t.get? k = some d → d.isLive = false →
        (∃ c, s.get? k = some c ∧ c.isLive = false ∧ c.row = d.row ∧ c.readId = d.readId ∧
          c.writeId = d.writeId) ∨
        ∃ w ∈ batch, w.key = k ∧ w.isLive = true ∧ d = .condemned w.row id := by
  intro t
  have hunseen : ∀ k, Change.Unseen (fun w => w ∈ batch ∧ w.key = k) id (s.get? k) (t.get? k) :=
    unseen_reconcile s batch id
  refine ⟨fun k => (hunseen k).live?_eq, fun k c hc hl => ?_, fun k d hd hdead => ?_⟩
  · have hk := hunseen k
    rw [hc] at hk
    exact hk.of_isLive hl
  · have hk := hunseen k
    rw [hd] at hk
    rcases hk.of_not_isLive hdead with hkept | ⟨w, ⟨hw, hkey⟩, hl, hrecalled⟩
    · exact .inl hkept
    · exact .inr ⟨w, hw, hkey, hl, hrecalled⟩

/-- A row comes back to leave storage again, and leaves with the second of its changes. -/
example : let w := Change.inserted (.blank (.number 1)) 2
    (empty.reconcile [w, .condemned w.row 4] 4).1 = empty := by decide

theorem settled_settled (s : ChangeSet) : s.settled.settled = s.settled := by
  apply ext_get?
  · intro k
    rw [get?_settled s.settled]
    cases hc : s.settled.get? k with
    | none => rfl
    | some c =>
        have hsettled := isSettled_of_get?_settled hc
        simp [Option.filter, Change.isLive_of_isSettled hsettled, Change.settled_of_isSettled hsettled]
  · rfl

theorem isUntouched_of_mem_unsettled {s : ChangeSet} {w : Change} (hw : w ∈ s.unsettled) :
    s.isUntouched w = true := by
  rw [isUntouched, (mem_unsettled_iff.1 hw).1]
  simp [Change.sameVersion]

theorem snd_reconcile_unsettled (s : ChangeSet) (id : Stamp) :
    (s.reconcile s.unsettled id).2 = s.unsettled.length := by
  have hd : (s.unsettled.map Change.key).Nodup := s.shipment.distinct
  rw [snd_reconcile hd, List.countP_eq_length]
  exact fun w hw => isUntouched_of_mem_unsettled hw

/-- If nothing has happened on the way, a batch with all that is pending settles the whole set, under
whatever stamp. There is nothing left to settle then, and nothing dangles. -/
theorem reconcile_unsettled_settles (s : ChangeSet) (id : Stamp) :
    s.reconcile s.unsettled id = (s.settled, s.unsettled.length) ∧ s.settled.dangling = .empty ∧
      s.settled.settled = s.settled ∧ s.settled.unsettled = [] ∧
      ∀ id', s.settled.reconcile s.settled.unsettled id' = (s.settled, 0) := by
  have hnil : s.settled.unsettled = [] :=
    unsettled_eq_nil fun k c hc => isSettled_of_get?_settled hc
  refine ⟨?_, rfl, settled_settled s, hnil, fun id' => ?_⟩
  · exact Prod.ext (reconcile_unsettled s id) (snd_reconcile_unsettled s id)
  · apply Prod.ext
    · exact (reconcile_unsettled s.settled id').trans (settled_settled s)
    · rw [snd_reconcile_unsettled, hnil]
      rfl

end ChangeSet

end TrackedRows
