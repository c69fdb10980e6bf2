import TrackedRows.Proofs.Scene

namespace TrackedRows

namespace Session

theorem transaction?_setTransaction (s : Session) (name other : String) (tx : Transaction) :
    (s.setTransaction name tx).transaction? other =
      if other = name then some tx else s.transaction? other := by
  simp only [transaction?, setTransaction, Keyed.get?_put]
  split <;> rfl

theorem transaction?_erase (s : Session) (name other : String) :
    { s with transactions := s.transactions.erase name }.transaction? other =
      if other = name then none else s.transaction? other := by
  simp only [transaction?, Keyed.get?_erase]
  split <;> rfl

end Session

inductive Step (s : Scene) : Happening → Scene → Prop
  | begin (name : String) : Step s (.act (.begin name)) (s.begun name)
  | edit {name : String} {e : Edit} {tx tx' : Transaction} (htx : s.transaction? name = some tx)
      (he : tx.edit e = .ok tx') :
      Step s (.act (.edit name e)) ⟨s.session.setTransaction name tx', s.shipment⟩
  | commit {name : String} {tx : Transaction} {report : CommitReport} {b : Baseline}
      (htx : s.transaction? name = some tx) (hc : s.baseline.commit tx = .ok (report, b)) :
      Step s (.act (.commit name))
        ⟨{ s.session.setTransaction name tx.closed with baseline := b }, s.shipment⟩
  | close {a : Action} {name : String} {tx : Transaction} (htx : s.transaction? name = some tx) :
      Step s (.act a) ⟨s.session.setTransaction name tx.closed, s.shipment⟩
  | drop (name : String) : Step s (.act (.drop name))
      ⟨{ s.session with transactions := s.session.transactions.erase name }, s.shipment⟩
  | seed {rows : List Row} {count : Nat} {b : Baseline} (hs : s.baseline.seed rows = .ok (count, b)) :
      Step s (.act (.seed rows)) ⟨{ s.session with baseline := b }, s.shipment⟩
  | rest {a : Action} {t : Scene} (hb : t.baseline = s.baseline)
      (ht : t.session.transactions = s.session.transactions)
      (hr : t.session.store.rows = s.session.store.rows) (hs : t.shipment = s.shipment) :
      Step s (.act a) t
  | ship (hs : s.shipment = none) : Step s .ship
      ⟨{ s.session with armed := none }, some s.baseline.changes.shipment⟩
  | deliver {batch : List Change} {distinct : (batch.map Change.key).Nodup} {store : Store}
      (hs : s.shipment = some ⟨batch, distinct, false⟩)
      (hr : store.rows = batch.foldl Store.write s.session.store.rows) :
      Step s .deliver ⟨{ s.session with store }, some ⟨batch, distinct, true⟩⟩
  | refuse {batch : List Change} {distinct : (batch.map Change.key).Nodup} {store : Store}
      (hs : s.shipment = some ⟨batch, distinct, false⟩) (hr : store.rows = s.session.store.rows) :
      Step s .deliver ⟨{ s.session with store }, none⟩
  | settle {sh : Shipment} (hs : s.shipment = some sh) : Step s .settle
      ⟨{ s.session with baseline := (s.baseline.reconcile sh.batch).2 }, none⟩
  | giveUp {sh : Shipment} (hs : s.shipment = some sh) : Step s .giveUp { s with shipment := none }
  | idle (hs : s.shipment = none) (hnil : s.baseline.changes.unsettled = []) : Step s .idle s

namespace Scene

variable {s t : Scene} {what : Happening} {k : Key} {name : String} {tx : Transaction}

theorem step_of_act {a : Action} : Step s (.act a) { s with session := (s.session.act a).2 } := by
  cases a with
  | begin name => exact .begin name
  | edit name e =>
      simp only [Session.act]
      split
      · rename_i tx htx
        cases he : tx.edit e with
        | ok tx' => simpa [Session.edit, he] using Step.edit htx he
        | error fault => simpa [Session.edit, he] using Step.rest rfl rfl rfl rfl
      · exact .rest rfl rfl rfl rfl
  | commit name =>
      simp only [Session.act]
      split
      · rename_i tx htx
        cases hc : s.baseline.commit tx with
        | ok landed => simpa [Session.commit, hc] using Step.commit htx hc
        | error fault => simpa [Session.commit, hc] using Step.close htx
      · exact .rest rfl rfl rfl rfl
  | rollback name =>
      simp only [Session.act]
      split
      · rename_i tx htx
        exact .close htx
      · exact .rest rfl rfl rfl rfl
  | drop name => exact .drop name
  | seed rows =>
      cases hs : s.baseline.seed rows with
      | ok seeded => simpa [Session.act, Session.seed, hs] using Step.seed hs
      | error fault => simpa [Session.act, Session.seed, hs] using Step.rest rfl rfl rfl rfl
  | refuseNext => exact .rest rfl rfl rfl rfl
  | arm flight => exact .rest rfl rfl rfl rfl
  | look query => exact .rest rfl rfl rfl rfl

theorem transaction?_begun (s : Scene) (name other : String) : (s.begun name).transaction? other =
    if other = name then some ⟨s.lastId + 1, .active, s.baseline.changes⟩ else s.transaction? other :=
  Session.transaction?_setTransaction ..

theorem transaction?_of_edit {e : Edit} {tx' : Transaction} (h : s.next (.act (.edit name e)) = some t)
    (htx : s.transaction? name = some tx) (he : tx.edit e = .ok tx') :
    t.transaction? name = some tx' := by
  have hs : s.session.transaction? name = some tx := htx
  cases h
  simp [transaction?, Session.act, hs, Session.edit, he, Session.transaction?_setTransaction]

theorem transaction?_of_commit {report : CommitReport} {b : Baseline}
    (h : s.next (.act (.commit name)) = some t) (htx : s.transaction? name = some tx)
    (hc : s.baseline.commit tx = .ok (report, b)) : t.transaction? name = some tx.closed := by
  have hs : s.session.transaction? name = some tx := htx
  have hb : s.session.baseline.commit tx = .ok (report, b) := hc
  cases h
  simp only [transaction?, Session.act, hs, Session.commit, hb]
  exact (Session.transaction?_setTransaction ..).trans (if_pos rfl)

theorem baseline_of_commit {report : CommitReport} {b : Baseline}
    (h : s.next (.act (.commit name)) = some t) (htx : s.transaction? name = some tx)
    (hc : s.baseline.commit tx = .ok (report, b)) : t.baseline = b := by
  have hs : s.session.transaction? name = some tx := htx
  have hb : s.session.baseline.commit tx = .ok (report, b) := hc
  cases h
  simp [baseline, Session.act, hs, Session.commit, hb]

theorem step_of_next (h : s.next what = some t) : Step s what t := by
  cases what with
  | act a => cases h; exact step_of_act
  | ship =>
      simp only [next] at h
      split at h
      · rename_i hs _
        cases h
        exact .ship hs
      · cases h
  | deliver =>
      simp only [next] at h
      split at h
      · rename_i hs
        split at h
        · rename_i hp
          cases h
          refine .deliver hs ?_
          simp only [Store.persist] at hp
          split at hp <;> cases hp
          rfl
        · rename_i hp
          cases h
          refine .refuse hs ?_
          simp only [Store.persist] at hp
          split at hp <;> cases hp
          rfl
      · cases h
  | settle =>
      obtain ⟨sh, hs, rfl⟩ := Option.map_eq_some_iff.1 h
      exact .settle hs
  | giveUp =>
      obtain ⟨sh, hs, rfl⟩ := Option.map_eq_some_iff.1 h
      exact .giveUp hs
  | idle =>
      simp only [next] at h
      split at h
      · rename_i hs hnil
        cases h
        exact .idle hs hnil
      · cases h

end Scene

inductive Turn (s : Scene) (k : Key) (t : Scene) : Happening → Prop
  | same {what : Happening} (he : t.entry? k = s.entry? k) : Turn s k t what
  | commit {name : String} {tx : Transaction} {report : CommitReport} {b : Baseline} {c : Change}
      (htx : s.transaction? name = some tx) (hok : s.baseline.commit tx = .ok (report, b))
      (hc : tx.changes.get? k = some c) (hown : c.writeId = tx.id)
      (hl : c.Lands (s.entry? k) (t.entry? k))
      (hclosed : t.transaction? name = some tx.closed) : Turn s k t (.act (.commit name))
  | seed {rows : List Row} {count : Nat} {b : Baseline} {row : Row}
      (hok : s.baseline.seed rows = .ok (count, b)) (hk : k ∈ rows.map Row.key)
      (hl : (Change.seeded row 0).Lands (s.entry? k) (t.entry? k)) : Turn s k t (.act (.seed rows))
  | settle {sh : Shipment} {taken : Change} (hs : s.shipment = some sh) (ht : taken ∈ sh.batch)
      (hk : taken.key = k) (he : t.entry? k = taken.reconciled t.lastId (s.entry? k))
      (horphan : s.entry? k = none → taken.isLive = true → t.lastId = s.lastId + 1) :
      Turn s k t .settle

namespace Step

variable {s t : Scene} {what : Happening}

theorem lastId_eq (h : Step s what t) : t.lastId = s.lastId ∨ t.lastId = s.lastId + 1 := by
  cases h with
  | begin name => exact .inr rfl
  | commit _ hc => exact .inl (Baseline.commit_ok hc).2.1
  | seed hs => exact .inl (Baseline.seed_ok hs).1
  | rest hb => exact .inl (congrArg Baseline.lastId hb)
  | settle _ =>
      simp only [Scene.lastId, Scene.baseline, Baseline.lastId_reconcile]
      split
      · exact .inr rfl
      · exact .inl rfl
  | edit | close | drop | ship | deliver | refuse | giveUp | idle => exact .inl rfl

theorem turn (h : Step s what t) (k : Key) : Turn s k t what := by
  cases h with
  | @commit name tx report b htx hc =>
      obtain ⟨-, -, hrows⟩ := Baseline.commit_ok hc
      by_cases hw : ∃ c, tx.changes.get? k = some c ∧ c.writeId = tx.id
      · obtain ⟨c, hget, hown⟩ := hw
        refine .commit htx hc hget hown (Baseline.lands_of_commit hc hget hown) ?_
        exact (Session.transaction?_setTransaction ..).trans (if_pos rfl)
      · exact .same ((hrows k).2 fun c hget hown => hw ⟨c, hget, hown⟩)
  | @seed rows count b hs =>
      obtain ⟨-, hrows⟩ := Baseline.seed_ok hs
      by_cases hk : k ∈ rows.map Row.key
      · obtain ⟨row, -, -, hl⟩ := (hrows k).1 hk
        exact .seed hs hk hl
      · exact .same ((hrows k).2 hk)
  | @settle sh hs =>
      by_cases hk : k ∈ sh.batch.map Change.key
      · obtain ⟨taken, ht, rfl⟩ := List.mem_map.1 hk
        refine .settle hs ht rfl (Baseline.get?_reconcile_of_mem sh.distinct ht) fun hnone hl => ?_
        simp only [Scene.lastId, Scene.baseline, Baseline.lastId_reconcile,
          Baseline.hasOrphan_of_mem ht hl hnone, if_true]
      · exact .same (Baseline.get?_reconcile_of_not_mem sh.distinct hk)
  | rest hb => exact .same (congrArg (fun b : Baseline => b.changes.get? k) hb)
  | begin | edit | close | drop | ship | deliver | refuse | giveUp | idle => exact .same rfl

/-- A row that nobody writes only changes when a batch with it settles. -/
theorem entry?_of_unwritten (h : Step s what t) {k : Key}
    (hcommit : ∀ name, ¬ (Moment.mk s what t).Commits name k)
    (hseed : ¬ (Moment.mk s what t).Seeds k) : t.entry? k = s.entry? k ∨
      what = .settle ∧ ∃ sh taken, s.shipment = some sh ∧ taken ∈ sh.batch ∧ taken.key = k ∧
        t.entry? k = taken.reconciled t.lastId (s.entry? k) := by
  cases h.turn k with
  | same he => exact .inl he
  | @commit name tx report b c htx hok hc hown _ _ =>
      exact absurd ⟨tx, report, b, c, rfl, htx, hok, hc, hown⟩ (hcommit name)
  | @seed rows count b row hok hk _ => exact absurd ⟨rows, count, b, rfl, hok, hk⟩ hseed
  | @settle sh taken hsh ht hk he _ => exact .inr ⟨rfl, sh, taken, hsh, ht, hk, he⟩

theorem transaction (h : Step s what t) {name : String} {tx : Transaction}
    (htx : t.transaction? name = some tx) (hact : tx.isActive = true) :
    s.transaction? name = some tx ∨
      (∃ e tx₀, what = .act (.edit name e) ∧ s.transaction? name = some tx₀ ∧ tx₀.edit e = .ok tx) ∨
      what = .act (.begin name) ∧ tx = ⟨s.lastId + 1, .active, s.baseline.changes⟩ ∧
        t.lastId = s.lastId + 1 := by
  have hclosed : ∀ tx₀ : Transaction, tx₀.closed.isActive = false := fun _ => rfl
  cases h with
  | begin other =>
      rw [Scene.transaction?_begun] at htx
      split at htx
      · rename_i hn
        cases htx
        exact .inr (.inr ⟨by rw [hn], rfl, rfl⟩)
      · exact .inl htx
  | @edit other e tx₀ tx₁ htx₀ he =>
      rw [Scene.transaction?, Session.transaction?_setTransaction] at htx
      split at htx
      · rename_i hn
        cases htx
        subst hn
        exact .inr (.inl ⟨e, tx₀, rfl, htx₀, he⟩)
      · exact .inl htx
  | @commit other tx₀ report b htx₀ hc =>
      rw [show Scene.transaction? _ name = (s.session.setTransaction other tx₀.closed).transaction? name
        from rfl, Session.transaction?_setTransaction] at htx
      split at htx
      · cases htx
        cases (hclosed tx₀).symm.trans hact
      · exact .inl htx
  | @close a other tx₀ htx₀ =>
      rw [Scene.transaction?, Session.transaction?_setTransaction] at htx
      split at htx
      · cases htx
        cases (hclosed tx₀).symm.trans hact
      · exact .inl htx
  | drop other =>
      rw [Scene.transaction?, Session.transaction?_erase] at htx
      split at htx
      · cases htx
      · exact .inl htx
  | rest _ ht =>
      refine .inl ?_
      rw [Scene.transaction?, Session.transaction?, ht] at htx
      exact htx
  | seed | ship | deliver | refuse | settle | giveUp | idle => exact .inl htx

end Step

/-- As long as nobody writes a row, readers find it as they found it. -/
theorem Run.live?_eq {s t : Scene} {log : List Moment} {k : Key} (run : Run s log t)
    (hcommit : ∀ m ∈ log, ∀ name, ¬ m.Commits name k) (hseed : ∀ m ∈ log, ¬ m.Seeds k) :
    t.live? k = s.live? k := by
  refine run.invariant (I := fun t => t.live? k = s.live? k) rfl fun m hm hnext ih => ?_
  rw [← ih]
  rcases (Scene.step_of_next hnext).entry?_of_unwritten (hcommit m hm) (hseed m hm) with
    he | ⟨-, sh, taken, -, -, -, he⟩
  · exact congrArg (·.bind Change.live?) he
  · exact (congrArg (·.bind Change.live?) he).trans (Change.live?_reconciled ..)

/-- In fewer than 2^64 steps the counter does not come round. -/
theorem Run.steady {s t : Scene} {log : List Moment} (run : Run s log t)
    (h : s.lastId.toNat + log.length < UInt64.size) :
    Steady log ∧ t.lastId.toNat ≤ s.lastId.toNat + log.length := by
  induction run with
  | nil => exact ⟨fun m hm => absurd hm List.not_mem_nil, Nat.le_refl _⟩
  | @snoc t u log what run hu ih =>
      rw [List.length_append, List.length_singleton] at h
      obtain ⟨hsteady, hle⟩ := ih (by omega)
      have hnext : t.lastId ≤ u.lastId ∧ u.lastId.toNat ≤ t.lastId.toNat + 1 := by
        rcases (Scene.step_of_next hu).lastId_eq with he | he
        · rw [he]
          exact ⟨UInt64.le_refl _, by omega⟩
        · have hadd : (t.lastId + 1).toNat = t.lastId.toNat + 1 := by
            rw [UInt64.toNat_add]
            exact Nat.mod_eq_of_lt (by omega : t.lastId.toNat + 1 < UInt64.size)
          rw [he, UInt64.le_iff_toNat_le]
          omega
      refine ⟨fun m hm => ?_, by simp; omega⟩
      rcases List.mem_append.1 hm with hm | hm
      · exact hsteady m hm
      · obtain rfl := List.mem_singleton.1 hm
        exact hnext.1

end TrackedRows
