import TrackedRows.Proofs.Version

namespace TrackedRows

namespace Store

variable {c : Change}

theorem get?_write (hp : c.pending ≠ .nothing) (rows : Keyed Row.key) (k : Key) :
    (write rows c).get? k = if k = c.key then c.live? else rows.get? k := by
  cases h : c.pending with
  | nothing => exact absurd h hp
  | insert | update => simp [write, h, Keyed.get?_put, Change.live?, Change.isLive, Change.key]
  | delete => simp [write, h, Keyed.get?_erase, Change.live?, Change.isLive]

theorem get?_foldl_write {batch : List Change} (hd : (batch.map Change.key).Nodup)
    (hp : ∀ w ∈ batch, w.pending ≠ .nothing) (rows : Keyed Row.key) :
    (∀ w ∈ batch, (batch.foldl write rows).get? w.key = w.live?) ∧
      ∀ k, k ∉ batch.map Change.key → (batch.foldl write rows).get? k = rows.get? k :=
  lookup_foldl Keyed.get? (fun w _ => w.live?) hd (fun w hw => get?_write (hp w hw)) rows

end Store

/-- What the entry of a row says of storage is true. -/
structure Agrees (entry : Option Change) (stored : Option Row) : Prop where
  flag : ∀ c, entry = some c → (c.isStored = true ↔ ∃ row, stored = some row)
  row : ∀ c, entry = some c → c.isSettled = true → stored = some c.row
  absent : entry = none → stored = none

namespace Agrees

variable {o r : Option Change} {stored : Option Row} {c taken : Change}

theorem absent_both : Agrees none none := ⟨by simp, by simp, fun _ => rfl⟩

theorem of_pending (hflag : c.isStored = true ↔ ∃ row, stored = some row) (hp : c.pending ≠ .nothing) :
    Agrees (some c) stored := by
  refine ⟨fun d hd => ?_, fun d hd hs => ?_, by simp⟩
  · cases hd
    exact hflag
  · cases hd
    simp [Change.isSettled, hp] at hs

theorem seeded (row : Row) (id : Stamp) : Agrees (some (Change.seeded row id)) (some row) := by
  refine ⟨fun d hd => ?_, fun d hd _ => ?_, by simp⟩
  · cases hd
    simp [Change.seeded]
  · cases hd
    rfl

theorem settled (hl : c.isLive = true) : Agrees (some c.settled) c.live? := by
  refine ⟨fun d hd => ?_, fun d hd _ => ?_, by simp⟩
  · cases hd
    simp [Change.settled, Change.live?, hl]
  · cases hd
    simp [Change.settled, Change.live?, hl]

theorem lands (h : Agrees o stored) (hl : c.Lands o r) (hold : ∀ old, o = some old → old.Committed)
    (hp : c.pending ≠ .nothing) (hnew : c.pending = .insert ∨ c.writeId = 0 → c.isStored = false) :
    Agrees r stored := by
  cases hl with
  | fresh hins =>
      cases h.absent rfl
      exact .of_pending (by simp [hnew hins]) hp
  | @onto old hle hkept =>
      refine .of_pending (h.flag old rfl) ?_
      exact (hold old rfl).pending_overlaid hp
  | @cancel old hle hs hdel =>
      cases hstored : stored with
      | none => exact absent_both
      | some row =>
          have hflag := (h.flag old rfl).2 ⟨row, hstored⟩
          cases hs.symm.trans hflag

/-- When a batch has settled, the entries of its rows are right about what storage holds of them. -/
theorem reconciled (id : Stamp)
    (hk : ∀ c, o = some c → c = taken ∨ c.writeId ≠ taken.writeId ∧ c.pending ≠ .nothing) :
    Agrees (taken.reconciled id o) taken.live? := by
  cases o with
  | none =>
      cases hl : taken.isLive with
      | true =>
          rw [Change.reconciled_none_of_isLive hl]
          exact of_pending (by simp [Change.condemned, Change.live?, hl]) (by simp [Change.condemned])
      | false => simpa [Change.reconciled, Change.live?, hl] using absent_both
  | some c =>
      rcases hk c rfl with rfl | ⟨hne, hp⟩
      · cases hl : c.isLive with
        | true => simpa [Change.reconciled, Change.sameVersion, hl] using settled hl
        | false => simpa [Change.reconciled, Change.sameVersion, Change.live?, hl] using absent_both
      · have hother : c.sameVersion taken = false := by simp [Change.sameVersion, hne]
        simp only [Change.reconciled, hother, Change.live?, Bool.false_eq_true, if_false]
        cases taken.isLive with
        | true =>
            refine of_pending (by simp) ?_
            by_cases hins : c.pending = .insert <;> simp [hins, hp]
        | false =>
            cases c.isLive with
            | true => exact of_pending (by simp) (by simp)
            | false => exact absent_both

end Agrees

/-- A change on its way to storage. Its writer is closed, so that an entry which differs from it is the
work of others, and not from storage. -/
structure Scene.Carries (s : Scene) (w : Change) : Prop where
  news : w.pending ≠ .nothing
  spent : s.Spent w.writeId
  kept : ∀ c, s.entry? w.key = some c → c = w ∨ c.writeId ≠ w.writeId ∧ c.pending ≠ .nothing

/-- The baseline is right about storage, except for rows of a batch that storage has and the baseline
does not know to be there. -/
structure Scene.Truthful (s : Scene) : Prop where
  agrees : ∀ k, (∀ sh, s.shipment = some sh → sh.arrived = true → k ∉ sh.batch.map Change.key) →
    Agrees (s.entry? k) (s.stored? k)
  carries : ∀ sh, s.shipment = some sh → ∀ w ∈ sh.batch, s.Carries w
  arrived : ∀ sh, s.shipment = some sh → sh.arrived = true → ∀ w ∈ sh.batch, s.stored? w.key = w.live?

namespace Scene.Truthful

variable {s : Scene}

theorem idle (hnone : s.shipment = none) (h : ∀ k, Agrees (s.entry? k) (s.stored? k)) : s.Truthful := by
  refine ⟨fun k _ => h k, fun sh hsh => ?_, fun sh hsh => ?_⟩
  · cases hnone.symm.trans hsh
  · cases hnone.symm.trans hsh

theorem agrees_of_not_arrived (h : s.Truthful) (harr : ∀ sh, s.shipment = some sh → sh.arrived = false)
    (k : Key) : Agrees (s.entry? k) (s.stored? k) :=
  h.agrees k fun sh hsh hsome => by cases (harr sh hsh).symm.trans hsome

theorem agrees_of_idle (h : s.Truthful) (hidle : s.shipment = none) (k : Key) :
    Agrees (s.entry? k) (s.stored? k) :=
  h.agrees_of_not_arrived (fun sh hsh => by cases hidle.symm.trans hsh) k

end Scene.Truthful

namespace Step

variable {s t : Scene} {a : Action}

theorem frame (h : Step s (.act a) t) : t.shipment = s.shipment ∧ ∀ k, t.stored? k = s.stored? k := by
  cases h with
  | rest _ _ hr hs => exact ⟨hs, fun k => congrArg (Keyed.get? · k) hr⟩
  | begin | edit | commit | close | drop | seed => exact ⟨rfl, fun _ => rfl⟩

theorem entry? (h : Step s (.act a) t) (hs : s.Sound) (k : Key)
    (hseed : ¬ (Moment.mk s (.act a) t).Seeds k) : t.entry? k = s.entry? k ∨
      ∃ name tx, ∃ c : Change, s.transaction? name = some tx ∧ tx.isActive = true ∧ c.writeId = tx.id ∧
        c.pending ≠ .nothing ∧ (c.pending = .insert ∨ c.writeId = 0 → c.isStored = false) ∧
        c.Lands (s.entry? k) (t.entry? k) := by
  cases h.turn k with
  | same he => exact .inl he
  | @commit name tx report b c htx hok hc hown hl _ =>
      have hact := (Baseline.commit_ok hok).1
      obtain ⟨hpos, -, base, hcopies⟩ := hs.copies name tx htx hact
      refine .inr ⟨name, tx, c, htx, hact, hown, (hcopies.written_of_own hc hown).pending_ne, ?_, hl⟩
      rintro (hins | hzero)
      · obtain ⟨row, rfl⟩ := hcopies.eq_inserted hc hown hins
        rfl
      · rw [← hown, hzero] at hpos
        exact absurd hpos (UInt64.lt_irrefl _)
  | @seed rows count b row hok hk _ => exact absurd ⟨rows, count, b, rfl, hok, hk⟩ hseed

theorem truthful_of_act (h : Step s (.act a) t) (hs : s.Sound) (hle : s.lastId ≤ t.lastId)
    (ht : s.Truthful) (hseed : ∀ k, ¬ (Moment.mk s (.act a) t).Seeds k) : t.Truthful := by
  obtain ⟨hship, hstored⟩ := h.frame
  refine ⟨fun k hk => ?_, fun sh hsh w hw => ?_, fun sh hsh harr w hw => ?_⟩
  · have hagrees := ht.agrees k (hship ▸ hk)
    rw [hstored]
    rcases h.entry? hs k (hseed k) with he | ⟨name, tx, c, -, -, -, hp, hnew, hl⟩
    · exact he ▸ hagrees
    · exact hagrees.lands hl (fun old hold => (hs.committed k old hold).1) hp hnew
  · obtain ⟨hnews, hspent, hkept⟩ := ht.carries sh (hship ▸ hsh) w hw
    refine ⟨hnews, h.spent hle hspent, fun c hc => ?_⟩
    rcases h.entry? hs w.key (hseed w.key) with he | ⟨name, tx, d, htx, hact, hid, hp, -, hl⟩
    · exact hkept c (he ▸ hc)
    · rw [hc] at hl
      refine .inr ⟨?_, hl.pending_ne (fun old hold => (hs.committed w.key old hold).1) hp⟩
      rw [hl.writeId_eq, hid]
      exact hspent.foreign name tx htx hact
  · rw [hstored]
    exact ht.arrived sh (hship ▸ hsh) harr w hw

theorem truthful_of_ship (h : Step s .ship t) (hs : s.Sound) (ht : s.Truthful) : t.Truthful := by
  cases h with
  | ship hnone =>
      refine ⟨fun k _ => ht.agrees_of_idle hnone k, fun sh hsh w hw => ?_, fun sh hsh harr => ?_⟩
      · cases hsh
        obtain ⟨hentry, hunsettled⟩ := ChangeSet.mem_unsettled_iff.1 hw
        have hspent := hs.spent hentry
        have hnews := (hs.committed w.key w hentry).1.pending_ne_of_unsettled hunsettled
        refine ⟨hnews, ⟨hspent.issued, hspent.foreign⟩, fun c hc => ?_⟩
        cases hentry.symm.trans hc
        exact .inl rfl
      · cases hsh
        cases harr

theorem truthful_of_deliver (h : Step s .deliver t) (ht : s.Truthful) : t.Truthful := by
  cases h with
  | @deliver batch distinct store hsh hr =>
      have hagrees := ht.agrees_of_not_arrived fun sh hsh' => by cases hsh.symm.trans hsh'; rfl
      have hcarries := ht.carries _ hsh
      obtain ⟨hin, hout⟩ :=
        Store.get?_foldl_write distinct (fun w hw => (hcarries w hw).news) s.session.store.rows
      refine ⟨fun k hk => ?_, fun sh hsh' w hw => ?_, fun sh hsh' _ w hw => ?_⟩
      · rw [Scene.stored?, hr, hout k (hk _ rfl rfl)]
        exact hagrees k
      · cases hsh'
        obtain ⟨hnews, hspent, hkept⟩ := hcarries w hw
        exact ⟨hnews, ⟨hspent.issued, hspent.foreign⟩, hkept⟩
      · cases hsh'
        rw [Scene.stored?, hr]
        exact hin w hw
  | @refuse batch distinct store hsh hr =>
      refine .idle rfl fun k => ?_
      rw [Scene.stored?, hr]
      exact ht.agrees_of_not_arrived (fun sh hsh' => by cases hsh.symm.trans hsh'; rfl) k

theorem truthful_of_settle (h : Step s .settle t) (ht : s.Truthful)
    (hhonest : s.shipment.all Shipment.arrived = true) : t.Truthful := by
  cases h with
  | @settle sh hsh =>
      have harr : sh.arrived = true := by simpa [hsh] using hhonest
      refine .idle rfl fun k => ?_
      by_cases hk : k ∈ sh.batch.map Change.key
      · obtain ⟨w, hw, rfl⟩ := List.mem_map.1 hk
        have hreconciled :=
          Agrees.reconciled (s.baseline.reconcile sh.batch).2.lastId (ht.carries sh hsh w hw).kept
        rw [← Baseline.get?_reconcile_of_mem sh.distinct hw, ← ht.arrived sh hsh harr w hw] at hreconciled
        exact hreconciled
      · have hentry := Baseline.get?_reconcile_of_not_mem (b := s.baseline) sh.distinct hk
        rw [show Scene.entry? _ k = _ from hentry]
        refine ht.agrees k fun sh' hsh' _ => ?_
        cases hsh.symm.trans hsh'
        exact hk

theorem truthful_of_giveUp (h : Step s .giveUp t) (ht : s.Truthful)
    (hhonest : s.shipment.any Shipment.arrived = false) : t.Truthful := by
  cases h with
  | @giveUp sh hsh =>
      refine .idle rfl fun k => ht.agrees_of_not_arrived (fun sh' hsh' => ?_) k
      simpa [hsh'] using hhonest

theorem truthful {what : Happening} (h : Step s what t) (hs : s.Sound) (hle : s.lastId ≤ t.lastId)
    (ht : s.Truthful) (hhonest : (Moment.mk s what t).isHonest = true)
    (hseed : ∀ k, ¬ (Moment.mk s what t).Seeds k) : t.Truthful := by
  cases what with
  | act a => exact h.truthful_of_act hs hle ht hseed
  | ship => exact h.truthful_of_ship hs ht
  | deliver => exact h.truthful_of_deliver ht
  | settle => exact h.truthful_of_settle ht hhonest
  | giveUp => exact h.truthful_of_giveUp ht (by simpa [Moment.isHonest] using hhonest)
  | idle =>
      cases h with
      | idle _ _ => exact ht

end Step

theorem Run.truthful {s t : Scene} {log : List Moment} (run : Run s log t) (hs : s.Sound)
    (ht : s.Truthful) (hsteady : Steady log) (hhonest : ∀ m ∈ log, m.isHonest = true)
    (hseed : ∀ m ∈ log, ∀ k, ¬ m.Seeds k) : t.Truthful := by
  refine And.right (run.invariant (I := fun t => t.Sound ∧ t.Truthful) ⟨hs, ht⟩ ?_)
  rintro m hm hnext ⟨hs, ht⟩
  have hstep := Scene.step_of_next hnext
  exact ⟨hstep.sound hs (hsteady m hm), hstep.truthful hs (hsteady m hm) ht (hhonest m hm) (hseed m hm)⟩

theorem Session.seed_of_open {settings : Settings} {store : Store} {rows : List Row} {s : Session}
    (h : open? settings store (.ok rows) = .ok s) :
    ∃ count b, Baseline.empty.seed rows = .ok (count, b) ∧
      s = { new settings store with baseline := b } := by
  simp only [open?, seed] at h
  cases hseed : Baseline.empty.seed rows with
  | error fault => simp [new, hseed] at h
  | ok seeded =>
      simp only [new, hseed] at h
      cases h
      exact ⟨seeded.1, seeded.2, rfl, rfl⟩

/-- A session opened on rows starts with these, at the version of rows found in storage. -/
theorem Session.get?_of_open {settings : Settings} {store : Store} {rows : Keyed Row.key} {s : Session}
    (h : open? settings store (.ok rows.items) = .ok s) (k : Key) :
    s.baseline.changes.get? k = (rows.get? k).map (Change.seeded · 0) := by
  obtain ⟨count, b, hseed, rfl⟩ := seed_of_open h
  obtain ⟨-, hrows⟩ := Baseline.seed_ok hseed
  show b.changes.get? k = _
  cases hk : rows.get? k with
  | none =>
      have hnot : k ∉ rows.items.map Row.key := fun hmem => by
        obtain ⟨row, hrow, rfl⟩ := List.mem_map.1 hmem
        exact Keyed.get?_eq_none_iff.1 hk row hrow rfl
      rw [(hrows k).2 hnot]
      rfl
  | some row =>
      have hmem : k ∈ rows.items.map Row.key :=
        List.mem_map.2 ⟨row, Keyed.mem_of_get? hk, Keyed.key_of_get? hk⟩
      obtain ⟨row', hrow', rfl, hl⟩ := (hrows k).1 hmem
      cases hk.symm.trans (Keyed.get?_of_mem hrow')
      have hnone : Baseline.empty.changes.get? row.key = none := rfl
      rw [hnone] at hl
      generalize b.changes.get? row.key = r at hl ⊢
      cases hl with
      | fresh => rfl

namespace Scene

variable {settings : Settings} {store : Store} {s : Session}

theorem reachable_of_open {rows : List Row} (h : Session.open? settings store (.ok rows) = .ok s) :
    Reachable ⟨s, none⟩ := by
  obtain ⟨count, b, hseed, rfl⟩ := Session.seed_of_open h
  have hnext : next ⟨.new settings store, none⟩ (.act (.seed rows)) =
      some ⟨{ Session.new settings store with baseline := b }, none⟩ := by
    have hseed' : (Session.new settings store).baseline.seed rows = .ok (count, b) := hseed
    simp [next, Session.act, Session.seed, hseed']
  have hnew : Reachable ⟨.new settings store, none⟩ := ⟨settings, store, [], .nil _, by simp [Steady]⟩
  exact hnew.next hnext UInt64.zero_le

theorem Truthful.opened (h : Session.open? settings store (.ok store.rows.items) = .ok s) :
    Truthful ⟨s, none⟩ := by
  have hstore : s.store = store := by
    obtain ⟨count, b, -, rfl⟩ := Session.seed_of_open h
    rfl
  refine .idle rfl fun k => ?_
  show Agrees (s.baseline.changes.get? k) (s.store.rows.get? k)
  rw [Session.get?_of_open h, hstore]
  cases store.rows.get? k with
  | none => exact Agrees.absent_both
  | some row => exact Agrees.seeded row 0

end Scene

theorem Run.truthful_of_open {settings : Settings} {store : Store} {s : Session} {log : List Moment}
    {now : Scene} (hopen : Session.open? settings store (.ok store.rows.items) = .ok s)
    (run : Run ⟨s, none⟩ log now) (hsteady : Steady log) (hhonest : ∀ m ∈ log, m.isHonest = true)
    (hseed : ∀ m ∈ log, ∀ k, ¬ m.Seeds k) : now.Truthful :=
  run.truthful (Scene.reachable_of_open hopen).sound (.opened hopen) hsteady hhonest hseed

/-- Between flushes the baseline of a session opened on a store is right about what the store holds,
whatever has happened since. -/
theorem Run.agrees_of_open {settings : Settings} {store : Store} {s : Session} {log : List Moment}
    {now : Scene} (hopen : Session.open? settings store (.ok store.rows.items) = .ok s)
    (run : Run ⟨s, none⟩ log now) (hsteady : Steady log) (hhonest : ∀ m ∈ log, m.isHonest = true)
    (hseed : ∀ m ∈ log, ∀ k, ¬ m.Seeds k) (hidle : now.shipment = none) (k : Key) :
    Agrees (now.entry? k) (now.stored? k) := by
  have htruthful := run.truthful (Scene.reachable_of_open hopen).sound (.opened hopen) hsteady hhonest hseed
  refine htruthful.agrees_of_not_arrived (fun sh hsh => ?_) k
  cases hidle.symm.trans hsh

/-- A row is deleted before the flush that stores it has settled, and so storage is to lose it again. -/
theorem recalled_row_agrees :
    let plan : List Happening := [.act (.begin "a"), .act (.edit "a" (.insert (.sample 1))),
      .act (.commit "a"), .ship, .deliver, .act (.begin "b"), .act (.edit "b" (.erase (.number 1))),
      .act (.commit "b"), .settle]
    let now := (Scene.blank.play plan).2
    now.live? (.number 1) = none ∧ now.stored? (.number 1) = some (.sample 1) ∧
      Agrees (now.entry? (.number 1)) (now.stored? (.number 1)) := by
  intro plan now
  have hopen : Session.open? .default ⟨.empty, 0, false⟩ (.ok []) = .ok Scene.blank.session := rfl
  refine ⟨by decide, by decide, ?_⟩
  exact (Run.play Scene.blank plan).agrees_of_open hopen (by decide) (by decide)
    (fun m hm k => Scene.not_seeds_of_play (by simp [plan]) m hm) rfl (.number 1)

end TrackedRows
