import TrackedRows.Proofs.Lifetime
import TrackedRows.Proofs.Version

namespace TrackedRows

inductive Fault.IsStale : Fault → Prop
  | conflict (row : String) (baselineReadId incomingReadId : Stamp) :
      IsStale (.conflict row baselineReadId incomingReadId)
  | missingRow (row : String) : IsStale (.missingRow row)

namespace ChangeSet

variable {s : ChangeSet} {dangling : KeySet} {c : Change} {fault : Fault}

theorem isStale_of_landOne_error (h : s.landOne dangling c = .error fault) : fault.IsStale := by
  simp only [landOne] at h
  split at h
  · unfold Change.absorb at h
    split at h
    · cases h; exact .conflict ..
    · split at h <;> cases h
  · split at h
    · cases h
    · cases h; exact .missingRow _

theorem landOne_error_of_none (hnone : s.get? c.key = none) (hp : c.pending ≠ .insert)
    (hid : c.writeId ≠ 0) : ∃ fault, s.landOne dangling c = .error fault :=
  ⟨.missingRow c.key.label, by simp only [landOne, hnone]; simp [hp, hid]⟩

end ChangeSet

/-- The transaction cannot commit for what others did to a row, and the baseline does not change when it
tries. -/
structure Scene.Rejects (s : Scene) (name : String) (tx : Transaction) (k : Key) : Prop where
  refused : ∃ fault, s.baseline.Refuses tx k fault
  failed : ∃ fault, s.baseline.commit tx = .error fault ∧ fault.IsStale
  unchanged : (s.session.act (.commit name)).2.baseline = s.baseline

namespace Scene

variable {s : Scene} {name : String} {tx : Transaction} {k : Key} {c : Change}

theorem rejects_iff_refuses (htx : s.transaction? name = some tx) (hact : tx.isActive = true) :
    s.Rejects name tx k ↔ ∃ fault, s.baseline.Refuses tx k fault := by
  refine ⟨Rejects.refused, fun hrefused => ?_⟩
  obtain ⟨fault, hfault⟩ := (Baseline.commit_fails_iff hact).2 ⟨k, hrefused⟩
  obtain ⟨j, d, -, -, hd⟩ := Baseline.refuses_of_commit_error hact hfault
  refine ⟨hrefused, ⟨fault, hfault, ChangeSet.isStale_of_landOne_error hd⟩, ?_⟩
  have hs : s.session.transaction? name = some tx := htx
  have hb : s.session.baseline.commit tx = .error fault := hfault
  simp only [Session.act, hs, Session.commit, hb]
  rfl

theorem rejects_iff (htx : s.transaction? name = some tx) (hact : tx.isActive = true)
    (hc : tx.changes.get? k = some c) (hown : c.writeId = tx.id) : s.Rejects name tx k ↔
      ∃ fault, s.baseline.changes.landOne tx.changes.dangling c = .error fault := by
  rw [rejects_iff_refuses htx hact]
  refine exists_congr fun fault => ⟨?_, fun h => ⟨c, hc, hown, h⟩⟩
  rintro ⟨d, hd, -, h⟩
  cases hc.symm.trans hd
  exact h

/-- Where the row is in the baseline, only a reading older than its last write is rejected. -/
theorem rejects_iff_of_some {old : Change} (hs : s.Sound) (htx : s.transaction? name = some tx)
    (hact : tx.isActive = true) (hc : tx.changes.get? k = some c) (hown : c.writeId = tx.id)
    (hold : s.entry? k = some old) : s.Rejects name tx k ↔ c.readId < old.writeId := by
  have hold' : s.baseline.changes.get? c.key = some old := (ChangeSet.key_of_get? hc).symm ▸ hold
  rw [rejects_iff htx hact hc hown, ChangeSet.landOne_of_some hold', Change.absorb_error_iff,
    (hs.committed k old hold).1.readId_eq]

end Scene

def Transaction.Inserts (tx : Transaction) (k : Key) : Prop :=
  ∃ c, tx.changes.get? k = some c ∧ c.writeId = tx.id ∧ c.pending = .insert

def Moment.CommitsInsert (m : Moment) (tx : Transaction) (k : Key) : Prop :=
  tx.Inserts k ∧ ∃ name, m.Commits name k ∧ m.before.transaction? name = some tx

theorem Moment.CommitsInsert.entry? {m : Moment} {tx : Transaction} {k : Key} (h : m.CommitsInsert tx k)
    (hs : m.before.Sound) (hnext : m.before.next m.what = some m.after) :
    ∃ c, m.after.entry? k = some c ∧ c.isLive = true ∧ c.writeId = tx.id := by
  obtain ⟨⟨d, hd, hown, hp⟩, name, hcommits, htx⟩ := h
  obtain ⟨tx', d', htx', -, hd', -, hl⟩ := hcommits.lands hnext
  cases htx.symm.trans htx'
  cases hd.symm.trans hd'
  have hlive : m.after.live? k ≠ none := by
    rw [Scene.live?, ChangeSet.live?, hl.live?_eq fun old hold => (hs.committed k old hold).1]
    simp [Change.live?, Change.isLive, hp]
  obtain ⟨c, hc, hlive⟩ : ∃ c, m.after.entry? k = some c ∧ c.isLive = true :=
    ChangeSet.live?_ne_none_iff.1 hlive
  rw [hc] at hl
  exact ⟨c, hc, hlive, hl.writeId_eq.trans hown⟩

namespace Lifetime

variable {name : String} {start now : Scene} {log : List Moment} {tx : Transaction} {k : Key}

/-- Of two transactions that insert a row, and of which neither saw the other's, the second to commit is
rejected if it is the older of the two, and for as long as the row stays in the baseline. If it is the
younger one, it is not, unless a transaction younger still wrote the row meanwhile. -/
theorem insert_rejected_iff {earlier later : List Moment} {m : Moment} {tx₁ : Transaction}
    (h : Lifetime name start log now) (htx : now.transaction? name = some tx)
    (hact : tx.isActive = true) (hins : tx.Inserts k) (hlog : log = earlier ++ m :: later)
    (hins₁ : m.CommitsInsert tx₁ k) (hlive : now.live? k ≠ none) :
    ∃ c, now.entry? k = some c ∧ (now.Rejects name tx k ↔ tx.id < c.writeId) ∧
      ((∀ m ∈ later, m.after.entry? k ≠ none) → tx₁.id ≤ c.writeId) ∧
      ((∀ m ∈ later, (∀ other, ¬ m.Commits other k) ∧ ¬ m.Seeds k) → c.writeId = tx₁.id) := by
  subst hlog
  obtain ⟨hearlier, hnext, hlater⟩ := h.run.split
  have hsteady := h.steady.2
  have hsound : m.before.Sound := hearlier.sound h.begun_sound fun m hm => hsteady m (by simp [hm])
  have hsound' : m.after.Sound := (Scene.step_of_next hnext).sound hsound (hsteady m (by simp))
  have hsteady' : Steady later := fun m hm => hsteady m (by simp [hm])
  obtain ⟨c₁, hc₁, hlive₁, hid₁⟩ := hins₁.entry? hsound hnext
  obtain ⟨d, hd, hown, hp⟩ := hins
  obtain ⟨row, rfl⟩ := (h.copies htx hact).2.eq_inserted hd hown hp
  obtain ⟨c, hc, -⟩ := ChangeSet.live?_ne_none_iff.1 hlive
  refine ⟨c, hc, Scene.rejects_iff_of_some h.sound htx hact hd hown hc, ?_, ?_⟩
  · intro hkept
    exact hid₁ ▸ hlater.writeId_le hsound' hsteady' hkept hc₁ hc
  · intro hno
    obtain ⟨c', hc', -, hid⟩ :=
      hlater.unwritten (fun m hm => (hno m hm).1) (fun m hm => (hno m hm).2) hc₁ hlive₁
    cases hc.symm.trans hc'
    exact hid.trans hid₁

/-- A transaction that rewrote a row from a version which somebody else has written over since is
rejected, except where the row has left the baseline and a transaction older than that version has
brought it back. -/
theorem rewrite_rejected_iff {e d : Change} (h : Lifetime name start log now)
    (htx : now.transaction? name = some tx) (hact : tx.isActive = true) (he : start.entry? k = some e)
    (hd : tx.changes.get? k = some d) (hown : d.writeId = tx.id)
    (hp : d.pending = .update ∨ d.pending = .delete) (hseed : ∀ m ∈ log, ¬ m.Seeds k)
    (hcommit : ∃ m ∈ log, ∃ other, m.Commits other k) :
    (now.Rejects name tx k ↔ ¬ ∃ c, now.entry? k = some c ∧ c.writeId < e.writeId) ∧
      ((∃ c, now.entry? k = some c ∧ c.writeId < e.writeId) → ∃ m ∈ log, m.after.entry? k = none) := by
  obtain ⟨-, hcopies⟩ := h.copies htx hact
  have hread : d.readId = e.writeId := hcopies.readId_eq hd hown hp he
  constructor
  · cases hc : now.entry? k with
    | none =>
        have hpos := (h.sound.copies name tx htx hact).1
        have hrejected : now.Rejects name tx k := by
          rw [Scene.rejects_iff htx hact hd hown]
          refine ChangeSet.landOne_error_of_none ((ChangeSet.key_of_get? hd).symm ▸ hc) ?_ ?_
          · rcases hp with hp | hp <;> simp [hp]
          · exact hown ▸ (UInt64.ne_of_lt hpos).symm
        simp [hrejected]
    | some c =>
        have hspent : (start.begun name).Spent e.writeId := h.begun_sound.spent he
        have hne : c.writeId ≠ e.writeId := h.run.writeId_ne h.steady.2 hspent hseed hcommit hc
        rw [Scene.rejects_iff_of_some h.sound htx hact hd hown hc, hread]
        simp only [Option.some.injEq, exists_eq_left']
        grind
  · rintro ⟨c, hc, hlt⟩
    refine Classical.byContradiction fun hno => ?_
    have hkept : ∀ m ∈ log, m.after.entry? k ≠ none := fun m hm hnone => hno ⟨m, hm, hnone⟩
    have hle := h.run.writeId_le h.begun_sound h.steady.2 hkept he hc
    exact UInt64.lt_irrefl _ (UInt64.lt_of_lt_of_le hlt hle)

end Lifetime

namespace TwoInserts

def plan : List Happening :=
  [.act (.edit "a" (.insert (.sample 1))), .act (.edit "b" (.insert (.sample 2))), .act (.commit "a")]

def younger : Scene := (Scene.blank.play [.act (.begin "a")]).2

def elder : Scene := ((Scene.blank.begun "b").play [.act (.begin "a")]).2

def held (row : Row) (id : Stamp) : Transaction := ⟨id, .active, ChangeSet.empty.put (.inserted row id)⟩

end TwoInserts

open TwoInserts in
theorem elder_insert_is_rejected :
    let now := (elder.play (plan ++ [.ship, .deliver, .settle])).2
    now.transaction? "b" = some (held (.sample 2) 1) ∧
      now.Rejects "b" (held (.sample 2) 1) (.number 1) := by
  intro now
  let flush : List Happening := [.ship, .deliver, .settle]
  let before := (elder.play (plan.take 2)).2
  let after := (elder.play plan).2
  have htx : now.transaction? "b" = some (held (.sample 2) 1) := by decide
  have hlife : Lifetime "b" Scene.blank
      ((Scene.blank.begun "b").play (.act (.begin "a") :: plan ++ flush)).1 now :=
    .play Scene.blank_reachable (by decide) (by decide) (by simp [plan, flush])
  have hlog : ((Scene.blank.begun "b").play (.act (.begin "a") :: plan ++ flush)).1 =
      ((Scene.blank.begun "b").play (.act (.begin "a") :: plan.take 2)).1 ++
        ⟨before, .act (.commit "a"), after⟩ :: (after.play flush).1 := rfl
  have htx₁ : before.transaction? "a" = some (held (.sample 1) 2) := by decide
  have hcommits : Moment.Commits ⟨before, .act (.commit "a"), after⟩ "a" (.number 1) :=
    Moment.commits_of_isOk htx₁ (by decide) rfl rfl
  obtain ⟨c, -, hrejects, hle, -⟩ := hlife.insert_rejected_iff htx rfl ⟨_, rfl, rfl, rfl⟩ hlog
    ⟨⟨_, rfl, rfl, rfl⟩, "a", hcommits, htx₁⟩ (by decide)
  exact ⟨htx, hrejects.2 (UInt64.lt_of_lt_of_le (by decide) (hle (by decide)))⟩

open TwoInserts in
/-- The younger transaction is the second to commit, and overwrites a row that it never saw. -/
theorem inserts_can_be_lost :
    let log := ((younger.begun "b").play plan).1
    let now := ((younger.begun "b").play plan).2
    Lifetime "b" younger log now ∧ Scene.blank.live? (.number 1) = none ∧
      younger.live? (.number 1) = none ∧ (∃ m ∈ log, ∃ tx₁, m.CommitsInsert tx₁ (.number 1)) ∧
      now.live? (.number 1) = some (.sample 1) ∧ now.transaction? "b" = some (held (.sample 2) 2) ∧
      (held (.sample 2) 2).Inserts (.number 1) ∧
      (now.session.act (.commit "b")).2.baseline.changes.live? (.number 1) = some (.sample 2) := by
  intro log now
  let before := ((younger.begun "b").play (plan.take 2)).2
  have hlife : Lifetime "b" younger log now :=
    .play (Scene.reachable_of_play (by decide)) (by decide) (by decide) (by simp [plan])
  have htx₁ : before.transaction? "a" = some (held (.sample 1) 1) := by decide
  have hcommits : Moment.Commits ⟨before, .act (.commit "a"), now⟩ "a" (.number 1) :=
    Moment.commits_of_isOk htx₁ (by decide) rfl rfl
  have hmem : ⟨before, .act (.commit "a"), now⟩ ∈ log := Scene.mem_play _ (plan.take 2) [] rfl
  exact ⟨hlife, rfl, rfl, ⟨_, hmem, _, ⟨_, rfl, rfl, rfl⟩, "a", hcommits, htx₁⟩, by decide, by decide,
    ⟨_, rfl, rfl, rfl⟩, by decide⟩

namespace TwoUpdates

def plan : List Happening := [.act (.edit "b" (.update (.sample 2))), .act (.begin "c"),
  .act (.edit "c" (.update (.sample 3))), .act (.commit "c"), .ship, .deliver, .settle]

def now : Scene := ((Scene.insertedOnce.begun "b").play plan).2

def updated (row : Row) (id : Stamp) : Change := (Change.inserted (.sample 1) 1).updated row id

def held (row : Row) (id : Stamp) : Transaction := ⟨id, .active, ChangeSet.empty.put (updated row id)⟩

end TwoUpdates

open TwoUpdates in
theorem second_update_is_rejected : now.transaction? "b" = some (held (.sample 2) 2) ∧
    now.Rejects "b" (held (.sample 2) 2) (.number 1) := by
  let before := ((Scene.insertedOnce.begun "b").play (plan.take 3)).2
  let after : Scene := ⟨(before.session.act (.commit "c")).2, before.shipment⟩
  have htx : now.transaction? "b" = some (held (.sample 2) 2) := by decide
  have hlife : Lifetime "b" Scene.insertedOnce ((Scene.insertedOnce.begun "b").play plan).1 now :=
    .play Scene.insertedOnce_reachable (by decide) (by decide) (by simp [plan])
  have htx₁ : before.transaction? "c" = some (held (.sample 3) 3) := by decide
  have hcommits : Moment.Commits ⟨before, .act (.commit "c"), after⟩ "c" (.number 1) :=
    Moment.commits_of_isOk htx₁ (by decide) rfl rfl
  have hmem : ⟨before, .act (.commit "c"), after⟩ ∈ ((Scene.insertedOnce.begun "b").play plan).1 :=
    Scene.mem_play _ (plan.take 3) (plan.drop 4) rfl
  have he : Scene.insertedOnce.entry? (.number 1) = some (.inserted (.sample 1) 1) := by decide
  obtain ⟨hrejects, hleft⟩ := hlife.rewrite_rejected_iff htx rfl he rfl rfl (.inl rfl)
    (Scene.not_seeds_of_play (by simp [plan])) ⟨_, hmem, "c", hcommits⟩
  exact ⟨htx, hrejects.2 fun hover => absurd (hleft hover) (by decide)⟩

namespace Revival

def start : Scene := (Scene.blank.play [.act (.begin "v"), .act (.begin "c"),
  .act (.edit "c" (.insert (.sample 1))), .act (.commit "c")]).2

def plan : List Happening := [.act (.edit "t" (.update (.sample 2))), .act (.begin "d"),
  .act (.edit "d" (.erase (.number 1))), .act (.commit "d"), .act (.edit "v" (.insert (.sample 3))),
  .act (.commit "v")]

def updated : Change := (Change.inserted (.sample 1) 2).updated (.sample 2) 3

def deleted : Change := (Change.inserted (.sample 1) 2).deleted (.sample 1) 4

end Revival

open Revival in
/-- The row that a transaction rewrites is deleted by another one, and inserted anew by a third that is
older than the version the first has read. The first overwrites what it never saw. -/
theorem stale_updates_can_be_accepted :
    let log := ((start.begun "t").play plan).1
    let now := ((start.begun "t").play plan).2
    let tx : Transaction := ⟨3, .active, ChangeSet.empty.put updated⟩
    Lifetime "t" start log now ∧ start.live? (.number 1) = some (.sample 1) ∧
      (∃ m ∈ log, ∃ other, m.Commits other (.number 1)) ∧ (∀ m ∈ log, ¬ m.Seeds (.number 1)) ∧
      now.live? (.number 1) = some (.sample 3) ∧ now.transaction? "t" = some tx ∧
      tx.changes.get? (.number 1) = some updated ∧ updated.writeId = tx.id ∧ updated.pending = .update ∧
      (now.session.act (.commit "t")).2.baseline.changes.live? (.number 1) = some (.sample 2) := by
  intro log now tx
  let before := ((start.begun "t").play (plan.take 3)).2
  let after : Scene := ⟨(before.session.act (.commit "d")).2, before.shipment⟩
  have hlife : Lifetime "t" start log now :=
    .play (Scene.reachable_of_play (by decide)) (by decide) (by decide) (by simp [plan])
  have htx₁ : before.transaction? "d" = some ⟨4, .active, ChangeSet.empty.put deleted⟩ := by decide
  have hcommits : Moment.Commits ⟨before, .act (.commit "d"), after⟩ "d" (.number 1) :=
    Moment.commits_of_isOk htx₁ (by decide) rfl rfl
  have hmem : ⟨before, .act (.commit "d"), after⟩ ∈ log :=
    Scene.mem_play _ (plan.take 3) (plan.drop 4) rfl
  exact ⟨hlife, by decide, ⟨_, hmem, "d", hcommits⟩, Scene.not_seeds_of_play (by simp [plan]), by decide,
    by decide, by decide, rfl, rfl, by decide⟩

end TrackedRows
