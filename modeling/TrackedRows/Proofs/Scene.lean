import TrackedRows.Proofs.Copy
import TrackedRows.Proofs.Reconcile
import TrackedRows.Session.Command

namespace TrackedRows

/-- A batch on its way to storage, and whether storage has taken it over by now. -/
structure Shipment where
  batch : List Change
  distinct : (batch.map Change.key).Nodup
  arrived : Bool

def ChangeSet.shipment (s : ChangeSet) : Shipment where
  batch := s.unsettled
  distinct := (List.filter_sublist.map _).nodup s.entries.nodup_keys
  arrived := false

/-- A session as it is between any two steps, also while a flush is under way. -/
structure Scene where
  session : Session
  shipment : Option Shipment

/-- The steps in which a session moves on. A flush ships a batch, storage takes it over, and the flush
settles the batch in the baseline or gives up on it. Any actions come in between. A flush that finds
nothing to ship is over at once. -/
inductive Happening
  | act (a : Action)
  | ship
  | deliver
  | settle
  | giveUp
  | idle

namespace Scene

abbrev baseline (s : Scene) : Baseline := s.session.baseline

abbrev lastId (s : Scene) : Stamp := s.baseline.lastId

abbrev entry? (s : Scene) (k : Key) : Option Change := s.baseline.changes.get? k

abbrev live? (s : Scene) (k : Key) : Option Row := s.baseline.changes.live? k

abbrev transaction? (s : Scene) (name : String) : Option Transaction := s.session.transaction? name

abbrev stored? (s : Scene) (k : Key) : Option Row := s.session.store.rows.get? k

abbrev begun (s : Scene) (name : String) : Scene := ⟨s.session.begin name, s.shipment⟩

/-- At most one batch is on its way, and no flush starts meanwhile. -/
def next (s : Scene) : Happening → Option Scene
  | .act a => some { s with session := (s.session.act a).2 }
  | .ship =>
    match s.shipment, s.baseline.changes.unsettled with
    | none, _ :: _ => some ⟨{ s.session with armed := none }, some s.baseline.changes.shipment⟩
    | _, _ => none
  | .deliver =>
    match s.shipment with
    | some ⟨batch, distinct, false⟩ =>
      match s.session.store.persist batch with
      | (.ok (), store) => some ⟨{ s.session with store }, some ⟨batch, distinct, true⟩⟩
      | (.error _, store) => some ⟨{ s.session with store }, none⟩
    | _ => none
  | .settle => s.shipment.map fun sh =>
    ⟨{ s.session with baseline := (s.baseline.reconcile sh.batch).2 }, none⟩
  | .giveUp => s.shipment.map fun _ => { s with shipment := none }
  | .idle =>
    match s.shipment, s.baseline.changes.unsettled with
    | none, [] => some s
    | _, _ => none

end Scene

structure Moment where
  before : Scene
  what : Happening
  after : Scene

/-- What happened on the way from one scene to another. -/
inductive Run : Scene → List Moment → Scene → Prop
  | nil (s : Scene) : Run s [] s
  | snoc {s t u : Scene} {log : List Moment} {what : Happening} (run : Run s log t)
      (hu : t.next what = some u) : Run s (log ++ [⟨t, what, u⟩]) u

theorem Run.append {s t u : Scene} {log log' : List Moment} (h : Run s log t) (h' : Run t log' u) :
    Run s (log ++ log') u := by
  induction h' with
  | nil => simpa using h
  | snoc _ hu ih => simpa using ih.snoc hu

namespace Scene

def play (s : Scene) : List Happening → List Moment × Scene
  | [] => ([], s)
  | what :: rest =>
    match s.next what with
    | some t => ((t.play rest).1.cons ⟨s, what, t⟩, (t.play rest).2)
    | none => s.play rest

end Scene

theorem Run.split {s t : Scene} {earlier later : List Moment} {m : Moment}
    (run : Run s (earlier ++ m :: later) t) :
    Run s earlier m.before ∧ m.before.next m.what = some m.after ∧ Run m.after later t := by
  generalize hlog : earlier ++ m :: later = log at run
  induction run generalizing later with
  | nil => simp at hlog
  | @snoc t u log what run hu ih =>
      rcases List.eq_nil_or_concat later with rfl | ⟨later, last, rfl⟩
      · obtain ⟨rfl, rfl⟩ := List.append_singleton_inj.1 hlog
        exact ⟨run, hu, .nil u⟩
      · rw [List.concat_eq_append, ← List.cons_append, ← List.append_assoc] at hlog
        obtain ⟨rfl, rfl⟩ := List.append_singleton_inj.1 hlog
        obtain ⟨hearlier, hm, hlater⟩ := ih rfl
        exact ⟨hearlier, hm, by simpa using hlater.snoc hu⟩

theorem Scene.what_mem_of_mem_play {s : Scene} {plan : List Happening} {m : Moment}
    (h : m ∈ (s.play plan).1) : m.what ∈ plan := by
  induction plan generalizing s with
  | nil => cases h
  | cons what rest ih =>
      simp only [play] at h
      split at h
      · rcases List.mem_cons.1 h with rfl | h
        · simp
        · exact List.mem_cons_of_mem _ (ih h)
      · exact List.mem_cons_of_mem _ (ih h)

theorem Scene.play_append (s : Scene) (plan rest : List Happening) : s.play (plan ++ rest) =
    ((s.play plan).1 ++ ((s.play plan).2.play rest).1, ((s.play plan).2.play rest).2) := by
  induction plan generalizing s with
  | nil => rfl
  | cons what plan ih =>
      simp only [List.cons_append, play]
      split
      · rw [ih]
        rfl
      · exact ih s

theorem Scene.mem_play (s : Scene) (plan rest : List Happening) {what : Happening} {t : Scene}
    (ht : (s.play plan).2.next what = some t) :
    ⟨(s.play plan).2, what, t⟩ ∈ (s.play (plan ++ what :: rest)).1 := by
  rw [play_append]
  simp [play, ht]

theorem Run.cons {s t u : Scene} {log : List Moment} {what : Happening} (ht : s.next what = some t)
    (run : Run t log u) : Run s (⟨s, what, t⟩ :: log) u :=
  (snoc (nil s) ht).append run

theorem Run.play (s : Scene) (plan : List Happening) : Run s (s.play plan).1 (s.play plan).2 := by
  induction plan generalizing s with
  | nil => exact .nil s
  | cons what rest ih =>
      simp only [Scene.play]
      split
      · rename_i t ht
        exact (ih t).cons ht
      · exact ih s

/-- The counter has not come round: all stamps issued on the way are different. -/
def Steady (log : List Moment) : Prop := ∀ m ∈ log, m.before.lastId ≤ m.after.lastId

instance (log : List Moment) : Decidable (Steady log) := inferInstanceAs (Decidable (∀ m ∈ log, _))

theorem Run.invariant {I : Scene → Prop} {s t : Scene} {log : List Moment} (run : Run s log t)
    (hs : I s) (hstep : ∀ m ∈ log, m.before.next m.what = some m.after → I m.before → I m.after) :
    I t := by
  induction run with
  | nil => exact hs
  | @snoc t u log what _ hu ih =>
      exact hstep ⟨t, what, u⟩ (by simp) hu (ih fun m hm => hstep m (by simp [hm]))

namespace Moment

/-- A transaction that goes by the name wrote the row. -/
def Edits (m : Moment) (name : String) (k : Key) : Prop :=
  ∃ e tx tx', m.what = .act (.edit name e) ∧ e.key = k ∧ m.before.transaction? name = some tx ∧
    tx.edit e = .ok tx'

def Commits (m : Moment) (name : String) (k : Key) : Prop :=
  ∃ tx report b c, m.what = .act (.commit name) ∧ m.before.transaction? name = some tx ∧
    m.before.baseline.commit tx = .ok (report, b) ∧ tx.changes.get? k = some c ∧ c.writeId = tx.id

theorem commits_of_isOk {before after : Scene} {name : String} {k : Key} {tx : Transaction} {c : Change}
    (htx : before.transaction? name = some tx) (hok : (before.baseline.commit tx).isOk = true)
    (hc : tx.changes.get? k = some c) (hown : c.writeId = tx.id) :
    Commits ⟨before, .act (.commit name), after⟩ name k := by
  cases hcommit : before.baseline.commit tx with
  | ok landed => exact ⟨tx, landed.1, landed.2, c, rfl, htx, hcommit, hc, hown⟩
  | error fault => rw [hcommit] at hok; cases hok

def Seeds (m : Moment) (k : Key) : Prop :=
  ∃ rows count b, m.what = .act (.seed rows) ∧ m.before.baseline.seed rows = .ok (count, b) ∧
    k ∈ rows.map Row.key

/-- A batch that settles has a change of the row. -/
def Settles (m : Moment) (k : Key) : Prop :=
  m.what = .settle ∧ ∃ sh, m.before.shipment = some sh ∧ k ∈ sh.batch.map Change.key

/-- Storage has been given the row, and the baseline has lost it meanwhile: it is to be deleted again. -/
def Restores (m : Moment) (k : Key) : Prop :=
  m.what = .settle ∧ m.before.entry? k = none ∧ ∃ sh taken, m.before.shipment = some sh ∧
    taken ∈ sh.batch ∧ taken.key = k ∧ taken.isLive = true

/-- A batch settles if storage has taken it over, and the flush gives up on it if not. -/
def isHonest (m : Moment) : Bool :=
  match m.what with
  | .settle => m.before.shipment.all Shipment.arrived
  | .giveUp => !m.before.shipment.any Shipment.arrived
  | _ => true

end Moment

namespace Scene

def Reachable (s : Scene) : Prop :=
  ∃ settings store log, Run ⟨.new settings store, none⟩ log s ∧ Steady log

theorem Reachable.next {s t : Scene} {what : Happening} (h : s.Reachable) (ht : s.next what = some t)
    (hle : s.lastId ≤ t.lastId) : t.Reachable := by
  obtain ⟨settings, store, log, run, hsteady⟩ := h
  refine ⟨settings, store, _, run.snoc ht, fun m hm => ?_⟩
  rcases List.mem_append.1 hm with hm | hm
  · exact hsteady m hm
  · obtain rfl := List.mem_singleton.1 hm
    exact hle

end Scene

/-- The transaction that goes by the name has begun in the scene `start`, on a copy of the baseline as
it was there. All that happened since is in the log. -/
structure Lifetime (name : String) (start : Scene) (log : List Moment) (now : Scene) : Prop where
  reachable : start.Reachable
  run : Run (start.begun name) log now
  steady : start.lastId ≤ start.lastId + 1 ∧ Steady log
  kept : ∀ m ∈ log, m.what ≠ .act (.begin name)

namespace Scene

variable {s : Scene} {plan : List Happening} {k : Key}

theorem not_edits_of_play {name : String} (h : ∀ e, .act (.edit name e) ∈ plan → e.key ≠ k) :
    ∀ m ∈ (s.play plan).1, ¬ m.Edits name k := by
  rintro m hm ⟨e, _, _, hwhat, hkey, -⟩
  exact h e (hwhat ▸ what_mem_of_mem_play hm) hkey

theorem not_commits_of_play (h : ∀ name, .act (.commit name) ∉ plan) :
    ∀ m ∈ (s.play plan).1, ∀ name, ¬ m.Commits name k := by
  rintro m hm name ⟨_, _, _, _, hwhat, -⟩
  exact h name (hwhat ▸ what_mem_of_mem_play hm)

theorem not_seeds_of_play (h : ∀ rows, .act (.seed rows) ∉ plan) :
    ∀ m ∈ (s.play plan).1, ¬ m.Seeds k := by
  rintro m hm ⟨rows, _, _, hwhat, -⟩
  exact h rows (hwhat ▸ what_mem_of_mem_play hm)

def blank : Scene := ⟨.new .default ⟨.empty, 0, false⟩, none⟩

theorem reachable_of_play (hsteady : Steady (blank.play plan).1) : (blank.play plan).2.Reachable :=
  ⟨_, _, _, .play _ plan, hsteady⟩

theorem blank_reachable : blank.Reachable := reachable_of_play (by decide : Steady (blank.play []).1)

end Scene

def Row.sample (n : Int) : Row := (blank (.number 1)).set "n" ⟨.integer n, rfl⟩

def Scene.insertedOnce : Scene :=
  (blank.play [.act (.begin "a"), .act (.edit "a" (.insert (.sample 1))), .act (.commit "a")]).2

theorem Scene.insertedOnce_reachable : insertedOnce.Reachable := reachable_of_play (by decide)

end TrackedRows
