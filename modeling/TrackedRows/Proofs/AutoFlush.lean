import TrackedRows.Proofs.Marking
import TrackedRows.Proofs.Settling

namespace TrackedRows

namespace Step

variable {s t : Scene} {what : Happening} {k : Key} {c : Change} {name : String} {tx : Transaction}

theorem pending_ne {a : Action} (h : Step s (.act a) t) (hs : s.Sound)
    (hseed : ¬ (Moment.mk s (.act a) t).Seeds k) (hp : ∀ c, s.entry? k = some c → c.pending ≠ .nothing)
    (hc : t.entry? k = some c) : c.pending ≠ .nothing := by
  rcases h.entry? hs k hseed with he | ⟨name, tx, d, -, -, -, hd, -, hl⟩
  · exact hp c (he ▸ hc)
  · rw [hc] at hl
    exact hl.pending_ne (fun old hold => (hs.committed k old hold).1) hd

end Step

namespace Run

variable {s t : Scene} {log : List Moment} {k : Key} {c : Change}

end Run

/-- A batch did not get to storage, which is as it was. Its flight went as far as the given actions, and the
baseline is where these lead. -/
structure Session.Strands (s : Session) (acts : List Action) (during : List Event) (last : Session) :
    Prop where
  within : acts = s.flight.before ∨ acts = s.flight.actions ∧ s.flight.delivers = false
  during : during = ({ s with armed := none }.run acts).1
  baseline : last.baseline = ({ s with armed := none }.run acts).2.baseline
  rows : last.store.rows = s.store.rows

namespace Session

variable {s : Session} {batch : List Change} {reason : String} {acts : List Action} {during : List Event}
  {last : Session} {flushed : FlushReport} {fault : Fault} {k : Key} {c d : Change}

/-- A stranded batch has met nothing but actions. -/
theorem Strands.plan (h : s.Strands acts during last) : ∃ rest, s.flight.plan = acts.map .act ++ rest := by
  rcases h.within with rfl | ⟨rfl, hdel⟩
  · exact ⟨_, rfl⟩
  · exact ⟨[], by simp [Flight.plan, Flight.actions, hdel]⟩

/-- What is pending stays so until its batch settles. -/
theorem Strands.pending_ne (h : s.Strands acts during last) (hreach : Scene.Reachable ⟨s, none⟩)
    (hsteady : Steady s.inFlight.1) (hne : s.baseline.changes.unsettled ≠ [])
    (hseed : ∀ rows, .seed rows ∉ acts) (hp : ∀ c, s.baseline.changes.get? k = some c → c.pending ≠ .nothing)
    (hd : last.baseline.changes.get? k = some d) : d.pending ≠ .nothing := by
  obtain ⟨w, hw⟩ := List.exists_mem_of_ne_nil _ hne
  obtain ⟨rest, hplan⟩ := h.plan
  rw [inFlight_of_mem hw, hplan, Scene.play_append] at hsteady
  have hseeds : ∀ m ∈ (s.shipped.play (acts.map .act)).1, ¬ m.Seeds k :=
    Scene.not_seeds_of_play fun rows hrows => by
      obtain ⟨a, ha, he⟩ := List.mem_map.1 hrows
      cases he
      exact hseed rows ha
  have hpending : (s.shipped.play (acts.map .act)).2.Sound ∧
      ∀ c, Scene.entry? (s.shipped.play (acts.map .act)).2 k = some c → c.pending ≠ .nothing := by
    refine (Run.play s.shipped (acts.map .act)).invariant
      (I := fun t => t.Sound ∧ ∀ c, t.entry? k = some c → c.pending ≠ .nothing)
      ⟨shipped_sound hreach, hp⟩ ?_
    rintro ⟨t, what, u⟩ hm hnext ⟨ht, hp⟩
    have hstep := Scene.step_of_next hnext
    obtain ⟨a, -, rfl⟩ := List.mem_map.1 (Scene.what_mem_of_mem_play hm)
    exact ⟨hstep.sound ht (hsteady _ (List.mem_append_left _ hm)),
      fun c hc => hstep.pending_ne ht (hseeds _ hm) hp hc⟩
  rw [shipped, Scene.play_acts] at hpending
  rw [h.baseline] at hd
  exact hpending.2 d hd

end Session

namespace Session

variable {s : Session} {name : String} {tx : Transaction} {report : CommitReport} {b : Baseline}
  {fault : Fault} {k : Key} {c : Change}

end Session

namespace AutoFlush

/-- One of two rows is updated while both are on their way, and they do not get there. -/
def failing : Flight Action where
  before := [.begin "b", .edit "b" (.update (.sample 2))]
  after := [.commit "b"]
  delivers := false
  refusal := some "disk full"

def blank : Scene := ⟨.new ⟨"default", true⟩ ⟨.empty, 0, false⟩, none⟩

def edits : List Happening :=
  [.act (.begin "a"), .act (.edit "a" (.insert (.sample 1))),
    .act (.edit "a" (.insert (.blank (.number 2))))]

def start (plan : List Happening) (flight : Flight Action) : Session :=
  { (blank.play plan).2.session with armed := some flight }

def tx : Transaction :=
  ⟨1, .active, (ChangeSet.empty.put (.inserted (.sample 1) 1)).put (.inserted (.blank (.number 2)) 1)⟩

end AutoFlush

end TrackedRows
