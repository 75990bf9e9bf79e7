import WebAudioCapture.Messages

/-!
# A handle that has been stopped

A stop that has not abandoned its thread leaves nothing behind it to stop: until
the next start the handle stays as it is, not running and all its threads
finished, and another stop has nothing to wait for and nothing to change.
-/

namespace WebAudioCapture

variable {β : Type}

/-- No thread, no connection, and closed. -/
structure Capture.Stopped (c : Capture β) : Prop where
  thread : c.thread = none
  kept : c.threadAbandoned = false
  asked : c.stopRequested = true
  closed : c.queue.closed = true
  vacant : c.control.Vacant

theorem Capture.Undisturbed.stopped {c c' : Capture β} (same : c.Undisturbed c')
    (h : c.Stopped) : c'.Stopped :=
  ⟨same.thread.trans h.thread, same.threadAbandoned.trans h.kept,
    same.stopRequested.trans h.asked, same.closed.trans h.closed,
    same.control.vacant h.vacant⟩

/-- Shut down again, a control only forgets that it was ready. -/
theorem Control.Vacant.shutdown {c : Control} (h : c.Vacant) :
    c.shutdown [] = some { c with ready := false } := by
  obtain ⟨mainloop, ctx, thread⟩ := h
  have unused : c.thread ≠ .orphaned := by rw [thread]; rintro ⟨⟩
  simp only [Control.shutdown, deliverAll, List.foldl_nil, unused, if_false, disconnect, joinLoop,
    ctx, release, Option.some.injEq]
  rw [← mainloop, ← ctx, ← thread]

namespace Lifetime

/-- The calls that are not starts, and what goes on beside them. -/
def WithoutStart (_ : Lifetime β) : LifetimeLabel β → Prop
  | .start => False
  | _ => True

/-- How far a stop has got, by where the caller stands. -/
def StoppingAt (c : Capture β) : CallerPc → Prop
  | .closing => c.stopRequested = true
  | .joining | .waiting _ | .joined | .disconnecting =>
    c.stopRequested = true ∧ c.queue.closed = true
  | .lowering => c.Stopped
  | _ => True

/-- Where the caller can be once the handle has been stopped. -/
def staysStopped : CallerPc → Bool
  | .idle | .reading | .requesting | .closing | .joining | .disconnecting | .lowering => true
  | _ => false

/-- In a stop, or anywhere else. -/
theorem StoppingAt.same {c c' : Capture β} {pc : CallerPc} (h : StoppingAt c pc)
    (same : c.Undisturbed c') : StoppingAt c' pc := by
  cases pc with
  | closing => exact same.stopRequested.trans h
  | joining | waiting until_ | joined | disconnecting =>
    exact ⟨same.stopRequested.trans h.1, same.closed.trans h.2⟩
  | lowering => exact same.stopped h
  | _ => trivial

theorem released_stopping {s : Lifetime β} (asked : s.capture.stopRequested = true)
    (closed : s.capture.queue.closed = true) :
    StoppingAt s.released.capture s.released.caller := by
  unfold released goto
  split
  · trivial
  · exact ⟨asked, closed⟩

section
variable [Zero β] {s t : Lifetime β} {l : LifetimeLabel β} {joined : List Nat}

theorem step_stopping (safe : Safe s joined) (h : StoppingAt s.capture s.caller)
    (moved : Moves s l t) : StoppingAt t.capture t.caller := by
  have there := safe.at_
  cases moved with
  | tick elapsed => exact h
  | callback delivery => exact h.same ⟨Control.deliver_hold _ delivery, rfl, rfl, rfl, rfl⟩
  | thread i input th th' c at_ moved => exact h.same (CaptureThread.moves_undisturbed moved).1
  | request at_ => exact rfl
  | close at_ =>
    rw [at_] at h
    exact ⟨h, rfl⟩
  | wait until_ at_ used =>
    rw [at_] at h
    exact h
  | see until_ at_ down =>
    rw [at_] at h
    exact h
  | pass at_ unused =>
    rw [at_] at h
    exact released_stopping h.1 h.2
  | abandon until_ at_ late =>
    rw [at_] at h
    exact released_stopping h.1 h.2
  | join i at_ used finished =>
    rw [at_] at h
    exact released_stopping h.1 h.2
  | disconnect stopping control at_ down =>
    rw [at_] at h there
    exact ⟨there.1, there.2, h.1, h.2, Control.shutdown_vacant down⟩
  | reads c r at_ taken =>
    dsimp only
    split
    · trivial
    · trivial
  | connect env control status at_ made =>
    unfold connected
    split
    · trivial
    · trivial
  | resolve defaultSink monitor found at_ answer =>
    obtain ⟨control, _ | target⟩ := found
    · trivial
    · trivial
  | _ => trivial

/-- Stopped for good, wherever the caller stands. -/
structure AtRest (s : Lifetime β) : Prop where
  stopped : s.capture.Stopped
  down : s.capture.running = false
  stays : staysStopped s.caller = true

/-- What is stopped stays so without another start. -/
theorem step_atRest (h : AtRest s) (unstarted : WithoutStart s l) (moved : Moves s l t) :
    AtRest t := by
  obtain ⟨stopped, down, stays⟩ := h
  have same : ∀ c : Capture β, s.capture.Undisturbed c → c.Stopped := fun c same =>
    same.stopped stopped
  cases moved with
  | tick elapsed => exact ⟨stopped, down, stays⟩
  | callback delivery =>
    exact ⟨same _ ⟨Control.deliver_hold _ delivery, rfl, rfl, rfl, rfl⟩, down, stays⟩
  | thread i input th th' c at_ moved =>
    refine ⟨same c (CaptureThread.moves_undisturbed moved).1, ?_, stays⟩
    obtain running | lowered := CaptureThread.moves_running moved
    · exact running.trans down
    · exact lowered
  | start free => exact unstarted.elim
  | stop free => exact ⟨stopped, down, rfl⟩
  | read args r free entered => exact ⟨stopped, down, rfl⟩
  | reads c r at_ taken =>
    obtain ⟨undisturbed, running⟩ := Reader.moves_undisturbed (Reader.step_moves taken)
    refine ⟨same c undisturbed, running.trans down, ?_⟩
    dsimp only
    split
    · rfl
    · rfl
  | request at_ =>
    exact ⟨⟨stopped.thread, stopped.kept, rfl, stopped.closed, stopped.vacant⟩, down, rfl⟩
  | close at_ =>
    exact ⟨⟨stopped.thread, stopped.kept, stopped.asked, rfl, stopped.vacant⟩, down, rfl⟩
  | pass at_ unused =>
    refine ⟨stopped, down, ?_⟩
    obtain at_ | at_ := released_caller s
    · rw [at_]; rfl
    · rw [at_]; rfl
  | wait until_ at_ used =>
    rw [stopped.thread] at used
    cases used
  | disconnect stopping control at_ vacated =>
    exact ⟨⟨stopped.thread, stopped.kept, stopped.asked, stopped.closed,
      Control.shutdown_vacant vacated⟩, down, rfl⟩
  | lower at_ =>
    exact ⟨⟨stopped.thread, stopped.kept, stopped.asked, stopped.closed, stopped.vacant⟩, rfl, rfl⟩
  | refuse at_ | begin at_ | connect env control status at_ | crash env at_
  | resolve defaultSink monitor found at_ | retreat stopping control at_ | publish target at_
  | arm at_ | raise at_ | spawn at_ | overwrite at_ | see until_ at_ | abandon until_ at_
  | join i at_ =>
    rw [at_] at stays
    cases stays

/-- Another stop, with nothing to wait for. -/
def quickStop : List (LifetimeLabel β) := [.stop, .run, .run, .run, .disconnect [], .run]

theorem quickStop_ran (h : s.capture.Stopped) (down : s.capture.running = false)
    (free : s.caller.isFree = true) :
    Steps.exec step s quickStop = some
      { s with
        caller := .idle, stops := s.stops + 1, halfOpen := false
        capture := { s.capture with control := { s.capture.control with ready := false } } } := by
  obtain ⟨thread, kept, asked, closed, vacant⟩ := h
  have again : s.capture.queue.close = s.capture.queue := by
    rw [FrameQueue.close, ← closed]
  simp only [quickStop, Steps.exec, step, run, serve, free, if_true, Option.bind_some, again, thread,
    Option.isSome_none, Bool.false_eq_true, if_false, released, goto, kept, vacant.shutdown,
    Option.map_some, shutDown, Option.some.injEq]
  rw [down, asked]

/-- A stop that has not left its thread behind: the handle is not running, no
thread takes a step any more, and nothing but another start changes that. As
often as the handle is stopped again, the stop takes its six steps at once and
leaves it as it was, but for the connection's note of being ready. -/
theorem stopped_for_good (run : Steps.Reach step Steps.Any Fresh s) (at_ : s.caller = .lowering)
    (taken : s.step .run = some t) {u : Lifetime β}
    (further : Steps.Reach step WithoutStart (· = t) u) :
    u.capture.Stopped ∧ u.capture.running = false ∧ (∀ th ∈ u.threads, th.pc = .finished) ∧
      (u.caller.isFree = true → Steps.exec step u quickStop = some
        { u with
          caller := .idle, stops := u.stops + 1, halfOpen := false
          capture := { u.capture with control := { u.capture.control with ready := false } } }) := by
  have before : (∃ joined, Safe s joined) ∧ StoppingAt s.capture s.caller := by
    apply Steps.Reach.invariant
      (fun s => (∃ joined, Safe s joined) ∧ StoppingAt s.capture s.caller) ?_ ?_ run
    · intro s fresh
      refine ⟨⟨[], fresh_safe fresh⟩, ?_⟩
      obtain ⟨c, clock, created, rfl⟩ := fresh
      trivial
    · rintro s l t _ ⟨⟨joined, safe⟩, stopping⟩ _ taken
      have moved := step_moves taken
      exact ⟨⟨_, step_safe safe moved⟩, step_stopping safe stopping moved⟩
  obtain ⟨⟨joined, safe⟩, stopping⟩ := before
  have after : (∃ joined, Safe u joined) ∧ AtRest u := by
    apply Steps.Reach.invariant (fun u => (∃ joined, Safe u joined) ∧ AtRest u) ?_ ?_ further
    · rintro _ rfl
      refine ⟨⟨_, step_safe safe (step_moves taken)⟩, ?_⟩
      rw [at_] at stopping
      simp only [step, Lifetime.run, at_, Option.some.injEq] at taken
      subst taken
      exact ⟨⟨stopping.thread, stopping.kept, stopping.asked, stopping.closed, stopping.vacant⟩,
        rfl, rfl⟩
    · rintro u l v _ ⟨⟨joined, safe⟩, rest⟩ unstarted taken
      have moved := step_moves taken
      exact ⟨⟨_, step_safe safe moved⟩, step_atRest rest unstarted moved⟩
  obtain ⟨⟨joined, safe⟩, stopped, down, _⟩ := after
  exact ⟨stopped, down, safe.all_finished stopped.thread stopped.kept,
    quickStop_ran stopped down⟩

end

/-- A handle started and stopped, and stopped again. -/
theorem stopped_for_good_once : ∃ s t u : Lifetime UInt8,
    Steps.Reach step Steps.Any Fresh s ∧ s.caller = .lowering ∧ s.step .run = some t ∧
    t.stops = 1 ∧ u.stops = 2 ∧
    t.capture.running = false ∧ Steps.exec step t quickStop = some u := by
  have ran : (Steps.exec step small (startWell ++ stopWell.dropLast)).map
      (fun s => (s.caller, s.stops)) = some (.lowering, 1) := by decide +kernel
  obtain ⟨s, ran, seen⟩ := Option.map_eq_some_iff.mp ran
  obtain ⟨at_, one⟩ := Prod.mk.inj seen
  have run : Steps.Reach step Steps.Any Fresh s :=
    .exec (.start small_fresh) (Steps.meets_any ..) ran
  have taken : s.step .run =
      some { s with capture := { s.capture with running := false }, caller := .idle } := by
    simp only [step, Lifetime.run, at_]
  obtain ⟨_, down, _, again⟩ := stopped_for_good run at_ taken (.start rfl)
  have stopped := again rfl
  refine ⟨s, _, _, run, at_, taken, ?_, ?_, down, stopped⟩
  · exact one
  · exact congrArg (· + 1) one

end Lifetime
end WebAudioCapture
