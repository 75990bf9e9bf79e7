import WebAudioCapture.CaptureLoop
import WebAudioCapture.ReadFrame
import WebAudioCapture.Lib.Steps

/-!
# The life of a handle

One caller starts, stops and reads a handle, a call at a time, while the
capture threads it has started run and the server calls back. The steps of
`weba_capture_start` and `weba_capture_stop` are cut where another thread can
see them.
-/

namespace WebAudioCapture

variable {β : Type}

/-- Where the caller stands. `terminated` is `std::terminate`. -/
inductive CallerPc where
  | idle
  -- `weba_capture_start`
  | starting
  | connecting
  | resolving
  | retreating
  | publishing (target : Target)
  | arming
  | raising
  | spawning
  | started (status : Status)
  -- `weba_capture_stop`
  | requesting
  | closing
  | joining
  | waiting (until_ : Int)
  | joined
  | disconnecting
  | lowering
  -- `weba_capture_read_frame`
  | reading
  | terminated
  deriving DecidableEq, Repr

/-- A start that returned `WEBA_OK`: the handle it left, and how many stops had
been called before. -/
structure Launch (β : Type) where
  capture : Capture β
  stops : Nat
  deriving DecidableEq, Repr

/-- `halfOpen` says that an `init` failed after it had made its main loop, and
that the connection has not been shut down since. -/
structure Lifetime (β : Type) where
  capture : Capture β
  caller : CallerPc := .idle
  reader : Reader β := {}
  threads : List (CaptureThread β) := []
  clock : Int := 0
  stops : Nat := 0
  halfOpen : Bool := false
  launches : List (Launch β) := []
  deriving DecidableEq, Repr

inductive LifetimeLabel (β : Type) where
  | tick (elapsed : Nat)
  | start
  | stop
  | read (args : ReadArgs β)
  | run
  | connect (env : InitEnv)
  | resolve (defaultSink monitor : QueryAnswer)
  | disconnect (stopping : List Delivery)
  | thread (i : Nat) (input : CaptureInput β)
  | callback (delivery : Delivery)
  deriving DecidableEq, Repr

/-- Between two calls. -/
def CallerPc.isFree : CallerPc → Bool
  | .idle | .started _ => true
  | _ => false

namespace Lifetime

def goto (s : Lifetime β) (caller : CallerPc) : Lifetime β := { s with caller }

/-- `start` after `init`. -/
def connected (s : Lifetime β) (env : InitEnv) (control : Control) (status : Status) :
    Lifetime β :=
  if status = .ok then { s with capture := { s.capture with control }, caller := .resolving }
  else
    { s with
      capture := { s.capture with control }.setError control.error
      caller := .started status
      halfOpen := s.halfOpen || env.mainloopNew }

/-- `start` after `resolve_target`. -/
def resolved (s : Lifetime β) : Control × Option Target → Lifetime β
  | (control, none) =>
    { s with capture := { s.capture with control }.setError control.error, caller := .retreating }
  | (control, some target) =>
    { s with capture := { s.capture with control }, caller := .publishing target }

/-- The connection has been shut down. -/
def shutDown (s : Lifetime β) (control : Control) (caller : CallerPc) : Lifetime β :=
  { s with capture := { s.capture with control }, caller, halfOpen := false }

/-- The end of `start`: the new thread enters the loop. -/
def spawn [Zero β] (s : Lifetime β) : Lifetime β :=
  let capture := { s.capture with thread := some s.threads.length }
  { s with
    capture
    caller := .started .ok
    threads := s.threads ++ [.spawn capture.config]
    launches := s.launches ++ [⟨capture, s.stops⟩] }

/-- `stop` once the capture thread has been joined or left. -/
def released (s : Lifetime β) : Lifetime β :=
  s.goto (if s.capture.threadAbandoned then .idle else .disconnecting)

def detach (s : Lifetime β) : Lifetime β :=
  { s with capture := { s.capture with thread := none } }

def abandon (s : Lifetime β) : Lifetime β :=
  { s with capture := { s.capture with thread := none, threadAbandoned := true } }

/-- The thread `i` has returned from the loop. -/
def hasFinished (s : Lifetime β) (i : Nat) : Bool :=
  s.threads[i]?.any fun t => t.pc == .finished

/-- A step of the caller that needs nothing from the server. -/
def run [Zero β] (s : Lifetime β) : Option (Lifetime β) :=
  match s.caller with
  | .starting => some (s.goto (if s.capture.running then .started .errState else .connecting))
  | .publishing target =>
    some { s with capture := s.capture.publishFormat target, caller := .arming }
  | .arming => some { s with capture := { s.capture with stopRequested := false }, caller := .raising }
  | .raising => some { s with capture := { s.capture with running := true }, caller := .spawning }
  | .spawning => some (if s.capture.thread.isSome then s.goto .terminated else s.spawn)
  | .requesting =>
    some { s with capture := { s.capture with stopRequested := true }, caller := .closing }
  | .closing =>
    some { s with capture := { s.capture with queue := s.capture.queue.close }, caller := .joining }
  | .joining =>
    some (if s.capture.thread.isSome then s.goto (.waiting (s.clock + joinTimeout * millisecond))
      else s.released)
  | .waiting until_ =>
    if !s.capture.running then some (s.goto .joined)
    else if until_ ≤ s.clock then some s.abandon.released
    else none
  | .joined =>
    s.capture.thread.bind fun i => if s.hasFinished i then some s.detach.released else none
  | .lowering => some { s with capture := { s.capture with running := false }, caller := .idle }
  | .reading =>
    (s.reader.step s.capture s.clock).map fun (capture, reader) =>
      { s with capture, reader, caller := if reader.isIdle then .idle else .reading }
  | _ => none

/-- The server's part in a step of the caller. -/
def serve (s : Lifetime β) : LifetimeLabel β → Option (Lifetime β)
  | .connect env =>
    if s.caller = .connecting then
      match s.capture.control.init env with
      | some (control, status) => some (s.connected env control status)
      | none => some (s.goto .terminated)
    else none
  | .resolve defaultSink monitor =>
    if s.caller = .resolving then
      some (s.resolved
        (s.capture.control.resolveTarget s.capture.config.requestedSink defaultSink monitor))
    else none
  | .disconnect stopping =>
    match s.caller with
    | .retreating =>
      (s.capture.control.shutdown stopping).map fun control =>
        s.shutDown control (.started .errPulse)
    | .disconnecting =>
      (s.capture.control.shutdown stopping).map fun control => s.shutDown control .lowering
    | _ => none
  | _ => none

def step [Zero β] (s : Lifetime β) : LifetimeLabel β → Option (Lifetime β)
  | .tick elapsed => some { s with clock := s.clock + elapsed }
  | .start => if s.caller.isFree then some (s.goto .starting) else none
  | .stop =>
    if s.caller.isFree then some { s with caller := .requesting, stops := s.stops + 1 } else none
  | .read args =>
    if s.caller.isFree then
      (s.reader.call args).map fun reader => { s with reader, caller := .reading }
    else none
  | .run => s.run
  | .thread i input =>
    s.threads[i]?.bind fun t =>
      (t.step s.capture s.clock input).map fun (capture, t) =>
        { s with capture, threads := s.threads.set i t }
  | .callback delivery =>
    some { s with capture := { s.capture with control := s.capture.control.deliver delivery } }
  | label => s.serve label

/-- A handle `create` has just returned. -/
def Fresh [Zero β] (s : Lifetime β) : Prop :=
  ∃ c clock, Capture.Created c ∧ s = { capture := c, clock }

/-! ## A small handle -/

def small : Lifetime UInt8 := { capture := smallHandle }

theorem small_fresh : Fresh small := ⟨_, _, smallHandle_created, rfl⟩

/-- A start as far as `init`, and one that returns `WEBA_OK`. -/
def enterStart : List (LifetimeLabel UInt8) := [.start, .run]

def startWell : List (LifetimeLabel UInt8) :=
  enterStart ++ [.connect { waiting := [.current .ready] },
    .resolve .timedOut (.rung { ok := true, value := "m" }), .run, .run, .run, .run]

/-- A stop with no capture thread to wait for. -/
def stopUnstarted : List (LifetimeLabel UInt8) :=
  [.stop, .run, .run, .run, .disconnect [], .run]

/-! ## What a step can do -/

inductive Moves [Zero β] (s : Lifetime β) : LifetimeLabel β → Lifetime β → Prop
  | tick (elapsed : Nat) : Moves s (.tick elapsed) { s with clock := s.clock + elapsed }
  | callback (delivery : Delivery) : Moves s (.callback delivery)
      { s with capture := { s.capture with control := s.capture.control.deliver delivery } }
  | thread (i : Nat) (input : CaptureInput β) (t t' : CaptureThread β) (c : Capture β)
      (at_ : s.threads[i]? = some t) (moved : t.Moves s.capture s.clock c t') :
      Moves s (.thread i input) { s with capture := c, threads := s.threads.set i t' }
  | start (free : s.caller.isFree = true) : Moves s .start (s.goto .starting)
  | stop (free : s.caller.isFree = true) :
      Moves s .stop { s with caller := .requesting, stops := s.stops + 1 }
  | read (args : ReadArgs β) (r : Reader β) (free : s.caller.isFree = true)
      (entered : r.pc = .entered) :
      Moves s (.read args) { s with reader := r, caller := .reading }
  | reads (c : Capture β) (r : Reader β) (at_ : s.caller = .reading)
      (taken : s.reader.step s.capture s.clock = some (c, r)) :
      Moves s .run
        { s with capture := c, reader := r, caller := if r.isIdle then .idle else .reading }
  -- `weba_capture_start`
  | refuse (at_ : s.caller = .starting) (running : s.capture.running = true) :
      Moves s .run (s.goto (.started .errState))
  | begin (at_ : s.caller = .starting) (down : s.capture.running = false) :
      Moves s .run (s.goto .connecting)
  | connect (env : InitEnv) (control : Control) (status : Status) (at_ : s.caller = .connecting)
      (made : s.capture.control.init env = some (control, status)) :
      Moves s (.connect env) (s.connected env control status)
  | crash (env : InitEnv) (at_ : s.caller = .connecting)
      (clash : s.capture.control.init env = none) : Moves s (.connect env) (s.goto .terminated)
  | resolve (defaultSink monitor : QueryAnswer) (found : Control × Option Target)
      (at_ : s.caller = .resolving)
      (answer : s.capture.control.resolveTarget s.capture.config.requestedSink defaultSink monitor =
        found) : Moves s (.resolve defaultSink monitor) (s.resolved found)
  | retreat (stopping : List Delivery) (control : Control) (at_ : s.caller = .retreating)
      (down : s.capture.control.shutdown stopping = some control) :
      Moves s (.disconnect stopping) (s.shutDown control (.started .errPulse))
  | publish (target : Target) (at_ : s.caller = .publishing target) :
      Moves s .run { s with capture := s.capture.publishFormat target, caller := .arming }
  | arm (at_ : s.caller = .arming) :
      Moves s .run { s with capture := { s.capture with stopRequested := false }, caller := .raising }
  | raise (at_ : s.caller = .raising) :
      Moves s .run { s with capture := { s.capture with running := true }, caller := .spawning }
  | spawn (at_ : s.caller = .spawning) (unused : s.capture.thread = none) : Moves s .run s.spawn
  | overwrite (at_ : s.caller = .spawning) (used : s.capture.thread.isSome = true) :
      Moves s .run (s.goto .terminated)
  -- `weba_capture_stop`
  | request (at_ : s.caller = .requesting) :
      Moves s .run { s with capture := { s.capture with stopRequested := true }, caller := .closing }
  | close (at_ : s.caller = .closing) :
      Moves s .run
        { s with capture := { s.capture with queue := s.capture.queue.close }, caller := .joining }
  | pass (at_ : s.caller = .joining) (unused : s.capture.thread = none) : Moves s .run s.released
  | wait (until_ : Int) (at_ : s.caller = .joining) (used : s.capture.thread.isSome = true) :
      Moves s .run (s.goto (.waiting until_))
  | see (until_ : Int) (at_ : s.caller = .waiting until_) (down : s.capture.running = false) :
      Moves s .run (s.goto .joined)
  | abandon (until_ : Int) (at_ : s.caller = .waiting until_) (late : until_ ≤ s.clock) :
      Moves s .run s.abandon.released
  | join (i : Nat) (at_ : s.caller = .joined) (used : s.capture.thread = some i)
      (finished : s.hasFinished i = true) : Moves s .run s.detach.released
  | disconnect (stopping : List Delivery) (control : Control) (at_ : s.caller = .disconnecting)
      (down : s.capture.control.shutdown stopping = some control) :
      Moves s (.disconnect stopping) (s.shutDown control .lowering)
  | lower (at_ : s.caller = .lowering) :
      Moves s .run { s with capture := { s.capture with running := false }, caller := .idle }

theorem call_entered {r r' : Reader β} {args : ReadArgs β} (called : r.call args = some r') :
    r'.pc = .entered := by
  unfold Reader.call at called
  split at called
  · cases called
    rfl
  · cases called

section
variable [Zero β] {s t : Lifetime β}

theorem run_moves (taken : s.run = some t) : Moves s .run t := by
  unfold run at taken
  split at taken
  · rename_i at_
    cases taken
    split
    · rename_i running
      exact .refuse at_ running
    · rename_i down
      exact .begin at_ (Bool.eq_false_iff.mpr down)
  · rename_i target at_
    cases taken
    exact .publish target at_
  · rename_i at_
    cases taken
    exact .arm at_
  · rename_i at_
    cases taken
    exact .raise at_
  · rename_i at_
    cases taken
    split
    · rename_i used
      exact .overwrite at_ used
    · rename_i unused
      exact .spawn at_ (Option.not_isSome_iff_eq_none.mp unused)
  · rename_i at_
    cases taken
    exact .request at_
  · rename_i at_
    cases taken
    exact .close at_
  · rename_i at_
    cases taken
    split
    · rename_i used
      exact .wait _ at_ used
    · rename_i unused
      exact .pass at_ (Option.not_isSome_iff_eq_none.mp unused)
  · rename_i until_ at_
    split at taken
    · rename_i down
      cases taken
      exact .see until_ at_ (by simpa using down)
    · split at taken
      · rename_i late
        cases taken
        exact .abandon until_ at_ late
      · cases taken
  · rename_i at_
    obtain ⟨i, used, taken⟩ := Option.bind_eq_some_iff.mp taken
    split at taken
    · rename_i finished
      cases taken
      exact .join i at_ used finished
    · cases taken
  · rename_i at_
    cases taken
    exact .lower at_
  · rename_i at_
    obtain ⟨⟨c, r⟩, stepped, rfl⟩ := Option.map_eq_some_iff.mp taken
    exact .reads c r at_ stepped
  · cases taken

theorem serve_moves {l : LifetimeLabel β} (taken : s.serve l = some t) : Moves s l t := by
  unfold serve at taken
  split at taken
  · rename_i env
    split at taken
    · rename_i at_
      split at taken
      · rename_i control status made
        cases taken
        exact .connect env control status at_ made
      · rename_i clash
        cases taken
        exact .crash env at_ clash
    · cases taken
  · rename_i defaultSink monitor
    split at taken
    · rename_i at_
      cases taken
      exact .resolve defaultSink monitor _ at_ rfl
    · cases taken
  · rename_i stopping
    split at taken
    · rename_i at_
      obtain ⟨control, down, rfl⟩ := Option.map_eq_some_iff.mp taken
      exact .retreat stopping control at_ down
    · rename_i at_
      obtain ⟨control, down, rfl⟩ := Option.map_eq_some_iff.mp taken
      exact .disconnect stopping control at_ down
    · cases taken
  · cases taken

theorem step_moves {l : LifetimeLabel β} (taken : s.step l = some t) : Moves s l t := by
  cases l with
  | tick elapsed =>
    cases taken
    exact .tick elapsed
  | start =>
    simp only [step] at taken
    split at taken
    · cases taken
      exact .start ‹_›
    · cases taken
  | stop =>
    simp only [step] at taken
    split at taken
    · cases taken
      exact .stop ‹_›
    · cases taken
  | read args =>
    simp only [step] at taken
    split at taken
    · obtain ⟨r, called, rfl⟩ := Option.map_eq_some_iff.mp taken
      exact .read args r ‹_› (call_entered called)
    · cases taken
  | run => exact run_moves taken
  | connect env => exact serve_moves taken
  | resolve defaultSink monitor => exact serve_moves taken
  | disconnect stopping => exact serve_moves taken
  | thread i input =>
    obtain ⟨t, at_, taken⟩ := Option.bind_eq_some_iff.mp taken
    obtain ⟨⟨c, t'⟩, stepped, rfl⟩ := Option.map_eq_some_iff.mp taken
    exact .thread i input t t' c at_ (CaptureThread.step_moves stepped)
  | callback delivery =>
    cases taken
    exact .callback delivery

end
end Lifetime

/-! ## What only the caller changes -/

namespace Control

/-- Nothing is connected and no loop thread is left. -/
structure Vacant (c : Control) : Prop where
  mainloop : c.mainloop = false
  ctx : c.ctx = none
  thread : c.thread = .none

/-- The same main loop and loop thread, and a context if there was one. -/
structure SameHold (c c' : Control) : Prop where
  mainloop : c'.mainloop = c.mainloop
  ctx : c'.ctx.isSome = c.ctx.isSome
  thread : c'.thread = c.thread

theorem SameHold.refl (c : Control) : c.SameHold c := ⟨rfl, rfl, rfl⟩

theorem SameHold.trans {c c' c'' : Control} (h : c.SameHold c') (h' : c'.SameHold c'') :
    c.SameHold c'' :=
  ⟨h'.mainloop.trans h.mainloop, h'.ctx.trans h.ctx, h'.thread.trans h.thread⟩

theorem SameHold.vacant {c c' : Control} (h : c.SameHold c') (vacant : c.Vacant) : c'.Vacant := by
  refine ⟨h.mainloop.trans vacant.mainloop, ?_, h.thread.trans vacant.thread⟩
  apply Option.not_isSome_iff_eq_none.mp
  rw [h.ctx, vacant.ctx]
  rintro ⟨⟩

theorem stateCallback_hold (c : Control) (state : ContextState) :
    c.SameHold (c.stateCallback state) := by
  cases state <;> exact ⟨rfl, rfl, rfl⟩

theorem deliver_hold (c : Control) (d : Delivery) : c.SameHold (c.deliver d) := by
  cases d with
  | current state =>
    have moved : c.SameHold { c with ctx := c.ctx.map fun _ => state } :=
      ⟨rfl, Option.isSome_map, rfl⟩
    exact moved.trans (stateCallback_hold _ state)
  | stale state => exact stateCallback_hold c state

theorem deliverAll_hold (c : Control) (ds : List Delivery) : c.SameHold (c.deliverAll ds) := by
  induction ds generalizing c with
  | nil => exact .refl c
  | cons d ds ih => exact (deliver_hold c d).trans (ih (c.deliver d))

theorem resolveTarget_hold (c : Control) (requestedSink : String)
    (defaultSink monitor : QueryAnswer) :
    c.SameHold (c.resolveTarget requestedSink defaultSink monitor).1 := by
  obtain ⟨e, same⟩ := c.resolveTarget_control requestedSink defaultSink monitor
  rw [same]
  exact ⟨rfl, rfl, rfl⟩

end Control

/-- What a step of a reader, of a capture thread or of the server leaves as it
was. -/
structure Capture.Undisturbed (c c' : Capture β) : Prop where
  control : c.control.SameHold c'.control
  thread : c'.thread = c.thread
  stopRequested : c'.stopRequested = c.stopRequested
  threadAbandoned : c'.threadAbandoned = c.threadAbandoned
  closed : c'.queue.closed = c.queue.closed

theorem Capture.Undisturbed.refl (c : Capture β) : c.Undisturbed c :=
  ⟨.refl _, rfl, rfl, rfl, rfl⟩

theorem Capture.startPacing_undisturbed (c : Capture β) (now : Int) :
    c.Undisturbed (c.startPacing now) ∧ (c.startPacing now).running = c.running := by
  unfold startPacing
  split
  · exact ⟨.refl c, rfl⟩
  · exact ⟨⟨.refl _, rfl, rfl, rfl, rfl⟩, rfl⟩

theorem Reader.pop_undisturbed {c c' : Capture β} {r : Reader β} {p : FrameQueue.Popped β}
    (popped : r.pop c = some (c', p)) : c.Undisturbed c' ∧ c'.running = c.running := by
  obtain ⟨dst, queue, _, taken, rfl⟩ := pop_queue popped
  exact ⟨⟨.refl _, rfl, rfl, rfl, FrameQueue.pop_keeps_closed taken⟩, rfl⟩

theorem Reader.moves_undisturbed [Zero β] {c c' : Capture β} {r r' : Reader β} {now : Int}
    (moved : r.Moves c now c' r') : c.Undisturbed c' ∧ c'.running = c.running := by
  cases moved with
  | early next at_ fixed soon leads => exact c.startPacing_undisturbed now
  | reach at_ fixed passed => exact c.startPacing_undisturbed now
  | shut d p at_ popped closed => exact pop_undisturbed popped
  | popWaiting d p wait at_ popped open_ => exact pop_undisturbed popped
  | popDue d p at_ popped open_ => exact pop_undisturbed popped
  | drain result dst at_ filled => exact ⟨⟨.refl _, rfl, rfl, rfl, rfl⟩, rfl⟩
  | close flags at_ => exact ⟨⟨.refl _, rfl, rfl, rfl, rfl⟩, rfl⟩
  | tell ns at_ => exact ⟨⟨.refl _, rfl, rfl, rfl, rfl⟩, rfl⟩
  | _ => exact ⟨.refl c, rfl⟩

theorem CaptureThread.moves_undisturbed {c c' : Capture β} {t t' : CaptureThread β} {now : Int}
    (moved : t.Moves c now c' t') :
    c.Undisturbed c' ∧ (c'.running = c.running ∨ t.pc = .exiting) := by
  cases moved with
  | unresolved control defaultSink monitor at_ found =>
    have hold := c.control.resolveTarget_hold c.config.requestedSink defaultSink monitor
    rw [found] at hold
    exact ⟨⟨hold, rfl, rfl, rfl, rfl⟩, .inl rfl⟩
  | resolve control target defaultSink monitor at_ found =>
    have hold := c.control.resolveTarget_hold c.config.requestedSink defaultSink monitor
    rw [found] at hold
    exact ⟨⟨hold, rfl, rfl, rfl, rfl⟩, .inl rfl⟩
  | push c' at_ pushed =>
    simp only [Capture.pushFrame, Option.map_eq_some_iff, Prod.exists] at pushed
    obtain ⟨queue, discarded, took, rfl⟩ := pushed
    exact ⟨⟨.refl _, rfl, rfl, rfl, FrameQueue.push_keeps_closed took⟩, .inl rfl⟩
  | checked control found defaultSink monitor at_ answer =>
    have hold := c.control.resolveTarget_hold "" defaultSink monitor
    rw [answer] at hold
    exact ⟨⟨hold, rfl, rfl, rfl, rfl⟩, .inl rfl⟩
  | leave at_ => exact ⟨⟨.refl _, rfl, rfl, rfl, rfl⟩, .inr at_⟩
  | _ => exact ⟨⟨.refl _, rfl, rfl, rfl, rfl⟩, .inl rfl⟩

end WebAudioCapture
