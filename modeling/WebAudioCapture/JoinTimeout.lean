import WebAudioCapture.QueueRefinement
import WebAudioCapture.Recovery

/-!
# How long a stop may have to wait

`weba_capture_stop` gives its capture thread `kJoinTimeout` to leave. On a
virtual clock only what the thread waits for takes time: a query until its
timeout, a read as long as the audio it asks for, a retry until its delay is
over or a stop is requested. Opening a stream, and all else, is done at once.
-/

namespace WebAudioCapture

variable {β : Type}

/-- `kQueryTimeout`, in milliseconds. -/
def queryTimeout : Int := 5000

/-- How long the audio of a frame lasts, in whole nanoseconds. -/
def Config.frameTime (config : Config) : Int :=
  (config.frameSamples.toNat * 1000000000 / config.sampleRate.toNat : Nat)

/-- `resolve_target` gets as far as its queries. -/
def Control.isUp (c : Control) : Bool := c.ctx.isSome && c.isReady

theorem Control.isUp_iff {c : Control} :
    c.isUp = true ↔ c.ctx.isSome = true ∧ c.ready = true ∧ c.broken = false := by
  simp only [isUp, isReady, broken, Bool.and_eq_true, Bool.not_eq_true', Bool.or_eq_false_iff,
    and_assoc]

/-- The longest a `resolve_target` takes, its two queries together where it makes
two. -/
def Control.resolveTime (c : Control) (requestedSink : String) : Int :=
  if !c.isUp then 0
  else if requestedSink.isEmpty then 2 * (queryTimeout * millisecond)
  else queryTimeout * millisecond

/-- The longest the thread stays where it is, from `now`. -/
def CaptureThread.allowance (t : CaptureThread β) (c : Capture β) (now : Int) : Int :=
  match t.pc with
  | .resolving => c.control.resolveTime c.config.requestedSink
  | .reresolving => c.control.resolveTime ""
  | .reading => c.config.frameTime
  | .retrying until_ => if c.stopRequested then 0 else until_ - now
  | _ => 0

/-- A session on a virtual clock. `dueBy` is when the thread moves on at the
latest, `joining` the end of stop's join wait. -/
structure Timed (β : Type) where
  session : Session β
  dueBy : Int
  joining : Option Int := none
  abandoned : Bool := false
  deriving DecidableEq, Repr

inductive TimedLabel (β : Type) where
  | session (label : SessionLabel β)
  | join
  | abandon
  deriving DecidableEq, Repr

namespace Timed

/-- A stop request ends a retry delay. -/
def roused (s : Timed β) : Int :=
  match s.session.thread.pc with
  | .retrying _ => s.session.clock
  | _ => s.dueBy

def step [Zero β] (s : Timed β) : TimedLabel β → Option (Timed β)
  | .session (.tick elapsed) =>
    if s.session.thread.isDone ∨ s.session.clock + elapsed ≤ s.dueBy then
      (s.session.step (.tick elapsed)).map fun session => { s with session }
    else none
  | .session (.capture input) =>
    (s.session.step (.capture input)).map fun session =>
      { s with
        session
        dueBy := session.clock + session.thread.allowance session.capture session.clock }
  | .session .requestStop =>
    (s.session.step .requestStop).map fun session => { s with session, dueBy := s.roused }
  | .session label => (s.session.step label).map fun session => { s with session }
  | .join =>
    if s.session.capture.queue.closed ∧ s.joining = none then
      some { s with joining := some (s.session.clock + joinTimeout * millisecond) }
    else none
  | .abandon =>
    s.joining.bind fun until_ =>
      if s.session.capture.running ∧ until_ ≤ s.session.clock then some { s with abandoned := true }
      else none

/-- A session of a new handle, over a connection that stands. -/
def Fresh [Zero β] (s : Timed β) : Prop :=
  ∃ c control target clock, Capture.Created c ∧ control.Connected ∧
    s = { session := .start c control target clock, dueBy := clock }

end Timed

/-! ## The worst case -/

/-- The same handle to the capture thread, but perhaps no longer connected. -/
structure Capture.Fades (c c' : Capture β) : Prop where
  config : c'.config = c.config
  nextSinkCheck : c'.nextSinkCheck = c.nextSinkCheck
  up : c'.control.isUp = true → c.control.isUp = true

namespace Capture

variable {c c' : Capture β} {now now' : Int}

theorem Fades.refl (c : Capture β) : c.Fades c := ⟨rfl, rfl, id⟩

end Capture

namespace CaptureThread

/-- The thread may stay where it is for a while. -/
def lingers (t : CaptureThread β) (c : Capture β) : Bool :=
  match t.pc with
  | .resolving | .reresolving | .reading | .notifying | .finished => true
  | .retrying _ => !c.stopRequested
  | _ => false

end CaptureThread

/-! ## A step of the thread -/

namespace CaptureThread

variable {t t' : CaptureThread β} {c c' : Capture β} {now dueBy : Int}

end CaptureThread

/-! ## The worst case happens -/

namespace CaptureThread

variable {t : CaptureThread β} {c : Capture β} {now : Int}

end CaptureThread

namespace Session

variable [Zero β] {s t : Session β}

end Session

namespace Timed

/-! ## Steps on the clock -/

/-- A step of the session that takes no part in the timing of the thread. -/
def Aside : SessionLabel β → Prop
  | .call _ | .read | .closeQueue | .callback _ => True
  | .tick _ | .capture _ | .requestStop => False

inductive Moves [Zero β] (s : Timed β) : TimedLabel β → Timed β → Prop
  | tick (elapsed : Nat)
      (due : s.session.thread.isDone = true ∨ s.session.clock + elapsed ≤ s.dueBy) :
      Moves s (.session (.tick elapsed))
        { s with session := { s.session with clock := s.session.clock + elapsed } }
  | capture (input : CaptureInput β) (c : Capture β) (th : CaptureThread β)
      (stepped : s.session.thread.step s.session.capture s.session.clock input = some (c, th)) :
      Moves s (.session (.capture input))
        { s with
          session := s.session.noteCapture c th
          dueBy := s.session.clock + th.allowance c s.session.clock }
  | request :
      Moves s (.session .requestStop)
        { s with
          session :=
            { s.session with capture := { s.session.capture with stopRequested := true } }
          dueBy := s.roused }
  | aside (label : SessionLabel β) (session : Session β) (still : Aside label)
      (taken : s.session.step label = some session) : Moves s (.session label) { s with session }
  | join (closed : s.session.capture.queue.closed = true) (first : s.joining = none) :
      Moves s .join { s with joining := some (s.session.clock + joinTimeout * millisecond) }
  | abandon (until_ : Int) (waits : s.joining = some until_)
      (up : s.session.capture.running = true) (late : until_ ≤ s.session.clock) :
      Moves s .abandon { s with abandoned := true }

section
variable [Zero β] {s t : Timed β}

theorem step_moves {l : TimedLabel β} (taken : s.step l = some t) : Moves s l t := by
  have aside : ∀ label, Aside label →
      ((s.session.step label).map fun session => { s with session }) = some t →
      Moves s (.session label) t := by
    intro label still taken
    obtain ⟨session, taken', rfl⟩ := Option.map_eq_some_iff.mp taken
    exact .aside label session still taken'
  cases l with
  | session label =>
    cases label with
    | tick elapsed =>
      simp only [step] at taken
      split at taken
      · rename_i due
        cases taken
        exact .tick elapsed due
      · cases taken
    | capture input =>
      simp only [step, Session.step, Option.map_map, Option.map_eq_some_iff, Prod.exists,
        Function.comp] at taken
      obtain ⟨c, th, stepped, rfl⟩ := taken
      simp only [Session.noteCapture_clock, Session.noteCapture_thread, Session.noteCapture_capture]
      exact .capture input c th stepped
    | requestStop =>
      cases taken
      exact .request
    | call args => exact aside _ trivial taken
    | read => exact aside _ trivial taken
    | closeQueue => exact aside _ trivial taken
    | callback delivery => exact aside _ trivial taken
  | join =>
    simp only [step] at taken
    split at taken
    · rename_i ready
      cases taken
      exact .join ready.1 ready.2
    · cases taken
  | abandon =>
    obtain ⟨until_, waits, taken⟩ := Option.bind_eq_some_iff.mp taken
    split at taken
    · rename_i late
      cases taken
      exact .abandon until_ waits late.1 late.2
    · cases taken

/-- What a step that takes no part in the timing leaves. -/
structure Unhurried (s t : Session β) : Prop where
  thread : t.thread = s.thread
  clock : t.clock = s.clock
  asked : t.capture.stopRequested = s.capture.stopRequested
  closed : t.capture.queue.closed = true →
    s.capture.queue.closed = true ∨ s.capture.stopRequested = true
  stays : s.capture.queue.closed = true → t.capture.queue.closed = true
  fades : s.capture.Fades t.capture

theorem aside_unhurried {s t : Session β} {label : SessionLabel β} {broken : Bool}
    (followed : s.Followed broken) (still : Aside label) (taken : s.step label = some t) :
    Unhurried s t := by
  cases Session.step_moves taken with
  | tick elapsed => exact still.elim
  | capture input c th moved => exact still.elim
  | requestStop => exact still.elim
  | call args idle => exact ⟨rfl, rfl, rfl, .inl, id, .refl _⟩
  | closeQueue asked => exact ⟨rfl, rfl, rfl, fun _ => .inr asked, fun _ => rfl, rfl, rfl, id⟩
  | read c r busy moved =>
    have same := (Reader.moves_undisturbed moved).1
    obtain ⟨queue, flags, deadline, valid, shape⟩ := Reader.moves_shape moved
    have fades : s.capture.Fades c := by
      rw [shape]
      exact ⟨rfl, rfl, id⟩
    exact ⟨rfl, rfl, same.stopRequested, fun closed => .inl (same.closed ▸ closed),
      fun closed => same.closed.trans closed, fades⟩
  | callback delivery =>
    refine ⟨rfl, rfl, rfl, .inl, id, rfl, rfl, fun up => ?_⟩
    obtain ⟨_, _, breaks⟩ := s.capture.control.deliver_link delivery
    obtain ⟨_, _, stands⟩ := Control.isUp_iff.mp up
    rw [breaks, Bool.or_eq_false_iff] at stands
    exact Control.isUp_iff.mpr ⟨followed.context, followed.ready, stands.1⟩

/-- Time does not pass the thread by. -/
structure Punctual (s : Timed β) : Prop where
  due : s.session.thread.isDone = true ∨ s.session.clock ≤ s.dueBy
  prompt : s.session.thread.lingers s.session.capture = false → s.dueBy = s.session.clock

omit [Zero β] in
theorem Punctual.busy (h : Punctual s) (going : s.session.thread.isDone = false) :
    s.session.clock ≤ s.dueBy := by
  apply h.due.resolve_left
  rw [going]
  exact Bool.false_ne_true

/-- Stop comes to its join wait by way of its request and the queue. -/
structure Ordered (s : Timed β) : Prop where
  closed : s.session.capture.queue.closed = true → s.session.capture.stopRequested = true
  joining : s.joining ≠ none → s.session.capture.queue.closed = true
  abandoned : s.abandoned = true → s.joining ≠ none

theorem step_ordered {l : TimedLabel β} {broken : Bool} (h : Ordered s)
    (followed : s.session.Followed broken) (moved : Moves s l t) : Ordered t := by
  cases moved with
  | tick elapsed due => exact ⟨h.closed, h.joining, h.abandoned⟩
  | request => exact ⟨fun _ => rfl, h.joining, h.abandoned⟩
  | join closed first => exact ⟨h.closed, fun _ => closed, fun _ => by rintro ⟨⟩⟩
  | abandon until_ waits up late =>
    exact ⟨h.closed, h.joining, fun _ => by rw [waits]; rintro ⟨⟩⟩
  | capture input c th stepped =>
    have same := (CaptureThread.moves_undisturbed (CaptureThread.step_moves stepped)).1
    refine ⟨?_, ?_, h.abandoned⟩
    · dsimp only
      rw [Session.noteCapture_capture, same.closed, same.stopRequested]
      exact h.closed
    · dsimp only
      rw [Session.noteCapture_capture, same.closed]
      exact h.joining
  | aside label session still taken =>
    obtain ⟨_, _, asked, closed, stays, _⟩ := aside_unhurried followed still taken
    refine ⟨fun shut => ?_, fun waits => stays (h.joining waits), h.abandoned⟩
    rw [asked]
    exact (closed shut).elim h.closed id

theorem tick_step {elapsed : Nat} (due : s.session.clock + elapsed ≤ s.dueBy) :
    s.step (.session (.tick elapsed)) =
      some { s with session := { s.session with clock := s.session.clock + elapsed } } := by
  simp only [step, if_pos (show s.session.thread.isDone = true ∨ _ from .inr due), Session.step,
    Option.map_some]

/-- A stop that waits for a thread still in its loop. -/
structure Held (until_ : Int) (s : Timed β) : Prop where
  reached : Steps.Reach step Steps.Any Fresh s
  asked : s.session.capture.stopRequested = true
  shut : s.session.capture.queue.closed = true
  waits : s.joining = some until_
  going : s.session.thread.isDone = false

theorem Held.tick {until_ : Int} {elapsed : Nat} (h : Held until_ s)
    (due : s.session.clock + elapsed ≤ s.dueBy) :
    Held until_ { s with session := { s.session with clock := s.session.clock + elapsed } } :=
  ⟨.next h.reached trivial (tick_step due), h.asked, h.shut, h.waits, h.going⟩

end

/-! ## Small sessions -/

def small : Timed UInt8 := { session := .small, dueBy := 0 }

theorem small_fresh : Fresh small :=
  ⟨_, _, _, _, smallHandle_created, ⟨rfl, rfl⟩, rfl⟩

end Timed
end WebAudioCapture
