import WebAudioCapture.CaptureLoop
import WebAudioCapture.ReadFrame
import WebAudioCapture.Lib.Steps

/-!
# One session

The capture thread and a reader on one handle, with a stop that may be
requested at any time, in any order of their steps. The session keeps a record
of what neither party sees whole: the streams opened, the frames pushed and
where each came from, and the frames handed to the caller.
-/

namespace WebAudioCapture

variable {β : Type}

/-- A frame the queue accepted, and the stream that recorded it. -/
structure Recording (β : Type) where
  stream : Nat
  bytes : List β
  deriving DecidableEq, Repr

/-- A frame handed to the caller: its number among those accepted if it is a
real one, the caller's info and how many streams had been opened by then. -/
structure Handed where
  frame : Option Nat
  info : Option FrameInfo
  opens : Nat
  deriving DecidableEq, Repr

/-- `held` is the number of the frame the current call has popped, if any;
`reopened` says that a reopen was flagged since the flags were last drained. -/
structure Session (β : Type) where
  capture : Capture β
  thread : CaptureThread β
  reader : Reader β := {}
  clock : Int
  opens : Nat := 0
  captured : List (Recording β) := []
  held : Option Nat := none
  reopened : Bool := false
  handed : List Handed := []
  deriving DecidableEq, Repr

inductive SessionLabel (β : Type) where
  | tick (elapsed : Nat)
  | call (args : ReadArgs β)
  | read
  | capture (input : CaptureInput β)
  | requestStop
  | closeQueue
  | callback (delivery : Delivery)
  deriving DecidableEq, Repr

namespace ReadPc

/-- The next step pops. -/
def takes : ReadPc → Bool
  | .popping _ | .due => true
  | _ => false

/-- The next step drains the pending flags. -/
def drains : ReadPc → Bool
  | .draining _ | .reporting _ => true
  | _ => false

/-- Between its pop and its drain, or with these flags drained. -/
inductive Phase where
  | away
  | undrained
  | drained (flags : FrameFlags)
  deriving DecidableEq, Repr

def phase : ReadPc → Phase
  | .draining _ | .stamping | .reporting _ => .undrained
  | .closing flags => .drained flags
  | _ => .away

theorem takes_away {pc : ReadPc} (h : pc.takes = true) : pc.phase = .away := by
  cases pc <;> first | rfl | cases h

theorem drains_undrained {pc : ReadPc} (h : pc.drains = true) : pc.phase = .undrained := by
  cases pc <;> first | rfl | cases h

end ReadPc

namespace Session

/-- The number of the frame at the head of the queue. -/
def headNumber (s : Session β) : Nat := s.captured.length - s.capture.queue.count

/-- The frame a pop would return. -/
def nextFrame (s : Session β) : Option Nat :=
  if s.capture.queue.count = 0 then none else some s.headNumber

/-- The frame held after a step of the reader. -/
def heldNext (s : Session β) : Option Nat :=
  if s.reader.pc.takes then s.nextFrame else s.held

/-- The record after a step of the reader. -/
def noteRead (s : Session β) (capture : Capture β) (reader : Reader β) : Session β :=
  { s with
    capture, reader
    held := s.heldNext
    reopened := s.reopened && !s.reader.pc.drains
    handed :=
      if reader.pc = .returned 1 then s.handed ++ [⟨s.heldNext, reader.info, s.opens⟩]
      else s.handed }

/-- The record after a step of the capture thread. -/
def noteCapture (s : Session β) (capture : Capture β) (thread : CaptureThread β) : Session β :=
  match s.thread.pc with
  | .opening _ =>
    { s with capture, thread, opens := if thread.mic.isSome then s.opens + 1 else s.opens }
  | .pushing =>
    { s with
      capture, thread
      captured :=
        if s.capture.queue.accepts then s.captured ++ [⟨s.opens, s.thread.buffer⟩]
        else s.captured }
  | .flagReopen => { s with capture, thread, reopened := true }
  | _ => { s with capture, thread }

def step [Zero β] (s : Session β) : SessionLabel β → Option (Session β)
  | .tick elapsed => some { s with clock := s.clock + elapsed }
  | .call args => (s.reader.call args).map fun reader => { s with reader }
  | .read =>
    (s.reader.step s.capture s.clock).map fun (capture, reader) => s.noteRead capture reader
  | .capture input =>
    (s.thread.step s.capture s.clock input).map fun (capture, thread) =>
      s.noteCapture capture thread
  | .requestStop => some { s with capture := { s.capture with stopRequested := true } }
  | .closeQueue =>
    if s.capture.stopRequested then
      some { s with capture := { s.capture with queue := s.capture.queue.close } }
    else none
  | .callback delivery =>
    some { s with capture := { s.capture with control := s.capture.control.deliver delivery } }

/-- A session of handle `c`: `weba_capture_start` has connected `control`,
published the format of `target` and spawned the thread. -/
def start [Zero β] (c : Capture β) (control : Control) (target : Target) (clock : Int) :
    Session β :=
  { capture := { c.publishFormat target with control, running := true, thread := some 0 }
    thread := .spawn c.config
    clock }

/-- The start of a session of a fresh handle. -/
def Fresh [Zero β] (s : Session β) : Prop :=
  ∃ c control target clock, Capture.Created c ∧ s = start c control target clock

/-- The consumer always asks for the info. -/
def Informed (_ : Session β) : SessionLabel β → Prop
  | .call args => args.info.isSome = true
  | _ => True

instance (s : Session β) (l : SessionLabel β) : Decidable (Informed s l) :=
  match l with
  | .call _ => inferInstanceAs (Decidable (_ = true))
  | .tick _ | .read | .capture _ | .requestStop | .closeQueue | .callback _ => .isTrue trivial

/-! ## What a step can do -/

inductive Moves [Zero β] (s : Session β) : SessionLabel β → Session β → Prop
  | tick (elapsed : Nat) : Moves s (.tick elapsed) { s with clock := s.clock + elapsed }
  | call (args : ReadArgs β) (idle : s.reader.isIdle = true) : Moves s (.call args)
      { s with
        reader :=
          { pc := .entered, dst := args.dst, capacityFrames := args.capacityFrames
            info := args.info, timeoutMs := args.timeoutMs } }
  | read (c : Capture β) (r : Reader β) (busy : s.reader.isIdle = false)
      (moved : s.reader.Moves s.capture s.clock c r) : Moves s .read (s.noteRead c r)
  | capture (input : CaptureInput β) (c : Capture β) (t : CaptureThread β)
      (moved : s.thread.Moves s.capture s.clock c t) : Moves s (.capture input) (s.noteCapture c t)
  | requestStop :
      Moves s .requestStop { s with capture := { s.capture with stopRequested := true } }
  | closeQueue (asked : s.capture.stopRequested = true) : Moves s .closeQueue
      { s with capture := { s.capture with queue := s.capture.queue.close } }
  | callback (delivery : Delivery) : Moves s (.callback delivery)
      { s with capture := { s.capture with control := s.capture.control.deliver delivery } }

theorem step_moves [Zero β] {s t : Session β} {l : SessionLabel β} (taken : s.step l = some t) :
    Moves s l t := by
  cases l with
  | tick elapsed =>
    cases taken
    exact .tick elapsed
  | call args =>
    simp only [step, Reader.call, Option.map_eq_some_iff] at taken
    obtain ⟨reader, called, rfl⟩ := taken
    split at called
    · rename_i idle
      cases called
      exact .call args idle
    · cases called
  | read =>
    simp only [step, Option.map_eq_some_iff, Prod.exists] at taken
    obtain ⟨c, r, stepped, rfl⟩ := taken
    exact .read c r (Reader.step_busy stepped) (Reader.step_moves stepped)
  | capture input =>
    simp only [step, Option.map_eq_some_iff, Prod.exists] at taken
    obtain ⟨c, t, stepped, rfl⟩ := taken
    exact .capture input c t (CaptureThread.step_moves stepped)
  | requestStop =>
    cases taken
    exact .requestStop
  | closeQueue =>
    simp only [step] at taken
    split at taken
    · rename_i asked
      cases taken
      exact .closeQueue asked
    · cases taken
  | callback delivery =>
    cases taken
    exact .callback delivery

theorem noteCapture_config (s : Session β) (c : Capture β) (t : CaptureThread β) :
    (s.noteCapture c t).capture.config = c.config := by
  unfold noteCapture
  split <;> rfl

/-- No step changes the configuration. -/
theorem moves_config [Zero β] {s t : Session β} {l : SessionLabel β} (moved : Moves s l t) :
    t.capture.config = s.capture.config := by
  cases moved with
  | read c r busy moved => exact Reader.moves_config moved
  | capture input c th moved =>
    rw [noteCapture_config]
    exact CaptureThread.moves_config moved
  | _ => rfl

/-! ## A small session -/

def small : Session UInt8 :=
  start smallHandle { mainloop := true, ctx := some .ready, thread := .current, ready := true }
    { sink := "s", monitor := "m" } 0

theorem small_fresh : Fresh small := ⟨_, _, _, _, smallHandle_created, rfl⟩

/-- From the head of the loop, the capture thread asks for a stream. -/
def openAttempt (refusal : Option String) : List (SessionLabel UInt8) :=
  [.capture .run, .capture (.resolve .timedOut (.rung { ok := true, value := "m" })),
    .capture .run, .capture (.openStream refusal)]

/-- From the read, it loses its stream, raises the flags and waits to retry. -/
def loseStream : List (SessionLabel UInt8) :=
  [.capture (.read [0, 0] (some "lost")), .capture .run, .tick 1000000000, .capture .run]

/-- From the read, it records a frame and goes back to the head. -/
def recordFrame (b : UInt8) : List (SessionLabel UInt8) :=
  [.capture (.read [b, b] none), .capture .run, .capture .run]

/-- A call that begins its pacing and is handed one frame a period later. -/
def readFirst : List (SessionLabel UInt8) :=
  [.call ⟨some [7, 7], 1, some ⟨0, 0, 0⟩, 1000⟩, .read, .read, .read, .tick 20000, .read, .read,
    .read, .read, .read]

end Session
end WebAudioCapture
