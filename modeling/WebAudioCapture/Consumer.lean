import WebAudioCapture.Lifetime
import WebAudioCapture.SessionEffects

/-!
# The consumer's side of a handle

One reader, and everyone else: others push, close, raise flags and change what
the reader does not own, at any time and under any clock. Every session and
every life of a handle is such a run, seen from its reader.
-/

namespace WebAudioCapture

variable {β : Type}

structure Consumer (β : Type) where
  capture : Capture β
  reader : Reader β := {}
  clock : Int := 0
  deriving DecidableEq, Repr

inductive ConsumerLabel (β : Type) where
  | clock (now : Int)
  | call (args : ReadArgs β)
  | read
  | push (frame : List β)
  | close
  | raise
  | aside (c : Capture β)
  deriving DecidableEq, Repr

/-- Everything of `other` but the configuration, the queue, the flags and the
pacing. -/
def Capture.besides (c other : Capture β) : Capture β :=
  { other with
    config := c.config, queue := c.queue, pendingFlags := c.pendingFlags
    nextDeadline := c.nextDeadline, deadlineValid := c.deadlineValid }

/-- What a step of a capture thread is to the reader. -/
def CaptureThread.seen (t : CaptureThread β) (c : Capture β) : ConsumerLabel β :=
  match t.pc with
  | .pushing => .push t.buffer
  | .flagOpenFailure | .flagReopen | .flagReadFailure => .raise
  | _ => .aside c

namespace Consumer

def step [Zero β] (s : Consumer β) : ConsumerLabel β → Option (Consumer β)
  | .clock now => some { s with clock := now }
  | .call args => (s.reader.call args).map fun reader => { s with reader }
  | .read =>
    (s.reader.step s.capture s.clock).map fun (capture, reader) => { s with capture, reader }
  | .push frame => (s.capture.pushFrame frame).map fun capture => { s with capture }
  | .close => some { s with capture := { s.capture with queue := s.capture.queue.close } }
  | .raise => some { s with capture := s.capture.raiseReopen }
  | .aside c => some { s with capture := s.capture.besides c }

/-- A handle `create` has just returned, seen from the reader. -/
def Fresh [Zero β] (s : Consumer β) : Prop :=
  ∃ c other clock, Capture.Created c ∧ s = { capture := c.besides other, clock }

/-- The consumer always asks for the info. -/
def Informed (_ : Consumer β) : ConsumerLabel β → Prop
  | .call args => args.info.isSome = true
  | _ => True

instance (s : Consumer β) (l : ConsumerLabel β) : Decidable (Informed s l) :=
  match l with
  | .call _ => inferInstanceAs (Decidable (_ = true))
  | .clock _ | .read | .push _ | .close | .raise | .aside _ => .isTrue trivial

/-- The small handle, running. -/
def small : Consumer UInt8 := { capture := { smallHandle with running := true } }

theorem small_fresh : Fresh small :=
  ⟨_, { smallHandle with running := true }, 0, smallHandle_created, rfl⟩

/-! ## What a step can do -/

inductive Moves [Zero β] (s : Consumer β) : ConsumerLabel β → Consumer β → Prop
  | clock (now : Int) : Moves s (.clock now) { s with clock := now }
  | call (args : ReadArgs β) (idle : s.reader.isIdle = true) : Moves s (.call args)
      { s with
        reader :=
          { pc := .entered, dst := args.dst, capacityFrames := args.capacityFrames
            info := args.info, timeoutMs := args.timeoutMs } }
  | read (c : Capture β) (r : Reader β) (moved : s.reader.Moves s.capture s.clock c r) :
      Moves s .read { s with capture := c, reader := r }
  | push (frame : List β) (queue : FrameQueue β) (discarded : Nat)
      (pushed : s.capture.queue.push frame = some (queue, discarded)) :
      Moves s (.push frame) { s with capture := { s.capture with queue } }
  | close :
      Moves s .close { s with capture := { s.capture with queue := s.capture.queue.close } }
  | raise : Moves s .raise { s with capture := s.capture.raiseReopen }
  | aside (c : Capture β) : Moves s (.aside c) { s with capture := s.capture.besides c }

theorem step_moves [Zero β] {s t : Consumer β} {l : ConsumerLabel β} (taken : s.step l = some t) :
    Moves s l t := by
  cases l with
  | clock now =>
    cases taken
    exact .clock now
  | call args =>
    simp only [step, Reader.call, Option.map_eq_some_iff] at taken
    obtain ⟨reader, called, rfl⟩ := taken
    split at called
    · rename_i idle
      cases called
      exact .call args idle
    · cases called
  | read =>
    simp only [step, Option.map_eq_some_iff, Prod.exists] at taken
    obtain ⟨c, r, moved, rfl⟩ := taken
    exact .read c r (Reader.step_moves moved)
  | push frame =>
    simp only [step, Capture.pushFrame, Option.map_map, Option.map_eq_some_iff, Prod.exists] at taken
    obtain ⟨queue, discarded, pushed, rfl⟩ := taken
    exact .push frame queue discarded pushed
  | close =>
    cases taken
    exact .close
  | raise =>
    cases taken
    exact .raise
  | aside c =>
    cases taken
    exact .aside c

theorem fresh_counted [Zero β] {s : Consumer β} (h : Fresh s) : s.capture.queue.Counted := by
  obtain ⟨c, other, clock, created, rfl⟩ := h
  obtain ⟨storage, shape, _⟩ := created.shape
  have frames := c.config.queueFrames.toNat_lt
  have queue : (c.besides other).queue = c.queue := rfl
  rw [queue, shape]
  exact ⟨by dsimp only; omega, by dsimp only; omega, Nat.zero_le _, by rintro ⟨⟩⟩

/-- A reader's step leaves the queue or pops it. -/
theorem read_counted [Zero β] {c c' : Capture β} {r r' : Reader β} {now : Int}
    (h : c.queue.Counted) (moved : r.Moves c now c' r') : c'.queue.Counted := by
  have popped : ∀ p, r.pop c = some (c', p) → c'.queue.Counted := by
    intro p popped
    obtain ⟨dst, queue, _, taken, rfl⟩ := Reader.pop_queue popped
    exact (FrameQueue.pop_counted h taken).1
  cases moved with
  | early next at_ fixed soon leads => rw [(Session.startPacing_shared c now).1]; exact h
  | reach at_ fixed passed => rw [(Session.startPacing_shared c now).1]; exact h
  | shut d p at_ taken closed => exact popped p taken
  | popWaiting d p wait at_ taken open_ => exact popped p taken
  | popDue d p at_ taken open_ => exact popped p taken
  | _ => exact h

theorem step_counted [Zero β] {s t : Consumer β} {l : ConsumerLabel β}
    (h : s.capture.queue.Counted) (moved : Moves s l t) : t.capture.queue.Counted := by
  cases moved with
  | read c r moved => exact read_counted h moved
  | push frame queue discarded pushed => exact (FrameQueue.push_counted h pushed).1
  | close => exact h.close
  | clock now => exact h
  | call args idle => exact h
  | raise => exact h
  | aside c => exact h

theorem reach_counted [Zero β] {ok : Consumer β → ConsumerLabel β → Prop} {s : Consumer β}
    (run : Steps.Reach step ok Fresh s) : s.capture.queue.Counted := by
  apply Steps.Reach.invariant (fun s => s.capture.queue.Counted) ?_ ?_ run
  · intro s fresh
    exact fresh_counted fresh
  · intro s l t _ counted _ taken
    exact step_counted counted (step_moves taken)

/-! ## Sessions and lives of a handle, seen from the reader -/

theorem aside_step [Zero β] {s : Consumer β} {c : Capture β} (same : s.capture.besides c = c) :
    s.step (.aside c) = some { s with capture := c } := by
  simp only [step, same]

theorem thread_seen [Zero β] {s : Consumer β} {c : Capture β} {t t' : CaptureThread β} {now : Int}
    (moved : t.Moves s.capture now c t') : s.step (t.seen c) = some { s with capture := c } := by
  cases moved with
  | raise next at_ =>
    obtain ⟨at_ | at_, _⟩ | ⟨at_, _⟩ := at_
    · rw [CaptureThread.seen, at_]; rfl
    · rw [CaptureThread.seen, at_]; rfl
    · rw [CaptureThread.seen, at_]; rfl
  | push c' at_ pushed =>
    rw [CaptureThread.seen, at_]
    simp only [step, pushed, Option.map_some]
  | loop at_ | unresolved _ _ _ at_ | resolve _ _ _ _ at_ | publish _ at_ | refuse _ _ at_
  | openStream _ _ at_ | read _ at_ | lose _ _ at_ | check at_ | schedule at_
  | checked _ _ _ _ at_ | retried _ _ at_ | leave at_ | notify at_ =>
    rw [CaptureThread.seen, at_]
    exact aside_step rfl

end Consumer

/-- A session, seen from its reader. -/
def Session.consumer (s : Session β) : Consumer β :=
  { capture := s.capture, reader := s.reader, clock := s.clock }

/-- What the step from `s` to `t` is to the reader. -/
def SessionLabel.seen (s t : Session β) : SessionLabel β → ConsumerLabel β
  | .tick _ => .clock t.clock
  | .call args => .call args
  | .read => .read
  | .capture _ => s.thread.seen t.capture
  | .closeQueue => .close
  | .requestStop | .callback _ => .aside t.capture

theorem Session.start_consumer [Zero β] {s : Session β} (h : Session.Fresh s) :
    Consumer.Fresh s.consumer := by
  obtain ⟨c, control, target, clock, created, rfl⟩ := h
  exact ⟨c, { c.publishFormat target with control, running := true, thread := some 0 }, clock,
    created, rfl⟩

theorem Session.noteCapture_consumer (s : Session β) (c : Capture β) (t : CaptureThread β) :
    (s.noteCapture c t).consumer = { s.consumer with capture := c } := by
  unfold noteCapture
  split <;> rfl

theorem Session.step_seen [Zero β] {s t : Session β} {l : SessionLabel β}
    (taken : s.step l = some t) : s.consumer.step (l.seen s t) = some t.consumer := by
  cases l with
  | call args =>
    simp only [step, Option.map_eq_some_iff] at taken
    obtain ⟨reader, called, rfl⟩ := taken
    simp only [SessionLabel.seen, Consumer.step, consumer, called, Option.map_some]
  | read =>
    simp only [step, Option.map_eq_some_iff, Prod.exists] at taken
    obtain ⟨c, r, moved, rfl⟩ := taken
    simp only [SessionLabel.seen, Consumer.step, consumer, noteRead, moved, Option.map_some]
  | capture input =>
    simp only [step, Option.map_eq_some_iff, Prod.exists] at taken
    obtain ⟨c, th, moved, rfl⟩ := taken
    have same : (s.noteCapture c th).capture = c :=
      congrArg Consumer.capture (noteCapture_consumer s c th)
    rw [noteCapture_consumer, SessionLabel.seen, same]
    exact Consumer.thread_seen (s := s.consumer) (CaptureThread.step_moves moved)
  | closeQueue =>
    simp only [step] at taken
    split at taken
    · cases taken
      rfl
    · cases taken
  | tick elapsed => cases taken; rfl
  | requestStop => cases taken; rfl
  | callback delivery => cases taken; rfl

/-- A life of a handle, seen from its reader. -/
def Lifetime.consumer (s : Lifetime β) : Consumer β :=
  { capture := s.capture, reader := s.reader, clock := s.clock }

theorem Lifetime.start_consumer [Zero β] {s : Lifetime β} (h : Lifetime.Fresh s) :
    Consumer.Fresh s.consumer := by
  obtain ⟨c, clock, created, rfl⟩ := h
  exact ⟨c, c, clock, created, rfl⟩

theorem Lifetime.step_seen [Zero β] {s t : Lifetime β} {l : LifetimeLabel β}
    (taken : s.step l = some t) :
    t.consumer = s.consumer ∨ ∃ k, s.consumer.step k = some t.consumer := by
  have aside : ∀ c : Capture β, s.capture.besides c = c →
      ∃ k, s.consumer.step k = some { s.consumer with capture := c } :=
    fun c same => ⟨.aside c, Consumer.aside_step same⟩
  cases step_moves taken with
  | tick elapsed => exact .inr ⟨.clock (s.clock + elapsed), rfl⟩
  | thread i input th th' c at_ moved =>
    exact .inr ⟨th.seen c, Consumer.thread_seen (s := s.consumer) moved⟩
  | read args r free entered =>
    simp only [step, free, if_true, Option.map_eq_some_iff] at taken
    obtain ⟨r, called, same⟩ := taken
    cases same
    exact .inr ⟨.call args, by simp only [Consumer.step, consumer, called, Option.map_some]⟩
  | reads c r at_ stepped =>
    exact .inr ⟨.read, by simp only [Consumer.step, consumer, stepped, Option.map_some]⟩
  | connect env control status at_ made =>
    unfold connected
    split
    · exact .inr (aside _ rfl)
    · exact .inr (aside _ rfl)
  | resolve defaultSink monitor found at_ answer =>
    obtain ⟨control, _ | target⟩ := found
    · exact .inr (aside _ rfl)
    · exact .inr (aside _ rfl)
  | retreat stopping control at_ down => exact .inr (aside _ rfl)
  | disconnect stopping control at_ down => exact .inr (aside _ rfl)
  | callback delivery => exact .inr (aside _ rfl)
  | publish target at_ => exact .inr (aside _ rfl)
  | arm at_ => exact .inr (aside _ rfl)
  | raise at_ => exact .inr (aside _ rfl)
  | spawn at_ unused => exact .inr (aside _ rfl)
  | request at_ => exact .inr (aside _ rfl)
  | close at_ => exact .inr ⟨.close, rfl⟩
  | abandon until_ at_ late => exact .inr (aside s.abandon.capture rfl)
  | join i at_ used finished => exact .inr (aside s.detach.capture rfl)
  | lower at_ => exact .inr (aside _ rfl)
  | start | stop | refuse | begin | crash | overwrite | pass | wait | see => exact .inl rfl

/-- What holds of every run of a consumer holds of every session and of every
life of a handle. -/
theorem Session.reach_consumer [Zero β] {ok : Session β → SessionLabel β → Prop} {s : Session β}
    (run : Steps.Reach Session.step ok Session.Fresh s) :
    Steps.Reach Consumer.step Steps.Any Consumer.Fresh s.consumer := by
  apply Steps.Reach.simulate consumer ?_ ?_ run
  · intro s fresh
    exact start_consumer fresh
  · intro s l t _ taken
    exact .inr ⟨_, step_seen taken⟩

theorem Lifetime.reach_consumer [Zero β] {ok : Lifetime β → LifetimeLabel β → Prop}
    {s : Lifetime β} (run : Steps.Reach Lifetime.step ok Lifetime.Fresh s) :
    Steps.Reach Consumer.step Steps.Any Consumer.Fresh s.consumer := by
  apply Steps.Reach.simulate consumer ?_ ?_ run
  · intro s fresh
    exact start_consumer fresh
  · intro s l t _ taken
    exact step_seen taken

end WebAudioCapture
