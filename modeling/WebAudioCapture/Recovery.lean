import WebAudioCapture.ControlRestart
import WebAudioCapture.Lifetime
import WebAudioCapture.StreamTarget

/-!
# Recovering a stream

A stream that fails is opened again, on a target resolved again, as long as the
connection to the server stands. The connection itself is never made again
within a session: once its context has failed or terminated, every resolve
fails, and the retries go on for nothing.
-/

namespace WebAudioCapture

variable {β : Type}

def Delivery.breaks (d : Delivery) : Bool := d.state == .failed || d.state == .terminated

namespace Control

/-- The connection has been made, and nothing has been heard of its end. -/
def Connected (c : Control) : Prop := c.ctx.isSome = true ∧ c.isReady = true

/-- The context has failed or terminated. -/
def broken (c : Control) : Bool := c.failed || c.terminated

/-- A connected control resolves whatever the server answers well. -/
theorem resolveTarget_answered {c : Control} (h : c.Connected) (requestedSink : String) :
    ∃ control sink, c.resolveTarget requestedSink (.rung { ok := true, value := "sink" })
      (.rung { ok := true, value := "monitor" }) = (control, some { sink, monitor := "monitor" }) := by
  obtain ⟨some, ready⟩ := h
  have up : (c.ctx.isNone || !c.isReady) = false := by
    obtain ⟨state, at_⟩ := Option.isSome_iff_exists.mp some
    rw [ready, at_]
    rfl
  unfold resolveTarget
  rw [up, if_neg Bool.false_ne_true]
  split
  · exact ⟨c, "sink", rfl⟩
  · exact ⟨c, requestedSink, rfl⟩

/-- One whose context has failed or terminated resolves nothing. -/
theorem resolveTarget_broken {c : Control} (h : c.broken = true) (requestedSink : String)
    (defaultSink monitor : QueryAnswer) :
    (c.resolveTarget requestedSink defaultSink monitor).2 = none := by
  have down : (c.ctx.isNone || !c.isReady) = true := by
    have unready : c.isReady = false := by
      unfold broken at h
      unfold isReady
      cases failed : c.failed with
      | true => rw [Bool.not_true, Bool.and_false, Bool.false_and]
      | false =>
        rw [failed, Bool.false_or] at h
        rw [h, Bool.not_true, Bool.and_false]
    rw [unready, Bool.not_false, Bool.or_true]
  unfold resolveTarget
  rw [down, if_pos rfl]

end Control

/-- A configuration streams can be opened with. -/
structure Config.Openable (config : Config) : Prop where
  channels : channelsSupported config.channels = true
  frameSamples : config.frameSamples ≠ 0
  format : Capture.supportedFormat config.format = true

theorem Capture.Created.openable [Zero β] {c : Capture β} (h : Created c) : c.config.Openable := by
  obtain ⟨_, _, _, _, nonzero⟩ := h.shape
  obtain ⟨channels, format⟩ := h.accepted
  exact ⟨channels, nonzero, format⟩

theorem buildChannelMap_supported {channels : UInt32} (h : channelsSupported channels = true) :
    ∃ channelMap, buildChannelMap channels = some channelMap := by
  simp only [channelsSupported, Bool.or_eq_true, beq_iff_eq] at h
  obtain ((rfl | rfl) | rfl) | rfl := h
  · exact ⟨_, rfl⟩
  · exact ⟨_, rfl⟩
  · exact ⟨_, rfl⟩
  · exact ⟨_, rfl⟩

theorem mapSampleFormat_supported {format : SampleFormat}
    (h : Capture.supportedFormat format = true) : ∃ mapped, mapSampleFormat format = some mapped := by
  cases format with
  | other value => cases h
  | _ => exact ⟨_, rfl⟩

/-- The server need not refuse a stream. -/
theorem Mic.openOn_granted {config : Config} (h : config.Openable) {monitor : String}
    (named : monitor.isEmpty = false) : ∃ mic, openOn monitor config.micFormat none = .ok mic := by
  obtain ⟨channelMap, positions⟩ := buildChannelMap_supported h.channels
  obtain ⟨⟨sampleFormat, bytes⟩, mapped⟩ := mapSampleFormat_supported h.format
  have unnamed : ¬monitor.isEmpty = true := Bool.eq_false_iff.mp named
  have unsupported : ¬(!channelsSupported config.micFormat.channels) = true := by
    rw [show channelsSupported config.micFormat.channels = true from h.channels]
    exact Bool.false_ne_true
  have unframed : ¬config.micFormat.frameSamples = 0 := h.frameSamples
  unfold openOn
  rw [if_neg unnamed, if_neg unsupported, if_neg unframed,
    show mapSampleFormat config.micFormat.format = some (sampleFormat, bytes) from mapped]
  dsimp only
  rw [show buildChannelMap config.micFormat.channels = some channelMap from positions]
  exact ⟨_, rfl⟩

theorem CaptureThread.moves_control {t t' : CaptureThread β} {c c' : Capture β} {now : Int}
    (moved : t.Moves c now c' t') : ∃ e, c'.control = c.control.setError e := by
  cases moved with
  | unresolved control defaultSink monitor at_ found =>
    obtain ⟨e, same⟩ := c.control.resolveTarget_control c.config.requestedSink defaultSink monitor
    rw [found] at same
    exact ⟨e, same⟩
  | resolve control target defaultSink monitor at_ found =>
    obtain ⟨e, same⟩ := c.control.resolveTarget_control c.config.requestedSink defaultSink monitor
    rw [found] at same
    exact ⟨e, same⟩
  | push c' at_ pushed =>
    obtain ⟨_, _, rfl⟩ := Option.map_eq_some_iff.mp pushed
    exact ⟨c.control.error, rfl⟩
  | checked control found defaultSink monitor at_ answer =>
    obtain ⟨e, same⟩ := c.control.resolveTarget_control "" defaultSink monitor
    rw [answer] at same
    exact ⟨e, same⟩
  | _ => exact ⟨c.control.error, rfl⟩

namespace Session

/-- What the server, the clock and the capture thread do. -/
def Serving (_ : Session β) : SessionLabel β → Prop
  | .tick _ | .capture _ | .callback _ => True
  | .call _ | .read | .requestStop | .closeQueue => False

/-- The server can still go on so that the thread resolves a target again and
opens a stream on it. -/
def Recoverable [Zero β] (s : Session β) : Prop :=
  ∃ t defaultSink monitor u target v,
    Steps.Reach step Serving (· = s) t ∧ t.thread.pc = .resolving ∧
    t.step (.capture (.resolve defaultSink monitor)) = some u ∧
    u.thread.pc = .publishing target ∧
    Steps.Reach step Serving (· = u) v ∧ v.opens = u.opens + 1

/-- Whether a callback has reported the end of the connection. -/
def noteBroken (_ : Session β) (l : SessionLabel β) (_ : Session β) (broken : Bool) : Bool :=
  match l with
  | .callback delivery => broken || delivery.breaks
  | _ => broken

/-- The start of a session over a connection that stands. -/
def Linked [Zero β] (s : Session β) : Prop :=
  ∃ c control target clock, c.config.Openable ∧ c.stopRequested = false ∧ control.Connected ∧
    s = start c control target clock

end Session

/-! ## The way to the next resolve -/

theorem Mic.openOn_refused (monitor : String) (format : MicFormat) (strerror : String) :
    ∃ message, openOn monitor format (some strerror) = .error message := by
  cases answer : openOn monitor format (some strerror) with
  | error message => exact ⟨message, rfl⟩
  | ok mic =>
    unfold openOn at answer
    repeat' split at answer
    all_goals cases answer
    rename_i granted
    cases granted

namespace CaptureThread

/-- How many steps the thread is from its next resolve, if its stream fails. -/
def distance (t : CaptureThread β) (now : Int) : Nat :=
  match t.pc with
  | .resolving => 0
  | .head => if t.mic.isNone then 1 else 6
  | .retrying until_ => if until_ ≤ now then 2 else 3
  | .flagOpenFailure | .flagReadFailure => 4
  | .reading | .opening _ => 5
  | .publishing _ | .flagReopen => 6
  | .reresolving => 7
  | .scheduling => 8
  | .rechecking => 9
  | .pushing => 10
  | .exiting | .notifying | .finished => 0

theorem distance_head {t : CaptureThread β} {now : Int} (at_ : t.pc = .head) :
    t.distance now ≤ 6 := by
  unfold distance
  rw [at_]
  dsimp only
  split
  · decide
  · exact Nat.le_refl 6

theorem distance_retry (t : CaptureThread β) (now now' : Int) : (t.retry now).distance now' ≤ 3 := by
  unfold distance retry goto
  dsimp only
  split
  · decide
  · exact Nat.le_refl 3

/-- A thread that need not wait takes a step towards its next resolve. -/
theorem nearer {t : CaptureThread β} {c : Capture β} {now : Int} (consistent : t.Consistent)
    (looping : t.inLoop = true) (going : c.stopRequested = false) (away : t.pc ≠ .resolving)
    (whole : t.pc = .pushing → (c.pushFrame t.buffer).isSome = true)
    (late : ∀ until_, t.pc = .retrying until_ → until_ ≤ now) :
    ∃ input c' t', t.step c now input = some (c', t') ∧ t'.distance now < t.distance now ∧
      t'.pc ≠ .pushing := by
  cases at_ : t.pc with
  | head =>
    refine ⟨.run, c, t.goto (t.top c), by simp only [step, at_], ?_, ?_⟩
    · cases mic : t.mic with
      | none =>
        simp only [distance, goto, top, at_, going, mic, Option.isNone_none, Bool.false_eq_true,
          if_true, if_false]
        decide
      | some mic' =>
        simp only [distance, goto, top, at_, going, mic, Option.isNone_some, Bool.false_eq_true,
          if_false]
        decide
    · obtain ⟨next, _⟩ | next | next := t.top_cases c
      · rw [goto, next]; rintro ⟨⟩
      · rw [goto, next]; rintro ⟨⟩
      · rw [goto, next]; rintro ⟨⟩
  | resolving => exact absurd at_ away
  | publishing target =>
    refine ⟨.run, c.publishFormat target, t.goto (.opening target), by simp only [step, at_], ?_,
      by rintro ⟨⟩⟩
    simp only [distance, goto, at_]
    decide
  | opening target =>
    obtain ⟨message, refused⟩ := Mic.openOn_refused target.monitor c.config.micFormat "refused"
    refine ⟨.openStream (some "refused"), c.setError message, t.goto .flagOpenFailure, ?_, ?_,
      by rintro ⟨⟩⟩
    · simp only [step, at_, refused, opened]
    · simp only [distance, goto, at_]
      decide
  | flagOpenFailure =>
    refine ⟨.run, c.raiseReopen, t.retry now, by simp only [step, at_], ?_, by rintro ⟨⟩⟩
    have := t.distance_retry now now
    simp only [distance, at_] at this ⊢
    omega
  | flagReopen =>
    refine ⟨.run, c.raiseReopen, t.goto .reading, by simp only [step, at_], ?_, by rintro ⟨⟩⟩
    simp only [distance, goto, at_]
    decide
  | reading =>
    have live : t.mic.isSome = true := consistent true (at_ ▸ rfl)
    refine ⟨.read t.buffer (some "failed"), c.setError (Mic.readError "failed"),
      { t with mic := none, pc := .flagReadFailure }, ?_, ?_, by rintro ⟨⟩⟩
    · simp only [step, at_]
      exact if_pos ⟨live, trivial⟩
    · simp only [distance, at_]
      decide
  | flagReadFailure =>
    refine ⟨.run, c.raiseReopen, t.retry now, by simp only [step, at_], ?_, by rintro ⟨⟩⟩
    have := t.distance_retry now now
    simp only [distance, at_] at this ⊢
    omega
  | pushing =>
    obtain ⟨c', pushed⟩ := Option.isSome_iff_exists.mp (whole at_)
    refine ⟨.run, c', t.goto .rechecking, ?_, ?_, by rintro ⟨⟩⟩
    · simp only [step, at_, pushed, Option.map_some]
    · simp only [distance, goto, at_]
      decide
  | rechecking =>
    refine ⟨.run, c, t.goto (if sinkCheckDue c now then .scheduling else .head),
      by simp only [step, at_], ?_, ?_⟩
    · have back : (t.goto .head).distance now ≤ 6 := distance_head rfl
      rw [show t.distance now = 9 by simp only [distance, at_]]
      by_cases due : sinkCheckDue c now = true
      · rw [if_pos due]
        exact Nat.lt_succ_self 8
      · rw [if_neg due]
        omega
    · split
      · rintro ⟨⟩
      · rintro ⟨⟩
  | scheduling =>
    refine ⟨.run, { c with nextSinkCheck := c.config.recheckAfter now }, t.goto .reresolving,
      by simp only [step, at_], ?_, by rintro ⟨⟩⟩
    simp only [distance, goto, at_]
    decide
  | reresolving =>
    let after := t.checked c (c.control.resolveTarget "" .timedOut .timedOut)
    refine ⟨.resolve .timedOut .timedOut, after.1, after.2, by simp only [step, at_, after], ?_,
      by rintro ⟨⟩⟩
    have back : after.2.distance now ≤ 6 := distance_head rfl
    rw [show t.distance now = 7 by simp only [distance, at_]]
    omega
  | retrying until_ =>
    have closed : t.mic = none := consistent.closed (at_ ▸ rfl)
    refine ⟨.run, c, t.goto .head, ?_, ?_, by rintro ⟨⟩⟩
    · simp only [step, at_, going, Bool.false_eq_true, if_false, if_pos (late until_ at_)]
    · simp only [distance, goto, at_, closed, Option.isNone_none, if_true, if_pos (late until_ at_)]
      decide
  | exiting | notifying | finished =>
    rw [inLoop, at_] at looping
    cases looping

end CaptureThread

/-! ## What the server decides -/

theorem Control.deliver_link (c : Control) (d : Delivery) :
    (c.deliver d).ctx.isSome = c.ctx.isSome ∧ (c.ready = true → (c.deliver d).ready = true) ∧
      (c.deliver d).broken = (c.broken || d.breaks) := by
  have flags : ∀ (c : Control) (state : ContextState), (c.stateCallback state).ctx = c.ctx ∧
      (c.ready = true → (c.stateCallback state).ready = true) ∧ (c.stateCallback state).broken =
        (c.broken || (state == .failed || state == .terminated)) := by
    intro c state
    cases state with
    | ready => exact ⟨rfl, fun _ => rfl, (Bool.or_false _).symm⟩
    | failed => exact ⟨rfl, id, (Bool.or_true _).symm⟩
    | terminated => exact ⟨rfl, id, (Bool.or_true _).trans (Bool.or_true _).symm⟩
    | _ => exact ⟨rfl, id, (Bool.or_false _).symm⟩
  cases d with
  | current state =>
    obtain ⟨context, ready, breaks⟩ := flags { c with ctx := c.ctx.map fun _ => state } state
    exact ⟨(congrArg Option.isSome context).trans Option.isSome_map, ready, breaks⟩
  | stale state =>
    obtain ⟨context, ready, breaks⟩ := flags c state
    exact ⟨congrArg Option.isSome context, ready, breaks⟩

namespace Session

/-- What holds of every session over a connection that stood at its start. -/
structure Followed (s : Session β) (broken : Bool) : Prop where
  looping : s.capture.stopRequested = false → s.thread.inLoop = true
  consistent : s.thread.Consistent
  openable : s.capture.config.Openable
  context : s.capture.control.ctx.isSome = true
  ready : s.capture.control.ready = true
  broken : s.capture.control.broken = broken

theorem Followed.connected {s : Session β} {broken : Bool} (h : Followed s broken)
    (stands : broken = false) : s.capture.control.Connected := by
  have whole := h.broken
  rw [stands, Control.broken, Bool.or_eq_false_iff] at whole
  refine ⟨h.context, ?_⟩
  rw [Control.isReady, h.ready, whole.1, whole.2]
  rfl

/-- A step that leaves the connection as it was, but for its error text. -/
theorem Followed.frame {s t : Session β} {broken : Bool} (h : Followed s broken)
    (looping : t.capture.stopRequested = false → t.thread.inLoop = true)
    (consistent : t.thread.Consistent) (config : t.capture.config = s.capture.config)
    (control : ∃ e, t.capture.control = s.capture.control.setError e) : Followed t broken := by
  obtain ⟨e, same⟩ := control
  refine ⟨looping, consistent, config ▸ h.openable, ?_, ?_, ?_⟩
  · rw [same]
    exact h.context
  · rw [same]
    exact h.ready
  · rw [same]
    exact h.broken

theorem step_followed [Zero β] {s t : Session β} {l : SessionLabel β} {broken : Bool}
    (h : Followed s broken) (moved : Moves s l t) : Followed t (s.noteBroken l t broken) := by
  have config := moves_config moved
  cases moved with
  | tick elapsed => exact h.frame h.looping h.consistent rfl ⟨_, rfl⟩
  | call args idle => exact h.frame h.looping h.consistent rfl ⟨_, rfl⟩
  | read c r busy moved =>
    obtain ⟨queue, flags, deadline, valid, shape⟩ := Reader.moves_shape moved
    have capture : (s.noteRead c r).capture = c := rfl
    refine h.frame ?_ h.consistent config ⟨s.capture.control.error, ?_⟩
    · rw [capture, shape]
      exact h.looping
    · rw [capture, shape]
      rfl
  | capture input c th moved =>
    have asked := (CaptureThread.moves_undisturbed moved).1.stopRequested
    refine h.frame ?_ ?_ config ?_
    · rw [noteCapture_capture, noteCapture_thread, asked]
      intro going
      exact CaptureThread.moves_inLoop moved going (h.looping going)
    · rw [noteCapture_thread]
      exact CaptureThread.moves_consistent h.consistent moved
    · rw [noteCapture_capture]
      exact CaptureThread.moves_control moved
  | requestStop => exact h.frame (by rintro ⟨⟩) h.consistent rfl ⟨_, rfl⟩
  | closeQueue asked => exact h.frame h.looping h.consistent rfl ⟨_, rfl⟩
  | callback delivery =>
    obtain ⟨context, ready, breaks⟩ := s.capture.control.deliver_link delivery
    refine ⟨h.looping, h.consistent, h.openable, context.trans h.context, ready h.ready, ?_⟩
    rw [breaks, h.broken]
    rfl

theorem watched_followed [Zero β] {p : Session β × Bool}
    (run : Steps.Watched step noteBroken Steps.Any Linked false p) : Followed p.1 p.2 := by
  apply Steps.Watched.invariant Followed ?_ ?_ run
  · rintro s ⟨c, control, target, clock, openable, going, ⟨context, ready⟩, rfl⟩
    have flags : control.ready = true ∧ control.broken = false := by
      simp only [Control.isReady, Bool.and_eq_true, Bool.not_eq_true'] at ready
      exact ⟨ready.1.1, by rw [Control.broken, ready.1.2, ready.2]; rfl⟩
    exact ⟨fun _ => rfl, by rintro b ⟨⟩, openable, context, flags.1, flags.2⟩
  · intro s l t broken _ followed _ taken
    exact step_followed followed (step_moves taken)

section
variable [Zero β] {s t : Session β}

theorem capture_steps {c : Capture β} {th : CaptureThread β} {input : CaptureInput β}
    (stepped : s.thread.step s.capture s.clock input = some (c, th)) :
    s.step (.capture input) = some (s.noteCapture c th) := by
  simp only [step, stepped, Option.map_some]

omit [Zero β] in
theorem noteCapture_clock (c : Capture β) (th : CaptureThread β) :
    (s.noteCapture c th).clock = s.clock := by
  unfold noteCapture
  split <;> rfl

/-- What a serving run of a session that stands ends in, as far as it matters
here. -/
structure Standing (s : Session β) : Prop where
  followed : Followed s false
  going : s.capture.stopRequested = false

theorem Standing.tick (h : Standing s) (elapsed : Nat) :
    Standing { s with clock := s.clock + elapsed } :=
  ⟨step_followed h.followed (.tick elapsed), h.going⟩

theorem Standing.capture {c : Capture β} {th : CaptureThread β} {input : CaptureInput β}
    (h : Standing s) (stepped : s.thread.step s.capture s.clock input = some (c, th)) :
    Standing (s.noteCapture c th) := by
  have moved := CaptureThread.step_moves stepped
  refine ⟨step_followed h.followed (.capture input c th moved), ?_⟩
  rw [noteCapture_capture, (CaptureThread.moves_undisturbed moved).1.stopRequested]
  exact h.going

/-- If its stream fails, the thread comes to its next resolve. -/
theorem reach_resolve (h : Standing s)
    (whole : s.thread.pc = .pushing → (s.capture.pushFrame s.thread.buffer).isSome = true) :
    ∃ t, Steps.Reach step Serving (· = s) t ∧ t.thread.pc = .resolving ∧ Standing t := by
  -- on how far the thread is from it
  induction far : s.thread.distance s.clock using Nat.strong_induction_on generalizing s with
  | _ n ih =>
    by_cases there : s.thread.pc = .resolving
    · exact ⟨s, .start rfl, there, h⟩
    · by_cases waits : ∃ until_, s.thread.pc = .retrying until_ ∧ s.clock < until_
      · obtain ⟨until_, at_, early⟩ := waits
        have passed : until_ ≤ s.clock + (until_ - s.clock).toNat := by omega
        obtain ⟨t, run, resolving, standing⟩ :=
          ih (s.thread.distance (s.clock + (until_ - s.clock).toNat))
            (by
              rw [← far]
              simp only [CaptureThread.distance, at_, if_pos passed, if_neg (Int.not_le.mpr early)]
              decide)
            (h.tick (until_ - s.clock).toNat)
            (by
              intro pushing
              rw [at_] at pushing
              cases pushing)
            rfl
        exact ⟨t, .after (l := .tick (until_ - s.clock).toNat) trivial rfl run, resolving, standing⟩
      · have late : ∀ until_, s.thread.pc = .retrying until_ → until_ ≤ s.clock :=
          fun until_ at_ => Int.not_lt.mp fun early => waits ⟨until_, at_, early⟩
        obtain ⟨input, c, th, stepped, nearer, elsewhere⟩ :=
          CaptureThread.nearer h.followed.consistent (h.followed.looping h.going) h.going there whole
            late
        obtain ⟨t, run, resolving, standing⟩ :=
          ih (th.distance s.clock) (far ▸ nearer) (h.capture stepped)
            (by
              rw [noteCapture_thread]
              exact fun pushing => absurd pushing elsewhere)
            (by rw [noteCapture_thread, noteCapture_clock])
        exact ⟨t, .after (l := .capture input) trivial (capture_steps stepped) run, resolving, standing⟩

/-- A resolve answered and a stream granted make a new stream. -/
theorem Standing.reopens (h : Standing s) (at_ : s.thread.pc = .resolving) :
    ∃ defaultSink monitor u target v, s.step (.capture (.resolve defaultSink monitor)) = some u ∧
      u.thread.pc = .publishing target ∧ Steps.Reach step Serving (· = u) v ∧
      v.opens = u.opens + 1 := by
  obtain ⟨control, sink, found⟩ := Control.resolveTarget_answered (h.followed.connected rfl)
    s.capture.config.requestedSink
  let target : Target := { sink, monitor := "monitor" }
  obtain ⟨mic, granted⟩ :=
    Mic.openOn_granted h.followed.openable (show "monitor".isEmpty = false from rfl)
  let u : Session β :=
    { s with capture := { s.capture with control }, thread := s.thread.goto (.publishing target) }
  let w : Session β :=
    { u with capture := u.capture.publishFormat target, thread := u.thread.goto (.opening target) }
  have resolved : s.step (.capture (.resolve (.rung { ok := true, value := "sink" })
      (.rung { ok := true, value := "monitor" }))) = some u := by
    simp only [step, CaptureThread.step, at_, found, CaptureThread.resolved, Option.map_some,
      noteCapture, u, target]
  have published : u.step (.capture .run) = some w := rfl
  have opened : w.thread.step w.capture w.clock (.openStream none) =
      some (w.thread.opened w.capture target w.clock (.ok mic)) :=
    congrArg (fun answer => some (w.thread.opened w.capture target w.clock answer)) granted
  let after := w.thread.opened w.capture target w.clock (.ok mic)
  refine ⟨_, _, u, target, w.noteCapture after.1 after.2, resolved, rfl, ?_, rfl⟩
  apply Steps.Reach.after (l := .capture .run) trivial published
  exact Steps.Reach.after (l := .capture (.openStream none)) trivial (capture_steps opened) (.start rfl)

/-- Once the connection has ended, every resolve fails. -/
theorem broken_unrecoverable (h : Followed s true) : ¬ Recoverable s := by
  rintro ⟨t, defaultSink, monitor, u, target, v, run, at_, taken, found, _⟩
  have broken : Followed t true := by
    apply Steps.Reach.invariant (fun t => Followed t true) ?_ ?_ run
    · rintro _ rfl
      exact h
    · intro s l t _ followed _ taken
      have after := step_followed followed (step_moves taken)
      cases l with
      | callback delivery => exact after
      | _ => exact after
  simp only [step, Option.map_eq_some_iff, Prod.exists] at taken
  obtain ⟨c, th, stepped, rfl⟩ := taken
  obtain ⟨defaultSink', monitor', _, after⟩ := CaptureThread.step_resolving at_ stepped
  have none := Control.resolveTarget_broken broken.broken t.capture.config.requestedSink defaultSink'
    monitor'
  cases result : t.capture.control.resolveTarget t.capture.config.requestedSink defaultSink'
      monitor' with
  | mk control target' =>
    rw [result] at none after
    cases (none : target' = Option.none)
    have pc := congrArg (CaptureThread.pc ∘ Prod.snd) after
    rw [noteCapture_thread] at found
    rw [Function.comp_apply, Function.comp_apply, found] at pc
    cases pc

theorem pushing_stuck {input : CaptureInput β} (at_ : s.thread.pc = .pushing)
    (stuck : s.capture.pushFrame s.thread.buffer = none) : s.step (.capture input) = none := by
  unfold step CaptureThread.step
  rw [at_]
  cases input with
  | run => simp only [stuck, Option.map_none]
  | _ => rfl

/-- A thread that cannot finish its push goes nowhere. -/
theorem stuck_unrecoverable (at_ : s.thread.pc = .pushing)
    (stuck : s.capture.pushFrame s.thread.buffer = none) : ¬ Recoverable s := by
  rintro ⟨t, defaultSink, monitor, u, target, v, run, resolving, _⟩
  have stays : t.thread = s.thread ∧ t.capture.queue = s.capture.queue := by
    apply Steps.Reach.invariant
      (fun t : Session β => t.thread = s.thread ∧ t.capture.queue = s.capture.queue) ?_ ?_ run
    · rintro _ rfl
      exact ⟨rfl, rfl⟩
    · rintro t l u _ ⟨thread, queue⟩ serving taken
      cases l with
      | tick elapsed =>
        cases taken
        exact ⟨thread, queue⟩
      | callback delivery =>
        cases taken
        exact ⟨thread, queue⟩
      | capture input =>
        have still : t.capture.pushFrame t.thread.buffer = none := by
          rw [Capture.pushFrame, Option.map_eq_none_iff] at stuck ⊢
          rw [thread, queue]
          exact stuck
        rw [pushing_stuck (thread ▸ at_) still] at taken
        cases taken
      | call args => exact serving.elim
      | read => exact serving.elim
      | requestStop => exact serving.elim
      | closeQueue => exact serving.elim
  rw [stays.1, at_] at resolving
  cases resolving

end

/-- A session that nobody has asked to stop can come by a stream again exactly
when no callback has reported the end of its connection (and its thread is not
in the middle of a push outside the queue's storage). -/
theorem recoverable_iff_unbroken [Zero β] (p : Session β × Bool)
    (run : Steps.Watched step noteBroken Steps.Any Linked false p)
    (going : p.1.capture.stopRequested = false) :
    Recoverable p.1 ↔ p.2 = false ∧ (p.1.thread.pc = .pushing →
      (p.1.capture.pushFrame p.1.thread.buffer).isSome = true) := by
  have followed := watched_followed run
  constructor
  · intro recoverable
    constructor
    · apply Bool.eq_false_iff.mpr
      intro broken
      rw [broken] at followed
      exact broken_unrecoverable followed recoverable
    · intro at_
      apply Option.isSome_iff_ne_none.mpr
      intro stuck
      exact stuck_unrecoverable at_ stuck recoverable
  · rintro ⟨stands, whole⟩
    rw [stands] at followed
    obtain ⟨t, reached, at_, standing⟩ := reach_resolve ⟨followed, going⟩ whole
    obtain ⟨defaultSink, monitor, u, target, v, taken, found, after, opens⟩ := standing.reopens at_
    exact ⟨t, defaultSink, monitor, u, target, v, reached, at_, taken, found, after, opens⟩

theorem small_linked : Linked small :=
  ⟨_, _, _, _, smallHandle_created.openable, rfl, ⟨rfl, rfl⟩, rfl⟩

/-- A stream that fails, under a connection that stands. -/
theorem recoverable_after_failure : ∃ p : Session UInt8 × Bool,
    Steps.Watched step noteBroken Steps.Any Linked false p ∧
    p.1.thread.pc = .flagReadFailure ∧ Recoverable p.1 := by
  have ran : (Steps.exec (Steps.watch step noteBroken) (small, false)
      (openAttempt none ++ [.capture (.read [0, 0] (some "lost"))])).map
      (fun p => (p.1.thread.pc, p.1.capture.stopRequested, p.2)) =
      some (.flagReadFailure, false, false) := by rfl
  obtain ⟨p, ran, seen⟩ := Option.map_eq_some_iff.mp ran
  obtain ⟨at_, seen⟩ := Prod.mk.inj seen
  obtain ⟨going, stands⟩ := Prod.mk.inj seen
  have run : Steps.Watched step noteBroken Steps.Any Linked false p :=
    Steps.Reach.exec (.start ⟨small_linked, rfl⟩) (Steps.meets_any ..) ran
  have whole : p.1.thread.pc = .pushing →
      (p.1.capture.pushFrame p.1.thread.buffer).isSome = true := by
    rw [at_]
    rintro ⟨⟩
  exact ⟨p, run, at_, (recoverable_iff_unbroken p run going).mpr ⟨stands, whole⟩⟩

/-- The context fails while the thread is about to resolve its target. -/
theorem context_failure_is_final : ∃ s : Session UInt8, Steps.Reach step Steps.Any Linked s ∧
    s.capture.stopRequested = false ∧ s.thread.inLoop = true ∧ ¬ Recoverable s := by
  have ran : (Steps.exec (Steps.watch step noteBroken) (small, false)
      [.capture .run, .callback (.current .failed)]).map
      (fun p => (p.1.capture.stopRequested, p.1.thread.inLoop, p.2)) = some (false, true, true) := by
    rfl
  obtain ⟨p, ran, seen⟩ := Option.map_eq_some_iff.mp ran
  obtain ⟨going, seen⟩ := Prod.mk.inj seen
  obtain ⟨looping, broken⟩ := Prod.mk.inj seen
  have run : Steps.Watched step noteBroken Steps.Any Linked false p :=
    Steps.Reach.exec (.start ⟨small_linked, rfl⟩) (Steps.meets_any ..) ran
  have followed := watched_followed run
  rw [broken] at followed
  exact ⟨p.1, Steps.Watched.reach run, going, looping, broken_unrecoverable followed⟩

end Session
end WebAudioCapture
