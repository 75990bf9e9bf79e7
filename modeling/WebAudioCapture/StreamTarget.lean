import WebAudioCapture.SessionInvariants

/-!
# Which stream is recorded

The stream being read, the monitor remembered for it and the published format
all come from the target last resolved for opening one. An open stream is let
go of by a failed read, by a sink check that finds another monitor and by the
end of the thread, and by nothing else.
-/

namespace WebAudioCapture

variable {β : Type}

/-- A pinned sink is the one resolved. -/
theorem Control.resolveTarget_pinned {c c' : Control} {requestedSink : String}
    {defaultSink monitor : QueryAnswer} {target : Target}
    (found : c.resolveTarget requestedSink defaultSink monitor = (c', some target))
    (pinned : requestedSink ≠ "") : target.sink = requestedSink := by
  have given : requestedSink.isEmpty = false := by
    apply Bool.eq_false_iff.mpr
    intro empty
    exact pinned (String.isEmpty_iff.mp empty)
  unfold resolveTarget at found
  split at found
  · cases found
  · rw [given, if_neg Bool.false_ne_true] at found
    unfold resolveMonitor at found
    split at found
    · cases found
    · cases found
      rfl

/-- The format published is that of a stream on `target`. -/
def Capture.Publishes (c : Capture β) (target : Target) : Prop :=
  c.formatInfo.sinkName = nameBytes target.sink ∧
  c.formatInfo.monitorName = nameBytes target.monitor

/-- The target is on the requested sink, if one is requested. -/
def Config.Requests (config : Config) (target : Target) : Prop :=
  config.requestedSink ≠ "" → target.sink = config.requestedSink

/-- `mic` records the monitor remembered, that of `target`, which is the one
published and requested. -/
structure Capture.Records (c : Capture β) (mic : Mic) (target : Target) : Prop where
  source : mic.source = c.currentMonitor
  monitor : c.currentMonitor = target.monitor
  published : c.Publishes target
  requested : c.config.Requests target

/-- What tells the target recorded is the same in both. -/
structure Capture.SameTarget (c c' : Capture β) : Prop where
  config : c'.config = c.config
  formatInfo : c'.formatInfo = c.formatInfo
  currentMonitor : c'.currentMonitor = c.currentMonitor

theorem Capture.SameTarget.refl (c : Capture β) : c.SameTarget c := ⟨rfl, rfl, rfl⟩

theorem Capture.SameTarget.publishes {c c' : Capture β} (same : c.SameTarget c') {target : Target}
    (h : c.Publishes target) : c'.Publishes target := by
  unfold Publishes
  rw [same.formatInfo]
  exact h

theorem Capture.SameTarget.records {c c' : Capture β} (same : c.SameTarget c') {mic : Mic}
    {target : Target} (h : c.Records mic target) : c'.Records mic target := by
  refine ⟨?_, ?_, same.publishes h.published, ?_⟩
  · rw [same.currentMonitor]
    exact h.source
  · rw [same.currentMonitor]
    exact h.monitor
  · rw [same.config]
    exact h.requested

/-- What a thread at `pc` relies on, `last` being the target last resolved for
opening a stream: only an unpinned sink is checked. -/
def Capture.Expects (c : Capture β) (last : Option Target) : CapturePc → Prop
  | .publishing target => last = some target ∧ c.config.Requests target
  | .opening target => last = some target ∧ c.config.Requests target ∧ c.Publishes target
  | .scheduling | .reresolving => c.config.requestedSink = ""
  | .exiting | .notifying => c.stopRequested = true
  | _ => True

theorem Capture.SameTarget.expects {c c' : Capture β} (same : c.SameTarget c')
    (asked : c.stopRequested = true → c'.stopRequested = true) {last : Option Target}
    {pc : CapturePc} (h : c.Expects last pc) : c'.Expects last pc := by
  unfold Expects at h ⊢
  split
  · rw [same.config]
    exact h
  · rw [same.config]
    exact ⟨h.1, h.2.1, same.publishes h.2.2⟩
  · rw [same.config]
    exact h
  · rw [same.config]
    exact h
  · exact asked h
  · exact asked h
  · trivial

namespace CaptureThread

/-- The stream the thread holds; it lets go of it when it returns. -/
def stream (t : CaptureThread β) : Option Mic :=
  match t.pc with
  | .finished => none
  | _ => t.mic

/-- The target last resolved for opening a stream. -/
def noteTarget (t t' : CaptureThread β) (last : Option Target) : Option Target :=
  match t.pc, t'.pc with
  | .resolving, .publishing target => some target
  | _, _ => last

theorem noteTarget_elsewhere {t : CaptureThread β} (t' : CaptureThread β) (last : Option Target)
    (h : t.pc ≠ .resolving) : t.noteTarget t' last = last := by
  unfold noteTarget
  split
  · rename_i at_ _
    exact absurd at_ h
  · rfl

/-- A step of another thread resolves no target. -/
theorem noteTarget_rests (t : CaptureThread β) (last : Option Target) :
    t.noteTarget t last = last := by
  unfold noteTarget
  split
  · rename_i at_ resolved
    rw [at_] at resolved
    cases resolved
  · rfl

/-- The stream is on the target last resolved, and the thread's place agrees
with it. -/
structure Agrees (t : CaptureThread β) (c : Capture β) (last : Option Target) : Prop where
  consistent : t.Consistent
  place : c.Expects last t.pc
  recording : ∀ mic, t.mic = some mic → ∃ target, last = some target ∧ c.Records mic target

/-- Other threads disturb none of it. -/
theorem Agrees.frame {t : CaptureThread β} {c c' : Capture β} {last : Option Target}
    (h : t.Agrees c last) (same : c.SameTarget c')
    (asked : c.stopRequested = true → c'.stopRequested = true) : t.Agrees c' last := by
  refine ⟨h.consistent, same.expects asked h.place, ?_⟩
  intro mic live
  obtain ⟨target, resolved, records⟩ := h.recording mic live
  exact ⟨target, resolved, same.records records⟩

/-- A step that neither resolves a target nor opens a stream on one. -/
theorem Agrees.follow {t t' : CaptureThread β} {c c' : Capture β} {last : Option Target}
    (h : t.Agrees c last) (away : t.pc ≠ .resolving) (same : c.SameTarget c')
    (mic : t'.mic = t.mic ∨ t'.mic = none) (consistent : t'.Consistent)
    (place : c'.Expects last t'.pc) : t'.Agrees c' (t.noteTarget t' last) := by
  rw [noteTarget_elsewhere t' last away]
  refine ⟨consistent, place, ?_⟩
  intro mic' live
  obtain kept | none := mic
  · obtain ⟨target, resolved, records⟩ := h.recording mic' (kept ▸ live)
    exact ⟨target, resolved, same.records records⟩
  · rw [none] at live
    cases live

/-- No stream is open where the counter says so. -/
theorem Consistent.closed {t : CaptureThread β} (h : t.Consistent)
    (at_ : streaming t.pc = some false) : t.mic = none := by
  apply Option.not_isSome_iff_eq_none.mp
  rw [h false at_]
  rintro ⟨⟩

/-- A thread without a stream has none to agree on. -/
theorem Agrees.without {t : CaptureThread β} {c : Capture β} {last : Option Target}
    (consistent : t.Consistent) (place : c.Expects last t.pc) (closed : t.mic = none) :
    t.Agrees c last := by
  refine ⟨consistent, place, ?_⟩
  intro mic live
  rw [closed] at live
  cases live

theorem top_expected (t : CaptureThread β) (c : Capture β) (last : Option Target) :
    c.Expects last (t.top c) := by
  unfold top
  split
  · assumption
  · split
    · trivial
    · trivial

theorem moves_agrees {t t' : CaptureThread β} {c c' : Capture β} {now : Int}
    {last : Option Target} (h : t.Agrees c last) (moved : t.Moves c now c' t') :
    t'.Agrees c' (t.noteTarget t' last) := by
  have consistent : t'.Consistent := moves_consistent h.consistent moved
  have at_not : ∀ {pc : CapturePc}, t.pc = pc → pc ≠ .resolving → t.pc ≠ .resolving := by
    intro pc at_ other
    rw [at_]
    exact other
  have place := h.place
  cases moved with
  | loop at_ =>
    exact h.follow (at_not at_ (by rintro ⟨⟩)) (.refl c) (.inl rfl) consistent (t.top_expected c last)
  | unresolved control defaultSink monitor at_ found =>
    exact .without consistent trivial (h.consistent.closed (at_ ▸ rfl))
  | resolve control target defaultSink monitor at_ found =>
    have note : t.noteTarget (t.goto (.publishing target)) last = some target := by
      simp only [noteTarget, at_, goto]
    rw [note]
    exact .without consistent ⟨rfl, Control.resolveTarget_pinned found⟩
      (h.consistent.closed (at_ ▸ rfl))
  | publish target at_ =>
    rw [at_] at place
    rw [noteTarget_elsewhere _ last (at_not at_ (by rintro ⟨⟩))]
    exact .without consistent ⟨place.1, place.2, rfl, rfl⟩ (h.consistent.closed (at_ ▸ rfl))
  | refuse target message at_ =>
    exact h.follow (at_not at_ (by rintro ⟨⟩)) ⟨rfl, rfl, rfl⟩ (.inl rfl) consistent trivial
  | openStream target mic at_ source =>
    rw [at_] at place
    obtain ⟨resolved, requested, published⟩ := place
    rw [noteTarget_elsewhere _ last (at_not at_ (by rintro ⟨⟩))]
    refine ⟨consistent, ?_, ?_⟩
    · dsimp only
      split
      · trivial
      · trivial
    · intro mic' live
      cases live
      exact ⟨target, resolved, source, rfl, published, requested⟩
  | raise next at_ =>
    obtain ⟨at_ | at_, rfl⟩ | ⟨at_, rfl⟩ := at_
    · exact h.follow (at_not at_ (by rintro ⟨⟩)) ⟨rfl, rfl, rfl⟩ (.inl rfl) consistent trivial
    · exact h.follow (at_not at_ (by rintro ⟨⟩)) ⟨rfl, rfl, rfl⟩ (.inl rfl) consistent trivial
    · exact h.follow (at_not at_ (by rintro ⟨⟩)) ⟨rfl, rfl, rfl⟩ (.inl rfl) consistent trivial
  | read bytes at_ live whole =>
    exact h.follow (at_not at_ (by rintro ⟨⟩)) (.refl c) (.inl rfl) consistent trivial
  | lose bytes message at_ live whole =>
    exact h.follow (at_not at_ (by rintro ⟨⟩)) ⟨rfl, rfl, rfl⟩ (.inr rfl) consistent trivial
  | push c' at_ pushed =>
    obtain ⟨queue, _, rfl⟩ := Option.map_eq_some_iff.mp pushed
    exact h.follow (at_not at_ (by rintro ⟨⟩)) ⟨rfl, rfl, rfl⟩ (.inl rfl) consistent trivial
  | check at_ =>
    refine h.follow (at_not at_ (by rintro ⟨⟩)) (.refl c) (.inl rfl) consistent ?_
    by_cases due : sinkCheckDue c now
    · rw [if_pos due]
      simp only [sinkCheckDue, Bool.and_eq_true, String.isEmpty_iff] at due
      exact due.1.1
    · rw [if_neg due]
      trivial
  | schedule at_ =>
    rw [at_] at place
    exact h.follow (at_not at_ (by rintro ⟨⟩)) ⟨rfl, rfl, rfl⟩ (.inl rfl) consistent place
  | checked control found defaultSink monitor at_ answer =>
    refine h.follow (at_not at_ (by rintro ⟨⟩)) ⟨rfl, rfl, rfl⟩ ?_ consistent trivial
    dsimp only
    split
    · exact .inr rfl
    · exact .inl rfl
  | retried until_ next at_ leads =>
    refine h.follow (at_not at_ (by rintro ⟨⟩)) (.refl c) (.inl rfl) consistent ?_
    obtain ⟨asked, rfl⟩ | ⟨_, _, rfl⟩ := leads
    · exact asked
    · trivial
  | leave at_ =>
    rw [at_] at place
    exact h.follow (at_not at_ (by rintro ⟨⟩)) ⟨rfl, rfl, rfl⟩ (.inl rfl) consistent place
  | notify at_ =>
    exact h.follow (at_not at_ (by rintro ⟨⟩)) (.refl c) (.inl rfl) consistent trivial

/-! ## Letting go of a stream -/

/-- Where a step can let go of the stream. -/
theorem moves_closing {t t' : CaptureThread β} {c c' : Capture β} {now : Int}
    (moved : t.Moves c now c' t') (consistent : t.Consistent) (live : t.stream.isSome = true)
    (gone : t'.stream = none) :
    t.pc = .reading ∨ t.pc = .reresolving ∨ t.pc = .notifying := by
  by_cases done : t'.pc = .finished
  · exact .inr (.inr (moves_finished moved done))
  -- the thread keeps its stream wherever it goes but to its return
  · have some : t.mic.isSome = true := by
      unfold stream at live
      split at live
      · cases live
      · exact live
    have none : t'.mic = none := by
      unfold stream at gone
      split at gone
      · exact absurd ‹_› done
      · exact gone
    have kept : t'.mic ≠ t.mic := by
      intro same
      rw [← same, none] at some
      cases some
    cases moved with
    | lose bytes message at_ => exact .inl at_
    | checked control found defaultSink monitor at_ => exact .inr (.inl at_)
    | openStream target mic at_ source =>
      rw [consistent.closed (at_ ▸ rfl)] at some
      cases some
    | push c' at_ pushed => exact absurd rfl kept
    | _ => exact absurd rfl kept

theorem moved_found {c : Capture β} {found : Option Target} (h : moved c found = true) :
    ∃ target, found = some target ∧ target.monitor ≠ c.currentMonitor := by
  cases found with
  | none => cases h
  | some target => exact ⟨target, rfl, by simpa [moved] using h⟩

end CaptureThread

namespace Session

/-- A session of any handle, whatever earlier sessions left in it. -/
def Begun [Zero β] (s : Session β) : Prop :=
  ∃ c control target clock, s = start c control target clock

/-- The target last resolved for opening a stream. -/
def noteTarget (s : Session β) (_ : SessionLabel β) (t : Session β) (last : Option Target) :
    Option Target :=
  s.thread.noteTarget t.thread last

/-- Why a step lets go of the stream. -/
inductive LetsGo (s : Session β) : SessionLabel β → Prop
  | failed (bytes : List β) (strerror : String) (at_ : s.thread.pc = .reading) :
      LetsGo s (.capture (.read bytes (some strerror)))
  | stopped (input : CaptureInput β) (asked : s.capture.stopRequested = true) :
      LetsGo s (.capture input)
  | followed (defaultSink monitor : QueryAnswer) (target : Target) (at_ : s.thread.pc = .reresolving)
      (unpinned : s.capture.config.requestedSink = "")
      (found : (s.capture.control.resolveTarget "" defaultSink monitor).2 = some target)
      (other : target.monitor ≠ s.capture.currentMonitor) :
      LetsGo s (.capture (.resolve defaultSink monitor))

/-- A step of the session that is not one of the capture thread. -/
theorem moves_aside [Zero β] {s t : Session β} {l : SessionLabel β} (moved : Moves s l t)
    (other : ∀ input, l ≠ .capture input) : t.thread = s.thread ∧
      s.capture.SameTarget t.capture ∧
      (s.capture.stopRequested = true → t.capture.stopRequested = true) := by
  cases moved with
  | tick elapsed => exact ⟨rfl, .refl _, id⟩
  | call args idle => exact ⟨rfl, .refl _, id⟩
  | read c r busy moved =>
    obtain ⟨queue, flags, deadline, valid, shape⟩ := Reader.moves_shape moved
    have capture : (s.noteRead c r).capture = c := rfl
    rw [capture, shape]
    exact ⟨rfl, ⟨rfl, rfl, rfl⟩, id⟩
  | capture input c th moved => exact absurd rfl (other input)
  | requestStop => exact ⟨rfl, ⟨rfl, rfl, rfl⟩, fun _ => rfl⟩
  | closeQueue asked => exact ⟨rfl, ⟨rfl, rfl, rfl⟩, id⟩
  | callback delivery => exact ⟨rfl, ⟨rfl, rfl, rfl⟩, id⟩

theorem step_agrees [Zero β] {s t : Session β} {l : SessionLabel β} {last : Option Target}
    (h : s.thread.Agrees s.capture last) (moved : Moves s l t) :
    t.thread.Agrees t.capture (noteTarget s l t last) := by
  unfold noteTarget
  by_cases own : ∃ input, l = .capture input
  · obtain ⟨input, rfl⟩ := own
    cases moved with
    | capture input c th moved =>
      rw [noteCapture_capture, noteCapture_thread]
      exact CaptureThread.moves_agrees h moved
  · obtain ⟨thread, same, asked⟩ := moves_aside moved fun input at_ => own ⟨input, at_⟩
    rw [thread, CaptureThread.noteTarget_rests]
    exact h.frame same asked

/-- A stream that is open stays so until one of these. -/
theorem step_closing [Zero β] {s t : Session β} {l : SessionLabel β} {last : Option Target}
    (h : s.thread.Agrees s.capture last) (taken : s.step l = some t)
    (live : s.thread.stream.isSome = true) (gone : t.thread.stream = none) : LetsGo s l := by
  have place := h.place
  have kept : t.thread.stream ≠ s.thread.stream := by
    intro same
    rw [← same, gone] at live
    cases live
  by_cases own : ∃ input, l = .capture input
  · obtain ⟨input, rfl⟩ := own
    simp only [step, Option.map_eq_some_iff, Prod.exists] at taken
    obtain ⟨c, th, stepped, rfl⟩ := taken
    rw [noteCapture_thread] at gone kept
    obtain at_ | at_ | at_ :=
      CaptureThread.moves_closing (CaptureThread.step_moves stepped) h.consistent live gone
    · obtain ⟨bytes, failure, rfl, after⟩ := CaptureThread.step_reading at_ stepped
      cases failure with
      | none =>
        cases after
        simp only [CaptureThread.stream, at_, ne_eq, not_true_eq_false] at kept
      | some strerror => exact .failed bytes strerror at_
    · obtain ⟨defaultSink, monitor, rfl, after⟩ := CaptureThread.step_reresolving at_ stepped
      rw [at_] at place
      cases after
      by_cases moved : CaptureThread.moved s.capture
          (s.capture.control.resolveTarget "" defaultSink monitor).2
      · obtain ⟨target, found, other⟩ := CaptureThread.moved_found moved
        exact .followed defaultSink monitor target at_ place found other
      · simp only [CaptureThread.stream, at_, if_neg moved, ne_eq, not_true_eq_false] at kept
    · rw [at_] at place
      exact .stopped input place
  · obtain ⟨thread, _⟩ := moves_aside (step_moves taken) fun input at_ => own ⟨input, at_⟩
    rw [thread] at kept
    exact absurd rfl kept

theorem watched_agrees [Zero β] {p : Session β × Option Target}
    (run : Steps.Watched step noteTarget Steps.Any Begun none p) :
    p.1.thread.Agrees p.1.capture p.2 := by
  apply Steps.Watched.invariant (fun s last => s.thread.Agrees s.capture last) ?_ ?_ run
  · rintro s ⟨c, control, target, clock, rfl⟩
    exact .without (by rintro b ⟨⟩) trivial rfl
  · intro s l t last _ agrees _ taken
    exact step_agrees agrees (step_moves taken)

/-- Whenever a frame is read, the stream is on the monitor remembered, which is
that of the target last resolved for opening one; that target's names are the
ones published, and its sink is the one requested, if any. And a stream is let
go of only by a failed read, by a stop, or, if no sink is requested, by a check
that finds another monitor. -/
theorem stream_follows_request [Zero β] (p : Session β × Option Target)
    (run : Steps.Watched step noteTarget Steps.Any Begun none p) :
    (p.1.thread.pc = .reading → ∃ target mic, p.2 = some target ∧ p.1.thread.mic = some mic ∧
      p.1.capture.Records mic target) ∧
    ∀ l t, p.1.step l = some t → p.1.thread.stream.isSome = true → t.thread.stream = none →
      LetsGo p.1 l := by
  have agrees := watched_agrees run
  constructor
  · intro at_
    obtain ⟨mic, live⟩ := Option.isSome_iff_exists.mp (agrees.consistent true (at_ ▸ rfl))
    obtain ⟨target, resolved, records⟩ := agrees.recording mic live
    exact ⟨target, mic, resolved, live, records⟩
  · intro l t taken live gone
    exact step_closing agrees taken live gone

/-- The small handle records the monitor of the sink it asks for. -/
theorem stream_follows_request_once : ∃ p : Session UInt8 × Option Target,
    Steps.Watched step noteTarget Steps.Any Begun none p ∧ p.1.thread.pc = .reading ∧
    (∃ target mic, p.2 = some target ∧ p.1.thread.mic = some mic ∧
      p.1.capture.Records mic target) ∧ p.2 = some { sink := "s", monitor := "m" } := by
  have ran : (Steps.exec (Steps.watch step noteTarget) (small, none) (openAttempt none)).map
      (fun p => (p.1.thread.pc, p.2)) = some (.reading, some { sink := "s", monitor := "m" }) := by
    rfl
  obtain ⟨p, ran, seen⟩ := Option.map_eq_some_iff.mp ran
  obtain ⟨at_, last⟩ := Prod.mk.inj seen
  have run : Steps.Watched step noteTarget Steps.Any Begun none p :=
    Steps.Reach.exec (.start ⟨⟨_, _, _, _, rfl⟩, rfl⟩) (Steps.meets_any ..) ran
  exact ⟨p, run, at_, (stream_follows_request p run).1 at_, last⟩

end Session
end WebAudioCapture
