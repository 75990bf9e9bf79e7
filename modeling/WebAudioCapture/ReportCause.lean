import WebAudioCapture.StreamTarget

/-!
# Why a gap is reported

A frame tells of a gap only when something made one: a stream that would not
open, a read that failed, a reopen, or a push that found the queue full. The
capture thread flags the first three a step after they happen, so a frame may
be handed over in between, and the next one tells of what came before its pop.
-/

namespace WebAudioCapture

variable {β : Type}

/-- What makes a gap. -/
inductive Incident where
  | openFailed
  | readFailed
  | reopened
  | queueFull
  deriving DecidableEq, Repr

/-- What has happened since a pop, and whether the capture thread had something
left to flag at it. -/
structure Window where
  incidents : List Incident := []
  owing : Bool := false
  deriving DecidableEq, Repr

/-- What a delivery told, and the window it tells of. -/
structure GapReport where
  info : Option FrameInfo
  window : Window
  deriving DecidableEq, Repr

/-- The windows since the pop of the frame delivered last and since the last
pop, and the deliveries. -/
structure Journal where
  since : Window := {}
  latest : Window := {}
  reports : List GapReport := []
  deriving DecidableEq, Repr

namespace CaptureThread

/-- About to flag a failure or a reopen. -/
def owes (t : CaptureThread β) : Bool :=
  match t.pc with
  | .flagOpenFailure | .flagReadFailure | .flagReopen => true
  | _ => false

/-- What happens in a step of the thread. -/
def incidents (t : CaptureThread β) (queue : FrameQueue β) (t' : CaptureThread β) : List Incident :=
  match t.pc, t'.pc with
  | .opening _, .flagOpenFailure => [.openFailed]
  | .opening _, .flagReopen => [.reopened]
  | .reading, .flagReadFailure => [.readFailed]
  | .pushing, _ => if queue.overflows then [.queueFull] else []
  | _, _ => []

/-- Flags are owed only after an incident. -/
theorem moves_owes {t t' : CaptureThread β} {c c' : Capture β} {now : Int}
    (moved : t.Moves c now c' t') (owing : t'.owes = true) : t.incidents c.queue t' ≠ [] := by
  have leads := moves_leads moved
  unfold owes at owing
  unfold incidents
  generalize t.pc = pc at leads ⊢
  generalize t'.pc = next at leads owing ⊢
  cases leads with
  | refused target => rintro ⟨⟩
  | reopened target => rintro ⟨⟩
  | lost => rintro ⟨⟩
  | _ => cases owing

/-- Flags are raised only when owed, and drops counted only by a push that
finds the queue full. -/
theorem moves_cause {t t' : CaptureThread β} {c c' : Capture β} {now : Int}
    (counted : c.queue.Counted) (moved : t.Moves c now c' t') :
    (c'.pendingFlags ≠ 0 → c.pendingFlags ≠ 0 ∨ t.owes = true) ∧
    (c'.queue.dropped ≠ 0 →
      c.queue.dropped ≠ 0 ∨ .queueFull ∈ t.incidents c.queue t') := by
  cases moved with
  | raise next at_ =>
    have owed : t.owes = true := by
      obtain ⟨at_ | at_, _⟩ | ⟨at_, _⟩ := at_
      · rw [owes, at_]
      · rw [owes, at_]
      · rw [owes, at_]
    exact ⟨fun _ => .inr owed, .inl⟩
  | push c' at_ pushed =>
    obtain ⟨⟨queue, discarded⟩, took, rfl⟩ := Option.map_eq_some_iff.mp pushed
    refine ⟨.inl, fun dropped => ?_⟩
    cases (FrameQueue.push_counted counted took).2 with
    | refused closed same => exact .inl (same ▸ dropped)
    | added open_ room count kept => exact .inl (kept ▸ dropped)
    | replaced open_ full count =>
      have spills : c.queue.overflows = true := by
        rw [FrameQueue.overflows, open_, FrameQueue.isFull, full, BEq.rfl, Bool.and_self]
      refine .inr ?_
      simp only [incidents, at_, spills, if_true]
      exact List.mem_singleton_self _
  | _ => exact ⟨.inl, .inl⟩

end CaptureThread

/-- A drained flag that tells of a gap was pending or tells of drops. -/
theorem Reader.flagsFor_told {r : Reader β} {c : Capture β} {result : Int}
    (told : (r.flagsFor c result).has frameDiscontinuity = true ∨
      (r.flagsFor c result).has frameReinit = true) :
    c.pendingFlags ≠ 0 ∨ r.totalDiscarded ≠ 0 := by
  by_cases quiet : c.pendingFlags = 0
  · right
    intro none
    have silent : r.flagsFor c result = 0 ∨ r.flagsFor c result = frameSilence ||| frameUnderrun := by
      by_cases silence : result = 0
      · right
        rw [flagsFor, quiet, none, silenceFlags, if_pos silence]
        rfl
      · left
        rw [flagsFor, quiet, none, silenceFlags, if_neg silence]
        rfl
    obtain same | same := silent
    · rw [same] at told
      revert told
      decide
    · rw [same] at told
      revert told
      decide
  · exact .inl quiet

/-- What a delivery writes into the caller's info. -/
theorem Reader.moves_reports [Zero β] {c c' : Capture β} {r r' : Reader β} {now : Int}
    (moved : r.Moves c now c' r') (asked : r.info.isSome = true) (done : r'.pc = .returned 1) :
    ∃ ns flags, r'.info = (r.report ns flags).info := by
  cases moved with
  | refuse status at_ refused =>
    have one : status.code = 1 := ReadPc.returned.inj done
    omega
  | early next at_ fixed soon leads =>
    obtain rfl | ⟨wait, _, rfl⟩ := leads
    · cases done
    · cases done
  | popWaiting d p wait at_ popped open_ =>
    simp only [keep, afterPop, asked, if_true] at done
    split at done
    · cases done
    · cases done
  | close flags at_ => exact ⟨_, _, rfl⟩
  | tell ns at_ => exact ⟨_, _, rfl⟩
  | _ => cases done

namespace Window

def meet (w : Window) (incidents : List Incident) : Window :=
  { w with incidents := w.incidents ++ incidents }

/-- Something made a gap in the window, or before it and was still to flag. -/
def Explains (w : Window) : Prop := w.incidents ≠ [] ∨ w.owing = true

theorem Explains.meet {w : Window} (h : w.Explains) (incidents : List Incident) :
    (w.meet incidents).Explains := by
  obtain some | owing := h
  · exact .inl fun none => some (List.append_eq_nil_iff.mp none).1
  · exact .inr owing

theorem explains_meet (w : Window) {incidents : List Incident} (some : incidents ≠ []) :
    (w.meet incidents).Explains :=
  .inl fun none => some (List.append_eq_nil_iff.mp none).2

theorem explains_full {w : Window} (h : .queueFull ∈ w.incidents) : w.Explains :=
  .inl fun none => by
    rw [none] at h
    cases h

end Window

/-- The flags of a gap have a cause in the window, and a count of drops a push
onto a full queue. -/
def GapReport.Caused (r : GapReport) : Prop :=
  ∃ info, r.info = some info ∧
    (info.flags.has frameDiscontinuity = true ∨ info.flags.has frameReinit = true →
      r.window.Explains) ∧
    (info.droppedFrames ≠ 0 → .queueFull ∈ r.window.incidents)

namespace Journal

/-- A pop opens a window, and a delivery closes the one before. -/
def note (s : Session β) (l : SessionLabel β) (t : Session β) (g : Journal) : Journal :=
  match l with
  | .capture _ =>
    let met := s.thread.incidents s.capture.queue t.thread
    { g with since := g.since.meet met, latest := g.latest.meet met }
  | .read =>
    let g := if s.reader.pc.takes then { g with latest := { owing := s.thread.owes } } else g
    if t.reader.pc = .returned 1 then
      { g with since := g.latest, reports := g.reports ++ [⟨t.reader.info, g.since⟩] }
    else g
  | _ => g

end Journal

namespace Session

/-- What is flagged, counted or owed has its cause in the window it will be
told of: the one since the last delivery's pop before the drain, the one since
the last pop after it. -/
structure Grounded (s : Session β) (g : Journal) : Prop where
  owed : s.thread.owes = true → g.since.Explains ∧ g.latest.Explains
  raised : s.capture.pendingFlags ≠ 0 → g.since.Explains
  raisedLater : ∀ flags, s.reader.pc.phase = .drained flags → s.capture.pendingFlags ≠ 0 →
    g.latest.Explains
  drained : ∀ flags, s.reader.pc.phase = .drained flags →
    flags.has frameDiscontinuity = true ∨ flags.has frameReinit = true → g.since.Explains
  dropped : s.capture.queue.dropped ≠ 0 → .queueFull ∈ g.since.incidents
  droppedLater : s.reader.pc.phase ≠ .away → s.capture.queue.dropped ≠ 0 →
    .queueFull ∈ g.latest.incidents
  total : s.reader.isIdle = false → s.reader.totalDiscarded ≠ 0 → .queueFull ∈ g.since.incidents
  away : s.reader.isIdle = false → s.reader.pc.phase = .away → s.reader.totalDiscarded = 0
  reports : ∀ r ∈ g.reports, r.Caused

theorem capture_grounded [Zero β] {s : Session β} {g : Journal} {c : Capture β}
    {t : CaptureThread β} (h : Grounded s g) (counted : s.capture.queue.Counted)
    (moved : s.thread.Moves s.capture s.clock c t) (input : CaptureInput β) :
    Grounded (s.noteCapture c t) (g.note s (.capture input) (s.noteCapture c t)) := by
  have owed := CaptureThread.moves_owes moved
  obtain ⟨raised, dropped⟩ := CaptureThread.moves_cause counted moved
  have since : ∀ {w : Window}, w.Explains → _ := fun {w} h =>
    Window.Explains.meet (w := w) h (s.thread.incidents s.capture.queue t)
  have full : ∀ w : Window, (s.capture.queue.dropped ≠ 0 → .queueFull ∈ w.incidents) →
      c.queue.dropped ≠ 0 →
      .queueFull ∈ (w.meet (s.thread.incidents s.capture.queue t)).incidents := by
    intro w old some
    obtain before | now := dropped some
    · exact List.mem_append_left _ (old before)
    · exact List.mem_append_right _ now
  constructor
  all_goals simp only [noteCapture_capture, noteCapture_thread, noteCapture_reader, Journal.note]
  · intro owes
    exact ⟨Window.explains_meet _ (owed owes), Window.explains_meet _ (owed owes)⟩
  · intro some
    obtain before | owes := raised some
    · exact since (h.raised before)
    · exact since (h.owed owes).1
  · intro flags phase some
    obtain before | owes := raised some
    · exact since (h.raisedLater flags phase before)
    · exact since (h.owed owes).2
  · intro flags phase told
    exact since (h.drained flags phase told)
  · exact full g.since h.dropped
  · intro on
    exact full g.latest (h.droppedLater on)
  · intro busy some
    exact List.mem_append_left _ (h.total busy some)
  · exact h.away
  · exact h.reports

/-- A delivery: what it tells has a cause in the window it closes. -/
theorem Grounded.deliver {s : Session β} {g : Journal} {c : Capture β} {r : Reader β}
    (h : Grounded s g) (busy : s.reader.isIdle = false) (on : s.reader.pc.phase ≠ .away)
    (queue : c.queue = s.capture.queue) (later : c.pendingFlags ≠ 0 → g.latest.Explains)
    (returned : r.pc = .returned 1) (asked : r.info.isSome = true) {ns : Int} {flags : FrameFlags}
    (report : r.info = (s.reader.report ns flags).info)
    (told : ∀ info, r.info = some info → info.flags.has frameDiscontinuity = true ∨
      info.flags.has frameReinit = true → g.since.Explains) :
    Grounded (s.noteRead c r)
      { g with since := g.latest, reports := g.reports ++ [⟨r.info, g.since⟩] } := by
  have away : r.pc.phase = .away := by rw [returned]; rfl
  have idle : r.isIdle = true := by rw [Reader.isIdle, returned]
  have caused : GapReport.Caused ⟨r.info, g.since⟩ := by
    obtain ⟨info, given⟩ := Option.isSome_iff_exists.mp asked
    refine ⟨info, given, told info given, ?_⟩
    intro some
    apply h.total busy
    intro none
    rw [given, Reader.report] at report
    obtain ⟨_, _, rfl⟩ := Option.map_eq_some_iff.mp report.symm
    exact some (by rw [none]; rfl)
  constructor
  · intro owes
    exact ⟨(h.owed owes).2, (h.owed owes).2⟩
  · exact later
  · intro flags phase
    rw [show (s.noteRead c r).reader.pc.phase = .away from away] at phase
    cases phase
  · intro flags phase
    rw [show (s.noteRead c r).reader.pc.phase = .away from away] at phase
    cases phase
  · intro some
    exact h.droppedLater on (queue ▸ some)
  · intro on'
    exact absurd away on'
  · intro busy'
    rw [show (s.noteRead c r).reader.isIdle = true from idle] at busy'
    cases busy'
  · intro busy'
    rw [show (s.noteRead c r).reader.isIdle = true from idle] at busy'
    cases busy'
  · intro r' at_
    obtain old | new := List.mem_append.mp at_
    · exact h.reports r' old
    · rw [List.mem_singleton.mp new]
      exact caused

/-- A pop, which opens a window. -/
theorem Grounded.pop {s : Session β} {g : Journal} {c : Capture β} {r : Reader β}
    (h : Grounded s g) (flags : c.pendingFlags = s.capture.pendingFlags)
    (dropped : c.queue.dropped = 0) (undrained : ∀ flags, r.pc.phase ≠ .drained flags)
    (total : r.totalDiscarded ≠ 0 → s.capture.queue.dropped ≠ 0)
    (away : r.pc.phase = .away → r.totalDiscarded = 0) :
    Grounded (s.noteRead c r) { g with latest := { owing := s.thread.owes } } := by
  constructor
  · intro owes
    exact ⟨(h.owed owes).1, .inr owes⟩
  · intro some
    exact h.raised (flags ▸ some)
  · intro f phase
    exact absurd phase (undrained f)
  · intro f phase
    exact absurd phase (undrained f)
  · intro some
    exact absurd dropped some
  · intro _ some
    exact absurd dropped some
  · intro _ some
    exact h.dropped (total some)
  · intro _ at_
    exact away at_
  · exact h.reports

theorem read_grounded [Zero β] {s : Session β} {g : Journal} {c : Capture β} {r : Reader β}
    (h : Grounded s g) (counted : s.capture.queue.Counted) (busy : s.reader.isIdle = false)
    (asked : s.reader.info.isSome = true) (moved : s.reader.Moves s.capture s.clock c r) :
    Grounded (s.noteRead c r) (g.note s .read (s.noteRead c r)) := by
  have pass : s.reader.pc.takes = false → r.pc ≠ .returned 1 →
      g.note s .read (s.noteRead c r) = g := by
    intro takes going
    simp only [Journal.note, noteRead, takes, if_neg going, Bool.false_eq_true, if_false]
  have taking : s.reader.pc.takes = true → r.pc ≠ .returned 1 →
      g.note s .read (s.noteRead c r) = { g with latest := { owing := s.thread.owes } } := by
    intro takes going
    simp only [Journal.note, noteRead, takes, if_neg going, if_true]
  have telling : s.reader.pc.takes = false → r.pc = .returned 1 →
      g.note s .read (s.noteRead c r) =
        { g with since := g.latest, reports := g.reports ++ [⟨r.info, g.since⟩] } := by
    intro takes returned
    simp only [Journal.note, noteRead, takes, if_pos returned, Bool.false_eq_true, if_false]
  have report : r.pc = .returned 1 → ∃ ns flags, r.info = (s.reader.report ns flags).info :=
    Reader.moves_reports moved asked
  obtain ⟨_, _, kept, effect⟩ := read_effect counted moved
  cases effect with
  | quiet queue flags takes drains phase going total =>
    rw [pass takes going]
    refine ⟨h.owed, ?_, ?_, ?_, ?_, ?_, ?_, ?_, h.reports⟩
    all_goals simp only [noteRead, queue, flags, phase, total]
    · exact h.raised
    · exact h.raisedLater
    · exact h.drained
    · exact h.dropped
    · exact h.droppedLater
    · exact fun _ => h.total busy
    · exact fun _ => h.away busy
  | nothing flags takes drains empty count dropped phase going total =>
    rw [taking takes going]
    have none : r.totalDiscarded = 0 := total (h.away busy (ReadPc.takes_away takes))
    refine h.pop flags dropped ?_ (fun some => absurd none some) fun _ => none
    intro f drained
    obtain away | undrained := phase
    · rw [drained] at away
      cases away
    · rw [drained] at undrained
      cases undrained
  | frame flags takes drains some count dropped phase total =>
    have undrained : r.pc.phase = .undrained := by
      obtain undrained | ⟨_, none⟩ := phase
      · exact undrained
      · rw [none] at asked
        cases asked
    have going : r.pc ≠ .returned 1 := by
      intro returned
      rw [returned] at undrained
      cases undrained
    rw [taking takes going]
    refine h.pop flags dropped ?_ ?_ ?_
    · intro f drained
      rw [undrained] at drained
      cases drained
    · intro some none
      apply some
      rw [total (h.away busy (ReadPc.takes_away takes)), none]
      rfl
    · intro away
      rw [undrained] at away
      cases away
  | drain queue flags takes drains result phase going total =>
    have on : s.reader.pc.phase ≠ .away := by
      rw [ReadPc.drains_undrained drains]
      rintro ⟨⟩
    rw [pass takes going]
    refine ⟨h.owed, fun some => absurd flags some, fun _ _ some => absurd flags some, ?_, ?_, ?_, ?_,
      ?_, h.reports⟩
    all_goals simp only [noteRead, queue, phase, total]
    · rintro _ ⟨⟩ told
      obtain pending | some := Reader.flagsFor_told told
      · exact h.raised pending
      · exact Window.explains_full (h.total busy some)
    · exact h.dropped
    · exact fun _ => h.droppedLater on
    · exact fun _ => h.total busy
    · rintro _ ⟨⟩
  | tell queue flags takes drains returned told =>
    have on : s.reader.pc.phase ≠ .away := by
      rw [ReadPc.drains_undrained drains]
      rintro ⟨⟩
    obtain ⟨ns, f, report⟩ := report returned
    rw [telling takes returned]
    refine h.deliver busy on queue (fun some => absurd flags some) returned (kept.trans asked) report ?_
    intro info given flagged
    rw [told info given] at flagged
    obtain pending | some := Reader.flagsFor_told flagged
    · exact h.raised pending
    · exact Window.explains_full (h.total busy some)
  | close drained queue flags takes drains phase returned told =>
    have on : s.reader.pc.phase ≠ .away := by
      rw [phase]
      rintro ⟨⟩
    obtain ⟨ns, f, report⟩ := report returned
    rw [telling takes returned]
    refine h.deliver busy on queue ?_ returned (kept.trans asked) report ?_
    · rw [flags]
      exact h.raisedLater drained phase
    · intro info given flagged
      rw [told info given] at flagged
      exact h.drained drained phase flagged

theorem step_grounded [Zero β] {s t : Session β} {g : Journal} {l : SessionLabel β}
    (h : Grounded s g) (counted : s.capture.queue.Counted) (asked : Asked s) (moved : Moves s l t) :
    Grounded t (g.note s l t) := by
  cases moved with
  | tick elapsed =>
    exact ⟨h.owed, h.raised, h.raisedLater, h.drained, h.dropped, h.droppedLater, h.total, h.away,
      h.reports⟩
  | call args idle =>
    refine ⟨h.owed, h.raised, by rintro _ ⟨⟩, by rintro _ ⟨⟩, h.dropped, ?_, ?_, fun _ _ => rfl,
      h.reports⟩
    · intro on
      exact absurd rfl on
    · intro _ some
      exact absurd rfl some
  | read c r busy moved => exact read_grounded h counted busy (asked busy) moved
  | capture input c th moved => exact capture_grounded h counted moved input
  | requestStop =>
    exact ⟨h.owed, h.raised, h.raisedLater, h.drained, h.dropped, h.droppedLater, h.total, h.away,
      h.reports⟩
  | closeQueue stopped =>
    exact ⟨h.owed, h.raised, h.raisedLater, h.drained, h.dropped, h.droppedLater, h.total, h.away,
      h.reports⟩
  | callback delivery =>
    exact ⟨h.owed, h.raised, h.raisedLater, h.drained, h.dropped, h.droppedLater, h.total, h.away,
      h.reports⟩

theorem fresh_grounded [Zero β] {s : Session β} (h : Fresh s) : Grounded s {} := by
  obtain ⟨c, control, target, clock, created, rfl⟩ := h
  obtain ⟨storage, shape, _⟩ := created.shape
  have flags : c.pendingFlags = 0 := by rw [shape]
  have dropped : c.queue.dropped = 0 := by rw [shape]
  exact ⟨by rintro ⟨⟩, fun some => absurd flags some, by rintro _ ⟨⟩, by rintro _ ⟨⟩,
    fun some => absurd dropped some, fun on => absurd rfl on, by rintro ⟨⟩, by rintro ⟨⟩,
    by rintro _ ⟨⟩⟩

/-! ## A healthy run -/

/-- The target a resolve of the capture thread finds. -/
def finds (s : Session β) (defaultSink monitor : QueryAnswer) : Option Target :=
  match s.thread.pc with
  | .resolving =>
    (s.capture.control.resolveTarget s.capture.config.requestedSink defaultSink monitor).2
  | .reresolving => (s.capture.control.resolveTarget "" defaultSink monitor).2
  | _ => none

/-- The stream the thread asks for opens. -/
def opensWell (s : Session β) (refusal : Option String) : Bool :=
  match s.thread.pc with
  | .opening target =>
    (Mic.openOn target.monitor s.capture.config.micFormat refusal).toBool
  | _ => true

/-- Streams open and can be read, the monitor resolved is always `monitor`, and
no push finds the queue full. -/
def Healthy (monitor : String) (s : Session β) : SessionLabel β → Prop
  | .capture (.openStream refusal) => s.opensWell refusal = true
  | .capture (.read _ failure) => failure = none
  | .capture (.resolve defaultSink answer) =>
    ∀ target ∈ s.finds defaultSink answer, target.monitor = monitor
  | .capture .run => s.thread.pc = .pushing → s.capture.queue.overflows = false
  | _ => True

instance (monitor : String) (s : Session β) (l : SessionLabel β) : Decidable (Healthy monitor s l) :=
  match l with
  | .capture (.openStream _) => inferInstanceAs (Decidable (_ = true))
  | .capture (.read _ failure) => inferInstanceAs (Decidable (failure = none))
  | .capture (.resolve defaultSink answer) =>
    inferInstanceAs (Decidable (∀ target ∈ s.finds defaultSink answer, target.monitor = monitor))
  | .capture .run => inferInstanceAs (Decidable (_ → _))
  | .tick _ | .call _ | .read | .requestStop | .closeQueue | .callback _ => .isTrue trivial

/-- Where a thread stands that opens streams on `monitor` and loses none. -/
def Unfailing (monitor : String) : CapturePc → Prop
  | .publishing target | .opening target => target.monitor = monitor
  | .flagOpenFailure | .flagReadFailure | .flagReopen => False
  | _ => True

/-- A thread that has not failed, and keeps the stream it has had. -/
structure Steadfast (monitor : String) (t : CaptureThread β) (c : Capture β) : Prop where
  place : Unfailing monitor t.pc
  kept : t.hadStream = true → t.mic.isSome = true ∧ c.currentMonitor = monitor

theorem Steadfast.clear {monitor : String} {t : CaptureThread β} {c : Capture β}
    (h : Steadfast monitor t c) : t.owes = false := by
  have place := h.place
  unfold CaptureThread.owes
  split
  · rename_i at_
    rw [at_] at place
    exact place.elim
  · rename_i at_
    rw [at_] at place
    exact place.elim
  · rename_i at_
    rw [at_] at place
    exact place.elim
  · rfl

theorem top_unfailing (monitor : String) (t : CaptureThread β) (c : Capture β) :
    Unfailing monitor (t.top c) := by
  obtain ⟨next, _⟩ | next | next := t.top_cases c
  · rw [next]
    trivial
  · rw [next]
    trivial
  · rw [next]
    trivial

/-- Nothing that makes a gap happens here. -/
def Uneventful : CapturePc → Prop
  | .opening _ | .reading | .pushing => False
  | _ => True

theorem capture_steadfast {s : Session β} {c : Capture β} {t : CaptureThread β}
    {input : CaptureInput β} {monitor : String} (h : Steadfast monitor s.thread s.capture)
    (consistent : s.thread.Consistent) (healthy : Healthy monitor s (.capture input))
    (stepped : s.thread.step s.capture s.clock input = some (c, t)) :
    Steadfast monitor t c ∧ s.thread.incidents s.capture.queue t = [] := by
  have place := h.place
  have calm : ∀ pc, s.thread.pc = pc → Uneventful pc →
      s.thread.incidents s.capture.queue t = [] := by
    intro pc at_ uneventful
    unfold CaptureThread.incidents
    rw [at_]
    cases pc with
    | opening target => exact uneventful.elim
    | pushing => exact uneventful.elim
    | reading => exact uneventful.elim
    | _ => rfl
  have pc : ∀ {next : Capture β × CaptureThread β}, (c, t) = next → t.pc = next.2.pc :=
    congrArg (CaptureThread.pc ∘ Prod.snd)
  cases CaptureThread.step_moves stepped with
  | loop at_ =>
    exact ⟨⟨top_unfailing monitor s.thread s.capture, h.kept⟩,
      calm _ at_ trivial⟩
  | unresolved control defaultSink answer at_ found =>
    exact ⟨⟨trivial, h.kept⟩, calm _ at_ trivial⟩
  | resolve control target defaultSink answer at_ found =>
    obtain ⟨defaultSink', answer', rfl, after⟩ := CaptureThread.step_resolving at_ stepped
    refine ⟨⟨?_, h.kept⟩, calm _ at_ trivial⟩
    apply healthy target
    simp only [finds, at_]
    cases result : s.capture.control.resolveTarget s.capture.config.requestedSink defaultSink'
        answer' with
    | mk control' found' =>
      rw [result] at after
      cases found' with
      | none => cases pc after
      | some target' =>
        cases pc after
        rfl
  | publish target at_ =>
    rw [at_] at place
    exact ⟨⟨place, h.kept⟩, calm _ at_ trivial⟩
  | refuse target message at_ =>
    obtain ⟨refusal, rfl, after⟩ := CaptureThread.step_opening at_ stepped
    have opens : s.opensWell refusal = true := healthy
    simp only [opensWell, at_] at opens
    cases answer : Mic.openOn target.monitor s.capture.config.micFormat refusal with
    | error message =>
      rw [answer] at opens
      cases opens
    | ok mic =>
      rw [answer] at after
      have went := pc after
      simp only [CaptureThread.goto, CaptureThread.opened] at went
      split at went
      · cases went
      · cases went
  | openStream target mic at_ source =>
    rw [at_] at place
    have first : s.thread.hadStream = false := by
      apply Bool.eq_false_iff.mpr
      intro had
      have live := (h.kept had).1
      rw [consistent.closed (at_ ▸ rfl)] at live
      cases live
    refine ⟨⟨?_, fun _ => ⟨rfl, place⟩⟩, ?_⟩
    · rw [first]
      trivial
    · simp only [CaptureThread.incidents, at_, first, Bool.false_eq_true, if_false]
  | raise next at_ =>
    have clear := h.clear
    obtain ⟨at_ | at_, _⟩ | ⟨at_, _⟩ := at_
    · rw [CaptureThread.owes, at_] at clear
      cases clear
    · rw [CaptureThread.owes, at_] at clear
      cases clear
    · rw [CaptureThread.owes, at_] at clear
      cases clear
  | read bytes at_ live whole =>
    refine ⟨⟨trivial, h.kept⟩, ?_⟩
    simp only [CaptureThread.incidents, at_]
  | lose bytes message at_ live whole =>
    obtain ⟨bytes', failure, rfl, after⟩ := CaptureThread.step_reading at_ stepped
    cases (healthy : failure = none)
    cases pc after
  | push c' at_ pushed =>
    have input : input = .run := by
      unfold CaptureThread.step at stepped
      rw [at_] at stepped
      cases input with
      | run => rfl
      | _ => cases stepped
    subst input
    obtain ⟨⟨queue, discarded⟩, _, rfl⟩ := Option.map_eq_some_iff.mp pushed
    refine ⟨⟨trivial, h.kept⟩, ?_⟩
    simp only [CaptureThread.incidents, at_, healthy at_, Bool.false_eq_true, if_false]
  | check at_ =>
    refine ⟨⟨?_, h.kept⟩, calm _ at_ trivial⟩
    split
    · trivial
    · trivial
  | schedule at_ =>
    exact ⟨⟨trivial, h.kept⟩, calm _ at_ trivial⟩
  | checked control found defaultSink answer at_ result =>
    obtain ⟨defaultSink', answer', rfl, after⟩ := CaptureThread.step_reresolving at_ stepped
    have live : s.thread.mic.isSome = true := consistent true (at_ ▸ rfl)
    have kept := (congrArg (CaptureThread.mic ∘ Prod.snd) after).symm
    simp only [Function.comp_apply, CaptureThread.checked] at kept
    refine ⟨⟨trivial, fun had => ?_⟩, calm _ at_ trivial⟩
    obtain ⟨_, current⟩ := h.kept had
    refine ⟨?_, current⟩
    have stays : CaptureThread.moved s.capture
        (s.capture.control.resolveTarget "" defaultSink' answer').2 = false := by
      apply Bool.eq_false_iff.mpr
      intro moved
      obtain ⟨target, found, other⟩ := CaptureThread.moved_found moved
      have same := healthy target (by simp only [finds, at_, found, Option.mem_def])
      exact other (same.trans current.symm)
    rw [stays, if_neg Bool.false_ne_true] at kept
    dsimp only
    rw [← kept]
    exact live
  | retried until_ next at_ leads =>
    refine ⟨⟨?_, h.kept⟩, calm _ at_ trivial⟩
    obtain ⟨_, rfl⟩ | ⟨_, _, rfl⟩ := leads
    · trivial
    · trivial
  | leave at_ =>
    exact ⟨⟨trivial, h.kept⟩, calm _ at_ trivial⟩
  | notify at_ =>
    exact ⟨⟨trivial, h.kept⟩, calm _ at_ trivial⟩

/-- Nothing has happened, and nothing is owed. -/
structure Untroubled (monitor : String) (s : Session β) (g : Journal) : Prop where
  steadfast : Steadfast monitor s.thread s.capture
  since : g.since = {}
  latest : g.latest = {}
  reports : ∀ r ∈ g.reports, r.window = {}

theorem read_untroubled [Zero β] {monitor : String} {s t : Session β} {g : Journal}
    (h : Untroubled monitor s g) (steadfast : Steadfast monitor t.thread t.capture) :
    Untroubled monitor t (g.note s .read t) := by
  obtain ⟨before, since, latest, reports⟩ := h
  have opened : (if s.reader.pc.takes then { g with latest := { owing := s.thread.owes } } else g) =
      g := by
    rw [before.clear]
    split
    · rw [show ({ owing := false } : Window) = g.latest from latest.symm]
    · rfl
  simp only [Journal.note, opened]
  split
  · refine ⟨steadfast, latest, latest, fun r at_ => ?_⟩
    obtain old | new := List.mem_append.mp at_
    · exact reports r old
    · rw [List.mem_singleton.mp new]
      exact since
  · exact ⟨steadfast, since, latest, reports⟩

theorem step_untroubled [Zero β] {monitor : String} {s t : Session β} {g : Journal}
    {l : SessionLabel β} (h : Untroubled monitor s g) (consistent : s.thread.Consistent)
    (healthy : Healthy monitor s l) (taken : s.step l = some t) :
    Untroubled monitor t (g.note s l t) := by
  by_cases own : ∃ input, l = .capture input
  · obtain ⟨input, rfl⟩ := own
    simp only [step, Option.map_eq_some_iff, Prod.exists] at taken
    obtain ⟨c, th, stepped, rfl⟩ := taken
    obtain ⟨steadfast, calm⟩ := capture_steadfast h.steadfast consistent healthy stepped
    refine ⟨?_, ?_, ?_, h.reports⟩
    · rw [noteCapture_thread, noteCapture_capture]
      exact steadfast
    · simp only [Journal.note, noteCapture_thread, calm, h.since]
      rfl
    · simp only [Journal.note, noteCapture_thread, calm, h.latest]
      rfl
  · obtain ⟨thread, same, _⟩ := moves_aside (step_moves taken) fun input at_ => own ⟨input, at_⟩
    have steadfast : Steadfast monitor t.thread t.capture := by
      rw [thread]
      refine ⟨h.steadfast.place, fun had => ?_⟩
      rw [same.currentMonitor]
      exact h.steadfast.kept had
    cases l with
    | capture input => exact absurd ⟨input, rfl⟩ own
    | read => exact read_untroubled h steadfast
    | _ => exact ⟨steadfast, h.since, h.latest, h.reports⟩

/-- Whatever a delivered frame tells of has happened since the pop of the one
delivered before it, or had yet to be flagged at that pop; and where streams
open and read, the monitor stays and no push finds the queue full, no frame
tells of anything. -/
theorem gap_reports_have_causes [Zero β] (ok : Session β → SessionLabel β → Prop)
    (informed : ∀ s l, ok s l → Informed s l) (p : Session β × Journal)
    (run : Steps.Watched step (fun s l t g => g.note s l t) ok Fresh {} p) :
    (∀ r ∈ p.2.reports, r.Caused) ∧
    ((∃ monitor, ∀ s l, ok s l → Healthy monitor s l) → ∀ r ∈ p.2.reports, ∃ info,
      r.info = some info ∧ info.flags.has frameDiscontinuity = false ∧
        info.flags.has frameReinit = false) := by
  have grounded : Asked p.1 ∧ Grounded p.1 p.2 := by
    apply Steps.Watched.invariant (fun s g => Asked s ∧ Grounded s g) ?_ ?_ run
    · rintro s fresh
      refine ⟨?_, fresh_grounded fresh⟩
      obtain ⟨c, control, target, clock, _, rfl⟩ := fresh
      rintro ⟨⟩
    · rintro s l t g reached ⟨asked, grounded⟩ meets taken
      have sound := reach_sound reached
      have effect := step_effect sound.queue sound.thread taken
      exact ⟨step_asked (informed s l meets) asked effect,
        step_grounded grounded sound.queue asked (step_moves taken)⟩
  refine ⟨grounded.2.reports, ?_⟩
  rintro ⟨monitor, healthy⟩ r at_
  have untroubled : Untroubled monitor p.1 p.2 := by
    apply Steps.Watched.invariant (Untroubled monitor) ?_ ?_ run
    · rintro s ⟨c, control, target, clock, _, rfl⟩
      exact ⟨⟨trivial, by rintro ⟨⟩⟩, rfl, rfl, by rintro _ ⟨⟩⟩
    · intro s l t g reached untroubled meets taken
      exact step_untroubled untroubled (reach_sound reached).thread (healthy s l meets) taken
  obtain ⟨info, given, flagged, _⟩ := grounded.2.reports r at_
  have unexplained : ¬ r.window.Explains := by
    rw [untroubled.reports r at_]
    rintro (some | owing)
    · exact some rfl
    · cases owing
  refine ⟨info, given, ?_, ?_⟩
  · exact Bool.eq_false_iff.mpr fun told => unexplained (flagged (.inl told))
  · exact Bool.eq_false_iff.mpr fun told => unexplained (flagged (.inr told))

/-- A healthy session: a captured frame, then silence a period later. -/
theorem gap_reports_have_causes_once : ∃ p : Session UInt8 × Journal,
    Steps.Watched step (fun s l t g => g.note s l t)
      (fun s l => Informed s l ∧ Healthy "m" s l) Fresh {} p ∧ p.2.reports.length = 2 ∧
    ∀ r ∈ p.2.reports, ∃ info, r.info = some info ∧
      info.flags.has frameDiscontinuity = false ∧ info.flags.has frameReinit = false := by
  have ran : (Steps.exec (Steps.watch step fun s l t g => Journal.note s l t g) (small, {})
      (openAttempt none ++ recordFrame 5 ++ readFirst ++ readFirst)).map
      (fun p => p.2.reports.length) = some 2 := by rfl
  obtain ⟨p, ran, reports⟩ := Option.map_eq_some_iff.mp ran
  have run : Steps.Watched step (fun s l t g => g.note s l t)
      (fun s l => Informed s l ∧ Healthy "m" s l) Fresh {} p :=
    Steps.Reach.exec (.start ⟨small_fresh, rfl⟩) (by decide) ran
  exact ⟨p, run, reports,
    (gap_reports_have_causes _ (fun _ _ meets => meets.1) p run).2 ⟨"m", fun _ _ meets => meets.2⟩⟩

/-- An open fails before a pop and is flagged after the drain that follows: the
next frame tells of it, and nothing has happened since that pop. -/
theorem gap_told_late : ∃ p : Session UInt8 × Journal,
    Steps.Watched step (fun s l t g => g.note s l t) Informed Fresh {} p ∧
    ∃ r ∈ p.2.reports, ∃ info, r.info = some info ∧
      info.flags.has frameDiscontinuity = true ∧ r.window.incidents = [] := by
  have ran : (Steps.exec (Steps.watch step fun s l t g => Journal.note s l t g) (small, {})
      (openAttempt (some "refused") ++ readFirst ++ [.capture .run] ++ readFirst)).map
      (fun p => p.2.reports) = some
        [⟨some ⟨20000, frameSilence ||| frameUnderrun, 0⟩, ⟨[.openFailed], false⟩⟩,
          ⟨some ⟨40000, reopenFlags ||| (frameSilence ||| frameUnderrun), 0⟩, ⟨[], true⟩⟩] := by
    rfl
  obtain ⟨p, ran, reports⟩ := Option.map_eq_some_iff.mp ran
  have run : Steps.Watched step (fun s l t g => g.note s l t) Informed Fresh {} p :=
    Steps.Reach.exec (.start ⟨small_fresh, rfl⟩) (by decide) ran
  refine ⟨p, run, ⟨some ⟨40000, reopenFlags ||| (frameSilence ||| frameUnderrun), 0⟩, ⟨[], true⟩⟩, ?_,
    _, rfl, by decide, rfl⟩
  rw [reports]
  exact List.mem_cons_of_mem _ (List.mem_singleton_self _)

end Session
end WebAudioCapture
