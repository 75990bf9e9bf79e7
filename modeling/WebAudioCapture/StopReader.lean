import WebAudioCapture.Lifetime
import WebAudioCapture.SessionInvariants

/-!
# A reader and a stop

`weba_capture_stop` closes the queue and wakes whoever sleeps on its condition
variable. A reader that waits in `pop` is done then. One that waits for the
deadline of its frame only looks at the clock again: it finds the queue closed
when the frame is due, and goes round its loop until then.
-/

namespace WebAudioCapture

variable {β : Type}

/-- Closed, with nothing left in it. -/
structure FrameQueue.Drained (q : FrameQueue β) : Prop where
  closed : q.closed = true
  empty : q.count = 0

/-- A pass-through handle, or one whose next frame is due. -/
def Capture.OnTime (c : Capture β) (now : Int) : Prop :=
  c.config.fixedRate = true →
    if c.deadlineValid then c.nextDeadline ≤ now else c.config.period ≤ 0

theorem Capture.OnTime.later {c : Capture β} {now now' : Int} (h : c.OnTime now)
    (later : now ≤ now') : c.OnTime now' := by
  intro fixed
  have due := h fixed
  split
  · rename_i valid
    rw [if_pos valid] at due
    omega
  · rename_i unset
    rw [if_neg unset] at due
    exact due

theorem Capture.OnTime.due {c : Capture β} {now : Int} (h : c.OnTime now)
    (fixed : c.config.fixedRate = true) : (c.startPacing now).nextDeadline ≤ now := by
  have due := h fixed
  unfold startPacing
  split
  · rename_i valid
    rw [if_pos valid] at due
    exact due
  · rename_i unset
    rw [if_neg unset] at due
    dsimp only
    omega

/-- A pop of a drained queue fails. -/
theorem Reader.pop_drained {r : Reader β} {c : Capture β} (drained : c.queue.Drained)
    (given : r.dst.isSome = true) :
    ∃ queue p, r.pop c = some ({ c with queue }, p) ∧ p.result < 0 := by
  obtain ⟨dst, at_⟩ := Option.isSome_iff_exists.mp given
  refine ⟨{ c.queue with dropped := 0 }, ⟨-1, c.queue.dropped, dst⟩, ?_, show (-1 : Int) < 0 by decide⟩
  simp only [pop, at_, Option.bind_some, FrameQueue.pop, drained.empty, drained.closed, if_true,
    Option.map_some]

theorem Reader.step_drained [Zero β] {r : Reader β} {c : Capture β} (now : Int)
    (at_ : r.pc.takes = true) (drained : c.queue.Drained) (given : r.dst.isSome = true) :
    ∃ c', r.step c now = some (c', r.finish Status.errState.code) := by
  obtain ⟨queue, p, popped, failed⟩ := pop_drained drained given
  refine ⟨{ c with queue }, ?_⟩
  cases pc : r.pc with
  | popping wait => simp only [step, pc, popped, Option.map_some, took, if_pos failed]
  | due => simp only [step, pc, popped, Option.map_some, took, if_pos failed]
  | _ =>
    rw [pc] at at_
    cases at_

/-- The checks of a call that is given somewhere to put its frame. -/
theorem Reader.enter_given {r : Reader β} (c : Capture β) (given : r.dst.isSome = true) :
    ∃ r', r.enter c = r' ∧ (c.running = false ∧ r' = r.finish Status.errState.code ∨
      c.running = true ∧ (r.capacityFrames < c.config.frameSamples ∧
        r' = r.finish Status.errInval.code ∨
        c.config.frameSamples ≤ r.capacityFrames ∧
          ∃ timeoutMs, r' = { r with timeoutMs, pc := .admitted })) := by
  have present : ¬r.dst.isNone = true := by
    rw [Option.isNone_iff_eq_none]
    exact Option.isSome_iff_ne_none.mp given
  refine ⟨_, rfl, ?_⟩
  unfold enter
  rw [if_neg present]
  cases running : c.running with
  | false => exact .inl ⟨rfl, rfl⟩
  | true =>
    refine .inr ⟨rfl, ?_⟩
    by_cases short : r.capacityFrames < c.config.frameSamples
    · rw [if_pos short]
      exact .inl ⟨short, rfl⟩
    · rw [if_neg short]
      exact .inr ⟨UInt32.not_lt.mp short, _, rfl⟩

namespace Session

/-- Stop has been requested, and the queue closed and emptied. -/
structure Halted (s : Session β) : Prop where
  asked : s.capture.stopRequested = true
  drained : s.capture.queue.Drained

/-- No new call: what goes on in the one in progress. -/
def Uncalled (_ : Session β) : SessionLabel β → Prop
  | .call _ => False
  | _ => True

theorem uncalled_read (s : Session β) : Uncalled s .read := trivial

/-- The iterations of the reader's loop that have begun. -/
def noteLap (s : Session β) (l : SessionLabel β) (_ : Session β) (laps : Nat) : Nat :=
  match l, s.reader.pc with
  | .read, .looping => laps + 1
  | _, _ => laps

/-- Whatever happens, the call in progress begins at most one more iteration,
never gets stuck, and returns `WEBA_ERR_STATE`. -/
def Unblocked [Zero β] (s : Session β) : Prop :=
  ∀ p, Steps.Watched step noteLap Uncalled (· = s) 0 p → p.2 ≤ 1 ∧
    (p.1.reader.isIdle = false → (p.1.step .read).isSome = true) ∧
    (p.1.reader.isIdle = true → p.1.reader.pc = .returned Status.errState.code)

/-- The call pops next, or will be due when it next looks at the clock; one
that has just been entered must also get as far as that, if it does not find
the handle stopped. -/
def Prompt (s : Session β) : Prop :=
  match s.reader.pc with
  | .popping _ | .due => True
  | .admitted | .looping | .sleeping _ => s.capture.OnTime s.clock
  | .entered => s.reader.dst.isSome = true ∧ (s.capture.running = false ∨
      s.capture.config.frameSamples ≤ s.reader.capacityFrames ∧ s.capture.OnTime s.clock)
  | _ => False

/-- The iterations a prompt call has left to begin. -/
def lapsLeft : ReadPc → Nat
  | .entered | .admitted | .looping | .sleeping _ => 1
  | _ => 0

/-- Past its checks, a call has somewhere to put its frame. -/
def Given (r : Reader β) : Prop := r.isIdle = false → r.pc = .entered ∨ r.dst.isSome = true

/-- The call is on its way to a pop. -/
structure Going (s : Session β) (laps : Nat) : Prop where
  busy : s.reader.isIdle = false
  laps : laps + lapsLeft s.reader.pc ≤ 1
  prompt : Prompt s
  given : Given s.reader

/-- The call has returned that the handle is stopped. -/
structure Ended (s : Session β) (laps : Nat) : Prop where
  returned : s.reader.pc = .returned Status.errState.code
  laps : laps ≤ 1

section
variable [Zero β] {s t : Session β} {laps : Nat}

theorem read_steps {c : Capture β} {r : Reader β}
    (stepped : s.reader.step s.capture s.clock = some (c, r)) :
    s.step .read = some (s.noteRead c r) := by
  simp only [step, stepped, Option.map_some]

omit [Zero β] in
theorem noteLap_elsewhere {l : SessionLabel β} (h : s.reader.pc ≠ .looping) :
    s.noteLap l t laps = laps := by
  unfold noteLap
  split
  · rename_i at_
    exact absurd at_ h
  · rfl

/-- The next step of a call on its way to a pop. -/
theorem Going.read (h : Going s laps) (drained : s.capture.queue.Drained) :
    ∃ t, s.step .read = some t ∧
      (Going t (s.noteLap .read t laps) ∨ Ended t (s.noteLap .read t laps)) := by
  obtain ⟨busy, left, prompt, given⟩ := h
  have past : s.reader.pc ≠ .entered → s.reader.dst.isSome = true :=
    fun past => (given busy).resolve_left past
  have ends : s.reader.pc.takes = true → s.reader.pc ≠ .entered → s.reader.pc ≠ .looping →
      ∃ t, s.step .read = some t ∧
        (Going t (s.noteLap .read t laps) ∨ Ended t (s.noteLap .read t laps)) := by
    intro takes entered looping
    obtain ⟨c, stepped⟩ := Reader.step_drained s.clock takes drained (past entered)
    refine ⟨_, read_steps stepped, .inr ⟨rfl, ?_⟩⟩
    rw [noteLap_elsewhere looping]
    omega
  have place := prompt
  unfold Prompt at place
  cases at_ : s.reader.pc with
  | entered =>
    have quiet : ∀ t, s.noteLap .read t laps = laps :=
      fun t => noteLap_elsewhere (by rw [at_]; rintro ⟨⟩)
    have stepped : s.reader.step s.capture s.clock = some (s.capture, s.reader.enter s.capture) := by
      simp only [Reader.step, at_]
    rw [at_] at place left
    obtain ⟨dst, stopped⟩ := place
    refine ⟨_, read_steps stepped, ?_⟩
    rw [quiet]
    obtain ⟨r, entered, leads⟩ := Reader.enter_given s.capture dst
    rw [entered]
    obtain ⟨_, rfl⟩ | ⟨running, leads⟩ := leads
    · exact .inr ⟨rfl, by omega⟩
    · obtain ⟨enough, due⟩ := stopped.resolve_left (by rw [running]; rintro ⟨⟩)
      obtain ⟨short, _⟩ | ⟨_, timeoutMs, rfl⟩ := leads
      · exact absurd enough (UInt32.not_le.mpr short)
      · exact .inl ⟨rfl, left, due, fun _ => .inr dst⟩
  | admitted =>
    have stepped : s.reader.step s.capture s.clock = some (s.capture,
        { s.reader with
          callDeadline := s.clock + s.reader.timeoutMs * millisecond, pc := .looping }) := by
      simp only [Reader.step, at_]
    rw [at_] at place left
    refine ⟨_, read_steps stepped, .inl ?_⟩
    rw [noteLap_elsewhere (by rw [at_]; rintro ⟨⟩)]
    exact ⟨rfl, left, place, fun _ => .inr (past (by rw [at_]; rintro ⟨⟩))⟩
  | looping =>
    have lap : ∀ t, s.noteLap .read t laps = laps + 1 := by
      intro t
      simp only [noteLap, at_]
    have dst := past (by rw [at_]; rintro ⟨⟩)
    rw [at_] at place left
    cases fixed : s.capture.config.fixedRate with
    | false =>
      have stepped : s.reader.step s.capture s.clock = some (s.capture, { s.reader with
          now := s.clock, pc := .popping ({ s.reader with now := s.clock }.popFor s.clock) }) := by
        simp only [Reader.step, at_, Reader.look, fixed, Bool.not_false, if_true]
      refine ⟨_, read_steps stepped, .inl ?_⟩
      rw [lap]
      exact ⟨rfl, left, trivial, fun _ => .inr dst⟩
    | true =>
      have stepped : s.reader.step s.capture s.clock = some
          (s.capture.startPacing s.clock, { s.reader with now := s.clock, pc := .due }) := by
        simp only [Reader.step, at_, Reader.look, fixed, Bool.not_true, Bool.false_eq_true, if_false,
          if_neg (Int.not_lt.mpr (place.due fixed))]
      refine ⟨_, read_steps stepped, .inl ?_⟩
      rw [lap]
      exact ⟨rfl, left, trivial, fun _ => .inr dst⟩
  | popping wait =>
    exact ends (at_ ▸ rfl) (by rw [at_]; rintro ⟨⟩) (by rw [at_]; rintro ⟨⟩)
  | sleeping wait =>
    have stepped : s.reader.step s.capture s.clock =
        some (s.capture, { s.reader with pc := .looping }) := by
      simp only [Reader.step, at_]
    rw [at_] at place left
    refine ⟨_, read_steps stepped, .inl ?_⟩
    rw [noteLap_elsewhere (by rw [at_]; rintro ⟨⟩)]
    exact ⟨rfl, left, place, fun _ => .inr (past (by rw [at_]; rintro ⟨⟩))⟩
  | due => exact ends (at_ ▸ rfl) (by rw [at_]; rintro ⟨⟩) (by rw [at_]; rintro ⟨⟩)
  | idle | returned _ =>
    rw [Reader.isIdle, at_] at busy
    cases busy
  | emptyHanded | draining _ | closing _ | stamping | reporting _ =>
    rw [at_] at place
    exact place.elim

/-! ## What others do meanwhile -/

omit [Zero β] in
/-- A capture thread leaves the pacing alone. -/
theorem thread_aside {c c' : Capture β} {th th' : CaptureThread β} {now : Int}
    (moved : th.Moves c now c' th') :
    c'.nextDeadline = c.nextDeadline ∧ c'.deadlineValid = c.deadlineValid := by
  cases moved with
  | push c' at_ pushed =>
    obtain ⟨_, _, rfl⟩ := Option.map_eq_some_iff.mp pushed
    exact ⟨rfl, rfl⟩
  | _ => exact ⟨rfl, rfl⟩

/-- What the reader sees of the rest: the same handle, maybe later, maybe no
longer running. -/
structure Beside (s t : Session β) : Prop where
  reader : t.reader = s.reader
  config : t.capture.config = s.capture.config
  nextDeadline : t.capture.nextDeadline = s.capture.nextDeadline
  deadlineValid : t.capture.deadlineValid = s.capture.deadlineValid
  running : t.capture.running = s.capture.running ∨ t.capture.running = false
  clock : s.clock ≤ t.clock

theorem beside_step {l : SessionLabel β} (moved : Moves s l t) (uncalled : Uncalled s l)
    (reads : l ≠ .read) : Beside s t := by
  cases moved with
  | tick elapsed => exact ⟨rfl, rfl, rfl, rfl, .inl rfl, by dsimp only; omega⟩
  | call args idle => exact uncalled.elim
  | read c r busy moved => exact absurd rfl reads
  | capture input c th moved =>
    obtain ⟨deadline, valid⟩ := thread_aside moved
    refine ⟨noteCapture_reader .., ?_, ?_, ?_, ?_, ?_⟩
    · rw [noteCapture_capture]
      exact CaptureThread.moves_config moved
    · rw [noteCapture_capture]
      exact deadline
    · rw [noteCapture_capture]
      exact valid
    · rw [noteCapture_capture]
      exact CaptureThread.moves_running moved
    · unfold noteCapture
      split <;> exact Int.le_refl _
  | requestStop => exact ⟨rfl, rfl, rfl, rfl, .inl rfl, Int.le_refl _⟩
  | closeQueue asked => exact ⟨rfl, rfl, rfl, rfl, .inl rfl, Int.le_refl _⟩
  | callback delivery => exact ⟨rfl, rfl, rfl, rfl, .inl rfl, Int.le_refl _⟩

omit [Zero β] in
theorem Beside.prompt (h : Beside s t) (prompt : Prompt s) : Prompt t := by
  have later : s.capture.OnTime s.clock → t.capture.OnTime t.clock := by
    intro due
    have due := due.later h.clock
    unfold Capture.OnTime at due ⊢
    rw [h.config, h.nextDeadline, h.deadlineValid]
    exact due
  unfold Prompt at prompt ⊢
  rw [h.reader]
  cases at_ : s.reader.pc with
  | popping wait => trivial
  | due => trivial
  | admitted | looping | sleeping wait =>
    rw [at_] at prompt
    exact later prompt
  | entered =>
    rw [at_] at prompt
    obtain ⟨dst, stopped | ⟨enough, due⟩⟩ := prompt
    · refine ⟨dst, .inl ?_⟩
      obtain same | down := h.running
      · exact same.trans stopped
      · exact down
    · rw [h.config]
      exact ⟨dst, .inr ⟨enough, later due⟩⟩
  | idle | emptyHanded | draining result | closing flags | stamping | reporting ns
  | returned result =>
    rw [at_] at prompt
    exact prompt

omit [Zero β] in
theorem thread_drained {c c' : Capture β} {th th' : CaptureThread β} {now : Int}
    (counted : c.queue.Counted) (drained : c.queue.Drained) (moved : th.Moves c now c' th') :
    c'.queue.Drained := by
  cases moved with
  | push c' at_ pushed =>
    obtain ⟨⟨queue, discarded⟩, took, rfl⟩ := Option.map_eq_some_iff.mp pushed
    have shut : c.queue.accepts = false := by
      rw [FrameQueue.accepts, drained.closed]
      rfl
    cases (FrameQueue.push_counted counted took).2 with
    | refused closed same => exact same ▸ drained
    | added open_ =>
      rw [shut] at open_
      cases open_
    | replaced open_ =>
      rw [shut] at open_
      cases open_
  | _ => exact drained

theorem counted_step {l : SessionLabel β} (counted : s.capture.queue.Counted) (moved : Moves s l t) :
    t.capture.queue.Counted := by
  cases moved with
  | read c r busy moved => exact (read_effect counted moved).1
  | capture input c th moved =>
    rw [noteCapture_capture]
    cases moved with
    | push c' at_ pushed =>
      obtain ⟨⟨queue, discarded⟩, took, rfl⟩ := Option.map_eq_some_iff.mp pushed
      exact (FrameQueue.push_counted counted took).1
    | _ => exact counted
  | closeQueue asked => exact counted.close
  | tick elapsed => exact counted
  | call args idle => exact counted
  | requestStop => exact counted
  | callback delivery => exact counted

/-- A drained queue stays so. -/
theorem drained_step {l : SessionLabel β} (counted : s.capture.queue.Counted)
    (drained : s.capture.queue.Drained) (moved : Moves s l t) : t.capture.queue.Drained := by
  cases moved with
  | read c r busy moved =>
    obtain ⟨_, closed, _, effect⟩ := read_effect counted moved
    have empty : c.queue.count = 0 := by
      cases effect with
      | nothing flags takes drains empty count => exact count
      | frame flags takes drains some => exact absurd drained.empty (Nat.ne_of_gt some)
      | quiet queue => exact queue ▸ drained.empty
      | drain queue => exact queue ▸ drained.empty
      | tell queue => exact queue ▸ drained.empty
      | close flags queue => exact queue ▸ drained.empty
    exact ⟨closed.trans drained.closed, empty⟩
  | capture input c th moved =>
    rw [noteCapture_capture]
    exact thread_drained counted drained moved
  | closeQueue asked => exact ⟨rfl, drained.empty⟩
  | tick elapsed => exact drained
  | call args idle => exact drained
  | requestStop => exact drained
  | callback delivery => exact drained

/-- The invariant of a call that a stop unblocks. -/
structure Unblocking (s : Session β) (laps : Nat) : Prop where
  counted : s.capture.queue.Counted
  drained : s.capture.queue.Drained
  call : Going s laps ∨ Ended s laps

theorem step_unblocking {l : SessionLabel β} (h : Unblocking s laps) (uncalled : Uncalled s l)
    (taken : s.step l = some t) (sound : t.capture.queue.Counted) :
    Unblocking t (s.noteLap l t laps) := by
  have moved := step_moves taken
  refine ⟨sound, drained_step h.counted h.drained moved, ?_⟩
  by_cases reads : l = .read
  · subst reads
    obtain going | ended := h.call
    · obtain ⟨t', taken', call⟩ := going.read h.drained
      rw [taken] at taken'
      cases taken'
      exact call
    · cases moved with
      | read c r busy moved =>
        rw [Reader.isIdle, ended.returned] at busy
        cases busy
  · have beside := beside_step moved uncalled reads
    have same : s.noteLap l t laps = laps := by
      unfold noteLap
      split
      · exact absurd rfl reads
      · rfl
    rw [same]
    obtain going | ended := h.call
    · refine .inl ⟨?_, ?_, beside.prompt going.prompt, ?_⟩
      · rw [beside.reader]
        exact going.busy
      · rw [beside.reader]
        exact going.laps
      · rw [beside.reader]
        exact going.given
    · refine .inr ⟨?_, ended.laps⟩
      rw [beside.reader]
      exact ended.returned

end

/-- A prompt call is unblocked. -/
theorem prompt_unblocked [Zero β] {s : Session β} (counted : s.capture.queue.Counted)
    (drained : s.capture.queue.Drained) (busy : s.reader.isIdle = false) (given : Given s.reader)
    (prompt : Prompt s) : Unblocked s := by
  intro p run
  have start : Going s 0 := by
    refine ⟨busy, ?_, prompt, given⟩
    unfold lapsLeft
    split <;> decide
  have unblocking : Unblocking p.1 p.2 := by
    apply Steps.Watched.invariant Unblocking ?_ ?_ run
    · rintro _ rfl
      exact ⟨counted, drained, .inl start⟩
    · intro u l t laps _ h uncalled taken
      exact step_unblocking h uncalled taken (counted_step h.counted (step_moves taken))
  obtain going | ended := unblocking.call
  · refine ⟨?_, ?_, ?_⟩
    · have := going.laps
      omega
    · intro _
      obtain ⟨t, taken, _⟩ := going.read unblocking.drained
      rw [taken]
      rfl
    · intro idle
      rw [going.busy] at idle
      cases idle
  · refine ⟨ended.laps, ?_, fun _ => ended.returned⟩
    intro busy
    rw [Reader.isIdle, ended.returned] at busy
    cases busy

/-! ## Calls a stop does not unblock -/

section
variable [Zero β] {s t : Session β}

theorem Unblocked.enabled (h : Unblocked s) (busy : s.reader.isIdle = false) :
    ∃ t, s.step .read = some t :=
  Option.isSome_iff_exists.mp ((h (s, 0) (.start ⟨rfl, rfl⟩)).2.1 busy)

/-- The rest of an unblocked call is unblocked. -/
theorem Unblocked.after {l : SessionLabel β} (h : Unblocked s) (uncalled : Uncalled s l)
    (taken : s.step l = some t) (lap : s.noteLap l t 0 = 0) : Unblocked t := by
  intro p run
  apply h p
  apply Steps.Watched.after uncalled taken
  rw [lap]
  exact run

theorem Unblocked.returned {result : Int} (h : Unblocked s) (done : s.reader.pc = .returned result) :
    result = Status.errState.code := by
  have idle : s.reader.isIdle = true := by rw [Reader.isIdle, done]
  have state := (h (s, 0) (.start ⟨rfl, rfl⟩)).2.2 idle
  rw [done] at state
  exact ReadPc.returned.inj state

/-- A call that is not on time sleeps or gives up, and the queue is not asked. -/
theorem look_early (at_ : s.reader.pc = .looping) (early : ¬s.capture.OnTime s.clock) :
    ∃ pc, s.step .read = some
        (s.noteRead (s.capture.startPacing s.clock) { s.reader with now := s.clock, pc }) ∧
      (pc = .returned 0 ∨ ∃ wait, pc = .sleeping wait) := by
  have fixed : s.capture.config.fixedRate = true := by
    apply Bool.of_not_eq_false
    intro pass
    exact early fun fixed => by rw [pass] at fixed; cases fixed
  have soon : s.clock < (s.capture.startPacing s.clock).nextDeadline := by
    apply Int.not_le.mp
    intro due
    apply early
    intro _
    unfold Capture.startPacing at due
    split
    · rename_i valid
      rw [if_pos valid] at due
      exact due
    · rename_i unset
      rw [if_neg unset] at due
      dsimp only at due
      omega
  have looked : ∃ pc, s.reader.look s.capture s.clock =
        (s.capture.startPacing s.clock, { s.reader with now := s.clock, pc }) ∧
      (pc = .returned 0 ∨ ∃ wait, pc = .sleeping wait) := by
    simp only [Reader.look, fixed, Bool.not_true, Bool.false_eq_true, if_false, if_pos soon]
    split
    · exact ⟨_, rfl, .inl rfl⟩
    · exact ⟨_, rfl, .inr ⟨_, rfl⟩⟩
  obtain ⟨pc, looked, leads⟩ := looked
  refine ⟨pc, read_steps ?_, leads⟩
  simp only [Reader.step, at_, looked]

/-- A call about to look at the clock is unblocked only when on time. -/
theorem Unblocked.looping (h : Unblocked s) (at_ : s.reader.pc = .looping) :
    s.capture.OnTime s.clock := by
  apply Classical.byContradiction
  intro early
  obtain ⟨pc, looked, leads⟩ := look_early at_ early
  have first : Steps.Watched step noteLap Uncalled (· = s) 0
      (s.noteRead (s.capture.startPacing s.clock) { s.reader with now := s.clock, pc }, 1) := by
    have lap : ∀ t, s.noteLap .read t 0 = 1 := by
      intro t
      simp only [noteLap, at_]
    apply Steps.Watched.after (uncalled_read s) looked
    rw [lap]
    exact .start ⟨rfl, rfl⟩
  obtain rfl | ⟨wait, rfl⟩ := leads
  · -- it has given up, with the wrong result
    cases ReadPc.returned.inj ((h _ first).2.2 rfl)
  · -- it sleeps, and goes round
    have awake := first.further (uncalled_read _) (read_steps rfl)
    obtain ⟨t, again⟩ := Option.isSome_iff_exists.mp ((h _ awake).2.1 rfl)
    have second := awake.further (uncalled_read _) again
    have laps := (h _ second).1
    simp only [noteLap, noteRead] at laps
    omega

theorem Unblocked.read {c : Capture β} {r : Reader β} (h : Unblocked s)
    (stepped : s.reader.step s.capture s.clock = some (c, r)) (elsewhere : s.reader.pc ≠ .looping) :
    Unblocked (s.noteRead c r) :=
  h.after (uncalled_read s) (read_steps stepped) (noteLap_elsewhere elsewhere)

/-- A call that has its frame returns it. -/
theorem Unblocked.not_closing {flags : FrameFlags} (h : Unblocked s) :
    s.reader.pc ≠ .closing flags := by
  intro at_
  have stepped : s.reader.step s.capture s.clock = some (s.capture.advance s.clock,
      (s.reader.report s.clock flags).finish 1) := by
    simp only [Reader.step, at_]
  have one : (1 : Int) = Status.errState.code :=
    (h.read stepped (by rw [at_]; rintro ⟨⟩)).returned rfl
  cases one

theorem Unblocked.not_reporting {ns : Int} (h : Unblocked s) : s.reader.pc ≠ .reporting ns := by
  intro at_
  have stepped : s.reader.step s.capture s.clock = some (s.capture.drainFlags,
      (s.reader.report ns (s.reader.flagsFor s.capture 1)).finish 1) := by
    simp only [Reader.step, at_]
  have one : (1 : Int) = Status.errState.code :=
    (h.read stepped (by rw [at_]; rintro ⟨⟩)).returned rfl
  cases one

theorem Unblocked.not_draining {result : Int} (h : Unblocked s) :
    s.reader.pc ≠ .draining result := by
  intro at_
  have busy : s.reader.isIdle = false := by rw [Reader.isIdle, at_]
  obtain ⟨t, taken⟩ := h.enabled busy
  have next := h.after (uncalled_read s) taken (noteLap_elsewhere (by rw [at_]; rintro ⟨⟩))
  simp only [step, Reader.step, at_, Option.map_map, Option.map_eq_some_iff, Function.comp] at taken
  obtain ⟨r, _, rfl⟩ := taken
  exact next.not_closing rfl

/-- A call whose pop has timed out gives up at its own deadline. -/
theorem Unblocked.not_emptyHanded (h : Unblocked s) : s.reader.pc ≠ .emptyHanded := by
  intro at_
  let late : Session β := { s with clock := s.clock + (s.reader.callDeadline - s.clock).toNat }
  have waited : Unblocked late :=
    h.after (l := .tick _) trivial rfl (noteLap_elsewhere (by rw [at_]; rintro ⟨⟩))
  have passed : late.reader.callDeadline ≤ late.clock := by
    dsimp only [late]
    omega
  have stepped : late.reader.step late.capture late.clock = some (s.capture, s.reader.finish 0) := by
    rw [Reader.step, show late.reader.pc = .emptyHanded from at_]
    dsimp only
    rw [if_pos passed]
  have zero : (0 : Int) = Status.errState.code :=
    (waited.read stepped (by rw [show late.reader.pc = .emptyHanded from at_]; rintro ⟨⟩)).returned rfl
  cases zero

/-- A call that is unblocked passes its checks only to a frame that is due. -/
theorem Unblocked.entered (h : Unblocked s) (at_ : s.reader.pc = .entered) :
    s.reader.dst.isSome = true ∧ (s.capture.running = false ∨
      s.capture.config.frameSamples ≤ s.reader.capacityFrames ∧ s.capture.OnTime s.clock) := by
  have stepped : s.reader.step s.capture s.clock = some (s.capture, s.reader.enter s.capture) := by
    simp only [Reader.step, at_]
  have next := h.read stepped (by rw [at_]; rintro ⟨⟩)
  have given : s.reader.dst.isSome = true := by
    apply Option.isSome_iff_ne_none.mpr
    intro absent
    rw [Reader.enter, if_pos (Option.isNone_iff_eq_none.mpr absent)] at next
    have inval : Status.errInval.code = Status.errState.code := next.returned rfl
    cases inval
  refine ⟨given, ?_⟩
  obtain ⟨r, entered, leads⟩ := Reader.enter_given s.capture given
  rw [entered] at next
  obtain ⟨stopped, _⟩ | ⟨_, ⟨_, rfl⟩ | ⟨enough, timeoutMs, rfl⟩⟩ := leads
  · exact .inl stopped
  · have inval : Status.errInval.code = Status.errState.code := next.returned rfl
    cases inval
  · have begun := next.read rfl (by rintro ⟨⟩)
    exact .inr ⟨enough, begun.looping rfl⟩

/-- An unblocked call is on its way to a pop. -/
theorem unblocked_prompt (h : Unblocked s) (busy : s.reader.isIdle = false) : Prompt s := by
  unfold Prompt
  cases at_ : s.reader.pc with
  | popping wait => trivial
  | due => trivial
  | looping => exact h.looping at_
  | entered => exact h.entered at_
  | admitted =>
    have stepped : s.reader.step s.capture s.clock = some (s.capture,
        { s.reader with
          callDeadline := s.clock + s.reader.timeoutMs * millisecond, pc := .looping }) := by
      simp only [Reader.step, at_]
    exact (h.read stepped (by rw [at_]; rintro ⟨⟩)).looping rfl
  | sleeping wait =>
    have stepped : s.reader.step s.capture s.clock =
        some (s.capture, { s.reader with pc := .looping }) := by
      simp only [Reader.step, at_]
    exact (h.read stepped (by rw [at_]; rintro ⟨⟩)).looping rfl
  | emptyHanded => exact h.not_emptyHanded at_
  | draining result => exact h.not_draining at_
  | closing flags => exact h.not_closing at_
  | reporting ns => exact h.not_reporting at_
  | stamping =>
    have stepped : s.reader.step s.capture s.clock =
        some (s.capture, { s.reader with pc := .reporting s.clock }) := by
      simp only [Reader.step, at_]
    exact (h.read stepped (by rw [at_]; rintro ⟨⟩)).not_reporting rfl
  | idle => rw [Reader.isIdle, at_] at busy; cases busy
  | returned result => rw [Reader.isIdle, at_] at busy; cases busy

/-! ## Every stop -/

theorem read_given {c c' : Capture β} {r r' : Reader β} {now : Int} (busy : r.isIdle = false)
    (given : Given r) (moved : r.Moves c now c' r') : Given r' := by
  have kept : r.pc ≠ .entered → r.dst.isSome = true := fun past => (given busy).resolve_left past
  intro busy'
  cases moved with
  | accept timeoutMs at_ running given enough => exact .inr given
  | begin at_ => exact .inr (kept (by rw [at_]; rintro ⟨⟩))
  | wait at_ pass => exact .inr (kept (by rw [at_]; rintro ⟨⟩))
  | early next at_ fixed soon leads => exact .inr (kept (by rw [at_]; rintro ⟨⟩))
  | reach at_ fixed passed => exact .inr (kept (by rw [at_]; rintro ⟨⟩))
  | again at_ =>
    refine .inr (kept ?_)
    obtain at_ | ⟨wait, at_⟩ := at_
    · rw [at_]; rintro ⟨⟩
    · rw [at_]; rintro ⟨⟩
  | popWaiting c' p wait at_ popped open_ => exact .inr rfl
  | popDue c' p at_ popped open_ => exact .inr rfl
  | drain result dst at_ filled =>
    refine .inr ?_
    by_cases empty : result = 0
    · rw [if_pos empty] at filled
      simp only [Reader.silence, Option.bind_eq_some_iff, Option.map_eq_some_iff] at filled
      obtain ⟨_, _, out, _, same⟩ := filled
      have wrote : some out = dst := congrArg Reader.dst same
      exact wrote ▸ rfl
    · rw [if_neg empty] at filled
      have same : r.dst = dst := congrArg Reader.dst (Option.some.inj filled)
      exact same ▸ kept (by rw [at_]; rintro ⟨⟩)
  | stamp at_ => exact .inr (kept (by rw [at_]; rintro ⟨⟩))
  | refuse status at_ refused => cases busy'
  | expire at_ late => cases busy'
  | shut c' p at_ popped closed => cases busy'
  | close flags at_ => cases busy'
  | tell ns at_ => cases busy'

theorem step_given {l : SessionLabel β} (given : Given s.reader) (moved : Moves s l t) :
    Given t.reader := by
  cases moved with
  | call args idle => exact fun _ => .inl rfl
  | read c r busy moved => exact read_given busy given moved
  | capture input c th moved =>
    rw [noteCapture_reader]
    exact given
  | tick elapsed => exact given
  | requestStop => exact given
  | closeQueue asked => exact given
  | callback delivery => exact given

theorem reach_given {ok : Session β → SessionLabel β → Prop} (run : Steps.Reach step ok Fresh s) :
    Given s.reader := by
  apply Steps.Reach.invariant (fun s => Given s.reader) ?_ ?_ run
  · rintro _ ⟨c, control, target, clock, _, rfl⟩ busy
    cases busy
  · intro s l t _ given _ taken
    exact step_given given (step_moves taken)

/-- Once a stop has closed a queue that is empty, a call in progress begins at
most one more iteration and returns `WEBA_ERR_STATE`, whatever happens, exactly
if it is about to pop or its frame is due. -/
theorem stop_unblocks_iff (run : Steps.Reach step Steps.Any Fresh s) (halted : Halted s)
    (busy : s.reader.isIdle = false) : Unblocked s ↔ Prompt s := by
  constructor
  · intro unblocked
    exact unblocked_prompt unblocked busy
  · intro prompt
    exact prompt_unblocked (reach_sound run).queue halted.drained busy (reach_given run) prompt

end

/-- A call of a small session, asleep until its frame is due. -/
def fallAsleep : List (SessionLabel UInt8) :=
  [.call ⟨some [7, 7], 1, some ⟨0, 0, 0⟩, 1000⟩, .read, .read, .read]

/-- A stop, as far as its reader can tell. -/
def halt : List (SessionLabel UInt8) := [.requestStop, .closeQueue]

/-- Stopped when its frame is due, the sleeper returns. -/
theorem stop_unblocks_due : ∃ s : Session UInt8, Steps.Reach step Steps.Any Fresh s ∧ Halted s ∧
    s.reader.pc = .sleeping 1020 ∧ Unblocked s := by
  obtain ⟨s, run, asleep, due, halted⟩ : ∃ s,
      Steps.exec step small (fallAsleep ++ [.tick 20000] ++ halt) = some s ∧
        s.reader.pc = .sleeping 1020 ∧ Prompt s ∧ Halted s := by
    refine ⟨_, rfl, rfl, ?_, rfl, rfl, rfl⟩
    intro _
    decide
  have reached : Steps.Reach step Steps.Any Fresh s :=
    Steps.Reach.exec (.start small_fresh) (Steps.meets_any ..) run
  have busy : s.reader.isIdle = false := by rw [Reader.isIdle, asleep]
  exact ⟨s, reached, halted, asleep, (stop_unblocks_iff reached halted busy).mpr due⟩

/-- Stopped before that, it goes round and round, at one and the same reading
of the clock. -/
theorem stop_leaves_spinning : ∃ s : Session UInt8, Steps.Reach step Steps.Any Fresh s ∧
    Halted s ∧ s.reader.isIdle = false ∧ ¬Unblocked s ∧
      ∀ laps, Steps.Watched step noteLap Uncalled (· = s) 0 (s, laps) := by
  obtain ⟨s, u, run, asleep, wake, awake, look, halted⟩ : ∃ s u,
      Steps.exec step small (fallAsleep ++ halt) = some s ∧ s.reader.pc = .sleeping 1020 ∧
        s.step .read = some u ∧ u.reader.pc = .looping ∧ u.step .read = some s ∧ Halted s :=
    ⟨_, _, rfl, rfl, rfl, rfl, rfl, rfl, rfl, rfl⟩
  have spin : ∀ laps, Steps.Watched step noteLap Uncalled (· = s) 0 (s, laps) := by
    intro laps
    induction laps with
    | zero => exact .start ⟨rfl, rfl⟩
    | succ laps ih =>
      have round := (ih.further (uncalled_read s) wake).further (uncalled_read u) look
      have quiet : s.noteLap .read u laps = laps :=
        noteLap_elsewhere (by rw [asleep]; rintro ⟨⟩)
      rw [quiet] at round
      simp only [noteLap, awake] at round
      exact round
  refine ⟨s, .exec (.start small_fresh) (Steps.meets_any ..) run, halted, ?_, ?_, spin⟩
  · rw [Reader.isIdle, asleep]
  · intro unblocked
    have laps := (unblocked _ (spin 2)).1
    dsimp only at laps
    omega

end Session
end WebAudioCapture
