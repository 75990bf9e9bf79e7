import WebAudioCapture.Drift
import WebAudioCapture.QueueRefinement

/-!
# A prompt consumer

On a virtual clock code takes no time: the clock moves only while a call
sleeps, and by as much as it sleeps. A call sleeps a millisecond longer than
its frame needs. Frames of a millisecond or more make up for that, shorter ones
fall behind.
-/

namespace WebAudioCapture

variable {β : Type}

/-! ## The virtual clock -/

/-- A running handle whose queue is open and can be read. -/
structure Capture.Serving (c : Capture β) : Prop where
  running : c.running = true
  open_ : c.queue.closed = false
  sound : c.queue.count = 0 ∨ c.queue.WellFormed ∧ c.queue.slotBytes = c.config.frameBytes

namespace Cadence

/-- A call that waits long enough for its frame. -/
structure Ample (config : Config) (args : ReadArgs β) : Prop extends Roomy config args where
  timeout : framePeriod config.frameSamples config.sampleRate + 1000 ≤ args.timeoutMs * 1000

/-- When a call that sleeps is woken. -/
def wakeUp (s : Cadence β) (wait : Int) : Int := s.reader.now + wait * microsecond

/-- The clock moves only while the consumer sleeps, and by as much as it
sleeps. Every call is ample, and nobody stops the handle. -/
def Virtual (s : Cadence β) : CadenceLabel β → Prop
  | .tick elapsed => ∃ wait, s.reader.pc = .sleeping wait ∧ s.clock + elapsed ≤ s.wakeUp wait
  | .call args => Ample s.capture.config args
  | .read => ∀ wait, s.reader.pc = .sleeping wait → s.clock = s.wakeUp wait
  | .others c => c.Serving

/-- Counts the consumer's steps. -/
def countTurn (_ : Cadence β) (l : CadenceLabel β) (_ : Cadence β) (turns : Nat) : Nat :=
  match l with
  | .call _ | .read => turns + 1
  | .tick _ | .others _ => turns

/-- The consumer or, while it sleeps, the clock can go on. -/
def GoesOn [Zero β] (s : Cadence β) : Prop :=
  (Virtual s .read ∧ ∃ t, s.step .read = some t) ∨
    ∃ wait, s.reader.pc = .sleeping wait ∧ s.clock < s.wakeUp wait

/-- A consumer that began at reading `start` has had each frame within a
millisecond of its time: every call handed out a frame or is on its way to,
within nine steps a frame. -/
structure Served [Zero β] (start : Int) (s : Cadence β) (turns : Nat) : Prop where
  prompt : ∀ (n : Nat) e, s.deliveries[n]? = some e →
    e.after ≤ start + (n + 1 : Nat) * s.capture.config.period + millisecond
  answered : ∀ result, s.reader.pc = .returned result → result = 1
  lively : turns ≤ 9 * s.deliveries.length + 8
  enabled : s.reader.isIdle = false → GoesOn s

/-- A prompt consumer of the handle is always served. -/
def KeepsUp [Zero β] (c : Capture β) : Prop :=
  ∀ start p, Steps.Watched step countTurn Virtual (· = begin c start) 0 p → Served start p.1 p.2

/-- What the truncation to microseconds leaves is less than a microsecond. -/
theorem toMicroseconds_bounds {ns : Int} (h : 0 ≤ ns) :
    toMicroseconds ns * microsecond ≤ ns ∧ ns < toMicroseconds ns * microsecond + microsecond := by
  rw [toMicroseconds, Int.tdiv_eq_ediv_of_nonneg h]
  simp only [microsecond]
  omega

theorem nextDue_valid {s : Cadence β} (valid : s.capture.deadlineValid = true) :
    s.nextDue = s.capture.nextDeadline := by
  rw [nextDue, Capture.startPacing, if_pos valid]

theorem nextDue_same {s : Cadence β} {c : Capture β} (same : s.capture.SamePacing c)
    (r : Reader β) : nextDue { s with capture := c, reader := r } = s.nextDue := by
  obtain ⟨config, deadline, valid⟩ := same
  simp only [nextDue, Capture.startPacing, config, valid]
  split
  · exact deadline
  · rfl

/-! ## Short frames -/

section
variable [Zero β] {s : Cadence β} {args : ReadArgs β}

/-- From rest, a call goes to sleep until its frame is due. -/
theorem falls_asleep (rest : AtRest s) (ample : Ample s.capture.config args)
    (soon : s.clock < s.nextDue) (near : s.nextDue ≤ s.clock + s.capture.config.period) :
    ∃ u, Steps.Reach step Virtual (· = s) u ∧
      u.reader.pc = .sleeping (toMicroseconds (s.nextDue - s.clock) + 1000) ∧
      u.capture = s.capture.startPacing s.clock ∧ u.reader.now = s.clock ∧ u.clock = s.clock ∧
      u.deliveries = s.deliveries ∧ u.reader.dst = args.dst := by
  let waiting : Reader β := asked args s.clock
  let asleep : Reader β :=
    { waiting with
      now := s.clock, pc := .sleeping (toMicroseconds (s.nextDue - s.clock) + 1000) }
  have at_loop : Steps.Reach step Virtual (· = s) { s with reader := waiting } :=
    enters rest ample.toRoomy ample fun u awake wait at_ => absurd at_ (awake wait)
  have patience : s.nextDue + millisecond ≤ waiting.callDeadline := by
    have timeout := ample.timeout
    simp only [Config.period, microsecond] at near
    simp only [waiting, asked, millisecond]
    omega
  have look : waiting.step s.capture s.clock = some (s.capture.startPacing s.clock, asleep) := by
    have looked := Reader.look_patient (r := waiting) rest.fixed patience
    have soon' : s.clock < (s.capture.startPacing s.clock).nextDeadline := soon
    rw [if_pos soon'] at looked
    exact congrArg some looked
  have at_sleep := at_loop.next (l := .read) (by rintro _ ⟨⟩) (read_steps look)
  refine ⟨_, at_sleep, rfl, rfl, rfl, rfl, ?_, rfl⟩
  simp only [note]
  exact if_neg (by rintro ⟨⟩)

/-- From rest, a call sleeps until a millisecond after its frame is due and
hands out silence, and the handle is at rest again. -/
theorem hands_silence {wait : Nat} (rest : AtRest s) (ample : Ample s.capture.config args)
    (soon : s.clock < s.nextDue) (near : s.nextDue ≤ s.clock + s.capture.config.period)
    (exactly : s.nextDue - s.clock = wait * microsecond) :
    ∃ u, Steps.Reach step Virtual (· = s) u ∧ AtRest u ∧ u.clock = s.nextDue + millisecond ∧
      u.capture.config = s.capture.config ∧ u.capture.deadlineValid = true ∧
      u.capture.nextDeadline =
        Pacer.next s.capture.config.period s.nextDue (s.nextDue + millisecond) ∧
      u.deliveries = s.deliveries ++ [⟨u.clock, u.clock, u.capture.nextDeadline⟩] := by
  obtain ⟨dst, given, room⟩ := ample.room
  obtain ⟨u, run, asleep, capture, now, clock, deliveries, dst_eq⟩ :=
    falls_asleep rest ample soon near
  have waits : toMicroseconds (s.nextDue - s.clock) = wait := by
    rw [exactly, toMicroseconds, Int.mul_tdiv_cancel _ (by decide)]
  rw [waits] at asleep
  let due : Cadence β := { u with clock := u.clock + ((wait + 1000) * 1000 : Nat) }
  let woken : Cadence β := { due with reader := { u.reader with pc := .looping } }
  have wakes : due.clock = due.wakeUp (wait + 1000) := by
    simp only [due, wakeUp, now, clock, microsecond]
    push_cast
    rfl
  have on_time : due.clock = s.nextDue + millisecond := by
    simp only [microsecond] at exactly
    simp only [due, clock, millisecond]
    omega
  have slept : u.step (.tick ((wait + 1000) * 1000)) = some due := rfl
  have at_wake : Steps.Reach step Virtual (· = s) due :=
    run.next (l := .tick ((wait + 1000) * 1000)) ⟨_, asleep, Int.le_of_eq wakes⟩ slept
  have wake : due.reader.step due.capture due.clock = some (due.capture, woken.reader) := by
    simp only [Reader.step, due, asleep, woken]
  have at_loop : Steps.Reach step Virtual (· = s) woken := by
    refine at_wake.next (l := .read) ?_ (read_onto wake rfl (by rintro ⟨⟩))
    intro wait' at_
    rw [show due.reader.pc = _ from asleep] at at_
    cases at_
    exact wakes
  have paced : u.capture = { s.capture with nextDeadline := s.nextDue, deadlineValid := true } :=
    capture.trans (s.capture.startPacing_shape s.clock)
  have config : woken.capture.config = s.capture.config := by simp only [woken, due, paced]
  have reads : ∀ u : Cadence β, (∀ wait, u.reader.pc ≠ .sleeping wait) → Virtual u .read :=
    fun _ awake wait at_ => absurd at_ (awake wait)
  obtain ⟨v, on, idle, clock', capture', _, deliveries'⟩ :=
    gives_silence (s := woken) rfl (by rw [config]; exact rest.fixed)
      (by simp only [woken, due, paced])
      (by rw [show woken.clock = _ from on_time]; simp only [woken, due, paced, millisecond]; omega)
      (by simp only [woken, due, paced]; exact rest.open_)
      (by simp only [woken, due, paced]; exact rest.empty) (dst_eq.trans given)
      (by rw [config]; exact room) reads
  have after : v.clock = s.nextDue + millisecond := clock'.trans on_time
  rw [show woken.clock = _ from on_time, show woken.capture = _ from paced] at capture'
  rw [show woken.clock = v.clock from clock'.symm, show woken.deliveries = _ from deliveries]
    at deliveries'
  refine ⟨v, at_loop.trans on, ⟨idle, ?_, ?_, ?_, ?_⟩, after, ?_, ?_, ?_, deliveries'⟩
  · rw [capture']; exact rest.running
  · rw [capture']; exact rest.fixed
  · rw [capture']; exact rest.open_
  · rw [capture']; exact rest.empty
  · rw [capture']; rfl
  · rw [capture']; rfl
  · rw [capture']; rfl

/-- A call with room for one frame and a patience of two milliseconds. -/
def twoMilliseconds (config : Config) : ReadArgs β :=
  { dst := some (List.replicate config.frameBytes 0), capacityFrames := config.frameSamples
    info := none, timeoutMs := 2 }

/-- The second of two frames shorter than a millisecond is late by a
millisecond too many. -/
theorem falls_behind {c : Capture β} (created : Capture.Created c)
    (fixed : c.config.fixedRate = true) (positive : 0 < c.config.period)
    (short : c.config.period < millisecond) : ¬KeepsUp c := by
  intro keeps
  have ample : Ample c.config (twoMilliseconds (β := β) c.config) := by
    refine ⟨⟨⟨_, rfl, by rw [List.length_replicate]⟩, UInt32.le_refl _, ?_⟩, ?_⟩
    · simp only [twoMilliseconds]
      decide
    simp only [Config.period, microsecond, millisecond] at short
    simp only [twoMilliseconds]
    omega
  obtain ⟨wait, lasts⟩ : ∃ wait : Nat, c.config.period = wait * microsecond := ⟨_, rfl⟩
  have first_due : (begin c 0).nextDue = c.config.period := by
    have start := begin_fresh 0 created fixed
    rw [nextDue, Capture.startPacing, if_neg (by rw [start.2.1]; decide)]
    exact Int.zero_add _
  have first_wait : (begin c 0).nextDue - (begin c 0).clock = wait * microsecond := by
    rw [first_due, ← lasts]
    exact Int.sub_zero _
  obtain ⟨u, first, rest, clock, config, valid, deadline, deliveries⟩ :=
    hands_silence (begin_atRest 0 created fixed) ample (by rw [first_due]; exact positive)
      (Int.le_of_eq (first_due.trans (Int.zero_add _).symm)) first_wait
  change u.capture.config = c.config at config
  change u.capture.nextDeadline =
    Pacer.next c.config.period (begin c 0).nextDue ((begin c 0).nextDue + millisecond) at deadline
  rw [first_due] at clock deadline
  have second_due : u.nextDue = u.clock + c.config.period := by
    rw [nextDue_valid valid, deadline, clock, Pacer.next, if_pos (by omega)]
  have second_wait : u.nextDue - u.clock = wait * microsecond := by
    rw [second_due, ← lasts]
    exact add_sub_cancel_left _ _
  obtain ⟨v, second, _, clock', config', _, _, deliveries'⟩ :=
    hands_silence rest (by rw [config]; exact ample) (by omega)
      (by rw [config]; exact Int.le_of_eq second_due) second_wait
  obtain ⟨turns, watched⟩ := (first.trans second).watched countTurn 0
  have late := (keeps 0 _ watched).prompt 1 ⟨v.clock, v.clock, v.capture.nextDeadline⟩ (by
    rw [deliveries', deliveries]
    rfl)
  dsimp only at late
  rw [clock', second_due, clock, config', config] at late
  simp only [millisecond] at late
  omega

end

/-! ## Long frames -/

/-- The consumer has its next frame still to come. -/
def Early (s : Cadence β) : Prop := s.clock + s.capture.config.period ≤ s.nextDue + millisecond

/-- The consumer is awake no more than a millisecond after its frame was due. -/
def Due (s : Cadence β) : Prop := s.nextDue ≤ s.clock ∧ s.clock ≤ s.nextDue + millisecond

theorem Due.same {s : Cadence β} {c : Capture β} (h : Due s) (same : s.capture.SamePacing c)
    (r : Reader β) : Due { s with capture := c, reader := r } := by
  unfold Due
  rw [nextDue_same same]
  exact h

/-- The consumer's buffer holds a frame. -/
def Roomed (s : Cadence β) : Prop :=
  ∃ dst, s.reader.dst = some dst ∧ s.capture.config.frameBytes ≤ dst.length

/-- The call outlasts its frame by a millisecond. -/
def Outlasts (s : Cadence β) : Prop := s.nextDue + millisecond ≤ s.reader.callDeadline

/-- Where the consumer stands, `turns` steps after it began. -/
def Place (s : Cadence β) (turns : Nat) : Prop :=
  match s.reader.pc with
  | .idle => Early s ∧ turns ≤ 9 * s.deliveries.length
  | .returned result => result = 1 ∧ Early s ∧ turns ≤ 9 * s.deliveries.length
  | .entered => Early s ∧ Roomed s ∧ s.capture.config.frameSamples ≤ s.reader.capacityFrames ∧
      s.capture.config.period + millisecond ≤ s.reader.timeoutMs * millisecond ∧
      turns ≤ 9 * s.deliveries.length + 1
  | .admitted => Early s ∧ Roomed s ∧
      s.capture.config.period + millisecond ≤ s.reader.timeoutMs * millisecond ∧
      turns ≤ 9 * s.deliveries.length + 2
  | .looping => Roomed s ∧ Outlasts s ∧ (Early s ∧ turns ≤ 9 * s.deliveries.length + 3 ∨
      Due s ∧ turns ≤ 9 * s.deliveries.length + 5)
  | .sleeping wait => Roomed s ∧ Outlasts s ∧ s.capture.deadlineValid = true ∧
      s.clock ≤ s.wakeUp wait ∧ s.nextDue ≤ s.wakeUp wait ∧
      s.wakeUp wait ≤ s.nextDue + millisecond ∧ turns ≤ 9 * s.deliveries.length + 4
  | .due => Roomed s ∧ s.capture.deadlineValid = true ∧ Due s ∧
      turns ≤ 9 * s.deliveries.length + 6
  | .draining _ => Roomed s ∧ s.capture.deadlineValid = true ∧ Due s ∧
      turns ≤ 9 * s.deliveries.length + 7
  | .closing _ => s.capture.deadlineValid = true ∧ Due s ∧ turns ≤ 9 * s.deliveries.length + 8
  | _ => False

/-- What holds of a prompt consumer whose frames take a millisecond or more. -/
structure Keeping (start : Int) (s : Cadence β) (turns : Nat) : Prop where
  serving : s.capture.Serving
  fixed : s.capture.config.fixedRate = true
  long : millisecond ≤ s.capture.config.period
  due : s.nextDue = start + (s.deliveries.length + 1 : Nat) * s.capture.config.period
  near : s.nextDue ≤ s.clock + s.capture.config.period
  prompt : ∀ (n : Nat) e, s.deliveries[n]? = some e →
    e.after ≤ start + (n + 1 : Nat) * s.capture.config.period + millisecond
  place : Place s turns

section
variable {start : Int} {s : Cadence β} {turns : Nat}

/-- A pop into a buffer that holds a frame is defined, and leaves the queue
open and readable. -/
theorem pop_serving {c : Capture β} {r : Reader β} {dst : List β} (serving : c.Serving)
    (given : r.dst = some dst) (room : c.config.frameBytes ≤ dst.length) :
    ∃ queue p, r.pop c = some ({ c with queue }, p) ∧
      ({ c with queue } : Capture β).Serving ∧ 0 ≤ p.result ∧ p.out.length = dst.length := by
  obtain ⟨running, open_, sound⟩ := serving
  by_cases empty : c.queue.count = 0
  · refine ⟨{ c.queue with dropped := 0 }, ⟨0, c.queue.dropped, dst⟩, ?_,
      ⟨running, open_, .inl empty⟩, Int.le_refl _, rfl⟩
    simp only [Reader.pop, given, Option.bind_some, FrameQueue.pop, empty, if_true, open_,
      Bool.false_eq_true, if_false, Option.map_some]
  · obtain none | ⟨wellFormed, slot⟩ := sound
    · exact absurd none empty
    cases queued : c.queue.frames with
    | nil =>
      have length := c.queue.frames_length
      rw [queued, List.length_nil] at length
      exact absurd length.symm empty
    | cons frame rest =>
      obtain ⟨queue, popped, taken⟩ :=
        FrameQueue.pop_frame wellFormed queued dst (by rw [slot]; exact room)
      have whole : frame.length = c.queue.slotBytes :=
        wellFormed.frames_whole frame (by rw [queued]; exact List.mem_cons_self)
      have serving : ({ c with queue } : Capture β).Serving :=
        ⟨running, taken.closed.trans open_, .inr ⟨taken.wellFormed, taken.slotBytes.trans slot⟩⟩
      refine ⟨queue, ⟨1, c.queue.dropped, frame ++ dst.drop c.queue.slotBytes⟩, ?_, serving, ?_, ?_⟩
      · simp only [Reader.pop, given, Option.bind_some, popped, Option.map_some]
      · exact Int.one_nonneg
      · rw [List.length_append, List.length_drop, whole, slot]
        omega

/-- A step of the reader that leaves the pacing as it is and hands out nothing. -/
theorem Keeping.move {c : Capture β} {r : Reader β} (h : Keeping start s turns)
    (serving : c.Serving) (same : s.capture.SamePacing c) (pending : r.pc ≠ .returned 1)
    (place : Place { s with capture := c, reader := r } (turns + 1)) :
    Keeping start (s.note c r) (turns + 1) := by
  obtain ⟨config, deadline, valid⟩ := same
  have noted : s.note c r = { s with capture := c, reader := r } := by
    simp only [note, valid, if_neg pending, Bool.not_and_self, Bool.false_eq_true, if_false]
  have due := nextDue_same ⟨config, deadline, valid⟩ r
  rw [noted]
  refine ⟨serving, ?_, ?_, ?_, ?_, ?_, place⟩
  · rw [config]; exact h.fixed
  · rw [config]; exact h.long
  · rw [due, config]; exact h.due
  · rw [due, config]; exact h.near
  · rw [config]; exact h.prompt

/-- A look at the clock, which may begin the pacing, moves no deadline. -/
theorem note_paced {r : Reader β} (pending : r.pc ≠ .returned 1) :
    (s.note (s.capture.startPacing s.clock) r).nextDue = s.nextDue ∧
      (s.note (s.capture.startPacing s.clock) r).deliveries = s.deliveries ∧
      (s.note (s.capture.startPacing s.clock) r).capture.config = s.capture.config :=
  ⟨nextDue_valid (Capture.startPacing_valid _ _), if_neg pending, Capture.startPacing_config _ _⟩

theorem Keeping.pace {r : Reader β} (h : Keeping start s turns) (pending : r.pc ≠ .returned 1)
    (place : Place (s.note (s.capture.startPacing s.clock) r) (turns + 1)) :
    Keeping start (s.note (s.capture.startPacing s.clock) r) (turns + 1) := by
  obtain ⟨due, deliveries, config⟩ := note_paced pending
  have serving : (s.capture.startPacing s.clock).Serving := by
    rw [Capture.startPacing_shape]
    exact ⟨h.serving.running, h.serving.open_, h.serving.sound⟩
  refine ⟨serving, ?_, ?_, ?_, ?_, ?_, place⟩
  · rw [config]
    exact h.fixed
  · rw [config]
    exact h.long
  · rw [due, deliveries, config]
    exact h.due
  · rw [due, config]
    exact h.near
  · rw [deliveries, config]
    exact h.prompt

/-- A call that finds its frame not due yet goes to sleep for it. -/
theorem place_asleep {r : Reader β}
    (at_ : r.pc = .sleeping (toMicroseconds (s.nextDue - s.clock) + 1000))
    (dst_eq : r.dst = s.reader.dst) (now : r.now = s.clock)
    (deadline : r.callDeadline = s.reader.callDeadline) (room : Roomed s) (outlasts : Outlasts s)
    (soon : s.clock < s.nextDue) (turn : turns ≤ 9 * s.deliveries.length + 3) :
    Place (s.note (s.capture.startPacing s.clock) r) (turns + 1) := by
  obtain ⟨due, deliveries, config⟩ := note_paced (s := s) (r := r) (by rw [at_]; rintro ⟨⟩)
  obtain ⟨dst, given, space⟩ := room
  have bounds := toMicroseconds_bounds (Int.le_of_lt (Int.sub_pos_of_lt soon))
  have wake : (s.note (s.capture.startPacing s.clock) r).wakeUp
      (toMicroseconds (s.nextDue - s.clock) + 1000) =
      s.clock + toMicroseconds (s.nextDue - s.clock) * microsecond + millisecond := by
    simp only [wakeUp, note, now, microsecond, millisecond]
    omega
  have stands : (s.note (s.capture.startPacing s.clock) r).reader.pc = _ := at_
  simp only [Place, stands]
  refine ⟨⟨dst, dst_eq.trans given, by rw [config]; exact space⟩, ?_,
    Capture.startPacing_valid _ _, ?_, ?_, ?_, ?_⟩
  · rw [Outlasts, due]
    exact outlasts.trans_eq deadline.symm
  · rw [wake]
    change s.clock ≤ _
    simp only [microsecond, millisecond] at bounds ⊢
    omega
  · rw [wake, due]
    simp only [microsecond, millisecond] at bounds ⊢
    omega
  · rw [wake, due]
    omega
  · rw [deliveries]
    omega

/-- A call that finds its frame due goes on to it. -/
theorem place_due {r : Reader β} (at_ : r.pc = .due) (dst_eq : r.dst = s.reader.dst)
    (room : Roomed s) (due : Due s) (turn : turns + 1 ≤ 9 * s.deliveries.length + 6) :
    Place (s.note (s.capture.startPacing s.clock) r) (turns + 1) := by
  obtain ⟨nextDue, deliveries, config⟩ := note_paced (s := s) (r := r) (by rw [at_]; rintro ⟨⟩)
  obtain ⟨dst, given, space⟩ := room
  have stands : (s.note (s.capture.startPacing s.clock) r).reader.pc = _ := at_
  simp only [Place, stands]
  refine ⟨⟨dst, dst_eq.trans given, by rw [config]; exact space⟩,
    Capture.startPacing_valid _ _, ?_, ?_⟩
  · rw [Due, nextDue]
    exact due
  · rw [deliveries]
    exact turn

/-- A frame handed out within a millisecond of its deadline needs no resync, and
the next one is due a period later. -/
theorem Keeping.deliver (h : Keeping start s turns) (valid : s.capture.deadlineValid = true)
    (onTime : Due s) (turn : turns ≤ 9 * s.deliveries.length + 8) (flags : FrameFlags) :
    Keeping start (s.note (s.capture.advance s.clock) ((s.reader.report s.clock flags).finish 1))
      (turns + 1) := by
  have long := h.long
  obtain ⟨passed, soon⟩ := onTime
  have serving : (s.capture.advance s.clock).Serving :=
    ⟨h.serving.running, h.serving.open_, h.serving.sound⟩
  have due := h.due
  have next : (s.note (s.capture.advance s.clock)
      ((s.reader.report s.clock flags).finish 1)).nextDue = s.nextDue + s.capture.config.period := by
    rw [nextDue_valid valid] at soon ⊢
    rw [nextDue_valid (by exact valid)]
    exact if_neg (by omega)
  have deliveries : (s.note (s.capture.advance s.clock)
      ((s.reader.report s.clock flags).finish 1)).deliveries =
      s.deliveries ++ [⟨s.reader.now, s.clock, (s.capture.advance s.clock).nextDeadline⟩] := by
    simp only [note]
    exact if_pos rfl
  refine ⟨serving, h.fixed, h.long, ?_, ?_, ?_, rfl, ?_, ?_⟩
  · rw [next, deliveries, due, List.length_append, List.length_singleton,
      Int.natCast_succ (s.deliveries.length + 1)]
    change _ = start + (((s.deliveries.length + 1 : Nat) : Int) + 1) * s.capture.config.period
    rw [Int.add_mul, Int.one_mul, Int.add_assoc]
  · rw [next]
    change _ ≤ s.clock + s.capture.config.period
    omega
  · rw [deliveries]
    intro n e handed
    change e.after ≤ start + (n + 1 : Nat) * s.capture.config.period + millisecond
    by_cases old : n < s.deliveries.length
    · rw [List.getElem?_append_left old] at handed
      exact h.prompt n e handed
    · have last := (List.getElem?_eq_some_iff.mp handed).1
      rw [List.length_append, List.length_singleton] at last
      obtain rfl : n = s.deliveries.length := by omega
      rw [List.getElem?_concat_length] at handed
      cases handed
      rw [← due]
      exact soon
  · rw [Early, next]
    change s.clock + s.capture.config.period ≤ _
    omega
  · rw [deliveries, List.length_append, List.length_singleton]
    omega

variable [Zero β]

theorem begin_keeping {c : Capture β} (created : Capture.Created c)
    (fixed : c.config.fixedRate = true) (long : millisecond ≤ c.config.period) :
    Keeping start (begin c start) 0 := by
  obtain ⟨storage, shape, _⟩ := created.shape
  have rest := begin_atRest start created fixed
  have due : (begin c start).nextDue = start + c.config.period := by
    have fresh := begin_fresh start created fixed
    rw [nextDue, Capture.startPacing, if_neg (by rw [fresh.2.1]; decide)]
    rfl
  refine ⟨⟨rfl, rest.open_, .inl rest.empty⟩, fixed, long, ?_, Int.le_of_eq due, ?_, ?_⟩
  · rw [due]
    simp only [begin, List.length_nil, Nat.zero_add, Nat.cast_one, Int.one_mul]
  · simp only [begin, List.getElem?_nil]
    rintro _ _ ⟨⟩
  · refine ⟨?_, Nat.zero_le _⟩
    rw [Early, due]
    simp only [begin, millisecond]
    omega

theorem read_keeping {c : Capture β} {r : Reader β} (h : Keeping start s turns)
    (clocked : Virtual s .read) (stepped : s.reader.step s.capture s.clock = some (c, r)) :
    Keeping start (s.note c r) (turns + 1) := by
  have place := h.place
  have long := h.long
  have refl : s.capture.SamePacing s.capture := ⟨rfl, rfl, rfl⟩
  unfold Place at place
  cases at_ : s.reader.pc with
  | entered =>
    simp only [Reader.step, at_, Option.some.injEq, Prod.mk.injEq] at stepped place
    obtain ⟨rfl, rfl⟩ := stepped
    obtain ⟨early, ⟨dst, given, room⟩, enough, patient, turn⟩ := place
    have forward : ¬s.reader.timeoutMs < 0 := by
      simp only [millisecond] at patient long
      omega
    have admitted : s.reader.enter s.capture = { s.reader with pc := .admitted } := by
      simp only [Reader.enter, given, h.serving.running, if_neg forward,
        if_neg (UInt32.not_lt.mpr enough), Option.isNone_some, Bool.not_true, Bool.false_eq_true,
        if_false]
    rw [admitted]
    refine h.move h.serving refl (by rintro ⟨⟩) ?_
    exact ⟨early, ⟨dst, given, room⟩, patient, by dsimp only; omega⟩
  | admitted =>
    simp only [Reader.step, at_, Option.some.injEq, Prod.mk.injEq] at stepped place
    obtain ⟨rfl, rfl⟩ := stepped
    obtain ⟨early, room, patient, turn⟩ := place
    refine h.move h.serving refl (by rintro ⟨⟩) ?_
    refine ⟨room, ?_, .inl ⟨early, by dsimp only; omega⟩⟩
    have near := h.near
    change s.nextDue + millisecond ≤ s.clock + s.reader.timeoutMs * millisecond
    omega
  | looping =>
    simp only [Reader.step, at_, Option.some.injEq] at stepped place
    obtain ⟨room, outlasts, from_⟩ := place
    rw [Reader.look_patient h.fixed outlasts] at stepped
    obtain ⟨rfl, rfl⟩ := Prod.mk.inj stepped
    by_cases soon : s.clock < s.nextDue
    · have soon' : s.clock < (s.capture.startPacing s.clock).nextDeadline := soon
      simp only [if_pos soon']
      refine h.pace (by rintro ⟨⟩) ?_
      obtain ⟨_, turn⟩ | ⟨late, _⟩ := from_
      · exact place_asleep rfl rfl rfl rfl room outlasts soon turn
      · exact absurd late.1 (Int.not_le.mpr soon)
    · have late : ¬s.clock < (s.capture.startPacing s.clock).nextDeadline := soon
      simp only [if_neg late]
      refine h.pace (by rintro ⟨⟩) ?_
      have due : Due s ∧ turns + 1 ≤ 9 * s.deliveries.length + 6 := by
        obtain ⟨early, turn⟩ | ⟨due, turn⟩ := from_
        · rw [Early] at early
          exact ⟨⟨Int.not_lt.mp soon, by simp only [millisecond] at long early ⊢; omega⟩, by omega⟩
        · exact ⟨due, by omega⟩
      exact place_due rfl rfl room due.1 due.2
  | sleeping wait =>
    simp only [Reader.step, at_, Option.some.injEq, Prod.mk.injEq] at stepped place
    obtain ⟨rfl, rfl⟩ := stepped
    obtain ⟨room, outlasts, valid, asleep, reached, soon, turn⟩ := place
    have woken := clocked wait at_
    refine h.move h.serving refl (by rintro ⟨⟩) ?_
    refine ⟨room, outlasts, .inr ⟨⟨?_, ?_⟩, by dsimp only; omega⟩⟩
    · change s.nextDue ≤ s.clock
      omega
    · change s.clock ≤ s.nextDue + millisecond
      omega
  | due =>
    simp only [Reader.step, at_, Option.map_eq_some_iff, Prod.mk.injEq] at stepped place
    obtain ⟨⟨d, p⟩, popped, rfl, rfl⟩ := stepped
    obtain ⟨⟨dst, given, room⟩, valid, due, turn⟩ := place
    obtain ⟨queue, p', popped', serving, open_, length⟩ := pop_serving h.serving given room
    rw [popped] at popped'
    cases popped'
    have kept : s.reader.took p (.draining p.result) = s.reader.keep p (.draining p.result) :=
      if_neg (Int.not_lt.mpr open_)
    rw [kept]
    refine h.move serving ⟨rfl, rfl, rfl⟩ (by rintro ⟨⟩) ?_
    exact ⟨⟨_, rfl, by rw [length]; exact room⟩, valid,
      due.same (c := { s.capture with queue }) ⟨rfl, rfl, rfl⟩ _, by dsimp only; omega⟩
  | draining result =>
    simp only [Reader.step, at_, Option.map_eq_some_iff, Prod.mk.injEq] at stepped place
    obtain ⟨filled, _, rfl, rfl⟩ := stepped
    obtain ⟨_, valid, due, turn⟩ := place
    have serving : s.capture.drainFlags.Serving :=
      ⟨h.serving.running, h.serving.open_, h.serving.sound⟩
    refine h.move serving ⟨rfl, rfl, rfl⟩ (by rintro ⟨⟩) ?_
    exact ⟨valid, due.same (c := s.capture.drainFlags) ⟨rfl, rfl, rfl⟩ _, by dsimp only; omega⟩
  | closing flags =>
    simp only [Reader.step, at_, Option.some.injEq, Prod.mk.injEq] at stepped place
    obtain ⟨rfl, rfl⟩ := stepped
    obtain ⟨valid, due, turn⟩ := place
    exact h.deliver valid due turn flags
  | idle | returned _ =>
    simp only [Reader.step, at_] at stepped
    cases stepped
  | popping _ | emptyHanded | stamping | reporting _ =>
    rw [at_] at place
    exact place.elim

theorem step_keeping {t : Cadence β} {l : CadenceLabel β} (h : Keeping start s turns)
    (virtual : Virtual s l) (taken : s.step l = some t) :
    Keeping start t (countTurn s l t turns) := by
  have place := h.place
  cases l with
  | tick elapsed =>
    cases taken
    obtain ⟨wait, at_, still⟩ := virtual
    simp only [Place, at_] at place
    obtain ⟨room, outlasts, valid, _, reached, soon, turn⟩ := place
    have due : nextDue { s with clock := s.clock + elapsed } = s.nextDue :=
      (nextDue_valid (by exact valid)).trans (nextDue_valid valid).symm
    have near := h.near
    refine ⟨h.serving, h.fixed, h.long, by rw [due]; exact h.due, ?_, h.prompt, ?_⟩
    · rw [due]
      dsimp only
      omega
    · simp only [Place, at_, Outlasts, due]
      exact ⟨room, outlasts, valid, still, reached, soon, turn⟩
  | call args =>
    simp only [step, Reader.call, Option.map_eq_some_iff] at taken
    obtain ⟨reader, called, rfl⟩ := taken
    split at called
    · rename_i idle
      cases called
      have early : Early s ∧ turns ≤ 9 * s.deliveries.length := by
        unfold Place at place
        cases at_ : s.reader.pc with
        | idle => rw [at_] at place; exact place
        | returned result => rw [at_] at place; exact place.2
        | _ => simp only [Reader.isIdle, at_] at idle; cases idle
      have timeout := virtual.timeout
      refine ⟨h.serving, h.fixed, h.long, h.due, h.near, h.prompt, early.1, virtual.room,
        virtual.capacity, ?_, Nat.succ_le_succ early.2⟩
      simp only [Config.period, microsecond, millisecond]
      omega
    · cases called
  | others c =>
    simp only [step] at taken
    split at taken
    · rename_i same
      cases taken
      have due := nextDue_same same s.reader
      obtain ⟨config, deadline, valid⟩ := same
      refine ⟨virtual, ?_, ?_, ?_, ?_, ?_, ?_⟩
      · rw [config]; exact h.fixed
      · rw [config]; exact h.long
      · rw [due, config]; exact h.due
      · rw [due, config]; exact h.near
      · rw [config]; exact h.prompt
      · simp only [Place, Early, Roomed, Outlasts, Due, due, config, valid]
        exact place
    · cases taken
  | read =>
    simp only [step, Option.map_eq_some_iff] at taken
    obtain ⟨⟨c, r⟩, stepped, rfl⟩ := taken
    exact read_keeping h virtual stepped

/-- A call in progress is never stuck. -/
theorem Keeping.reads (h : Keeping start s turns) (busy : s.reader.isIdle = false) :
    (s.reader.step s.capture s.clock).isSome = true := by
  have place := h.place
  unfold Place at place
  cases at_ : s.reader.pc with
  | due =>
    rw [at_] at place
    obtain ⟨⟨dst, given, room⟩, _⟩ := place
    obtain ⟨queue, p, popped, _⟩ := pop_serving h.serving given room
    simp only [Reader.step, at_, popped, Option.map_some, Option.isSome_some]
  | draining result =>
    rw [at_] at place
    obtain ⟨⟨dst, given, room⟩, _⟩ := place
    simp only [Reader.step, at_, Option.isSome_map]
    split
    · simp only [Reader.silence, given, Option.bind_some, Blocks.store, List.length_replicate,
        Nat.zero_add, if_pos room, Option.isSome_map, Option.isSome_some]
    · rfl
  | idle | returned _ =>
    simp only [Reader.isIdle, at_] at busy
    cases busy
  | popping _ | emptyHanded | stamping | reporting _ =>
    rw [at_] at place
    exact place.elim
  | _ => simp only [Reader.step, at_, Option.isSome_some]

theorem Keeping.goesOn (h : Keeping start s turns) (busy : s.reader.isIdle = false) : GoesOn s := by
  obtain ⟨⟨c, r⟩, stepped⟩ := Option.isSome_iff_exists.mp (h.reads busy)
  by_cases asleep : ∃ wait, s.reader.pc = .sleeping wait ∧ s.clock < s.wakeUp wait
  · exact .inr asleep
  · refine .inl ⟨?_, _, read_steps stepped⟩
    intro wait at_
    have place := h.place
    simp only [Place, at_] at place
    by_contra early
    exact asleep ⟨wait, at_, by omega⟩

theorem Keeping.served (h : Keeping start s turns) : Served start s turns := by
  have place := h.place
  refine ⟨h.prompt, ?_, ?_, h.goesOn⟩
  · intro result returned
    simp only [Place, returned] at place
    exact place.1
  · unfold Place at place
    split at place <;> grind

/-- A prompt consumer is always served in time exactly when a frame takes a
millisecond or more. -/
theorem keeps_up_iff {c : Capture β} (created : Capture.Created c)
    (fixed : c.config.fixedRate = true) (positive : 0 < c.config.period) :
    KeepsUp c ↔ millisecond ≤ c.config.period := by
  refine ⟨fun keeps => ?_, fun long start p run => ?_⟩
  · by_contra short
    exact falls_behind created fixed positive (Int.not_le.mp short) keeps
  · apply Keeping.served
    apply Steps.Watched.invariant (Keeping start) ?_ ?_ run
    · rintro _ rfl
      exact begin_keeping created fixed long
    · intro s l t turns _ keeping virtual taken
      exact step_keeping keeping virtual taken

end

/-- Frames of a millisecond are served in time. -/
theorem keeps_up_at_1000 : KeepsUp (oneSample 1000) :=
  (keeps_up_iff (oneSample_created (by decide)) rfl (by decide)).mpr (by decide)

/-- Frames of 125 microseconds are not. -/
theorem lags_at_8000 : Capture.Created (oneSample 8000) ∧ (oneSample 8000).config.period = 125000 ∧
    ¬KeepsUp (oneSample 8000) :=
  ⟨oneSample_created (by decide), rfl,
    falls_behind (oneSample_created (by decide)) rfl (by decide) (by decide)⟩

end Cadence
end WebAudioCapture
