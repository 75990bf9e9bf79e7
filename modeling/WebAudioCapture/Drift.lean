import Mathlib.Tactic.LinearCombination
import WebAudioCapture.Patience

/-!
# The drift of the cadence

The deadline moves by one frame period a frame, and the period is a whole number
of microseconds. What the division leaves is lost with every frame.
-/

namespace WebAudioCapture

variable {β : Type}

theorem Capture.startPacing_shape (c : Capture β) (now : Int) :
    c.startPacing now =
      { c with nextDeadline := (c.startPacing now).nextDeadline, deadlineValid := true } := by
  unfold startPacing
  split
  · rename_i valid
    rw [← valid]
  · rfl

namespace Cadence

/-- A new handle at reading `clock`, running. -/
def begin (c : Capture β) (clock : Int) : Cadence β := { capture := { c with running := true }, clock }

theorem begin_fresh [Zero β] {c : Capture β} (clock : Int) (created : Capture.Created c)
    (fixed : c.config.fixedRate = true) : Fresh (begin c clock) := by
  obtain ⟨storage, shape, _⟩ := created.shape
  have unset : c.deadlineValid = false := by rw [shape]
  exact ⟨fixed, unset, rfl⟩

/-! ## Frames of silence -/

/-- Between two calls, with nothing queued. -/
structure AtRest (s : Cadence β) : Prop where
  idle : s.reader.isIdle = true
  running : s.capture.running = true
  fixed : s.capture.config.fixedRate = true
  open_ : s.capture.queue.closed = false
  empty : s.capture.queue.count = 0

/-- A call that the handle does not refuse. -/
structure Roomy (config : Config) (args : ReadArgs β) : Prop where
  room : ∃ dst, args.dst = some dst ∧ config.frameBytes ≤ dst.length
  capacity : config.frameSamples ≤ args.capacityFrames
  forward : 0 ≤ args.timeoutMs

/-- The deadline of the next frame, for a reader that looks now. -/
def nextDue (s : Cadence β) : Int := (s.capture.startPacing s.clock).nextDeadline

theorem begin_atRest [Zero β] {c : Capture β} (clock : Int) (created : Capture.Created c)
    (fixed : c.config.fixedRate = true) : AtRest (begin c clock) := by
  obtain ⟨storage, shape, _⟩ := created.shape
  refine ⟨rfl, rfl, fixed, ?_, ?_⟩
  · simp only [begin]
    rw [shape]
  · simp only [begin]
    rw [shape]

/-- The reader in a call that has set its own deadline. -/
def asked (args : ReadArgs β) (clock : Int) : Reader β :=
  { pc := .looping, dst := args.dst, capacityFrames := args.capacityFrames, info := args.info
    timeoutMs := args.timeoutMs, callDeadline := clock + args.timeoutMs * millisecond }

section
variable [Zero β] {s : Cadence β} {args : ReadArgs β} {ok : Cadence β → CadenceLabel β → Prop}

theorem read_steps {c : Capture β} {r : Reader β}
    (stepped : s.reader.step s.capture s.clock = some (c, r)) : s.step .read = some (s.note c r) := by
  simp only [step, stepped, Option.map_some]

/-- A step of the reader that begins no pacing and hands out nothing. -/
theorem read_onto {c : Capture β} {r : Reader β}
    (stepped : s.reader.step s.capture s.clock = some (c, r))
    (valid : c.deadlineValid = s.capture.deadlineValid) (pending : r.pc ≠ .returned 1) :
    s.step .read = some { s with capture := c, reader := r } := by
  rw [read_steps stepped]
  simp only [note, valid, if_neg pending, Bool.not_and_self, Bool.false_eq_true, if_false]

theorem enters (rest : AtRest s) (roomy : Roomy s.capture.config args) (calls : ok s (.call args))
    (reads : ∀ u : Cadence β, (∀ wait, u.reader.pc ≠ .sleeping wait) → ok u .read) :
    Steps.Reach step ok (· = s) { s with reader := asked args s.clock } := by
  obtain ⟨dst, given, _⟩ := roomy.room
  let entered : Reader β :=
    { pc := .entered, dst := args.dst, capacityFrames := args.capacityFrames, info := args.info
      timeoutMs := args.timeoutMs }
  let admitted : Reader β := { entered with pc := .admitted }
  have call : s.step (.call args) = some { s with reader := entered } := by
    simp only [step, Reader.call, rest.idle, if_true, Option.map_some, entered]
  have enter : entered.step s.capture s.clock = some (s.capture, admitted) := by
    simp only [Reader.step, Reader.enter, entered, admitted, given, rest.running,
      if_neg (Int.not_lt.mpr roomy.forward), if_neg (UInt32.not_lt.mpr roomy.capacity),
      Option.isNone_some, Bool.not_true, Bool.false_eq_true, if_false]
  have sets : admitted.step s.capture s.clock = some (s.capture, asked args s.clock) := rfl
  have at_enter : Steps.Reach step ok (· = s) { s with reader := entered } :=
    .next (.start rfl) calls call
  have at_admit : Steps.Reach step ok (· = s) { s with reader := admitted } :=
    .next at_enter (reads _ (by rintro _ ⟨⟩)) (read_onto enter rfl (by rintro ⟨⟩))
  exact .next at_admit (reads _ (by rintro _ ⟨⟩)) (read_onto sets rfl (by rintro ⟨⟩))

/-- A call that finds its frame due and the queue empty hands out silence. -/
theorem gives_silence {dst : List β} (looping : s.reader.pc = .looping)
    (fixed : s.capture.config.fixedRate = true) (valid : s.capture.deadlineValid = true)
    (due : s.capture.nextDeadline ≤ s.clock) (open_ : s.capture.queue.closed = false)
    (empty : s.capture.queue.count = 0) (given : s.reader.dst = some dst)
    (room : s.capture.config.frameBytes ≤ dst.length)
    (reads : ∀ u : Cadence β, (∀ wait, u.reader.pc ≠ .sleeping wait) → ok u .read) :
    ∃ u, Steps.Reach step ok (· = s) u ∧ u.reader.isIdle = true ∧ u.clock = s.clock ∧
      u.capture = ({ s.capture with
        queue := { s.capture.queue with dropped := 0 }, pendingFlags := 0 } : Capture β).advance
          s.clock ∧
      u.first = s.first ∧
      u.deliveries = s.deliveries ++ [⟨s.clock, s.clock, u.capture.nextDeadline⟩] := by
  let duly : Reader β := { s.reader with now := s.clock, pc := .due }
  let popped : Capture β := { s.capture with queue := { s.capture.queue with dropped := 0 } }
  let draining : Reader β :=
    { duly with
      totalDiscarded := sizeT (s.reader.totalDiscarded + s.capture.queue.dropped)
      pc := .draining 0 }
  let closing : Reader β :=
    { draining with
      dst := some (List.replicate s.capture.config.frameBytes 0 ++
        dst.drop s.capture.config.frameBytes)
      pc := .closing (draining.flagsFor popped 0) }
  have look : s.reader.step s.capture s.clock = some (s.capture, duly) := by
    have paced : s.capture.startPacing s.clock = s.capture := if_pos valid
    simp only [Reader.step, looping, Reader.look, fixed, Bool.not_true, Bool.false_eq_true, if_false,
      paced, if_neg (Int.not_lt.mpr due), duly]
  have pop : duly.step s.capture s.clock = some (popped, draining) := by
    simp only [Reader.step, duly, Reader.pop, given, Option.bind_some, FrameQueue.pop, empty, if_true,
      open_, Bool.false_eq_true, if_false, Option.map_some, Reader.took, Int.lt_irrefl, Reader.keep,
      popped, draining]
  have drain : draining.step popped s.clock = some (popped.drainFlags, closing) := by
    simp only [Reader.step, draining, duly, if_true, Reader.silence, given, Option.bind_some,
      Blocks.store, List.take_zero, List.nil_append, List.length_replicate, Nat.zero_add, if_pos room,
      Option.map_some, popped, closing]
    rfl
  have close : closing.step popped.drainFlags s.clock = some (popped.drainFlags.advance s.clock,
      (closing.report s.clock (draining.flagsFor popped 0)).finish 1) := rfl
  have at_due : Steps.Reach step ok (· = s) { s with reader := duly } :=
    .next (.start rfl) (reads _ (by rw [looping]; rintro _ ⟨⟩))
      (read_onto look rfl (by rintro ⟨⟩))
  have at_drain : Steps.Reach step ok (· = s) { s with capture := popped, reader := draining } :=
    .next at_due (reads _ (by rintro _ ⟨⟩)) (read_onto pop rfl (by rintro ⟨⟩))
  have at_close : Steps.Reach step ok (· = s)
      { s with capture := popped.drainFlags, reader := closing } :=
    .next at_drain (reads _ (by rintro _ ⟨⟩)) (read_onto drain rfl (by rintro ⟨⟩))
  refine ⟨_, at_close.next (reads _ (by rintro _ ⟨⟩)) (read_steps close), rfl, rfl, rfl, ?_, ?_⟩
  · have begun : popped.drainFlags.deadlineValid = true := valid
    simp only [note, begun, Bool.not_true, Bool.false_and, Bool.false_eq_true, if_false]
  · simp only [note]
    exact if_pos rfl

end

/-! ## On schedule -/

/-- The timeout is an `int`. -/
def IntTimeout (_ : Cadence β) : CadenceLabel β → Prop
  | .call args => -2 ^ 31 ≤ args.timeoutMs ∧ args.timeoutMs < 2 ^ 31
  | _ => True

/-- A handle that handed out its first `n` frames the moment they were due. -/
structure OnSchedule (config : Config) (start : Int) (n : Nat) (s : Cadence β) : Prop where
  rest : AtRest s
  config_eq : s.capture.config = config
  valid : s.capture.deadlineValid = true
  deadline : s.capture.nextDeadline = start + (n + 1 : Nat) * config.period
  clock : s.clock = start + n * config.period
  first : s.first = some start
  deliveries : s.deliveries = (List.range n).map fun i =>
    ⟨start + (i + 1 : Nat) * config.period, start + (i + 1 : Nat) * config.period,
      start + (i + 1 + 1 : Nat) * config.period⟩

/-- A call that does not wait, with room for one frame. -/
def atOnce [Zero β] (config : Config) : ReadArgs β :=
  { dst := some (List.replicate config.frameBytes 0), capacityFrames := config.frameSamples
    info := none, timeoutMs := 0 }

section
variable [Zero β] {s : Cadence β}

theorem atOnce_roomy (config : Config) : Roomy config (atOnce (β := β) config) :=
  ⟨⟨_, rfl, by rw [List.length_replicate]⟩, UInt32.le_refl _, Int.le_refl _⟩

theorem atOnce_calls (config : Config) : IntTimeout s (.call (atOnce config)) := by
  refine ⟨?_, ?_⟩ <;> simp only [atOnce] <;> decide

/-- The first call begins the pacing. -/
theorem begin_onSchedule {c : Capture β} (clock : Int) (created : Capture.Created c)
    (fixed : c.config.fixedRate = true) (positive : 0 < c.config.period) :
    ∃ u, Steps.Reach step IntTimeout (· = begin c clock) u ∧ OnSchedule c.config clock 0 u := by
  obtain ⟨_, unset, _⟩ := begin_fresh clock created fixed
  have rest := begin_atRest clock created fixed
  let waiting : Reader β := asked (atOnce c.config) clock
  let paced : Capture β :=
    { (begin c clock).capture with nextDeadline := clock + c.config.period, deadlineValid := true }
  have at_loop : Steps.Reach step IntTimeout (· = begin c clock)
      { begin c clock with reader := waiting } :=
    enters rest (atOnce_roomy c.config) (atOnce_calls _) (fun _ _ => trivial)
  have start : (begin c clock).capture.startPacing clock = paced := if_neg (by rw [unset]; decide)
  have soon : clock < paced.nextDeadline := by
    simp only [paced]
    omega
  have wait : ({ waiting with now := clock } : Reader β).sleepFor paced.nextDeadline clock = 0 := by
    have left := toMicroseconds_nonneg (Int.le_of_lt (Int.sub_pos_of_lt soon))
    have ended : toMicroseconds (waiting.callDeadline - clock) = 0 := by
      simp only [waiting, asked, atOnce, Int.zero_mul, Int.add_zero, Int.sub_self]
      rfl
    simp only [Reader.sleepFor, ended]
    exact if_pos (by omega)
  have look : waiting.step (begin c clock).capture clock =
      some (paced, ({ waiting with now := clock } : Reader β).finish 0) := by
    have looked : waiting.look (begin c clock).capture clock =
        (paced, ({ waiting with now := clock } : Reader β).finish 0) := by
      simp only [Reader.look, rest.fixed, Bool.not_true, Bool.false_eq_true, if_false, start,
        if_pos soon, wait, Int.le_refl, if_true]
    exact congrArg some looked
  have at_return : Steps.Reach step IntTimeout (· = begin c clock)
      (({ begin c clock with reader := waiting } : Cadence β).note paced
        (({ waiting with now := clock } : Reader β).finish 0)) :=
    .next at_loop (l := .read) trivial (read_steps look)
  refine ⟨_, at_return, ⟨rfl, rfl, fixed, rest.open_, rest.empty⟩, rfl, rfl, ?_, ?_, ?_, rfl⟩
  · simp only [note, paced, Nat.zero_add, Nat.cast_one, Int.one_mul]
  · simp only [note, begin, Nat.cast_zero, Int.zero_mul, Int.add_zero]
  · simp only [note]
    exact if_pos (by simp only [unset, paced]; decide)

theorem OnSchedule.frame {config : Config} {start : Int} {n : Nat} (h : OnSchedule config start n s)
    (positive : 0 < config.period) :
    ∃ u, Steps.Reach step IntTimeout (· = s) u ∧ OnSchedule config start (n + 1) u := by
  obtain ⟨⟨idle, running, fixed, open_, empty⟩, rfl, valid, deadline, clock, first, deliveries⟩ := h
  obtain ⟨elapsed, lasts⟩ := Int.eq_ofNat_of_zero_le (Int.le_of_lt positive)
  let late : Cadence β := { s with clock := s.clock + elapsed }
  let waiting : Cadence β := { late with reader := asked (atOnce s.capture.config) late.clock }
  have slept : s.step (.tick elapsed) = some late := rfl
  have now : late.clock = s.capture.nextDeadline := by
    simp only [late, clock, deadline, ← lasts]
    rw [Int.natCast_succ, Int.add_mul, Int.one_mul, Int.add_assoc]
  have at_loop : Steps.Reach step IntTimeout (· = s) waiting :=
    .after (l := .tick elapsed) trivial slept
      (enters ⟨idle, running, fixed, open_, empty⟩ (atOnce_roomy _) (atOnce_calls _)
        (fun _ _ => trivial))
  have reads : ∀ u : Cadence β, (∀ wait, u.reader.pc ≠ .sleeping wait) → IntTimeout u .read :=
    fun _ _ => trivial
  obtain ⟨u, on, idle', clock', capture', first', deliveries'⟩ :=
    gives_silence (s := waiting) rfl fixed valid (Int.le_of_eq now.symm) open_ empty rfl
      (by rw [List.length_replicate]) reads
  have next : u.capture.nextDeadline =
      start + (n + 1 + 1 : Nat) * s.capture.config.period := by
    have moved : u.capture.nextDeadline =
        Pacer.next s.capture.config.period s.capture.nextDeadline late.clock := by rw [capture']; rfl
    rw [moved, now, Pacer.next, if_neg (by omega), deadline, Int.natCast_succ (n + 1), Int.add_mul,
      Int.one_mul, Int.add_assoc]
  have config : u.capture.config = s.capture.config := by rw [capture']; rfl
  refine ⟨u, at_loop.trans on, ⟨idle', ?_, ?_, ?_, ?_⟩, config, ?_, next, ?_, first'.trans first, ?_⟩
  · rw [capture']; exact running
  · rw [config]; exact fixed
  · rw [capture']; exact open_
  · rw [capture']; exact empty
  · rw [capture']; exact valid
  · rw [clock']
    exact now.trans deadline
  · rw [deliveries', List.range_succ, List.map_append, List.map_singleton, next]
    simp only [waiting, now, deadline]
    exact congrArg (· ++ _) deliveries

theorem OnSchedule.frames {c : Capture β} (clock : Int) (created : Capture.Created c)
    (fixed : c.config.fixedRate = true) (positive : 0 < c.config.period) (n : Nat) :
    ∃ u, Steps.Reach step IntTimeout (· = begin c clock) u ∧ OnSchedule c.config clock n u := by
  induction n with
  | zero => exact begin_onSchedule clock created fixed positive
  | succ n ih =>
    obtain ⟨s, run, scheduled⟩ := ih
    obtain ⟨u, on, later⟩ := scheduled.frame positive
    exact ⟨u, run.trans on, later⟩

end

theorem OnSchedule.at {config : Config} {start : Int} {n : Nat} {s : Cadence β}
    (h : OnSchedule config start n s) {i : Nat} (within : i < n) :
    s.pacer.log[i]? = some ⟨start + (i + 1 : Nat) * config.period,
      start + (i + 1 : Nat) * config.period, start + (i + 1 + 1 : Nat) * config.period⟩ := by
  simp only [pacer, h.deliveries, List.getElem?_map, List.getElem?_range within, Option.map_some]

theorem OnSchedule.deadlineFor {config : Config} {start : Int} {n : Nat} {s : Cadence β}
    (h : OnSchedule config start n s) {i : Nat} (within : i ≤ n) :
    s.pacer.deadlineFor i = some (start + (i + 1 : Nat) * config.period) := by
  cases i with
  | zero =>
    simp only [Pacer.deadlineFor, pacer, h.first, h.config_eq, Option.map_some, Nat.zero_add,
      Nat.cast_one, Int.one_mul]
  | succ i => simp only [Pacer.deadlineFor, h.at within, Option.map_some]

theorem OnSchedule.prompt {config : Config} {start : Int} {n : Nat} {s : Cadence β}
    (h : OnSchedule config start n s) {i : Nat} (within : i < n) : ¬s.pacer.Resynced i := by
  rintro ⟨deadline, e, was, at_, late⟩
  rw [h.deadlineFor (Nat.le_of_lt within)] at was
  rw [h.at within] at at_
  cases was
  cases at_
  have period : s.pacer.period = config.period := congrArg Config.period h.config_eq
  have nonneg := config.period_nonneg
  rw [period] at late
  dsimp only at late
  omega

/-! ## What the division leaves -/

/-- What one frame is longer than its period, in nanoseconds times the rate. -/
theorem period_mul_rate (config : Config) :
    config.period * config.sampleRate.toNat +
      1000 * (config.frameSamples.toNat * 1000000 % config.sampleRate.toNat : Nat) =
      config.frameSamples.toNat * 1000000000 := by
  have split := Nat.div_add_mod (config.frameSamples.toNat * 1000000) config.sampleRate.toNat
  generalize config.frameSamples.toNat * 1000000 % config.sampleRate.toNat = rest at split ⊢
  simp only [Config.period, framePeriod, microsecond]
  generalize config.frameSamples.toNat * 1000000 / config.sampleRate.toNat = quotient at split ⊢
  have scaled : (config.sampleRate.toNat : Int) * quotient + rest =
      config.frameSamples.toNat * 1000000 := by exact_mod_cast split
  linarith

/-- The deadlines of a handle keep to the audio clock: its period is not 0, and
as long as no frame is late by more than a period, `k` frames move the deadline
by the time `k` frames take, to within a microsecond. -/
structure KeepsTime [Zero β] (c : Capture β) : Prop where
  period : c.config.period ≠ 0
  exact : ∀ clock s, Steps.Reach step IntTimeout (· = begin c clock) s →
    ∀ (i k : Nat) before after, s.pacer.deadlineFor i = some before →
      s.pacer.deadlineFor (i + k) = some after →
      (∀ j, i ≤ j → j < i + k → ¬s.pacer.Resynced j) →
      ((after - before) * c.config.sampleRate.toNat -
        k * c.config.frameSamples.toNat * 1000000000).natAbs < 1000 * c.config.sampleRate.toNat

section
variable [Zero β] {c : Capture β}

theorem step_config {s t : Cadence β} {l : CadenceLabel β} (taken : s.step l = some t) :
    t.capture.config = s.capture.config := by
  cases l with
  | tick elapsed => cases taken; rfl
  | call args =>
    simp only [step, Option.map_eq_some_iff] at taken
    obtain ⟨reader, _, rfl⟩ := taken
    rfl
  | others c =>
    simp only [step] at taken
    split at taken
    · rename_i same
      cases taken
      exact same.1
    · cases taken
  | read =>
    simp only [step, Option.map_eq_some_iff] at taken
    obtain ⟨⟨c, r⟩, moved, rfl⟩ := taken
    exact Reader.moves_config (Reader.step_moves moved)

/-- A period that leaves nothing keeps time. -/
theorem keepsTime_of_dvd (created : Capture.Created c) (fixed : c.config.fixedRate = true)
    (divides : c.config.sampleRate.toNat ∣ c.config.frameSamples.toNat * 1000000) :
    KeepsTime c := by
  have whole := period_mul_rate c.config
  rw [Nat.mod_eq_zero_of_dvd divides, Nat.cast_zero, Int.mul_zero, Int.add_zero] at whole
  obtain ⟨_, _, _, rate, samples⟩ := created.shape
  have positive_rate : 0 < c.config.sampleRate.toNat :=
    Nat.pos_of_ne_zero fun zero => rate (UInt32.toNat_inj.mp zero)
  have positive_samples : 0 < c.config.frameSamples.toNat :=
    Nat.pos_of_ne_zero fun zero => samples (UInt32.toNat_inj.mp zero)
  refine ⟨?_, ?_⟩
  · intro zero
    rw [zero, Int.zero_mul] at whole
    omega
  · intro clock s run i k before after from_ to_ prompt
    have reached : Reachable s := by
      apply Steps.Reach.invariant Reachable ?_ ?_ run
      · rintro _ rfl
        exact .start (begin_fresh clock created fixed)
      · intro s l t _ reached _ taken
        exact .next reached trivial taken
    have config : s.capture.config = c.config := by
      apply Steps.Reach.invariant (fun s : Cadence β => s.capture.config = c.config) ?_ ?_ run
      · rintro _ rfl
        rfl
      · intro s l t _ same _ taken
        exact (step_config taken).trans same
    have moved := reached.paced.chained.advance from_ to_ prompt
    have period : s.pacer.period = c.config.period := congrArg Config.period config
    have even : (after - before) * c.config.sampleRate.toNat =
        k * c.config.frameSamples.toNat * 1000000000 := by
      rw [moved, period, add_sub_cancel_left, Int.mul_assoc, whole, Int.mul_assoc]
    rw [even, Int.sub_self]
    omega

/-- A period that leaves something drifts: after as many frames as the sample
rate has hertz, by a microsecond for each part left. -/
theorem dvd_of_keepsTime (created : Capture.Created c) (fixed : c.config.fixedRate = true)
    (keeps : KeepsTime c) : c.config.sampleRate.toNat ∣ c.config.frameSamples.toNat * 1000000 := by
  have whole := period_mul_rate c.config
  have positive : 0 < c.config.period := by
    have nonneg := c.config.period_nonneg
    have nonzero := keeps.period
    omega
  obtain ⟨s, run, scheduled⟩ := OnSchedule.frames 0 created fixed positive c.config.sampleRate.toNat
  have drift := keeps.exact 0 s run 0 c.config.sampleRate.toNat _ _
    (scheduled.deadlineFor (Nat.zero_le _)) (scheduled.deadlineFor (by omega))
    (fun j _ within => scheduled.prompt (by omega))
  refine Nat.dvd_of_mod_eq_zero ?_
  generalize c.config.frameSamples.toNat * 1000000 % c.config.sampleRate.toNat = rest at whole ⊢
  have lost : ((0 + ((0 + c.config.sampleRate.toNat + 1 : Nat) : Int) * c.config.period -
      (0 + ((0 + 1 : Nat) : Int) * c.config.period)) * c.config.sampleRate.toNat -
      c.config.sampleRate.toNat * c.config.frameSamples.toNat * 1000000000) =
      -(c.config.sampleRate.toNat * (1000 * rest : Int)) := by
    push_cast
    linear_combination c.config.sampleRate.toNat * whole
  have bound : c.config.sampleRate.toNat * (1000 * rest) < c.config.sampleRate.toNat * 1000 := by
    rw [lost, Int.natAbs_neg] at drift
    have same : (c.config.sampleRate.toNat * (1000 * rest : Int)).natAbs =
        c.config.sampleRate.toNat * (1000 * rest) := by
      rw [← Int.natAbs_natCast (c.config.sampleRate.toNat * (1000 * rest))]
      push_cast
      rfl
    omega
  have few := Nat.lt_of_mul_lt_mul_left bound
  omega

/-- The deadlines of a handle keep to the audio clock exactly when its sample
rate divides its frame's samples times a million. -/
theorem keeps_time_iff (created : Capture.Created c) (fixed : c.config.fixedRate = true) :
    KeepsTime c ↔ c.config.sampleRate.toNat ∣ c.config.frameSamples.toNat * 1000000 :=
  ⟨dvd_of_keepsTime created fixed, keepsTime_of_dvd created fixed⟩

end

/-- A new handle with frames of one sample at `rate` hertz, and a queue of one. -/
def oneSample (rate : UInt32) : Capture UInt8 :=
  { config := { sampleRate := rate, channels := 1, frameSamples := 1, format := .s16le
                queueFrames := 1 }
    queue := { storage := [0, 0], slotBytes := 2, capacity := 1 } }

theorem oneSample_created {rate : UInt32} (h : rate ≠ 0) : Capture.Created (oneSample rate) := by
  let asked : WebaConfig :=
    { sampleRate := rate, channels := 1, frameSamples := 1, format := .s16le, ringFrames := 1
      fixedRate := 1 }
  have config : Config.resolve (some asked) = (oneSample rate).config := by
    simp only [Config.resolve, asked, orDefault, if_pos h]
    rfl
  refine ⟨⟨2 ^ 63 - 1, fun _ => true, by decide⟩, true, true, some asked, ?_⟩
  have accepted : ¬((oneSample rate).config.sampleRate = 0 ∨
      (oneSample rate).config.frameSamples = 0 ∨ (oneSample rate).config.channels = 0) := by
    rintro (zero | zero | zero)
    · exact h zero
    · cases zero
    · cases zero
  simp only [Capture.create, config, if_neg accepted]
  rfl

/-- At 8000 Hz a sample takes 125 microseconds. -/
theorem keeps_time_at_8000 : KeepsTime (oneSample 8000) :=
  (keeps_time_iff (oneSample_created (by decide)) rfl).mpr (by decide)

/-- At 44100 Hz two frames of one sample lose more than a microsecond, and at
2 MHz the period is 0. -/
theorem drifts : (Capture.Created (oneSample 44100) ∧ ¬KeepsTime (oneSample 44100)) ∧
    Capture.Created (oneSample 2000000) ∧ (oneSample 2000000).config.period = 0 := by
  refine ⟨⟨oneSample_created (by decide), fun keeps => ?_⟩, oneSample_created (by decide), rfl⟩
  have divides := dvd_of_keepsTime (oneSample_created (by decide)) rfl keeps
  exact absurd divides (by decide)

end Cadence
end WebAudioCapture
