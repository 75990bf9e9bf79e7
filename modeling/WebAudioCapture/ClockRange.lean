import WebAudioCapture.Consumer
import WebAudioCapture.Patience

/-!
# The range of the clock arithmetic

Durations and time points are signed 64-bit counts. Here each value the reader
and the capture thread compute from the clock is checked as it is computed, and
none is found out of range.
-/

namespace WebAudioCapture

variable {β : Type}

/-- A signed 64-bit value; none is an overflow. -/
def int64 (value : Int) : Option Int :=
  if -2 ^ 63 ≤ value ∧ value < 2 ^ 63 then some value else none

/-- No clock reading is past this one. -/
def lastReading : Int := 2 ^ 61

theorem int64_of_bounds {value : Int} (low : -2 ^ 63 ≤ value) (high : value < 2 ^ 63) :
    int64 value = some value := if_pos ⟨low, high⟩

/-- `frame_period`, in microseconds. -/
def framePeriod64 (frameSamples sampleRate : UInt32) : Option Int :=
  (int64 (frameSamples.toNat * 1000000)).bind fun micros =>
    if sampleRate = 0 then none else int64 (micros.tdiv sampleRate.toNat)

/-- A duration in microseconds as one in nanoseconds. -/
def nanoseconds64 (micros : Int) : Option Int := int64 (micros * microsecond)

/-- The period as what is added to a time point. -/
def Config.period64 (config : Config) : Option Int :=
  (framePeriod64 config.frameSamples config.sampleRate).bind nanoseconds64

/-- The time point a wait that begins at reading `now` ends at. -/
def waitUntil64 (now wait : Int) : Option Int := (nanoseconds64 wait).bind fun ns => int64 (now + ns)

/-- What is left until a time point, in microseconds. -/
def left64 (deadline now : Int) : Option Int := (int64 (deadline - now)).map toMicroseconds

def Capture.startPacing64 (c : Capture β) (now : Int) : Option (Capture β) :=
  if c.deadlineValid then some c
  else
    c.config.period64.bind fun period => (int64 (now + period)).map fun nextDeadline =>
      { c with nextDeadline, deadlineValid := true }

def Capture.advance64 (c : Capture β) (after : Int) : Option (Capture β) :=
  c.config.period64.bind fun period => (int64 (c.nextDeadline + period)).bind fun next =>
    if next < after then (int64 (after + period)).map fun nextDeadline => { c with nextDeadline }
    else some { c with nextDeadline := next }

namespace Reader

def sleepFor64 (r : Reader β) (deadline now : Int) : Option Int :=
  (left64 deadline now).bind fun left => (int64 (left + 1000)).bind fun wait =>
    (left64 r.callDeadline now).map fun untilCallDeadline =>
      if untilCallDeadline < wait then untilCallDeadline else wait

def popFor64 (r : Reader β) (now : Int) : Option Int :=
  (left64 r.callDeadline now).map fun wait => if wait < 0 then 0 else wait

def look64 (r : Reader β) (c : Capture β) (now : Int) : Option (Capture β × Reader β) :=
  let r := { r with now }
  if !c.config.fixedRate then (r.popFor64 now).map fun wait => (c, { r with pc := .popping wait })
  else
    (c.startPacing64 now).bind fun c =>
      if now < c.nextDeadline then
        (r.sleepFor64 c.nextDeadline now).map fun wait =>
          if wait ≤ 0 then (c, r.finish 0) else (c, { r with pc := .sleeping wait })
      else some (c, { r with pc := .due })

/-- `step` with 64-bit arithmetic; none on an overflow. -/
def step64 [Zero β] (r : Reader β) (c : Capture β) (now : Int) :
    Option (Option (Capture β × Reader β)) :=
  match r.pc with
  | .admitted =>
    (framePeriod64 c.config.frameSamples c.config.sampleRate).bind fun _ =>
      (int64 (r.timeoutMs * millisecond)).bind fun timeout =>
        (int64 (now + timeout)).map fun callDeadline =>
          some (c, { r with callDeadline, pc := .looping })
  | .looping => (r.look64 c now).map some
  -- the wait may begin at any reading from the one the step before was taken at
  | .sleeping wait | .popping wait => (waitUntil64 now wait).map fun _ => r.step c now
  | .due => (waitUntil64 now 0).map fun _ => r.step c now
  | .closing flags => (c.advance64 now).map fun c => some (c, (r.report now flags).finish 1)
  | _ => some (r.step c now)

end Reader

def Config.recheckAfter64 (config : Config) (now : Int) : Option Int :=
  (int64 (config.sinkRecheckMs.toNat * millisecond)).bind fun delay => int64 (now + delay)

namespace CaptureThread

def retry64 (t : CaptureThread β) (now : Int) : Option (CaptureThread β) :=
  (int64 (reinitDelay * millisecond)).bind fun delay => (int64 (now + delay)).map fun until_ =>
    t.goto (.retrying until_)

def resolved64 (t : CaptureThread β) (c : Capture β) (now : Int) :
    Control × Option Target → Option (Capture β × CaptureThread β)
  | (control, none) =>
    (t.retry64 now).map fun t => ({ c with control }.setError control.error, t)
  | (control, some target) => some ({ c with control }, t.goto (.publishing target))

def opened64 (t : CaptureThread β) (c : Capture β) (target : Target) (now : Int) :
    Except String Mic → Option (Capture β × CaptureThread β)
  | .error e => some (c.setError e, t.goto .flagOpenFailure)
  | .ok mic =>
    (c.config.recheckAfter64 now).map fun nextSinkCheck =>
      ({ c with currentMonitor := target.monitor, nextSinkCheck },
        { t with
          mic := some mic
          hadStream := true
          pc := if t.hadStream then .flagReopen else .reading })

/-- `step` with 64-bit arithmetic; none on an overflow. -/
def step64 (t : CaptureThread β) (c : Capture β) (now : Int) (input : CaptureInput β) :
    Option (Option (Capture β × CaptureThread β)) :=
  match t.pc, input with
  | .resolving, .resolve defaultSink monitor =>
    (t.resolved64 c now (c.control.resolveTarget c.config.requestedSink defaultSink monitor)).map some
  | .opening target, .openStream refusal =>
    (t.opened64 c target now (Mic.openOn target.monitor c.config.micFormat refusal)).map some
  | .flagOpenFailure, .run | .flagReadFailure, .run =>
    (t.retry64 now).map fun t => some (c.raiseReopen, t)
  | .scheduling, .run =>
    (c.config.recheckAfter64 now).map fun nextSinkCheck =>
      some ({ c with nextSinkCheck }, t.goto .reresolving)
  | _, _ => some (t.step c now input)

/-! ## The capture thread -/

section
variable {now : Int}

theorem recheckAfter64_eq (config : Config) (start : 0 ≤ now) (bounded : now ≤ lastReading) :
    config.recheckAfter64 now = some (config.recheckAfter now) := by
  have delay := config.sinkRecheckMs.toNat_lt
  simp only [lastReading] at bounded
  rw [Config.recheckAfter64, int64_of_bounds (by simp only [millisecond]; omega)
    (by simp only [millisecond]; omega), Option.bind_some, int64_of_bounds
    (by simp only [millisecond]; omega) (by simp only [millisecond]; omega)]
  rfl

theorem retry64_eq (t : CaptureThread β) (start : 0 ≤ now) (bounded : now ≤ lastReading) :
    t.retry64 now = some (t.retry now) := by
  simp only [lastReading] at bounded
  rw [retry64, int64_of_bounds (by decide) (by decide), Option.bind_some, int64_of_bounds
    (by simp only [reinitDelay, millisecond]; omega)
    (by simp only [reinitDelay, millisecond]; omega)]
  rfl

theorem resolved64_eq (t : CaptureThread β) (c : Capture β) (found : Control × Option Target)
    (start : 0 ≤ now) (bounded : now ≤ lastReading) :
    t.resolved64 c now found = some (t.resolved c now found) := by
  obtain ⟨control, _ | target⟩ := found
  · rw [resolved64, retry64_eq t start bounded, Option.map_some]
    rfl
  · rfl

theorem opened64_eq (t : CaptureThread β) (c : Capture β) (target : Target)
    (answer : Except String Mic) (start : 0 ≤ now) (bounded : now ≤ lastReading) :
    t.opened64 c target now answer = some (t.opened c target now answer) := by
  cases answer with
  | error e => rfl
  | ok mic =>
    rw [opened64, recheckAfter64_eq _ start bounded, Option.map_some]
    rfl

theorem step64_eq (t : CaptureThread β) (c : Capture β) (input : CaptureInput β) (start : 0 ≤ now)
    (bounded : now ≤ lastReading) : t.step64 c now input = some (t.step c now input) := by
  unfold step64
  split
  · rename_i at_
    rw [resolved64_eq t c _ start bounded, Option.map_some]
    simp only [step, at_]
  · rename_i at_
    rw [opened64_eq t c _ _ start bounded, Option.map_some]
    simp only [step, at_]
  · rename_i at_
    rw [retry64_eq t start bounded, Option.map_some]
    simp only [step, at_]
  · rename_i at_
    rw [retry64_eq t start bounded, Option.map_some]
    simp only [step, at_]
  · rename_i at_
    rw [recheckAfter64_eq _ start bounded, Option.map_some]
    simp only [step, at_]
  · rfl

end
end CaptureThread

/-! ## What the clock readings bound -/

/-- The longest frame there is, in microseconds. -/
def longestFrame : Int := 4294967295000000

theorem framePeriod_bounds (frameSamples sampleRate : UInt32) :
    0 ≤ framePeriod frameSamples sampleRate ∧
      framePeriod frameSamples sampleRate ≤ longestFrame := by
  have samples := frameSamples.toNat_lt
  have quotient := Nat.div_le_self (frameSamples.toNat * 1000000) sampleRate.toNat
  unfold framePeriod longestFrame
  generalize frameSamples.toNat * 1000000 / sampleRate.toNat = micros at quotient ⊢
  omega

theorem period_bounds (config : Config) :
    0 ≤ config.period ∧ config.period ≤ longestFrame * microsecond := by
  have bounds := framePeriod_bounds config.frameSamples config.sampleRate
  simp only [Config.period, microsecond]
  omega

theorem framePeriod64_eq {frameSamples sampleRate : UInt32} (rate : sampleRate ≠ 0) :
    framePeriod64 frameSamples sampleRate = some (framePeriod frameSamples sampleRate) := by
  have samples := frameSamples.toNat_lt
  have bounds := framePeriod_bounds frameSamples sampleRate
  have quotient : (frameSamples.toNat * 1000000 : Int).tdiv sampleRate.toNat =
      framePeriod frameSamples sampleRate := by
    rw [framePeriod, Int.ofNat_tdiv]
    push_cast
    rfl
  simp only [longestFrame] at bounds
  rw [framePeriod64, int64_of_bounds (by omega) (by omega), Option.bind_some, if_neg rate, quotient,
    int64_of_bounds (by omega) (by omega)]

theorem period64_eq {config : Config} (rate : config.sampleRate ≠ 0) :
    config.period64 = some config.period := by
  have bounds := period_bounds config
  simp only [longestFrame, microsecond] at bounds
  rw [Config.period64, framePeriod64_eq rate, Option.bind_some, nanoseconds64]
  exact int64_of_bounds (by change _ ≤ config.period; omega) (by change config.period < _; omega)

section
variable {now : Int}

theorem waitUntil64_eq {wait : Int} (start : 0 ≤ now) (bounded : now ≤ lastReading)
    (forward : 0 ≤ wait) (short : wait ≤ longestFrame + 1000) :
    waitUntil64 now wait = some (now + wait * microsecond) := by
  simp only [lastReading, longestFrame] at bounded short
  rw [waitUntil64, nanoseconds64, int64_of_bounds (by simp only [microsecond]; omega)
    (by simp only [microsecond]; omega), Option.bind_some, int64_of_bounds
    (by simp only [microsecond]; omega) (by simp only [microsecond]; omega)]

theorem left64_eq {deadline : Int} (start : 0 ≤ now) (bounded : now ≤ lastReading)
    (low : 0 ≤ deadline) (high : deadline ≤ now + longestFrame * microsecond) :
    left64 deadline now = some (toMicroseconds (deadline - now)) := by
  simp only [lastReading, longestFrame, microsecond] at bounded high
  rw [left64, int64_of_bounds (by omega) (by omega), Option.map_some]

theorem startPacing64_eq {c : Capture β} (rate : c.config.sampleRate ≠ 0) (start : 0 ≤ now)
    (bounded : now ≤ lastReading) : c.startPacing64 now = some (c.startPacing now) := by
  have bounds := period_bounds c.config
  simp only [lastReading, longestFrame, microsecond] at bounded bounds
  unfold Capture.startPacing64 Capture.startPacing
  split
  · rfl
  · rw [period64_eq rate, Option.bind_some, int64_of_bounds (by omega) (by omega), Option.map_some]

/-- Two periods fit because a deadline is past when it is advanced. -/
theorem advance64_eq {c : Capture β} (rate : c.config.sampleRate ≠ 0) (start : 0 ≤ now)
    (bounded : now ≤ lastReading) (low : 0 ≤ c.nextDeadline) (past : c.nextDeadline ≤ now) :
    c.advance64 now = some (c.advance now) := by
  have bounds := period_bounds c.config
  simp only [lastReading, longestFrame, microsecond] at bounded bounds
  rw [Capture.advance64, Capture.advance, period64_eq rate, Option.bind_some,
    int64_of_bounds (by omega) (by omega), Option.bind_some]
  by_cases late : c.nextDeadline + c.config.period < now
  · rw [if_pos late, int64_of_bounds (by omega) (by omega), Option.map_some]
    simp only [if_pos late]
  · rw [if_neg late]
    simp only [if_neg late]

end

/-! ## Every run -/

namespace Consumer

/-- The clock does not go back, and a timeout is an `int`. -/
def Timely (s : Consumer β) : ConsumerLabel β → Prop
  | .clock now => s.clock ≤ now
  | .call args => -2 ^ 31 ≤ args.timeoutMs ∧ args.timeoutMs < 2 ^ 31
  | _ => True

/-- The call's deadline is no further away than an `int` of milliseconds. -/
def CallBounded (s : Consumer β) : Prop :=
  0 ≤ s.reader.callDeadline ∧ s.reader.callDeadline ≤ s.clock + 2 ^ 31 * millisecond

/-- How far what the reader computes from may lie, by where it stands. -/
def Bounded (s : Consumer β) : Prop :=
  match s.reader.pc with
  | .entered => s.reader.timeoutMs < 2 ^ 31
  | .admitted => 0 ≤ s.reader.timeoutMs ∧ s.reader.timeoutMs < 2 ^ 31
  | .looping | .emptyHanded => CallBounded s
  | .sleeping wait | .popping wait => CallBounded s ∧ 0 ≤ wait ∧ wait ≤ longestFrame + 1000
  | .due | .draining _ | .closing _ =>
    s.capture.deadlineValid = true ∧ s.capture.nextDeadline ≤ s.clock
  | _ => True

/-- The frame's deadline is never more than a period ahead of the clock. -/
structure Ranged (s : Consumer β) : Prop where
  clock : 0 ≤ s.clock
  rate : s.capture.config.sampleRate ≠ 0
  near : s.capture.deadlineValid = true → 0 ≤ s.capture.nextDeadline ∧
    s.capture.nextDeadline ≤ s.clock + s.capture.config.period
  bounded : Bounded s

section
variable {s : Consumer β}

/-- A step that changes nothing the reader computes from. -/
theorem Ranged.besides {c : Capture β} (h : Ranged s) (config : c.config = s.capture.config)
    (deadline : c.nextDeadline = s.capture.nextDeadline)
    (valid : c.deadlineValid = s.capture.deadlineValid) : Ranged { s with capture := c } := by
  refine ⟨h.clock, by rw [config]; exact h.rate, ?_, ?_⟩
  · rw [valid, deadline, config]
    exact h.near
  · simp only [Bounded, CallBounded, valid, deadline]
    exact h.bounded

theorem Ranged.later {now : Int} (h : Ranged s) (later : s.clock ≤ now) :
    Ranged { s with clock := now } := by
  obtain ⟨clock, rate, near, bounded⟩ := h
  refine ⟨Int.le_trans clock later, rate, fun valid => ?_, ?_⟩
  · have near := near valid
    dsimp only
    omega
  · have call : CallBounded s → CallBounded { s with clock := now } := by
      rintro ⟨forward, close⟩
      exact ⟨forward, by dsimp only; omega⟩
    unfold Bounded at bounded ⊢
    cases at_ : s.reader.pc with
    | entered | admitted => simpa only [at_] using bounded
    | looping | emptyHanded =>
      simp only [at_] at bounded ⊢
      exact call bounded
    | sleeping wait | popping wait =>
      simp only [at_] at bounded ⊢
      exact ⟨call bounded.1, bounded.2⟩
    | due | draining result | closing flags =>
      simp only [at_] at bounded ⊢
      exact ⟨bounded.1, Int.le_trans bounded.2 later⟩
    | idle | stamping | reporting ns | returned result => trivial

theorem startPacing_near {c : Capture β} {now : Int} (start : 0 ≤ now)
    (near : c.deadlineValid = true → 0 ≤ c.nextDeadline ∧ c.nextDeadline ≤ now + c.config.period) :
    0 ≤ (c.startPacing now).nextDeadline ∧
      (c.startPacing now).nextDeadline ≤ now + c.config.period := by
  have nonneg := c.config.period_nonneg
  unfold Capture.startPacing
  split
  · exact near ‹_›
  · dsimp only
    omega

theorem frame_left {deadline now : Int} (soon : now < deadline)
    (near : deadline ≤ now + longestFrame * microsecond) :
    toMicroseconds (deadline - now) ≤ longestFrame := by
  rw [toMicroseconds, Int.tdiv_eq_ediv_of_nonneg (by omega)]
  simp only [microsecond] at near ⊢
  omega

theorem sleepFor_bounds {r : Reader β} {deadline now : Int} (soon : now < deadline)
    (near : deadline ≤ now + longestFrame * microsecond) :
    r.sleepFor deadline now ≤ longestFrame + 1000 := by
  have left := frame_left soon near
  unfold Reader.sleepFor
  dsimp only
  split
  · omega
  · omega

theorem popFor_bounds {r : Reader β} {now : Int}
    (near : r.callDeadline ≤ now + 2 ^ 31 * millisecond) :
    0 ≤ r.popFor now ∧ r.popFor now ≤ longestFrame + 1000 := by
  unfold Reader.popFor
  dsimp only
  by_cases passed : r.callDeadline - now < 0
  · have left : toMicroseconds (r.callDeadline - now) ≤ 0 := by
      have mono : toMicroseconds (r.callDeadline - now) ≤ toMicroseconds 0 :=
        toMicroseconds_mono (by omega)
      exact mono
    simp only [longestFrame]
    split <;> omega
  · have left : toMicroseconds (r.callDeadline - now) ≤ 2 ^ 31 * 1000 := by
      rw [toMicroseconds, Int.tdiv_eq_ediv_of_nonneg (by omega)]
      simp only [microsecond, millisecond] at near ⊢
      omega
    simp only [longestFrame]
    split <;> omega

theorem look_ranged {c : Capture β} {r : Reader β} (h : Ranged s) (at_ : s.reader.pc = .looping)
    (looked : s.reader.look s.capture s.clock = (c, r)) :
    Ranged { s with capture := c, reader := r } := by
  obtain ⟨clock, rate, near, bounded⟩ := h
  simp only [Bounded, at_] at bounded
  have period := period_bounds s.capture.config
  unfold Reader.look at looked
  dsimp only at looked
  split at looked
  · cases looked
    obtain ⟨forward, short⟩ := popFor_bounds (r := { s.reader with now := s.clock }) bounded.2
    exact ⟨clock, rate, near, bounded, forward, short⟩
  · have paced := startPacing_near clock near
    have config := s.capture.startPacing_config s.clock
    have valid := s.capture.startPacing_valid s.clock
    have ranged : ∀ r', Bounded { s with capture := s.capture.startPacing s.clock, reader := r' } →
        Ranged { s with capture := s.capture.startPacing s.clock, reader := r' } := by
      intro r' bounded
      refine ⟨clock, by rw [config]; exact rate, fun _ => ?_, bounded⟩
      rw [config]
      exact paced
    split at looked
    · rename_i soon
      split at looked
      · cases looked
        exact ranged _ trivial
      · rename_i patient
        cases looked
        have short := sleepFor_bounds (r := { s.reader with now := s.clock }) soon (by omega)
        exact ranged _ ⟨bounded, by omega, short⟩
    · rename_i passed
      cases looked
      exact ranged _ ⟨valid, Int.not_lt.mp passed⟩

end

section
variable [Zero β] {s t : Consumer β}

theorem fresh_ranged (h : Fresh s) (start : 0 ≤ s.clock) : Ranged s := by
  obtain ⟨c, other, clock, created, rfl⟩ := h
  obtain ⟨storage, shape, _, rate, _⟩ := created.shape
  refine ⟨start, rate, fun valid => ?_, trivial⟩
  have unset : c.deadlineValid = false := by rw [shape]
  cases unset.symm.trans valid

theorem read_ranged {c : Capture β} {r : Reader β} (h : Ranged s)
    (stepped : s.reader.step s.capture s.clock = some (c, r)) :
    Ranged { s with capture := c, reader := r } := by
  obtain ⟨clock, rate, near, bounded⟩ := h
  unfold Bounded at bounded
  cases at_ : s.reader.pc with
  | entered =>
    simp only [Reader.step, at_, Option.some.injEq, Prod.mk.injEq] at stepped bounded
    obtain ⟨rfl, rfl⟩ := stepped
    refine ⟨clock, rate, near, ?_⟩
    unfold Reader.enter
    split
    · exact trivial
    · split
      · exact trivial
      · split
        · exact trivial
        · simp only [Bounded]
          split <;> omega
  | admitted =>
    simp only [Reader.step, at_, Option.some.injEq, Prod.mk.injEq] at stepped bounded
    obtain ⟨rfl, rfl⟩ := stepped
    refine ⟨clock, rate, near, ?_⟩
    simp only [Bounded, CallBounded, millisecond]
    omega
  | looping =>
    simp only [Reader.step, at_, Option.some.injEq] at stepped
    refine look_ranged ⟨clock, rate, near, ?_⟩ at_ stepped
    rw [Bounded, at_]
    rwa [at_] at bounded
  | sleeping wait =>
    simp only [Reader.step, at_, Option.some.injEq, Prod.mk.injEq] at stepped bounded
    obtain ⟨rfl, rfl⟩ := stepped
    exact ⟨clock, rate, near, bounded.1⟩
  | emptyHanded =>
    simp only [Reader.step, at_, Option.some.injEq, Prod.mk.injEq] at stepped bounded
    obtain ⟨rfl, rfl⟩ := stepped
    refine ⟨clock, rate, near, ?_⟩
    split
    · exact trivial
    · exact bounded
  | popping wait =>
    simp only [Reader.step, at_, Option.map_eq_some_iff, Prod.mk.injEq] at stepped bounded
    obtain ⟨⟨d, p⟩, popped, rfl, rfl⟩ := stepped
    obtain ⟨dst, queue, _, _, rfl⟩ := Reader.pop_queue popped
    refine ⟨clock, rate, near, ?_⟩
    unfold Reader.took
    split
    · exact trivial
    · unfold Reader.keep Reader.afterPop
      split
      · exact bounded.1
      · split
        · exact trivial
        · exact trivial
  | due =>
    simp only [Reader.step, at_, Option.map_eq_some_iff, Prod.mk.injEq] at stepped bounded
    obtain ⟨⟨d, p⟩, popped, rfl, rfl⟩ := stepped
    obtain ⟨dst, queue, _, _, rfl⟩ := Reader.pop_queue popped
    refine ⟨clock, rate, near, ?_⟩
    unfold Reader.took
    split
    · exact trivial
    · exact bounded
  | draining result =>
    simp only [Reader.step, at_, Option.map_eq_some_iff, Prod.mk.injEq] at stepped bounded
    obtain ⟨_, _, rfl, rfl⟩ := stepped
    exact ⟨clock, rate, near, bounded⟩
  | closing flags =>
    simp only [Reader.step, at_, Option.some.injEq, Prod.mk.injEq] at stepped bounded
    obtain ⟨rfl, rfl⟩ := stepped
    obtain ⟨valid, past⟩ := bounded
    have moved := Pacer.next_bounds past s.capture.config.period_nonneg
    refine ⟨clock, rate, fun _ => ⟨?_, moved.2.1⟩, trivial⟩
    exact Int.le_trans clock moved.1
  | stamping =>
    simp only [Reader.step, at_, Option.some.injEq, Prod.mk.injEq] at stepped
    obtain ⟨rfl, rfl⟩ := stepped
    exact ⟨clock, rate, near, trivial⟩
  | reporting ns =>
    simp only [Reader.step, at_, Option.some.injEq, Prod.mk.injEq] at stepped
    obtain ⟨rfl, rfl⟩ := stepped
    exact ⟨clock, rate, near, trivial⟩
  | idle | returned _ =>
    simp only [Reader.step, at_] at stepped
    cases stepped

theorem step_ranged {l : ConsumerLabel β} (h : Ranged s) (timely : Timely s l)
    (taken : s.step l = some t) : Ranged t := by
  cases l with
  | clock now =>
    cases taken
    exact h.later timely
  | call args =>
    simp only [step, Reader.call, Option.map_eq_some_iff] at taken
    obtain ⟨reader, called, rfl⟩ := taken
    split at called
    · cases called
      exact ⟨h.clock, h.rate, h.near, timely.2⟩
    · cases called
  | read =>
    simp only [step, Option.map_eq_some_iff, Prod.exists] at taken
    obtain ⟨c, r, stepped, rfl⟩ := taken
    exact read_ranged h stepped
  | push frame =>
    simp only [step, Capture.pushFrame, Option.map_map, Option.map_eq_some_iff, Prod.exists] at taken
    obtain ⟨queue, discarded, pushed, rfl⟩ := taken
    exact h.besides rfl rfl rfl
  | close =>
    cases taken
    exact h.besides rfl rfl rfl
  | raise =>
    cases taken
    exact h.besides rfl rfl rfl
  | aside c =>
    cases taken
    exact h.besides rfl rfl rfl

theorem reach_ranged (run : Steps.Reach step Timely (fun s => Fresh s ∧ 0 ≤ s.clock) s) :
    Ranged s := by
  apply Steps.Reach.invariant Ranged ?_ ?_ run
  · intro s ⟨fresh, start⟩
    exact fresh_ranged fresh start
  · intro s l t _ ranged timely taken
    exact step_ranged ranged timely taken

end

/-! ## The reader -/

section
variable {s : Consumer β}

theorem Ranged.callDeadline_left (h : Ranged s) (call : CallBounded s)
    (bounded : s.clock ≤ lastReading) :
    left64 s.reader.callDeadline s.clock =
      some (toMicroseconds (s.reader.callDeadline - s.clock)) := by
  apply left64_eq h.clock bounded call.1
  have close := call.2
  simp only [longestFrame, microsecond, millisecond] at close ⊢
  omega

theorem look64_eq (h : Ranged s) (at_ : s.reader.pc = .looping) (bounded : s.clock ≤ lastReading) :
    s.reader.look64 s.capture s.clock = some (s.reader.look s.capture s.clock) := by
  have call : CallBounded s := by simpa only [Bounded, at_] using h.bounded
  have left := h.callDeadline_left call bounded
  unfold Reader.look64 Reader.look
  dsimp only
  split
  · simp only [Reader.popFor64, left, Option.map_some]
    rfl
  · have config := s.capture.startPacing_config s.clock
    have paced := startPacing_near h.clock h.near
    have period := period_bounds s.capture.config
    rw [startPacing64_eq h.rate h.clock bounded, Option.bind_some]
    split
    · rename_i soon
      have frame : left64 (s.capture.startPacing s.clock).nextDeadline s.clock =
          some (toMicroseconds ((s.capture.startPacing s.clock).nextDeadline - s.clock)) :=
        left64_eq h.clock bounded paced.1 (by omega)
      have micros : toMicroseconds ((s.capture.startPacing s.clock).nextDeadline - s.clock) ≤
          longestFrame := frame_left soon (by omega)
      have forward := toMicroseconds_nonneg (Int.le_of_lt (Int.sub_pos_of_lt soon))
      have slack : int64
          (toMicroseconds ((s.capture.startPacing s.clock).nextDeadline - s.clock) + 1000) =
            some (toMicroseconds ((s.capture.startPacing s.clock).nextDeadline - s.clock) + 1000) := by
        simp only [longestFrame] at micros
        exact int64_of_bounds (by omega) (by omega)
      simp only [Reader.sleepFor64, frame, slack, left, Option.bind_some, Option.map_some]
      rfl
    · rfl

theorem reader64_eq [Zero β] (h : Ranged s) (bounded : s.clock ≤ lastReading) :
    s.reader.step64 s.capture s.clock = some (s.reader.step s.capture s.clock) := by
  have ⟨clock, rate, near, ranged⟩ := h
  have latest := bounded
  simp only [lastReading] at latest
  unfold Bounded at ranged
  cases at_ : s.reader.pc with
  | admitted =>
    simp only [at_] at ranged
    have timeout : int64 (s.reader.timeoutMs * millisecond) =
        some (s.reader.timeoutMs * millisecond) := by
      simp only [millisecond]
      exact int64_of_bounds (by omega) (by omega)
    have deadline : int64 (s.clock + s.reader.timeoutMs * millisecond) =
        some (s.clock + s.reader.timeoutMs * millisecond) := by
      simp only [millisecond]
      exact int64_of_bounds (by omega) (by omega)
    simp only [Reader.step64, Reader.step, at_, framePeriod64_eq rate, timeout, deadline,
      Option.bind_some, Option.map_some]
  | looping =>
    have looked := look64_eq h at_ bounded
    simp only [Reader.step64, Reader.step, at_, looked, Option.map_some]
  | sleeping wait | popping wait =>
    simp only [at_] at ranged
    have ends := waitUntil64_eq clock bounded ranged.2.1 ranged.2.2
    simp only [Reader.step64, at_, ends, Option.map_some]
  | due =>
    have ends := waitUntil64_eq clock bounded (Int.le_refl 0) (by decide)
    simp only [Reader.step64, at_, ends, Option.map_some]
  | closing flags =>
    simp only [at_] at ranged
    have advanced := advance64_eq rate clock bounded (near ranged.1).1 ranged.2
    simp only [Reader.step64, Reader.step, at_, advanced, Option.map_some]
  | idle | entered | emptyHanded | draining result | stamping | reporting ns | returned result =>
    simp only [Reader.step64, at_]

end

/-- No run of reads overflows the clock arithmetic, and no step of a capture
thread beside it does. -/
theorem clock_arithmetic_in_range [Zero β] {s : Consumer β}
    (run : Steps.Reach step Timely (fun s => Fresh s ∧ 0 ≤ s.clock) s)
    (bounded : s.clock ≤ lastReading) :
    s.reader.step64 s.capture s.clock = some (s.reader.step s.capture s.clock) ∧
      ∀ (t : CaptureThread β) (input : CaptureInput β),
        t.step64 s.capture s.clock input = some (t.step s.capture s.clock input) := by
  have ranged := reach_ranged run
  refine ⟨reader64_eq ranged bounded, fun t input => ?_⟩
  exact t.step64_eq s.capture input ranged.clock bounded

/-- The first call on the small handle, asleep until its frame is due. -/
theorem clock_arithmetic_in_range_small : ∃ s : Consumer UInt8, s.reader.pc = .sleeping 1020 ∧
    s.reader.step64 s.capture s.clock = some (s.reader.step s.capture s.clock) ∧
      ∀ (t : CaptureThread UInt8) (input : CaptureInput UInt8),
        t.step64 s.capture s.clock input = some (t.step s.capture s.clock input) := by
  let labels : List (ConsumerLabel UInt8) :=
    [.clock 5, .call ⟨some [7, 7], 1, none, 2147483647⟩, .read, .read, .read]
  obtain ⟨s, ran, asleep, clock⟩ : ∃ s, Steps.exec step small labels = some s ∧
      s.reader.pc = .sleeping 1020 ∧ s.clock = 5 := ⟨_, rfl, rfl, rfl⟩
  have timely : Steps.Meets step Timely small labels :=
    ⟨show (0 : Int) ≤ 5 by decide, ⟨by decide, by decide⟩, trivial, trivial, trivial, trivial⟩
  have run := (Steps.Reach.start ⟨small_fresh, by decide⟩ :
    Steps.Reach step Timely (fun s => Fresh s ∧ 0 ≤ s.clock) small).exec timely ran
  exact ⟨s, asleep, clock_arithmetic_in_range run (by rw [clock]; decide)⟩

end Consumer

/-! ## Sessions -/

/-- The consumer's timeouts are `int`s. -/
def Session.IntTimeouts (s : Session β) : SessionLabel β → Prop
  | .call args => Consumer.Timely s.consumer (.call args)
  | _ => True

theorem Session.reach_timely [Zero β] {start : Session β → Prop} {start' : Consumer β → Prop}
    {s : Session β} (first : ∀ s, start s → start' s.consumer)
    (run : Steps.Reach Session.step IntTimeouts start s) :
    Steps.Reach Consumer.step Consumer.Timely start' s.consumer := by
  apply Steps.Reach.invariant
    (fun s => Steps.Reach Consumer.step Consumer.Timely start' s.consumer) ?_ ?_ run
  · intro s fresh
    exact .start (first s fresh)
  · intro s l t _ before meets taken
    refine .next before ?_ (step_seen taken)
    cases l with
    | tick elapsed =>
      cases taken
      exact Int.le_add_of_nonneg_right (Int.natCast_nonneg elapsed)
    | call args => exact meets
    | capture input =>
      simp only [SessionLabel.seen, CaptureThread.seen]
      split <;> exact trivial
    | read | requestStop | closeQueue | callback _ => exact trivial

/-- The reader and the capture thread of a session share one handle, and neither
overflows. -/
theorem Session.clock_in_range [Zero β] {s : Session β} (input : CaptureInput β)
    (run : Steps.Reach Session.step IntTimeouts (fun s => Fresh s ∧ 0 ≤ s.clock) s)
    (bounded : s.clock ≤ lastReading) :
    s.reader.step64 s.capture s.clock = some (s.reader.step s.capture s.clock) ∧
      s.thread.step64 s.capture s.clock input = some (s.thread.step s.capture s.clock input) := by
  have ranged := Consumer.reach_ranged
    (reach_timely (fun s h => ⟨start_consumer h.1, h.2⟩) run)
  exact ⟨Consumer.reader64_eq ranged bounded,
    s.thread.step64_eq s.capture input ranged.clock bounded⟩

end WebAudioCapture
