import WebAudioCapture.Handle

/-!
# `weba_capture_read_frame`

The reader's calls, cut at every access to what other threads share: the
atomics, the queue and the clock. A wait may end at any time, early or late;
what the code finds when it ends is read then.
-/

namespace WebAudioCapture

variable {β : Type}

/-- Where the reader stands in a call. -/
inductive ReadPc where
  | idle
  | entered
  | admitted
  | looping
  -- pass-through: waiting in `pop`, and after a `pop` that found nothing
  | popping (wait : Int)
  | emptyHanded
  -- fixed rate: waiting for the deadline, and past it
  | sleeping (wait : Int)
  | due
  | draining (result : Int)
  | closing (flags : FrameFlags)
  -- pass-through: filling in the caller's info
  | stamping
  | reporting (timestamp : Int)
  | returned (result : Int)
  deriving DecidableEq, Repr

/-- The arguments of a call; none is a null pointer. -/
structure ReadArgs (β : Type) where
  dst : Option (List β)
  capacityFrames : UInt32
  info : Option FrameInfo
  timeoutMs : Int
  deriving DecidableEq, Repr

/-- The reader: the caller's memory and the locals of the call. -/
structure Reader (β : Type) where
  pc : ReadPc := .idle
  dst : Option (List β) := none
  capacityFrames : UInt32 := 0
  info : Option FrameInfo := none
  timeoutMs : Int := 0
  callDeadline : Int := 0
  totalDiscarded : Nat := 0
  now : Int := 0
  deriving DecidableEq, Repr

/-- A nanosecond count as a `uint64_t`. -/
def timestamp (ns : Int) : UInt64 := UInt64.ofNat (ns % 2 ^ 64).toNat

/-- The flag a drop report adds. -/
def dropFlag (totalDiscarded : Nat) : FrameFlags :=
  if totalDiscarded > 0 then frameDiscontinuity else 0

/-- The flags of synthesized silence. -/
def silenceFlags (result : Int) : FrameFlags :=
  if result = 0 then frameSilence ||| frameUnderrun else 0

/-- The first pacing iteration sets the deadline. -/
def Capture.startPacing (c : Capture β) (now : Int) : Capture β :=
  if c.deadlineValid then c
  else { c with nextDeadline := now + c.config.period, deadlineValid := true }

/-- Advance by one period, or resync when that is already past. -/
def Capture.advance (c : Capture β) (after : Int) : Capture β :=
  let next := c.nextDeadline + c.config.period
  { c with nextDeadline := if next < after then after + c.config.period else next }

theorem Capture.startPacing_config (c : Capture β) (now : Int) :
    (c.startPacing now).config = c.config := by
  unfold startPacing
  split <;> rfl

def Capture.drainFlags (c : Capture β) : Capture β := { c with pendingFlags := 0 }

namespace Reader

def finish (r : Reader β) (result : Int) : Reader β := { r with pc := .returned result }

def isIdle (r : Reader β) : Bool :=
  match r.pc with
  | .idle | .returned _ => true
  | _ => false

def call (r : Reader β) (args : ReadArgs β) : Option (Reader β) :=
  if r.isIdle then
    some { pc := .entered, dst := args.dst, capacityFrames := args.capacityFrames
           info := args.info, timeoutMs := args.timeoutMs }
  else none

def enter (r : Reader β) (c : Capture β) : Reader β :=
  if r.dst.isNone then r.finish Status.errInval.code
  else if !c.running then r.finish Status.errState.code
  else if r.capacityFrames < c.config.frameSamples then r.finish Status.errInval.code
  else { r with timeoutMs := if r.timeoutMs < 0 then 0 else r.timeoutMs, pc := .admitted }

/-- How long a fixed-rate iteration sleeps, in microseconds. -/
def sleepFor (r : Reader β) (deadline now : Int) : Int :=
  let wait := toMicroseconds (deadline - now) + 1000
  let untilCallDeadline := toMicroseconds (r.callDeadline - now)
  if untilCallDeadline < wait then untilCallDeadline else wait

/-- How long a pass-through iteration waits in `pop`, in microseconds. -/
def popFor (r : Reader β) (now : Int) : Int :=
  let wait := toMicroseconds (r.callDeadline - now)
  if wait < 0 then 0 else wait

/-- The head of the loop, with its clock reading. -/
def look (r : Reader β) (c : Capture β) (now : Int) : Capture β × Reader β :=
  let r := { r with now }
  if !c.config.fixedRate then (c, { r with pc := .popping (r.popFor now) })
  else
    let c := c.startPacing now
    if now < c.nextDeadline then
      if r.sleepFor c.nextDeadline now ≤ 0 then (c, r.finish 0)
      else (c, { r with pc := .sleeping (r.sleepFor c.nextDeadline now) })
    else (c, { r with pc := .due })

/-- `pop` into `dst`. None is a copy outside the queue's storage or `dst`. -/
def pop (r : Reader β) (c : Capture β) : Option (Capture β × FrameQueue.Popped β) :=
  r.dst.bind fun dst => (c.queue.pop dst).map fun (queue, p) => ({ c with queue }, p)

/-- What a `pop` that did not fail wrote and adds to the drop report. -/
def keep (r : Reader β) (p : FrameQueue.Popped β) (next : ReadPc) : Reader β :=
  { r with
    dst := some p.out
    totalDiscarded := sizeT (r.totalDiscarded + p.discarded)
    pc := next }

def took (r : Reader β) (p : FrameQueue.Popped β) (next : ReadPc) : Reader β :=
  if p.result < 0 then r.finish Status.errState.code else r.keep p next

/-- Where a pass-through `pop` leads. -/
def afterPop (r : Reader β) (result : Int) : ReadPc :=
  if result = 0 then .emptyHanded
  else if r.info.isSome then .stamping
  else .returned 1

/-- Silence in `dst`. -/
def silence [Zero β] (r : Reader β) (bytes : Nat) : Option (Reader β) :=
  r.dst.bind fun dst =>
    (Blocks.store dst 0 (List.replicate bytes 0)).map fun dst => { r with dst := some dst }

/-- The flags drained, with what this call adds to them. -/
def flagsFor (r : Reader β) (c : Capture β) (result : Int) : FrameFlags :=
  c.pendingFlags ||| dropFlag r.totalDiscarded ||| silenceFlags result

/-- Fill in the caller's info, if there is one. -/
def report (r : Reader β) (ns : Int) (flags : FrameFlags) : Reader β :=
  { r with
    info := r.info.map fun _ =>
      { timestampNs := timestamp ns, flags, droppedFrames := UInt32.ofNat r.totalDiscarded } }

/-- One step of a call at clock reading `now`. None when no call is running,
or on undefined behaviour. -/
def step [Zero β] (r : Reader β) (c : Capture β) (now : Int) : Option (Capture β × Reader β) :=
  match r.pc with
  | .idle | .returned _ => none
  | .entered => some (c, r.enter c)
  | .admitted =>
    some (c, { r with callDeadline := now + r.timeoutMs * millisecond, pc := .looping })
  | .looping => some (r.look c now)
  | .popping _ => (r.pop c).map fun (c, p) => (c, r.took p (r.afterPop p.result))
  | .emptyHanded =>
    some (c, if r.callDeadline ≤ now then r.finish 0 else { r with pc := .looping })
  | .sleeping _ => some (c, { r with pc := .looping })
  | .due => (r.pop c).map fun (c, p) => (c, r.took p (.draining p.result))
  | .draining result =>
    (if result = 0 then r.silence c.config.frameBytes else some r).map fun r =>
      (c.drainFlags, { r with pc := .closing (r.flagsFor c result) })
  | .closing flags => some (c.advance now, (r.report now flags).finish 1)
  | .stamping => some (c, { r with pc := .reporting now })
  | .reporting ns => some (c.drainFlags, (r.report ns (r.flagsFor c 1)).finish 1)

/-! ## What a step can do -/

/-- The steps of a call: from `c` and `r` at reading `now`, to. -/
inductive Moves [Zero β] (c : Capture β) (r : Reader β) (now : Int) :
    Capture β → Reader β → Prop
  | refuse (status : Status) (at_ : r.pc = .entered) (refused : status.code < 0) :
      Moves c r now c (r.finish status.code)
  | accept (timeoutMs : Int) (at_ : r.pc = .entered) (running : c.running = true)
      (given : r.dst.isSome = true) (enough : c.config.frameSamples ≤ r.capacityFrames) :
      Moves c r now c { r with timeoutMs, pc := .admitted }
  | begin (at_ : r.pc = .admitted) :
      Moves c r now c { r with callDeadline := now + r.timeoutMs * millisecond, pc := .looping }
  | wait (at_ : r.pc = .looping) (pass : c.config.fixedRate = false) :
      Moves c r now c { r with now, pc := .popping ({ r with now }.popFor now) }
  | early (next : ReadPc) (at_ : r.pc = .looping) (fixed : c.config.fixedRate = true)
      (soon : now < (c.startPacing now).nextDeadline)
      (leads : next = .returned 0 ∨ ∃ wait, 0 < wait ∧ next = .sleeping wait) :
      Moves c r now (c.startPacing now) { r with now, pc := next }
  | reach (at_ : r.pc = .looping) (fixed : c.config.fixedRate = true)
      (passed : (c.startPacing now).nextDeadline ≤ now) :
      Moves c r now (c.startPacing now) { r with now, pc := .due }
  | again (at_ : r.pc = .emptyHanded ∨ ∃ wait, r.pc = .sleeping wait) :
      Moves c r now c { r with pc := .looping }
  | expire (at_ : r.pc = .emptyHanded) (late : r.callDeadline ≤ now) :
      Moves c r now c (r.finish 0)
  | shut (c' : Capture β) (p : FrameQueue.Popped β) (at_ : r.pc = .due ∨ ∃ wait, r.pc = .popping wait)
      (popped : r.pop c = some (c', p)) (closed : p.result < 0) :
      Moves c r now c' (r.finish Status.errState.code)
  | popWaiting (c' : Capture β) (p : FrameQueue.Popped β) (wait : Int) (at_ : r.pc = .popping wait)
      (popped : r.pop c = some (c', p)) (open_ : 0 ≤ p.result) :
      Moves c r now c' (r.keep p (r.afterPop p.result))
  | popDue (c' : Capture β) (p : FrameQueue.Popped β) (at_ : r.pc = .due)
      (popped : r.pop c = some (c', p)) (open_ : 0 ≤ p.result) :
      Moves c r now c' (r.keep p (.draining p.result))
  | drain (result : Int) (dst : Option (List β)) (at_ : r.pc = .draining result)
      (filled : (if result = 0 then r.silence c.config.frameBytes else some r) =
        some { r with dst }) :
      Moves c r now c.drainFlags { r with dst, pc := .closing (r.flagsFor c result) }
  | close (flags : FrameFlags) (at_ : r.pc = .closing flags) :
      Moves c r now (c.advance now) ((r.report now flags).finish 1)
  | stamp (at_ : r.pc = .stamping) : Moves c r now c { r with pc := .reporting now }
  | tell (ns : Int) (at_ : r.pc = .reporting ns) :
      Moves c r now c.drainFlags ((r.report ns (r.flagsFor c 1)).finish 1)

/-- A `pop` touches nothing of the handle but its queue. -/
theorem pop_queue {c c' : Capture β} {r : Reader β} {p : FrameQueue.Popped β}
    (popped : r.pop c = some (c', p)) :
    ∃ dst queue, r.dst = some dst ∧ c.queue.pop dst = some (queue, p) ∧
      c' = { c with queue } := by
  simp only [pop, Option.bind_eq_some_iff, Option.map_eq_some_iff, Prod.mk.injEq] at popped
  obtain ⟨dst, given, ⟨queue, p'⟩, took, rfl, rfl⟩ := popped
  exact ⟨dst, queue, given, took, rfl⟩

section
variable [Zero β] {c c' : Capture β} {r r' : Reader β} {now : Int}

theorem enter_moves (at_ : r.pc = .entered) : Moves c r now c (r.enter c) := by
  unfold enter
  split
  · exact .refuse _ at_ (by decide)
  · rename_i given
    split
    · exact .refuse _ at_ (by decide)
    · rename_i running
      split
      · exact .refuse _ at_ (by decide)
      · rename_i enough
        have some : r.dst.isSome = true := Option.ne_none_iff_isSome.mp (by simpa using given)
        exact .accept _ at_ (by simpa using running) some (UInt32.not_lt.mp enough)

theorem look_moves (at_ : r.pc = .looping) : Moves c r now (r.look c now).1 (r.look c now).2 := by
  unfold look
  dsimp only
  split
  · rename_i pass
    exact .wait at_ (by simpa using pass)
  · rename_i fixed
    replace fixed : c.config.fixedRate = true := by simpa using fixed
    split
    · rename_i soon
      split
      · exact .early _ at_ fixed soon (.inl rfl)
      · rename_i patient
        exact .early _ at_ fixed soon (.inr ⟨_, Int.not_le.mp patient, rfl⟩)
    · rename_i passed
      exact .reach at_ fixed (Int.not_lt.mp passed)

theorem step_moves (taken : r.step c now = some (c', r')) : Moves c r now c' r' := by
  unfold step at taken
  cases at_ : r.pc with
  | idle => simp only [at_] at taken; cases taken
  | returned result => simp only [at_] at taken; cases taken
  | entered =>
    simp only [at_] at taken
    cases taken
    exact enter_moves at_
  | admitted =>
    simp only [at_] at taken
    cases taken
    exact .begin at_
  | looping =>
    simp only [at_, Option.some.injEq] at taken
    have moved : Moves c r now (r.look c now).1 (r.look c now).2 := look_moves at_
    rwa [taken] at moved
  | popping wait =>
    simp only [at_, Option.map_eq_some_iff, Prod.mk.injEq] at taken
    obtain ⟨⟨d, p⟩, popped, rfl, rfl⟩ := taken
    unfold took
    split
    · exact .shut _ _ (.inr ⟨wait, at_⟩) popped ‹_›
    · exact .popWaiting _ _ _ at_ popped (Int.not_lt.mp ‹_›)
  | emptyHanded =>
    simp only [at_] at taken
    cases taken
    split
    · exact .expire at_ ‹_›
    · exact .again (.inl at_)
  | sleeping wait =>
    simp only [at_] at taken
    cases taken
    exact .again (.inr ⟨wait, at_⟩)
  | due =>
    simp only [at_, Option.map_eq_some_iff, Prod.mk.injEq] at taken
    obtain ⟨⟨d, p⟩, popped, rfl, rfl⟩ := taken
    unfold took
    split
    · exact .shut _ _ (.inl at_) popped ‹_›
    · exact .popDue _ _ at_ popped (Int.not_lt.mp ‹_›)
  | draining result =>
    simp only [at_, Option.map_eq_some_iff, Prod.mk.injEq] at taken
    obtain ⟨filled, wrote, rfl, rfl⟩ := taken
    have shape : filled = { r with dst := filled.dst } := by
      split at wrote
      · simp only [silence, Option.bind_eq_some_iff, Option.map_eq_some_iff] at wrote
        obtain ⟨_, _, _, _, rfl⟩ := wrote
        rfl
      · cases wrote
        rfl
    rw [shape] at wrote ⊢
    exact .drain result filled.dst at_ wrote
  | closing flags =>
    simp only [at_] at taken
    cases taken
    exact .close flags at_
  | stamping =>
    simp only [at_] at taken
    cases taken
    exact .stamp at_
  | reporting ns =>
    simp only [at_] at taken
    cases taken
    exact .tell ns at_

/-- All of the handle that a call can change. -/
theorem moves_shape (moved : Moves c r now c' r') : ∃ queue pendingFlags nextDeadline deadlineValid,
    c' = { c with queue, pendingFlags, nextDeadline, deadlineValid } := by
  have paced : ∃ nextDeadline deadlineValid,
      c.startPacing now = { c with nextDeadline, deadlineValid } := by
    unfold Capture.startPacing
    split
    · exact ⟨c.nextDeadline, c.deadlineValid, rfl⟩
    · exact ⟨_, true, rfl⟩
  have popped : ∀ p, r.pop c = some (c', p) → ∃ queue, c' = { c with queue } := by
    intro p popped
    obtain ⟨_, queue, _, _, same⟩ := pop_queue popped
    exact ⟨queue, same⟩
  cases moved with
  | early next at_ fixed soon leads =>
    obtain ⟨nextDeadline, deadlineValid, same⟩ := paced
    exact ⟨_, _, nextDeadline, deadlineValid, same⟩
  | reach at_ fixed passed =>
    obtain ⟨nextDeadline, deadlineValid, same⟩ := paced
    exact ⟨_, _, nextDeadline, deadlineValid, same⟩
  | shut d p at_ took closed =>
    obtain ⟨queue, same⟩ := popped p took
    exact ⟨queue, _, _, _, same⟩
  | popWaiting d p wait at_ took open_ =>
    obtain ⟨queue, same⟩ := popped p took
    exact ⟨queue, _, _, _, same⟩
  | popDue d p at_ took open_ =>
    obtain ⟨queue, same⟩ := popped p took
    exact ⟨queue, _, _, _, same⟩
  | close flags at_ => exact ⟨_, _, _, _, rfl⟩
  | _ => exact ⟨c.queue, _, c.nextDeadline, c.deadlineValid, rfl⟩

theorem moves_config (moved : Moves c r now c' r') : c'.config = c.config := by
  obtain ⟨_, _, _, _, rfl⟩ := moves_shape moved
  rfl

theorem step_busy (taken : r.step c now = some (c', r')) : r.isIdle = false := by
  unfold step at taken
  unfold isIdle
  cases at_ : r.pc with
  | idle => rw [at_] at taken; cases taken
  | returned result => rw [at_] at taken; cases taken
  | _ => rfl

end
end Reader
end WebAudioCapture
