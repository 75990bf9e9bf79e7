import WebAudioCapture.EmptyRead
import WebAudioCapture.SessionInvariants

/-!
# The drop report

Frames discarded by overflow are counted by the queue, taken along by the next
pop and told with the frame it delivers. The queue counts in a `size_t` and the
caller's info has a `uint32_t` for it.
-/

namespace WebAudioCapture

variable {β : Type}

/-- The flags of a call that dropped frames say so. -/
theorem Reader.flagsFor_dropped {r : Reader β} (c : Capture β) (result : Int)
    (dropped : 0 < r.totalDiscarded) : (r.flagsFor c result).has frameDiscontinuity = true := by
  have flag : dropFlag r.totalDiscarded = frameDiscontinuity := if_pos dropped
  have bit : ((r.flagsFor c result &&& frameDiscontinuity).getLsbD 0) = true := by
    unfold flagsFor
    rw [flag]
    simp only [BitVec.getLsbD_and, BitVec.getLsbD_or, frameDiscontinuity]
    simp
  unfold FrameFlags.has
  apply bne_iff_ne.mpr
  intro none
  rw [none] at bit
  cases bit

namespace Consumer

/-- The true numbers of frames discarded: in all, since the last pop of a
frame, taken along by the call in progress, and told with each frame. -/
structure Tally where
  total : Nat := 0
  pending : Nat := 0
  inHand : Nat := 0
  told : List (Nat × Option FrameInfo) := []
  deriving DecidableEq, Repr

namespace Tally

def drop (g : Tally) : Tally := { g with total := g.total + 1, pending := g.pending + 1 }

/-- A pop takes the drops along. -/
def take (g : Tally) : Tally := { g with inHand := g.inHand + g.pending, pending := 0 }

def tell (g : Tally) (info : Option FrameInfo) : Tally :=
  { g with told := g.told ++ [(g.inHand, info)], inHand := 0 }

def note (s : Consumer β) (l : ConsumerLabel β) (t : Consumer β) (g : Tally) : Tally :=
  match l with
  | .push _ => if s.capture.queue.overflows then g.drop else g
  | .read =>
    let g := if s.reader.pc.takes then g.take else g
    if t.reader.pc = .returned 1 then g.tell t.reader.info else g
  | _ => g

end Tally

/-- The report tells the number in the bits it has, and the flag comes with it. -/
def Reported (d : Nat × Option FrameInfo) : Prop :=
  ∃ info, d.2 = some info ∧ info.droppedFrames.toNat = d.1 % 2 ^ 32 ∧
    (d.1 % 2 ^ 64 ≠ 0 → info.flags.has frameDiscontinuity = true)

/-- What the queue and the call have counted is the tally, in the bits of a
`size_t`. -/
structure Tallied (s : Consumer β) (g : Tally) : Prop where
  queue : s.capture.queue.dropped = sizeT g.pending
  full : 0 < g.pending → s.capture.queue.count = s.capture.queue.capacity
  call : s.reader.isIdle = false → s.reader.totalDiscarded = sizeT g.inHand
  away : s.reader.pc.phase = .away → g.inHand = 0
  drained : ∀ flags, s.reader.pc.phase = .drained flags → 0 < s.reader.totalDiscarded →
    flags.has frameDiscontinuity = true
  asked : s.reader.isIdle = false → s.reader.info.isSome = true
  told : ∀ d ∈ g.told, Reported d
  sum : g.total = (g.told.map Prod.fst).sum + g.inHand + g.pending

theorem sizeT_add (m n : Nat) : sizeT (sizeT m + sizeT n) = sizeT (m + n) :=
  (Nat.add_mod m n (2 ^ 64)).symm

/-- A report of what a call took along. -/
theorem reported {r : Reader β} {n : Nat} {ns : Int} {flags : FrameFlags}
    (count : r.totalDiscarded = sizeT n) (asked : r.info.isSome = true)
    (told : 0 < r.totalDiscarded → flags.has frameDiscontinuity = true) :
    Reported (n, (r.report ns flags).info) := by
  obtain ⟨info, given⟩ := Option.isSome_iff_exists.mp asked
  unfold Reported Reader.report
  rw [given]
  refine ⟨_, rfl, ?_, fun some => ?_⟩
  · simp only [count, sizeT, UInt32.toNat_ofNat']
    omega
  · apply told
    rw [count]
    exact Nat.pos_of_ne_zero some

theorem Tallied.tell {s : Consumer β} {g : Tally} {c : Capture β} {r : Reader β} (h : Tallied s g)
    (queue : c.queue = s.capture.queue) (returned : r.pc = .returned 1)
    (reported : Reported (g.inHand, r.info)) :
    Tallied { s with capture := c, reader := r } (g.tell r.info) := by
  constructor
  · rw [queue]; exact h.queue
  · rw [queue]; exact h.full
  · intro busy
    simp only [Reader.isIdle, returned] at busy
    cases busy
  · exact fun _ => rfl
  · intro flags drained
    simp only [returned] at drained
    cases drained
  · intro busy
    simp only [Reader.isIdle, returned] at busy
    cases busy
  · intro d at_
    obtain old | new := List.mem_append.mp at_
    · exact h.told d old
    · rw [List.mem_singleton.mp new]
      exact reported
  · have sum := h.sum
    simp only [Tally.tell, List.map_append, List.sum_append, List.map_cons, List.map_nil,
      List.sum_cons, List.sum_nil]
    omega

/-- A step that neither pops nor delivers. -/
theorem Tallied.quiet {s : Consumer β} {g : Tally} {c : Capture β} {r : Reader β} (h : Tallied s g)
    (queue : c.queue = s.capture.queue) (busy : s.reader.isIdle = false)
    (total : r.totalDiscarded = s.reader.totalDiscarded) (info : r.info = s.reader.info)
    (away : r.pc.phase = .away → s.reader.pc.phase = .away)
    (drained : ∀ flags, r.pc.phase = .drained flags → 0 < r.totalDiscarded →
      flags.has frameDiscontinuity = true) :
    Tallied { s with capture := c, reader := r } g := by
  constructor
  · rw [queue]; exact h.queue
  · rw [queue]; exact h.full
  · exact fun _ => total.trans (h.call busy)
  · exact fun at_ => h.away (away at_)
  · exact drained
  · intro _
    rw [info]
    exact h.asked busy
  · exact h.told
  · exact h.sum

/-- An empty queue has nothing to tell. -/
theorem Tallied.none_pending {s : Consumer β} {g : Tally} (h : Tallied s g)
    (counted : s.capture.queue.Counted) (empty : s.capture.queue.count = 0) : g.pending = 0 := by
  apply Nat.eq_zero_of_not_pos
  intro some
  have full := h.full some
  have positive := counted.capacity_pos
  omega

/-- A pop takes the drops along; when it finds nothing there are none. -/
theorem Tallied.keep {s : Consumer β} {g : Tally} {c : Capture β} {p : FrameQueue.Popped β}
    {next : ReadPc} (h : Tallied s g) (counted : s.capture.queue.Counted)
    (busy : s.reader.isIdle = false) (away : s.reader.pc.phase = .away)
    (popped : s.reader.pop s.capture = some (c, p)) (going : next.phase = .away → p.result = 0)
    (undrained : ∀ flags, next.phase ≠ .drained flags) :
    Tallied { s with capture := c, reader := s.reader.keep p next } g.take := by
  obtain ⟨dst, queue, _, taken, rfl⟩ := Reader.pop_queue popped
  obtain ⟨_, dropped, _, _, from_⟩ := FrameQueue.pop_counted counted taken
  have discarded : p.discarded = sizeT g.pending := by
    rw [← h.queue]
    cases from_ with
    | nothing empty result discarded count => rw [discarded, counted.no_drops empty]
    | frame some result discarded count => exact discarded
  constructor
  · exact dropped
  · rintro ⟨⟩
  · intro _
    simp only [Reader.keep, Tally.take, h.call busy, discarded, sizeT_add]
  · intro at_
    cases from_ with
    | nothing empty result discarded count =>
      simp only [Tally.take, h.away away, h.none_pending counted empty]
    | frame some result discarded count =>
      have := going at_
      omega
  · exact fun flags at_ => absurd at_ (undrained flags)
  · exact fun _ => h.asked busy
  · exact h.told
  · have sum := h.sum
    simp only [Tally.take]
    omega

theorem read_tallied [Zero β] {s : Consumer β} {g : Tally} {c : Capture β} {r : Reader β}
    (h : Tallied s g) (counted : s.capture.queue.Counted) (busy : s.reader.isIdle = false)
    (moved : s.reader.Moves s.capture s.clock c r) :
    Tallied { s with capture := c, reader := r }
      (g.note s .read { s with capture := c, reader := r }) := by
  have pass : s.reader.pc.takes = false → r.pc ≠ .returned 1 →
      g.note s .read { s with capture := c, reader := r } = g := by
    intro takes going
    simp only [Tally.note, takes, if_neg going, Bool.false_eq_true, if_false]
  have taking : s.reader.pc.takes = true → r.pc ≠ .returned 1 →
      g.note s .read { s with capture := c, reader := r } = g.take := by
    intro takes going
    simp only [Tally.note, takes, if_neg going, if_true]
  have telling : s.reader.pc.takes = false → r.pc = .returned 1 →
      g.note s .read { s with capture := c, reader := r } = g.tell r.info := by
    intro takes returned
    simp only [Tally.note, takes, if_pos returned, Bool.false_eq_true, if_false]
  cases moved with
  | refuse status at_ refused =>
    rw [pass (at_ ▸ rfl)]
    · exact h.quiet rfl busy rfl rfl (fun _ => at_ ▸ rfl) (by rintro _ ⟨⟩)
    · intro done
      have one : status.code = 1 := ReadPc.returned.inj done
      omega
  | accept timeoutMs at_ running given enough =>
    rw [pass (at_ ▸ rfl) (by rintro ⟨⟩)]
    exact h.quiet rfl busy rfl rfl (fun _ => at_ ▸ rfl) (by rintro _ ⟨⟩)
  | begin at_ =>
    rw [pass (at_ ▸ rfl) (by rintro ⟨⟩)]
    exact h.quiet rfl busy rfl rfl (fun _ => at_ ▸ rfl) (by rintro _ ⟨⟩)
  | wait at_ through =>
    rw [pass (at_ ▸ rfl) (by rintro ⟨⟩)]
    exact h.quiet rfl busy rfl rfl (fun _ => at_ ▸ rfl) (by rintro _ ⟨⟩)
  | early next at_ fixed soon leads =>
    have queue := (Session.startPacing_shared s.capture s.clock).1
    obtain rfl | ⟨wait, _, rfl⟩ := leads
    · rw [pass (at_ ▸ rfl) (by rintro ⟨⟩)]
      exact h.quiet queue busy rfl rfl (fun _ => at_ ▸ rfl) (by rintro _ ⟨⟩)
    · rw [pass (at_ ▸ rfl) (by rintro ⟨⟩)]
      exact h.quiet queue busy rfl rfl (fun _ => at_ ▸ rfl) (by rintro _ ⟨⟩)
  | reach at_ fixed passed =>
    have queue := (Session.startPacing_shared s.capture s.clock).1
    rw [pass (at_ ▸ rfl) (by rintro ⟨⟩)]
    exact h.quiet queue busy rfl rfl (fun _ => at_ ▸ rfl) (by rintro _ ⟨⟩)
  | again at_ =>
    obtain at_ | ⟨wait, at_⟩ := at_
    · rw [pass (at_ ▸ rfl) (by rintro ⟨⟩)]
      exact h.quiet rfl busy rfl rfl (fun _ => at_ ▸ rfl) (by rintro _ ⟨⟩)
    · rw [pass (at_ ▸ rfl) (by rintro ⟨⟩)]
      exact h.quiet rfl busy rfl rfl (fun _ => at_ ▸ rfl) (by rintro _ ⟨⟩)
  | expire at_ late =>
    rw [pass (at_ ▸ rfl) (by rintro ⟨⟩)]
    exact h.quiet rfl busy rfl rfl (fun _ => at_ ▸ rfl) (by rintro _ ⟨⟩)
  | shut d p at_ popped closed =>
    obtain ⟨dst, queue, _, taken, rfl⟩ := Reader.pop_queue popped
    obtain ⟨same, _⟩ := counted.pop_nothing taken (Int.le_of_lt closed)
    have takes : s.reader.pc.takes = true := by
      obtain at_ | ⟨wait, at_⟩ := at_
      · rw [at_]; rfl
      · rw [at_]; rfl
    have away := ReadPc.takes_away takes
    have nothing : g.take = g := by
      have empty : s.capture.queue.count = 0 := by
        obtain ⟨_, _, _, _, from_⟩ := FrameQueue.pop_counted counted taken
        cases from_ with
        | nothing empty result discarded count => exact empty
        | frame some result discarded count => omega
      have pending := h.none_pending counted empty
      simp only [Tally.take, pending, Nat.add_zero]
      rw [← pending]
    rw [taking takes (by rintro ⟨⟩), nothing]
    exact h.quiet same busy rfl rfl (fun _ => away) (by rintro _ ⟨⟩)
  | popWaiting d p wait at_ popped open_ =>
    by_cases nothing : p.result = 0
    · have next : s.reader.afterPop p.result = .emptyHanded := if_pos nothing
      rw [next] at taking ⊢
      rw [taking (at_ ▸ rfl) (by rintro ⟨⟩)]
      exact h.keep counted busy (at_ ▸ rfl) popped (fun _ => nothing) (by rintro _ ⟨⟩)
    · have next : s.reader.afterPop p.result = .stamping := by
        simp only [Reader.afterPop, if_neg nothing, h.asked busy, if_true]
      rw [next] at taking ⊢
      rw [taking (at_ ▸ rfl) (by rintro ⟨⟩)]
      exact h.keep counted busy (at_ ▸ rfl) popped (by rintro ⟨⟩) (by rintro _ ⟨⟩)
  | popDue d p at_ popped open_ =>
    rw [taking (at_ ▸ rfl) (by rintro ⟨⟩)]
    exact h.keep counted busy (at_ ▸ rfl) popped (by rintro ⟨⟩) (by rintro _ ⟨⟩)
  | drain result dst at_ filled =>
    rw [pass (at_ ▸ rfl) (by rintro ⟨⟩)]
    refine h.quiet rfl busy rfl rfl (by rintro ⟨⟩) fun flags drained dropped => ?_
    cases drained
    exact Reader.flagsFor_dropped s.capture result dropped
  | close flags at_ =>
    rw [telling (at_ ▸ rfl) rfl]
    exact h.tell rfl rfl (reported (h.call busy) (h.asked busy) (h.drained flags (at_ ▸ rfl)))
  | stamp at_ =>
    rw [pass (at_ ▸ rfl) (by rintro ⟨⟩)]
    exact h.quiet rfl busy rfl rfl (by rintro ⟨⟩) (by rintro _ ⟨⟩)
  | tell ns at_ =>
    rw [telling (at_ ▸ rfl) rfl]
    exact h.tell rfl rfl (reported (h.call busy) (h.asked busy)
      (Reader.flagsFor_dropped s.capture 1))

theorem push_tallied {s : Consumer β} {g : Tally} {frame : List β} {queue : FrameQueue β}
    {discarded : Nat} (h : Tallied s g) (counted : s.capture.queue.Counted)
    (pushed : s.capture.queue.push frame = some (queue, discarded)) :
    Tallied { s with capture := { s.capture with queue } }
      (if s.capture.queue.overflows then g.drop else g) := by
  obtain ⟨_, onto⟩ := FrameQueue.push_counted counted pushed
  cases spills : s.capture.queue.overflows with
  | true =>
    obtain ⟨open_, full⟩ := Bool.and_eq_true_iff.mp spills
    obtain ⟨dropped, capacity⟩ := FrameQueue.push_overflowing pushed spills
    have full : s.capture.queue.count = s.capture.queue.capacity := beq_iff_eq.mp full
    refine ⟨?_, ?_, h.call, h.away, h.drained, h.asked, h.told, ?_⟩
    · simp only [if_true, Tally.drop, dropped, h.queue, sizeT, Nat.mod_add_mod]
    · intro _
      cases onto with
      | refused closed same => rw [closed] at open_; cases open_
      | added open_ room count => omega
      | replaced open_ full count => rw [capacity, count, full]
    · have sum := h.sum
      simp only [if_true, Tally.drop]
      omega
  | false =>
    rw [if_neg Bool.false_ne_true]
    cases onto with
    | refused closed same =>
      rw [same]
      exact h
    | added open_ room count dropped =>
      refine ⟨dropped.trans h.queue, fun some => ?_, h.call, h.away, h.drained, h.asked, h.told,
        h.sum⟩
      have full := h.full some
      omega
    | replaced open_ full count =>
      rw [FrameQueue.overflows, open_, FrameQueue.isFull, full, BEq.rfl] at spills
      cases spills

theorem step_tallied [Zero β] {s t : Consumer β} {l : ConsumerLabel β} {g : Tally}
    (counted : s.capture.queue.Counted) (h : Tallied s g) (informed : Informed s l)
    (taken : s.step l = some t) : Tallied t (g.note s l t) := by
  cases step_moves taken with
  | call args idle =>
    have none := h.away (Session.idle_away idle)
    have count : 0 = sizeT g.inHand := by rw [none]; rfl
    exact ⟨h.queue, h.full, fun _ => count, fun _ => none, by rintro _ ⟨⟩, fun _ => informed,
      h.told, h.sum⟩
  | read c r moved =>
    obtain ⟨_, stepped, _⟩ := Option.map_eq_some_iff.mp taken
    exact read_tallied h counted (Reader.step_busy stepped) moved
  | push frame queue discarded pushed => exact push_tallied h counted pushed
  | clock now => exact ⟨h.queue, h.full, h.call, h.away, h.drained, h.asked, h.told, h.sum⟩
  | close => exact ⟨h.queue, h.full, h.call, h.away, h.drained, h.asked, h.told, h.sum⟩
  | raise => exact ⟨h.queue, h.full, h.call, h.away, h.drained, h.asked, h.told, h.sum⟩
  | aside c => exact ⟨h.queue, h.full, h.call, h.away, h.drained, h.asked, h.told, h.sum⟩

/-- Each delivery tells how many frames were discarded since the pop of the one
before it, modulo 2^32, and flags it unless that is a multiple of 2^64. Told,
in hand and pending, the discards add up to all there were. -/
theorem drops_reported [Zero β] (p : Consumer β × Tally)
    (run : Steps.Watched step Tally.note Informed Fresh {} p) :
    (∀ d ∈ p.2.told, ∃ info, d.2 = some info ∧ info.droppedFrames.toNat = d.1 % 2 ^ 32 ∧
      (d.1 % 2 ^ 64 ≠ 0 → info.flags.has frameDiscontinuity = true)) ∧
    p.2.total = (p.2.told.map Prod.fst).sum + p.2.inHand + p.2.pending ∧
    p.1.capture.queue.dropped = p.2.pending % 2 ^ 64 := by
  have tallied : Tallied p.1 p.2 := by
    apply Steps.Watched.invariant Tallied ?_ ?_ run
    · rintro s ⟨c, other, clock, created, rfl⟩
      obtain ⟨storage, shape, _⟩ := created.shape
      have dropped : (c.besides other).queue.dropped = 0 := by
        rw [show (c.besides other).queue = c.queue from rfl, shape]
      exact ⟨dropped, by rintro ⟨⟩, by rintro ⟨⟩, fun _ => rfl, by rintro _ ⟨⟩, by rintro ⟨⟩,
        by rintro _ ⟨⟩, rfl⟩
    · intro s l t g reached tallied informed taken
      exact step_tallied (reach_counted reached) tallied informed taken
  exact ⟨tallied.told, tallied.sum, tallied.queue⟩

/-- Three frames through a queue of two: the first read tells of one drop. -/
theorem drops_reported_once : ∃ p : Consumer UInt8 × Tally,
    Steps.Watched step Tally.note Informed Fresh {} p ∧ p.2.total = 1 ∧
    p.2.told = [(1, some ⟨20000, frameDiscontinuity, 1⟩)] ∧
    p.2.total = (p.2.told.map Prod.fst).sum + p.2.inHand + p.2.pending := by
  have ran : (Steps.exec (Steps.watch step Tally.note) (small, {})
      [.push [1, 1], .push [2, 2], .push [3, 3], .call ⟨some [7, 7], 1, some ⟨0, 0, 0⟩, 1000⟩,
        .read, .read, .read, .clock 20000, .read, .read, .read, .read, .read]).map
      (fun p => (p.2.total, p.2.told)) = some (1, [(1, some ⟨20000, frameDiscontinuity, 1⟩)]) := by
    rfl
  obtain ⟨p, ran, seen⟩ := Option.map_eq_some_iff.mp ran
  obtain ⟨total, told⟩ := Prod.mk.inj seen
  have run : Steps.Watched step Tally.note Informed Fresh {} p :=
    Steps.Reach.exec (.start ⟨small_fresh, rfl⟩) (by decide) ran
  exact ⟨p, run, total, told, (drops_reported p run).2.1⟩

end Consumer

/-! ## Where the report stops being the number -/

namespace Session

/-- The tally of a session. -/
def noteDrops (s : Session β) (l : SessionLabel β) (t : Session β) (g : Consumer.Tally) :
    Consumer.Tally :=
  g.note s.consumer (l.seen s t) t.consumer

/-- What holds of the tally of every run of a consumer holds of that of every
session. -/
theorem watched_consumer [Zero β] {p : Session β × Consumer.Tally}
    (run : Steps.Watched step noteDrops Informed Fresh {} p) :
    Steps.Watched Consumer.step Consumer.Tally.note Consumer.Informed Consumer.Fresh {}
      (p.1.consumer, p.2) := by
  apply Steps.Watched.simulate consumer SessionLabel.seen ?_ ?_ run
  · intro s fresh
    exact start_consumer fresh
  · intro s l t informed taken
    refine ⟨?_, step_seen taken⟩
    cases l with
    | call args => exact informed
    | capture input => simp only [SessionLabel.seen, CaptureThread.seen]; split <;> trivial
    | _ => trivial

/-- A new fixed-rate handle with a queue of one frame. -/
def narrowHandle : Capture UInt8 :=
  { config := { smallHandle.config with queueFrames := 1 }
    queue := { storage := [0, 0], slotBytes := 2, capacity := 1 } }

theorem narrowHandle_created : Capture.Created narrowHandle :=
  ⟨⟨2 ^ 63 - 1, fun _ => true, by decide⟩, true, true,
    some { channels := 1, frameSamples := 1, format := .s16le, sink := some "s", ringFrames := 1
           fixedRate := 1 }, rfl⟩

def narrow : Session UInt8 :=
  start narrowHandle { mainloop := true, ctx := some .ready, thread := .current, ready := true }
    { sink := "s", monitor := "m" } 0

theorem narrow_fresh : Fresh narrow := ⟨_, _, _, _, narrowHandle_created, rfl⟩

/-- A full queue of one frame discards it for the next. -/
theorem push_narrow (k : Nat) :
    ({ narrowHandle.queue with count := 1, dropped := sizeT k } : FrameQueue UInt8).push [0, 0] =
      some ({ narrowHandle.queue with count := 1, dropped := sizeT (k + 1) }, 1) := by
  have count : sizeT (sizeT k + 1) = sizeT (k + 1) := Nat.mod_add_mod k _ 1
  simp only [FrameQueue.push, FrameQueue.makeRoom, FrameQueue.isFull, FrameQueue.dropOldest,
    FrameQueue.writeIndex, narrowHandle, count]
  rfl

/-- Recording, with the queue full and `k` frames discarded. -/
def overflowed (k : Nat) : Session UInt8 :=
  { narrow with
    capture :=
      { narrow.capture with
        currentMonitor := "m"
        nextSinkCheck := 1000000000
        queue := { narrowHandle.queue with count := 1, dropped := sizeT k } }
    thread :=
      { pc := .reading, buffer := [0, 0], hadStream := true
        mic := some
          { source := "m", sampleFormat := .s16le, rate := 48000, channels := 1
            channelMap := [.mono], fragsize := 2 } }
    opens := 1
    captured := List.replicate (k + 1) ⟨1, [0, 0]⟩ }

theorem push_steps [Zero β] {s : Session β} {c : Capture β} (at_ : s.thread.pc = .pushing)
    (pushed : s.capture.pushFrame s.thread.buffer = some c) :
    s.step (.capture .run) = some (s.noteCapture c (s.thread.goto .rechecking)) := by
  simp only [step, CaptureThread.step, at_, pushed, Option.map_some]

/-- One more frame read and pushed. -/
theorem overflow_again (k : Nat) :
    Steps.exec (Steps.watch step noteDrops) (overflowed k, { total := k, pending := k })
        (recordFrame 0 ++ [.capture .run]) =
      some (overflowed (k + 1), { total := k + 1, pending := k + 1 }) := by
  let pushing : Session UInt8 :=
    { overflowed k with thread := { (overflowed k).thread with pc := .pushing } }
  let pushed : Session UInt8 :=
    { overflowed (k + 1) with thread := { (overflowed k).thread with pc := .rechecking } }
  have took : pushing.capture.pushFrame pushing.thread.buffer =
      some (overflowed (k + 1)).capture := by
    simp only [pushing, Capture.pushFrame, overflowed, push_narrow, Option.map_some]
  have more : (overflowed (k + 1)).captured = (overflowed k).captured ++ [⟨1, [0, 0]⟩] :=
    List.replicate_succ'
  have noted : pushing.noteCapture (overflowed (k + 1)).capture (pushing.thread.goto .rechecking) =
      pushed := by
    simp only [pushed, more]
    rfl
  have next : Steps.watch step noteDrops (pushing, { total := k, pending := k }) (.capture .run) =
      some (pushed, { total := k + 1, pending := k + 1 }) := by
    rw [Steps.watch, push_steps rfl took, noted]
    rfl
  calc Steps.exec (Steps.watch step noteDrops) (overflowed k, { total := k, pending := k })
          (recordFrame 0 ++ [.capture .run])
      = Steps.exec (Steps.watch step noteDrops) (pushing, { total := k, pending := k })
          [.capture .run, .capture .run, .capture .run] := Steps.exec_cons _ rfl
    _ = Steps.exec (Steps.watch step noteDrops) (pushed, { total := k + 1, pending := k + 1 })
          [.capture .run, .capture .run] := Steps.exec_cons _ next
    _ = some (overflowed (k + 1), { total := k + 1, pending := k + 1 }) := rfl

/-- Any number of frames may be discarded before one is read. -/
theorem overflows (k : Nat) : Steps.Watched step noteDrops Informed Fresh {}
    (overflowed k, { total := k, pending := k }) := by
  induction k with
  | zero =>
    have ran : Steps.exec (Steps.watch step noteDrops) (narrow, {})
        (openAttempt none ++ recordFrame 0 ++ [.capture .run]) = some (overflowed 0, {}) := by rfl
    exact Steps.Reach.exec (.start ⟨narrow_fresh, rfl⟩) (by decide) ran
  | succ k ih =>
    have meets : Steps.Meets (Steps.watch step noteDrops) (fun p => Informed p.1)
        (overflowed k, { total := k, pending := k }) (recordFrame 0 ++ [.capture .run]) := by
      apply Steps.meets_all
      simp [recordFrame, Informed]
    exact Steps.Reach.exec ih meets (overflow_again k)

/-- After 2^32 drops a frame is delivered that tells of none. -/
theorem drop_report_wraps : ∃ p : Session UInt8 × Consumer.Tally,
    Steps.Watched step noteDrops Informed Fresh {} p ∧ ∃ d ∈ p.2.told, ∃ info,
      d = (2 ^ 32, some info) ∧ info.droppedFrames.toNat = 0 := by
  have ran : (Steps.exec (Steps.watch step noteDrops)
      (overflowed (2 ^ 32), { total := 2 ^ 32, pending := 2 ^ 32 }) readFirst).map
      (fun p => p.2.told) = some [(2 ^ 32, some ⟨20000, frameDiscontinuity, 0⟩)] := by rfl
  obtain ⟨p, ran, told⟩ := Option.map_eq_some_iff.mp ran
  have run : Steps.Watched step noteDrops Informed Fresh {} p :=
    Steps.Reach.exec (overflows (2 ^ 32)) (by decide) ran
  exact ⟨p, run, _, told ▸ List.mem_singleton_self _, _, rfl, rfl⟩

end Session
end WebAudioCapture
