import WebAudioCapture.EmptyRead
import WebAudioCapture.QueueRefinement
import WebAudioCapture.SessionInvariants

/-!
# Where every frame goes

Each frame the queue accepted has been delivered, is in the hands of the
current call, is queued or was discarded, and what is delivered is a captured
frame or silence that says so.
-/

namespace WebAudioCapture

variable {β : Type}

namespace Session

/-- A call that returned 1: the number of its frame if it is a real one, the
caller's memory before and after, its info, and the frames its pop found. -/
structure Output (β : Type) where
  frame : Option Nat
  given : List β
  out : List β
  info : Option FrameInfo
  waiting : Nat
  deriving DecidableEq, Repr

/-- The frames read from the streams and the numbers of those discarded, and
what has been delivered. -/
structure Ledger (β : Type) where
  reads : List (List β) := []
  discarded : List Nat := []
  given : List β := []
  waiting : Nat := 0
  outputs : List (Output β) := []
  deriving DecidableEq, Repr

namespace Ledger

def delivered (g : Ledger β) : List Nat := g.outputs.filterMap Output.frame

def noteRead (s t : Session β) (g : Ledger β) : Ledger β :=
  let waiting := if s.reader.pc.takes then s.capture.queue.count else g.waiting
  { g with
    waiting
    outputs :=
      if t.reader.pc = .returned 1 then
        g.outputs ++ [⟨t.held, g.given, t.reader.dst.getD [], t.reader.info, waiting⟩]
      else g.outputs }

def noteCapture (s t : Session β) (g : Ledger β) : Ledger β :=
  match s.thread.pc with
  | .reading => if t.thread.pc = .pushing then { g with reads := g.reads ++ [t.thread.buffer] } else g
  | .pushing =>
    if s.capture.queue.overflows then { g with discarded := g.discarded ++ [s.headNumber] } else g
  | _ => g

def note (s : Session β) (l : SessionLabel β) (t : Session β) (g : Ledger β) : Ledger β :=
  match l with
  | .call args => { g with given := args.dst.getD [] }
  | .read => g.noteRead s t
  | .capture _ => g.noteCapture s t
  | _ => g

end Ledger

/-- A session of a fresh handle whose queue has room for all its frames. -/
def Roomy [Zero β] (s : Session β) : Prop :=
  ∃ c control target clock, Capture.Created c ∧
    max c.config.queueFrames.toNat 1 * c.config.frameBytes ≤ c.queue.storage.length ∧
    s = start c control target clock

/-- The frame the current call has popped. -/
def inHand (s : Session β) : List Nat :=
  match s.reader.pc.phase with
  | .away => []
  | _ => s.held.toList

/-- The bytes delivered are those of frame `n`, or silence. -/
def Payload [Zero β] (config : Config) (captured : List (Recording β)) (payload : List β) :
    Option Nat → Prop
  | none => payload = List.replicate config.frameBytes 0
  | some n => ∃ f, captured[n]? = some f ∧ payload = f.bytes

/-- One whole frame over the caller's memory, marked as silence exactly if it
is, and silence only for want of a frame. -/
structure Honest [Zero β] (config : Config) (captured : List (Recording β)) (o : Output β) :
    Prop where
  payload : ∃ payload, payload.length = config.frameBytes ∧
    o.out = payload ++ o.given.drop config.frameBytes ∧ Payload config captured payload o.frame
  marked : ∀ i, o.info = some i →
    i.flags.has frameSilence = o.frame.isNone ∧ i.flags.has frameUnderrun = o.frame.isNone
  silent : o.frame = none →
    config.fixedRate = true ∧ o.waiting = 0 ∧ ∀ i, o.info = some i → i.droppedFrames = 0

/-! ## A call in progress -/

/-- The call holds a captured frame, which is in the caller's memory. -/
def Loaded (s : Session β) (g : Ledger β) : Prop :=
  ∃ n f, s.held = some n ∧ s.captured[n]? = some f ∧
    f.bytes.length = s.capture.config.frameBytes ∧
    s.reader.dst = some (f.bytes ++ g.given.drop s.capture.config.frameBytes)

/-- The call found no frame, and no drops. -/
structure Starved (s : Session β) (g : Ledger β) : Prop where
  held : s.held = none
  waiting : g.waiting = 0
  total : s.reader.totalDiscarded = 0
  fixed : s.capture.config.fixedRate = true

/-- What the call has in its hands where it stands. -/
def Carried [Zero β] (s : Session β) (g : Ledger β) : ReadPc → Prop
  | .idle | .returned _ => True
  | .due =>
    (s.reader.dst.getD [] = g.given ∧ s.reader.totalDiscarded = 0) ∧
      s.capture.config.fixedRate = true
  | .draining result =>
    result = 0 ∧ s.reader.dst = some g.given ∧ Starved s g ∨ result = 1 ∧ Loaded s g
  | .closing flags =>
    flags.has frameSilence = true ∧ flags.has frameUnderrun = true ∧
      s.reader.dst = some (List.replicate s.capture.config.frameBytes 0 ++
        g.given.drop s.capture.config.frameBytes) ∧ Starved s g ∨
    flags.has frameSilence = false ∧ flags.has frameUnderrun = false ∧ Loaded s g
  | .stamping | .reporting _ => Loaded s g
  | _ => s.reader.dst.getD [] = g.given ∧ s.reader.totalDiscarded = 0

structure Conserved [Zero β] (s : Session β) (g : Ledger β) : Prop where
  queue : s.capture.queue.WellFormed
  slot : s.capture.queue.slotBytes = s.capture.config.frameBytes
  buffer : s.thread.buffer.length = s.capture.config.frameBytes
  contents : s.capture.queue.frames = (s.captured.drop s.headNumber).map Recording.bytes
  recorded : s.captured.map Recording.bytes <+: g.reads
  reading : s.capture.queue.closed = false → g.reads = s.captured.map Recording.bytes ++
    if s.thread.pc = .pushing then [s.thread.buffer] else []
  placed : (g.delivered ++ s.inHand ++ g.discarded).Perm (List.range s.headNumber)
  ordered : (g.delivered ++ s.inHand).Pairwise (· < ·)
  carried : Carried s g s.reader.pc
  honest : ∀ o ∈ g.outputs, Honest s.capture.config s.captured o

theorem carried_empty [Zero β] {s : Session β} {g : Ledger β} {pc : ReadPc}
    (empty : pc.emptyHeld = true) (dst : s.reader.dst.getD [] = g.given)
    (total : s.reader.totalDiscarded = 0) (due : pc = .due → s.capture.config.fixedRate = true) :
    Carried s g pc := by
  cases pc with
  | idle | returned _ => trivial
  | due => exact ⟨⟨dst, total⟩, due rfl⟩
  | draining _ | closing _ | stamping | reporting _ => cases empty
  | entered | admitted | looping | popping _ | emptyHanded | sleeping _ => exact ⟨dst, total⟩

/-- A call with nothing in its hands has not touched the caller's memory. -/
theorem Conserved.unread [Zero β] {s : Session β} {g : Ledger β} (h : Conserved s g)
    (busy : s.reader.isIdle = false) (empty : s.reader.pc.emptyHeld = true) :
    s.reader.dst.getD [] = g.given ∧ s.reader.totalDiscarded = 0 := by
  have carried := h.carried
  cases at_ : s.reader.pc with
  | idle | returned _ =>
    rw [Reader.isIdle, at_] at busy
    cases busy
  | due =>
    rw [at_] at carried
    exact carried.1
  | draining _ | closing _ | stamping | reporting _ =>
    rw [at_] at empty
    cases empty
  | entered | admitted | looping | popping _ | emptyHanded | sleeping _ =>
    rw [at_] at carried
    exact carried

theorem emptyHeld_away {pc : ReadPc} (empty : pc.emptyHeld = true) : pc.phase = .away := by
  cases pc with
  | draining _ | closing _ | stamping | reporting _ => cases empty
  | _ => rfl

theorem emptyHeld_undelivered {pc : ReadPc} (empty : pc.emptyHeld = true) : pc ≠ .returned 1 := by
  rintro rfl
  cases empty

theorem inHand_empty {s : Session β} (empty : s.reader.pc.emptyHeld = true) : s.inHand = [] := by
  rw [inHand, emptyHeld_away empty]

/-- One more number, somewhere among the others. -/
theorem perm_range_succ {xs ys : List Nat} {n : Nat} (h : (xs ++ ys).Perm (List.range n)) :
    (xs ++ [n] ++ ys).Perm (List.range (n + 1)) := by
  have moved : (xs ++ n :: ys).Perm (n :: (xs ++ ys)) := List.perm_middle
  have last : (n :: List.range n).Perm (List.range n ++ [n]) :=
    (List.perm_append_singleton n (List.range n)).symm
  rw [List.range_succ, List.append_assoc, List.singleton_append]
  exact (moved.trans (h.cons n)).trans last

/-! ## Steps of the reader -/

section
variable [Zero β] {s : Session β} {g : Ledger β} {c : Capture β} {r : Reader β}

/-- A step that leaves the queue alone. -/
theorem Conserved.settle (h : Conserved s g) (queue : c.queue = s.capture.queue)
    (config : c.config = s.capture.config)
    (hands : (g.noteRead s (s.noteRead c r)).delivered ++ (s.noteRead c r).inHand =
      g.delivered ++ s.inHand)
    (carried : Carried (s.noteRead c r) (g.noteRead s (s.noteRead c r)) r.pc)
    (honest : ∀ o ∈ (g.noteRead s (s.noteRead c r)).outputs,
      Honest s.capture.config s.captured o) :
    Conserved (s.noteRead c r) (g.noteRead s (s.noteRead c r)) := by
  have head : (s.noteRead c r).headNumber = s.headNumber := by
    simp only [headNumber, noteRead, queue]
  constructor
  · simpa only [noteRead, queue] using h.queue
  · simpa only [noteRead, queue, config] using h.slot
  · simpa only [noteRead, config] using h.buffer
  · rw [head]
    simpa only [noteRead, queue] using h.contents
  · exact h.recorded
  · exact fun open_ => h.reading (queue ▸ open_)
  · rw [hands, head]
    exact h.placed
  · rw [hands]
    exact h.ordered
  · exact carried
  · intro o at_
    simpa only [noteRead, config] using honest o at_

omit [Zero β] in
theorem undelivered (going : r.pc ≠ .returned 1) :
    (g.noteRead s (s.noteRead c r)).outputs = g.outputs := if_neg going

/-- A step that leaves the call empty-handed. -/
theorem empty_conserved (h : Conserved s g) (sound : Sound s) (busy : s.reader.isIdle = false)
    (moved : s.reader.Moves s.capture s.clock c r) (empty : r.pc.emptyHeld = true) :
    Conserved (s.noteRead c r) (g.noteRead s (s.noteRead c r)) := by
  have nothing := Reader.moves_takesNothing sound.queue moved empty
  have config := Reader.moves_config moved
  have outputs : (g.noteRead s (s.noteRead c r)).outputs = g.outputs :=
    undelivered (emptyHeld_undelivered empty)
  obtain ⟨dst, total⟩ := h.unread busy nothing.before
  apply h.settle nothing.kept.queue config
  · rw [Ledger.delivered, outputs, inHand_empty nothing.before, inHand_empty empty]
    rfl
  · apply carried_empty empty
    · exact (congrArg (Option.getD · []) nothing.dst).trans dst
    · exact nothing.total total
    · intro due
      exact (congrArg Config.fixedRate config).trans (nothing.due due)
  · rw [outputs]
    exact h.honest

/-- The frame at the head of the queue is the oldest one not yet placed. -/
theorem pop_conserved {dst : List β} {queue : FrameQueue β} {p : FrameQueue.Popped β}
    (h : Conserved s g) (sound : Sound s) (some_ : 0 < s.capture.queue.count)
    (popped : s.capture.queue.pop dst = some (queue, p)) :
    ∃ f, s.captured[s.headNumber]? = some f ∧ f.bytes.length = s.capture.config.frameBytes ∧
      p.result = 1 ∧ p.out = f.bytes ++ dst.drop s.capture.config.frameBytes ∧
      queue.WellFormed ∧ queue.slotBytes = s.capture.config.frameBytes ∧
      queue.closed = s.capture.queue.closed ∧
      queue.frames = (s.captured.drop (s.headNumber + 1)).map Recording.bytes ∧
      s.captured.length - queue.count = s.headNumber + 1 := by
  obtain ⟨frame, rest, queued, result, out, taken⟩ := h.queue.pop_takes popped some_
  obtain ⟨_, _, _, _, from_⟩ := FrameQueue.pop_counted sound.queue popped
  have enough := sound.enough
  have lt : s.headNumber < s.captured.length := by
    unfold headNumber
    omega
  have contents := h.contents
  rw [queued, List.drop_eq_getElem_cons lt, List.map_cons] at contents
  obtain ⟨first, others⟩ := List.cons.inj contents
  have whole := h.queue.frames_whole frame (queued ▸ List.mem_cons_self)
  have tail := taken.frames
  rw [queued, List.tail_cons, others] at tail
  refine ⟨s.captured[s.headNumber], List.getElem?_eq_getElem lt, ?_, result, ?_, taken.wellFormed,
    taken.slotBytes.trans h.slot, taken.closed, tail, ?_⟩
  · rw [← first, whole, h.slot]
  · rw [out, first, h.slot]
  · cases from_ with
    | nothing empty result discarded count => omega
    | frame some result discarded count =>
      rw [count]
      unfold headNumber
      omega

/-- A step that takes the frame at the head of the queue. -/
theorem take_conserved {p : FrameQueue.Popped β} {next : ReadPc} (h : Conserved s g)
    (sound : Sound s) (busy : s.reader.isIdle = false) (takes : s.reader.pc.takes = true)
    (unread : s.reader.pc.emptyHeld = true) (some_ : 0 < s.capture.queue.count)
    (popped : s.reader.pop s.capture = some (c, p))
    (after : next.phase = .undrained ∧ next ≠ .returned 1 ∨
      next = .returned 1 ∧ s.reader.info = none)
    (carried : Loaded (s.noteRead c (s.reader.keep p next))
      (g.noteRead s (s.noteRead c (s.reader.keep p next))) →
        Carried (s.noteRead c (s.reader.keep p next))
          (g.noteRead s (s.noteRead c (s.reader.keep p next))) next) :
    Conserved (s.noteRead c (s.reader.keep p next))
      (g.noteRead s (s.noteRead c (s.reader.keep p next))) := by
  obtain ⟨dst, queue, given, taken, rfl⟩ := Reader.pop_queue popped
  obtain ⟨f, first, size, result, out, wf, slot, closed, contents, head⟩ :=
    pop_conserved h sound some_ taken
  have before : s.inHand = [] := inHand_empty unread
  have same : dst = g.given := by
    have untouched := (h.unread busy unread).1
    rwa [given] at untouched
  rw [same] at out
  have held : s.heldNext = some s.headNumber := by
    simp only [heldNext, takes, if_true, nextFrame, if_neg (Nat.ne_of_gt some_)]
  have placed := h.placed
  have ordered := h.ordered
  rw [before, List.append_nil] at placed ordered
  have hands : (g.noteRead s (s.noteRead { s.capture with queue } (s.reader.keep p next))).delivered ++
      (s.noteRead { s.capture with queue } (s.reader.keep p next)).inHand =
        g.delivered ++ [s.headNumber] := by
    obtain ⟨phase, going⟩ | ⟨rfl, _⟩ := after
    · have inHand : (s.noteRead { s.capture with queue } (s.reader.keep p next)).inHand =
          [s.headNumber] := by
        simp only [Session.inHand, noteRead, Reader.keep, phase, held, Option.toList]
      rw [Ledger.delivered, undelivered going, inHand]
      rfl
    · rw [Ledger.delivered, Ledger.noteRead]
      simp only [noteRead, Reader.keep, if_true, held, List.filterMap_append, List.filterMap_cons,
        List.filterMap_nil, Session.inHand, ReadPc.phase, List.append_nil]
      rfl
  constructor
  · exact wf
  · exact slot
  · exact h.buffer
  · rw [show (s.noteRead { s.capture with queue } (s.reader.keep p next)).headNumber =
      s.headNumber + 1 from head]
    exact contents
  · exact h.recorded
  · exact fun open_ => h.reading (closed ▸ open_)
  · rw [hands, show (s.noteRead { s.capture with queue } (s.reader.keep p next)).headNumber =
      s.headNumber + 1 from head]
    exact perm_range_succ placed
  · rw [hands, List.pairwise_append]
    refine ⟨ordered, List.pairwise_singleton _ _, fun m at_ n last => ?_⟩
    rw [List.mem_singleton.mp last]
    exact List.mem_range.mp (placed.subset (List.mem_append_left _ at_))
  · exact carried ⟨s.headNumber, f, held, first, size, congrArg some out⟩
  · intro o at_
    obtain ⟨_, going⟩ | ⟨rfl, none⟩ := after
    · rw [undelivered going] at at_
      exact h.honest o at_
    · simp only [Ledger.noteRead, noteRead, Reader.keep, if_true] at at_
      obtain old | new := List.mem_append.mp at_
      · exact h.honest o old
      · rw [List.mem_singleton.mp new]
        rw [held, none]
        exact ⟨⟨f.bytes, size, out, f, first, rfl⟩, by rintro _ ⟨⟩, by rintro ⟨⟩⟩

omit [Zero β] in
/-- Flags pending for a reopen say nothing of silence. -/
theorem flagsFor_silence (flags : s.capture.pendingFlags = 0 ∨ s.capture.pendingFlags = reopenFlags)
    (result : Int) :
    (s.reader.flagsFor s.capture result).has frameSilence = decide (result = 0) ∧
      (s.reader.flagsFor s.capture result).has frameUnderrun = decide (result = 0) := by
  unfold Reader.flagsFor dropFlag silenceFlags
  by_cases nothing : result = 0
  · rw [if_pos nothing, decide_eq_true nothing]
    obtain flags | flags := flags
    · rw [flags]; split <;> decide
    · rw [flags]; split <;> decide
  · rw [if_neg nothing, decide_eq_false nothing]
    obtain flags | flags := flags
    · rw [flags]; split <;> decide
    · rw [flags]; split <;> decide

omit [Zero β] in
theorem noteRead_inHand (takes : s.reader.pc.takes = false) (before : s.reader.pc.phase ≠ .away)
    (after : r.pc.phase ≠ .away) : (s.noteRead c r).inHand = s.inHand := by
  have held : (s.noteRead c r).held = s.held := by
    simp only [noteRead, heldNext, takes, Bool.false_eq_true, if_false]
  unfold inHand
  rw [held]
  change (match r.pc.phase with | .away => [] | _ => s.held.toList) = _
  cases first : s.reader.pc.phase with
  | away => exact absurd first before
  | _ =>
    cases second : r.pc.phase with
    | away => exact absurd second after
    | _ => rfl

/-- A step that hands the frame over. -/
theorem deliver_conserved (h : Conserved s g) (queue : c.queue = s.capture.queue)
    (config : c.config = s.capture.config) (takes : s.reader.pc.takes = false)
    (before : s.reader.pc.phase ≠ .away) (returned : r.pc = .returned 1)
    (honest : Honest s.capture.config s.captured
      ⟨s.held, g.given, r.dst.getD [], r.info, g.waiting⟩) :
    Conserved (s.noteRead c r) (g.noteRead s (s.noteRead c r)) := by
  have held : (s.noteRead c r).held = s.held := by
    simp only [noteRead, heldNext, takes, Bool.false_eq_true, if_false]
  have outputs : (g.noteRead s (s.noteRead c r)).outputs =
      g.outputs ++ [⟨s.held, g.given, r.dst.getD [], r.info, g.waiting⟩] := by
    rw [Ledger.noteRead]
    simp only [held, takes, Bool.false_eq_true, if_false]
    exact if_pos returned
  apply h.settle queue config
  · have inHand : s.inHand = s.held.toList := by
      unfold Session.inHand
      split
      · exact absurd ‹_› before
      · rfl
    have none : (s.noteRead c r).inHand = [] := by
      simp only [Session.inHand, noteRead, returned, ReadPc.phase]
    rw [Ledger.delivered, outputs, List.filterMap_append, none, inHand, List.append_nil]
    cases s.held <;> rfl
  · rw [returned]
    trivial
  · intro o at_
    rw [outputs] at at_
    obtain old | new := List.mem_append.mp at_
    · exact h.honest o old
    · rw [List.mem_singleton.mp new]
      exact honest

/-- A captured frame, told as one. -/
theorem Loaded.honest {flags : FrameFlags} {ns : Int} (h : Loaded s g)
    (audible : flags.has frameSilence = false ∧ flags.has frameUnderrun = false) :
    Honest s.capture.config s.captured ⟨s.held, g.given, (s.reader.report ns flags).dst.getD [],
      (s.reader.report ns flags).info, g.waiting⟩ := by
  obtain ⟨n, f, held, at_, size, dst⟩ := h
  refine ⟨⟨f.bytes, size, ?_, ?_⟩, fun i given => ?_, fun silent => ?_⟩
  · exact congrArg (Option.getD · []) dst
  · rw [held]
    exact ⟨f, at_, rfl⟩
  · rw [report_flags given, held]
    exact audible
  · rw [held] at silent
    cases silent

/-- Silence, told as such. -/
theorem Starved.honest {flags : FrameFlags} {ns : Int} (h : Starved s g)
    (dst : s.reader.dst = some (List.replicate s.capture.config.frameBytes 0 ++
      g.given.drop s.capture.config.frameBytes))
    (silent : flags.has frameSilence = true ∧ flags.has frameUnderrun = true) :
    Honest s.capture.config s.captured ⟨s.held, g.given, (s.reader.report ns flags).dst.getD [],
      (s.reader.report ns flags).info, g.waiting⟩ := by
  refine ⟨⟨List.replicate s.capture.config.frameBytes 0, List.length_replicate, ?_, ?_⟩,
    fun i given => ?_, fun _ => ⟨h.fixed, h.waiting, fun i given => ?_⟩⟩
  · exact congrArg (Option.getD · []) dst
  · rw [h.held]
    rfl
  · rw [report_flags given, h.held]
    exact silent
  · simp only [Reader.report, Option.map_eq_some_iff] at given
    obtain ⟨_, _, rfl⟩ := given
    dsimp only
    rw [h.total]
    rfl

/-- A call whose frame is due and finds none. -/
theorem starve_conserved {p : FrameQueue.Popped β} (h : Conserved s g) (sound : Sound s)
    (at_ : s.reader.pc = .due)
    (popped : s.reader.pop s.capture = some (c, p)) (open_ : 0 ≤ p.result)
    (empty : s.capture.queue.count = 0) :
    Conserved (s.noteRead c (s.reader.keep p (.draining p.result)))
      (g.noteRead s (s.noteRead c (s.reader.keep p (.draining p.result)))) := by
  have carried := h.carried
  rw [at_] at carried
  obtain ⟨⟨unread, total⟩, fixed⟩ := carried
  obtain ⟨dst, queue, given, taken, rfl⟩ := Reader.pop_queue popped
  obtain ⟨_, _, _, _, from_⟩ := FrameQueue.pop_counted sound.queue taken
  have none : p.result = 0 := by
    cases from_ with
    | nothing empty result discarded count => omega
    | frame some result discarded count => omega
  obtain ⟨same, out, discarded⟩ := sound.queue.pop_nothing taken (Int.le_of_eq none)
  have takes : s.reader.pc.takes = true := at_ ▸ rfl
  have held : s.heldNext = Option.none := by
    simp only [heldNext, takes, if_true, nextFrame, empty]
  have before : s.inHand = [] := inHand_empty (at_ ▸ rfl)
  rw [given] at unread
  refine h.settle same rfl ?_ (.inl ⟨none, congrArg some (out.trans unread), ?_⟩) ?_
  · rw [Ledger.delivered, undelivered (by rintro ⟨⟩), before]
    simp only [Session.inHand, noteRead, Reader.keep, ReadPc.phase, held, Option.toList]
    rfl
  · refine ⟨held, ?_, ?_, fixed⟩
    · simp only [Ledger.noteRead, takes, if_true, empty]
    · simp only [noteRead, Reader.keep, total, discarded]
      rfl
  · rw [undelivered (by rintro ⟨⟩)]
    exact h.honest

/-- A step that drains the flags of a fixed-rate call. -/
theorem drain_conserved {result : Int} {dst : Option (List β)} (h : Conserved s g)
    (sound : Sound s) (at_ : s.reader.pc = .draining result)
    (filled : (if result = 0 then s.reader.silence s.capture.config.frameBytes
      else some s.reader) = some { s.reader with dst }) :
    Conserved
      (s.noteRead s.capture.drainFlags
        { s.reader with dst, pc := .closing (s.reader.flagsFor s.capture result) })
      (g.noteRead s (s.noteRead s.capture.drainFlags
        { s.reader with dst, pc := .closing (s.reader.flagsFor s.capture result) })) := by
  have carried := h.carried
  rw [at_] at carried
  have takes : s.reader.pc.takes = false := at_ ▸ rfl
  have before : s.reader.pc.phase ≠ .away := by rw [at_]; rintro ⟨⟩
  have marks := flagsFor_silence sound.flags result
  have held : s.heldNext = s.held := by
    simp only [heldNext, takes, Bool.false_eq_true, if_false]
  have waiting : (if s.reader.pc.takes then s.capture.queue.count else g.waiting) = g.waiting := by
    rw [takes]
    rfl
  refine h.settle rfl rfl ?_ ?_ ?_
  · rw [Ledger.delivered, undelivered (by rintro ⟨⟩), noteRead_inHand takes before (by rintro ⟨⟩)]
    rfl
  · obtain ⟨nothing, given, starved⟩ | ⟨one, n, f, real, first, size, given⟩ := carried
    · rw [if_pos nothing, Reader.silence, given, Option.bind_some, Blocks.store] at filled
      rw [decide_eq_true nothing] at marks
      split at filled
      · have written := congrArg Reader.dst (Option.some.inj filled)
        rw [List.take_zero, List.nil_append, List.length_replicate, Nat.zero_add] at written
        exact .inl ⟨marks.1, marks.2, written.symm,
          ⟨held.trans starved.held, waiting.trans starved.waiting, starved.total, starved.fixed⟩⟩
      · cases filled
    · rw [if_neg (by omega)] at filled
      rw [decide_eq_false (by omega)] at marks
      have written := congrArg Reader.dst (Option.some.inj filled)
      exact .inr ⟨marks.1, marks.2, n, f, held.trans real, first, size, written.symm.trans given⟩
  · rw [undelivered (by rintro ⟨⟩)]
    exact h.honest

theorem read_conserved (h : Conserved s g) (sound : Sound s) (busy : s.reader.isIdle = false)
    (moved : s.reader.Moves s.capture s.clock c r) :
    Conserved (s.noteRead c r) (g.noteRead s (s.noteRead c r)) := by
  by_cases empty : r.pc.emptyHeld = true
  · exact empty_conserved h sound busy moved empty
  have carried := h.carried
  cases moved with
  | refuse status at_ refused => exact absurd (decide_eq_true (Int.le_of_lt refused)) empty
  | early next at_ fixed soon leads => obtain rfl | ⟨wait, _, rfl⟩ := leads <;> exact absurd rfl empty
  | accept | begin | wait | reach | again | expire | shut => exact absurd rfl empty
  | popWaiting d p wait at_ popped open_ =>
    have nothing : p.result ≠ 0 := by
      intro none
      rw [Reader.keep, Reader.afterPop, if_pos none] at empty
      exact empty rfl
    have some_ : 0 < s.capture.queue.count := by
      obtain ⟨dst, queue, _, taken, rfl⟩ := Reader.pop_queue popped
      obtain ⟨_, _, _, _, from_⟩ := FrameQueue.pop_counted sound.queue taken
      cases from_ with
      | nothing empty result discarded count => omega
      | frame some result discarded count => exact some
    rw [Reader.afterPop, if_neg nothing]
    cases asked : s.reader.info with
    | none =>
      exact take_conserved h sound busy (at_ ▸ rfl) (at_ ▸ rfl) some_ popped (.inr ⟨rfl, asked⟩)
        fun _ => trivial
    | some info =>
      exact take_conserved h sound busy (at_ ▸ rfl) (at_ ▸ rfl) some_ popped
        (.inl ⟨rfl, by rintro ⟨⟩⟩) id
  | popDue d p at_ popped open_ =>
    by_cases none : s.capture.queue.count = 0
    · exact starve_conserved h sound at_ popped open_ none
    · have one : p.result = 1 := by
        obtain ⟨dst, queue, _, taken, rfl⟩ := Reader.pop_queue popped
        obtain ⟨_, _, _, _, from_⟩ := FrameQueue.pop_counted sound.queue taken
        cases from_ with
        | nothing empty result discarded count => exact absurd empty none
        | frame some result discarded count => exact result
      exact take_conserved h sound busy (at_ ▸ rfl) (at_ ▸ rfl) (Nat.pos_of_ne_zero none) popped
        (.inl ⟨rfl, by rintro ⟨⟩⟩) fun loaded => .inr ⟨one, loaded⟩
  | drain result dst at_ filled => exact drain_conserved h sound at_ filled
  | close flags at_ =>
    rw [at_] at carried
    have before : s.reader.pc.phase ≠ .away := by rw [at_]; rintro ⟨⟩
    refine deliver_conserved h rfl rfl (at_ ▸ rfl) before rfl ?_
    obtain ⟨silence, underrun, dst, starved⟩ | ⟨silence, underrun, loaded⟩ := carried
    · exact starved.honest dst ⟨silence, underrun⟩
    · exact loaded.honest ⟨silence, underrun⟩
  | stamp at_ =>
    rw [at_] at carried
    have takes : s.reader.pc.takes = false := at_ ▸ rfl
    have before : s.reader.pc.phase ≠ .away := by rw [at_]; rintro ⟨⟩
    obtain ⟨n, f, real, loaded⟩ := carried
    have held : s.heldNext = s.held := by
      simp only [heldNext, takes, Bool.false_eq_true, if_false]
    refine h.settle rfl rfl ?_ ⟨n, f, held.trans real, loaded⟩ ?_
    · rw [Ledger.delivered, undelivered (by rintro ⟨⟩),
        noteRead_inHand takes before (by rintro ⟨⟩)]
      rfl
    · rw [undelivered (by rintro ⟨⟩)]
      exact h.honest
  | tell ns at_ =>
    rw [at_] at carried
    have before : s.reader.pc.phase ≠ .away := by rw [at_]; rintro ⟨⟩
    refine deliver_conserved h rfl rfl (at_ ▸ rfl) before rfl ?_
    exact Loaded.honest carried (flagsFor_silence sound.flags 1)

end

/-! ## Steps of the capture thread -/

/-- The steps of the capture thread, seen from what it reads and pushes. -/
inductive Flow (c : Capture β) (t : CaptureThread β) (c' : Capture β) (t' : CaptureThread β) : Prop
  | still (queue : c'.queue = c.queue) (from_ : t.pc ≠ .pushing) (to_ : t'.pc ≠ .pushing)
      (size : t'.buffer.length = t.buffer.length)
  | read (queue : c'.queue = c.queue) (at_ : t.pc = .reading) (to_ : t'.pc = .pushing)
      (size : t'.buffer.length = t.buffer.length)
  | push (queue : FrameQueue β) (discarded : Nat) (at_ : t.pc = .pushing)
      (pushed : c.queue.push t.buffer = some (queue, discarded)) (shape : c' = { c with queue })
      (to_ : t' = t.goto .rechecking)

theorem moves_flow {c c' : Capture β} {t t' : CaptureThread β} {now : Int}
    (moved : t.Moves c now c' t') : Flow c t c' t' := by
  cases moved with
  | loop at_ =>
    refine .still rfl (by rw [at_]; rintro ⟨⟩) ?_ rfl
    simp only [CaptureThread.goto, CaptureThread.top]
    split
    · rintro ⟨⟩
    · split <;> rintro ⟨⟩
  | openStream target mic at_ source =>
    refine .still rfl (by rw [at_]; rintro ⟨⟩) ?_ rfl
    dsimp only
    split <;> rintro ⟨⟩
  | raise next at_ =>
    obtain ⟨at_ | at_, rfl⟩ | ⟨at_, rfl⟩ := at_
    · exact .still rfl (by rw [at_]; rintro ⟨⟩) (by rintro ⟨⟩) rfl
    · exact .still rfl (by rw [at_]; rintro ⟨⟩) (by rintro ⟨⟩) rfl
    · exact .still rfl (by rw [at_]; rintro ⟨⟩) (by rintro ⟨⟩) rfl
  | read bytes at_ live whole => exact .read rfl at_ rfl whole
  | lose bytes message at_ live whole =>
    exact .still rfl (by rw [at_]; rintro ⟨⟩) (by rintro ⟨⟩) whole
  | push c' at_ pushed =>
    simp only [Capture.pushFrame, Option.map_eq_some_iff, Prod.exists] at pushed
    obtain ⟨queue, discarded, took, rfl⟩ := pushed
    exact .push queue discarded at_ took rfl rfl
  | check at_ =>
    refine .still rfl (by rw [at_]; rintro ⟨⟩) ?_ rfl
    simp only [CaptureThread.goto]
    split <;> rintro ⟨⟩
  | retried until_ next at_ leads =>
    obtain ⟨_, rfl⟩ | ⟨_, _, rfl⟩ := leads
    · exact .still rfl (by rw [at_]; rintro ⟨⟩) (by rintro ⟨⟩) rfl
    · exact .still rfl (by rw [at_]; rintro ⟨⟩) (by rintro ⟨⟩) rfl
  | unresolved _ _ _ at_ | resolve _ _ _ _ at_ | publish _ at_ | refuse _ _ at_ | schedule at_
  | checked _ _ _ _ at_ | leave at_ | notify at_ =>
    exact .still rfl (by rw [at_]; rintro ⟨⟩) (by rintro ⟨⟩) rfl

section
variable [Zero β] {s s' : Session β} {g g' : Ledger β}

/-- What others do to the record leaves a call as it is, as long as frames are
only added. -/
theorem Carried.keep {pc : ReadPc} (h : Carried s g pc) (reader : s'.reader = s.reader)
    (held : s'.held = s.held) (config : s'.capture.config = s.capture.config)
    (captured : s.captured <+: s'.captured) (given : g'.given = g.given)
    (waiting : g'.waiting = g.waiting) : Carried s' g' pc := by
  have starved : Starved s g → Starved s' g' := by
    rintro ⟨none, empty, total, fixed⟩
    exact ⟨held.trans none, waiting.trans empty, reader ▸ total, config ▸ fixed⟩
  have loaded : Loaded s g → Loaded s' g' := by
    rintro ⟨n, f, real, at_, size, dst⟩
    obtain ⟨more, grown⟩ := captured
    refine ⟨n, f, held.trans real, ?_, config ▸ size, by rw [reader, config, given]; exact dst⟩
    rw [← grown, List.getElem?_append_left (List.getElem?_eq_some_iff.mp at_).1]
    exact at_
  cases pc with
  | idle | returned _ => trivial
  | due =>
    unfold Carried
    rw [reader, config, given]
    exact h
  | draining result =>
    obtain ⟨nothing, dst, rest⟩ | ⟨one, rest⟩ := h
    · exact .inl ⟨nothing, by rw [reader, given]; exact dst, starved rest⟩
    · exact .inr ⟨one, loaded rest⟩
  | closing flags =>
    obtain ⟨silence, underrun, dst, rest⟩ | ⟨silence, underrun, rest⟩ := h
    · exact .inl ⟨silence, underrun, by rw [reader, config, given]; exact dst, starved rest⟩
    · exact .inr ⟨silence, underrun, loaded rest⟩
  | stamping | reporting _ => exact loaded h
  | entered | admitted | looping | popping _ | emptyHanded | sleeping _ =>
    unfold Carried
    rw [reader, given]
    exact h

theorem Honest.keep {config : Config} {captured captured' : List (Recording β)} {o : Output β}
    (h : Honest config captured o) (grown : captured <+: captured') :
    Honest config captured' o := by
  obtain ⟨⟨payload, size, out, is⟩, marked, silent⟩ := h
  refine ⟨⟨payload, size, out, ?_⟩, marked, silent⟩
  cases real : o.frame with
  | none =>
    rw [real] at is
    exact is
  | some n =>
    rw [real] at is
    obtain ⟨f, at_, bytes⟩ := is
    obtain ⟨more, rfl⟩ := grown
    refine ⟨f, ?_, bytes⟩
    rw [List.getElem?_append_left (List.getElem?_eq_some_iff.mp at_).1]
    exact at_

/-- A step of the capture thread that leaves the queue alone. -/
theorem still_conserved {c : Capture β} {t : CaptureThread β} (h : Conserved s g)
    (queue : c.queue = s.capture.queue) (config : c.config = s.capture.config)
    (size : t.buffer.length = s.thread.buffer.length) (from_ : s.thread.pc ≠ .pushing)
    (reads : g'.reads = g.reads ++ if t.pc = .pushing then [t.buffer] else [])
    (same : g'.outputs = g.outputs ∧ g'.discarded = g.discarded ∧ g'.given = g.given ∧
      g'.waiting = g.waiting) : Conserved (s.noteCapture c t) g' := by
  obtain ⟨outputs, discarded, given, waiting⟩ := same
  have captured : (s.noteCapture c t).captured = s.captured := by
    unfold noteCapture
    split
    · rfl
    · exact absurd ‹_› from_
    · rfl
    · rfl
  have head : (s.noteCapture c t).headNumber = s.headNumber := by
    rw [headNumber, captured, noteCapture_capture, queue, headNumber]
  have inHand : (s.noteCapture c t).inHand = s.inHand := by
    rw [Session.inHand, noteCapture_reader, noteCapture_held, Session.inHand]
  constructor
  · rw [noteCapture_capture, queue]
    exact h.queue
  · rw [noteCapture_capture, queue, config]
    exact h.slot
  · rw [noteCapture_thread, noteCapture_capture, config, size]
    exact h.buffer
  · rw [noteCapture_capture, queue, captured, head]
    exact h.contents
  · rw [captured, reads]
    exact h.recorded.trans (List.prefix_append _ _)
  · rw [noteCapture_capture, queue, captured, noteCapture_thread, reads]
    intro open_
    have before := h.reading open_
    rw [if_neg from_, List.append_nil] at before
    rw [before]
  · rw [Ledger.delivered, outputs, discarded, inHand, head]
    exact h.placed
  · rw [Ledger.delivered, outputs, inHand]
    exact h.ordered
  · rw [noteCapture_reader]
    apply h.carried.keep
    · exact noteCapture_reader s c t
    · exact noteCapture_held s c t
    · rw [noteCapture_capture, config]
    · rw [captured]
    · exact given
    · exact waiting
  · rw [outputs, captured, noteCapture_capture, config]
    exact h.honest

/-- A push to an open queue: the new frame is queued, and the oldest one is
discarded if there is no room for both. -/
theorem push_conserved {queue : FrameQueue β} (h : Conserved s g) (sound : Sound s)
    (open_ : s.capture.queue.closed = false) (at_ : s.thread.pc = .pushing)
    (pushed : FrameQueue.Pushed s.capture.queue queue s.thread.buffer) :
    Conserved
      { s with
        capture := { s.capture with queue }
        thread := s.thread.goto .rechecking
        captured := s.captured ++ [⟨s.opens, s.thread.buffer⟩] }
      (if s.capture.queue.count = s.capture.queue.capacity then
        { g with discarded := g.discarded ++ [s.headNumber] } else g) := by
  have enough := sound.enough
  have positive := h.queue.capacity_pos
  have size : s.thread.buffer.take s.capture.queue.slotBytes = s.thread.buffer := by
    rw [h.slot, ← h.buffer, List.take_length]
  have frames := pushed.frames
  rw [size, h.contents] at frames
  have count : queue.count = if s.capture.queue.count = s.capture.queue.capacity then
      s.capture.queue.count else s.capture.queue.count + 1 := by
    rw [← queue.frames_length, pushed.frames]
    split
    · rw [List.length_append, List.length_tail, FrameQueue.frames_length, List.length_singleton]
      omega
    · rw [List.length_append, FrameQueue.frames_length, List.length_singleton]
  have reading := h.reading open_
  rw [if_pos at_] at reading
  have grown : s.captured <+: s.captured ++ [⟨s.opens, s.thread.buffer⟩] := List.prefix_append _ _
  have recorded : (s.captured ++ [(⟨s.opens, s.thread.buffer⟩ : Recording β)]).map Recording.bytes =
      g.reads := by
    rw [List.map_append, reading]
    rfl
  have size : (s.captured ++ [(⟨s.opens, s.thread.buffer⟩ : Recording β)]).length =
      s.captured.length + 1 := by
    rw [List.length_append, List.length_singleton]
  by_cases full : s.capture.queue.count = s.capture.queue.capacity
  · rw [if_pos full] at frames count ⊢
    have head : (s.captured ++ [(⟨s.opens, s.thread.buffer⟩ : Recording β)]).length - queue.count =
        s.headNumber + 1 := by
      rw [size, count, headNumber]
      omega
    refine ⟨pushed.wellFormed, pushed.slotBytes.trans h.slot, h.buffer, ?_, ?_, fun _ => ?_, ?_,
      h.ordered, h.carried.keep rfl rfl rfl grown rfl rfl, fun o old => (h.honest o old).keep grown⟩
    · rw [headNumber, head, frames, List.drop_append_of_le_length (by unfold headNumber; omega),
        List.map_append, ← List.map_tail, List.tail_drop]
      rfl
    · rw [recorded]
    · rw [recorded]
      exact (List.append_nil _).symm
    · have placed := h.placed.append_right [s.headNumber]
      rw [List.append_assoc, ← List.range_succ, Nat.succ_eq_add_one, ← head] at placed
      exact placed
  · rw [if_neg full] at frames count ⊢
    have head : (s.captured ++ [(⟨s.opens, s.thread.buffer⟩ : Recording β)]).length - queue.count =
        s.headNumber := by
      rw [size, count, headNumber]
      omega
    refine ⟨pushed.wellFormed, pushed.slotBytes.trans h.slot, h.buffer, ?_, ?_, fun _ => ?_, ?_,
      h.ordered, h.carried.keep rfl rfl rfl grown rfl rfl, fun o old => (h.honest o old).keep grown⟩
    · rw [headNumber, head, frames, List.drop_append_of_le_length (by unfold headNumber; omega),
        List.map_append]
      rfl
    · rw [recorded]
    · rw [recorded]
      exact (List.append_nil _).symm
    · have placed := h.placed
      rw [← head] at placed
      exact placed

theorem capture_conserved {c : Capture β} {t : CaptureThread β} (h : Conserved s g) (sound : Sound s)
    (moved : s.thread.Moves s.capture s.clock c t) :
    Conserved (s.noteCapture c t) (g.noteCapture s (s.noteCapture c t)) := by
  have config := CaptureThread.moves_config moved
  cases moves_flow moved with
  | still queue from_ to_ size =>
    have same : g.noteCapture s (s.noteCapture c t) = g := by
      unfold Ledger.noteCapture
      rw [noteCapture_thread, if_neg to_]
      split
      · rfl
      · exact absurd ‹_› from_
      · rfl
    rw [same]
    exact still_conserved h queue config size from_ (by rw [if_neg to_, List.append_nil])
      ⟨rfl, rfl, rfl, rfl⟩
  | read queue at_ to_ size =>
    have noted : g.noteCapture s (s.noteCapture c t) = { g with reads := g.reads ++ [t.buffer] } := by
      simp only [Ledger.noteCapture, at_, noteCapture_thread, to_, if_true]
    rw [noted]
    exact still_conserved h queue config size (by rw [at_]; rintro ⟨⟩) (by rw [if_pos to_])
      ⟨rfl, rfl, rfl, rfl⟩
  | push queue discarded at_ pushed shape to_ =>
    rw [shape, to_]
    have enough : s.capture.queue.slotBytes ≤ s.thread.buffer.length :=
      Nat.le_of_eq (h.slot.trans h.buffer.symm)
    obtain ⟨closed, same⟩ | ⟨open_, pushed⟩ := h.queue.pushes enough pushed
    · have refused : s.capture.queue.accepts = false := by
        rw [FrameQueue.accepts, closed]
        rfl
      have kept : s.capture.queue.overflows = false := by
        rw [FrameQueue.overflows, refused]
        rfl
      simp only [noteCapture, Ledger.noteCapture, at_, refused, kept, same, Bool.false_eq_true,
        if_false]
      exact ⟨h.queue, h.slot, h.buffer, h.contents, h.recorded,
        fun open_ => absurd open_ (by simp [closed]), h.placed, h.ordered,
        h.carried.keep rfl rfl rfl (List.prefix_refl _) rfl rfl, h.honest⟩
    · have slot := h.queue.slot_pos
      have accepted : s.capture.queue.accepts = true := by
        simp only [FrameQueue.accepts, open_, Bool.not_false, Bool.true_and, bne_iff_ne]
        omega
      have spills : s.capture.queue.overflows =
          decide (s.capture.queue.count = s.capture.queue.capacity) := by
        rw [FrameQueue.overflows, accepted, FrameQueue.isFull, Bool.true_and]
        exact Bool.beq_eq_decide_eq _ _
      simp only [noteCapture, Ledger.noteCapture, at_, accepted, if_true, spills, decide_eq_true_eq]
      exact push_conserved h sound open_ at_ pushed

theorem step_conserved {l : SessionLabel β} (h : Conserved s g) (sound : Sound s)
    (moved : Moves s l s') : Conserved s' (g.note s l s') := by
  cases moved with
  | tick elapsed =>
    exact ⟨h.queue, h.slot, h.buffer, h.contents, h.recorded, h.reading, h.placed, h.ordered,
      h.carried.keep rfl rfl rfl (List.prefix_refl _) rfl rfl, h.honest⟩
  | call args idle =>
    have before : s.inHand = [] := by
      rw [inHand, idle_away idle]
    have placed := h.placed
    have ordered := h.ordered
    rw [before] at placed ordered
    exact ⟨h.queue, h.slot, h.buffer, h.contents, h.recorded, h.reading, placed, ordered,
      ⟨rfl, rfl⟩, h.honest⟩
  | read c r busy moved => exact read_conserved h sound busy moved
  | capture input c t moved => exact capture_conserved h sound moved
  | requestStop =>
    exact ⟨h.queue, h.slot, h.buffer, h.contents, h.recorded, h.reading, h.placed, h.ordered,
      h.carried.keep rfl rfl rfl (List.prefix_refl _) rfl rfl, h.honest⟩
  | closeQueue asked =>
    exact ⟨FrameQueue.close_wellFormed h.queue, h.slot, h.buffer, h.contents, h.recorded,
      (by rintro ⟨⟩), h.placed, h.ordered,
      h.carried.keep rfl rfl rfl (List.prefix_refl _) rfl rfl, h.honest⟩
  | callback delivery =>
    exact ⟨h.queue, h.slot, h.buffer, h.contents, h.recorded, h.reading, h.placed, h.ordered,
      h.carried.keep rfl rfl rfl (List.prefix_refl _) rfl rfl, h.honest⟩

theorem roomy_fresh (h : Roomy s) : Fresh s := by
  obtain ⟨c, control, target, clock, created, _, rfl⟩ := h
  exact ⟨c, control, target, clock, created, rfl⟩

theorem roomy_conserved (h : Roomy s) : Conserved s {} := by
  obtain ⟨c, control, target, clock, created, room, rfl⟩ := h
  have small := created.storage_lt
  obtain ⟨storage, shape, positive, _⟩ := created.shape
  have queue : (start c control target clock).capture.queue =
      { storage, slotBytes := c.config.frameBytes, capacity := max c.config.queueFrames.toNat 1 } :=
    congrArg Capture.queue shape
  have storage_eq : c.queue.storage = storage := congrArg (FrameQueue.storage ∘ Capture.queue) shape
  rw [storage_eq] at room small
  have wf : (start c control target clock).capture.queue.WellFormed := by
    rw [queue]
    exact ⟨positive, by dsimp only; omega, room, small, Nat.zero_le _, by dsimp only; omega,
      by rintro ⟨⟩⟩
  have count : (start c control target clock).capture.queue.count = 0 := by rw [queue]
  have head : (start c control target clock).headNumber = 0 := Nat.zero_sub _
  refine ⟨wf, by rw [queue]; rfl, List.length_replicate, ?_, List.prefix_refl _, fun _ => rfl,
    by rw [head]; exact .refl [], List.Pairwise.nil, trivial, by rintro _ ⟨⟩⟩
  rw [head]
  exact List.eq_nil_of_length_eq_zero (by rw [FrameQueue.frames_length, count])

/-- Each call that returns 1 writes one whole frame, a captured one or silence
marked as such, and nothing else; captured frames are the ones read from the
streams, in order; and each of them is delivered, in hand, discarded or queued,
and only one of these. -/
theorem frames_conserved (p : Session β × Ledger β)
    (run : Steps.Watched step Ledger.note Steps.Any Roomy {} p) :
    (p.1.capture.config.frameBytes = p.1.capture.config.frameSamples.toNat *
      p.1.capture.config.channels.toNat * Config.bytesPerSample p.1.capture.config.format) ∧
    (∀ o ∈ p.2.outputs, Honest p.1.capture.config p.1.captured o) ∧
    p.2.delivered.Pairwise (· < ·) ∧
    p.1.captured.map Recording.bytes <+: p.2.reads ∧
    (p.2.delivered ++ p.1.inHand ++ p.2.discarded ++
      List.range' p.1.headNumber p.1.capture.queue.count).Perm (List.range p.1.captured.length) ∧
    p.1.capture.queue.frames = (p.1.captured.drop p.1.headNumber).map Recording.bytes := by
  have conserved : Sound p.1 ∧ Conserved p.1 p.2 := by
    apply Steps.Watched.invariant (fun s g => Sound s ∧ Conserved s g) ?_ ?_ run
    · intro s roomy
      exact ⟨fresh_sound (roomy_fresh roomy), roomy_conserved roomy⟩
    · rintro s l t g _ ⟨sound, conserved⟩ _ taken
      exact ⟨step_sound sound (step_effect sound.queue sound.thread taken),
        step_conserved conserved sound (step_moves taken)⟩
  have size : p.1.capture.config.frameBytes = p.1.capture.config.frameSamples.toNat *
      p.1.capture.config.channels.toNat * Config.bytesPerSample p.1.capture.config.format := by
    apply Steps.Reach.invariant (fun s : Session β => s.capture.config.frameBytes =
      s.capture.config.frameSamples.toNat * s.capture.config.channels.toNat *
        Config.bytesPerSample s.capture.config.format) ?_ ?_ (Steps.Watched.reach run)
    · rintro s ⟨c, control, target, clock, created, _, rfl⟩
      exact created.frameBytes_eq
    · intro s l t _ size _ taken
      rw [moves_config (step_moves taken)]
      exact size
  obtain ⟨sound, h⟩ := conserved
  have enough := sound.enough
  refine ⟨size, h.honest, (List.pairwise_append.mp h.ordered).1, h.recorded, ?_, h.contents⟩
  have all : List.range p.1.headNumber ++ List.range' p.1.headNumber p.1.capture.queue.count =
      List.range p.1.captured.length := by
    have joined := @List.range'_append_1 0 p.1.headNumber p.1.capture.queue.count
    have total : p.1.headNumber + p.1.capture.queue.count = p.1.captured.length := by
      unfold headNumber
      omega
    rwa [Nat.zero_add, total, ← List.range_eq_range', ← List.range_eq_range'] at joined
  rw [← all]
  exact h.placed.append_right _

end

theorem small_roomy : Roomy small := ⟨_, _, _, _, smallHandle_created, by decide, rfl⟩

/-- A captured frame, then silence a period later. -/
theorem frames_conserved_once : ∃ p : Session UInt8 × Ledger UInt8,
    Steps.Watched step Ledger.note Steps.Any Roomy {} p ∧
    p.2.outputs = [⟨some 0, [7, 7], [5, 5], some ⟨20000, 0, 0⟩, 1⟩,
      ⟨none, [7, 7], [0, 0], some ⟨40000, frameSilence ||| frameUnderrun, 0⟩, 0⟩] ∧
    (∀ o ∈ p.2.outputs, Honest p.1.capture.config p.1.captured o) ∧
    p.1.captured.map Recording.bytes <+: p.2.reads := by
  have ran : (Steps.exec (Steps.watch step Ledger.note) (small, {})
      (openAttempt none ++ recordFrame 5 ++ readFirst ++ readFirst)).map (fun p => p.2.outputs) =
      some [⟨some 0, [7, 7], [5, 5], some ⟨20000, 0, 0⟩, 1⟩,
        ⟨none, [7, 7], [0, 0], some ⟨40000, frameSilence ||| frameUnderrun, 0⟩, 0⟩] := by rfl
  obtain ⟨p, ran, outputs⟩ := Option.map_eq_some_iff.mp ran
  have run : Steps.Watched step Ledger.note Steps.Any Roomy {} p :=
    Steps.Reach.exec (.start ⟨small_roomy, rfl⟩) (Steps.meets_any ..) ran
  obtain ⟨_, honest, _, recorded, _⟩ := frames_conserved p run
  exact ⟨p, run, outputs, honest, recorded⟩

end Session
end WebAudioCapture
