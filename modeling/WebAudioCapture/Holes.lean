import WebAudioCapture.WindDown

/-!
# Holes in what is delivered

Captured frames are numbered in order, and the caller is not handed all of
them. Each one it is handed carries on where the last one ended, but for the
frames its report says were dropped: a caller that adds up the reports knows the
number of every frame it has.
-/

namespace WebAudioCapture

variable {β : Type}

namespace Session

/-- The number after that of the last captured frame among `es`. -/
def nextNumber (es : List Handed) : Nat :=
  es.foldl (fun next e => match e.frame with
    | some n => n + 1
    | none => next) 0

/-- With `next` expected, the report of `e` says how many are missing. -/
def Tells (next : Nat) (e : Handed) : Prop :=
  ∃ i, e.info = some i ∧ match e.frame with
    | some n => n = next + i.droppedFrames.toNat
    | none => i.droppedFrames = 0

def Continuous (es : List Handed) : Prop :=
  ∀ before e after, es = before ++ e :: after → Tells (nextNumber before) e

/-- What the current call has in its hands, with `next` expected. -/
inductive Places (s : Session β) (next : Nat) : Prop
  | away (at_ : s.reader.pc.phase = .away)
      (total : s.reader.isIdle = false → s.reader.totalDiscarded = 0)
      (head : next + s.capture.queue.dropped = s.headNumber)
  | starved (at_ : s.reader.pc.phase ≠ .away) (held : s.held = none)
      (total : s.reader.totalDiscarded = 0) (head : next + s.capture.queue.dropped = s.headNumber)
  | loaded (n : Nat) (at_ : s.reader.pc.phase ≠ .away) (held : s.held = some n)
      (number : n = next + s.reader.totalDiscarded)
      (head : n + 1 + s.capture.queue.dropped = s.headNumber)

structure Numbered (s : Session β) : Prop where
  told : Continuous s.handed
  place : Places s (nextNumber s.handed)

theorem nextNumber_concat (es : List Handed) (e : Handed) :
    nextNumber (es ++ [e]) = match e.frame with
      | some n => n + 1
      | none => nextNumber es := by
  rw [nextNumber, List.foldl_concat]
  rfl

theorem Continuous.concat {es : List Handed} {e : Handed} (h : Continuous es)
    (tells : Tells (nextNumber es) e) : Continuous (es ++ [e]) := by
  intro before x after split_
  obtain rfl | ⟨rest, last, rfl⟩ := after.eq_nil_or_concat
  · obtain ⟨rfl, same⟩ := List.append_inj' split_ rfl
    cases same
    exact tells
  · rw [List.concat_eq_append, ← List.cons_append, ← List.append_assoc] at split_
    obtain ⟨rfl, _⟩ := List.append_inj' split_ rfl
    exact h before x rest rfl

theorem Continuous.split {es : List Handed} {e : Handed} (h : Continuous (es ++ [e])) :
    Continuous es ∧ Tells (nextNumber es) e := by
  constructor
  · intro before x after split_
    refine h before x (after ++ [e]) ?_
    rw [split_, List.append_assoc, List.cons_append]
  · exact h es e [] rfl

/-- The drops `e` reports. -/
def told (e : Handed) : Nat := e.info.elim 0 (·.droppedFrames.toNat)

/-- The frames handed over and the drops reported make up all numbers. -/
theorem Continuous.total {es : List Handed} (h : Continuous es) :
    nextNumber es = (es.filterMap Handed.frame).length + (es.map told).sum := by
  induction es using List.reverseRecOn with
  | nil => rfl
  | append_singleton es e ih =>
    obtain ⟨before, i, given, follows⟩ := h.split
    have drops : told e = i.droppedFrames.toNat := by rw [told, given]; rfl
    rw [nextNumber_concat, List.filterMap_append, List.length_append, List.map_append,
      List.sum_append, List.map_singleton, List.sum_singleton, drops]
    cases real : e.frame with
    | none =>
      rw [real] at follows
      have none : i.droppedFrames.toNat = 0 := congrArg UInt32.toNat follows
      simp only [List.filterMap_cons, real, List.filterMap_nil, List.length_nil, none]
      exact ih before
    | some n =>
      rw [real] at follows
      have next := ih before
      simp only [List.filterMap_cons, real, List.filterMap_nil, List.length_singleton]
      dsimp only at follows
      omega

/-- The caller's info has the number of drops the call has counted. -/
theorem moves_reports [Zero β] {c c' : Capture β} {r r' : Reader β} {now : Int}
    (moved : r.Moves c now c' r') (held : r.pc.phase ≠ .away) (returned : r'.pc = .returned 1)
    {i : FrameInfo} (given : r'.info = some i) :
    i.droppedFrames = UInt32.ofNat r.totalDiscarded := by
  have told : ∀ (ns : Int) (flags : FrameFlags), ((r.report ns flags).finish 1).info = some i →
      i.droppedFrames = UInt32.ofNat r.totalDiscarded := by
    intro ns flags given
    obtain ⟨_, _, rfl⟩ := Option.map_eq_some_iff.mp given
    rfl
  cases moved with
  | close flags at_ => exact told _ flags given
  | tell ns at_ => exact told ns _ given
  | drain | stamp => cases returned
  | refuse _ at_ | accept _ at_ | begin at_ | wait at_ | early _ at_ | reach at_ | expire at_
  | popWaiting _ _ _ at_ | popDue _ _ at_ => rw [at_] at held; exact absurd rfl held
  | again at_ =>
    obtain at_ | ⟨wait, at_⟩ := at_
    · rw [at_] at held; exact absurd rfl held
    · rw [at_] at held; exact absurd rfl held
  | shut _ _ at_ =>
    obtain at_ | ⟨wait, at_⟩ := at_
    · rw [at_] at held; exact absurd rfl held
    · rw [at_] at held; exact absurd rfl held

section
variable [Zero β] {s t : Session β} {c : Capture β} {r : Reader β} {l : SessionLabel β}

omit [Zero β] in
/-- A step of the reader that hands nothing over. -/
theorem Numbered.keep (h : Numbered s) (going : r.pc ≠ .returned 1)
    (place : Places (s.noteRead c r) (nextNumber s.handed)) : Numbered (s.noteRead c r) := by
  have same : (s.noteRead c r).handed = s.handed := if_neg going
  exact ⟨same ▸ h.told, same ▸ place⟩

omit [Zero β] in
/-- A step of the reader that hands over what it has. -/
theorem Numbered.hand (h : Numbered s) (queue : c.queue = s.capture.queue)
    (takes : s.reader.pc.takes = false) (held : s.reader.pc.phase ≠ .away)
    (few : s.captured.length < 2 ^ 32) (returned : r.pc = .returned 1)
    (asked : r.info.isSome = true)
    (count : ∀ i, r.info = some i → i.droppedFrames = UInt32.ofNat s.reader.totalDiscarded) :
    Numbered (s.noteRead c r) := by
  obtain ⟨i, given⟩ := Option.isSome_iff_exists.mp asked
  have drops := count i given
  have handed : (s.noteRead c r).handed = s.handed ++ [⟨s.held, some i, s.opens⟩] := by
    simp only [noteRead, returned, if_true, heldNext, takes, given, Bool.false_eq_true, if_false]
  have head : (s.noteRead c r).headNumber = s.headNumber := noteRead_head queue
  have dropped : (s.noteRead c r).capture.queue.dropped = s.capture.queue.dropped :=
    congrArg FrameQueue.dropped queue
  have most : s.headNumber ≤ s.captured.length := Nat.sub_le ..
  have away : (s.noteRead c r).reader.pc.phase = .away := by
    change r.pc.phase = .away
    rw [returned]
    rfl
  have idle : (s.noteRead c r).reader.isIdle = true := by
    change r.isIdle = true
    rw [Reader.isIdle, returned]
  have next := nextNumber_concat s.handed ⟨s.held, some i, s.opens⟩
  cases h.place with
  | away at_ => exact absurd at_ held
  | starved _ none total place =>
    rw [none] at handed next
    constructor
    · rw [handed]
      refine h.told.concat ⟨i, rfl, ?_⟩
      rw [drops, total]
      rfl
    · rw [handed, next]
      refine .away away (fun busy => ?_) (by rw [head, dropped]; exact place)
      rw [idle] at busy
      cases busy
  | loaded n _ real number place =>
    rw [real] at handed next
    constructor
    · rw [handed]
      refine h.told.concat ⟨i, rfl, ?_⟩
      have small : s.reader.totalDiscarded % 2 ^ 32 = s.reader.totalDiscarded :=
        Nat.mod_eq_of_lt (by omega)
      dsimp only
      rw [drops, UInt32.toNat_ofNat', small]
      exact number
    · rw [handed, next]
      refine .away away (fun busy => ?_) (by rw [head, dropped]; exact place)
      rw [idle] at busy
      cases busy

theorem read_numbered (h : Numbered s) (sound : Sound s) (few : s.captured.length < 2 ^ 32)
    (asked : Asked s) (busy : s.reader.isIdle = false)
    (moved : s.reader.Moves s.capture s.clock c r) : Numbered (s.noteRead c r) := by
  obtain ⟨_, _, informed, effect⟩ := read_effect sound.queue moved
  have given : r.info.isSome = true := informed.trans (asked busy)
  have enough := sound.enough
  cases effect with
  | quiet queue flags takes drains phase going total =>
    have held : (s.noteRead c r).held = s.held := noteRead_held takes
    have head : (s.noteRead c r).headNumber = s.headNumber := noteRead_head queue
    have dropped : (s.noteRead c r).capture.queue.dropped = s.capture.queue.dropped :=
      congrArg FrameQueue.dropped queue
    apply h.keep going
    cases h.place with
    | away at_ none place =>
      exact .away (phase.trans at_) (fun _ => total.trans (none busy))
        (by rw [head, dropped]; exact place)
    | starved at_ none zero place =>
      refine .starved ?_ (held.trans none) (total.trans zero) (by rw [head, dropped]; exact place)
      change r.pc.phase ≠ .away
      rwa [phase]
    | loaded n at_ real number place =>
      refine .loaded n ?_ (held.trans real) ?_ (by rw [head, dropped]; exact place)
      · change r.pc.phase ≠ .away
        rwa [phase]
      · change n = _ + r.totalDiscarded
        rwa [total]
  | nothing flags takes drains empty count dropped phase going total =>
    have drops := sound.queue.no_drops empty
    have head : (s.noteRead c r).headNumber = s.headNumber := by
      simp only [headNumber, noteRead, empty, count]
    apply h.keep going
    cases h.place with
    | away _ none place =>
      have zero := total (none busy)
      have same : nextNumber s.handed + (s.noteRead c r).capture.queue.dropped =
          (s.noteRead c r).headNumber := by
        change _ + c.queue.dropped = _
        rw [head, dropped, ← place, drops]
      obtain away | on := phase
      · exact .away away (fun _ => zero) same
      · refine .starved ?_ ?_ zero same
        · change r.pc.phase ≠ .away
          rw [on]
          rintro ⟨⟩
        · simp only [noteRead, heldNext, takes, if_true, nextFrame, empty]
    | starved at_ => exact absurd (ReadPc.takes_away takes) at_
    | loaded n at_ => exact absurd (ReadPc.takes_away takes) at_
  | frame flags takes drains some_ count dropped phase total =>
    have on : r.pc.phase = .undrained := by
      obtain on | ⟨_, none⟩ := phase
      · exact on
      · have asked := asked busy
        rw [none] at asked
        cases asked
    have going : r.pc ≠ .returned 1 := by
      intro returned
      rw [returned] at on
      cases on
    apply h.keep going
    cases h.place with
    | away _ none place =>
      have most : s.headNumber ≤ s.captured.length := Nat.sub_le ..
      have took : r.totalDiscarded = s.capture.queue.dropped :=
        (total (none busy)).trans (Nat.mod_eq_of_lt (by omega))
      refine .loaded s.headNumber ?_ ?_ ?_ ?_
      · change r.pc.phase ≠ .away
        rw [on]
        rintro ⟨⟩
      · simp only [noteRead, heldNext, takes, if_true, nextFrame, if_neg (Nat.ne_of_gt some_)]
      · change _ = _ + r.totalDiscarded
        rw [took]
        exact place.symm
      · change s.headNumber + 1 + c.queue.dropped = s.captured.length - c.queue.count
        rw [dropped, count, headNumber]
        omega
    | starved at_ => exact absurd (ReadPc.takes_away takes) at_
    | loaded n at_ => exact absurd (ReadPc.takes_away takes) at_
  | drain queue flags takes drains result phase going total =>
    have held : (s.noteRead c r).held = s.held := noteRead_held takes
    have head : (s.noteRead c r).headNumber = s.headNumber := noteRead_head queue
    have dropped : (s.noteRead c r).capture.queue.dropped = s.capture.queue.dropped :=
      congrArg FrameQueue.dropped queue
    have on : (s.noteRead c r).reader.pc.phase ≠ .away := by
      change r.pc.phase ≠ .away
      rw [phase]
      rintro ⟨⟩
    apply h.keep going
    cases h.place with
    | away at_ =>
      rw [ReadPc.drains_undrained drains] at at_
      cases at_
    | starved _ none zero place =>
      exact .starved on (held.trans none) (total.trans zero) (by rw [head, dropped]; exact place)
    | loaded n _ real number place =>
      refine .loaded n on (held.trans real) ?_ (by rw [head, dropped]; exact place)
      change n = _ + r.totalDiscarded
      rwa [total]
  | tell queue flags takes drains returned info =>
    have on : s.reader.pc.phase ≠ .away := by
      rw [ReadPc.drains_undrained drains]
      rintro ⟨⟩
    exact h.hand queue takes on few returned given fun _ => moves_reports moved on returned
  | close drained queue flags takes drains phase returned info =>
    have on : s.reader.pc.phase ≠ .away := by
      rw [phase]
      rintro ⟨⟩
    exact h.hand queue takes on few returned given fun _ => moves_reports moved on returned

omit [Zero β] in
/-- What others do leaves a call as it is. -/
theorem Places.keep {next : Nat} (h : Places s next) (reader : t.reader = s.reader)
    (held : t.held = s.held) (head : ∀ k, k + s.capture.queue.dropped = s.headNumber →
      k + t.capture.queue.dropped = t.headNumber) : Places t next := by
  cases h with
  | away at_ total place => exact .away (reader ▸ at_) (reader ▸ total) (head _ place)
  | starved at_ none total place =>
    exact .starved (reader ▸ at_) (held.trans none) (reader ▸ total) (head _ place)
  | loaded n at_ real number place =>
    exact .loaded n (reader ▸ at_) (held.trans real) (reader ▸ number) (head _ place)

omit [Zero β] in
/-- A push moves the head of the queue on by as many frames as it counts as
dropped. -/
theorem push_head {queue : FrameQueue β} {discarded : Nat} (sound : Sound s)
    (few : s.captured.length < 2 ^ 32) (at_ : s.thread.pc = .pushing)
    (pushed : s.capture.queue.push s.thread.buffer = some (queue, discarded)) {k : Nat}
    (place : k + s.capture.queue.dropped = s.headNumber) :
    let t := s.noteCapture { s.capture with queue } (s.thread.goto .rechecking)
    k + t.capture.queue.dropped = t.headNumber := by
  have enough := sound.enough
  have most : s.headNumber ≤ s.captured.length := Nat.sub_le ..
  have captured : (s.noteCapture { s.capture with queue } (s.thread.goto .rechecking)).captured =
      if s.capture.queue.accepts then s.captured ++ [⟨s.opens, s.thread.buffer⟩]
      else s.captured := by
    simp only [noteCapture, at_]
  dsimp only
  rw [headNumber, captured, noteCapture_capture]
  dsimp only
  unfold headNumber at place most
  cases (FrameQueue.push_counted sound.queue pushed).2 with
  | refused closed same =>
    rw [closed, same]
    exact place
  | added open_ room count dropped =>
    rw [open_, if_pos rfl, List.length_append, List.length_singleton, count, dropped]
    omega
  | replaced open_ full count =>
    have spills : s.capture.queue.overflows = true := by
      rw [FrameQueue.overflows, open_, FrameQueue.isFull, full, BEq.rfl]
      rfl
    have dropped : queue.dropped = s.capture.queue.dropped + 1 :=
      (FrameQueue.push_overflowing pushed spills).1.trans (Nat.mod_eq_of_lt (by omega))
    have positive := sound.queue.capacity_pos
    rw [open_, if_pos rfl, List.length_append, List.length_singleton, count, dropped]
    omega

omit [Zero β] in
theorem capture_numbered {th : CaptureThread β} (h : Numbered s) (sound : Sound s)
    (few : s.captured.length < 2 ^ 32) (moved : s.thread.Moves s.capture s.clock c th) :
    Numbered (s.noteCapture c th) := by
  have still : c.queue = s.capture.queue → s.thread.pc ≠ .pushing →
      Numbered (s.noteCapture c th) := by
    intro queue from_
    have captured : (s.noteCapture c th).captured = s.captured := by
      unfold noteCapture
      split
      · rfl
      · exact absurd ‹_› from_
      · rfl
      · rfl
    constructor
    · rw [noteCapture_handed]
      exact h.told
    · rw [noteCapture_handed]
      refine h.place.keep (noteCapture_reader s c th) (noteCapture_held s c th) fun k place => ?_
      rw [headNumber, captured, noteCapture_capture, queue]
      exact place
  cases moves_flow moved with
  | still queue from_ => exact still queue from_
  | read queue at_ => exact still queue (by rw [at_]; rintro ⟨⟩)
  | push queue discarded at_ pushed shape to_ =>
    rw [shape, to_]
    constructor
    · rw [noteCapture_handed]
      exact h.told
    · rw [noteCapture_handed]
      exact h.place.keep (noteCapture_reader ..) (noteCapture_held ..)
        fun k place => push_head sound few at_ pushed place

theorem step_numbered (h : Numbered s) (sound : Sound s) (few : s.captured.length < 2 ^ 32)
    (asked : Asked s) (moved : Moves s l t) : Numbered t := by
  cases moved with
  | read c r busy moved => exact read_numbered h sound few asked busy moved
  | capture input c th moved => exact capture_numbered h sound few moved
  | call args idle =>
    refine ⟨h.told, ?_⟩
    cases h.place with
    | away at_ total head => exact .away rfl (fun _ => rfl) head
    | starved at_ => exact absurd (idle_away idle) at_
    | loaded n at_ => exact absurd (idle_away idle) at_
  | tick elapsed | requestStop | closeQueue asked | callback delivery =>
    exact ⟨h.told, h.place.keep rfl rfl fun _ => id⟩

/-- Captured frames stay captured. -/
theorem moves_captured (moved : Moves s l t) : s.captured <+: t.captured := by
  cases moved with
  | capture input c th moved =>
    obtain ⟨_, more, grown, _⟩ := noteCapture_record s c th
    rw [grown]
    exact List.prefix_append _ _
  | _ => exact List.prefix_refl _

theorem fresh_numbered (h : Fresh s) : Numbered s := by
  obtain ⟨c, control, target, clock, created, rfl⟩ := h
  obtain ⟨storage, shape, _⟩ := created.shape
  have queue : (start c control target clock).capture.queue = c.queue := rfl
  have dropped : c.queue.dropped = 0 := by rw [shape]
  refine ⟨?_, .away rfl (by rintro ⟨⟩) ?_⟩
  · intro before e after split_
    cases before <;> cases split_
  · rw [queue, dropped]
    exact (Nat.zero_sub _).symm

/-- Every report tells exactly the frames that are missing before its own, and
between the last one and the head of the queue are those still to be reported. -/
theorem holes_told (run : Steps.Reach step Informed Fresh s) (few : s.captured.length < 2 ^ 32) :
    (∀ before e after, s.handed = before ++ e :: after → ∃ i, e.info = some i ∧
      (∀ n, e.frame = some n → n = nextNumber before + i.droppedFrames.toNat) ∧
      (e.frame = none → i.droppedFrames = 0)) ∧
    (s.reader.isIdle = true → nextNumber s.handed + s.capture.queue.dropped +
      s.capture.queue.count = s.captured.length) := by
  have numbered : Asked s ∧ (s.captured.length < 2 ^ 32 → Numbered s) := by
    apply Steps.Reach.invariant (fun s => Asked s ∧ (s.captured.length < 2 ^ 32 → Numbered s)) ?_ ?_
      run
    · intro s fresh
      obtain ⟨c, control, target, clock, _, rfl⟩ := id fresh
      exact ⟨by rintro ⟨⟩, fun _ => fresh_numbered fresh⟩
    · rintro s l t reached ⟨asked, numbered⟩ informed taken
      have sound := reach_sound reached
      have moved := step_moves taken
      refine ⟨step_asked informed asked (step_effect sound.queue sound.thread taken), fun few => ?_⟩
      have before := Nat.lt_of_le_of_lt (moves_captured moved).length_le few
      exact step_numbered (numbered before) sound before asked moved
  obtain ⟨told, place⟩ := numbered.2 few
  constructor
  · intro before e after split_
    obtain ⟨i, given, follows⟩ := told before e after split_
    refine ⟨i, given, fun n real => ?_, fun silent => ?_⟩
    · rw [real] at follows
      exact follows
    · rw [silent] at follows
      exact follows
  · intro idle
    have enough := (reach_sound run).enough
    cases place with
    | away at_ total head =>
      unfold headNumber at head
      omega
    | starved at_ => exact absurd (idle_away idle) at_
    | loaded n at_ => exact absurd (idle_away idle) at_

end

/-- Three frames through a queue of two: the first one handed over is the second. -/
theorem holes_told_once : ∃ (s : Session UInt8) (i : FrameInfo),
    Steps.Reach step Informed Fresh s ∧ s.handed = [⟨some 1, some i, 1⟩] ∧ 1 = nextNumber [] + i.droppedFrames.toNat ∧
      nextNumber s.handed + s.capture.queue.dropped + s.capture.queue.count = 3 := by
  have ran : (Steps.exec step small (openAttempt none ++ recordFrame 1 ++ .capture .run ::
      recordFrame 2 ++ .capture .run :: recordFrame 3 ++ readFirst)).map
        (fun s => (s.handed, s.captured.length, s.reader.pc)) =
        some ([⟨some 1, some ⟨20000, frameDiscontinuity, 1⟩, 1⟩], 3, .returned 1) := by
    decide +kernel
  obtain ⟨s, ran, seen⟩ := Option.map_eq_some_iff.mp ran
  simp only [Prod.mk.injEq] at seen
  obtain ⟨handed, captured, returned⟩ := seen
  have run : Steps.Reach step Informed Fresh s :=
    .exec (.start small_fresh) (by decide +kernel) ran
  have idle : s.reader.isIdle = true := by rw [Reader.isIdle, returned]
  obtain ⟨told, whole⟩ := holes_told run (by rw [captured]; decide)
  obtain ⟨i, given, number, _⟩ := told [] _ [] handed
  cases given
  exact ⟨_, _, run, handed, number 1 rfl, (whole idle).trans captured⟩

end Session
end WebAudioCapture
