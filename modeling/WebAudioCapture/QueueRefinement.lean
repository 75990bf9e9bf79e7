import WebAudioCapture.FrameQueue
import WebAudioCapture.Lib.DropOldest

/-!
# The ring buffer is a drop-oldest queue

`Represents q s` relates the ring to a list of whole frames, a drop counter
and a closed bit. Each operation of a well-formed queue stays inside the
storage, keeps the queue well formed, and answers as the list does.
-/

namespace WebAudioCapture
namespace FrameQueue

variable {β : Type} {n : Nat}

/-- What a push leaves in the queue. -/
structure Pushed (q q' : FrameQueue β) (frame : List β) : Prop where
  wellFormed : q'.WellFormed
  slotBytes : q'.slotBytes = q.slotBytes
  capacity : q'.capacity = q.capacity
  closed : q'.closed = q.closed
  frames : q'.frames =
    (if q.count = q.capacity then q.frames.tail else q.frames) ++ [frame.take q.slotBytes]
  dropped : q'.dropped = if q.count = q.capacity then sizeT (q.dropped + 1) else q.dropped

theorem push_closed {q : FrameQueue β} (shut : q.closed = true) (frame : List β) :
    q.push frame = some (q, 0) := by
  simp [push, shut]

theorem push_open {q : FrameQueue β} (h : q.WellFormed) (unlocked : q.closed = false)
    {frame : List β} (enough : q.slotBytes ≤ frame.length) :
    ∃ q', q.push frame = some (q', if q.count = q.capacity then 1 else 0) ∧
      Pushed q q' frame := by
  obtain ⟨room, first, kept⟩ := h.makeRoom
  have positive := h.capacity_pos
  have small := h.capacity_lt
  have slot := h.slot_pos
  have target : q.makeRoom.writeIndex =
      Blocks.slot q.capacity q.makeRoom.readIndex q.makeRoom.count := by
    rw [writeIndex, sizeT_of_lt (by omega), makeRoom_capacity]
    rfl
  have inRange : q.makeRoom.writeIndex < q.capacity := by
    rw [target]; exact Blocks.slot_lt positive
  have bound := h.slot_bound inRange
  have cells : (frame.take q.slotBytes).length = q.slotBytes := by
    rw [List.length_take]; omega
  obtain ⟨storage, stored⟩ : ∃ storage,
      Blocks.store q.storage (q.makeRoom.writeIndex * q.slotBytes) (frame.take q.slotBytes) =
        some storage := by
    rw [Blocks.store, if_pos (by omega)]
    exact ⟨_, rfl⟩
  have copied : Blocks.copy q.makeRoom.storage (sizeT (q.makeRoom.writeIndex * q.slotBytes))
      frame 0 q.slotBytes = some storage := by
    rw [makeRoom_storage, h.offset_eq inRange, Blocks.copy, Blocks.load, if_pos (by omega),
      List.drop_zero, Option.bind_some, stored]
  have answer : q.push frame =
      some ({ q.makeRoom with storage, count := q.makeRoom.count + 1 },
        if q.count = q.capacity then 1 else 0) := by
    rw [push, if_neg (by simp [unlocked]; omega)]
    simp only [copied, Option.map_some, sizeT_of_lt (show q.makeRoom.count + 1 < 2 ^ 64 by omega),
      isFull, beq_iff_eq]
  have length := (Blocks.store_length stored).1
  have pending : 0 < q.makeRoom.dropped → q.makeRoom.count + 1 = q.capacity := by
    intro some
    have full := h.pending
    unfold FrameQueue.makeRoom isFull at some ⊢
    split at some
    · rename_i isFull
      rw [if_pos isFull]
      have eq := beq_iff_eq.mp isFull
      simp only [dropOldest]
      omega
    · rename_i notFull
      rw [if_neg notFull]
      exact absurd (beq_iff_eq.mpr (full some)) notFull
  refine ⟨_, answer, ?_, by simp, by simp, by simp, ?_, ?_⟩
  · constructor
    · simpa using slot
    · simpa using positive
    · simpa [length] using h.fits
    · simpa [length] using h.storage_lt
    · rw [makeRoom_capacity]; exact room
    · simpa using first
    · simpa using pending
  · rw [target] at stored
    have appended := Blocks.ring_store room cells stored
    simp only [FrameQueue.frames, makeRoom_slotBytes, makeRoom_capacity, makeRoom_storage] at kept ⊢
    rw [appended, kept]
  · unfold FrameQueue.makeRoom isFull
    by_cases full : q.count = q.capacity
    · rw [if_pos full, if_pos (beq_iff_eq.mpr full)]
      rfl
    · rw [if_neg full, if_neg (by simpa using full)]

/-- What a pop leaves in the queue. -/
structure Taken (q q' : FrameQueue β) : Prop where
  wellFormed : q'.WellFormed
  slotBytes : q'.slotBytes = q.slotBytes
  capacity : q'.capacity = q.capacity
  closed : q'.closed = q.closed
  frames : q'.frames = q.frames.tail
  dropped : q'.dropped = 0

theorem WellFormed.clear_dropped {q : FrameQueue β} (h : q.WellFormed) :
    ({ q with dropped := 0 } : FrameQueue β).WellFormed :=
  { h with pending := fun some => absurd some (Nat.lt_irrefl 0) }

theorem pop_empty {q : FrameQueue β} (h : q.WellFormed) (none : q.frames = []) (out : List β) :
    ∃ q', q.pop out = some (q', ⟨if q.closed then -1 else 0, q.dropped, out⟩) ∧ Taken q q' := by
  have zero : q.count = 0 := by rw [← frames_length, none, List.length_nil]
  refine ⟨{ q with dropped := 0 }, by simp only [pop, zero, if_true], ?_⟩
  refine ⟨h.clear_dropped, rfl, rfl, rfl, ?_, rfl⟩
  rw [none]
  exact none

theorem pop_frame {q : FrameQueue β} (h : q.WellFormed) {frame : List β} {rest : List (List β)}
    (queued : q.frames = frame :: rest) (out : List β) (enough : q.slotBytes ≤ out.length) :
    ∃ q', q.pop out = some (q', ⟨1, q.dropped, frame ++ out.drop q.slotBytes⟩) ∧ Taken q q' := by
  have some : q.count = rest.length + 1 := by
    rw [← frames_length, queued, List.length_cons]
  have first := h.readIndex_lt
  have bound := h.slot_bound first
  have ring := Blocks.ring_cons q.storage q.slotBytes q.capacity q.readIndex rest.length first
  rw [← some] at ring
  have split : frame = Blocks.block q.storage q.slotBytes q.readIndex ∧
      rest = Blocks.ring q.storage q.slotBytes q.capacity
        (Blocks.slot q.capacity q.readIndex 1) rest.length := by
    have eq := queued.symm.trans ring
    exact ⟨(List.cons.inj eq).1, (List.cons.inj eq).2⟩
  have copied : Blocks.copy out 0 q.storage (sizeT (q.readIndex * q.slotBytes)) q.slotBytes =
      Option.some (frame ++ out.drop q.slotBytes) := by
    rw [h.offset_eq first, Blocks.copy_eq bound (by omega), split.1, Blocks.block]
    simp only [List.take_zero, List.nil_append, Nat.zero_add]
  have le := h.count_le
  have positive := h.capacity_pos
  refine ⟨{ q with
      dropped := 0
      readIndex := Blocks.slot q.capacity q.readIndex 1
      count := rest.length }, ?_, ?_, rfl, rfl, rfl, ?_, rfl⟩
  · rw [pop, if_neg (by omega)]
    simp only [copied, Option.map_some, h.readIndex_succ, some, Nat.add_sub_cancel]
  · exact ⟨h.slot_pos, positive, h.fits, h.storage_lt, by dsimp only; omega,
      Blocks.slot_lt positive, fun some => absurd some (Nat.lt_irrefl 0)⟩
  · rw [queued, List.tail_cons]
    exact split.2.symm

/-- A pop that finds a frame returns the oldest. -/
theorem WellFormed.pop_takes {q q' : FrameQueue β} {out : List β} {p : Popped β}
    (h : q.WellFormed) (popped : q.pop out = some (q', p)) (some_ : 0 < q.count) :
    ∃ frame rest, q.frames = frame :: rest ∧ p.result = 1 ∧
      p.out = frame ++ out.drop q.slotBytes ∧ Taken q q' := by
  have length := q.frames_length
  cases queued : q.frames with
  | nil =>
    rw [queued, List.length_nil] at length
    omega
  | cons frame rest =>
    have enough : q.slotBytes ≤ out.length := by
      simp only [pop, if_neg (Nat.ne_of_gt some_), Option.map_eq_some_iff] at popped
      obtain ⟨_, copied, _⟩ := popped
      have room := Blocks.copy_room copied
      omega
    obtain ⟨q'', answer, taken⟩ := pop_frame h queued out enough
    rw [popped] at answer
    cases answer
    exact ⟨frame, rest, rfl, rfl, rfl, taken⟩

/-- A push is refused or appends its frame. -/
theorem WellFormed.pushes {q q' : FrameQueue β} {frame : List β} {discarded : Nat}
    (h : q.WellFormed) (enough : q.slotBytes ≤ frame.length)
    (pushed : q.push frame = some (q', discarded)) :
    q.closed = true ∧ q' = q ∨ q.closed = false ∧ Pushed q q' frame := by
  cases closed : q.closed with
  | true =>
    rw [push_closed closed] at pushed
    cases pushed
    exact .inl ⟨rfl, rfl⟩
  | false =>
    obtain ⟨q'', answer, after⟩ := push_open h closed enough
    rw [pushed] at answer
    cases answer
    exact .inr ⟨rfl, after⟩

theorem close_wellFormed {q : FrameQueue β} (h : q.WellFormed) : q.close.WellFormed :=
  ⟨h.slot_pos, h.capacity_pos, h.fits, h.storage_lt, h.count_le, h.readIndex_lt, h.pending⟩

/-! ## Refinement -/

/-- The ring holds the frames of the list, and the `size_t` counter the drops. -/
structure Represents (q : FrameQueue β) (s : DropOldest (List β)) : Prop where
  frames : q.frames = s.items
  dropped : q.dropped = sizeT s.dropped
  closed : q.closed = s.closed

/-- The abstract machine: a list of at most `capacity` frames of `n` bytes, a
drop counter reported as a `size_t`, and a closed bit. -/
def performList (capacity : Nat) (s : DropOldest (List β)) :
    QueueOp β n → DropOldest (List β) × Outcome β
  | .push frame =>
    let (s, discarded) := s.push capacity (frame.val.take n)
    (s, .pushed discarded)
  | .pop out =>
    match s.pop with
    | (s, .item frame, dropped) => (s, .popped ⟨1, sizeT dropped, frame ++ out.val.drop n⟩)
    | (s, .empty, dropped) => (s, .popped ⟨0, sizeT dropped, out.val⟩)
    | (s, .closed, dropped) => (s, .popped ⟨-1, sizeT dropped, out.val⟩)
  | .close => (s.close, .closed)
  | .size => (s, .size s.items.length)

def performAllList (capacity : Nat) (s : DropOldest (List β)) :
    List (QueueOp β n) → DropOldest (List β) × List (Outcome β)
  | [] => (s, [])
  | op :: ops =>
    let (s, outcome) := performList capacity s op
    let (s, outcomes) := performAllList capacity s ops
    (s, outcome :: outcomes)

theorem performList_pop_nil {s : DropOldest (List β)} (h : s.items = []) (capacity : Nat)
    (out : Buffer β n) : performList capacity s (.pop out) =
      ({ s with dropped := 0 },
        .popped ⟨if s.closed then -1 else 0, sizeT s.dropped, out.val⟩) := by
  simp only [performList, DropOldest.pop_nil h]
  cases s.closed <;> rfl

theorem performList_pop_cons {s : DropOldest (List β)} {frame : List β} {rest : List (List β)}
    (h : s.items = frame :: rest) (capacity : Nat) (out : Buffer β n) :
    performList capacity s (.pop out) =
      ({ s with items := rest, dropped := 0 },
        .popped ⟨1, sizeT s.dropped, frame ++ out.val.drop n⟩) := by
  simp only [performList, DropOldest.pop_cons h]

/-- A queue of `capacity` slots of `n` bytes in step with the abstract machine. -/
structure InStep (capacity n : Nat) (q : FrameQueue β) (s : DropOldest (List β)) : Prop where
  wellFormed : q.WellFormed
  slotBytes : q.slotBytes = n
  capacity : q.capacity = capacity
  represents : Represents q s

theorem perform_inStep {capacity : Nat} {q : FrameQueue β} {s : DropOldest (List β)}
    (h : InStep capacity n q s) (op : QueueOp β n) :
    ∃ q', q.perform op = some (q', (performList capacity s op).2) ∧
      InStep capacity n q' (performList capacity s op).1 := by
  obtain ⟨wf, rfl, rfl, frames, dropped, closed⟩ := h
  have length : s.items.length = q.count := by rw [← frames, frames_length]
  cases op with
  | push frame =>
    cases shut : q.closed with
    | true =>
      refine ⟨q, ?_, wf, rfl, rfl, ?_⟩
      · simp only [perform, push_closed shut, Option.map_some, performList, DropOldest.push,
          ← closed, shut, if_true]
      · simpa only [performList, DropOldest.push, ← closed, shut, if_true] using
          ⟨frames, dropped, closed⟩
    | false =>
      obtain ⟨q', answer, after⟩ := push_open wf shut frame.property
      refine ⟨q', ?_, after.wellFormed, after.slotBytes, after.capacity, ?_⟩
      · simp only [perform, answer, Option.map_some, performList, DropOldest.push, ← closed, shut,
          length, Bool.false_eq_true, if_false]
        split <;> rfl
      · have kept := after.frames
        have counted := after.dropped
        have open' := after.closed
        by_cases full : q.count = q.capacity
        · rw [if_pos full] at kept counted
          simp only [performList, DropOldest.push, ← closed, shut, length, full, if_true,
            Bool.false_eq_true, if_false]
          refine ⟨by rw [kept, frames], ?_, by rw [open', ← shut, closed]⟩
          rw [counted, dropped]
          simp only [sizeT, Nat.mod_add_mod]
        · rw [if_neg full] at kept counted
          simp only [performList, DropOldest.push, ← closed, shut, length, full,
            Bool.false_eq_true, if_false]
          exact ⟨by rw [kept, frames], by rw [counted, dropped], by rw [open', ← shut, closed]⟩
  | pop out =>
    cases queued : s.items with
    | nil =>
      obtain ⟨q', answer, after⟩ := pop_empty wf (frames.trans queued) out.val
      have kept := after.frames
      rw [frames, queued, List.tail_nil] at kept
      rw [performList_pop_nil queued]
      refine ⟨q', ?_, after.wellFormed, after.slotBytes, after.capacity, ?_⟩
      · simp only [perform, answer, Option.map_some, dropped, closed]
      · exact ⟨kept.trans queued.symm, after.dropped, after.closed.trans closed⟩
    | cons frame rest =>
      obtain ⟨q', answer, after⟩ := pop_frame wf (frames.trans queued) out.val out.property
      have kept := after.frames
      rw [frames, queued, List.tail_cons] at kept
      rw [performList_pop_cons queued]
      refine ⟨q', ?_, after.wellFormed, after.slotBytes, after.capacity, ?_⟩
      · simp only [perform, answer, Option.map_some, dropped]
      · exact ⟨kept, after.dropped, after.closed.trans closed⟩
  | close =>
    refine ⟨q.close, rfl, close_wellFormed wf, rfl, rfl, ?_⟩
    exact ⟨frames, dropped, rfl⟩
  | size =>
    refine ⟨q, ?_, wf, rfl, rfl, frames, dropped, closed⟩
    simp only [perform, performList, FrameQueue.size, length]

/-- The two machines give the same outcomes over any sequence of operations. -/
theorem performAll_inStep {capacity : Nat} {q : FrameQueue β} {s : DropOldest (List β)}
    (h : InStep capacity n q s) (ops : List (QueueOp β n)) :
    ∃ q', q.performAll ops = some (q', (performAllList capacity s ops).2) ∧
      InStep capacity n q' (performAllList capacity s ops).1 := by
  induction ops generalizing q s with
  | nil => exact ⟨q, rfl, h⟩
  | cons op ops ih =>
    obtain ⟨q', first, next⟩ := perform_inStep h op
    obtain ⟨q'', rest, last⟩ := ih next
    exact ⟨q'', by simp only [performAll, first, rest, Option.map_some, performAllList], last⟩

theorem init_inStep [Zero β] {alloc : Allocator} {slotBytes capacity : Nat} {q q' : FrameQueue β}
    (h : init alloc slotBytes capacity q = .ok (true, q'))
    (fits : max capacity 1 * slotBytes ≤ q'.storage.length) :
    InStep (max capacity 1) slotBytes q' DropOldest.empty := by
  have wf := init_wellFormed h fits
  obtain ⟨_, shape, _⟩ := init_ok h
  refine ⟨wf, ?_, ?_, ?_, ?_, ?_⟩ <;> rw [shape] <;> rfl

theorem WellFormed.frames_whole {q : FrameQueue β} (h : q.WellFormed) :
    ∀ frame ∈ q.frames, frame.length = q.slotBytes := by
  intro frame queued
  obtain ⟨i, _, rfl⟩ := List.mem_map.mp queued
  exact Blocks.block_length (h.slot_bound (Blocks.slot_lt h.capacity_pos))

/-- The range a push writes touches no slot that is still queued once room has
been made for it. -/
def WriteIsFree (q : FrameQueue β) : Prop :=
  q.makeRoom.writeIndex * q.slotBytes + q.slotBytes ≤ q.storage.length ∧
  ∀ i, i < q.makeRoom.count →
    let queued := Blocks.slot q.capacity q.makeRoom.readIndex i * q.slotBytes
    let written := q.makeRoom.writeIndex * q.slotBytes
    queued + q.slotBytes ≤ written ∨ written + q.slotBytes ≤ queued

theorem WellFormed.writeIsFree {q : FrameQueue β} (h : q.WellFormed) : q.WriteIsFree := by
  obtain ⟨room, first, _⟩ := h.makeRoom
  have positive := h.capacity_pos
  have small := h.capacity_lt
  have target : q.makeRoom.writeIndex =
      Blocks.slot q.capacity q.makeRoom.readIndex q.makeRoom.count := by
    rw [writeIndex, sizeT_of_lt (by omega), makeRoom_capacity]
    rfl
  refine ⟨h.slot_bound ?_, ?_⟩
  · rw [target]; exact Blocks.slot_lt positive
  · intro i queued
    dsimp only
    rw [target]
    exact Blocks.block_disjoint q.slotBytes (Blocks.slot_ne queued room)

/-- A queue whose storage was allocated in full is, over any sequence of
operations, a bounded list of frames: no copy leaves the storage, the outcomes
are the list's, and no queued slot is overwritten. -/
theorem refines_drop_oldest [Zero β] (alloc : Allocator) (slotBytes capacity : Nat)
    (before q : FrameQueue β) (ready : init alloc slotBytes capacity before = .ok (true, q))
    (fits : max capacity 1 * slotBytes ≤ q.storage.length) (ops : List (QueueOp β slotBytes)) :
    ∃ q', q.performAll ops =
        some (q', (performAllList (max capacity 1) DropOldest.empty ops).2) ∧
      Represents q' (performAllList (max capacity 1) DropOldest.empty ops).1 ∧
      q'.frames.length ≤ max capacity 1 ∧ (∀ frame ∈ q'.frames, frame.length = slotBytes) ∧
      q'.capacity = max capacity 1 ∧ q'.count ≤ q'.capacity ∧ q'.readIndex < q'.capacity ∧
      q'.readIndex * slotBytes + slotBytes ≤ q'.storage.length ∧ q'.WriteIsFree := by
  obtain ⟨q', answer, wf, slot, cap, represents⟩ :=
    performAll_inStep (init_inStep ready fits) ops
  refine ⟨q', answer, represents, ?_, ?_, cap, wf.count_le, wf.readIndex_lt, ?_, wf.writeIsFree⟩
  · rw [frames_length, ← cap]
    exact wf.count_le
  · intro frame queued
    rw [wf.frames_whole frame queued, slot]
  · have bound := wf.slot_bound wf.readIndex_lt
    rwa [slot] at bound

/-- Three two-byte frames through a queue of two: the oldest is discarded. -/
theorem refines_drop_oldest_pairs :
    let roomy : Allocator := ⟨2 ^ 63 - 1, fun _ => true, by decide⟩
    let q : FrameQueue UInt8 := { storage := [0, 0, 0, 0], slotBytes := 2, capacity := 2 }
    let ops : List (QueueOp UInt8 2) := [.push ⟨[1, 1], by decide⟩, .push ⟨[2, 2], by decide⟩,
      .push ⟨[3, 3], by decide⟩, .size, .pop ⟨[0, 0], by decide⟩, .close, .pop ⟨[0, 0], by decide⟩,
      .pop ⟨[0, 0], by decide⟩]
    init roomy 2 2 {} = .ok (true, q) ∧ ∃ q', q.performAll ops =
        some (q', [.pushed 0, .pushed 0, .pushed 1, .size 2, .popped ⟨1, 1, [2, 2]⟩, .closed,
          .popped ⟨1, 0, [3, 3]⟩, .popped ⟨-1, 0, [0, 0]⟩]) ∧ q'.WriteIsFree := by
  intro roomy q ops
  have ready : init roomy 2 2 {} = .ok (true, q) := rfl
  obtain ⟨q', answer, _, _, _, _, _, _, _, free⟩ :=
    refines_drop_oldest roomy 2 2 {} q ready (by decide) ops
  exact ⟨ready, q', answer, free⟩

end FrameQueue
end WebAudioCapture
