import Mathlib.Data.UInt
import WebAudioCapture.Lib.Blocks

/-!
# `frame_queue_t`

The bounded queue between the capture thread and the consumer
(`frame_queue.h`). The bytes of a frame are only ever copied, so they are left
generic: instantiate them with `UInt8`, or with a byte that also says where it
was recorded. Every operation holds the queue's mutex, so it is one step; the
wait in `pop` releases it, and the pop takes effect when the wait is over.
-/

namespace WebAudioCapture

/-- `std::size_t` arithmetic is modulo 2^64. -/
def sizeT (n : Nat) : Nat := n % 2 ^ 64

theorem sizeT_of_lt {n : Nat} (h : n < 2 ^ 64) : sizeT n = n := Nat.mod_eq_of_lt h

inductive Exception where
  | lengthError
  | badAlloc
  deriving DecidableEq, Repr

/-- What `std::vector<uint8_t>` promises of its storage: more than `max_size`
elements is a length error, and elements are counted in a `ptrdiff_t`. -/
structure Allocator where
  maxSize : Nat
  available : Nat → Bool
  maxSize_lt : maxSize < 2 ^ 63

/-- `std::vector::assign`. -/
def Allocator.assign {β : Type} (alloc : Allocator) (count : Nat) (value : β) :
    Except Exception (List β) :=
  if alloc.maxSize < count then .error .lengthError
  else if alloc.available count then .ok (List.replicate count value)
  else .error .badAlloc

structure FrameQueue (β : Type) where
  storage : List β := []
  slotBytes : Nat := 0
  capacity : Nat := 0
  count : Nat := 0
  readIndex : Nat := 0
  dropped : Nat := 0
  closed : Bool := false
  deriving DecidableEq, Repr

namespace FrameQueue

variable {β : Type}

/-- `init`: false when refused, an exception when `assign` throws one that is
not a `std::bad_alloc`. -/
def init [Zero β] (alloc : Allocator) (slotBytes capacity : Nat) (q : FrameQueue β) :
    Except Exception (Bool × FrameQueue β) :=
  if slotBytes = 0 then .ok (false, q)
  else
    match alloc.assign (sizeT (max capacity 1 * slotBytes)) (0 : β) with
    | .ok storage => .ok (true, { storage, slotBytes, capacity := max capacity 1 })
    | .error .badAlloc => .ok (false, q)
    | .error .lengthError => .error .lengthError

/-- The overflow branch of `push`. -/
def dropOldest (q : FrameQueue β) : FrameQueue β :=
  { q with
    readIndex := sizeT (q.readIndex + 1) % q.capacity
    count := q.count - 1
    dropped := sizeT (q.dropped + 1) }

def isFull (q : FrameQueue β) : Bool := q.count == q.capacity

def makeRoom (q : FrameQueue β) : FrameQueue β := if q.isFull then q.dropOldest else q

/-- The slot `push` writes, once there is room. -/
def writeIndex (q : FrameQueue β) : Nat := sizeT (q.readIndex + q.count) % q.capacity

/-- `push`: the queue and the number of frames discarded. None is undefined
behaviour: a copy from or to cells that do not exist. -/
def push (q : FrameQueue β) (frame : List β) : Option (FrameQueue β × Nat) :=
  if q.closed || q.slotBytes == 0 then some (q, 0)
  else
    let room := q.makeRoom
    (Blocks.copy room.storage (sizeT (room.writeIndex * q.slotBytes)) frame 0 q.slotBytes).map
      fun storage =>
        ({ room with storage, count := sizeT (room.count + 1) }, if q.isFull then 1 else 0)

/-- What `pop` returns, the `*discarded` it reports and the caller's buffer. -/
structure Popped (β : Type) where
  result : Int
  discarded : Nat
  out : List β
  deriving DecidableEq, Repr

/-- The predicate `pop` waits for. -/
def ready (q : FrameQueue β) : Bool := decide (0 < q.count) || q.closed

/-- `pop` once its wait is over: the queue is ready or the timeout elapsed. -/
def pop (q : FrameQueue β) (out : List β) : Option (FrameQueue β × Popped β) :=
  let taken := { q with dropped := 0 }
  if q.count = 0 then some (taken, ⟨if q.closed then -1 else 0, q.dropped, out⟩)
  else
    (Blocks.copy out 0 q.storage (sizeT (q.readIndex * q.slotBytes)) q.slotBytes).map fun out =>
      ({ taken with readIndex := sizeT (q.readIndex + 1) % q.capacity, count := q.count - 1 },
        ⟨1, q.dropped, out⟩)

def close (q : FrameQueue β) : FrameQueue β := { q with closed := true }

def size (q : FrameQueue β) : Nat := q.count

end FrameQueue

/-! ## Sequences of operations -/

/-- A caller's buffer of at least `n` bytes. -/
abbrev Buffer (β : Type) (n : Nat) := { bytes : List β // n ≤ bytes.length }

/-- An operation on a queue with slots of `n` bytes. Which thread calls it and
how long a pop waits does not matter once it takes effect. -/
inductive QueueOp (β : Type) (n : Nat) where
  | push (frame : Buffer β n)
  | pop (out : Buffer β n)
  | close
  | size

inductive Outcome (β : Type) where
  | pushed (discarded : Nat)
  | popped (p : FrameQueue.Popped β)
  | closed
  | size (n : Nat)
  deriving DecidableEq, Repr

namespace FrameQueue

variable {β : Type} {n : Nat}

def perform (q : FrameQueue β) : QueueOp β n → Option (FrameQueue β × Outcome β)
  | .push frame => (q.push frame.val).map fun (q, discarded) => (q, .pushed discarded)
  | .pop out => (q.pop out.val).map fun (q, p) => (q, .popped p)
  | .close => some (q.close, .closed)
  | .size => some (q, .size q.size)

def performAll (q : FrameQueue β) : List (QueueOp β n) → Option (FrameQueue β × List (Outcome β))
  | [] => some (q, [])
  | op :: ops =>
    match q.perform op with
    | none => none
    | some (q, outcome) => (performAll q ops).map fun (q, outcomes) => (q, outcome :: outcomes)

/-! ## Well-formed queues -/

/-- What `init` establishes and every operation keeps: the storage holds every
slot, the indices are in range, and drops are pending only while the ring is
full. -/
structure WellFormed (q : FrameQueue β) : Prop where
  slot_pos : 0 < q.slotBytes
  capacity_pos : 0 < q.capacity
  fits : q.capacity * q.slotBytes ≤ q.storage.length
  storage_lt : q.storage.length < 2 ^ 63
  count_le : q.count ≤ q.capacity
  readIndex_lt : q.readIndex < q.capacity
  pending : 0 < q.dropped → q.count = q.capacity

/-- The frames in the ring, oldest first. -/
def frames (q : FrameQueue β) : List (List β) :=
  Blocks.ring q.storage q.slotBytes q.capacity q.readIndex q.count

@[simp] theorem frames_length (q : FrameQueue β) : q.frames.length = q.count :=
  Blocks.ring_length ..

theorem init_ok [Zero β] {alloc : Allocator} {slotBytes capacity : Nat} {q q' : FrameQueue β}
    (h : init alloc slotBytes capacity q = .ok (true, q')) :
    0 < slotBytes ∧ q' = { storage := q'.storage, slotBytes, capacity := max capacity 1 } ∧
    q'.storage.length = sizeT (max capacity 1 * slotBytes) ∧ q'.storage.length < 2 ^ 63 := by
  unfold init at h
  split at h
  · cases h
  · rename_i nonzero
    have lt := alloc.maxSize_lt
    split at h
    · rename_i storage given
      cases h
      unfold Allocator.assign at given
      split at given
      · cases given
      · rename_i inLimit
        split at given
        · cases given
          refine ⟨by omega, rfl, List.length_replicate, ?_⟩
          rw [List.length_replicate]
          omega
        · cases given
    · cases h
    · cases h

theorem init_wellFormed [Zero β] {alloc : Allocator} {slotBytes capacity : Nat}
    {q q' : FrameQueue β} (h : init alloc slotBytes capacity q = .ok (true, q'))
    (fits : max capacity 1 * slotBytes ≤ q'.storage.length) : q'.WellFormed := by
  obtain ⟨positive, shape, _, lt⟩ := init_ok h
  rw [shape]
  exact ⟨positive, by dsimp only; omega, fits, lt, Nat.zero_le _, by dsimp only; omega,
    fun some => absurd some (Nat.lt_irrefl 0)⟩

section
variable {q : FrameQueue β}

theorem WellFormed.capacity_lt (h : q.WellFormed) : q.capacity < 2 ^ 63 := by
  have le : q.capacity * 1 ≤ q.capacity * q.slotBytes := Nat.mul_le_mul_left _ h.slot_pos
  have := h.fits
  have := h.storage_lt
  omega

/-- No index of a well-formed queue wraps. -/
theorem WellFormed.readIndex_succ (h : q.WellFormed) :
    sizeT (q.readIndex + 1) % q.capacity = Blocks.slot q.capacity q.readIndex 1 := by
  have := h.capacity_lt
  have := h.readIndex_lt
  rw [sizeT_of_lt (by omega)]
  rfl

/-- The range of a slot lies inside the storage and its offset does not wrap. -/
theorem WellFormed.slot_bound (h : q.WellFormed) {i : Nat} (lt : i < q.capacity) :
    i * q.slotBytes + q.slotBytes ≤ q.storage.length :=
  Blocks.block_bound h.fits lt

theorem WellFormed.offset_eq (h : q.WellFormed) {i : Nat} (lt : i < q.capacity) :
    sizeT (i * q.slotBytes) = i * q.slotBytes := by
  have := h.slot_bound lt
  have := h.storage_lt
  exact sizeT_of_lt (by omega)

theorem WellFormed.dropOldest_frames (h : q.WellFormed) (full : q.count = q.capacity) :
    q.dropOldest.frames = q.frames.tail := by
  have positive := h.capacity_pos
  obtain ⟨rest, eq⟩ : ∃ rest, q.count = rest + 1 := ⟨q.count - 1, by omega⟩
  simp only [frames, dropOldest, h.readIndex_succ]
  rw [eq, Blocks.ring_cons _ _ _ _ _ h.readIndex_lt, List.tail_cons, Nat.add_sub_cancel]

/-- Making room leaves a queue with a free slot and the frames not discarded. -/
theorem WellFormed.makeRoom (h : q.WellFormed) :
    q.makeRoom.count < q.capacity ∧ q.makeRoom.readIndex < q.capacity ∧
    q.makeRoom.frames = if q.count = q.capacity then q.frames.tail else q.frames := by
  have positive := h.capacity_pos
  have le := h.count_le
  unfold FrameQueue.makeRoom isFull
  by_cases full : q.count = q.capacity
  · rw [if_pos full, if_pos (beq_iff_eq.mpr full), h.dropOldest_frames full]
    refine ⟨by simp only [dropOldest]; omega, ?_, rfl⟩
    exact Nat.mod_lt _ positive
  · rw [if_neg full, if_neg (by simpa using full)]
    exact ⟨by omega, h.readIndex_lt, rfl⟩

@[simp] theorem makeRoom_storage (q : FrameQueue β) : q.makeRoom.storage = q.storage := by
  unfold makeRoom; split <;> rfl

@[simp] theorem makeRoom_capacity (q : FrameQueue β) : q.makeRoom.capacity = q.capacity := by
  unfold makeRoom; split <;> rfl

@[simp] theorem makeRoom_slotBytes (q : FrameQueue β) : q.makeRoom.slotBytes = q.slotBytes := by
  unfold makeRoom; split <;> rfl

@[simp] theorem makeRoom_closed (q : FrameQueue β) : q.makeRoom.closed = q.closed := by
  unfold makeRoom; split <;> rfl

end
/-! ## The queue, counted -/

/-- A push is not refused. -/
def accepts (q : FrameQueue β) : Bool := !q.closed && q.slotBytes != 0

/-- A push now discards the oldest frame. -/
def overflows (q : FrameQueue β) : Bool := q.accepts && q.isFull

/-- What holds of a queue whatever storage it was given. -/
structure Counted (q : FrameQueue β) : Prop where
  capacity_pos : 0 < q.capacity
  capacity_lt : q.capacity < 2 ^ 63
  count_le : q.count ≤ q.capacity
  pending : 0 < q.dropped → q.count = q.capacity

section
variable {q q' : FrameQueue β}

theorem Counted.close (h : q.Counted) : q.close.Counted := ⟨h.1, h.2, h.3, h.4⟩

/-- An empty queue has no drops to report. -/
theorem Counted.no_drops (h : q.Counted) (empty : q.count = 0) : q.dropped = 0 := by
  have positive := h.capacity_pos
  have pending := h.pending
  omega

/-- A push is refused, adds a frame or replaces the oldest one. -/
inductive PushedOnto (q q' : FrameQueue β) : Prop
  | refused (closed : q.accepts = false) (same : q' = q)
  | added (open_ : q.accepts = true) (room : q.count < q.capacity)
      (count : q'.count = q.count + 1) (dropped : q'.dropped = q.dropped)
      (closed : q'.closed = q.closed) (slotBytes : q'.slotBytes = q.slotBytes)
  | replaced (open_ : q.accepts = true) (full : q.count = q.capacity)
      (count : q'.count = q.count) (closed : q'.closed = q.closed)
      (slotBytes : q'.slotBytes = q.slotBytes)

theorem push_counted (h : q.Counted) {frame : List β} {discarded : Nat}
    (pushed : q.push frame = some (q', discarded)) : q'.Counted ∧ PushedOnto q q' := by
  obtain ⟨positive, small, le, pending⟩ := h
  unfold push at pushed
  split at pushed
  · rename_i closed
    cases pushed
    have refused : q.accepts = false := by
      cases shut : q.closed <;> simp_all [accepts]
    exact ⟨⟨positive, small, le, pending⟩, .refused refused rfl⟩
  · rename_i unlocked
    have accepted : q.accepts = true := by
      cases shut : q.closed <;> simp_all [accepts]
    simp only [Option.map_eq_some_iff, Prod.mk.injEq] at pushed
    obtain ⟨storage, _, rfl, _⟩ := pushed
    by_cases full : q.count = q.capacity
    · have room : q.makeRoom = q.dropOldest := by
        rw [FrameQueue.makeRoom, isFull, if_pos (by simpa using full)]
      have count : sizeT (q.count - 1 + 1) = q.count := by
        rw [sizeT_of_lt (by omega)]; omega
      rw [room]
      refine ⟨⟨positive, small, ?_, ?_⟩, .replaced accepted full count rfl rfl⟩
      · simp only [dropOldest, count]; exact le
      · intro _; simp only [dropOldest, count]; exact full
    · have room : q.makeRoom = q := by
        rw [FrameQueue.makeRoom, isFull, if_neg (by simpa using full)]
      have count : sizeT (q.count + 1) = q.count + 1 := sizeT_of_lt (by omega)
      rw [room]
      refine ⟨⟨positive, small, ?_, ?_⟩, .added accepted (by omega) count rfl rfl rfl⟩
      · simp only [count]; omega
      · intro some; exact absurd (pending some) full

/-- A push that discards a frame counts it. -/
theorem push_overflowing {frame : List β} {discarded : Nat}
    (pushed : q.push frame = some (q', discarded)) (spills : q.overflows = true) :
    q'.dropped = sizeT (q.dropped + 1) ∧ q'.capacity = q.capacity := by
  obtain ⟨open_, full⟩ := Bool.and_eq_true_iff.mp spills
  have unlocked : ¬(q.closed || q.slotBytes == 0) = true := by
    simp only [accepts] at open_
    cases closed : q.closed <;> simp_all
  have room : q.makeRoom = q.dropOldest := if_pos full
  simp only [push, if_neg unlocked, room, Option.map_eq_some_iff, Prod.mk.injEq] at pushed
  obtain ⟨storage, _, rfl, _⟩ := pushed
  exact ⟨rfl, rfl⟩

/-- A pop finds nothing and no drops, or takes the oldest frame and the drop
count with it. -/
inductive PoppedFrom (q q' : FrameQueue β) (p : Popped β) : Prop
  | nothing (empty : q.count = 0) (result : p.result = 0 ∨ p.result = -1)
      (discarded : p.discarded = 0) (count : q'.count = 0)
  | frame (some : 0 < q.count) (result : p.result = 1) (discarded : p.discarded = q.dropped)
      (count : q'.count = q.count - 1)

theorem pop_counted (h : q.Counted) {out : List β} {p : Popped β}
    (popped : q.pop out = some (q', p)) :
    q'.Counted ∧ q'.dropped = 0 ∧ q'.closed = q.closed ∧ q'.slotBytes = q.slotBytes ∧
      PoppedFrom q q' p := by
  have none := h.no_drops
  obtain ⟨positive, small, le, _⟩ := h
  unfold pop at popped
  dsimp only at popped
  split at popped
  · rename_i empty
    cases popped
    refine ⟨⟨positive, small, le, nofun⟩, rfl, rfl, rfl, .nothing empty ?_ (none empty) empty⟩
    dsimp only
    split
    · exact .inr rfl
    · exact .inl rfl
  · rename_i some
    simp only [Option.map_eq_some_iff, Prod.mk.injEq] at popped
    obtain ⟨filled, _, rfl, rfl⟩ := popped
    refine ⟨⟨positive, small, by dsimp only; omega, nofun⟩, rfl, rfl, rfl, ?_⟩
    exact .frame (by omega) rfl rfl rfl

/-- Neither a push nor a pop opens or closes a queue. -/
theorem push_keeps_closed {frame : List β} {discarded : Nat}
    (pushed : q.push frame = some (q', discarded)) : q'.closed = q.closed := by
  unfold push at pushed
  split at pushed
  · cases pushed
    rfl
  · simp only [Option.map_eq_some_iff, Prod.mk.injEq] at pushed
    obtain ⟨storage, _, rfl, _⟩ := pushed
    exact makeRoom_closed q

theorem pop_keeps_closed {out : List β} {p : Popped β} (popped : q.pop out = some (q', p)) :
    q'.closed = q.closed := by
  unfold pop at popped
  dsimp only at popped
  split at popped
  · cases popped
    rfl
  · simp only [Option.map_eq_some_iff, Prod.mk.injEq] at popped
    obtain ⟨filled, _, rfl, _⟩ := popped
    rfl

end

end FrameQueue
end WebAudioCapture
