import WebAudioCapture.QueueRefinement
import WebAudioCapture.Lib.Steps

/-!
# Gaps and drop reports

A recorded queue numbers the frames its pushes accept and counts the frames
discarded since the last frame a pop returned. The counter the queue reports
is that count as a `size_t`, and the frame returned with it is the one after
exactly that gap.
-/

namespace WebAudioCapture

variable {β : Type} {n : Nat}

/-- A queue with the frames it has accepted, numbered by position, one past
the number of the last frame a pop returned, and the frames discarded since. -/
structure Recorded (β : Type) where
  queue : FrameQueue β
  accepted : List (List β) := []
  next : Nat := 0
  missed : Nat := 0

namespace Recorded

/-- The number of the frame the next pop returns, if it returns one. -/
def number (r : Recorded β) : Nat := r.next + r.missed

/-- The record after an operation with the given outcome. -/
def note (r : Recorded β) (op : QueueOp β n) (q : FrameQueue β) : Outcome β → Recorded β
  | .pushed discarded =>
    match op with
    | .push frame =>
      { r with
        queue := q
        accepted := if r.queue.closed then r.accepted else r.accepted ++ [frame.val.take n]
        missed := r.missed + discarded }
    | _ => { r with queue := q }
  | .popped p =>
    if p.result = 1 then { r with queue := q, next := r.number + 1, missed := 0 }
    else { r with queue := q }
  | _ => { r with queue := q }

def step (r : Recorded β) (op : QueueOp β n) : Option (Recorded β) :=
  (r.queue.perform op).map fun (q, outcome) => r.note op q outcome

/-- The queue and its record agree with a numbered list of frames. -/
structure Agrees (capacity n : Nat) (r : Recorded β) (s : DropOldest (List β)) : Prop where
  inStep : FrameQueue.InStep capacity n r.queue s
  missed : s.dropped = r.missed
  numbered : DropOldest.Numbered capacity ⟨s, r.accepted, r.next⟩

theorem push_agrees {capacity : Nat} {r r' : Recorded β} {s : DropOldest (List β)}
    (h : Agrees capacity n r s) (frame : Buffer β n) (taken : r.step (.push frame) = some r') :
    ∃ s', Agrees capacity n r' s' := by
  obtain ⟨inStep, missed, numbered⟩ := h
  have positive : 0 < capacity := inStep.capacity ▸ inStep.wellFormed.capacity_pos
  obtain ⟨q', answer, next⟩ := FrameQueue.perform_inStep inStep (.push frame)
  have after := DropOldest.push_numbered positive numbered (frame.val.take n)
  simp only [step, answer, Option.map_some, FrameQueue.performList, note] at taken
  cases taken
  refine ⟨_, next, ?_, ?_⟩
  · simp only [FrameQueue.performList, DropOldest.push]
    split
    · exact missed
    · split
      · dsimp only; rw [missed]
      · exact missed
  · simpa only [DropOldest.Recorded.push, inStep.represents.closed, FrameQueue.performList]
      using after

theorem pop_agrees {capacity : Nat} {r r' : Recorded β} {s : DropOldest (List β)}
    (h : Agrees capacity n r s) (out : Buffer β n) (taken : r.step (.pop out) = some r') :
    ∃ s', Agrees capacity n r' s' := by
  obtain ⟨inStep, missed, numbered⟩ := h
  have positive : 0 < capacity := inStep.capacity ▸ inStep.wellFormed.capacity_pos
  obtain ⟨q', answer, next⟩ := FrameQueue.perform_inStep inStep (.pop out)
  have after := DropOldest.pop_numbered positive numbered
  cases queued : s.items with
  | nil =>
    have zero := DropOldest.nothing_dropped positive numbered.bounded queued
    rw [FrameQueue.performList_pop_nil queued] at answer next
    have kept : r' = { r with queue := q' } := by
      simp only [step, answer, Option.map_some, note, Option.some.injEq] at taken
      rw [← taken, if_neg]
      cases s.closed <;> decide
    rw [kept]
    refine ⟨_, next, missed ▸ zero.symm, ?_⟩
    simpa only [DropOldest.Recorded.pop, DropOldest.pop_nil queued, queued, if_true] using after
  | cons frame rest =>
    rw [FrameQueue.performList_pop_cons queued] at answer next
    have kept : r' = { r with queue := q', next := r.number + 1, missed := 0 } := by
      simp only [step, answer, Option.map_some, note, if_true, Option.some.injEq] at taken
      exact taken.symm
    rw [kept]
    refine ⟨_, next, rfl, ?_⟩
    simpa only [DropOldest.Recorded.pop, DropOldest.pop_cons queued, queued, reduceCtorEq,
      if_false, number, missed] using after

theorem step_agrees {capacity : Nat} {r r' : Recorded β} {s : DropOldest (List β)}
    (h : Agrees capacity n r s) (op : QueueOp β n) (taken : r.step op = some r') :
    ∃ s', Agrees capacity n r' s' := by
  cases op with
  | push frame => exact push_agrees h frame taken
  | pop out => exact pop_agrees h out taken
  | close =>
    obtain ⟨inStep, missed, numbered⟩ := h
    obtain ⟨q', answer, next⟩ := FrameQueue.perform_inStep inStep .close
    simp only [step, answer, Option.map_some] at taken
    cases taken
    exact ⟨_, next, missed, DropOldest.close_numbered numbered⟩
  | size =>
    obtain ⟨inStep, missed, numbered⟩ := h
    obtain ⟨q', answer, next⟩ := FrameQueue.perform_inStep inStep .size
    simp only [step, answer, Option.map_some] at taken
    cases taken
    exact ⟨_, next, missed, numbered⟩

/-- Runs of a recorded queue from a fresh one. -/
abbrev Reachable (n : Nat) (q : FrameQueue β) (r : Recorded β) : Prop :=
  Steps.Reach (step (n := n)) Steps.Any (fun r => r = { queue := q }) r

theorem Reachable.agrees {capacity : Nat} {q : FrameQueue β} {r : Recorded β}
    (fresh : FrameQueue.InStep capacity n q DropOldest.empty) (h : Reachable n q r) :
    ∃ s, Agrees capacity n r s := by
  apply h.invariant (fun r => ∃ s, Agrees capacity n r s) ?_ ?_
  · rintro _ rfl
    exact ⟨_, fresh, rfl, DropOldest.empty_numbered capacity⟩
  · rintro r op r' _ ⟨s, agrees⟩ _ taken
    exact step_agrees agrees op taken

/-- What a pop reports: the frame after the gap and the gap as a `size_t`, or
no frame and no drops. -/
theorem Agrees.popped {capacity : Nat} {r : Recorded β} {s : DropOldest (List β)}
    (h : Agrees capacity n r s) (out : Buffer β n) :
    ∃ q' p, r.queue.pop out.val = some (q', p) ∧
      (p.result = 1 → p.discarded = sizeT r.missed ∧
        ∃ frame, r.accepted[r.number]? = some frame ∧ p.out = frame ++ out.val.drop n) ∧
      (p.result ≠ 1 → p.discarded = 0) := by
  obtain ⟨inStep, missed, numbered⟩ := h
  have positive : 0 < capacity := inStep.capacity ▸ inStep.wellFormed.capacity_pos
  have counted := inStep.represents.dropped
  have frames := inStep.represents.frames
  cases queued : s.items with
  | nil =>
    obtain ⟨q', answer, _⟩ :=
      FrameQueue.pop_empty inStep.wellFormed (frames.trans queued) out.val
    have zero := DropOldest.nothing_dropped positive numbered.bounded queued
    refine ⟨q', _, answer, fun one => ?_, fun _ => ?_⟩
    · dsimp only at one
      split at one <;> cases one
    · rw [counted, zero]; rfl
  | cons frame rest =>
    have enough : r.queue.slotBytes ≤ out.val.length := inStep.slotBytes ▸ out.property
    obtain ⟨q', answer, _⟩ :=
      FrameQueue.pop_frame inStep.wellFormed (frames.trans queued) out.val enough
    refine ⟨q', _, answer, fun _ => ⟨?_, frame, ?_, ?_⟩, fun other => absurd rfl other⟩
    · rw [counted, missed]
    · have head := numbered.popped queued
      rwa [missed] at head
    · rw [inStep.slotBytes]

/-- In every interleaving of pushes, pops and closes: drops are pending only
while the ring is full; a pop that returns a frame returns the one after the
gap since the previous frame returned, and reports the length of that gap as a
`size_t`, hence exactly when it is below 2^64; any other pop reports no drops. -/
theorem gap_accounting [Zero β] (alloc : Allocator) (slotBytes capacity : Nat)
    (before q : FrameQueue β) (ready : FrameQueue.init alloc slotBytes capacity before = .ok (true, q))
    (fits : max capacity 1 * slotBytes ≤ q.storage.length) (r : Recorded β)
    (run : Reachable slotBytes q r) (out : Buffer β slotBytes) :
    (0 < r.queue.dropped → r.queue.count = r.queue.capacity) ∧
    ∃ q' p, r.queue.pop out.val = some (q', p) ∧
      (p.result = 1 → p.discarded = r.missed % 2 ^ 64 ∧
        (r.missed < 2 ^ 64 → r.number = r.next + p.discarded) ∧
        ∃ frame, r.accepted[r.number]? = some frame ∧
          p.out = frame ++ out.val.drop slotBytes) ∧
      (p.result ≠ 1 → p.discarded = 0) := by
  obtain ⟨s, agrees⟩ := run.agrees (FrameQueue.init_inStep ready fits)
  obtain ⟨q', p, answer, one, other⟩ := agrees.popped out
  refine ⟨agrees.inStep.wellFormed.pending, q', p, answer, fun result => ?_, other⟩
  obtain ⟨reported, frame, numbered, copied⟩ := one result
  refine ⟨reported, fun small => ?_, frame, numbered, copied⟩
  rw [reported, sizeT_of_lt small, number]

/-- A lossless prefix of a run: nothing dropped, so the first frame follows
no gap. -/
theorem gap_accounting_first :
    ∃ (q q' : FrameQueue UInt8) (r : Recorded UInt8) (p : FrameQueue.Popped UInt8),
      FrameQueue.init ⟨2 ^ 63 - 1, fun _ => true, by decide⟩ 1 2 {} = .ok (true, q) ∧
      Reachable 1 q r ∧ r.queue.pop [0] = some (q', p) ∧ p.result = 1 ∧ p.discarded = 1 ∧
      r.number = r.next + p.discarded := by
  have ready : FrameQueue.init ⟨2 ^ 63 - 1, fun _ => true, by decide⟩ 1 2 {} =
      .ok (true, ({ storage := [0, 0], slotBytes := 1, capacity := 2 } : FrameQueue UInt8)) := rfl
  have ran : Steps.exec (step (β := UInt8) (n := 1))
      { queue := { storage := [0, 0], slotBytes := 1, capacity := 2 } }
      [.push ⟨[7], Nat.le_refl 1⟩, .push ⟨[8], Nat.le_refl 1⟩, .push ⟨[9], Nat.le_refl 1⟩] = some
      { queue := { storage := [9, 8], slotBytes := 1, capacity := 2, count := 2, readIndex := 1,
                   dropped := 1 }
        accepted := [[7], [8], [9]]
        missed := 1 } := rfl
  have run : Reachable 1 _ _ := Steps.Reach.exec (.start rfl) (Steps.meets_any _ _ _) ran
  obtain ⟨_, q', p, answer, one, _⟩ :=
    gap_accounting _ 1 2 {} _ ready (by decide) _ run ⟨[0], Nat.le_refl 1⟩
  have returned := (Prod.mk.inj (Option.some.inj answer)).2
  have result : p.result = 1 := by rw [← returned]
  have report : p.discarded = 1 := by rw [← returned]
  exact ⟨_, q', _, p, ready, run, answer, result, report, (one result).2.1 (by decide)⟩

/-! ## Where the report stops being the gap -/

theorem push_overflows {capacity : Nat} {r : Recorded β} {s : DropOldest (List β)}
    (h : Agrees capacity n r s) (full : s.items.length = capacity)
    (unlocked : r.queue.closed = false) (frame : Buffer β n) :
    ∃ r' s', r.step (.push frame) = some r' ∧ Agrees capacity n r' s' ∧
      s'.items.length = capacity ∧ r'.queue.closed = false ∧ r'.next = r.next ∧
      r'.missed = r.missed + 1 ∧ r'.accepted = r.accepted ++ [frame.val.take n] := by
  have positive : 0 < capacity := h.inStep.capacity ▸ h.inStep.wellFormed.capacity_pos
  have shut : s.closed = false := h.inStep.represents.closed ▸ unlocked
  obtain ⟨q', answer, next⟩ := FrameQueue.perform_inStep h.inStep (.push frame)
  simp only [FrameQueue.performList, DropOldest.push, shut, full, Bool.false_eq_true, if_false,
    if_true] at answer next
  have taken : r.step (.push frame) = some
      { r with queue := q', accepted := r.accepted ++ [frame.val.take n], missed := r.missed + 1 } := by
    simp only [step, answer, Option.map_some, note, unlocked, Bool.false_eq_true, if_false]
  obtain ⟨s', agrees⟩ := push_agrees h frame taken
  have same := agrees.inStep.represents.frames.symm.trans next.represents.frames
  refine ⟨_, s', taken, agrees, ?_, next.represents.closed, rfl, rfl, rfl⟩
  rw [same]
  simp only [List.length_append, List.length_tail, List.length_singleton]
  omega

/-- A full queue discards one frame with every push. -/
theorem pushes_overflow {capacity : Nat} {r : Recorded β} {s : DropOldest (List β)}
    (h : Agrees capacity n r s) (full : s.items.length = capacity)
    (unlocked : r.queue.closed = false) (frame : Buffer β n) (k : Nat) :
    ∃ r' s', Steps.exec step r (List.replicate k (.push frame)) = some r' ∧
      Agrees capacity n r' s' ∧ s'.items.length = capacity ∧ r'.next = r.next ∧
      r'.missed = r.missed + k ∧
      r'.accepted = r.accepted ++ List.replicate k (frame.val.take n) := by
  induction k generalizing r s with
  | zero => exact ⟨r, s, rfl, h, full, rfl, rfl, (List.append_nil _).symm⟩
  | succ k ih =>
    obtain ⟨r₁, s₁, taken, agrees, full₁, unlocked₁, next₁, missed₁, accepted₁⟩ :=
      push_overflows h full unlocked frame
    obtain ⟨r₂, s₂, ran, agrees₂, full₂, next₂, missed₂, accepted₂⟩ := ih agrees full₁ unlocked₁
    refine ⟨r₂, s₂, ?_, agrees₂, full₂, next₂.trans next₁, by omega, ?_⟩
    · rw [List.replicate_succ, Steps.exec_cons _ taken, ran]
    · rw [accepted₂, accepted₁, List.append_assoc, List.replicate_succ, List.singleton_append]

/-- One push of `[1]` and `k` of `[0]` through a queue of one frame. -/
theorem pushes_reported (k : Nat) : ∃ (q' : FrameQueue UInt8) (r : Recorded UInt8)
    (p : FrameQueue.Popped UInt8),
    Steps.exec (step (β := UInt8) (n := 1))
      { queue := { storage := [0], slotBytes := 1, capacity := 1 } }
      (.push ⟨[1], Nat.le_refl 1⟩ :: List.replicate k (.push ⟨[0], Nat.le_refl 1⟩)) = some r ∧
    r.queue.pop [0] = some (q', p) ∧ p.result = 1 ∧ p.discarded = sizeT k ∧ r.number = k ∧
    r.accepted = [1] :: List.replicate k [0] ∧ (0 < k → p.out = [0]) := by
  have ready : FrameQueue.init ⟨2 ^ 63 - 1, fun _ => true, by decide⟩ 1 1 {} =
      .ok (true, ({ storage := [0], slotBytes := 1, capacity := 1 } : FrameQueue UInt8)) := rfl
  have first : step (β := UInt8) { queue := { storage := [0], slotBytes := 1, capacity := 1 } }
      (.push (n := 1) ⟨[1], Nat.le_refl 1⟩) = some
      { queue := { storage := [1], slotBytes := 1, capacity := 1, count := 1 }
        accepted := [[1]] } := rfl
  have reached : Reachable 1 _ _ := .next (.start rfl) trivial first
  obtain ⟨s, agrees⟩ := reached.agrees (FrameQueue.init_inStep ready (by decide))
  have full : s.items.length = 1 := by
    rw [← agrees.inStep.represents.frames, FrameQueue.frames_length]
  obtain ⟨r, s', ran, agrees', full', next, missed, accepted⟩ :=
    pushes_overflow agrees full rfl ⟨[0], Nat.le_refl 1⟩ k
  rw [Nat.zero_add] at missed
  replace accepted : r.accepted = [1] :: List.replicate k [0] := accepted
  have number : r.number = k := by rw [Recorded.number, next, missed, Nat.zero_add]
  obtain ⟨frame, queued⟩ := List.length_eq_one_iff.mp full'
  obtain ⟨q', answer, _⟩ := FrameQueue.pop_frame agrees'.inStep.wellFormed
    (agrees'.inStep.represents.frames.trans queued) [0]
    (agrees'.inStep.slotBytes ▸ Nat.le_refl 1)
  obtain ⟨q'', p, answer', one, _⟩ := agrees'.popped ⟨[0], Nat.le_refl 1⟩
  have result : p.result = 1 := by
    have same := answer'.symm.trans answer
    rw [(Prod.mk.inj (Option.some.inj same)).2]
  obtain ⟨report, frame, held, out⟩ := one result
  refine ⟨q'', r, p, ?_, answer', result, missed ▸ report, number, accepted, fun some => ?_⟩
  · rw [Steps.exec_cons _ first, ran]
  · obtain ⟨j, rfl⟩ : ∃ j, k = j + 1 := ⟨k - 1, by omega⟩
    rw [number, accepted, List.getElem?_cons_succ,
      List.getElem?_replicate_of_lt (Nat.lt_succ_self j)] at held
    rw [out, ← Option.some.inj held]
    rfl

/-- A push has nowhere to go in a storage smaller than one slot. -/
theorem push_outside {q : FrameQueue β} (slot : 0 < q.slotBytes) (unlocked : q.closed = false)
    (none : q.storage = []) (room : q.count ≠ q.capacity) (frame : List β) :
    q.push frame = Option.none := by
  have kept : q.makeRoom = q := by
    rw [FrameQueue.makeRoom, FrameQueue.isFull, if_neg (by simpa using room)]
  rw [FrameQueue.push, if_neg (by simp [unlocked]; omega)]
  simp only [kept, none, Option.map_eq_none_iff, Blocks.copy, Option.bind_eq_none_iff]
  intro cells loaded
  have length := (Blocks.load_length loaded).1
  rw [Blocks.store, if_neg]
  simp only [length, List.length_nil]
  omega

/-- Two inputs the report does not cover. After 2^64 drops the counter is back
at zero: the first frame returned, numbered 2^64, comes with no drops reported,
and is not the frame numbered 0. And a capacity and slot size whose product
wraps leave `init` a storage that no push fits into. -/
theorem gap_report_limits :
    (∃ (q q' : FrameQueue UInt8) (r : Recorded UInt8) (p : FrameQueue.Popped UInt8),
      FrameQueue.init ⟨2 ^ 63 - 1, fun _ => true, by decide⟩ 1 1 {} = .ok (true, q) ∧
      Steps.exec step { queue := q } (.push ⟨[1], Nat.le_refl 1⟩ ::
        List.replicate (2 ^ 64) (.push (n := 1) ⟨[0], Nat.le_refl 1⟩)) = some r ∧
      r.queue.pop [0] = some (q', p) ∧ p.result = 1 ∧ p.discarded = 0 ∧ r.number = 2 ^ 64 ∧
      p.out = [0] ∧ r.accepted[0]? = some [1]) ∧
    ∃ q : FrameQueue UInt8,
      FrameQueue.init ⟨2 ^ 63 - 1, fun _ => true, by decide⟩ (2 ^ 32) (2 ^ 32) {} = .ok (true, q) ∧
      ∀ frame, q.push frame = none := by
  constructor
  · obtain ⟨q', r, p, ran, answer, result, report, number, accepted, out⟩ :=
      pushes_reported (2 ^ 64)
    refine ⟨_, q', r, p, rfl, ran, answer, result, ?_, number, out (Nat.two_pow_pos 64), ?_⟩
    · rw [report, sizeT, Nat.mod_self]
    · rw [accepted, List.getElem?_cons_zero]
  · refine ⟨{ storage := [], slotBytes := 2 ^ 32, capacity := 2 ^ 32 }, rfl, fun frame => ?_⟩
    exact push_outside (by decide) rfl rfl (by decide) frame

end Recorded
end WebAudioCapture
