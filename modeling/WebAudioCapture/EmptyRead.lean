import WebAudioCapture.Consumer

/-!
# A read that delivers nothing

A `pop` clears the drop count whether it finds a frame or not. A call that
comes back empty-handed still takes nothing along, because a queue with drops
pending is full.
-/

namespace WebAudioCapture

variable {β : Type}

/-- A pop that takes no frame leaves the queue and the buffer as they were. -/
theorem FrameQueue.Counted.pop_nothing {q q' : FrameQueue β} {out : List β} {p : Popped β}
    (h : q.Counted) (popped : q.pop out = some (q', p)) (nothing : p.result ≤ 0) :
    q' = q ∧ p.out = out ∧ p.discarded = 0 := by
  by_cases empty : q.count = 0
  · have dropped := h.no_drops empty
    simp only [pop, if_pos empty, Option.some.injEq, Prod.mk.injEq] at popped
    obtain ⟨rfl, rfl⟩ := popped
    refine ⟨?_, rfl, dropped⟩
    rw [← dropped]
  · simp only [pop, if_neg empty, Option.map_eq_some_iff, Prod.mk.injEq] at popped
    obtain ⟨filled, _, _, rfl⟩ := popped
    exact absurd (show (1 : Int) ≤ 0 from nothing) (by decide)

/-- What the reader shares, left as it was: the queue with its drop count, the
pending flags and a deadline once it is set. -/
structure Capture.Kept (c c' : Capture β) : Prop where
  queue : c'.queue = c.queue
  flags : c'.pendingFlags = c.pendingFlags
  deadline : c.deadlineValid = true → c'.deadlineValid = true ∧ c'.nextDeadline = c.nextDeadline

theorem Capture.Kept.refl (c : Capture β) : c.Kept c := ⟨rfl, rfl, fun set => ⟨set, rfl⟩⟩

theorem Capture.startPacing_kept (c : Capture β) (now : Int) : c.Kept (c.startPacing now) := by
  unfold startPacing
  split
  · exact .refl c
  · rename_i unset
    exact ⟨rfl, rfl, fun set => absurd set unset⟩

/-- Where a call has nothing in hand. -/
def ReadPc.emptyHeld : ReadPc → Bool
  | .draining _ | .closing _ | .stamping | .reporting _ => false
  | .returned result => decide (result ≤ 0)
  | _ => true

namespace Reader

/-- A step of a call that still has nothing in hand. -/
structure TakesNothing (c : Capture β) (r : Reader β) (c' : Capture β) (r' : Reader β) : Prop where
  before : r.pc.emptyHeld = true
  kept : c.Kept c'
  dst : r'.dst = r.dst
  info : r'.info = r.info
  total : r.totalDiscarded = 0 → r'.totalDiscarded = 0
  due : r'.pc = .due → c.config.fixedRate = true

theorem pop_takesNothing {c c' : Capture β} {r : Reader β} {p : FrameQueue.Popped β}
    (counted : c.queue.Counted) (popped : r.pop c = some (c', p)) (nothing : p.result ≤ 0) :
    c.Kept c' ∧ some p.out = r.dst ∧ p.discarded = 0 := by
  obtain ⟨dst, queue, given, taken, rfl⟩ := pop_queue popped
  obtain ⟨rfl, out, none⟩ := counted.pop_nothing taken nothing
  exact ⟨.refl c, by rw [given, out], none⟩

theorem moves_takesNothing [Zero β] {c c' : Capture β} {r r' : Reader β} {now : Int}
    (counted : c.queue.Counted) (moved : r.Moves c now c' r') (empty : r'.pc.emptyHeld = true) :
    TakesNothing c r c' r' := by
  cases moved with
  | refuse status at_ refused => exact ⟨at_ ▸ rfl, .refl c, rfl, rfl, id, by rintro ⟨⟩⟩
  | accept timeoutMs at_ running given enough =>
    exact ⟨at_ ▸ rfl, .refl c, rfl, rfl, id, by rintro ⟨⟩⟩
  | begin at_ => exact ⟨at_ ▸ rfl, .refl c, rfl, rfl, id, by rintro ⟨⟩⟩
  | wait at_ pass => exact ⟨at_ ▸ rfl, .refl c, rfl, rfl, id, by rintro ⟨⟩⟩
  | early next at_ fixed soon leads =>
    exact ⟨at_ ▸ rfl, c.startPacing_kept now, rfl, rfl, id, fun _ => fixed⟩
  | reach at_ fixed passed =>
    exact ⟨at_ ▸ rfl, c.startPacing_kept now, rfl, rfl, id, fun _ => fixed⟩
  | again at_ =>
    obtain at_ | ⟨wait, at_⟩ := at_
    · exact ⟨at_ ▸ rfl, .refl c, rfl, rfl, id, by rintro ⟨⟩⟩
    · exact ⟨at_ ▸ rfl, .refl c, rfl, rfl, id, by rintro ⟨⟩⟩
  | expire at_ late => exact ⟨at_ ▸ rfl, .refl c, rfl, rfl, id, by rintro ⟨⟩⟩
  | shut d p at_ popped closed =>
    have kept := (pop_takesNothing counted popped (Int.le_of_lt closed)).1
    obtain at_ | ⟨wait, at_⟩ := at_
    · exact ⟨at_ ▸ rfl, kept, rfl, rfl, id, by rintro ⟨⟩⟩
    · exact ⟨at_ ▸ rfl, kept, rfl, rfl, id, by rintro ⟨⟩⟩
  | popWaiting d p wait at_ popped open_ =>
    by_cases nothing : p.result = 0
    · obtain ⟨kept, out, none⟩ := pop_takesNothing counted popped (Int.le_of_eq nothing)
      have next : r.afterPop p.result = .emptyHanded := if_pos nothing
      rw [next]
      refine ⟨at_ ▸ rfl, kept, out, rfl, fun zero => ?_, by rintro ⟨⟩⟩
      simp only [keep, zero, none]
      rfl
    · simp only [keep, afterPop, if_neg nothing] at empty
      split at empty
      · cases empty
      · cases empty
  | popDue d p at_ popped open_ => cases empty
  | drain result dst at_ filled => cases empty
  | close flags at_ => cases empty
  | stamp at_ => cases empty
  | tell ns at_ => cases empty

end Reader

namespace Consumer

/-- The last call: the memory it was given, and the handle before and after
each of its steps. -/
structure CallRecord (β : Type) where
  dst : Option (List β) := none
  info : Option FrameInfo := none
  steps : List (Capture β × Capture β) := []

def CallRecord.note (s : Consumer β) (l : ConsumerLabel β) (t : Consumer β) (g : CallRecord β) :
    CallRecord β :=
  match l with
  | .call args => { dst := args.dst, info := args.info }
  | .read => { g with steps := g.steps ++ [(s.capture, t.capture)] }
  | _ => g

/-- The call has left everything as it found it. -/
structure Untouched (s : Consumer β) (g : CallRecord β) : Prop where
  dst : s.reader.dst = g.dst
  info : s.reader.info = g.info
  steps : ∀ step ∈ g.steps, step.1.Kept step.2

theorem step_untouched [Zero β] {s t : Consumer β} {l : ConsumerLabel β} {g : CallRecord β}
    (counted : s.capture.queue.Counted) (moved : Moves s l t)
    (h : s.reader.pc.emptyHeld = true → Untouched s g) :
    t.reader.pc.emptyHeld = true → Untouched t (g.note s l t) := by
  cases moved with
  | call args idle => exact fun _ => ⟨rfl, rfl, by rintro _ ⟨⟩⟩
  | read c r moved =>
    intro empty
    have nothing := Reader.moves_takesNothing counted moved empty
    obtain ⟨dst, info, steps⟩ := h nothing.before
    refine ⟨nothing.dst.trans dst, nothing.info.trans info, fun step at_ => ?_⟩
    obtain old | new := List.mem_append.mp at_
    · exact steps step old
    · rw [List.mem_singleton.mp new]
      exact nothing.kept
  | clock now => exact fun empty => ⟨(h empty).dst, (h empty).info, (h empty).steps⟩
  | push frame queue discarded pushed =>
    exact fun empty => ⟨(h empty).dst, (h empty).info, (h empty).steps⟩
  | close => exact fun empty => ⟨(h empty).dst, (h empty).info, (h empty).steps⟩
  | raise => exact fun empty => ⟨(h empty).dst, (h empty).info, (h empty).steps⟩
  | aside c => exact fun empty => ⟨(h empty).dst, (h empty).info, (h empty).steps⟩

/-- A call that returns 0 or an error has left the caller's memory as it was,
and none of its steps has touched the queue, its drop count, the pending flags
or a deadline already set, whatever others did in between. -/
theorem empty_read_consumes_nothing [Zero β] (p : Consumer β × CallRecord β)
    (run : Steps.Watched step CallRecord.note Steps.Any Fresh {} p) (result : Int)
    (returned : p.1.reader.pc = .returned result) (nothing : result ≤ 0) :
    p.1.reader.dst = p.2.dst ∧ p.1.reader.info = p.2.info ∧
      ∀ step ∈ p.2.steps, step.1.Kept step.2 := by
  have untouched : p.1.reader.pc.emptyHeld = true → Untouched p.1 p.2 := by
    apply Steps.Watched.invariant
      (fun s g => s.reader.pc.emptyHeld = true → Untouched s g) ?_ ?_ run
    · rintro s ⟨c, other, clock, created, rfl⟩ _
      exact ⟨rfl, rfl, by rintro _ ⟨⟩⟩
    · intro s l t g reached untouched _ taken
      exact step_untouched (reach_counted reached) (step_moves taken) untouched
  have done := untouched (by rw [returned]; exact decide_eq_true nothing)
  exact ⟨done.dst, done.info, done.steps⟩

/-- With a frame queued and flags pending, a call with no time to spare returns
0 before its frame is due. -/
theorem empty_read_before_its_time : ∃ p : Consumer UInt8 × CallRecord UInt8,
    Steps.Watched step CallRecord.note Steps.Any Fresh {} p ∧
    p.1.reader.pc = .returned 0 ∧ p.1.capture.queue.count = 1 ∧
    p.1.capture.pendingFlags = reopenFlags ∧ p.2.steps.length = 3 ∧
    p.1.reader.dst = p.2.dst ∧ ∀ step ∈ p.2.steps, step.1.Kept step.2 := by
  have ran : (Steps.exec (Steps.watch step CallRecord.note) (small, {})
      [.push [1, 1], .raise, .call ⟨some [7, 7], 1, some ⟨0, 0, 0⟩, 0⟩, .read, .read, .read]).map
      (fun p => (p.1.reader.pc, p.1.capture.queue.count, p.1.capture.pendingFlags,
        p.2.steps.length)) = some (.returned 0, 1, reopenFlags, 3) := by rfl
  obtain ⟨p, ran, seen⟩ := Option.map_eq_some_iff.mp ran
  obtain ⟨returned, count, flags, steps⟩ : _ ∧ _ ∧ _ ∧ _ := by
    simpa only [Prod.mk.injEq] using seen
  have run : Steps.Watched step CallRecord.note Steps.Any Fresh {} p :=
    Steps.Reach.exec (.start ⟨small_fresh, rfl⟩) (Steps.meets_any ..) ran
  obtain ⟨dst, _, kept⟩ := empty_read_consumes_nothing p run 0 returned (Int.le_refl 0)
  exact ⟨p, run, returned, count, flags, steps, dst, kept⟩

end Consumer
end WebAudioCapture
