import WebAudioCapture.MemorySafety
import WebAudioCapture.Recovery

/-!
# After a stop has been requested

The capture thread finishes what it is at, which may still open a stream and
record a frame, and then leaves: it has a bounded number of steps to take, and
none of them can be refused it, unless it pushes into a queue that was not given
all of its storage.
-/

namespace WebAudioCapture

variable {β : Type}

namespace CapturePc

/-- The most steps a thread has left once a stop has been requested. -/
def left : CapturePc → Nat
  | .finished => 0
  | .notifying => 1
  | .exiting => 2
  | .head | .retrying _ => 3
  | .reresolving | .flagOpenFailure | .flagReadFailure => 4
  | .scheduling => 5
  | .rechecking => 6
  | .pushing => 7
  | .reading => 8
  | .flagReopen => 9
  | .opening _ => 10
  | .publishing _ => 11
  | .resolving => 12

/-- The streams it may still open then, and that its next step may open. -/
def opensLeft : CapturePc → Nat
  | .resolving | .publishing _ | .opening _ => 1
  | _ => 0

def opensNow : CapturePc → Nat
  | .opening _ => 1
  | _ => 0

/-- The frames it may still push then, and that its next step may push. -/
def pushesLeft : CapturePc → Nat
  | .resolving | .publishing _ | .opening _ | .flagReopen | .reading | .pushing => 1
  | _ => 0

def pushesNow : CapturePc → Nat
  | .pushing => 1
  | _ => 0

theorem left_le (pc : CapturePc) : pc.left ≤ 12 := by
  cases pc <;> simp [left]

end CapturePc

namespace CaptureThread

variable {t t' : CaptureThread β} {c c' : Capture β} {now : Int}

/-- Asked to, a thread leaves its loop at the head, and wakes from a delay to. -/
theorem moves_asked (moved : t.Moves c now c' t') (asked : c.stopRequested = true)
    (at_ : t.pc = .head ∨ ∃ until_, t.pc = .retrying until_) : t'.pc = .exiting := by
  cases moved with
  | loop => simp only [goto, top, asked, if_true]
  | retried until_ next _ leads =>
    obtain ⟨_, rfl⟩ | ⟨going, _⟩ := leads
    · rfl
    · rw [asked] at going
      cases going
  | raise next here =>
    obtain ⟨here | here, _⟩ | ⟨here, _⟩ := here
    · simp only [here, reduceCtorEq, exists_false, or_self] at at_
    · simp only [here, reduceCtorEq, exists_false, or_self] at at_
    · simp only [here, reduceCtorEq, exists_false, or_self] at at_
  | unresolved _ _ _ here | resolve _ _ _ _ here | publish _ here | refuse _ _ here
  | openStream _ _ here | read _ here | lose _ _ here | push _ here | check here | schedule here
  | checked _ _ _ _ here | leave here | notify here =>
    simp only [here, reduceCtorEq, exists_false, or_self] at at_

/-- Each step of a thread asked to stop takes it nearer to its end, and past
what it may still open and push. -/
theorem moves_left (moved : t.Moves c now c' t') (asked : c.stopRequested = true) :
    t'.pc.left + 1 ≤ t.pc.left ∧ t'.pc.opensLeft + t.pc.opensNow ≤ t.pc.opensLeft ∧
      t'.pc.pushesLeft + t.pc.pushesNow ≤ t.pc.pushesLeft := by
  have leads := moves_leads moved
  have leaves := moves_asked moved asked
  generalize t.pc = pc at leads leaves ⊢
  generalize t'.pc = pc' at leads leaves ⊢
  cases leads with
  | reopen => cases leaves (.inl rfl)
  | record => cases leaves (.inl rfl)
  | retried until_ late => cases leaves (.inr ⟨until_, rfl⟩)
  | _ =>
    simp [CapturePc.left, CapturePc.opensLeft, CapturePc.opensNow, CapturePc.pushesLeft,
      CapturePc.pushesNow]

/-- A thread asked to stop is never held up, but by what it is waiting for. -/
theorem asked_enabled (consistent : t.Consistent) (asked : c.stopRequested = true)
    (whole : t.pc = .pushing → (c.pushFrame t.buffer).isSome = true) (going : t.pc ≠ .finished) :
    ∃ input, (t.step c now input).isSome = true := by
  unfold step
  cases at_ : t.pc with
  | resolving => exact ⟨.resolve .timedOut .timedOut, rfl⟩
  | reresolving => exact ⟨.resolve .timedOut .timedOut, rfl⟩
  | opening target => exact ⟨.openStream none, rfl⟩
  | reading =>
    have live : t.mic.isSome = true := consistent true (at_ ▸ rfl)
    refine ⟨.read t.buffer none, ?_⟩
    simp only [live, and_self, if_true, Option.isSome_some]
  | pushing => exact ⟨.run, by simpa only [Option.isSome_map] using whole at_⟩
  | retrying until_ => exact ⟨.run, by simp only [asked, if_true, Option.isSome_some]⟩
  | finished => exact absurd at_ going
  | _ => exact ⟨.run, rfl⟩

end CaptureThread

namespace Session

variable {s t u : Session β}

/-- The steps of the capture thread. -/
def noteSteps (_ : Session β) (l : SessionLabel β) (_ : Session β) (steps : Nat) : Nat :=
  match l with
  | .capture _ => steps + 1
  | _ => steps

/-- From `s`, where a stop had been requested, to `t`. -/
structure Winding (s t : Session β) (steps : Nat) : Prop where
  asked : t.capture.stopRequested = true
  steps : steps + t.thread.pc.left ≤ s.thread.pc.left
  opens : t.opens + t.thread.pc.opensLeft ≤ s.opens + s.thread.pc.opensLeft
  captured : ∃ more, t.captured = s.captured ++ more ∧
    more.length + t.thread.pc.pushesLeft ≤ s.thread.pc.pushesLeft ∧
    (s.capture.queue.closed = true → more = [])
  closed : s.capture.queue.closed = true → t.capture.queue.closed = true

/-- The record of a step of the thread. -/
theorem noteCapture_record (s : Session β) (c : Capture β) (th : CaptureThread β) :
    (s.noteCapture c th).opens ≤ s.opens + s.thread.pc.opensNow ∧
      ∃ more, (s.noteCapture c th).captured = s.captured ++ more ∧
        more.length ≤ s.thread.pc.pushesNow ∧ (s.capture.queue.closed = true → more = []) := by
  unfold noteCapture
  split
  · rename_i at_
    rw [at_]
    refine ⟨?_, [], (List.append_nil _).symm, Nat.le_refl _, fun _ => rfl⟩
    dsimp only [CapturePc.opensNow]
    split
    · exact Nat.le_refl _
    · exact Nat.le_succ _
  · rename_i at_
    rw [at_]
    refine ⟨Nat.le_refl _, ?_⟩
    dsimp only
    split
    · rename_i accepted
      refine ⟨[_], rfl, Nat.le_refl _, fun closed => ?_⟩
      simp only [FrameQueue.accepts, closed, Bool.not_true, Bool.false_and,
        Bool.false_eq_true] at accepted
    · exact ⟨[], (List.append_nil _).symm, Nat.zero_le _, fun _ => rfl⟩
  · exact ⟨Nat.le_add_right _ _, [], (List.append_nil _).symm, Nat.zero_le _, fun _ => rfl⟩
  · exact ⟨Nat.le_add_right _ _, [], (List.append_nil _).symm, Nat.zero_le _, fun _ => rfl⟩

theorem step_winding [Zero β] {steps : Nat} {l : SessionLabel β} (h : Winding s t steps)
    (moved : Moves t l u) : Winding s u (noteSteps t l u steps) := by
  obtain ⟨asked, taken, opens, captured, closed⟩ := h
  cases moved with
  | tick elapsed => exact ⟨asked, taken, opens, captured, closed⟩
  | call args idle => exact ⟨asked, taken, opens, captured, closed⟩
  | read c r busy moved =>
    have shut : c.queue.closed = t.capture.queue.closed :=
      (Reader.moves_undisturbed moved).1.closed
    obtain ⟨_, _, _, _, rfl⟩ := Reader.moves_shape moved
    exact ⟨asked, taken, opens, captured, fun before => shut.trans (closed before)⟩
  | capture input c th moved =>
    obtain ⟨nearer, opening, pushing⟩ := CaptureThread.moves_left moved asked
    have same := (CaptureThread.moves_undisturbed moved).1
    obtain ⟨opened, more', recorded, few, none⟩ := noteCapture_record t c th
    obtain ⟨more, since, count, nothing⟩ := captured
    constructor
    · rw [noteCapture_capture]
      exact same.stopRequested.trans asked
    · rw [noteCapture_thread, noteSteps]
      omega
    · rw [noteCapture_thread]
      omega
    · refine ⟨more ++ more', ?_, ?_, ?_⟩
      · rw [recorded, since, List.append_assoc]
      · rw [noteCapture_thread, List.length_append]
        omega
      · intro before
        rw [nothing before, none (closed before)]
        rfl
    · rw [noteCapture_capture]
      exact fun before => same.closed.trans (closed before)
  | requestStop => exact ⟨rfl, taken, opens, captured, closed⟩
  | closeQueue going => exact ⟨asked, taken, opens, captured, fun _ => rfl⟩
  | callback delivery => exact ⟨asked, taken, opens, captured, closed⟩

/-- With all of its storage, the queue takes whatever is pushed. -/
theorem reach_whole [Zero β] (run : Steps.Reach step Steps.Any Roomy s) :
    (s.capture.pushFrame s.thread.buffer).isSome = true := by
  obtain ⟨g, watched⟩ := Steps.Reach.watched Ledger.note {} run
  have conserved : Sound s ∧ Conserved s g := by
    apply Steps.Watched.invariant (fun s g => Sound s ∧ Conserved s g) ?_ ?_ watched
    · intro s roomy
      exact ⟨fresh_sound (roomy_fresh roomy), roomy_conserved roomy⟩
    · rintro s l t g _ ⟨sound, conserved⟩ _ taken
      exact ⟨step_sound sound (step_effect sound.queue sound.thread taken),
        step_conserved conserved sound (step_moves taken)⟩
  have enough : s.capture.queue.slotBytes ≤ s.thread.buffer.length :=
    Nat.le_of_eq (conserved.2.slot.trans conserved.2.buffer.symm)
  obtain ⟨queue, discarded, pushed, _⟩ := conserved.2.queue.push_defined enough
  simp only [Capture.pushFrame, pushed, Option.map_some, Option.isSome_some]

/-- Once a stop has been requested, whatever the other threads do, the capture
thread takes at most twelve more steps, opens at most one more stream and
captures at most one more frame, none if the queue was closed; and until it has
left, it always has a step to take without waiting, if only its pushes go into a
queue with all of its storage. -/
theorem winds_down [Zero β] {p : Session β × Nat}
    (reached : Steps.Reach step Steps.Any Fresh s) (asked : s.capture.stopRequested = true)
    (run : Steps.Watched step noteSteps Steps.Any (· = s) 0 p) :
    p.2 ≤ 12 ∧ p.1.opens ≤ s.opens + 1 ∧
      (∃ more, p.1.captured = s.captured ++ more ∧ more.length ≤ 1 ∧
        (s.capture.queue.closed = true → more = [])) ∧
      (p.1.thread.pc ≠ .finished →
        (p.1.thread.pc = .pushing → Steps.Reach step Steps.Any Roomy s) →
          ∃ input u, p.1.step (.capture input) = some u) := by
  have winding : Winding s p.1 p.2 := by
    apply Steps.Watched.invariant (Winding s) ?_ ?_ run
    · rintro _ rfl
      refine ⟨asked, ?_, Nat.le_refl _, ⟨[], (List.append_nil _).symm, ?_, fun _ => rfl⟩, id⟩
      · rw [Nat.zero_add]
      · rw [List.length_nil, Nat.zero_add]
    · intro t l u steps _ winding _ taken
      exact step_winding winding (step_moves taken)
  obtain ⟨stopped, taken, opens, ⟨more, since, count, none⟩, _⟩ := winding
  have most := s.thread.pc.left_le
  have opening : s.thread.pc.opensLeft ≤ 1 := by
    cases s.thread.pc <;> simp [CapturePc.opensLeft]
  have pushing : s.thread.pc.pushesLeft ≤ 1 := by
    cases s.thread.pc <;> simp [CapturePc.pushesLeft]
  refine ⟨by omega, by omega, ⟨more, since, by omega, none⟩, fun going roomy => ?_⟩
  have sound := reach_sound (reached.trans run.reach)
  have whole : p.1.thread.pc = .pushing →
      (p.1.capture.pushFrame p.1.thread.buffer).isSome = true :=
    fun at_ => reach_whole ((roomy at_).trans run.reach)
  have enabled : ∃ input, (p.1.thread.step p.1.capture p.1.clock input).isSome = true :=
    CaptureThread.asked_enabled sound.thread stopped whole going
  obtain ⟨input, enabled⟩ := enabled
  obtain ⟨⟨c, th⟩, stepped⟩ := Option.isSome_iff_exists.mp enabled
  exact ⟨input, _, capture_steps stepped⟩

/-- Stopped on its way to its first stream, it still opens it and reads a frame,
and leaves without a second one. -/
def lastFrame : List (SessionLabel UInt8) :=
  [.capture (.resolve .timedOut (.rung { ok := true, value := "m" })), .capture .run,
    .capture (.openStream none)] ++ recordFrame 5 ++ List.replicate 2 (.capture .run)

theorem winds_down_once : ∃ (s : Session UInt8) (p : Session UInt8 × Nat),
    Steps.Reach step Steps.Any Roomy s ∧ s.capture.stopRequested = true ∧
    Steps.Watched step noteSteps Steps.Any (· = s) 0 p ∧ p.2 = 8 ∧ p.2 ≤ 12 ∧
    p.1.thread.pc ≠ .finished ∧ p.1.opens = 1 ∧ p.1.opens ≤ s.opens + 1 ∧
    ∃ input u, p.1.step (.capture input) = some u := by
  have first : (Steps.exec step small [.capture .run, .requestStop]).map
      (fun s => s.capture.stopRequested) = some true := by decide +kernel
  obtain ⟨s, begun, asked⟩ := Option.map_eq_some_iff.mp first
  have last : ((Steps.exec step small [.capture .run, .requestStop]).bind fun s =>
      Steps.exec (Steps.watch step noteSteps) (s, 0) lastFrame).map
        (fun p => (p.2, p.1.thread.pc, p.1.opens)) = some (8, .notifying, 1) := by decide +kernel
  rw [begun, Option.bind_some] at last
  obtain ⟨p, ran, end_⟩ := Option.map_eq_some_iff.mp last
  simp only [Prod.mk.injEq] at end_
  obtain ⟨steps, notifying, one⟩ := end_
  have reached : Steps.Reach step Steps.Any Roomy s :=
    .exec (.start small_roomy) (Steps.meets_any ..) begun
  have fresh : Steps.Reach step Steps.Any Fresh s :=
    .exec (.start small_fresh) (Steps.meets_any ..) begun
  have run : Steps.Watched step noteSteps Steps.Any (· = s) 0 p :=
    .exec (.start ⟨rfl, rfl⟩) (Steps.meets_all _ _ fun _ _ _ => trivial) ran
  have going : p.1.thread.pc ≠ .finished := by rw [notifying]; rintro ⟨⟩
  obtain ⟨few, opens, _, on⟩ := winds_down fresh asked run
  exact ⟨s, p, reached, asked, run, steps, few, going, one, opens, on going fun _ => reached⟩

end Session
end WebAudioCapture
