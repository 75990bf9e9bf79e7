import WebAudioCapture.SessionEffects

/-!
# What holds of every session

Whatever the order of its steps and whatever the server answers.
-/

namespace WebAudioCapture

variable {β : Type}

namespace Session

/-- What holds of every session: the queue is counted, the flags are raised
together, and frames come from streams that were opened. -/
structure Sound (s : Session β) : Prop where
  queue : s.capture.queue.Counted
  enough : s.capture.queue.count ≤ s.captured.length
  flags : s.capture.pendingFlags = 0 ∨ s.capture.pendingFlags = reopenFlags
  thread : s.thread.Consistent
  had : s.thread.hadStream = true ↔ 0 < s.opens
  mic : s.thread.mic.isSome = true → 0 < s.opens
  reopening : s.thread.pc = .flagReopen → 2 ≤ s.opens ∧ ∀ f ∈ s.captured, f.stream < s.opens
  streams : ∀ f ∈ s.captured, f.stream ≤ s.opens

/-- The frames handed out, and the one a call holds, have left the queue. -/
structure Placed (s : Session β) : Prop where
  held : s.reader.pc.phase ≠ .away → ∀ n, s.held = some n → n < s.headNumber
  handed : ∀ e ∈ s.handed, ∀ n, e.frame = some n → n < s.headNumber

theorem reopenFlags_raised {flags : FrameFlags} (h : flags = 0 ∨ flags = reopenFlags) :
    flags ||| reopenFlags = reopenFlags := by
  obtain rfl | rfl := h
  · rfl
  · rfl

/-- A step of the reader moves the head of the queue on past the frame it
takes, if it takes one. -/
theorem read_head {s : Session β} {c : Capture β} {r : Reader β} (h : Sound s)
    (effect : ReadEffect s c r) : s.headNumber ≤ (s.noteRead c r).headNumber ∧
      ∀ n, s.reader.pc.takes = true → s.heldNext = some n → n < (s.noteRead c r).headNumber := by
  have enough := h.enough
  have untaken : s.reader.pc.takes = false → ∀ n, s.reader.pc.takes = true → s.heldNext = some n →
      n < (s.noteRead c r).headNumber := by
    intro off n on
    rw [off] at on
    cases on
  cases effect with
  | quiet queue _ takes =>
    exact ⟨by simp only [headNumber, noteRead, queue]; exact Nat.le_refl _, untaken takes⟩
  | nothing _ takes _ empty count =>
    refine ⟨by simp only [headNumber, noteRead, empty, count]; exact Nat.le_refl _, ?_⟩
    intro n _ held
    simp only [heldNext, takes, if_true, nextFrame, empty] at held
    cases held
  | frame _ takes _ some count =>
    refine ⟨by simp only [headNumber, noteRead, count]; omega, ?_⟩
    intro n _ held
    simp only [heldNext, takes, if_true, nextFrame, if_neg (Nat.ne_of_gt some),
      Option.some.injEq] at held
    simp only [headNumber, noteRead, count] at held ⊢
    omega
  | drain queue _ takes =>
    exact ⟨by simp only [headNumber, noteRead, queue]; exact Nat.le_refl _, untaken takes⟩
  | tell queue _ takes =>
    exact ⟨by simp only [headNumber, noteRead, queue]; exact Nat.le_refl _, untaken takes⟩
  | close drained queue _ takes =>
    exact ⟨by simp only [headNumber, noteRead, queue]; exact Nat.le_refl _, untaken takes⟩

/-- The frame a call is left holding has left the queue. -/
theorem read_held {s : Session β} {c : Capture β} {r : Reader β} (h : Sound s)
    (placed : Placed s) (effect : ReadEffect s c r)
    (busy : s.reader.pc.phase ≠ .away ∨ s.reader.pc.takes = true) (n : Nat) (held : s.heldNext = some n) : n < (s.noteRead c r).headNumber := by
  obtain ⟨mono, taken⟩ := read_head h effect
  cases takes : s.reader.pc.takes with
  | true => exact taken n takes held
  | false =>
    obtain away | on := busy
    · simp only [heldNext, takes, Bool.false_eq_true, if_false] at held
      exact Nat.lt_of_lt_of_le (placed.held away n held) mono
    · rw [takes] at on; cases on

theorem read_busy {s : Session β} {c : Capture β} {r : Reader β} (effect : ReadEffect s c r) :
    (r.pc.phase ≠ .away ∨ r.pc = .returned 1) →
      s.reader.pc.phase ≠ .away ∨ s.reader.pc.takes = true := by
  intro after
  cases effect with
  | quiet _ _ _ _ phase going =>
    obtain on | done := after
    · exact .inl (phase ▸ on)
    · exact absurd done going
  | nothing _ takes => exact .inr takes
  | frame _ takes => exact .inr takes
  | drain _ _ _ drains => exact .inl (by rw [ReadPc.drains_undrained drains]; rintro ⟨⟩)
  | tell _ _ _ drains => exact .inl (by rw [ReadPc.drains_undrained drains]; rintro ⟨⟩)
  | close drained _ _ _ _ phase => exact .inl (by rw [phase]; rintro ⟨⟩)

theorem read_sound {s : Session β} {c : Capture β} {r : Reader β} (h : Sound s)
    (counted : c.queue.Counted) (effect : ReadEffect s c r) : Sound (s.noteRead c r) := by
  have enough := h.enough
  have kept : c.queue.count ≤ s.captured.length ∧
      (c.pendingFlags = 0 ∨ c.pendingFlags = reopenFlags) := by
    cases effect with
    | quiet queue flags => rw [queue, flags]; exact ⟨enough, h.flags⟩
    | nothing flags _ _ empty count => rw [flags]; exact ⟨by omega, h.flags⟩
    | frame flags _ _ some count => rw [flags]; exact ⟨by omega, h.flags⟩
    | drain queue flags => rw [queue, flags]; exact ⟨enough, .inl rfl⟩
    | tell queue flags => rw [queue, flags]; exact ⟨enough, .inl rfl⟩
    | close drained queue flags => rw [queue, flags]; exact ⟨enough, h.flags⟩
  exact ⟨counted, kept.1, kept.2, h.thread, h.had, h.mic, h.reopening, h.streams⟩

theorem read_placed {s : Session β} {c : Capture β} {r : Reader β} (h : Sound s)
    (placed : Placed s) (effect : ReadEffect s c r) : Placed (s.noteRead c r) := by
  have mono := (read_head h effect).1
  constructor
  · intro on n held
    exact read_held h placed effect (read_busy effect (.inl on)) n held
  · intro e at_ n real
    simp only [noteRead] at at_
    split at at_
    · rename_i done
      obtain old | new := List.mem_append.mp at_
      · exact Nat.lt_of_lt_of_le (placed.handed e old n real) mono
      · rw [List.mem_singleton.mp new] at real
        exact read_held h placed effect (read_busy effect (.inr done)) n real
    · exact Nat.lt_of_lt_of_le (placed.handed e at_ n real) mono

/-- A step of the capture thread never moves the head of the queue back. -/
theorem capture_head {s : Session β} {c : Capture β} {t : CaptureThread β} (h : Sound s)
    (effect : CaptureEffect s c t) : s.headNumber ≤ (s.noteCapture c t).headNumber := by
  have enough := h.enough
  cases effect with
  | quiet queue _ note => rw [note]; simp only [headNumber, queue]; exact Nat.le_refl _
  | opened queue _ note => rw [note]; simp only [headNumber, queue]; exact Nat.le_refl _
  | failed queue _ note => rw [note]; simp only [headNumber, queue]; exact Nat.le_refl _
  | reopened queue _ note => rw [note]; simp only [headNumber, queue]; exact Nat.le_refl _
  | pushed onto _ note =>
    rw [note]
    cases onto with
    | refused closed same =>
      simp only [headNumber, closed, Bool.false_eq_true, if_false, same]
      exact Nat.le_refl _
    | added open_ room count =>
      simp only [headNumber, open_, if_true, List.length_append, List.length_singleton, count]
      omega
    | replaced open_ full count =>
      simp only [headNumber, open_, if_true, List.length_append, List.length_singleton, count]
      omega

theorem capture_sound {s : Session β} {c : Capture β} {t : CaptureThread β} (h : Sound s)
    (counted : c.queue.Counted) (consistent : t.Consistent) (effect : CaptureEffect s c t) :
    Sound (s.noteCapture c t) := by
  have enough := h.enough
  cases effect with
  | quiet queue flags note from_ pc had mic =>
    rw [note]
    refine ⟨counted, queue ▸ enough, flags ▸ h.flags, consistent, had ▸ h.had, ?_,
      fun at_ => absurd at_ pc, h.streams⟩
    intro live
    obtain same | none := mic
    · exact h.mic (same ▸ live)
    · rw [none] at live; cases live
  | opened queue flags note closed had mic from_ pc =>
    rw [note]
    refine ⟨counted, queue ▸ enough, flags ▸ h.flags, consistent, ?_, fun _ => Nat.succ_pos _, ?_, ?_⟩
    · exact ⟨fun _ => Nat.succ_pos _, fun _ => had⟩
    · intro at_
      have before : s.thread.hadStream = true := by
        cases first : s.thread.hadStream with
        | true => rfl
        | false => rw [pc, first] at at_; cases at_
      have opens := h.had.mp before
      refine ⟨by dsimp only; omega, fun f at_ => ?_⟩
      have := h.streams f at_
      dsimp only
      omega
    · intro f at_
      have := h.streams f at_
      dsimp only
      omega
  | failed queue flags note from_ pc had closed mic =>
    rw [note]
    refine ⟨counted, queue ▸ enough, ?_, consistent, had ▸ h.had, ?_, fun at_ => absurd at_ pc,
      h.streams⟩
    · exact .inr (flags.trans (reopenFlags_raised h.flags))
    · intro live
      rw [mic] at live; cases live
  | reopened queue flags note from_ pc had mic live =>
    rw [note]
    refine ⟨counted, queue ▸ enough, ?_, consistent, had ▸ h.had, fun _ => h.mic live,
      fun at_ => absurd at_ pc, h.streams⟩
    exact .inr (flags.trans (reopenFlags_raised h.flags))
  | pushed onto flags note from_ pc had mic live =>
    rw [note]
    refine ⟨counted, ?_, flags ▸ h.flags, consistent, had ▸ h.had, fun _ => h.mic live,
      fun at_ => absurd at_ pc, ?_⟩
    · cases onto with
      | refused closed same =>
        simp only [closed, Bool.false_eq_true, if_false, same]
        exact enough
      | added open_ room count =>
        simp only [open_, if_true, List.length_append, List.length_singleton, count]
        omega
      | replaced open_ full count =>
        simp only [open_, if_true, List.length_append, List.length_singleton, count]
        omega
    · intro f at_
      dsimp only at at_ ⊢
      split at at_
      · obtain old | new := List.mem_append.mp at_
        · exact h.streams f old
        · obtain rfl := List.mem_singleton.mp new
          exact Nat.le_refl _
      · exact h.streams f at_

section
variable (s : Session β) (c : Capture β) (t : CaptureThread β)

@[simp] theorem noteCapture_capture : (s.noteCapture c t).capture = c := by
  unfold noteCapture; split <;> rfl

@[simp] theorem noteCapture_thread : (s.noteCapture c t).thread = t := by
  unfold noteCapture; split <;> rfl

@[simp] theorem noteCapture_reader : (s.noteCapture c t).reader = s.reader := by
  unfold noteCapture; split <;> rfl

@[simp] theorem noteCapture_held : (s.noteCapture c t).held = s.held := by
  unfold noteCapture; split <;> rfl

@[simp] theorem noteCapture_handed : (s.noteCapture c t).handed = s.handed := by
  unfold noteCapture; split <;> rfl

end

/-- The capture thread changes no recording it has pushed. -/
theorem noteCapture_captured (s : Session β) (c : Capture β) (t : CaptureThread β) (n : Nat)
    (old : n < s.captured.length) : (s.noteCapture c t).captured[n]? = s.captured[n]? := by
  unfold noteCapture
  split
  · rfl
  · dsimp only
    split
    · exact List.getElem?_append_left old
    · rfl
  · rfl
  · rfl

section
variable {s : Session β} {c : Capture β} {r : Reader β}

theorem noteRead_held (h : s.reader.pc.takes = false) : (s.noteRead c r).held = s.held := by
  simp only [noteRead, heldNext, h, Bool.false_eq_true, if_false]

theorem noteRead_head (h : c.queue = s.capture.queue) :
    (s.noteRead c r).headNumber = s.headNumber := by
  simp only [headNumber, noteRead, h]

theorem noteRead_handed_old {i : Nat} (old : i < s.handed.length) :
    (s.noteRead c r).handed[i]? = s.handed[i]? := by
  simp only [noteRead]
  split
  · exact List.getElem?_append_left old
  · rfl

/-- The only frame a step of the reader hands over. -/
theorem noteRead_handed_new {i : Nat} {e : Handed} (at_ : (s.noteRead c r).handed[i]? = some e)
    (new : s.handed.length ≤ i) :
    r.pc = .returned 1 ∧ i = s.handed.length ∧ e = ⟨s.heldNext, r.info, s.opens⟩ := by
  simp only [noteRead] at at_
  split at at_
  · rename_i done
    have last := (List.getElem?_eq_some_iff.mp at_).1
    rw [List.length_append, List.length_singleton] at last
    rw [List.getElem?_append_right new, show i - s.handed.length = 0 by omega] at at_
    cases at_
    exact ⟨done, by omega, rfl⟩
  · have := (List.getElem?_eq_some_iff.mp at_).1
    omega

end

theorem capture_placed {s : Session β} {c : Capture β} {t : CaptureThread β} (h : Sound s)
    (placed : Placed s) (effect : CaptureEffect s c t) : Placed (s.noteCapture c t) := by
  have mono := capture_head h effect
  constructor
  · intro on n held
    rw [noteCapture_reader] at on
    rw [noteCapture_held] at held
    exact Nat.lt_of_lt_of_le (placed.held on n held) mono
  · intro e at_ n real
    rw [noteCapture_handed] at at_
    exact Nat.lt_of_lt_of_le (placed.handed e at_ n real) mono

theorem step_sound {s t : Session β} {l : SessionLabel β} (h : Sound s)
    (effect : StepEffect s t l) : Sound t := by
  cases effect with
  | aside _ c clock queue flags to_ =>
    rw [to_]
    refine ⟨?_, ?_, flags ▸ h.flags, h.thread, h.had, h.mic, h.reopening, h.streams⟩
    · obtain queue | queue := queue
      · exact queue ▸ h.queue
      · exact queue ▸ h.queue.close
    · obtain queue | queue := queue
      · exact queue ▸ h.enough
      · exact queue ▸ h.enough
  | call args idle to_ =>
    rw [to_]
    exact ⟨h.queue, h.enough, h.flags, h.thread, h.had, h.mic, h.reopening, h.streams⟩
  | read c r busy counted informed effect to_ => exact to_ ▸ read_sound h counted effect
  | capture input c th counted consistent effect to_ =>
    exact to_ ▸ capture_sound h counted consistent effect

theorem fresh_sound [Zero β] {s : Session β} (h : Fresh s) : Sound s := by
  obtain ⟨c, control, target, clock, created, rfl⟩ := h
  obtain ⟨storage, shape, _⟩ := created.shape
  have queue : c.queue =
      ⟨storage, c.config.frameBytes, max c.config.queueFrames.toNat 1, 0, 0, 0, false⟩ := by
    rw [shape]
  have flags : c.pendingFlags = 0 := by rw [shape]
  have frames := c.config.queueFrames.toNat_lt
  have head : (start c control target clock).thread.Consistent := by rintro b ⟨⟩
  refine ⟨?_, ?_, .inl flags, head, by simp [start, CaptureThread.spawn], by rintro ⟨⟩, by rintro ⟨⟩,
    by rintro f ⟨⟩⟩
  · simp only [start, Capture.publishFormat, queue]
    exact ⟨by dsimp only; omega, by dsimp only; omega, Nat.zero_le _, by rintro ⟨⟩⟩
  · simp only [start, Capture.publishFormat, queue]
    exact Nat.zero_le _

theorem step_placed {s t : Session β} {l : SessionLabel β} (h : Sound s) (placed : Placed s)
    (effect : StepEffect s t l) : Placed t := by
  cases effect with
  | aside _ c clock queue flags to_ =>
    have head : t.headNumber = s.headNumber := by
      obtain queue | queue := queue
      · simp only [to_, headNumber, queue]
      · simp only [to_, headNumber, queue, FrameQueue.close]
    rw [to_] at head ⊢
    constructor
    · intro on n held
      rw [head]
      exact placed.held on n held
    · intro e at_ n real
      rw [head]
      exact placed.handed e at_ n real
  | call args idle to_ =>
    rw [to_]
    exact ⟨fun on => absurd rfl on, placed.handed⟩
  | read c r busy counted informed effect to_ => exact to_ ▸ read_placed h placed effect
  | capture input c th counted consistent effect to_ => exact to_ ▸ capture_placed h placed effect

theorem fresh_placed [Zero β] {s : Session β} (h : Fresh s) : Placed s := by
  obtain ⟨c, control, target, clock, created, rfl⟩ := h
  exact ⟨fun on => absurd rfl on, by rintro e ⟨⟩⟩

/-- A call in progress has somewhere to put its info. -/
def Asked (s : Session β) : Prop := s.reader.isIdle = false → s.reader.info.isSome = true

theorem step_asked {s t : Session β} {l : SessionLabel β} (informed : Informed s l)
    (asked : Asked s) (effect : StepEffect s t l) : Asked t := by
  cases effect with
  | aside _ c clock queue flags to_ => exact to_ ▸ asked
  | call args idle to_ => exact to_ ▸ fun _ => informed
  | read c r busy counted given effect to_ =>
    rw [to_]
    intro _
    exact given.trans (asked busy)
  | capture input c th counted consistent effect to_ =>
    rw [to_, Asked, noteCapture_reader]
    exact asked

/-- A reader between two calls holds no frame. -/
theorem idle_away {r : Reader β} (idle : r.isIdle = true) : r.pc.phase = .away := by
  unfold Reader.isIdle at idle
  cases at_ : r.pc <;> first | rfl | (rw [at_] at idle; cases idle)

section
variable [Zero β] {ok : Session β → SessionLabel β → Prop} {s : Session β}

theorem reach_sound (h : Steps.Reach step ok Fresh s) : Sound s := by
  apply Steps.Reach.invariant Sound ?_ ?_ h
  · intro s fresh
    exact fresh_sound fresh
  · intro s l t _ sound _ taken
    exact step_sound sound (step_effect sound.queue sound.thread taken)

theorem reach_placed (h : Steps.Reach step ok Fresh s) : Placed s := by
  apply Steps.Reach.invariant Placed ?_ ?_ h
  · intro s fresh
    exact fresh_placed fresh
  · intro s l t reached placed _ taken
    have sound := reach_sound reached
    exact step_placed sound placed (step_effect sound.queue sound.thread taken)

/-- An invariant of sessions may use all of this at each of its steps. -/
theorem reach_invariant (inv : Session β → Prop) (first : ∀ s, Fresh s → inv s)
    (keep : ∀ s l t, Sound s → Placed s → inv s → ok s l → StepEffect s t l → inv t)
    (h : Steps.Reach step ok Fresh s) : inv s := by
  apply Steps.Reach.invariant inv first ?_ h
  intro s l t reached holds meets taken
  have sound := reach_sound reached
  exact keep s l t sound (reach_placed reached) holds meets (step_effect sound.queue sound.thread taken)

end
end Session
end WebAudioCapture
