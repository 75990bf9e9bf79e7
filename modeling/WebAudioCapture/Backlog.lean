import WebAudioCapture.SessionInvariants

/-!
# Which frame the flags of a reopen mark

The flags belong to the handle and mark whichever frame is drained next. With
frames still queued when they are raised, that is a frame recorded before the
failure.
-/

namespace WebAudioCapture

variable {β : Type}

/-- The frame is marked as following a gap or a reopen. -/
def FrameFlags.marks (flags : FrameFlags) : Bool :=
  flags.has frameDiscontinuity || flags.has frameReinit

/-- A call marks its frame for pending flags or for dropped frames. -/
theorem Reader.flagsFor_marks {r : Reader β} {c : Capture β} {result : Int}
    (h : (r.flagsFor c result).marks = true) : c.pendingFlags ≠ 0 ∨ 0 < r.totalDiscarded := by
  by_cases pending : c.pendingFlags = 0
  · right
    by_cases dropped : 0 < r.totalDiscarded
    · exact dropped
    · unfold flagsFor dropFlag silenceFlags at h
      rw [pending, if_neg dropped] at h
      split at h
      · exact absurd h (by decide)
      · exact absurd h (by decide)
  · exact .inl pending

namespace Session

/-- The stream frame `n` came from, or will come from if it is captured next. -/
def streamAt (s : Session β) (n : Nat) : Option Nat :=
  match s.captured[n]? with
  | some f => some f.stream
  | none => if s.thread.mic.isSome then some s.opens else none

/-- Frame `g` was captured immediately after frame `f` by the same stream. -/
def continues (s : Session β) (f g : Nat) : Bool :=
  g == f + 1 && s.captured[g]?.isSome && s.streamAt f == s.streamAt g

/-- The next frame after `f` comes from another stream. -/
def Broken (s : Session β) (f : Nat) : Prop := s.streamAt f ≠ s.streamAt (f + 1)

/-- The last real frame handed over. -/
def lastReal (s : Session β) : Option Nat := (s.handed.filterMap Handed.frame).getLast?

/-- The last real frame handed over or popped. -/
def lastPopped (s : Session β) : Option Nat :=
  match s.reader.pc.phase with
  | .away => s.lastReal
  | _ => s.held.or s.lastReal

/-- The last real frame whose flags have been drained. -/
def lastSettled (s : Session β) : Option Nat :=
  match s.reader.pc.phase with
  | .drained _ => s.held.or s.lastReal
  | _ => s.lastReal

/-- The real frame that flags raised now will mark, if one is waiting. -/
def inLine (s : Session β) : Option Nat :=
  match s.reader.pc.phase with
  | .undrained => s.held
  | _ => s.nextFrame

/-- Flags raised now mark a frame that continues the one before it. -/
def interrupts (s : Session β) : Bool :=
  match s.lastSettled, s.inLine with
  | some f, some g => s.continues f g
  | _, _ => false

def raising : CapturePc → Bool
  | .flagOpenFailure | .flagReopen | .flagReadFailure => true
  | _ => false

/-- The consumer always asks for the info, and flags are raised only while the
frame next in line does not continue the last one settled. -/
def Clear (s : Session β) : SessionLabel β → Prop
  | .call args => args.info.isSome = true
  | .capture _ => raising s.thread.pc = true → s.interrupts = false
  | _ => True

instance (s : Session β) (l : SessionLabel β) : Decidable (Clear s l) :=
  match l with
  | .call _ => inferInstanceAs (Decidable (_ = true))
  | .capture _ => inferInstanceAs (Decidable (_ → _))
  | .tick _ | .read | .requestStop | .closeQueue | .callback _ => .isTrue trivial

theorem Clear.informed {s : Session β} {l : SessionLabel β} (h : Clear s l) : Informed s l := by
  cases l with
  | call args => exact h
  | _ => trivial

/-- No frame that continues the real frame handed over before it is marked. -/
def Unmarked (s : Session β) : Prop :=
  ∀ (i j f g : Nat) d e, s.handed[i]? = some d → s.handed[j]? = some e → d.frame = some f →
    e.frame = some g → i < j →
    (∀ (k : Nat) m, i < k → k < j → s.handed[k]? = some m → m.frame = none) →
    s.continues f g = true → ∃ info, e.info = some info ∧ info.flags.marks = false

/-- Pending flags and pending drops never fall to a frame that continues the
one before it. -/
structure Guarded (s : Session β) : Prop where
  undrained : s.reader.pc.phase = .undrained → s.capture.pendingFlags ≠ 0 →
    ∀ f, s.lastReal = some f → s.held = some (f + 1) → s.Broken f
  drained : ∀ flags, s.reader.pc.phase = .drained flags → flags.marks = true →
    ∀ f, s.lastReal = some f → s.held = some (f + 1) → s.Broken f
  queued : s.reader.pc.phase ≠ .undrained → s.capture.pendingFlags ≠ 0 →
    ∀ f, s.lastSettled = some f → s.headNumber = f + 1 → s.Broken f
  dropped : 0 < s.capture.queue.dropped → ∀ f, s.lastPopped = some f → f + 1 < s.headNumber
  discarded : s.reader.pc.phase ≠ .away → 0 < s.reader.totalDiscarded →
    ∀ f, s.lastReal = some f → s.held ≠ some (f + 1)
  unpopped : s.reader.isIdle = false → s.reader.pc.phase = .away → s.reader.totalDiscarded = 0

/-! ## Frames handed over -/

theorem lastReal_append (s : Session β) (e : Handed) :
    ((s.handed ++ [e]).filterMap Handed.frame).getLast? = e.frame.or s.lastReal := by
  unfold lastReal
  rw [List.filterMap_append]
  cases real : e.frame with
  | none => simp [real]
  | some n => simp [real]

theorem noteRead_lastReal {s : Session β} {c : Capture β} {r : Reader β} :
    (s.noteRead c r).lastReal =
      if r.pc = .returned 1 then s.heldNext.or s.lastReal else s.lastReal := by
  by_cases done : r.pc = .returned 1
  · rw [if_pos done]
    refine Eq.trans ?_ (lastReal_append s ⟨s.heldNext, r.info, s.opens⟩)
    simp only [lastReal, noteRead, if_pos done]
  · simp only [lastReal, noteRead, if_neg done]

theorem lastReal_lt {s : Session β} (placed : Placed s) {f : Nat} (last : s.lastReal = some f) :
    f < s.headNumber := by
  obtain ⟨e, at_, real⟩ := List.mem_filterMap.mp (List.mem_of_getLast? last)
  exact placed.handed e at_ f real

theorem lastPopped_lt {s : Session β} (placed : Placed s) {f : Nat}
    (last : s.lastPopped = some f) : f < s.headNumber := by
  unfold lastPopped at last
  split at last
  · exact lastReal_lt placed last
  · rename_i on
    obtain held | ⟨_, real⟩ := Option.or_eq_some_iff.mp last
    · exact placed.held (fun away => on away) f held
    · exact lastReal_lt placed real

theorem lastSettled_lt {s : Session β} (placed : Placed s) {f : Nat}
    (last : s.lastSettled = some f) : f < s.headNumber := by
  unfold lastSettled at last
  split at last
  · rename_i drained
    obtain held | ⟨_, real⟩ := Option.or_eq_some_iff.mp last
    · exact placed.held (by rw [drained]; rintro ⟨⟩) f held
    · exact lastReal_lt placed real
  · exact lastReal_lt placed last

/-! ## Steps of the reader -/

section
variable {s : Session β} {c : Capture β} {r : Reader β}

theorem noteRead_going (h : r.pc ≠ .returned 1) : (s.noteRead c r).lastReal = s.lastReal := by
  rw [noteRead_lastReal, if_neg h]

theorem quiet_guarded (h : Guarded s) (busy : s.reader.isIdle = false)
    (queue : c.queue = s.capture.queue) (flags : c.pendingFlags = s.capture.pendingFlags)
    (takes : s.reader.pc.takes = false) (phase : r.pc.phase = s.reader.pc.phase)
    (going : r.pc ≠ .returned 1) (total : r.totalDiscarded = s.reader.totalDiscarded) :
    Guarded (s.noteRead c r) := by
  have held : (s.noteRead c r).held = s.held := noteRead_held takes
  have last : (s.noteRead c r).lastReal = s.lastReal := noteRead_going going
  have head : (s.noteRead c r).headNumber = s.headNumber := noteRead_head queue
  have same : (s.noteRead c r).reader.pc.phase = s.reader.pc.phase := phase
  have settled : (s.noteRead c r).lastSettled = s.lastSettled := by
    unfold lastSettled; rw [same, held, last]
  have popped : (s.noteRead c r).lastPopped = s.lastPopped := by
    unfold lastPopped; rw [same, held, last]
  constructor
  · rw [same, last, held]
    exact fun at_ pending => h.undrained at_ (flags ▸ pending)
  · rw [same, last, held]
    exact h.drained
  · rw [same, settled, head]
    exact fun at_ pending => h.queued at_ (flags ▸ pending)
  · rw [popped, head]
    exact fun some => h.dropped (queue ▸ some)
  · rw [same, last, held]
    exact fun at_ some => h.discarded at_ (total ▸ some)
  · rw [same]
    exact fun _ away => total.trans (h.unpopped busy away)

theorem nothing_guarded (h : Guarded s) (busy : s.reader.isIdle = false)
    (flags : c.pendingFlags = s.capture.pendingFlags) (takes : s.reader.pc.takes = true)
    (empty : s.capture.queue.count = 0) (count : c.queue.count = 0)
    (dropped : c.queue.dropped = 0) (going : r.pc ≠ .returned 1)
    (phase : r.pc.phase = .away ∨ r.pc.phase = .undrained)
    (total : s.reader.totalDiscarded = 0 → r.totalDiscarded = 0) :
    Guarded (s.noteRead c r) := by
  have away := ReadPc.takes_away takes
  have held : (s.noteRead c r).held = none := by
    simp only [noteRead, heldNext, takes, nextFrame, empty, if_true]
  have last : (s.noteRead c r).lastReal = s.lastReal := noteRead_going going
  have head : (s.noteRead c r).headNumber = s.headNumber := by
    simp only [headNumber, noteRead, count, empty]
  constructor
  · rw [held]
    rintro _ _ _ _ ⟨⟩
  · rw [held]
    rintro _ _ _ _ _ ⟨⟩
  · intro at_ pending f
    replace at_ : r.pc.phase ≠ .undrained := at_
    have now : r.pc.phase = .away := phase.resolve_right at_
    have settled : (s.noteRead c r).lastSettled = s.lastSettled := by
      unfold lastSettled
      rw [show (s.noteRead c r).reader.pc.phase = .away from now, away, last]
    rw [settled, head]
    exact h.queued (by rw [away]; rintro ⟨⟩) (flags ▸ pending) f
  · exact fun some => absurd (show 0 < c.queue.dropped from some) (by omega)
  · rw [held]
    rintro _ _ _ _ ⟨⟩
  · exact fun _ _ => total (h.unpopped busy away)

theorem frame_guarded (h : Guarded s) (busy : s.reader.isIdle = false)
    (flags : c.pendingFlags = s.capture.pendingFlags) (takes : s.reader.pc.takes = true)
    (some_ : 0 < s.capture.queue.count) (dropped : c.queue.dropped = 0)
    (phase : r.pc.phase = .undrained)
    (total : s.reader.totalDiscarded = 0 → r.totalDiscarded = sizeT s.capture.queue.dropped) :
    Guarded (s.noteRead c r) := by
  have away := ReadPc.takes_away takes
  have going : r.pc ≠ .returned 1 := by
    intro done
    rw [done] at phase
    cases phase
  have held : (s.noteRead c r).held = some s.headNumber := by
    simp only [noteRead, heldNext, takes, nextFrame, if_true, if_neg (Nat.ne_of_gt some_)]
  have last : (s.noteRead c r).lastReal = s.lastReal := noteRead_going going
  have same : (s.noteRead c r).reader.pc.phase = .undrained := phase
  have settled : s.lastSettled = s.lastReal := by unfold lastSettled; rw [away]
  have popped : s.lastPopped = s.lastReal := by unfold lastPopped; rw [away]
  constructor
  · intro _ pending f real next
    rw [last] at real
    rw [held] at next
    exact h.queued (by rw [away]; rintro ⟨⟩) (flags ▸ pending) f (settled.trans real)
      (Option.some.inj next)
  · rw [same]
    rintro _ ⟨⟩
  · exact fun at_ => absurd same at_
  · exact fun some => absurd (show 0 < c.queue.dropped from some) (by omega)
  · intro _ lost f real next
    rw [last] at real
    rw [held] at next
    have drops : 0 < s.capture.queue.dropped := by
      have lost : 0 < r.totalDiscarded := lost
      rw [total (h.unpopped busy away)] at lost
      apply Nat.pos_of_ne_zero
      intro none
      rw [none] at lost
      exact absurd lost (by decide)
    have gap := h.dropped drops f (popped.trans real)
    have := Option.some.inj next
    omega
  · rw [same]
    rintro _ ⟨⟩

theorem drain_guarded (h : Guarded s) (queue : c.queue = s.capture.queue)
    (flags : c.pendingFlags = 0) (takes : s.reader.pc.takes = false)
    (drains : s.reader.pc.drains = true) {result : Int}
    (phase : r.pc.phase = .drained (s.reader.flagsFor s.capture result))
    (going : r.pc ≠ .returned 1) (total : r.totalDiscarded = s.reader.totalDiscarded) :
    Guarded (s.noteRead c r) := by
  have undrained := ReadPc.drains_undrained drains
  have held : (s.noteRead c r).held = s.held := noteRead_held takes
  have last : (s.noteRead c r).lastReal = s.lastReal := noteRead_going going
  have head : (s.noteRead c r).headNumber = s.headNumber := noteRead_head queue
  have same : (s.noteRead c r).reader.pc.phase = .drained _ := phase
  have popped : (s.noteRead c r).lastPopped = s.lastPopped := by
    unfold lastPopped; rw [same, undrained, held, last]
  have pending : ¬ (s.noteRead c r).capture.pendingFlags ≠ 0 := fun some => some flags
  constructor
  · rw [same]
    rintro ⟨⟩
  · intro drained at_ marks f real next
    rw [same] at at_
    cases at_
    rw [last] at real
    rw [held] at next
    obtain flagged | lost := Reader.flagsFor_marks marks
    · exact h.undrained undrained flagged f real next
    · exact absurd next (h.discarded (by rw [undrained]; rintro ⟨⟩) lost f real)
  · exact fun _ some => absurd some pending
  · rw [popped, head]
    exact fun some => h.dropped (queue ▸ some)
  · intro _ some f
    rw [last, held]
    exact h.discarded (by rw [undrained]; rintro ⟨⟩) (total ▸ some) f
  · rw [same]
    rintro _ ⟨⟩

/-- Handing a frame over, its flags drained now or before. -/
theorem return_guarded (h : Guarded s) (queue : c.queue = s.capture.queue)
    (takes : s.reader.pc.takes = false) (on : s.reader.pc.phase ≠ .away)
    (returned : r.pc = .returned 1)
    (flags : c.pendingFlags = 0 ∨
      c.pendingFlags = s.capture.pendingFlags ∧ s.reader.pc.phase ≠ .undrained) :
    Guarded (s.noteRead c r) := by
  have held : s.heldNext = s.held := by
    simp only [heldNext, takes, Bool.false_eq_true, if_false]
  have last : (s.noteRead c r).lastReal = s.held.or s.lastReal := by
    rw [noteRead_lastReal, if_pos returned, held]
  have head : (s.noteRead c r).headNumber = s.headNumber := noteRead_head queue
  have away : (s.noteRead c r).reader.pc.phase = .away := by
    simp only [noteRead, returned]; rfl
  have popped : (s.noteRead c r).lastPopped = s.lastPopped := by
    unfold lastPopped
    rw [away, last]
    cases at_ : s.reader.pc.phase with
    | away => exact absurd at_ on
    | undrained => rfl
    | drained flags => rfl
  constructor
  · rw [away]
    rintro ⟨⟩
  · rw [away]
    rintro _ ⟨⟩
  · intro _ pending f
    obtain none | ⟨kept, settled⟩ := flags
    · exact absurd none pending
    · have same : (s.noteRead c r).lastSettled = s.lastSettled := by
        unfold lastSettled
        rw [away, last]
        cases at_ : s.reader.pc.phase with
        | away => exact absurd at_ on
        | undrained => exact absurd at_ settled
        | drained flags => rfl
      rw [same, head]
      exact h.queued settled (kept ▸ pending) f
  · rw [popped, head]
    exact fun some => h.dropped (queue ▸ some)
  · exact fun impossible => absurd away impossible
  · intro busy
    simp only [noteRead, Reader.isIdle, returned] at busy
    cases busy

theorem read_guarded (h : Guarded s) (busy : s.reader.isIdle = false)
    (given : r.info.isSome = true) (informed : r.info.isSome = s.reader.info.isSome)
    (effect : ReadEffect s c r) : Guarded (s.noteRead c r) := by
  cases effect with
  | quiet queue flags takes drains phase going total =>
    exact quiet_guarded h busy queue flags takes phase going total
  | nothing flags takes drains empty count dropped phase going total =>
    exact nothing_guarded h busy flags takes empty count dropped going phase total
  | frame flags takes drains some count dropped phase total =>
    obtain undrained | ⟨_, uninformed⟩ := phase
    · exact frame_guarded h busy flags takes some dropped undrained total
    · rw [uninformed] at informed
      rw [informed] at given; cases given
  | drain queue flags takes drains result phase going total =>
    exact drain_guarded h queue flags takes drains phase going total
  | tell queue flags takes drains returned info =>
    refine return_guarded h queue takes ?_ returned (.inl flags)
    rw [ReadPc.drains_undrained drains]; rintro ⟨⟩
  | close drained queue flags takes drains phase returned info =>
    refine return_guarded h queue takes ?_ returned (.inr ⟨flags, ?_⟩)
    · rw [phase]; rintro ⟨⟩
    · rw [phase]; rintro ⟨⟩

end
/-! ## Steps of the capture thread -/

section
variable {s : Session β} {c : Capture β} {t : CaptureThread β}

theorem streamAt_captured {s : Session β} {n : Nat} {f : Recording β}
    (at_ : s.captured[n]? = some f) : s.streamAt n = some f.stream := by
  unfold streamAt
  rw [at_]

theorem streamAt_end {s : Session β} {n : Nat} (past : s.captured.length ≤ n) :
    s.streamAt n = if s.thread.mic.isSome then some s.opens else none := by
  unfold streamAt
  rw [List.getElem?_eq_none past]

/-- The frame after `f`, if it is still to come, is not of the stream of `f`
once that stream has been closed or another opened. -/
theorem broken_end (h : Sound s) {f : Nat} {a : Recording β} (at_ : s.captured[f]? = some a)
    (past : s.captured.length ≤ f + 1)
    (other : s.thread.mic = none ∨ s.thread.pc = .flagReopen) : s.Broken f := by
  unfold Broken
  rw [streamAt_captured at_, streamAt_end past]
  obtain closed | reopening := other
  · rw [closed]; rintro ⟨⟩
  · have older := (h.reopening reopening).2 a (List.mem_of_getElem? at_)
    split
    · intro same
      have := Option.some.inj same
      omega
    · rintro ⟨⟩

/-- A frame the thread may still capture keeps its stream, unless the thread
closes it or opens another. -/
theorem capture_streamAt (effect : CaptureEffect s c t) (n : Nat)
    (last : n = s.captured.length) : (s.noteCapture c t).streamAt n = s.streamAt n ∨
      (s.noteCapture c t).streamAt n = none ∨
        (s.noteCapture c t).streamAt n = some (s.opens + 1) := by
  have past := Nat.le_of_eq last.symm
  have before := streamAt_end past
  cases effect with
  | quiet _ _ note _ _ _ mic =>
    have after := streamAt_end (s := { s with capture := c, thread := t }) past
    rw [note, after, before]
    obtain same | none := mic
    · exact .inl (by rw [same])
    · exact .inr (.inl (by rw [none]; rfl))
  | opened _ _ note _ _ mic =>
    have after := streamAt_end (s := { s with capture := c, thread := t, opens := s.opens + 1 }) past
    rw [note, after]
    exact .inr (.inr (if_pos mic))
  | failed _ _ note _ _ _ _ mic =>
    have after := streamAt_end (s := { s with capture := c, thread := t }) past
    rw [note, after]
    exact .inr (.inl (by rw [mic]; rfl))
  | reopened _ _ note _ _ _ mic =>
    have after := streamAt_end (s := { s with capture := c, thread := t, reopened := true }) past
    rw [note, after, before]
    exact .inl (by rw [mic])
  | pushed _ _ note _ _ _ mic live =>
    rw [before, if_pos live, note]
    left
    by_cases open_ : s.capture.queue.accepts = true
    · refine streamAt_captured (f := ⟨s.opens, s.thread.buffer⟩) ?_
      simp only [open_, if_true, last, List.getElem?_append_right (Nat.le_refl _), Nat.sub_self]
      rfl
    · simp only [open_, Bool.false_eq_true, if_false, streamAt, List.getElem?_eq_none past, mic,
        live, if_true]

/-- A break stays one. -/
theorem capture_broken (h : Sound s) (effect : CaptureEffect s c t) {f : Nat}
    (old : f < s.captured.length) (broken : s.Broken f) : (s.noteCapture c t).Broken f := by
  have same : ∀ n, n < s.captured.length → (s.noteCapture c t).streamAt n = s.streamAt n := by
    intro n lt
    have kept := noteCapture_captured s c t n lt
    rw [streamAt_captured (List.getElem?_eq_getElem lt)]
    exact streamAt_captured (kept.trans (List.getElem?_eq_getElem lt))
  have stream := streamAt_captured (List.getElem?_eq_getElem old)
  have known := h.streams _ (List.getElem_mem old)
  unfold Broken at broken ⊢
  rw [same f old]
  by_cases next : f + 1 < s.captured.length
  · rw [same (f + 1) next]
    exact broken
  · obtain kept | closed | opened := capture_streamAt effect (f + 1) (by omega)
    · rw [kept]
      exact broken
    · rw [closed, stream]
      rintro ⟨⟩
    · rw [opened, stream]
      intro impossible
      have := Option.some.inj impossible
      omega

theorem noteCapture_lastReal : (s.noteCapture c t).lastReal = s.lastReal := by
  unfold lastReal
  rw [noteCapture_handed]

theorem noteCapture_lastSettled : (s.noteCapture c t).lastSettled = s.lastSettled := by
  unfold lastSettled
  rw [noteCapture_reader, noteCapture_held, noteCapture_lastReal]

theorem noteCapture_lastPopped : (s.noteCapture c t).lastPopped = s.lastPopped := by
  unfold lastPopped
  rw [noteCapture_reader, noteCapture_held, noteCapture_lastReal]

/-- A push that makes room discards the frame at the head, and counts it. -/
theorem capture_dropped (h : Sound s) (placed : Placed s) (effect : CaptureEffect s c t)
    (dropped : 0 < s.capture.queue.dropped → ∀ f, s.lastPopped = some f → f + 1 < s.headNumber)
    (some_ : 0 < c.queue.dropped) (f : Nat) (last : s.lastPopped = some f) :
    f + 1 < (s.noteCapture c t).headNumber := by
  have mono := capture_head h effect
  have head := lastPopped_lt placed last
  cases effect with
  | quiet queue => exact Nat.lt_of_lt_of_le (dropped (queue ▸ some_) f last) mono
  | opened queue => exact Nat.lt_of_lt_of_le (dropped (queue ▸ some_) f last) mono
  | failed queue => exact Nat.lt_of_lt_of_le (dropped (queue ▸ some_) f last) mono
  | reopened queue => exact Nat.lt_of_lt_of_le (dropped (queue ▸ some_) f last) mono
  | pushed onto flags note =>
    cases onto with
    | refused closed same => exact Nat.lt_of_lt_of_le (dropped (same ▸ some_) f last) mono
    | added open_ room count kept =>
      exact Nat.lt_of_lt_of_le (dropped (kept ▸ some_) f last) mono
    | replaced open_ full count =>
      have enough := h.enough
      simp only [headNumber] at head
      simp only [note, headNumber, open_, if_true, List.length_append, List.length_singleton,
        count]
      omega

/-- The head moves on only past a frame that was not yet settled. -/
theorem capture_next (h : Sound s) (placed : Placed s) (effect : CaptureEffect s c t) {f : Nat}
    (last : s.lastSettled = some f) (next : (s.noteCapture c t).headNumber = f + 1) :
    s.headNumber = f + 1 := by
  have mono := capture_head h effect
  have head := lastSettled_lt placed last
  omega

/-- Flags that were not pending before are raised while the frame in line does
not continue the last one settled. -/
theorem clear_broken (clear : s.interrupts = false) {f : Nat} (last : s.lastSettled = some f)
    (line : s.inLine = some (f + 1)) (captured : f + 1 < s.captured.length) : s.Broken f := by
  simp only [interrupts, last, line, continues, beq_self_eq_true,
    List.getElem?_eq_getElem captured, Option.isSome_some, Bool.true_and,
    beq_eq_false_iff_ne] at clear
  exact clear

theorem capture_raised (effect : CaptureEffect s c t) :
    c.pendingFlags = s.capture.pendingFlags ∨
      raising s.thread.pc = true ∧ (s.thread.mic = none ∨ s.thread.pc = .flagReopen) := by
  cases effect with
  | quiet _ flags => exact .inl flags
  | opened _ flags => exact .inl flags
  | failed _ _ _ from_ _ _ closed =>
    right
    refine ⟨?_, .inl closed⟩
    obtain at_ | at_ := from_
    · rw [at_]; rfl
    · rw [at_]; rfl
  | reopened _ _ _ from_ =>
    right
    refine ⟨?_, .inr from_⟩
    rw [from_]; rfl
  | pushed _ flags => exact .inl flags

theorem capture_guarded (sound : Sound s) (placed : Placed s) (h : Guarded s)
    (clear : raising s.thread.pc = true → s.interrupts = false) (effect : CaptureEffect s c t) :
    Guarded (s.noteCapture c t) := by
  have within : s.headNumber ≤ s.captured.length := Nat.sub_le _ _
  have kept : ∀ f, f < s.headNumber → s.Broken f → (s.noteCapture c t).Broken f := by
    intro f lt
    exact capture_broken sound effect (Nat.lt_of_lt_of_le lt within)
  constructor
  · rw [noteCapture_reader, noteCapture_capture, noteCapture_lastReal, noteCapture_held]
    intro undrained pending f real next
    apply kept f (lastReal_lt placed real)
    obtain same | ⟨raises, _⟩ := capture_raised effect
    · exact h.undrained undrained (same ▸ pending) f real next
    · have settled : s.lastSettled = some f := by
        unfold lastSettled
        rw [undrained]
        exact real
      have line : s.inLine = some (f + 1) := by
        unfold inLine
        rw [undrained]
        exact next
      have left := placed.held (by rw [undrained]; rintro ⟨⟩) (f + 1) next
      exact clear_broken (clear raises) settled line (Nat.lt_of_lt_of_le left within)
  · rw [noteCapture_reader, noteCapture_lastReal, noteCapture_held]
    intro flags drained marks f real next
    exact kept f (lastReal_lt placed real) (h.drained flags drained marks f real next)
  · rw [noteCapture_reader, noteCapture_capture, noteCapture_lastSettled]
    intro phase pending f settled next
    have head := capture_next sound placed effect settled next
    apply kept f (by omega)
    obtain same | ⟨raises, other⟩ := capture_raised effect
    · exact h.queued phase (same ▸ pending) f settled head
    · have enough := sound.enough
      by_cases empty : s.capture.queue.count = 0
      · have last : f + 1 = s.captured.length := by
          rw [← head, headNumber, empty, Nat.sub_zero]
        have captured := List.getElem?_eq_getElem (show f < s.captured.length by omega)
        exact broken_end sound captured (Nat.le_of_eq last.symm) other
      · have line : s.inLine = some (f + 1) := by
          unfold inLine
          split
          · rename_i undrained
            exact absurd undrained phase
          · rw [nextFrame, if_neg empty, head]
        have waiting : s.headNumber < s.captured.length := by
          unfold headNumber
          omega
        exact clear_broken (clear raises) settled line (head ▸ waiting)
  · rw [noteCapture_capture, noteCapture_lastPopped]
    exact capture_dropped sound placed effect h.dropped
  · rw [noteCapture_reader, noteCapture_lastReal, noteCapture_held]
    exact h.discarded
  · rw [noteCapture_reader]
    exact h.unpopped

end

theorem step_guarded {s t : Session β} {l : SessionLabel β} (sound : Sound s) (placed : Placed s)
    (h : Guarded s) (asked : Asked s) (clear : Clear s l) (effect : StepEffect s t l) :
    Guarded t := by
  cases effect with
  | aside _ c clock queue flags to_ =>
    have same : c.queue.count = s.capture.queue.count ∧
        c.queue.dropped = s.capture.queue.dropped := by
      obtain queue | queue := queue
      · rw [queue]; exact ⟨rfl, rfl⟩
      · rw [queue]; exact ⟨rfl, rfl⟩
    have head : t.headNumber = s.headNumber := by
      rw [to_]
      simp only [headNumber, same.1]
    rw [to_] at head ⊢
    constructor
    · exact fun undrained pending => h.undrained undrained (flags ▸ pending)
    · exact h.drained
    · rw [head]
      exact fun phase pending => h.queued phase (flags ▸ pending)
    · rw [head]
      exact fun lost => h.dropped (same.2 ▸ lost)
    · exact h.discarded
    · exact h.unpopped
  | call args idle to_ =>
    have away := idle_away idle
    have settled : s.lastSettled = s.lastReal := by unfold lastSettled; rw [away]
    have popped : s.lastPopped = s.lastReal := by unfold lastPopped; rw [away]
    rw [to_]
    constructor
    · rintro ⟨⟩
    · rintro _ ⟨⟩
    · intro _ pending f real
      exact h.queued (by rw [away]; rintro ⟨⟩) pending f (settled.trans real)
    · intro lost f real
      exact h.dropped lost f (popped.trans real)
    · exact fun on => absurd rfl on
    · exact fun _ _ => rfl
  | read c r busy counted informed effect to_ =>
    exact to_ ▸ read_guarded h busy (informed.trans (asked busy)) informed effect
  | capture input c th counted consistent effect to_ =>
    exact to_ ▸ capture_guarded sound placed h clear effect

/-! ## The frames handed over -/

/-- The last real frame, found from where it was handed over. -/
theorem lastReal_at {s : Session β} {i f : Nat} {d : Handed} (at_ : s.handed[i]? = some d)
    (real : d.frame = some f)
    (later : ∀ (k : Nat) m, i < k → s.handed[k]? = some m → m.frame = none) :
    s.lastReal = some f := by
  obtain ⟨old, rfl⟩ := List.getElem?_eq_some_iff.mp at_
  have rest : (s.handed.drop (i + 1)).filterMap Handed.frame = [] := by
    refine List.filterMap_eq_nil_iff.mpr fun m mem => ?_
    obtain ⟨k, lt, rfl⟩ := List.mem_iff_getElem.mp mem
    apply later (i + 1 + k) _ (by omega)
    rw [← List.getElem?_drop, List.getElem?_eq_getElem lt]
  unfold lastReal
  rw [← List.take_append_drop i s.handed, List.drop_eq_getElem_cons old, List.filterMap_append,
    List.filterMap_cons_some real, rest, List.getLast?_append]
  rfl

theorem continues_broken {s : Session β} {f g : Nat} (h : s.continues f g = true) :
    g = f + 1 ∧ ¬ s.Broken f := by
  simp only [continues, Bool.and_eq_true, beq_iff_eq] at h
  obtain ⟨⟨rfl, _⟩, same⟩ := h
  exact ⟨rfl, fun broken => broken same⟩

/-- A frame is handed over unmarked if it continues the last real one. -/
theorem handed_unmarked {s : Session β} {c : Capture β} {r : Reader β} (h : Guarded s)
    (given : r.info.isSome = true) (informed : r.info.isSome = s.reader.info.isSome)
    (effect : ReadEffect s c r) (done : r.pc = .returned 1) {f g : Nat}
    (last : s.lastReal = some f) (next : s.heldNext = some g) (follows : s.continues f g = true) :
    ∃ info, r.info = some info ∧ info.flags.marks = false := by
  obtain ⟨rfl, whole⟩ := continues_broken follows
  obtain ⟨info, given'⟩ := Option.isSome_iff_exists.mp given
  refine ⟨info, given', ?_⟩
  apply Bool.eq_false_iff.mpr
  intro marks
  cases effect with
  | quiet _ _ _ _ _ going => exact going done
  | nothing _ _ _ _ _ _ _ going => exact going done
  | frame _ _ _ _ _ _ phase =>
    obtain undrained | ⟨_, uninformed⟩ := phase
    · rw [done] at undrained; cases undrained
    · rw [uninformed] at informed
      rw [informed] at given; cases given
  | drain _ _ _ _ _ _ going => exact going done
  | tell _ _ takes drains _ flags =>
    have undrained := ReadPc.drains_undrained drains
    simp only [heldNext, takes, Bool.false_eq_true, if_false] at next
    rw [flags info given'] at marks
    obtain pending | lost := Reader.flagsFor_marks marks
    · exact whole (h.undrained undrained pending f last next)
    · exact h.discarded (by rw [undrained]; rintro ⟨⟩) lost f last next
  | close drained _ _ takes _ phase _ flags =>
    simp only [heldNext, takes, Bool.false_eq_true, if_false] at next
    rw [flags info given'] at marks
    exact whole (h.drained drained phase marks f last next)

theorem read_unmarked {s : Session β} {c : Capture β} {r : Reader β} (h : Guarded s)
    (given : r.info.isSome = true) (informed : r.info.isSome = s.reader.info.isSome)
    (effect : ReadEffect s c r) (unmarked : Unmarked s) : Unmarked (s.noteRead c r) := by
  intro i j f g d e before at_ real next lt between follows
  replace follows : s.continues f g = true := follows
  by_cases old : j < s.handed.length
  · rw [noteRead_handed_old old] at at_
    rw [noteRead_handed_old (Nat.lt_trans lt old)] at before
    refine unmarked i j f g d e before at_ real next lt (fun k m after sooner here => ?_) follows
    rw [← noteRead_handed_old (c := c) (r := r) (Nat.lt_trans sooner old)] at here
    exact between k m after sooner here
  · obtain ⟨done, last, rfl⟩ := noteRead_handed_new at_ (Nat.le_of_not_lt old)
    rw [noteRead_handed_old (last ▸ lt)] at before
    have real : s.lastReal = some f := by
      apply lastReal_at before real
      intro k m after here
      have sooner := (List.getElem?_eq_some_iff.mp here).1
      refine between k m after (last ▸ sooner) ?_
      rw [noteRead_handed_old sooner, here]
    exact handed_unmarked h given informed effect done real next follows

theorem capture_unmarked {s : Session β} {c : Capture β} {t : CaptureThread β}
    (placed : Placed s) (unmarked : Unmarked s) : Unmarked (s.noteCapture c t) := by
  intro i j f g d e
  rw [noteCapture_handed]
  intro before at_ real next lt between follows
  apply unmarked i j f g d e before at_ real next lt between
  have within : s.headNumber ≤ s.captured.length := Nat.sub_le _ _
  have first := placed.handed d (List.mem_of_getElem? before) f real
  have second := placed.handed e (List.mem_of_getElem? at_) g next
  have kept : ∀ n, n < s.headNumber →
      (s.noteCapture c t).captured[n]? = s.captured[n]? := by
    intro n lt
    exact noteCapture_captured s c t n (Nat.lt_of_lt_of_le lt within)
  have same : ∀ n, n < s.headNumber → (s.noteCapture c t).streamAt n = s.streamAt n := by
    intro n lt
    have at_ := List.getElem?_eq_getElem (Nat.lt_of_lt_of_le lt within)
    rw [streamAt_captured at_, streamAt_captured ((kept n lt).trans at_)]
  unfold continues at follows ⊢
  rwa [kept g second, same f first, same g second] at follows

theorem step_unmarked {s t : Session β} {l : SessionLabel β} (placed : Placed s) (h : Guarded s)
    (asked : Asked s) (unmarked : Unmarked s) (effect : StepEffect s t l) : Unmarked t := by
  cases effect with
  | aside _ c clock queue flags to_ => exact to_ ▸ unmarked
  | call args idle to_ => exact to_ ▸ unmarked
  | read c r busy counted informed effect to_ =>
    exact to_ ▸ read_unmarked h (informed.trans (asked busy)) informed effect unmarked
  | capture input c th counted consistent effect to_ => exact to_ ▸ capture_unmarked placed unmarked

/-- A frame that continues the one handed over before it is not marked, as long
as the flags are raised only while the frame in line continues nothing. -/
theorem mark_after_the_gap [Zero β] (s : Session β) (run : Steps.Reach step Clear Fresh s) :
    Unmarked s := by
  have kept : Unmarked s ∧ Guarded s ∧ Asked s := by
    apply reach_invariant (fun s => Unmarked s ∧ Guarded s ∧ Asked s) ?_ ?_ run
    · rintro s ⟨c, control, target, clock, created, rfl⟩
      obtain ⟨storage, shape, _⟩ := created.shape
      have dropped : c.queue.dropped = 0 := by rw [shape]
      refine ⟨by rintro i j f g d e ⟨⟩, ?_, by rintro ⟨⟩⟩
      constructor
      · rintro ⟨⟩
      · rintro _ ⟨⟩
      · rintro _ _ _ ⟨⟩
      · rintro _ _ ⟨⟩
      · exact fun on => absurd rfl on
      · exact fun _ _ => rfl
    · rintro s l t sound placed ⟨unmarked, guarded, asked⟩ clear effect
      exact ⟨step_unmarked placed guarded asked unmarked effect,
        step_guarded sound placed guarded asked clear effect,
        step_asked clear.informed asked effect⟩
  exact kept.1

/-! ## Two frames of one stream -/

/-- Two frames recorded, the first of them read. -/
def readOneOfTwo : List (SessionLabel UInt8) :=
  openAttempt none ++ recordFrame 5 ++ [.capture .run] ++ recordFrame 6 ++ [.capture .run] ++
    readFirst

/-- The call a period later. -/
def readSecond : List (SessionLabel UInt8) :=
  [.call ⟨some [7, 7], 1, some ⟨0, 0, 0⟩, 1000⟩, .read, .read, .tick 20000, .read, .read, .read,
    .read]

/-- The stream is lost once both have been read: neither is marked. -/
theorem mark_after_the_gap_drained : ∃ s : Session UInt8, Steps.Reach step Clear Fresh s ∧
    s.handed.map Handed.frame = [some 0, some 1] ∧ s.continues 0 1 = true ∧
    s.capture.pendingFlags = reopenFlags ∧
    ∃ e, s.handed[1]? = some e ∧ ∃ info, e.info = some info ∧ info.flags.marks = false := by
  have ran : (Steps.exec step small (readOneOfTwo ++ readSecond ++ loseStream)).map
      (fun s => (s.handed.map Handed.frame, s.continues 0 1, s.capture.pendingFlags)) =
      some ([some 0, some 1], true, reopenFlags) := by rfl
  obtain ⟨s, ran, seen⟩ := Option.map_eq_some_iff.mp ran
  have run : Steps.Reach step Clear Fresh s :=
    Steps.Reach.exec (.start small_fresh) (by decide) ran
  obtain ⟨frames, rest⟩ := Prod.mk.inj seen
  obtain ⟨follows, pending⟩ := Prod.mk.inj rest
  obtain ⟨d, tail, handed, first, more⟩ := List.map_eq_cons_iff.mp frames
  obtain ⟨e, rfl, second⟩ := List.map_eq_singleton_iff.mp more
  refine ⟨s, run, frames, follows, pending, e, by rw [handed]; rfl, ?_⟩
  refine mark_after_the_gap s run 0 1 0 1 d e (by rw [handed]; rfl) (by rw [handed]; rfl) first
    second Nat.zero_lt_one (fun k m after sooner => ?_) follows
  omega

/-- The stream is lost with the second still queued: the second is marked. -/
theorem mark_before_the_gap : ∃ s : Session UInt8, Steps.Reach step Informed Fresh s ∧
    ¬ Unmarked s := by
  have ran : (Steps.exec step small (readOneOfTwo ++ loseStream ++ readSecond)).map
      (fun s => (s.handed.map Handed.frame, s.continues 0 1,
        s.handed.map fun e => e.info.map fun info => info.flags.marks)) =
      some ([some 0, some 1], true, [some false, some true]) := by rfl
  obtain ⟨s, ran, seen⟩ := Option.map_eq_some_iff.mp ran
  obtain ⟨frames, rest⟩ := Prod.mk.inj seen
  obtain ⟨follows, marks⟩ := Prod.mk.inj rest
  obtain ⟨d, tail, handed, first, more⟩ := List.map_eq_cons_iff.mp frames
  obtain ⟨e, rfl, second⟩ := List.map_eq_singleton_iff.mp more
  refine ⟨s, Steps.Reach.exec (.start small_fresh) (by decide) ran, fun unmarked => ?_⟩
  obtain ⟨info, given, clean⟩ := unmarked 0 1 0 1 d e (by rw [handed]; rfl) (by rw [handed]; rfl)
    first second Nat.zero_lt_one (fun k m after sooner => by omega) follows
  rw [handed] at marks
  simp [given, clean] at marks

end Session
end WebAudioCapture
