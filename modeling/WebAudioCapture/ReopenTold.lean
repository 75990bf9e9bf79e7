import WebAudioCapture.ReopenCount

/-!
# No audio of a new stream unannounced

The flags of a reopen are raised before the new stream's first frame is read,
and a call drains the flags after it has popped its frame. So by the time a
frame of the stream is handed over, the reopen has been told of.
-/

namespace WebAudioCapture

variable {β : Type}

/-- The frame carries both flags of a reopen. -/
def Handed.tells (e : Handed) : Bool :=
  e.info.any fun i => i.flags.has frameReinit && i.flags.has frameDiscontinuity

def FrameFlags.tell (flags : FrameFlags) : Bool :=
  flags.has frameReinit && flags.has frameDiscontinuity

/-- A call that drains the flags of a reopen tells of it. -/
theorem Reader.flagsFor_tells {r : Reader β} {c : Capture β} {result : Int}
    (h : c.pendingFlags = reopenFlags) : (r.flagsFor c result).tell = true := by
  unfold flagsFor dropFlag silenceFlags
  rw [h]
  split <;> split <;> decide

namespace Session

/-- Stream `k` has been told of in a frame handed over since it was opened. -/
def Announced (s : Session β) (k : Nat) : Prop :=
  ∃ e ∈ s.handed, k ≤ e.opens ∧ e.tells = true

/-- `settled` is the last reopen a drain has taken up: every reopen up to it
has been announced or is about to be, and every later one is still pending. -/
structure Told (settled : Nat) (s : Session β) : Prop where
  le : settled ≤ s.raised
  pending : settled < s.raised → 2 ≤ s.raised → s.capture.pendingFlags = reopenFlags
  covered : ∀ k, 2 ≤ k → k ≤ settled →
    (∃ flags, s.reader.pc.phase = .drained flags ∧ flags.tell = true) ∨ s.Announced k
  inHand : ∀ flags, s.reader.pc.phase = .drained flags → ∀ n, s.held = some n →
    ∀ f, s.captured[n]? = some f → f.stream ≤ settled

/-- Each frame of a reopened stream that was handed over comes with or after
one that tells of the reopen. -/
def AllTold (s : Session β) : Prop :=
  ∀ (i : Nat) e n f, s.handed[i]? = some e → e.frame = some n → s.captured[n]? = some f →
    2 ≤ f.stream → ∃ j, j ≤ i ∧ ∃ d, s.handed[j]? = some d ∧ f.stream ≤ d.opens ∧ d.tells = true

/-- Frames of the stream being opened are captured after its flags are raised. -/
theorem Sound.captured_raised {s : Session β} (h : Sound s) (f : Recording β)
    (at_ : f ∈ s.captured) : f.stream ≤ s.raised := by
  unfold raised
  split
  · rename_i reopening
    have := (h.reopening reopening).2 f at_
    omega
  · exact h.streams f at_

/-- What a drain leaves to tell of. -/
theorem Told.drained {settled : Nat} {s : Session β} (told : Told settled s)
    (undrained : s.reader.pc.phase = .undrained) (result : Int) (k : Nat) (some : 2 ≤ k)
    (le : k ≤ s.raised) :
    (s.reader.flagsFor s.capture result).tell = true ∨ s.Announced k := by
  by_cases earlier : k ≤ settled
  · obtain ⟨flags, drained, _⟩ | announced := told.covered k some earlier
    · rw [undrained] at drained; cases drained
    · exact .inr announced
  · exact .inl (Reader.flagsFor_tells (told.pending (by omega) (by omega)))

theorem Announced.mono {s t : Session β} {k : Nat} (h : s.Announced k)
    (handed : ∀ e ∈ s.handed, e ∈ t.handed) : t.Announced k := by
  obtain ⟨e, at_, opens, tells⟩ := h
  exact ⟨e, handed e at_, opens, tells⟩

theorem noteRead_mono (s : Session β) (c : Capture β) (r : Reader β) :
    ∀ e ∈ s.handed, e ∈ (s.noteRead c r).handed := by
  intro e at_
  simp only [noteRead]
  split
  · exact List.mem_append_left _ at_
  · exact at_

theorem tells_of_flags {e : Handed} {flags : FrameFlags} (informed : e.info.isSome = true)
    (info : ∀ i, e.info = some i → i.flags = flags) (tell : flags.tell = true) :
    e.tells = true := by
  obtain ⟨i, given⟩ := Option.isSome_iff_exists.mp informed
  simp only [Handed.tells, given, Option.any_some, info i given]
  exact tell

/-- A pop drains nothing, and what it takes along has not been told. -/
theorem Told.popped {settled : Nat} {s : Session β} {c : Capture β} {r : Reader β}
    (told : Told settled s) (flags : c.pendingFlags = s.capture.pendingFlags)
    (takes : s.reader.pc.takes = true) (undrained : ∀ flags, r.pc.phase ≠ .drained flags) :
    Told settled (s.noteRead c r) := by
  refine ⟨told.le, fun lt two => flags.trans (told.pending lt two), ?_, ?_⟩
  · intro k two le
    obtain ⟨drained, at_, _⟩ | announced := told.covered k two le
    · rw [ReadPc.takes_away takes] at at_; cases at_
    · exact .inr (announced.mono (noteRead_mono s c r))
  · exact fun drained at_ => absurd at_ (undrained drained)

theorem read_told {settled : Nat} {s : Session β} {c : Capture β} {r : Reader β} (h : Sound s)
    (told : Told settled s) (given : r.info.isSome = true) (effect : ReadEffect s c r) :
    ∃ settled', Told settled' (s.noteRead c r) := by
  have mono := noteRead_mono s c r
  -- every frame of the queue comes from a stream raised by now
  have known : ∀ (n : Nat) (f : Recording β), s.captured[n]? = some f → f.stream ≤ s.raised :=
    fun n f at_ => h.captured_raised f (List.mem_of_getElem? at_)
  cases effect with
  | quiet _ flags takes drains phase going =>
    refine ⟨settled, told.le, fun lt two => flags.trans (told.pending lt two), ?_, ?_⟩
    · intro k two le
      obtain ⟨drained, at_, tell⟩ | announced := told.covered k two le
      · exact .inl ⟨drained, phase.trans at_, tell⟩
      · exact .inr (announced.mono mono)
    · intro drained at_ n held
      simp only [noteRead, heldNext, takes, Bool.false_eq_true, if_false] at held
      exact told.inHand drained (phase.symm.trans at_) n held
  | nothing flags takes drains _ _ _ phase going =>
    refine ⟨settled, told.popped flags takes fun drained at_ => ?_⟩
    obtain away | undrained := phase
    · rw [away] at at_; cases at_
    · rw [undrained] at at_; cases at_
  | frame flags takes drains _ _ _ phase =>
    refine ⟨settled, told.popped flags takes fun drained at_ => ?_⟩
    obtain undrained | ⟨returned, _⟩ := phase
    · rw [undrained] at at_; cases at_
    · rw [returned] at at_; cases at_
  | drain _ _ takes drains result phase going =>
    refine ⟨s.raised, Nat.le_refl _, fun lt => absurd lt (Nat.lt_irrefl _), ?_, ?_⟩
    · intro k two le
      obtain tell | announced := told.drained (ReadPc.drains_undrained drains) result k two le
      · exact .inl ⟨_, phase, tell⟩
      · exact .inr (announced.mono mono)
    · intro _ _ n _ f at_
      exact known n f at_
  | tell _ _ takes drains returned info =>
    refine ⟨s.raised, Nat.le_refl _, fun lt => absurd lt (Nat.lt_irrefl _), ?_, ?_⟩
    · intro k two le
      obtain tell | announced := told.drained (ReadPc.drains_undrained drains) 1 k two le
      · refine .inr ⟨⟨s.heldNext, r.info, s.opens⟩, ?_, ?_, tells_of_flags given info tell⟩
        · simp only [noteRead, returned, if_true, List.mem_append, List.mem_singleton, or_true]
        · exact Nat.le_trans le (raised_le s)
      · exact .inr (announced.mono mono)
    · intro drained at_
      replace at_ : r.pc.phase = .drained drained := at_
      rw [returned] at at_; cases at_
  | close drained _ flags takes drains phase returned info =>
    refine ⟨settled, told.le, fun lt two => flags.trans (told.pending lt two), ?_, ?_⟩
    · intro k two le
      obtain ⟨flags, at_, tell⟩ | announced := told.covered k two le
      · rw [phase] at at_
        cases at_
        refine .inr ⟨⟨s.heldNext, r.info, s.opens⟩, ?_, ?_, tells_of_flags given info tell⟩
        · simp only [noteRead, returned, if_true, List.mem_append, List.mem_singleton, or_true]
        · exact Nat.le_trans le (Nat.le_trans told.le (raised_le s))
      · exact .inr (announced.mono mono)
    · intro drained at_
      replace at_ : r.pc.phase = .drained drained := at_
      rw [returned] at at_; cases at_

/-- What the capture thread does to the reopens to be told of. -/
theorem capture_pending {settled : Nat} {s : Session β} {c : Capture β} {t : CaptureThread β}
    (h : Sound s) (le : settled ≤ s.raised)
    (pending : settled < s.raised → 2 ≤ s.raised → s.capture.pendingFlags = reopenFlags)
    (effect : CaptureEffect s c t) :
    settled ≤ (s.noteCapture c t).raised ∧
      (settled < (s.noteCapture c t).raised → 2 ≤ (s.noteCapture c t).raised →
        (s.noteCapture c t).capture.pendingFlags = reopenFlags) := by
  cases effect with
  | quiet _ flags note from_ pc =>
    simp only [note, raised, if_neg pc, if_neg from_, flags] at le pending ⊢
    exact ⟨le, pending⟩
  | opened _ flags note closed had mic from_ pc =>
    simp only [note, raised, pc, if_neg from_, flags] at le pending ⊢
    cases first : s.thread.hadStream with
    | true => exact ⟨le, pending⟩
    | false =>
      have none : ¬ 0 < s.opens := fun some => by rw [h.had.mpr some] at first; cases first
      simp only [Bool.false_eq_true, if_false, reduceCtorEq]
      exact ⟨by omega, fun _ two => by omega⟩
  | failed _ flags note from_ pc had closed mic =>
    have elsewhere : s.thread.pc ≠ .flagReopen := by
      intro at_
      rw [at_] at from_
      obtain impossible | impossible := from_
      · cases impossible
      · cases impossible
    simp only [note, raised, if_neg pc, if_neg elsewhere, flags] at le ⊢
    exact ⟨le, fun _ _ => reopenFlags_raised h.flags⟩
  | reopened _ flags note from_ pc =>
    simp only [note, raised, if_neg pc, if_pos from_, flags] at le ⊢
    exact ⟨by omega, fun _ _ => reopenFlags_raised h.flags⟩
  | pushed _ flags note from_ pc =>
    simp only [note, raised, if_neg pc, if_neg from_, flags] at le pending ⊢
    exact ⟨le, pending⟩

theorem capture_told {settled : Nat} {s : Session β} {c : Capture β} {t : CaptureThread β}
    (h : Sound s) (placed : Placed s) (told : Told settled s) (effect : CaptureEffect s c t) :
    Told settled (s.noteCapture c t) := by
  obtain ⟨le, pending⟩ := capture_pending h told.le told.pending effect
  refine ⟨le, pending, ?_, ?_⟩
  · intro k two le
    rw [noteCapture_reader]
    refine (told.covered k two le).imp_right fun announced => announced.mono fun e at_ => ?_
    rw [noteCapture_handed]
    exact at_
  · intro flags drained n held f at_
    rw [noteCapture_reader] at drained
    rw [noteCapture_held] at held
    have left := placed.held (by rw [drained]; rintro ⟨⟩) n held
    rw [noteCapture_captured s c t n (Nat.lt_of_lt_of_le left (Nat.sub_le _ _))] at at_
    exact told.inHand flags drained n held f at_

theorem step_told {settled : Nat} {s t : Session β} {l : SessionLabel β} (h : Sound s)
    (placed : Placed s) (asked : Asked s) (told : Told settled s) (effect : StepEffect s t l) :
    ∃ settled', Told settled' t := by
  cases effect with
  | aside _ c clock queue flags to_ =>
    rw [to_]
    exact ⟨settled, told.le, fun lt two => flags.trans (told.pending lt two), told.covered,
      told.inHand⟩
  | call args idle to_ =>
    rw [to_]
    refine ⟨settled, told.le, told.pending, ?_, by rintro flags ⟨⟩⟩
    intro k two le
    obtain ⟨flags, drained, _⟩ | announced := told.covered k two le
    · rw [idle_away idle] at drained; cases drained
    · exact .inr announced
  | read c r busy counted given effect to_ =>
    exact to_ ▸ read_told h told (given.trans (asked busy)) effect
  | capture input c th counted consistent effect to_ =>
    exact ⟨settled, to_ ▸ capture_told h placed told effect⟩

/-- A frame handed over is told of by itself or by an earlier one. -/
theorem allTold_append {s : Session β} {c : Capture β} {r : Reader β} (all : AllTold s)
    (told : ∀ n f, s.heldNext = some n → s.captured[n]? = some f → 2 ≤ f.stream →
      (⟨s.heldNext, r.info, s.opens⟩ : Handed).tells = true ∧ f.stream ≤ s.opens ∨
        s.Announced f.stream) :
    AllTold (s.noteRead c r) := by
  intro i e n f at_ real captured reopened
  have earlier : ∀ (j : Nat) d, s.handed[j]? = some d →
      (s.noteRead c r).handed[j]? = some d := by
    intro j d at_
    rw [noteRead_handed_old (List.getElem?_eq_some_iff.mp at_).1, at_]
  by_cases old : i < s.handed.length
  · rw [noteRead_handed_old old] at at_
    obtain ⟨j, le, d, at', tells⟩ := all i e n f at_ real captured reopened
    exact ⟨j, le, d, earlier j d at', tells⟩
  · obtain ⟨_, is, rfl⟩ := noteRead_handed_new at_ (Nat.le_of_not_lt old)
    obtain ⟨tells, opens⟩ | ⟨d, at', opens, tells⟩ := told n f real captured reopened
    · exact ⟨i, Nat.le_refl _, _, at_, opens, tells⟩
    · obtain ⟨j, lt, is'⟩ := List.mem_iff_getElem.mp at'
      refine ⟨j, by omega, d, earlier j d ?_, opens, tells⟩
      rw [List.getElem?_eq_getElem lt, is']

theorem read_allTold {settled : Nat} {s : Session β} {c : Capture β} {r : Reader β} (h : Sound s)
    (told : Told settled s) (informed : r.info.isSome = s.reader.info.isSome)
    (given : r.info.isSome = true) (effect : ReadEffect s c r) (all : AllTold s) :
    AllTold (s.noteRead c r) := by
  have going : r.pc ≠ .returned 1 → AllTold (s.noteRead c r) := by
    intro going
    simpa only [AllTold, noteRead, if_neg going] using all
  cases effect with
  | quiet _ _ _ _ _ on => exact going on
  | nothing _ _ _ _ _ _ _ on => exact going on
  | frame _ _ _ _ _ _ phase =>
    obtain undrained | ⟨_, uninformed⟩ := phase
    · apply going
      intro done
      rw [done] at undrained; cases undrained
    · rw [uninformed] at informed
      rw [informed] at given; cases given
  | drain _ _ _ _ _ _ on => exact going on
  | tell _ _ takes drains returned info =>
    apply allTold_append all
    intro n f held at_ reopened
    have known := h.captured_raised f (List.mem_of_getElem? at_)
    obtain tell | announced :=
      told.drained (ReadPc.drains_undrained drains) 1 f.stream reopened known
    · exact .inl ⟨tells_of_flags given info tell, Nat.le_trans known (raised_le s)⟩
    · exact .inr announced
  | close drained _ _ takes drains phase returned info =>
    apply allTold_append all
    intro n f held at_ reopened
    simp only [heldNext, takes, Bool.false_eq_true, if_false] at held
    have le := told.inHand drained phase n held f at_
    obtain ⟨flags, at', tell⟩ | announced := told.covered f.stream reopened le
    · rw [phase] at at'
      cases at'
      exact .inl ⟨tells_of_flags given info tell, Nat.le_trans le (Nat.le_trans told.le (raised_le s))⟩
    · exact .inr announced

theorem step_allTold {settled : Nat} {s t : Session β} {l : SessionLabel β} (h : Sound s)
    (placed : Placed s) (asked : Asked s) (told : Told settled s) (effect : StepEffect s t l)
    (all : AllTold s) : AllTold t := by
  cases effect with
  | aside _ c clock queue flags to_ => exact to_ ▸ all
  | call args idle to_ => exact to_ ▸ all
  | read c r busy counted informed effect to_ =>
    exact to_ ▸ read_allTold h told informed (informed.trans (asked busy)) effect all
  | capture input c th counted consistent effect to_ =>
    rw [to_]
    intro i e n f at_ real captured reopened
    rw [noteCapture_handed] at at_ ⊢
    have left := placed.handed e (List.mem_of_getElem? at_) n real
    rw [noteCapture_captured s c th n (Nat.lt_of_lt_of_le left (Nat.sub_le _ _))] at captured
    exact all i e n f at_ real captured reopened

/-- A reopen is never reported late or lost: a frame of a reopened stream is
handed over with or after a frame that carries both flags of a reopen and was
handed over since that stream was opened. -/
theorem reopen_announced_before_its_audio [Zero β] (s : Session β)
    (run : Steps.Reach step Informed Fresh s) : AllTold s := by
  have told : AllTold s ∧ Asked s ∧ ∃ settled, Told settled s := by
    apply reach_invariant (fun s => AllTold s ∧ Asked s ∧ ∃ settled, Told settled s) ?_ ?_ run
    · rintro s ⟨c, control, target, clock, created, rfl⟩
      exact ⟨by rintro i e n f ⟨⟩, by rintro ⟨⟩, 0, Nat.zero_le _, fun lt => absurd lt (Nat.lt_irrefl 0),
        fun k two le => by omega, by rintro flags ⟨⟩⟩
    · rintro s l t sound placed ⟨all, asked, settled, told⟩ informed effect
      exact ⟨step_allTold sound placed asked told effect all, step_asked informed asked effect,
        step_told sound placed asked told effect⟩
  exact told.1

/-- The first frame of a reopened stream, announced by itself. -/
theorem reopen_announced_at_once : ∃ s : Session UInt8, Steps.Reach step Informed Fresh s ∧
    s.captured = [⟨2, [5, 5]⟩] ∧ (s.handed.map Handed.frame) = [some 0] ∧
    ∃ e, s.handed[0]? = some e ∧ ∃ j, j ≤ 0 ∧ ∃ d, s.handed[j]? = some d ∧ 2 ≤ d.opens ∧
      d.tells = true := by
  have ran : (Steps.exec step small
      (openAttempt none ++ loseStream ++ openAttempt none ++ [.capture .run] ++ recordFrame 5 ++
        readFirst)).map (fun s => (s.captured, s.handed.map Handed.frame)) =
      some ([⟨2, [5, 5]⟩], [some 0]) := by rfl
  obtain ⟨s, ran, seen⟩ := Option.map_eq_some_iff.mp ran
  have run : Steps.Reach step Informed Fresh s :=
    Steps.Reach.exec (.start small_fresh) (by decide) ran
  obtain ⟨captured, frames⟩ := Prod.mk.inj seen
  obtain ⟨e, handed, real⟩ := List.map_eq_singleton_iff.mp frames
  have at_ : s.handed[0]? = some e := by rw [handed]; rfl
  exact ⟨s, run, captured, frames, e, at_,
    reopen_announced_before_its_audio s run 0 e 0 ⟨2, [5, 5]⟩ at_ real (by rw [captured]; rfl)
      (Nat.le_refl 2)⟩

end Session
end WebAudioCapture
