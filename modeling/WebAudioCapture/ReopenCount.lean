import WebAudioCapture.SessionInvariants

/-!
# How often a reopen is reported

Opening a stream after the first raises the flags of a reopen, and so does
every failure to open or to read one. A drain that comes between a failure and
the reopen reports both.
-/

namespace WebAudioCapture

variable {β : Type}

/-- The flags a call adds leave the reinit flag alone. -/
theorem Reader.flagsFor_reinit {r : Reader β} {c : Capture β} {result : Int}
    (h : c.pendingFlags = 0 ∨ c.pendingFlags = reopenFlags) :
    (r.flagsFor c result).has frameReinit = c.pendingFlags.has frameReinit := by
  unfold flagsFor dropFlag silenceFlags
  obtain none | raised := h
  · rw [none]
    split <;> split <;> decide
  · rw [raised]
    split <;> split <;> decide

def Handed.reinit (e : Handed) : Bool := e.info.any fun i => i.flags.has frameReinit

namespace Session

/-- The reopens flagged so far, the first stream counted in. -/
def raised (s : Session β) : Nat := if s.thread.pc = .flagReopen then s.opens - 1 else s.opens

theorem raised_le (s : Session β) : s.raised ≤ s.opens := by
  unfold raised
  split
  · exact Nat.sub_le _ _
  · exact Nat.le_refl _

/-- A frame about to be handed out with the reinit flag. -/
def reporting (s : Session β) : Nat :=
  match s.reader.pc.phase with
  | .drained flags => if flags.has frameReinit then 1 else 0
  | _ => 0

/-- A reinit flag is drained only if a reopen has raised it since the last
drain, and not failures alone. -/
def Attributed (s : Session β) : SessionLabel β → Prop
  | .read => s.reader.pc.drains = true → s.capture.pendingFlags.has frameReinit = true →
      s.reopened = true
  | _ => True

instance (s : Session β) (l : SessionLabel β) : Decidable (Attributed s l) :=
  match l with
  | .read => inferInstanceAs (Decidable (_ → _))
  | .tick _ | .call _ | .capture _ | .requestStop | .closeQueue | .callback _ => .isTrue trivial

/-- Every report of a reopen answers for a reopen of its own. -/
def Accounted (s : Session β) : Prop :=
  s.handed.countP Handed.reinit + s.reporting + (if s.reopened then 1 else 0) ≤ s.raised - 1

theorem reporting_eq_zero {s : Session β} (h : s.reader.pc.phase = .away ∨
    s.reader.pc.phase = .undrained) : s.reporting = 0 := by
  unfold reporting
  obtain away | undrained := h
  · rw [away]
  · rw [undrained]

theorem reporting_drained {s : Session β} {flags : FrameFlags}
    (h : s.reader.pc.phase = .drained flags) :
    s.reporting = if flags.has frameReinit then 1 else 0 := by
  unfold reporting
  rw [h]

/-- The count of reports after a frame is handed out. -/
theorem reports_append (handed : List Handed) (e : Handed) (flags : FrameFlags)
    (told : ∀ i, e.info = some i → i.flags = flags) :
    (handed ++ [e]).countP Handed.reinit ≤
      handed.countP Handed.reinit + if flags.has frameReinit then 1 else 0 := by
  rw [List.countP_append, List.countP_singleton]
  apply Nat.add_le_add_left
  cases given : e.info with
  | none => simp [Handed.reinit, given]
  | some i => simp [Handed.reinit, given, told i given]

theorem read_accounted {s : Session β} {c : Capture β} {r : Reader β} (h : Sound s)
    (effect : ReadEffect s c r) (informed : r.info.isSome = s.reader.info.isSome)
    (attributed : s.reader.pc.drains = true → s.capture.pendingFlags.has frameReinit = true →
      s.reopened = true) (accounted : Accounted s) : Accounted (s.noteRead c r) := by
  have same : (s.noteRead c r).raised = s.raised := rfl
  have reopened : (s.noteRead c r).reopened = (s.reopened && !s.reader.pc.drains) := rfl
  unfold Accounted at accounted ⊢
  rw [same, reopened]
  cases effect with
  | quiet _ _ takes drains phase going =>
    have reporting : (s.noteRead c r).reporting = s.reporting := by
      unfold Session.reporting noteRead
      rw [phase]
    rw [reporting, drains, Bool.not_false, Bool.and_true]
    simp only [noteRead, if_neg going]
    exact accounted
  | nothing _ takes drains _ _ _ phase going =>
    have before := reporting_eq_zero (.inl (ReadPc.takes_away takes))
    have after : (s.noteRead c r).reporting = 0 := reporting_eq_zero phase
    rw [after, drains, Bool.not_false, Bool.and_true]
    simp only [noteRead, if_neg going]
    omega
  | frame _ takes drains _ _ _ phase =>
    have before := reporting_eq_zero (.inl (ReadPc.takes_away takes))
    rw [drains, Bool.not_false, Bool.and_true]
    obtain undrained | ⟨returned, uninformed⟩ := phase
    · have after : (s.noteRead c r).reporting = 0 := reporting_eq_zero (.inr undrained)
      have going : r.pc ≠ .returned 1 := by
        intro done
        rw [done] at undrained
        cases undrained
      rw [after]
      simp only [noteRead, if_neg going]
      omega
    · have after : (s.noteRead c r).reporting = 0 := by
        apply reporting_eq_zero (.inl ?_)
        simp only [noteRead, returned]
        rfl
      have silent : r.info = none := by
        rw [uninformed] at informed
        simpa using informed
      rw [after]
      simp only [noteRead, returned, if_true, List.countP_append, List.countP_singleton,
        Handed.reinit, silent, Option.any_none, Bool.false_eq_true, if_false]
      omega
  | drain _ _ takes drains result phase going =>
    have before := reporting_eq_zero (.inr (ReadPc.drains_undrained drains))
    have after : (s.noteRead c r).reporting = _ := reporting_drained phase
    rw [Reader.flagsFor_reinit h.flags] at after
    rw [after, drains]
    simp only [noteRead, if_neg going, Bool.not_true, Bool.and_false, Bool.false_eq_true, if_false]
    cases raised : s.capture.pendingFlags.has frameReinit with
    | true =>
      rw [attributed drains raised] at accounted
      simp only [if_true] at accounted ⊢
      omega
    | false => simp only [Bool.false_eq_true, if_false]; omega
  | tell _ _ takes drains returned info =>
    have before := reporting_eq_zero (.inr (ReadPc.drains_undrained drains))
    have after : (s.noteRead c r).reporting = 0 := by
      apply reporting_eq_zero (.inl ?_)
      simp only [noteRead, returned]
      rfl
    have told := reports_append s.handed ⟨s.heldNext, r.info, s.opens⟩ _ info
    rw [Reader.flagsFor_reinit h.flags] at told
    rw [after, drains]
    simp only [noteRead, returned, if_true, Bool.not_true, Bool.and_false, Bool.false_eq_true,
      if_false]
    cases raised : s.capture.pendingFlags.has frameReinit with
    | true =>
      rw [attributed drains raised] at accounted
      simp only [raised, if_true] at accounted told
      omega
    | false =>
      simp only [raised, Bool.false_eq_true, if_false] at told
      omega
  | close drained _ _ takes drains phase returned info =>
    have before := reporting_drained phase
    have after : (s.noteRead c r).reporting = 0 := by
      apply reporting_eq_zero (.inl ?_)
      simp only [noteRead, returned]
      rfl
    have told := reports_append s.handed ⟨s.heldNext, r.info, s.opens⟩ _ info
    rw [after, drains, Bool.not_false, Bool.and_true]
    simp only [noteRead, returned, if_true]
    omega

theorem capture_accounted {s : Session β} {c : Capture β} {t : CaptureThread β} (h : Sound s)
    (effect : CaptureEffect s c t) (accounted : Accounted s) : Accounted (s.noteCapture c t) := by
  have reporting : (s.noteCapture c t).reporting = s.reporting := by
    unfold Session.reporting
    rw [noteCapture_reader]
  unfold Accounted at accounted ⊢
  rw [reporting, noteCapture_handed]
  cases effect with
  | quiet _ _ note from_ pc had mic =>
    simp only [note, raised, if_neg pc, if_neg from_] at accounted ⊢
    exact accounted
  | opened _ _ note closed had mic from_ pc =>
    simp only [note, raised, pc, if_neg from_] at accounted ⊢
    cases first : s.thread.hadStream with
    | true => simpa [first] using accounted
    | false =>
      have none : ¬ 0 < s.opens := fun some => by rw [h.had.mpr some] at first; cases first
      simp only [Bool.false_eq_true, if_false, reduceCtorEq]
      omega
  | failed _ _ note from_ pc had closed mic =>
    have elsewhere : s.thread.pc ≠ .flagReopen := by
      intro at_
      rw [at_] at from_
      obtain impossible | impossible := from_
      · cases impossible
      · cases impossible
    simp only [note, raised, if_neg pc, if_neg elsewhere] at accounted ⊢
    exact accounted
  | reopened _ _ note from_ pc had mic live =>
    have twice := (h.reopening from_).1
    simp only [note, raised, if_neg pc, if_pos from_, if_true] at accounted ⊢
    split at accounted
    · omega
    · omega
  | pushed _ _ note from_ pc had mic live =>
    simp only [note, raised, if_neg pc, if_neg from_] at accounted ⊢
    exact accounted

theorem step_accounted {s t : Session β} {l : SessionLabel β} (h : Sound s)
    (attributed : Attributed s l) (effect : StepEffect s t l) (accounted : Accounted s) :
    Accounted t := by
  cases effect with
  | aside _ c clock queue flags to_ => rw [to_]; exact accounted
  | call args idle to_ =>
    have before := reporting_eq_zero (.inl (idle_away idle))
    rw [to_]
    unfold Accounted at accounted ⊢
    rw [before] at accounted
    exact accounted
  | read c r busy counted informed effect to_ =>
    exact to_ ▸ read_accounted h effect informed attributed accounted
  | capture input c th counted consistent effect to_ =>
    exact to_ ▸ capture_accounted h effect accounted

/-- In every session whose drains each take up a reopen when they report one,
reopens are reported at most as often as streams are opened after the first. -/
theorem reopen_reported_at_most_once [Zero β] (s : Session β)
    (run : Steps.Reach step Attributed Fresh s) :
    s.handed.countP Handed.reinit ≤ s.opens - 1 := by
  have accounted : Accounted s := by
    apply reach_invariant Accounted ?_ ?_ run
    · rintro s ⟨c, control, target, clock, created, rfl⟩
      exact Nat.zero_le _
    · intro s l t sound _ accounted attributed effect
      exact step_accounted sound attributed effect accounted
  have le := raised_le s
  unfold Accounted at accounted
  omega

/-- The stream is lost and opened again, and the next frame says so. -/
theorem reopen_reported_once_lost : ∃ s : Session UInt8,
    Steps.Reach step Attributed Fresh s ∧ s.opens = 2 ∧ s.handed.countP Handed.reinit = 1 ∧
    s.handed.countP Handed.reinit ≤ s.opens - 1 := by
  have ran : (Steps.exec step small
      (openAttempt none ++ loseStream ++ openAttempt none ++ [.capture .run] ++ readFirst)).map
        (fun s => (s.opens, s.handed.countP Handed.reinit)) = some (2, 1) := by rfl
  obtain ⟨s, ran, seen⟩ := Option.map_eq_some_iff.mp ran
  have run : Steps.Reach step Attributed Fresh s :=
    Steps.Reach.exec (.start small_fresh) (by decide) ran
  exact ⟨s, run, congrArg Prod.fst seen, congrArg Prod.snd seen,
    reopen_reported_at_most_once s run⟩

/-- A stream that never opens, and a frame of silence that says it was
reopened. -/
theorem open_failure_reported_as_reopen : ∃ s : Session UInt8,
    Steps.Reach step Informed Fresh s ∧ s.opens = 0 ∧ s.handed.countP Handed.reinit = 1 := by
  have ran : (Steps.exec step small
      (openAttempt (some "busy") ++ [.capture .run] ++ readFirst)).map
        (fun s => (s.opens, s.handed.countP Handed.reinit)) = some (0, 1) := by rfl
  obtain ⟨s, ran, seen⟩ := Option.map_eq_some_iff.mp ran
  exact ⟨s, Steps.Reach.exec (.start small_fresh) (by decide) ran, congrArg Prod.fst seen,
    congrArg Prod.snd seen⟩

end Session
end WebAudioCapture
