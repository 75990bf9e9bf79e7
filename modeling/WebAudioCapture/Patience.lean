import WebAudioCapture.Cadence

/-!
# A call with a period of patience

The deadline of a frame is never more than a period away. A call that waits a
millisecond longer than a period has the frame due while it still waits, and so
it does not time out, however early or late it is woken.
-/

namespace WebAudioCapture

variable {β : Type}

/-! ## How long a call sleeps -/

/-- A millisecond more in nanoseconds is one more in microseconds. -/
theorem toMicroseconds_slack {ns : Int} (h : 0 ≤ ns) :
    toMicroseconds (ns + millisecond) = toMicroseconds ns + 1000 := by
  have later : 0 ≤ ns + millisecond := Int.add_nonneg h (by decide)
  rw [toMicroseconds, toMicroseconds, Int.tdiv_eq_ediv_of_nonneg h,
    Int.tdiv_eq_ediv_of_nonneg later]
  simp only [microsecond, millisecond]
  omega

theorem toMicroseconds_mono {ns ns' : Int} (h : ns ≤ ns') : toMicroseconds ns ≤ toMicroseconds ns' :=
  Int.tdiv_le_tdiv (by decide) h

theorem toMicroseconds_nonneg {ns : Int} (h : 0 ≤ ns) : 0 ≤ toMicroseconds ns :=
  Int.tdiv_nonneg h (by decide)

/-- A call whose own deadline is a millisecond after the frame's sleeps until
the frame is due. -/
theorem Reader.sleepFor_patient {r : Reader β} {deadline now : Int} (soon : now < deadline)
    (patient : deadline + millisecond ≤ r.callDeadline) :
    r.sleepFor deadline now = toMicroseconds (deadline - now) + 1000 := by
  have left : 0 ≤ deadline - now := by omega
  have enough : toMicroseconds (deadline - now) + 1000 ≤ toMicroseconds (r.callDeadline - now) := by
    rw [← toMicroseconds_slack left]
    exact toMicroseconds_mono (by omega)
  exact if_neg (Int.not_lt.mpr enough)

theorem Reader.look_patient {r : Reader β} {c : Capture β} {now : Int}
    (fixed : c.config.fixedRate = true)
    (patient : (c.startPacing now).nextDeadline + millisecond ≤ r.callDeadline) :
    r.look c now = (c.startPacing now,
      { r with
        now
        pc := if now < (c.startPacing now).nextDeadline then
            .sleeping (toMicroseconds ((c.startPacing now).nextDeadline - now) + 1000)
          else .due }) := by
  simp only [look, fixed, Bool.not_true, Bool.false_eq_true, if_false]
  split
  · rename_i soon
    have wait : ({ r with now } : Reader β).sleepFor (c.startPacing now).nextDeadline now =
        toMicroseconds ((c.startPacing now).nextDeadline - now) + 1000 := sleepFor_patient soon patient
    have left := toMicroseconds_nonneg (Int.le_of_lt (Int.sub_pos_of_lt soon))
    rw [wait, if_neg (by omega)]
  · rfl

namespace Cadence

/-! ## The deadline and the clock -/

/-- A deadline that is set is at most a period away. -/
def Near (s : Cadence β) : Prop :=
  s.capture.deadlineValid = true → s.capture.nextDeadline ≤ s.clock + s.capture.config.period

theorem step_near [Zero β] {s t : Cadence β} {l : CadenceLabel β} (onTime : OnTime s) (h : Near s)
    (taken : s.step l = some t) : Near t := by
  have nonneg := s.capture.config.period_nonneg
  cases l with
  | tick elapsed =>
    cases taken
    intro valid
    have near := h valid
    dsimp only
    omega
  | call args =>
    simp only [step, Option.map_eq_some_iff] at taken
    obtain ⟨reader, _, rfl⟩ := taken
    exact h
  | others c =>
    simp only [step] at taken
    split at taken
    · rename_i same
      cases taken
      obtain ⟨config, deadline, valid⟩ := same
      simp only [Near, config, deadline, valid]
      exact h
    · cases taken
  | read =>
    simp only [step, Option.map_eq_some_iff] at taken
    obtain ⟨⟨c, r⟩, moved, rfl⟩ := taken
    obtain ⟨_, pace⟩ := read_pace onTime (Reader.step_moves moved)
    cases pace with
    | same pacing pending due =>
      obtain ⟨config, deadline, valid⟩ := pacing
      simp only [Near, note, config, deadline, valid]
      exact h
    | looked shape pending due =>
      intro _
      simp only [note, shape, Capture.startPacing_config]
      unfold Capture.startPacing
      split
      · exact h ‹_›
      · exact Int.le_refl _
    | delivered shape done due =>
      obtain ⟨_, passed, read⟩ := onTime.due due
      intro _
      have moved := Pacer.next_bounds (Int.le_trans passed read) nonneg
      simp only [note, shape]
      exact moved.2.1

theorem Reachable.near [Zero β] {s : Cadence β} (h : Reachable s) : Near s := by
  apply Steps.Reach.invariant Near ?_ ?_ h
  · rintro s ⟨_, unset, _⟩ valid
    rw [unset] at valid
    cases valid
  · intro s l t reached near _ taken
    exact step_near (Reachable.onTime reached) near taken

/-! ## A patient call -/

/-- No new call: what goes on in the one in progress. -/
def Uncalled (_ : Cadence β) : CadenceLabel β → Prop
  | .call _ => False
  | _ => True

/-- A call whose timeout is a millisecond longer than a period, on its way:
once it has its own deadline, that is a millisecond after its frame's. -/
def Patient (s : Cadence β) : Prop :=
  match s.reader.pc with
  | .entered | .admitted => s.capture.config.period + millisecond ≤ s.reader.timeoutMs * millisecond
  | .looping | .sleeping _ => s.capture.nextDeadline + millisecond ≤ s.reader.callDeadline
  | .due | .draining _ | .closing _ => True
  | .returned result => result = 1 ∨ result < 0
  | _ => False

/-- A call on a handle whose pacing has begun. -/
structure Waiting (s : Cadence β) : Prop where
  onTime : OnTime s
  near : Near s
  valid : s.capture.deadlineValid = true
  patient : Patient s

theorem read_patient [Zero β] {s : Cadence β} {c : Capture β} {r : Reader β} (h : Waiting s)
    (stepped : s.reader.step s.capture s.clock = some (c, r)) : Patient (s.note c r) := by
  have place := h.patient
  have nonneg := s.capture.config.period_nonneg
  unfold Patient at place
  cases at_ : s.reader.pc with
  | entered =>
    simp only [Reader.step, at_, Option.some.injEq, Prod.mk.injEq] at stepped place
    obtain ⟨rfl, rfl⟩ := stepped
    unfold Reader.enter
    split
    · exact .inr (by decide)
    · split
      · exact .inr (by decide)
      · split
        · exact .inr (by decide)
        · have forward : ¬s.reader.timeoutMs < 0 := by
            simp only [millisecond] at place
            omega
          simp only [Patient, note, if_neg forward]
          exact place
  | admitted =>
    simp only [Reader.step, at_, Option.some.injEq, Prod.mk.injEq] at stepped place
    obtain ⟨rfl, rfl⟩ := stepped
    have near := h.near h.valid
    simp only [Patient, note]
    omega
  | looping =>
    simp only [Reader.step, at_, Option.some.injEq] at stepped place
    have paced : s.capture.startPacing s.clock = s.capture := if_pos h.valid
    rw [Reader.look_patient h.onTime.fixed (by rw [paced]; exact place), paced] at stepped
    obtain ⟨rfl, rfl⟩ := Prod.mk.inj stepped
    by_cases soon : s.clock < s.capture.nextDeadline
    · simp only [Patient, note, if_pos soon]
      exact place
    · simp only [Patient, note, if_neg soon]
  | sleeping wait =>
    simp only [Reader.step, at_, Option.some.injEq, Prod.mk.injEq] at stepped place
    obtain ⟨rfl, rfl⟩ := stepped
    exact place
  | due =>
    simp only [Reader.step, at_, Option.map_eq_some_iff, Prod.mk.injEq] at stepped
    obtain ⟨⟨d, p⟩, _, rfl, rfl⟩ := stepped
    unfold Reader.took
    split
    · exact .inr (by decide)
    · trivial
  | draining result =>
    simp only [Reader.step, at_, Option.map_eq_some_iff, Prod.mk.injEq] at stepped
    obtain ⟨_, _, rfl, rfl⟩ := stepped
    trivial
  | closing flags =>
    simp only [Reader.step, at_, Option.some.injEq, Prod.mk.injEq] at stepped
    obtain ⟨rfl, rfl⟩ := stepped
    exact .inl rfl
  | idle | returned _ =>
    simp only [Reader.step, at_] at stepped
    cases stepped
  | popping _ | emptyHanded | stamping | reporting _ =>
    rw [at_] at place
    exact place.elim

/-- Pacing that has begun goes on. -/
theorem step_valid [Zero β] {s t : Cadence β} {l : CadenceLabel β} (onTime : OnTime s)
    (valid : s.capture.deadlineValid = true) (taken : s.step l = some t) :
    t.capture.deadlineValid = true := by
  cases l with
  | tick elapsed => cases taken; exact valid
  | call args =>
    simp only [step, Option.map_eq_some_iff] at taken
    obtain ⟨reader, _, rfl⟩ := taken
    exact valid
  | others c =>
    simp only [step] at taken
    split at taken
    · rename_i same
      cases taken
      exact same.2.2.trans valid
    · cases taken
  | read =>
    simp only [step, Option.map_eq_some_iff] at taken
    obtain ⟨⟨c, r⟩, moved, rfl⟩ := taken
    obtain ⟨_, pace⟩ := read_pace onTime (Reader.step_moves moved)
    cases pace with
    | same pacing pending due => exact pacing.2.2.trans valid
    | looked shape pending due =>
      simp only [note, shape]
      exact Capture.startPacing_valid _ _
    | delivered shape done due =>
      simp only [note, shape]
      exact valid

theorem step_waiting [Zero β] {s t : Cadence β} {l : CadenceLabel β} (h : Waiting s)
    (going : Uncalled s l) (taken : s.step l = some t) : Waiting t := by
  refine ⟨step_onTime h.onTime taken, step_near h.onTime h.near taken,
    step_valid h.onTime h.valid taken, ?_⟩
  cases l with
  | tick elapsed => cases taken; exact h.patient
  | call args => cases going
  | others c =>
    simp only [step] at taken
    split at taken
    · rename_i same
      cases taken
      obtain ⟨config, deadline, _⟩ := same
      simp only [Patient, config, deadline]
      exact h.patient
    · cases taken
  | read =>
    simp only [step, Option.map_eq_some_iff] at taken
    obtain ⟨⟨c, r⟩, moved, rfl⟩ := taken
    exact read_patient h moved

/-- Once the pacing of a fixed-rate handle has begun, a call whose timeout is a
period and a millisecond does not return 0, whatever the clock reads, whenever
it is woken and whatever others do meanwhile. -/
theorem never_times_out [Zero β] {s t u : Cadence β} {args : ReadArgs β} (run : Reachable s)
    (paced : s.capture.deadlineValid = true) (called : s.step (.call args) = some t)
    (ample : framePeriod s.capture.config.frameSamples s.capture.config.sampleRate + 1000 ≤
      args.timeoutMs * 1000)
    (later : Steps.Reach step Uncalled (· = t) u) (result : Int)
    (returned : u.reader.pc = .returned result) : result = 1 ∨ result < 0 := by
  have waiting : Waiting u := by
    apply Steps.Reach.invariant Waiting ?_ ?_ later
    · rintro _ rfl
      refine ⟨step_onTime run.onTime called, step_near run.onTime run.near called,
        step_valid run.onTime paced called, ?_⟩
      simp only [step, Reader.call, Option.map_eq_some_iff] at called
      obtain ⟨reader, entered, rfl⟩ := called
      split at entered
      · cases entered
        simp only [Patient, Config.period, microsecond, millisecond]
        omega
      · cases entered
    · intro s l t _ waiting going taken
      exact step_waiting waiting going taken
  have place := waiting.patient
  rw [Patient, returned] at place
  exact place

/-- The small handle, running. -/
def small : Cadence UInt8 := { capture := { smallHandle with running := true }, clock := 0 }

theorem small_fresh : Fresh small := ⟨rfl, rfl, rfl⟩

/-- A call that is handed a frame, the clock moving on a period while it sleeps. -/
def frameAfterPeriod : List (CadenceLabel UInt8) :=
  [.call ⟨some [7, 7], 1, none, 2⟩, .read, .read, .read, .tick 20000, .read, .read, .read, .read,
    .read]

/-- Two milliseconds are patience enough for frames of 20 microseconds. -/
theorem never_times_out_small : ∃ s t u : Cadence UInt8, Reachable s ∧
    s.step (.call ⟨some [7, 7], 1, none, 2⟩) = some t ∧ Steps.Reach step Uncalled (· = t) u ∧
    u.reader.pc = .returned 1 ∧ ((1 : Int) = 1 ∨ (1 : Int) < 0) := by
  obtain ⟨s, t, u, first, called, second, paced, period, returned⟩ : ∃ s t u,
      Steps.exec step small frameAfterPeriod = some s ∧
      s.step (.call ⟨some [7, 7], 1, none, 2⟩) = some t ∧
      Steps.exec step t frameAfterPeriod.tail = some u ∧ s.capture.deadlineValid = true ∧
      framePeriod s.capture.config.frameSamples s.capture.config.sampleRate = 20 ∧
      u.reader.pc = .returned 1 := ⟨_, _, _, rfl, rfl, rfl, rfl, rfl, rfl⟩
  have run : Reachable s := Steps.Reach.exec (.start small_fresh) (Steps.meets_any ..) first
  have later : Steps.Reach step Uncalled (· = t) u := by
    refine Steps.Reach.exec (.start rfl) (Steps.meets_all _ _ ?_) second
    intro l at_ _
    simp only [frameAfterPeriod, List.tail_cons, List.mem_cons, List.not_mem_nil, or_false] at at_
    obtain rfl | rfl | rfl | rfl | rfl | rfl | rfl | rfl | rfl := at_ <;> trivial
  exact ⟨s, t, u, run, called, later, returned,
    never_times_out run paced called (by rw [period]; decide) later 1 returned⟩

end Cadence
end WebAudioCapture
