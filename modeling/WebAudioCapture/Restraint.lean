import WebAudioCapture.SessionInvariants
import WebAudioCapture.Sizes
import WebAudioCapture.Lib.Spacing

/-!
# What the capture thread may do without waiting

After a failure it waits out the retry delay, it asks for the default sink once
in a re-check interval, and everything else it does comes after a read. So it
neither spins nor floods the server, whatever the server does.
-/

namespace WebAudioCapture

variable {β : Type}

/-- What a capture thread has done: its steps, the reads that returned, and the
readings of the clock at its failures and its sink checks, the last one first. -/
structure Toil where
  steps : Nat := 0
  reads : Nat := 0
  failures : List Int := []
  checks : List Int := []
  deriving DecidableEq, Repr

/-- A step after which the handle has an error to tell. -/
def CapturePc.fails : CapturePc → CapturePc → Bool
  | .resolving, .retrying _ => true
  | .opening _, .flagOpenFailure => true
  | .reading, .flagReadFailure => true
  | _, _ => false

/-- How many steps it may take before it must read, fail or be done. -/
def CapturePc.allowance : CapturePc → Nat
  | .reading | .finished => 0
  | .flagReopen | .notifying => 1
  | .opening _ | .exiting => 2
  | .publishing _ => 3
  | .resolving => 4
  | .head => 5
  | .reresolving | .retrying _ => 6
  | .scheduling | .flagOpenFailure | .flagReadFailure => 7
  | .rechecking => 8
  | .pushing => 9

namespace Session

def noteToil (s : Session β) (l : SessionLabel β) (t : Session β) (g : Toil) : Toil :=
  match l with
  | .capture _ =>
    { steps := g.steps + 1
      reads := if s.thread.pc = .reading then g.reads + 1 else g.reads
      failures := if s.thread.pc.fails t.thread.pc then s.clock :: g.failures else g.failures
      checks := if s.thread.pc = .scheduling then s.clock :: g.checks else g.checks }
  | _ => g

/-- A step, as the capture thread sees it. -/
inductive Turn (s t : Session β) : SessionLabel β → Prop
  | capture (input : CaptureInput β)
      (moved : s.thread.Moves s.capture s.clock t.capture t.thread) (clock : t.clock = s.clock) :
      Turn s t (.capture input)
  | other (l : SessionLabel β) (unnoted : ∀ g, noteToil s l t g = g) (thread : t.thread = s.thread)
      (config : t.capture.config = s.capture.config)
      (nextSinkCheck : t.capture.nextSinkCheck = s.capture.nextSinkCheck)
      (clock : s.clock ≤ t.clock) : Turn s t l

theorem step_turn [Zero β] {s t : Session β} {l : SessionLabel β} (taken : s.step l = some t) :
    Turn s t l := by
  cases step_moves taken with
  | tick elapsed => exact .other _ (fun _ => rfl) rfl rfl rfl (by dsimp only; omega)
  | call args idle => exact .other _ (fun _ => rfl) rfl rfl rfl (Int.le_refl _)
  | read c r busy moved =>
    obtain ⟨_, _, _, _, rfl⟩ := Reader.moves_shape moved
    exact .other _ (fun _ => rfl) rfl rfl rfl (Int.le_refl _)
  | capture input c th moved =>
    refine .capture input ?_ (by unfold noteCapture; split <;> rfl)
    rw [noteCapture_capture, noteCapture_thread]
    exact moved
  | requestStop => exact .other _ (fun _ => rfl) rfl rfl rfl (Int.le_refl _)
  | closeQueue asked => exact .other _ (fun _ => rfl) rfl rfl rfl (Int.le_refl _)
  | callback delivery => exact .other _ (fun _ => rfl) rfl rfl rfl (Int.le_refl _)

/-! ## The failures -/

/-- One second, in nanoseconds. -/
abbrev retryDelay : Int := reinitDelay * millisecond

/-- How long since the last failure. -/
def Delayed (failures : List Int) (now : Int) : CapturePc → Prop
  | .retrying until_ => Spacing.Rested retryDelay failures until_
  | .flagOpenFailure | .flagReadFailure => True
  | .exiting | .notifying | .finished => True
  | _ => Spacing.Rested retryDelay failures now

structure Retried (s : Session β) (g : Toil) : Prop where
  apart : Spacing.Apart retryDelay g.failures
  past : ∀ e ∈ g.failures, e ≤ s.clock
  delayed : Delayed g.failures s.clock s.thread.pc

theorem retryDelay_nonneg : 0 ≤ retryDelay := by decide

theorem Delayed.later {failures : List Int} {now now' : Int} {pc : CapturePc} (later : now ≤ now')
    (h : Delayed failures now pc) : Delayed failures now' pc := by
  cases pc with
  | retrying until_ => exact h
  | flagOpenFailure | flagReadFailure | exiting | notifying | finished => trivial
  | _ => exact Spacing.Rested.later h later

/-- What a step makes of the failures. -/
theorem leads_delayed {asked : Bool} {now : Int} {pc pc' : CapturePc} {failures : List Int}
    (leads : CaptureThread.Leads asked now pc pc') (apart : Spacing.Apart retryDelay failures)
    (past : ∀ e ∈ failures, e ≤ now) (delayed : Delayed failures now pc) :
    let after := if pc.fails pc' then now :: failures else failures
    Spacing.Apart retryDelay after ∧ Delayed after now pc' := by
  have told : Delayed failures now (.retrying (now + retryDelay)) := by
    intro last at_
    have := past last (List.mem_of_mem_head? at_)
    omega
  have again : Spacing.Rested retryDelay failures now →
      Spacing.Apart retryDelay (now :: failures) := apart.cons retryDelay_nonneg
  cases leads with
  | unresolved =>
    refine ⟨again delayed, fun last at_ => ?_⟩
    cases at_
    exact Int.le_refl _
  | refused target => exact ⟨again delayed, trivial⟩
  | lost => exact ⟨again delayed, trivial⟩
  | refusalTold => exact ⟨apart, told⟩
  | lossTold => exact ⟨apart, told⟩
  | retried until_ late => exact ⟨apart, Spacing.Rested.later delayed late⟩
  | stop | woken | left | notified => exact ⟨apart, trivial⟩
  | _ => exact ⟨apart, delayed⟩

theorem turn_retried {s t : Session β} {g : Toil} {l : SessionLabel β} (turn : Turn s t l)
    (h : Retried s g) : Retried t (noteToil s l t g) := by
  obtain ⟨apart, past, delayed⟩ := h
  cases turn with
  | capture input moved clock =>
    obtain ⟨apart', delayed'⟩ :=
      leads_delayed (CaptureThread.moves_leads moved) apart past delayed
    refine ⟨apart', ?_, by rw [clock]; exact delayed'⟩
    rw [clock]
    intro e at_
    simp only [noteToil] at at_
    split at at_
    · obtain rfl | old := List.mem_cons.mp at_
      · exact Int.le_refl _
      · exact past e old
    · exact past e at_
  | other l unnoted thread config nextSinkCheck clock =>
    rw [unnoted]
    exact ⟨apart, fun e at_ => Int.le_trans (past e at_) clock, thread ▸ delayed.later clock⟩

/-- A session of a fresh handle that began at a reading. -/
def BegunAt [Zero β] (began : Int) (s : Session β) : Prop := Fresh s ∧ s.clock = began

theorem fresh_head [Zero β] {s : Session β} (h : Fresh s) : s.thread.pc = .head := by
  obtain ⟨c, control, target, clock, _, rfl⟩ := h
  rfl

theorem watched_retried [Zero β] {ok : Session β → SessionLabel β → Prop} {began : Int}
    {p : Session β × Toil} (run : Steps.Watched step noteToil ok (BegunAt began) {} p) :
    Retried p.1 p.2 := by
  apply Steps.Watched.invariant Retried ?_ ?_ run
  · intro s ⟨fresh, _⟩
    refine ⟨.nil, nofun, ?_⟩
    rw [fresh_head fresh]
    exact nofun
  · intro s l t g _ retried _ taken
    exact turn_retried (step_turn taken) retried

/-! ## The steps -/

/-- A step uses up allowance, or comes with a read or a failure. -/
theorem leads_allowance {asked : Bool} {now : Int} {pc pc' : CapturePc}
    (leads : CaptureThread.Leads asked now pc pc') :
    1 + pc'.allowance ≤ pc.allowance + (if pc = .reading then 10 else 0) +
      (if pc.fails pc' then 6 else 0) := by
  cases leads <;> simp [CapturePc.allowance, CapturePc.fails]

/-- The steps taken, and those that may still be, are paid for by the reads and
the failures. -/
def Paid (s : Session β) (g : Toil) : Prop :=
  g.steps + s.thread.pc.allowance ≤ 10 * g.reads + 6 * g.failures.length + 5

theorem turn_paid {s t : Session β} {g : Toil} {l : SessionLabel β} (turn : Turn s t l)
    (h : Paid s g) : Paid t (noteToil s l t g) := by
  unfold Paid at h ⊢
  cases turn with
  | capture input moved clock =>
    have spent := leads_allowance (CaptureThread.moves_leads moved)
    simp only [noteToil]
    by_cases reads : s.thread.pc = .reading
    · rw [if_pos reads] at spent ⊢
      by_cases fails : s.thread.pc.fails t.thread.pc = true
      · rw [if_pos fails] at spent ⊢
        rw [List.length_cons]
        omega
      · rw [if_neg fails] at spent ⊢
        omega
    · rw [if_neg reads] at spent ⊢
      by_cases fails : s.thread.pc.fails t.thread.pc = true
      · rw [if_pos fails] at spent ⊢
        rw [List.length_cons]
        omega
      · rw [if_neg fails] at spent ⊢
        omega
  | other l unnoted thread config nextSinkCheck clock => rw [unnoted, thread]; exact h

/-- Nothing a record holds is older than the session. -/
def Recent (began : Int) (s : Session β) (g : Toil) : Prop :=
  began ≤ s.clock ∧ (∀ e ∈ g.failures, began ≤ e) ∧ ∀ e ∈ g.checks, began ≤ e

theorem turn_recent {began : Int} {s t : Session β} {g : Toil} {l : SessionLabel β}
    (turn : Turn s t l) (h : Recent began s g) : Recent began t (noteToil s l t g) := by
  obtain ⟨since, failures, checks⟩ := h
  have noted : ∀ events : List Int, (∀ e ∈ events, began ≤ e) →
      ∀ e ∈ s.clock :: events, began ≤ e := by
    intro events before e at_
    obtain rfl | old := List.mem_cons.mp at_
    · exact since
    · exact before e old
  cases turn with
  | capture input moved clock =>
    refine ⟨clock ▸ since, ?_, ?_⟩
    · simp only [noteToil]
      split
      · exact noted _ failures
      · exact failures
    · simp only [noteToil]
      split
      · exact noted _ checks
      · exact checks
  | other l unnoted thread config nextSinkCheck clock =>
    rw [unnoted]
    exact ⟨Int.le_trans since clock, failures, checks⟩

theorem watched_paid [Zero β] {ok : Session β → SessionLabel β → Prop} {began : Int}
    {p : Session β × Toil} (run : Steps.Watched step noteToil ok (BegunAt began) {} p) :
    Paid p.1 p.2 ∧ Recent began p.1 p.2 := by
  apply Steps.Watched.invariant (fun s g => Paid s g ∧ Recent began s g) ?_ ?_ run
  · intro s ⟨fresh, same⟩
    refine ⟨?_, by omega, nofun, nofun⟩
    rw [Paid, fresh_head fresh]
    decide
  · intro s l t g _ ⟨paid, recent⟩ _ taken
    exact ⟨turn_paid (step_turn taken) paid, turn_recent (step_turn taken) recent⟩

/-- The failures of a session are a second apart, those of its sink checks not
counted, and its capture thread takes ten steps for each read that returned and
six for each second, at most. -/
theorem never_spins [Zero β] {ok : Session β → SessionLabel β → Prop} {began : Int}
    {p : Session β × Toil} (run : Steps.Watched step noteToil ok (BegunAt began) {} p) :
    Spacing.Apart retryDelay p.2.failures ∧
      (p.2.steps : Int) ≤ 10 * p.2.reads + 6 * ((p.1.clock - began) / retryDelay + 1) + 5 := by
  have retried := watched_retried run
  obtain ⟨paid, since, begun, _⟩ := watched_paid run
  have count := retried.apart.count retryDelay_nonneg begun retried.past since
  refine ⟨retried.apart, ?_⟩
  have each : (p.2.failures.length : Int) ≤ (p.1.clock - began) / retryDelay + 1 := by
    have second : retryDelay = 1000000000 := by decide
    rw [second] at count ⊢
    omega
  unfold Paid at paid
  omega

/-- From the head of the loop, a refused stream and the wait that follows. -/
def refusedOnce : List (SessionLabel UInt8) :=
  openAttempt (some "refused") ++ [.capture .run, .tick 1000000000, .capture .run]

theorem never_spins_once : ∃ p : Session UInt8 × Toil,
    Steps.Watched step noteToil Steps.Any (BegunAt 0) {} p ∧ p.2.failures = [1000000000, 0] ∧
    Spacing.Apart retryDelay p.2.failures ∧
      (p.2.steps : Int) ≤ 10 * p.2.reads + 6 * ((p.1.clock - 0) / retryDelay + 1) + 5 := by
  have run : Steps.Watched step noteToil Steps.Any (BegunAt 0) {} _ :=
    .exec (.start (s := (small, {})) ⟨⟨small_fresh, rfl⟩, rfl⟩)
      (Steps.meets_all _ (refusedOnce ++ refusedOnce) fun _ _ _ => trivial) rfl
  exact ⟨_, run, rfl, never_spins run⟩

/-! ## The sink checks -/

end Session

/-- `sink_recheck_ms`, in nanoseconds. -/
def Config.recheckInterval (config : Config) : Int := config.sinkRecheckMs.toNat * millisecond

namespace Session

/-- A check is made once `next_sink_check` has passed, of a sink that is not
pinned, and puts the next one off. -/
structure Rechecked (s : Session β) (g : Toil) : Prop where
  apart : Spacing.Apart s.capture.config.recheckInterval g.checks
  next : Spacing.Rested s.capture.config.recheckInterval g.checks s.capture.nextSinkCheck
  due : s.thread.pc = .scheduling →
    s.capture.nextSinkCheck ≤ s.clock ∧ s.capture.config.requestedSink.isEmpty = true
  unpinned : s.capture.config.requestedSink.isEmpty = false → g.checks = []
  past : ∀ e ∈ g.checks, e ≤ s.clock

/-- What a step makes of the time of the next check. -/
theorem moves_nextSinkCheck {t t' : CaptureThread β} {c c' : Capture β} {now : Int}
    (moved : t.Moves c now c' t') :
    c'.nextSinkCheck = c.nextSinkCheck ∧ t.pc ≠ .scheduling ∨
      c'.nextSinkCheck = now + c.config.recheckInterval := by
  cases moved with
  | openStream target mic at_ source => exact .inr rfl
  | schedule at_ => exact .inr rfl
  | push c' at_ pushed =>
    obtain ⟨_, _, rfl⟩ := Option.map_eq_some_iff.mp pushed
    exact .inl ⟨rfl, by rw [at_]; rintro ⟨⟩⟩
  | raise next at_ =>
    obtain ⟨at_ | at_, _⟩ | ⟨at_, _⟩ := at_
    · exact .inl ⟨rfl, by rw [at_]; rintro ⟨⟩⟩
    · exact .inl ⟨rfl, by rw [at_]; rintro ⟨⟩⟩
    · exact .inl ⟨rfl, by rw [at_]; rintro ⟨⟩⟩
  | loop at_ | unresolved _ _ _ at_ | resolve _ _ _ _ at_ | publish _ at_ | refuse _ _ at_
  | read _ at_ | lose _ _ at_ | check at_ | checked _ _ _ _ at_ | retried _ _ at_ | leave at_
  | notify at_ =>
    exact .inl ⟨rfl, by rw [at_]; rintro ⟨⟩⟩

/-- A check is scheduled when it is due. -/
theorem moves_scheduling {t t' : CaptureThread β} {c c' : Capture β} {now : Int}
    (moved : t.Moves c now c' t') (at_ : t'.pc = .scheduling) :
    c' = c ∧ CaptureThread.sinkCheckDue c now = true := by
  have from_ : t.pc = .rechecking := by
    have leads := CaptureThread.moves_leads moved
    rw [at_] at leads
    generalize t.pc = pc at leads
    cases leads with
    | due => rfl
  cases moved with
  | check here =>
    refine ⟨rfl, ?_⟩
    cases due : CaptureThread.sinkCheckDue c now with
    | true => rfl
    | false =>
      rw [due, if_neg Bool.false_ne_true] at at_
      cases at_
  | raise next here =>
    rw [from_] at here
    obtain ⟨here | here, _⟩ | ⟨here, _⟩ := here
    · cases here
    · cases here
    · cases here
  | loop here | unresolved _ _ _ here | resolve _ _ _ _ here | publish _ here | refuse _ _ here
  | openStream _ _ here | read _ here | lose _ _ here | push _ here | schedule here
  | checked _ _ _ _ here | retried _ _ here | leave here | notify here =>
    rw [from_] at here
    cases here

theorem turn_rechecked {s t : Session β} {g : Toil} {l : SessionLabel β} (turn : Turn s t l)
    (h : Rechecked s g) : Rechecked t (noteToil s l t g) := by
  obtain ⟨apart, next, due, unpinned, past⟩ := h
  have nonneg : 0 ≤ s.capture.config.recheckInterval :=
    Int.mul_nonneg (Int.natCast_nonneg _) (by decide)
  cases turn with
  | capture input moved clock =>
    have config := CaptureThread.moves_config moved
    have now : ∀ e ∈ (noteToil s (.capture input) t g).checks, e ≤ s.clock := by
      intro e at_
      simp only [noteToil] at at_
      split at at_
      · obtain rfl | old := List.mem_cons.mp at_
        · exact Int.le_refl _
        · exact past e old
      · exact past e at_
    refine ⟨?_, ?_, ?_, ?_, clock ▸ now⟩
    · rw [config]
      simp only [noteToil]
      split
      · rename_i scheduling
        exact apart.cons nonneg (next.later (due scheduling).1)
      · exact apart
    · rw [config]
      obtain ⟨same, elsewhere⟩ | put := moves_nextSinkCheck moved
      · rw [same]
        simp only [noteToil, if_neg elsewhere]
        exact next
      · rw [put]
        intro last at_
        have := now last (List.mem_of_mem_head? at_)
        omega
    · intro at_
      obtain ⟨same, dueNow⟩ := moves_scheduling moved at_
      rw [same, clock]
      simp only [CaptureThread.sinkCheckDue, Bool.and_eq_true, decide_eq_true_eq] at dueNow
      exact ⟨dueNow.2, dueNow.1.1⟩
    · rw [config]
      intro pinned
      simp only [noteToil]
      split
      · rename_i scheduling
        rw [(due scheduling).2] at pinned
        cases pinned
      · exact unpinned pinned
  | other l unnoted thread config nextSinkCheck clock =>
    rw [unnoted]
    refine ⟨config ▸ apart, by rw [config, nextSinkCheck]; exact next, ?_, config ▸ unpinned, ?_⟩
    · rw [thread, nextSinkCheck, config]
      exact fun at_ => ⟨Int.le_trans (due at_).1 clock, (due at_).2⟩
    · exact fun e at_ => Int.le_trans (past e at_) clock

theorem fresh_recheckInterval [Zero β] {s : Session β} (h : Fresh s) :
    0 < s.capture.config.recheckInterval := by
  obtain ⟨c, control, target, clock, ⟨alloc, memory, text, cfg, made⟩, rfl⟩ := h
  obtain ⟨queue, rfl, _⟩ := Capture.create_inv made
  have nonzero : (Config.resolve cfg).sinkRecheckMs ≠ 0 := by
    cases cfg with
    | none => decide
    | some cfg => exact Config.orDefault_ne_zero (by decide)
  have positive : 0 < (Config.resolve cfg).sinkRecheckMs.toNat :=
    Nat.pos_of_ne_zero fun zero => nonzero (UInt32.toNat.inj zero)
  exact Int.mul_pos (Int.natCast_pos.mpr positive) (by decide)

/-- The sink checks of a session are a re-check interval apart, so their number
is bounded by its length, and there are none of a pinned sink. -/
theorem checks_apart [Zero β] {ok : Session β → SessionLabel β → Prop} {began : Int}
    {p : Session β × Toil} (run : Steps.Watched step noteToil ok (BegunAt began) {} p) :
    let interval := p.1.capture.config.recheckInterval
    0 < interval ∧ Spacing.Apart interval p.2.checks ∧
      p.2.checks.length ≤ (p.1.clock - began) / interval + 1 ∧
      (p.1.capture.config.requestedSink.isEmpty = false → p.2.checks = []) := by
  obtain ⟨positive, rechecked⟩ : 0 < p.1.capture.config.recheckInterval ∧ Rechecked p.1 p.2 := by
    apply Steps.Watched.invariant
      (fun s g => 0 < s.capture.config.recheckInterval ∧ Rechecked s g) ?_ ?_ run
    · intro s ⟨fresh, _⟩
      refine ⟨fresh_recheckInterval fresh, .nil, nofun, ?_, fun _ => rfl, nofun⟩
      rw [fresh_head fresh]
      rintro ⟨⟩
    · intro s l t g _ ⟨positive, rechecked⟩ _ taken
      refine ⟨?_, turn_rechecked (step_turn taken) rechecked⟩
      rw [moves_config (step_moves taken)]
      exact positive
  obtain ⟨_, since, _, begun⟩ := watched_paid run
  have count := rechecked.apart.count (Int.le_of_lt positive) begun rechecked.past since
  refine ⟨positive, rechecked.apart, ?_, rechecked.unpinned⟩
  have room : (p.2.checks.length - 1) * p.1.capture.config.recheckInterval ≤ p.1.clock - began := by
    rw [Int.sub_mul, Int.one_mul]
    omega
  have := Int.le_ediv_of_mul_le positive room
  omega

/-- A handle that follows the default sink, and asks for it every millisecond. -/
def roamingHandle : Capture UInt8 :=
  { smallHandle with config := { smallHandle.config with requestedSink := "", sinkRecheckMs := 1 } }

theorem roamingHandle_created : Capture.Created roamingHandle :=
  ⟨⟨2 ^ 63 - 1, fun _ => true, by decide⟩, true, true,
    some { channels := 1, frameSamples := 1, format := .s16le, ringFrames := 2, fixedRate := 1
           sinkRecheckMs := 1 }, rfl⟩

/-- Its session, from the connection on. -/
def roaming : Session UInt8 :=
  start roamingHandle { ctx := some .ready, thread := .current, ready := true }
    { sink := "s", monitor := "s" } 0

/-- A stream is opened, and two frames are each followed by a check. -/
def roamTwice : List (SessionLabel UInt8) :=
  let found : QueryAnswer := .rung { ok := true, value := "s" }
  let check (elapsed : Nat) : List (SessionLabel UInt8) :=
    [.tick elapsed, .capture (.read [0, 0] none), .capture .run, .capture .run, .capture .run,
      .capture (.resolve found found), .capture .run]
  [.capture .run, .capture (.resolve found found), .capture .run, .capture (.openStream none)] ++
    check 1000000 ++ check 2000000

theorem checks_apart_once : ∃ p : Session UInt8 × Toil,
    Steps.Watched step noteToil Steps.Any (BegunAt 0) {} p ∧ p.2.checks = [3000000, 1000000] ∧
    let interval := p.1.capture.config.recheckInterval
    0 < interval ∧ Spacing.Apart interval p.2.checks ∧
      p.2.checks.length ≤ (p.1.clock - 0) / interval + 1 ∧
      (p.1.capture.config.requestedSink.isEmpty = false → p.2.checks = []) := by
  have noted : (Steps.exec (Steps.watch step noteToil) (roaming, {}) roamTwice).map (·.2.checks) =
      some [3000000, 1000000] := by decide +kernel
  obtain ⟨p, ran, checks⟩ := Option.map_eq_some_iff.mp noted
  have run : Steps.Watched step noteToil Steps.Any (BegunAt 0) {} p :=
    .exec (.start ⟨⟨⟨_, _, _, _, roamingHandle_created, rfl⟩, rfl⟩, rfl⟩)
      (Steps.meets_all _ _ fun _ _ _ => trivial) ran
  exact ⟨p, run, checks, checks_apart run⟩

end Session
end WebAudioCapture
