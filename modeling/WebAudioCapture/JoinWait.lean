import WebAudioCapture.Lifetime
import WebAudioCapture.Lib.Steps

/-!
# How a stop waits for its capture thread

`weba_capture_stop` waits on `stop_cv` with `stop_lock` held while it evaluates
`!running`, and the capture thread clears `running` and notifies without the
lock. Here the wait is cut where the lock is taken, the predicate evaluated and
the waiter registered; everything else is a step of the handle's life.
-/

namespace WebAudioCapture

variable {β : Type}

/-- Where the join wait of a stop is. The lock is held while `testing` and
`registering`; a `blocked` waiter is registered and not notified; `late` says
that the wait has timed out. -/
inductive Waiting where
  | away
  | testing (late : Bool)
  | registering
  | blocked
  | woken (late : Bool)
  deriving DecidableEq, Repr

namespace Waiting

def holds : Waiting → Bool
  | .testing _ | .registering => true
  | _ => false

/-- The predicate has been found false, and no notification noticed since. -/
def pending : Waiting → Bool
  | .registering | .blocked => true
  | _ => false

/-- After a `notify_all`, which wakes the registered. -/
def notified : Waiting → Waiting
  | .blocked => .woken false
  | w => w

/-- A notification leaves no waiter that could still use it, but one that has
not registered yet. -/
theorem notified_pending {w : Waiting} (h : w.notified.pending = true) : w = .registering := by
  cases w with
  | registering => rfl
  | _ => cases h

theorem notified_away {w : Waiting} (h : w = .away) : w.notified = .away := by rw [h]; rfl

end Waiting

def CallerPc.isWaiting : CallerPc → Bool
  | .waiting _ => true
  | _ => false

/-- Not before this thread has the lock: `wait_for_stop` evaluates its predicate. -/
def CaptureThread.contends (t : CaptureThread β) : Bool :=
  match t.pc with
  | .retrying _ => true
  | _ => false

structure JoinWait (β : Type) where
  life : Lifetime β
  wait : Waiting := .away
  deriving DecidableEq, Repr

/-- `stir` is a spurious wake-up, `expire` the end of the wait's time. -/
inductive JoinWaitLabel (β : Type) where
  | life (label : LifetimeLabel β)
  | stir
  | expire
  deriving DecidableEq, Repr

namespace JoinWait

/-- The thread `i` is about to notify. -/
def notifies (s : JoinWait β) (i : Nat) : Bool :=
  s.life.threads[i]?.any fun t => t.pc == .notifying

/-- A step of the caller. -/
def run [Zero β] (s : JoinWait β) : Option (JoinWait β) :=
  match s.wait with
  | .away =>
    s.life.run.map fun life =>
      { life, wait := if life.caller.isWaiting then .testing false else .away }
  | .testing late =>
    if s.life.capture.running && !late then some { s with wait := .registering }
    else s.life.run.map fun life => { life }
  | .registering => some { s with wait := .blocked }
  | .blocked => none
  | .woken late => some { s with wait := .testing late }

/-- A step of the thread `i`. -/
def thread [Zero β] (s : JoinWait β) (i : Nat) (input : CaptureInput β) : Option (JoinWait β) :=
  if s.wait.holds && s.life.threads[i]?.any CaptureThread.contends then none
  else
    (s.life.step (.thread i input)).map fun life =>
      { life, wait := if s.notifies i then s.wait.notified else s.wait }

def step [Zero β] (s : JoinWait β) : JoinWaitLabel β → Option (JoinWait β)
  | .life .run => s.run
  | .life (.thread i input) => s.thread i input
  | .life label => (s.life.step label).map fun life => { s with life }
  | .stir => if s.wait = .blocked then some { s with wait := .woken false } else none
  | .expire =>
    match s.wait, s.life.caller with
    | .blocked, .waiting until_ =>
      if until_ ≤ s.life.clock then some { s with wait := .woken true } else none
    | _, _ => none

/-- A handle `create` has just returned. -/
def Fresh [Zero β] (s : JoinWait β) : Prop := ∃ life, life.Fresh ∧ s = { life }

/-- Stop waits to be notified, and the thread it waits for has already done so
for the last time. -/
structure Lost (s : JoinWait β) : Prop where
  blocked : s.wait = .blocked
  down : s.life.capture.running = false
  past : ∃ i, s.life.capture.thread = some i ∧ s.life.hasFinished i = true

/-- The handle's thread does not notify between an evaluation of the predicate
and the registration. -/
def Timely (s : JoinWait β) : JoinWaitLabel β → Prop
  | .life (.thread i _) =>
    s.life.capture.thread = some i → s.notifies i = true → s.wait ≠ .registering
  | _ => True

instance (s : JoinWait β) (l : JoinWaitLabel β) : Decidable (Timely s l) :=
  match l with
  | .life (.thread _ _) => inferInstanceAs (Decidable (_ → _ → _))
  | .life .run | .life (.tick _) | .life .start | .life .stop | .life (.read _)
  | .life (.connect _) | .life (.resolve ..) | .life (.disconnect _) | .life (.callback _)
  | .stir | .expire => .isTrue trivial

/-! ## What a step can do -/

inductive Moves [Zero β] (s : JoinWait β) : JoinWaitLabel β → JoinWait β → Prop
  | go (life : Lifetime β) (away : s.wait = .away) (taken : s.life.step .run = some life) :
      Moves s (.life .run)
        { life, wait := if life.caller.isWaiting then .testing false else .away }
  | fail (at_ : s.wait = .testing false) (up : s.life.capture.running = true) :
      Moves s (.life .run) { s with wait := .registering }
  | settle (late : Bool) (life : Lifetime β) (at_ : s.wait = .testing late)
      (taken : s.life.step .run = some life) : Moves s (.life .run) { life }
  | register (at_ : s.wait = .registering) : Moves s (.life .run) { s with wait := .blocked }
  | retake (late : Bool) (at_ : s.wait = .woken late) :
      Moves s (.life .run) { s with wait := .testing late }
  | thread (i : Nat) (input : CaptureInput β) (life : Lifetime β)
      (taken : s.life.step (.thread i input) = some life) :
      Moves s (.life (.thread i input))
        { life, wait := if s.notifies i then s.wait.notified else s.wait }
  | aside (label : LifetimeLabel β) (life : Lifetime β) (caller : label ≠ .run)
      (thread : ∀ i input, label ≠ .thread i input) (taken : s.life.step label = some life) :
      Moves s (.life label) { s with life }
  | stir (at_ : s.wait = .blocked) : Moves s .stir { s with wait := .woken false }
  | expire (at_ : s.wait = .blocked) : Moves s .expire { s with wait := .woken true }

section
variable [Zero β] {s t : JoinWait β}

theorem run_moves (taken : s.run = some t) : Moves s (.life .run) t := by
  unfold run at taken
  split at taken
  · rename_i away
    obtain ⟨life, ran, rfl⟩ := Option.map_eq_some_iff.mp taken
    exact .go life away ran
  · rename_i late at_
    split at taken
    · rename_i up
      obtain ⟨up, early⟩ := Bool.and_eq_true_iff.mp up
      cases taken
      rw [Bool.not_eq_true'] at early
      rw [early] at at_
      exact .fail at_ up
    · obtain ⟨life, ran, rfl⟩ := Option.map_eq_some_iff.mp taken
      exact .settle late life at_ ran
  · rename_i at_
    cases taken
    exact .register at_
  · cases taken
  · rename_i late at_
    cases taken
    exact .retake late at_

theorem step_moves {l : JoinWaitLabel β} (taken : s.step l = some t) : Moves s l t := by
  have aside : ∀ label, label ≠ .run → (∀ i input, label ≠ .thread i input) →
      ((s.life.step label).map fun life => { s with life }) = some t →
      Moves s (.life label) t := by
    intro label caller thread taken
    obtain ⟨life, ran, rfl⟩ := Option.map_eq_some_iff.mp taken
    exact .aside label life caller thread ran
  cases l with
  | life label =>
    cases label with
    | run => exact run_moves taken
    | thread i input =>
      simp only [step, thread] at taken
      split at taken
      · cases taken
      · obtain ⟨life, ran, rfl⟩ := Option.map_eq_some_iff.mp taken
        exact .thread i input life ran
    | _ => exact aside _ (by rintro ⟨⟩) (by rintro _ _ ⟨⟩) taken
  | stir =>
    simp only [step] at taken
    split at taken
    · rename_i at_
      cases taken
      exact .stir at_
    · cases taken
  | expire =>
    simp only [step] at taken
    split at taken
    · rename_i at_ _
      split at taken
      · cases taken
        exact .expire at_
      · cases taken
    · cases taken

end
end JoinWait

/-! ## The life of the handle meanwhile -/

namespace Lifetime

/-- Once the handle's thread has cleared `running`, only a start raises it, and
that start does not survive. -/
def Lowered (s : Lifetime β) : Prop :=
  s.caller ≠ .spawning → s.caller ≠ .terminated → ∀ i t, s.capture.thread = some i →
    s.threads[i]? = some t → t.isDone = true → s.capture.running = false

section
variable [Zero β] {s t : Lifetime β}

omit [Zero β] in
/-- A step that leaves the threads alone and does not raise `running`. -/
theorem Lowered.move (h : Lowered s) (spawning : s.caller ≠ .spawning)
    (alive : s.caller ≠ .terminated) (threads : t.threads = s.threads)
    (thread : t.capture.thread = s.capture.thread)
    (running : t.capture.running = s.capture.running) : Lowered t := by
  intro _ _ i th mine at_ done
  rw [running]
  rw [thread] at mine
  rw [threads] at at_
  exact h spawning alive i th mine at_ done

omit [Zero β] in
theorem thread_lowered {i : Nat} {th th' : CaptureThread β} {c : Capture β} (h : Lowered s)
    (at_ : s.threads[i]? = some th) (moved : th.Moves s.capture s.clock c th') :
    Lowered { s with capture := c, threads := s.threads.set i th' } := by
  have same := (th.moves_undisturbed moved).1
  intro spawning alive j u mine at_' done
  rw [same.thread] at mine
  by_cases this : i = j
  · subst this
    have lt := (List.getElem?_eq_some_iff.mp at_).1
    dsimp only at at_'
    rw [List.getElem?_set_self lt] at at_'
    cases at_'
    obtain ⟨_, _, rfl⟩ | ⟨notifying, rfl⟩ := CaptureThread.moves_isDone moved done
    · rfl
    · exact h spawning alive i th mine at_ (by rw [CaptureThread.isDone, notifying])
  · dsimp only at at_'
    rw [List.getElem?_set_ne this] at at_'
    have down := h spawning alive j u mine at_' done
    obtain running | lowered := CaptureThread.moves_running moved
    · exact running.trans down
    · exact lowered

theorem spawn_lowered : Lowered s.spawn := by
  intro _ _ i th mine at_ done
  cases Option.some.inj mine
  simp only [spawn, List.getElem?_concat_length, Option.some.injEq] at at_
  subst at_
  cases done

theorem step_lowered {l : LifetimeLabel β} (h : Lowered s) (moved : Moves s l t) : Lowered t := by
  have stays : s.caller ≠ .spawning ∧ s.caller ≠ .terminated → t.threads = s.threads →
      t.capture.thread = s.capture.thread → t.capture.running = s.capture.running → Lowered t :=
    fun standing => h.move standing.1 standing.2
  have free : s.caller.isFree = true → s.caller ≠ .spawning ∧ s.caller ≠ .terminated := by
    intro free
    constructor
    · intro at_
      rw [at_] at free
      cases free
    · intro at_
      rw [at_] at free
      cases free
  cases moved with
  | thread i input th th' c at_ moved => exact thread_lowered h at_ moved
  | spawn at_ unused => exact spawn_lowered
  | raise at_ => exact fun spawning => absurd rfl spawning
  | crash env at_ clash => exact fun _ alive => absurd rfl alive
  | overwrite at_ used => exact fun _ alive => absurd rfl alive
  | abandon until_ at_ late => exact fun _ _ i th mine => by cases mine
  | join i at_ used finished => exact fun _ _ i th mine => by cases mine
  | lower at_ => exact fun _ _ _ _ _ _ _ => rfl
  | tick elapsed => exact h
  | callback delivery => exact h
  | start idle => exact stays (free idle) rfl rfl rfl
  | stop idle => exact stays (free idle) rfl rfl rfl
  | read args r idle entered => exact stays (free idle) rfl rfl rfl
  | reads c r at_ taken =>
    obtain ⟨same, running⟩ := Reader.moves_undisturbed (Reader.step_moves taken)
    exact stays (by rw [at_]; exact ⟨by rintro ⟨⟩, by rintro ⟨⟩⟩) rfl same.thread running
  | connect env control status at_ made =>
    apply stays (by rw [at_]; exact ⟨by rintro ⟨⟩, by rintro ⟨⟩⟩)
    · unfold connected
      split <;> rfl
    · unfold connected
      split <;> rfl
    · unfold connected
      split <;> rfl
  | resolve defaultSink monitor found at_ answer =>
    have standing : s.caller ≠ .spawning ∧ s.caller ≠ .terminated := by
      rw [at_]; exact ⟨by rintro ⟨⟩, by rintro ⟨⟩⟩
    obtain ⟨control, _ | target⟩ := found
    · exact stays standing rfl rfl rfl
    · exact stays standing rfl rfl rfl
  | refuse at_ | begin at_ | retreat _ _ at_ | publish _ at_ | arm at_ | request at_ | close at_
  | pass at_ | wait _ at_ | see _ at_ | disconnect _ _ at_ =>
    exact stays (by rw [at_]; exact ⟨by rintro ⟨⟩, by rintro ⟨⟩⟩) rfl rfl rfl

theorem reach_lowered {ok : Lifetime β → LifetimeLabel β → Prop}
    (run : Steps.Reach step ok Fresh s) : Lowered s := by
  apply Steps.Reach.invariant Lowered ?_ ?_ run
  · rintro _ ⟨c, clock, created, rfl⟩ _ _ i th mine at_
    cases at_
  · intro s l t _ lowered _ taken
    exact step_lowered lowered (step_moves taken)

end
end Lifetime

namespace JoinWait

section
variable [Zero β] {s t : JoinWait β}

/-- Cutting the wait adds nothing to what a handle can do. -/
theorem step_life {l : JoinWaitLabel β} (moved : Moves s l t) :
    t.life = s.life ∨ ∃ k, s.life.step k = some t.life := by
  cases moved with
  | go life away taken => exact .inr ⟨_, taken⟩
  | settle late life at_ taken => exact .inr ⟨_, taken⟩
  | thread i input life taken => exact .inr ⟨_, taken⟩
  | aside label life caller thread taken => exact .inr ⟨_, taken⟩
  | _ => exact .inl rfl

theorem reach_life {ok : JoinWait β → JoinWaitLabel β → Prop} (run : Steps.Reach step ok Fresh s) :
    Steps.Reach Lifetime.step Steps.Any Lifetime.Fresh s.life := by
  apply Steps.Reach.simulate JoinWait.life ?_ ?_ run
  · rintro _ ⟨life, fresh, rfl⟩
    exact fresh
  · intro s l t _ taken
    exact step_life (step_moves taken)

/-! ## No notification in time is lost -/

/-- The wait is the caller's. -/
def Placed (s : JoinWait β) : Prop := s.wait ≠ .away → ∃ until_, s.life.caller = .waiting until_

/-- While stop waits to be notified, or is about to, its thread has not
returned. -/
def Going (s : JoinWait β) : Prop :=
  s.wait.pending = true → ∀ i, s.life.capture.thread = some i → s.life.hasFinished i = false

omit [Zero β] in
theorem Going.not_lost (h : Going s) : ¬Lost s := by
  rintro ⟨blocked, _, i, mine, finished⟩
  rw [h (by rw [blocked]; rfl) i mine] at finished
  cases finished

/-- While stop waits, nobody but the threads moves the handle. -/
theorem aside_waiting {life life' : Lifetime β} {label : LifetimeLabel β} {until_ : Int}
    (at_ : life.caller = .waiting until_) (caller : label ≠ .run)
    (thread : ∀ i input, label ≠ .thread i input) (moved : Lifetime.Moves life label life') :
    life'.caller = life.caller ∧ life'.threads = life.threads ∧
      life'.capture.thread = life.capture.thread := by
  have busy : life.caller.isFree = false := by rw [at_]; rfl
  cases moved with
  | tick elapsed => exact ⟨rfl, rfl, rfl⟩
  | callback delivery => exact ⟨rfl, rfl, rfl⟩
  | thread i input th th' c _ moved => exact absurd rfl (thread i input)
  | start free | stop free | read _ _ free =>
    rw [busy] at free
    cases free
  | connect _ _ _ elsewhere | crash _ elsewhere | resolve _ _ _ elsewhere
  | retreat _ _ elsewhere | disconnect _ _ elsewhere =>
    rw [at_] at elsewhere
    cases elsewhere
  | reads | refuse | begin | publish | arm | raise | spawn | overwrite | request | close | pass
  | wait | see | abandon | join | lower => exact absurd rfl caller

theorem step_placed {l : JoinWaitLabel β} (h : Placed s) (moved : Moves s l t) : Placed t := by
  cases moved with
  | go life away taken =>
    intro there
    by_cases entered : life.caller.isWaiting = true
    · unfold CallerPc.isWaiting at entered
      split at entered
      · rename_i until_ at_
        exact ⟨until_, at_⟩
      · cases entered
    · exact absurd (if_neg entered) there
  | settle late life at_ taken => exact fun there => absurd rfl there
  | fail at_ up => exact fun _ => h (by rw [at_]; rintro ⟨⟩)
  | register at_ => exact fun _ => h (by rw [at_]; rintro ⟨⟩)
  | retake late at_ => exact fun _ => h (by rw [at_]; rintro ⟨⟩)
  | stir at_ => exact fun _ => h (by rw [at_]; rintro ⟨⟩)
  | expire at_ => exact fun _ => h (by rw [at_]; rintro ⟨⟩)
  | aside label life caller thread taken =>
    intro there
    obtain ⟨until_, at_⟩ := h there
    exact ⟨until_, (aside_waiting at_ caller thread (Lifetime.step_moves taken)).1.trans at_⟩
  | thread i input life taken =>
    obtain ⟨th, at_, stepped⟩ := Option.bind_eq_some_iff.mp taken
    obtain ⟨⟨c, th'⟩, moved, rfl⟩ := Option.map_eq_some_iff.mp stepped
    intro there
    apply h
    intro away
    apply there
    dsimp only
    split
    · exact Waiting.notified_away away
    · exact away

theorem reach_placed {ok : JoinWait β → JoinWaitLabel β → Prop}
    (run : Steps.Reach step ok Fresh s) : Placed s := by
  apply Steps.Reach.invariant Placed ?_ ?_ run
  · rintro _ ⟨life, fresh, rfl⟩ there
    exact absurd rfl there
  · intro s l t _ placed _ taken
    exact step_placed placed (step_moves taken)

omit [Zero β] in
theorem thread_going {i : Nat} {th th' : CaptureThread β} {c : Capture β} (h : Going s)
    (timely : s.life.capture.thread = some i → s.notifies i = true → s.wait ≠ .registering)
    (at_ : s.life.threads[i]? = some th) (moved : th.Moves s.life.capture s.life.clock c th') :
    Going
      { life := { s.life with capture := c, threads := s.life.threads.set i th' }
        wait := if s.notifies i then s.wait.notified else s.wait } := by
  intro held j mine
  rw [(th.moves_undisturbed moved).1.thread] at mine
  apply Bool.eq_false_iff.mpr
  intro done
  obtain ⟨u, at_', finished⟩ : ∃ u, (s.life.threads.set i th')[j]? = some u ∧ u.pc = .finished := by
    simpa only [Lifetime.hasFinished, Option.any_eq_true, beq_iff_eq] using done
  by_cases this : i = j
  · -- it has just notified, so stop was not registered, and the step untimely
    subst this
    rw [List.getElem?_set_self (List.getElem?_eq_some_iff.mp at_).1] at at_'
    cases at_'
    have last : s.notifies i = true := by
      rw [notifies, at_, Option.any_some, beq_iff_eq]
      exact CaptureThread.moves_finished moved finished
    dsimp only at held
    rw [if_pos last] at held
    exact timely mine last (Waiting.notified_pending held)
  · have before : s.wait.pending = true := by
      dsimp only at held
      split at held
      · rw [Waiting.notified_pending held]; rfl
      · exact held
    have going := h before j mine
    rw [List.getElem?_set_ne this] at at_'
    rw [Lifetime.hasFinished, at_', Option.any_some, finished] at going
    cases going

theorem step_going {l : JoinWaitLabel β} (h : Going s) (placed : Placed s)
    (lowered : s.life.Lowered) (timely : Timely s l) (moved : Moves s l t) : Going t := by
  cases moved with
  | go life away taken =>
    intro held
    dsimp only at held
    split at held
    · cases held
    · cases held
  | settle late life at_ taken => rintro ⟨⟩
  | retake late at_ => rintro ⟨⟩
  | stir at_ => rintro ⟨⟩
  | expire at_ => rintro ⟨⟩
  | register at_ => exact fun _ => h (by rw [at_]; rfl)
  | fail at_ up =>
    obtain ⟨until_, waiting⟩ := placed (by rw [at_]; rintro ⟨⟩)
    intro _ i mine
    apply Bool.eq_false_iff.mpr
    intro done
    obtain ⟨th, at_, finished⟩ : ∃ th, s.life.threads[i]? = some th ∧ th.pc = .finished := by
      simpa only [Lifetime.hasFinished, Option.any_eq_true, beq_iff_eq] using done
    have down := lowered (by rw [waiting]; rintro ⟨⟩) (by rw [waiting]; rintro ⟨⟩) i th mine at_
      (by rw [CaptureThread.isDone, finished])
    rw [up] at down
    cases down
  | aside label life caller thread taken =>
    intro held i mine
    have there : s.wait ≠ .away := by
      intro away
      rw [show s.wait.pending = false by rw [away]; rfl] at held
      cases held
    obtain ⟨until_, at_⟩ := placed there
    obtain ⟨_, threads, kept⟩ := aside_waiting at_ caller thread (Lifetime.step_moves taken)
    rw [kept] at mine
    rw [Lifetime.hasFinished, threads]
    exact h held i mine
  | thread i input life taken =>
    obtain ⟨th, at_, stepped⟩ := Option.bind_eq_some_iff.mp taken
    obtain ⟨⟨c, th'⟩, moved, rfl⟩ := Option.map_eq_some_iff.mp stepped
    exact thread_going h timely at_ (CaptureThread.step_moves moved)

/-- If the capture thread never notifies between an evaluation of the predicate
and the registration, stop never waits for a notification that has been sent. -/
theorem notification_not_lost (run : Steps.Reach step Timely Fresh s) : ¬Lost s := by
  apply Going.not_lost
  apply Steps.Reach.invariant Going ?_ ?_ run
  · rintro _ ⟨life, fresh, rfl⟩ ⟨⟩
  · intro s l t reached going timely taken
    exact step_going going (reach_placed reached) (Lifetime.reach_lowered (reach_life reached))
      timely (step_moves taken)

/-- A notification between the two is lost as soon as stop registers. -/
theorem untimely_lost {i : Nat} {input : CaptureInput β} (run : Steps.Reach step Steps.Any Fresh s)
    (mine : s.life.capture.thread = some i) (last : s.notifies i = true)
    (registering : s.wait = .registering) (taken : s.step (.life (.thread i input)) = some t) :
    ∃ u, t.step (.life .run) = some u ∧ Lost u := by
  obtain ⟨until_, waiting⟩ := reach_placed run (by rw [registering]; rintro ⟨⟩)
  have lowered := Lifetime.reach_lowered (reach_life run)
  obtain ⟨th, at_, notifying⟩ : ∃ th, s.life.threads[i]? = some th ∧ th.pc = .notifying := by
    simpa only [notifies, Option.any_eq_true, beq_iff_eq] using last
  have down : s.life.capture.running = false := by
    apply lowered (by rw [waiting]; rintro ⟨⟩) (by rw [waiting]; rintro ⟨⟩) i th mine at_
    rw [CaptureThread.isDone, notifying]
  cases step_moves taken with
  | aside label life caller thread taken => exact absurd rfl (thread i input)
  | thread i input life lived =>
    obtain ⟨u, at_', stepped⟩ := Option.bind_eq_some_iff.mp lived
    rw [at_] at at_'
    cases at_'
    obtain ⟨⟨c, th'⟩, moved, rfl⟩ := Option.map_eq_some_iff.mp stepped
    obtain ⟨rfl, rfl⟩ := CaptureThread.step_notifying notifying moved
    refine ⟨{ life := { s.life with threads := s.life.threads.set i (th.goto .finished) }
              wait := .blocked },
      ?_, rfl, down, i, mine, ?_⟩
    · rw [if_pos last, registering]
      rfl
    · rw [Lifetime.hasFinished,
        List.getElem?_set_self (List.getElem?_eq_some_iff.mp at_).1, Option.any_some]
      rfl

end

/-! ## A small handle -/

def small : JoinWait UInt8 := { life := .small }

theorem small_fresh : Fresh small := ⟨_, Lifetime.small_fresh, rfl⟩

/-- Steps of the handle's life. -/
def lived (labels : List (LifetimeLabel UInt8)) : List (JoinWaitLabel UInt8) := labels.map .life

/-- A start, and a stop as far as its first evaluation of the predicate, which
finds the capture thread running. -/
def stopEarly : List (JoinWaitLabel UInt8) :=
  lived (Lifetime.startWell ++ [.stop, .run, .run, .run, .run])

/-- The capture thread leaves its loop and notifies. -/
def exitThread : List (JoinWaitLabel UInt8) :=
  lived [.thread 0 .run, .thread 0 .run, .thread 0 .run]

/-- Notified once it has registered, stop evaluates the predicate again. -/
theorem notification_heard : ∃ s : JoinWait UInt8, Steps.Reach step Timely Fresh s ∧
    s.wait = .woken false ∧ s.life.capture.running = false ∧ ¬Lost s := by
  obtain ⟨s, run, woken, down⟩ : ∃ s,
      Steps.exec step small (stopEarly ++ [.life .run] ++ exitThread) = some s ∧
        s.wait = .woken false ∧ s.life.capture.running = false := ⟨_, rfl, rfl, rfl⟩
  have timely : Steps.Meets step Timely small (stopEarly ++ [.life .run] ++ exitThread) := by
    decide
  have reached : Steps.Reach step Timely Fresh s := .exec (.start small_fresh) timely run
  exact ⟨s, reached, woken, down, notification_not_lost reached⟩

/-- A capture thread that clears `running` and notifies just after the
predicate was evaluated is not heard. -/
theorem notification_lost : ∃ s : JoinWait UInt8, Steps.Reach step Steps.Any Fresh s ∧ Lost s := by
  obtain ⟨s, run, lost⟩ : ∃ s,
      Steps.exec step small (stopEarly ++ exitThread ++ [.life .run]) = some s ∧ Lost s :=
    ⟨_, rfl, rfl, rfl, 0, rfl, rfl⟩
  exact ⟨s, .exec (.start small_fresh) (Steps.meets_any ..) run, lost⟩

end JoinWait
end WebAudioCapture
