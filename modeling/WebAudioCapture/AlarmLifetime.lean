import WebAudioCapture.Query
import WebAudioCapture.Lib.Steps

/-!
# The lifetime of a query's alarm

One query against the main loop thread. The query owns its alarm and releases
it when it returns; libpulse still holds the raw pointer. The two threads take
the steps between which the other can run.
-/

namespace WebAudioCapture

/-- Where `query_default_sink` or `query_monitor` stands. -/
inductive Waiter where
  | created
  | issued
  | waiting
  | woken (result : Option QueryResult)
  | returned
  deriving DecidableEq, Repr

/-- Where the main loop thread stands in a callback of this query. -/
inductive CallbackPc where
  | idle
  | entered (result : QueryResult)
  | notifying
  deriving DecidableEq, Repr

structure QueryRun where
  alarm : Alarm QueryResult
  waiter : Waiter
  callback : CallbackPc
  inFlight : Bool
  deriving DecidableEq, Repr

inductive QueryLabel where
  | issue
  | refuse
  | unref
  | wake
  | timeOut
  | leave
  | invoke (call : Invocation)
  | ring
  | notify
  deriving DecidableEq, Repr

namespace QueryRun

def start : QueryRun := ⟨Alarm.make {}, .created, .idle, false⟩

def step (s : QueryRun) : QueryLabel → Option QueryRun
  -- the operation was created, so its callback may be invoked from now on
  | .issue =>
    if s.waiter = .created then some { s with waiter := .issued, inFlight := true } else none
  | .refuse => if s.waiter = .created then some { s with waiter := .returned } else none
  -- `pa_operation_unref` drops the reference and cancels nothing
  | .unref => if s.waiter = .issued then some { s with waiter := .waiting } else none
  | .wake =>
    if s.waiter = .waiting ∧ s.alarm.raised then
      let (alarm, result) := s.alarm.take
      some { s with alarm, waiter := .woken (some result) }
    else none
  | .timeOut =>
    if s.waiter = .waiting ∧ ¬ s.alarm.raised then some { s with waiter := .woken none } else none
  -- the last reference to the alarm goes out of scope
  | .leave =>
    match s.waiter with
    | .woken _ => some { s with waiter := .returned }
    | _ => none
  | .invoke call =>
    if s.callback = .idle ∧ s.inFlight then
      match call.rings with
      | some result => some { s with callback := .entered result }
      | none => some s
    else none
  | .ring =>
    match s.callback with
    | .entered result =>
      let (alarm, delivered) := s.alarm.tryRing result
      some { s with alarm, callback := if delivered then .notifying else .idle }
    | _ => none
  | .notify => if s.callback = .notifying then some { s with callback := .idle } else none

/-- The main loop thread's steps that touch the alarm object. -/
def touches : QueryLabel → Bool
  | .ring | .notify => true
  | _ => false

/-- No callback step touches the alarm after the query has returned. -/
def InLifetime (s : QueryRun) (l : QueryLabel) : Prop :=
  touches l = true → s.waiter ≠ .returned

/-- The query returns only while no callback is between its entry and the end
of its notify, and no callback that rings is invoked once it has returned. -/
def Orderly (s : QueryRun) : QueryLabel → Prop
  | .leave => s.callback = .idle
  | .invoke call => call.rings = none ∨ s.waiter ≠ .returned
  | _ => True

instance (s : QueryRun) (l : QueryLabel) : Decidable (InLifetime s l) :=
  inferInstanceAs (Decidable (_ → _))

instance (s : QueryRun) (l : QueryLabel) : Decidable (Orderly s l) := by
  cases l <;> unfold Orderly <;> infer_instance

/-- A callback is about to touch a released alarm. -/
def Dangling (s : QueryRun) : Prop := s.waiter = .returned ∧ s.callback ≠ .idle

/-- No callback is under way once the alarm is released, nor before the
request is issued. -/
structure Settled (s : QueryRun) : Prop where
  released : s.waiter = .returned → s.callback = .idle
  unissued : s.waiter = .created → s.callback = .idle ∧ s.inFlight = false

theorem start_settled : Settled start := ⟨fun _ => rfl, fun _ => ⟨rfl, rfl⟩⟩

theorem Settled.of_open {s : QueryRun} (issued : s.waiter ≠ .created)
    (alive : s.waiter ≠ .returned) : Settled s :=
  ⟨fun gone => absurd gone alive, fun fresh => absurd fresh issued⟩

/-- A callback under way has a request, and an alarm to ring. -/
theorem Settled.under_way {s : QueryRun} (h : Settled s) (busy : s.callback ≠ .idle) :
    s.waiter ≠ .created ∧ s.waiter ≠ .returned :=
  ⟨fun fresh => busy (h.unissued fresh).1, fun gone => busy (h.released gone)⟩

/-- From a settled state no step touches a released alarm; it leads to a
settled state if it is orderly and to a dangling callback if it is not. -/
theorem step_settled {s t : QueryRun} {l : QueryLabel} (h : Settled s)
    (taken : step s l = some t) :
    InLifetime s l ∧ (Orderly s l → Settled t) ∧ (¬ Orderly s l → Dangling t) := by
  cases l with
  | issue | unref | timeOut =>
    simp only [step, Option.ite_none_right_eq_some, Option.some.injEq] at taken
    obtain ⟨_, rfl⟩ := taken
    refine ⟨fun touch => absurd touch Bool.false_ne_true, fun _ => ?_, fun bad => absurd trivial bad⟩
    apply Settled.of_open <;> intro same <;> cases same
  | refuse =>
    simp only [step, Option.ite_none_right_eq_some, Option.some.injEq] at taken
    obtain ⟨fresh, rfl⟩ := taken
    refine ⟨fun touch => absurd touch Bool.false_ne_true, fun _ => ?_, fun bad => absurd trivial bad⟩
    constructor
    · intro _; exact (h.unissued fresh).1
    · intro same; cases same
  | wake =>
    simp only [step, Option.ite_none_right_eq_some, Option.some.injEq] at taken
    obtain ⟨_, rfl⟩ := taken
    refine ⟨fun touch => absurd touch Bool.false_ne_true, fun _ => ?_, fun bad => absurd trivial bad⟩
    apply Settled.of_open <;> intro same <;> cases same
  | leave =>
    refine ⟨fun touch => absurd touch Bool.false_ne_true, ?_⟩
    simp only [step] at taken
    split at taken
    · cases taken
      constructor
      · intro idle
        exact ⟨fun _ => idle, fun same => by cases same⟩
      · intro busy
        exact ⟨rfl, busy⟩
    · cases taken
  | invoke call =>
    refine ⟨fun touch => absurd touch Bool.false_ne_true, ?_⟩
    simp only [step] at taken
    split at taken
    · rename_i ready
      have issued : s.waiter ≠ .created := by
        intro fresh
        rw [(h.unissued fresh).2] at ready
        cases ready.2
      cases rings : call.rings with
      | none =>
        simp only [rings, Option.some.injEq] at taken
        subst taken
        exact ⟨fun _ => h, fun bad => absurd (.inl rings) bad⟩
      | some result =>
        simp only [rings, Option.some.injEq] at taken
        subst taken
        constructor
        · rintro (quiet | alive)
          · rw [rings] at quiet; cases quiet
          · exact Settled.of_open issued alive
        · intro bad
          simp only [Orderly, rings, reduceCtorEq, false_or, ne_eq, Decidable.not_not] at bad
          exact ⟨bad, fun same => by cases same⟩
    · cases taken
  | ring =>
    simp only [step] at taken
    split at taken
    · rename_i result busy
      obtain ⟨issued, alive⟩ := h.under_way (by rw [busy]; rintro ⟨⟩)
      cases taken
      exact ⟨fun _ => alive, fun _ => Settled.of_open issued alive, fun bad => absurd trivial bad⟩
    · cases taken
  | notify =>
    simp only [step, Option.ite_none_right_eq_some, Option.some.injEq] at taken
    obtain ⟨busy, rfl⟩ := taken
    obtain ⟨issued, alive⟩ := h.under_way (by rw [busy]; rintro ⟨⟩)
    exact ⟨fun _ => alive, fun _ => Settled.of_open issued alive, fun bad => absurd trivial bad⟩

/-- A dangling callback stays where it is until it touches the alarm. -/
theorem step_dangling {s t : QueryRun} {l : QueryLabel} (h : Dangling s)
    (kept : InLifetime s l) (taken : step s l = some t) : Dangling t := by
  obtain ⟨gone, busy⟩ := h
  cases l with
  | ring | notify => exact absurd gone (kept rfl)
  | invoke call => simp [step, busy] at taken
  | _ => simp [step, gone] at taken

theorem run_dangling {s t : QueryRun} {ls : List QueryLabel} (h : Dangling s)
    (kept : Steps.Meets step InLifetime s ls) (run : Steps.exec step s ls = some t) :
    Dangling t := by
  induction ls generalizing s with
  | nil => cases run; exact h
  | cons l ls ih =>
    cases taken : step s l with
    | none => simp only [Steps.exec, taken, Option.bind_none] at run; cases run
    | some u =>
      rw [Steps.exec_cons ls taken] at run
      simp only [Steps.Meets, taken] at kept
      exact ih (step_dangling h kept.1 taken) kept.2 run

theorem run_settled {s t : QueryRun} {ls : List QueryLabel} (h : Settled s)
    (run : Steps.exec step s ls = some t) :
    (Steps.Meets step Orderly s ls → Steps.Meets step InLifetime s ls) ∧
    (t.callback = .idle → Steps.Meets step InLifetime s ls → Steps.Meets step Orderly s ls) := by
  induction ls generalizing s with
  | nil => exact ⟨fun _ => trivial, fun _ _ => trivial⟩
  | cons l ls ih =>
    cases taken : step s l with
    | none => simp only [Steps.exec, taken, Option.bind_none] at run; cases run
    | some u =>
      rw [Steps.exec_cons ls taken] at run
      obtain ⟨inTime, orderly, disorderly⟩ := step_settled h taken
      simp only [Steps.Meets, taken]
      constructor
      · rintro ⟨now, later⟩
        exact ⟨inTime, (ih (orderly now) run).1 later⟩
      · rintro idle ⟨_, later⟩
        by_cases now : Orderly s l
        · exact ⟨now, (ih (orderly now) run).2 idle later⟩
        · exact absurd idle (run_dangling (disorderly now) later run).2

/-- In every interleaving of one query with the callbacks of its request, an
orderly run touches the alarm only while the query owns it; and a run in which
every callback has finished touches it only then just when it is orderly. -/
theorem alarm_outlives_callbacks (ls : List QueryLabel) (t : QueryRun)
    (run : Steps.exec step start ls = some t) :
    (Steps.Meets step Orderly start ls → Steps.Meets step InLifetime start ls) ∧
    (t.callback = .idle →
      (Steps.Meets step InLifetime start ls ↔ Steps.Meets step Orderly start ls)) := by
  obtain ⟨enough, needed⟩ := run_settled start_settled run
  exact ⟨enough, fun idle => ⟨needed idle, enough⟩⟩

/-- The answer arrives in time and the query returns after the notify. -/
theorem alarm_outlives_prompt_callback :
    let ls : List QueryLabel := [.issue, .unref, .invoke (.server (some ⟨some "sink"⟩)), .ring,
      .notify, .wake, .leave]
    Steps.Meets step InLifetime start ls := by
  intro ls
  have run : Steps.exec step start ls = some
      ⟨⟨false, { ok := true, value := "sink" }⟩, .returned, .idle, true⟩ := rfl
  exact (alarm_outlives_callbacks ls _ run).1 (by decide)

/-- The wait times out, the query returns, and the answer arrives late: the
callback takes the released alarm's lock. The same happens without a timeout
when the waiter returns between the ring and its notify. -/
theorem late_callback_touches_alarm :
    let late : List QueryLabel := [.issue, .unref, .timeOut, .leave,
      .invoke (.server (some ⟨some "sink"⟩)), .ring]
    let early : List QueryLabel := [.issue, .unref, .invoke (.sink "" (some ⟨some "m"⟩) 0), .ring,
      .wake, .leave, .notify]
    (Steps.exec step start late).isSome ∧ ¬ Steps.Meets step InLifetime start late ∧
    (Steps.exec step start early).isSome ∧ ¬ Steps.Meets step InLifetime start early := by
  decide

end QueryRun
end WebAudioCapture
