import WebAudioCapture.Handle

/-!
# `capture_loop`

The capture thread, cut at every access to what other threads share and at
every call that can take its time. What the server answers is an argument of
the step in which the call returns.
-/

namespace WebAudioCapture

variable {β : Type}

/-- Where the capture thread stands. -/
inductive CapturePc where
  | head
  | resolving
  | publishing (target : Target)
  | opening (target : Target)
  | flagOpenFailure
  | flagReopen
  | reading
  | flagReadFailure
  | pushing
  | rechecking
  | scheduling
  | reresolving
  | retrying (until_ : Int)
  | exiting
  | notifying
  | finished
  deriving DecidableEq, Repr

/-- The locals of the loop. -/
structure CaptureThread (β : Type) where
  pc : CapturePc := .head
  buffer : List β
  mic : Option Mic := none
  hadStream : Bool := false
  deriving DecidableEq, Repr

/-- What a step learns from the server: how the queries of a resolve end, why
a stream is refused, what a read leaves in the buffer and why it failed. -/
inductive CaptureInput (β : Type) where
  | run
  | resolve (defaultSink monitor : QueryAnswer)
  | openStream (refusal : Option String)
  | read (bytes : List β) (failure : Option String)
  deriving DecidableEq, Repr

/-- When the sink is checked next. -/
def Config.recheckAfter (config : Config) (now : Int) : Int :=
  now + config.sinkRecheckMs.toNat * millisecond

def Capture.pushFrame (c : Capture β) (frame : List β) : Option (Capture β) :=
  (c.queue.push frame).map fun (queue, _) => { c with queue }

namespace CaptureThread

/-- A thread about to enter the loop. -/
def spawn [Zero β] (config : Config) : CaptureThread β :=
  { buffer := List.replicate config.frameBytes 0 }

def goto (t : CaptureThread β) (pc : CapturePc) : CaptureThread β := { t with pc }

/-- `wait_for_stop` for the retry delay. -/
def retry (t : CaptureThread β) (now : Int) : CaptureThread β :=
  t.goto (.retrying (now + reinitDelay * millisecond))

/-- The loop's condition and the branch on the stream. -/
def top (t : CaptureThread β) (c : Capture β) : CapturePc :=
  if c.stopRequested then .exiting
  else if t.mic.isNone then .resolving
  else .reading

/-- The resolve before an open. -/
def resolved (t : CaptureThread β) (c : Capture β) (now : Int) :
    Control × Option Target → Capture β × CaptureThread β
  | (control, none) => ({ c with control }.setError control.error, t.retry now)
  | (control, some target) => ({ c with control }, t.goto (.publishing target))

/-- After `mic_t::open`; only a reopen raises flags. -/
def opened (t : CaptureThread β) (c : Capture β) (target : Target) (now : Int) :
    Except String Mic → Capture β × CaptureThread β
  | .error e => (c.setError e, t.goto .flagOpenFailure)
  | .ok mic =>
    ({ c with currentMonitor := target.monitor, nextSinkCheck := c.config.recheckAfter now },
      { t with
        mic := some mic
        hadStream := true
        pc := if t.hadStream then .flagReopen else .reading })

/-- After `mic_t::read`. -/
def gotFrame (t : CaptureThread β) (c : Capture β) (bytes : List β) :
    Option String → Capture β × CaptureThread β
  | none => (c, { t with buffer := bytes, pc := .pushing })
  | some strerror =>
    (c.setError (Mic.readError strerror),
      { t with buffer := bytes, mic := none, pc := .flagReadFailure })

/-- The default sink has moved away from the monitor being recorded. -/
def moved (c : Capture β) : Option Target → Bool
  | none => false
  | some target => target.monitor ≠ c.currentMonitor

/-- After the resolve of a sink check. -/
def checked (t : CaptureThread β) (c : Capture β) (found : Control × Option Target) :
    Capture β × CaptureThread β :=
  ({ c with control := found.1 },
    { t with mic := if moved c found.2 then none else t.mic, pc := .head })

def sinkCheckDue (c : Capture β) (now : Int) : Bool :=
  c.config.requestedSink.isEmpty && decide (c.config.sinkRecheckMs > 0) &&
    decide (c.nextSinkCheck ≤ now)

/-- One step at clock reading `now`. None when the thread does not take such a
step now, or on undefined behaviour. -/
def step (t : CaptureThread β) (c : Capture β) (now : Int) (input : CaptureInput β) :
    Option (Capture β × CaptureThread β) :=
  match t.pc, input with
  | .head, .run => some (c, t.goto (t.top c))
  | .resolving, .resolve defaultSink monitor =>
    some (t.resolved c now (c.control.resolveTarget c.config.requestedSink defaultSink monitor))
  | .publishing target, .run => some (c.publishFormat target, t.goto (.opening target))
  | .opening target, .openStream refusal =>
    some (t.opened c target now (Mic.openOn target.monitor c.config.micFormat refusal))
  | .flagOpenFailure, .run => some (c.raiseReopen, t.retry now)
  | .flagReopen, .run => some (c.raiseReopen, t.goto .reading)
  | .reading, .read bytes failure =>
    if t.mic.isSome ∧ bytes.length = t.buffer.length then some (t.gotFrame c bytes failure)
    else none
  | .flagReadFailure, .run => some (c.raiseReopen, t.retry now)
  | .pushing, .run => (c.pushFrame t.buffer).map fun c => (c, t.goto .rechecking)
  | .rechecking, .run => some (c, t.goto (if sinkCheckDue c now then .scheduling else .head))
  | .scheduling, .run =>
    some ({ c with nextSinkCheck := c.config.recheckAfter now }, t.goto .reresolving)
  | .reresolving, .resolve defaultSink monitor =>
    some (t.checked c (c.control.resolveTarget "" defaultSink monitor))
  | .retrying until_, .run =>
    if c.stopRequested then some (c, t.goto .exiting)
    else if until_ ≤ now then some (c, t.goto .head)
    else none
  | .exiting, .run => some ({ c with running := false }, t.goto .notifying)
  | .notifying, .run => some (c, t.goto .finished)
  | _, _ => none

/-! ## What a step can do -/

/-- The steps of the loop: from `t` and `c` at reading `now`, to. -/
inductive Moves (t : CaptureThread β) (c : Capture β) (now : Int) :
    Capture β → CaptureThread β → Prop
  | loop (at_ : t.pc = .head) : Moves t c now c (t.goto (t.top c))
  | unresolved (control : Control) (defaultSink monitor : QueryAnswer) (at_ : t.pc = .resolving)
      (found : c.control.resolveTarget c.config.requestedSink defaultSink monitor =
        (control, none)) :
      Moves t c now ({ c with control }.setError control.error) (t.retry now)
  | resolve (control : Control) (target : Target) (defaultSink monitor : QueryAnswer)
      (at_ : t.pc = .resolving)
      (found : c.control.resolveTarget c.config.requestedSink defaultSink monitor =
        (control, some target)) :
      Moves t c now { c with control } (t.goto (.publishing target))
  | publish (target : Target) (at_ : t.pc = .publishing target) :
      Moves t c now (c.publishFormat target) (t.goto (.opening target))
  | refuse (target : Target) (message : String) (at_ : t.pc = .opening target) :
      Moves t c now (c.setError message) (t.goto .flagOpenFailure)
  | openStream (target : Target) (mic : Mic) (at_ : t.pc = .opening target)
      (source : mic.source = target.monitor) :
      Moves t c now
        { c with currentMonitor := target.monitor, nextSinkCheck := c.config.recheckAfter now }
        { t with
          mic := some mic
          hadStream := true
          pc := if t.hadStream then .flagReopen else .reading }
  | raise (next : CapturePc)
      (at_ : (t.pc = .flagOpenFailure ∨ t.pc = .flagReadFailure) ∧
          next = .retrying (now + reinitDelay * millisecond) ∨
        t.pc = .flagReopen ∧ next = .reading) :
      Moves t c now c.raiseReopen (t.goto next)
  | read (bytes : List β) (at_ : t.pc = .reading) (live : t.mic.isSome = true)
      (whole : bytes.length = t.buffer.length) :
      Moves t c now c { t with buffer := bytes, pc := .pushing }
  | lose (bytes : List β) (message : String) (at_ : t.pc = .reading)
      (live : t.mic.isSome = true) (whole : bytes.length = t.buffer.length) :
      Moves t c now (c.setError message)
        { t with buffer := bytes, mic := none, pc := .flagReadFailure }
  | push (c' : Capture β) (at_ : t.pc = .pushing) (pushed : c.pushFrame t.buffer = some c') :
      Moves t c now c' (t.goto .rechecking)
  | check (at_ : t.pc = .rechecking) :
      Moves t c now c (t.goto (if sinkCheckDue c now then .scheduling else .head))
  | schedule (at_ : t.pc = .scheduling) :
      Moves t c now { c with nextSinkCheck := c.config.recheckAfter now } (t.goto .reresolving)
  | checked (control : Control) (found : Option Target) (defaultSink monitor : QueryAnswer)
      (at_ : t.pc = .reresolving)
      (answer : c.control.resolveTarget "" defaultSink monitor = (control, found)) :
      Moves t c now { c with control }
        { t with mic := if moved c found then none else t.mic, pc := .head }
  | retried (until_ : Int) (next : CapturePc) (at_ : t.pc = .retrying until_)
      (leads : c.stopRequested = true ∧ next = .exiting ∨
        c.stopRequested = false ∧ until_ ≤ now ∧ next = .head) :
      Moves t c now c (t.goto next)
  | leave (at_ : t.pc = .exiting) : Moves t c now { c with running := false } (t.goto .notifying)
  | notify (at_ : t.pc = .notifying) : Moves t c now c (t.goto .finished)

section
variable {t t' : CaptureThread β} {c c' : Capture β} {now : Int}

theorem resolved_moves (at_ : t.pc = .resolving) (defaultSink monitor : QueryAnswer) :
    let next := t.resolved c now
      (c.control.resolveTarget c.config.requestedSink defaultSink monitor)
    Moves t c now next.1 next.2 := by
  cases found : c.control.resolveTarget c.config.requestedSink defaultSink monitor with
  | mk control target =>
    cases target with
    | none => exact .unresolved control defaultSink monitor at_ found
    | some target => exact .resolve control target defaultSink monitor at_ found

theorem opened_moves {target : Target} (at_ : t.pc = .opening target) (refusal : Option String) :
    let next := t.opened c target now (Mic.openOn target.monitor c.config.micFormat refusal)
    Moves t c now next.1 next.2 := by
  cases answer : Mic.openOn target.monitor c.config.micFormat refusal with
  | error message => exact .refuse target message at_
  | ok mic => exact .openStream target mic at_ (Mic.openOn_source answer)

theorem step_moves {input : CaptureInput β} (taken : t.step c now input = some (c', t')) :
    Moves t c now c' t' := by
  unfold step at taken
  split at taken
  · rename_i at_
    cases taken
    exact .loop at_
  · rename_i defaultSink monitor at_
    have moved : Moves t c now _ _ := resolved_moves at_ defaultSink monitor
    rwa [Option.some.inj taken] at moved
  · rename_i target at_
    cases taken
    exact .publish target at_
  · rename_i target refusal at_
    have moved : Moves t c now _ _ := opened_moves at_ refusal
    rwa [Option.some.inj taken] at moved
  · rename_i at_
    cases taken
    exact .raise _ (.inl ⟨.inl at_, rfl⟩)
  · rename_i at_
    cases taken
    exact .raise _ (.inr ⟨at_, rfl⟩)
  · rename_i bytes failure at_
    split at taken
    · rename_i whole
      cases failure with
      | none => cases taken; exact .read bytes at_ whole.1 whole.2
      | some message => cases taken; exact .lose bytes _ at_ whole.1 whole.2
    · cases taken
  · rename_i at_
    cases taken
    exact .raise _ (.inl ⟨.inr at_, rfl⟩)
  · rename_i at_
    simp only [Option.map_eq_some_iff, Prod.mk.injEq] at taken
    obtain ⟨pushed, took, rfl, rfl⟩ := taken
    exact .push pushed at_ took
  · rename_i at_
    cases taken
    exact .check at_
  · rename_i at_
    cases taken
    exact .schedule at_
  · rename_i defaultSink monitor at_
    cases taken
    exact .checked _ _ defaultSink monitor at_ rfl
  · rename_i until_ at_
    split at taken
    · rename_i stop
      cases taken
      exact .retried until_ _ at_ (.inl ⟨stop, rfl⟩)
    · rename_i going
      split at taken
      · rename_i late
        cases taken
        exact .retried until_ _ at_ (.inr ⟨by simpa using going, late, rfl⟩)
      · cases taken
  · rename_i at_
    cases taken
    exact .leave at_
  · rename_i at_
    cases taken
    exact .notify at_
  · cases taken

end

/-! ## Where a step leads -/

/-- From one place of the loop to the next, at reading `now`. -/
inductive Leads (asked : Bool) (now : Int) : CapturePc → CapturePc → Prop
  | stop : asked = true → Leads asked now .head .exiting
  | reopen : Leads asked now .head .resolving
  | record : Leads asked now .head .reading
  | unresolved : Leads asked now .resolving (.retrying (now + reinitDelay * millisecond))
  | resolved (target : Target) : Leads asked now .resolving (.publishing target)
  | published (target : Target) : Leads asked now (.publishing target) (.opening target)
  | refused (target : Target) : Leads asked now (.opening target) .flagOpenFailure
  | reopened (target : Target) : Leads asked now (.opening target) .flagReopen
  | opened (target : Target) : Leads asked now (.opening target) .reading
  | refusalTold : Leads asked now .flagOpenFailure (.retrying (now + reinitDelay * millisecond))
  | reopenTold : Leads asked now .flagReopen .reading
  | lossTold : Leads asked now .flagReadFailure (.retrying (now + reinitDelay * millisecond))
  | gotFrame : Leads asked now .reading .pushing
  | lost : Leads asked now .reading .flagReadFailure
  | pushed : Leads asked now .pushing .rechecking
  | due : Leads asked now .rechecking .scheduling
  | notDue : Leads asked now .rechecking .head
  | scheduled : Leads asked now .scheduling .reresolving
  | checked : Leads asked now .reresolving .head
  | woken (until_ : Int) : asked = true → Leads asked now (.retrying until_) .exiting
  | retried (until_ : Int) : until_ ≤ now → Leads asked now (.retrying until_) .head
  | left : Leads asked now .exiting .notifying
  | notified : Leads asked now .notifying .finished

theorem moves_leads {t t' : CaptureThread β} {c c' : Capture β} {now : Int}
    (moved : t.Moves c now c' t') : Leads c.stopRequested now t.pc t'.pc := by
  cases moved with
  | loop at_ =>
    rw [at_]
    simp only [goto, top]
    split
    · exact .stop ‹_›
    · split
      · exact .reopen
      · exact .record
  | unresolved control defaultSink monitor at_ found => rw [at_]; exact .unresolved
  | resolve control target defaultSink monitor at_ found => rw [at_]; exact .resolved target
  | publish target at_ => rw [at_]; exact .published target
  | refuse target message at_ => rw [at_]; exact .refused target
  | openStream target mic at_ source =>
    rw [at_]
    dsimp only
    split
    · exact .reopened target
    · exact .opened target
  | raise next at_ =>
    obtain ⟨at_ | at_, rfl⟩ | ⟨at_, rfl⟩ := at_
    · rw [at_]; exact .refusalTold
    · rw [at_]; exact .lossTold
    · rw [at_]; exact .reopenTold
  | read bytes at_ live whole => rw [at_]; exact .gotFrame
  | lose bytes message at_ live whole => rw [at_]; exact .lost
  | push c' at_ pushed => rw [at_]; exact .pushed
  | check at_ =>
    rw [at_]
    dsimp only [goto]
    split
    · exact .due
    · exact .notDue
  | schedule at_ => rw [at_]; exact .scheduled
  | checked control found defaultSink monitor at_ answer => rw [at_]; exact .checked
  | retried until_ next at_ leads =>
    rw [at_]
    obtain ⟨asked, rfl⟩ | ⟨_, late, rfl⟩ := leads
    · exact .woken until_ asked
    · exact .retried until_ late
  | leave at_ => rw [at_]; exact .left
  | notify at_ => rw [at_]; exact .notified

theorem moves_config {t t' : CaptureThread β} {c c' : Capture β} {now : Int}
    (moved : t.Moves c now c' t') : c'.config = c.config := by
  cases moved with
  | push c' at_ pushed =>
    obtain ⟨_, _, rfl⟩ := Option.map_eq_some_iff.mp pushed
    rfl
  | _ => rfl

/-- No thread raises `running`. -/
theorem moves_running {t t' : CaptureThread β} {c c' : Capture β} {now : Int}
    (moved : t.Moves c now c' t') : c'.running = c.running ∨ c'.running = false := by
  cases moved with
  | push c' at_ pushed =>
    obtain ⟨_, _, rfl⟩ := Option.map_eq_some_iff.mp pushed
    exact .inl rfl
  | leave at_ => exact .inr rfl
  | _ => exact .inl rfl

theorem top_cases (t : CaptureThread β) (c : Capture β) :
    t.top c = .exiting ∧ c.stopRequested = true ∨ t.top c = .resolving ∨ t.top c = .reading := by
  unfold top
  split
  · rename_i asked
    exact .inl ⟨rfl, asked⟩
  · split
    · exact .inr (.inl rfl)
    · exact .inr (.inr rfl)

/-- The capture thread has cleared `running`. -/
def isDone (t : CaptureThread β) : Bool :=
  match t.pc with
  | .notifying | .finished => true
  | _ => false

/-- What is left for a thread to do on its way out. -/
theorem moves_isDone {t t' : CaptureThread β} {c c' : Capture β} {now : Int}
    (moved : t.Moves c now c' t') (done : t'.isDone = true) :
    t.pc = .exiting ∧ t'.pc = .notifying ∧ c' = { c with running := false } ∨
      t.pc = .notifying ∧ c' = c := by
  cases moved with
  | loop at_ =>
    obtain ⟨next, _⟩ | next | next := t.top_cases c
    · rw [isDone, goto, next] at done
      cases done
    · rw [isDone, goto, next] at done
      cases done
    · rw [isDone, goto, next] at done
      cases done
  | openStream target mic at_ source =>
    cases had : t.hadStream with
    | true => simp only [isDone, had, if_true, Bool.false_eq_true] at done
    | false => simp only [isDone, had, Bool.false_eq_true, if_false] at done
  | raise next at_ =>
    obtain ⟨_, rfl⟩ | ⟨_, rfl⟩ := at_
    · cases done
    · cases done
  | check at_ =>
    split at done
    · cases done
    · cases done
  | retried until_ next at_ leads =>
    obtain ⟨_, rfl⟩ | ⟨_, _, rfl⟩ := leads
    · cases done
    · cases done
  | leave at_ => exact .inl ⟨at_, rfl, rfl⟩
  | notify at_ => exact .inr ⟨at_, rfl⟩
  | _ => cases done

/-- A capture thread that has left its loop changes nothing any more. -/
theorem moves_done {t t' : CaptureThread β} {c c' : Capture β} {now : Int}
    (moved : t.Moves c now c' t') (done : t.isDone = true) : t'.isDone = true ∧ c' = c := by
  cases moved with
  | notify at_ => exact ⟨rfl, rfl⟩
  | raise next at_ =>
    obtain ⟨at_ | at_, _⟩ | ⟨at_, _⟩ := at_
    · rw [isDone, at_] at done; cases done
    · rw [isDone, at_] at done; cases done
    · rw [isDone, at_] at done; cases done
  | loop at_ | unresolved _ _ _ at_ | resolve _ _ _ _ at_ | publish _ at_ | refuse _ _ at_
  | openStream _ _ at_ | read _ at_ | lose _ _ at_ | push _ at_ | check at_ | schedule at_
  | checked _ _ _ _ at_ | retried _ _ at_ | leave at_ =>
    rw [isDone, at_] at done
    cases done

/-- A thread returns from its last step only. -/
theorem moves_finished {t t' : CaptureThread β} {c c' : Capture β} {now : Int}
    (moved : t.Moves c now c' t') (done : t'.pc = .finished) : t.pc = .notifying := by
  obtain ⟨_, notifying, _⟩ | ⟨at_, _⟩ := moves_isDone moved (by rw [isDone, done])
  · rw [done] at notifying
    cases notifying
  · exact at_

/-- The thread is inside the loop of `capture_loop`. -/
def inLoop (t : CaptureThread β) : Bool :=
  match t.pc with
  | .exiting | .notifying | .finished => false
  | _ => true

theorem inLoop_going {t : CaptureThread β} (h : t.inLoop = true) :
    t.isDone = false := by
  unfold inLoop at h
  unfold isDone
  split
  · rename_i at_
    rw [at_] at h
    cases h
  · rename_i at_
    rw [at_] at h
    cases h
  · rfl

/-- A thread leaves its loop only when asked to. -/
theorem moves_inLoop {t t' : CaptureThread β} {c c' : Capture β} {now : Int}
    (moved : t.Moves c now c' t') (going : c.stopRequested = false) (looping : t.inLoop = true) :
    t'.inLoop = true := by
  have leads := moves_leads moved
  unfold inLoop at looping ⊢
  rw [going] at leads
  generalize t.pc = pc at leads looping
  generalize t'.pc = next at leads ⊢
  cases leads with
  | stop asked => cases asked
  | woken until_ asked => cases asked
  | left => cases looping
  | notified => cases looping
  | _ => rfl

theorem moves_exiting {t t' : CaptureThread β} {c c' : Capture β} {now : Int}
    (moved : t.Moves c now c' t') (leaves : t'.pc = .exiting) : c.stopRequested = true := by
  have leads := moves_leads moved
  rw [leaves] at leads
  generalize t.pc = pc at leads
  cases leads with
  | stop asked => exact asked
  | woken until_ asked => exact asked

/-- A thread that has returned takes no step. -/
theorem moves_unfinished {t t' : CaptureThread β} {c c' : Capture β} {now : Int}
    (moved : t.Moves c now c' t') : t.pc ≠ .finished := by
  intro done
  have leads := moves_leads moved
  rw [done] at leads
  cases leads

/-! ## What a step learns -/

section
variable {t t' : CaptureThread β} {c c' : Capture β} {now : Int} {input : CaptureInput β}

theorem step_resolving (at_ : t.pc = .resolving) (taken : t.step c now input = some (c', t')) :
    ∃ defaultSink monitor, input = .resolve defaultSink monitor ∧ (c', t') = t.resolved c now
      (c.control.resolveTarget c.config.requestedSink defaultSink monitor) := by
  unfold step at taken
  rw [at_] at taken
  cases input with
  | resolve defaultSink monitor =>
    exact ⟨defaultSink, monitor, rfl, (Option.some.inj taken).symm⟩
  | run => cases taken
  | openStream refusal => cases taken
  | read bytes failure => cases taken

theorem step_notifying (at_ : t.pc = .notifying) (taken : t.step c now input = some (c', t')) :
    c' = c ∧ t' = t.goto .finished := by
  unfold step at taken
  rw [at_] at taken
  cases input with
  | run =>
    cases taken
    exact ⟨rfl, rfl⟩
  | resolve defaultSink monitor => cases taken
  | openStream refusal => cases taken
  | read bytes failure => cases taken

theorem step_opening {target : Target} (at_ : t.pc = .opening target)
    (taken : t.step c now input = some (c', t')) :
    ∃ refusal, input = .openStream refusal ∧ (c', t') = t.opened c target now
      (Mic.openOn target.monitor c.config.micFormat refusal) := by
  unfold step at taken
  rw [at_] at taken
  cases input with
  | openStream refusal => exact ⟨refusal, rfl, (Option.some.inj taken).symm⟩
  | run => cases taken
  | resolve defaultSink monitor => cases taken
  | read bytes failure => cases taken

theorem step_reading (at_ : t.pc = .reading) (taken : t.step c now input = some (c', t')) :
    ∃ bytes failure, input = .read bytes failure ∧ (c', t') = t.gotFrame c bytes failure := by
  unfold step at taken
  rw [at_] at taken
  cases input with
  | read bytes failure =>
    dsimp only at taken
    split at taken
    · exact ⟨bytes, failure, rfl, (Option.some.inj taken).symm⟩
    · cases taken
  | run => cases taken
  | resolve defaultSink monitor => cases taken
  | openStream refusal => cases taken

theorem step_reresolving (at_ : t.pc = .reresolving) (taken : t.step c now input = some (c', t')) :
    ∃ defaultSink monitor, input = .resolve defaultSink monitor ∧
      (c', t') = t.checked c (c.control.resolveTarget "" defaultSink monitor) := by
  unfold step at taken
  rw [at_] at taken
  cases input with
  | resolve defaultSink monitor =>
    exact ⟨defaultSink, monitor, rfl, (Option.some.inj taken).symm⟩
  | run => cases taken
  | openStream refusal => cases taken
  | read bytes failure => cases taken

end

/-! ## When a stream is open -/

/-- Whether a stream is open, where the program counter tells. -/
def streaming : CapturePc → Option Bool
  | .resolving | .publishing _ | .opening _ | .flagOpenFailure | .flagReadFailure
  | .retrying _ => some false
  | .flagReopen | .reading | .pushing | .rechecking | .scheduling | .reresolving => some true
  | .head | .exiting | .notifying | .finished => none

def Consistent (t : CaptureThread β) : Prop := ∀ b, streaming t.pc = some b → t.mic.isSome = b

theorem top_consistent (t : CaptureThread β) (c : Capture β) :
    (t.goto (t.top c)).Consistent := by
  intro b at_
  simp only [goto, top] at at_ ⊢
  split at at_
  · cases at_
  · split at at_
    · rename_i closed
      cases at_
      rw [Option.isNone_iff_eq_none.mp closed]
      rfl
    · rename_i live
      cases at_
      exact Option.isSome_iff_ne_none.mpr (by simpa using live)

theorem moves_consistent {t t' : CaptureThread β} {c c' : Capture β} {now : Int}
    (h : t.Consistent) (moved : t.Moves c now c' t') : t'.Consistent := by
  -- where the counter tells, it tells the same before and after
  have along : ∀ b pc, streaming t.pc = some b → streaming pc = some b → (t.goto pc).Consistent := by
    intro b pc before after b' at_
    rw [show streaming pc = some b' from at_] at after
    cases after
    exact h b before
  have anywhere : ∀ pc, streaming pc = none → (t.goto pc).Consistent := by
    intro pc none b at_
    rw [show streaming pc = some b from at_] at none
    cases none
  cases moved with
  | loop at_ => exact top_consistent t c
  | unresolved control defaultSink monitor at_ found => exact along false _ (at_ ▸ rfl) rfl
  | resolve control target defaultSink monitor at_ found => exact along false _ (at_ ▸ rfl) rfl
  | publish target at_ => exact along false _ (at_ ▸ rfl) rfl
  | refuse target message at_ => exact along false _ (at_ ▸ rfl) rfl
  | openStream target mic at_ source =>
    intro b at_
    dsimp only at at_ ⊢
    split at at_
    · cases at_; rfl
    · cases at_; rfl
  | raise next at_ =>
    obtain ⟨at_ | at_, rfl⟩ | ⟨at_, rfl⟩ := at_
    · exact along false _ (at_ ▸ rfl) rfl
    · exact along false _ (at_ ▸ rfl) rfl
    · exact along true _ (at_ ▸ rfl) rfl
  | read bytes at_ live whole =>
    intro b at_
    cases at_
    exact live
  | lose bytes message at_ live whole =>
    intro b at_
    cases at_
    rfl
  | push c' at_ pushed => exact along true _ (at_ ▸ rfl) rfl
  | check at_ =>
    split
    · exact along true _ (at_ ▸ rfl) rfl
    · exact anywhere _ rfl
  | schedule at_ => exact along true _ (at_ ▸ rfl) rfl
  | checked control found defaultSink monitor at_ answer =>
    intro b at_
    cases at_
  | retried until_ next at_ leads =>
    obtain ⟨_, rfl⟩ | ⟨_, _, rfl⟩ := leads
    · exact anywhere _ rfl
    · exact anywhere _ rfl
  | leave at_ => exact anywhere _ rfl
  | notify at_ => exact anywhere _ rfl

end CaptureThread
end WebAudioCapture
