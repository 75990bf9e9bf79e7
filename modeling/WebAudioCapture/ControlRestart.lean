import WebAudioCapture.Control

/-!
# A control after its shutdown

What callers learn from a control is the replies to their calls. Two controls
that differ in their error text alone reply alike, so a shut-down control is as
good as new when shutdown leaves none of the three connection flags set. It
clears only one of them; and it does not return at all while the thread it joins
runs a loop that it cannot tell to quit.
-/

namespace WebAudioCapture

inductive ControlCall where
  | init (env : InitEnv)
  | shutdown (stopping : List Delivery)
  | isReady
  | resolveTarget (requestedSink : String) (defaultSink monitor : QueryAnswer)
  | callback (delivery : Delivery)

/-- What a call returns. -/
inductive Reply where
  | status (status : Status)
  | ready (up : Bool)
  | target (target : Option Target)
  | done
  | never
  deriving DecidableEq, Repr

def Delivery.state : Delivery → ContextState
  | .current state => state
  | .stale state => state

/-- Where the current context is after a callback. -/
def Delivery.move (ctx : Option ContextState) : Delivery → Option ContextState
  | .current state => ctx.map fun _ => state
  | .stale _ => ctx

namespace Control

def perform (c : Control) : ControlCall → Option (Control × Reply)
  | .init env => (c.init env).map fun r => (r.1, .status r.2)
  | .shutdown stopping => (c.shutdown stopping).map fun c => (c, .done)
  | .isReady => some (c, .ready c.isReady)
  | .resolveTarget requestedSink defaultSink monitor =>
    let r := c.resolveTarget requestedSink defaultSink monitor
    some (r.1, .target r.2)
  | .callback delivery => some (c.deliver delivery, .done)

/-- The replies to a sequence of calls, up to one that never returns. -/
def replies (c : Control) : List ControlCall → List Reply
  | [] => []
  | call :: calls =>
    match c.perform call with
    | some (c, reply) => reply :: c.replies calls
    | none => [.never]

/-! ## The error text decides nothing -/

section
variable (c : Control) (e : String)

@[simp] theorem setError_setError (e' : String) : (c.setError e).setError e' = c.setError e' := rfl
@[simp] theorem setError_ctx : (c.setError e).ctx = c.ctx := rfl
@[simp] theorem setError_thread : (c.setError e).thread = c.thread := rfl
@[simp] theorem newMainloop_setError (made : Bool) :
    (c.setError e).newMainloop made = (c.newMainloop made).setError e := rfl
@[simp] theorem newContext_setError (made : Bool) :
    (c.setError e).newContext made = (c.newContext made).setError e := rfl
@[simp] theorem runLoop_setError : (c.setError e).runLoop = c.runLoop.setError e := rfl
@[simp] theorem joinLoop_setError : (c.setError e).joinLoop = c.joinLoop.setError e := rfl
@[simp] theorem release_setError : (c.setError e).release = c.release.setError e := rfl

@[simp] theorem deliver_setError (d : Delivery) :
    (c.setError e).deliver d = (c.deliver d).setError e := by
  cases d with
  | current state => cases state <;> rfl
  | stale state => cases state <;> rfl

@[simp] theorem deliverAll_setError (ds : List Delivery) :
    (c.setError e).deliverAll ds = (c.deliverAll ds).setError e := by
  induction ds generalizing c with
  | nil => rfl
  | cons d ds ih =>
    simp only [deliverAll, List.foldl_cons, deliver_setError]
    exact ih (c.deliver d)

/-- The same outcome but for the error text left behind. -/
def Alike {α : Type} (r r' : Control × α) : Prop := ∃ e, r' = (r.1.setError e, r.2)

theorem awaitConnection_setError : Alike c.awaitConnection (c.setError e).awaitConnection := by
  obtain ⟨_, _, _, ready, _, failed, _⟩ := c
  cases ready with
  | true => exact ⟨e, rfl⟩
  | false =>
    cases failed with
    | true => exact ⟨_, rfl⟩
    | false => exact ⟨_, rfl⟩

theorem connect_setError (env : InitEnv) :
    ∃ e', (c.setError e).connect env = (c.connect env).map fun r => (r.1.setError e', r.2) := by
  unfold connect
  simp only [deliverAll_setError, setError_thread, setError_setError, runLoop_setError]
  split
  · exact ⟨_, rfl⟩
  · split
    · exact ⟨e, rfl⟩
    · obtain ⟨e', same⟩ :=
        awaitConnection_setError ((c.deliverAll env.connecting).runLoop.deliverAll env.waiting) e
      exact ⟨e', by rw [same, Option.map_some]⟩

theorem init_setError (env : InitEnv) :
    ∃ e', (c.setError e).init env = (c.init env).map fun r => (r.1.setError e', r.2) := by
  unfold init
  simp only [newMainloop_setError, newContext_setError, setError_setError]
  split
  · exact ⟨_, rfl⟩
  · split
    · exact ⟨_, rfl⟩
    · exact connect_setError _ e env

theorem disconnect_setError : (c.setError e).disconnect = c.disconnect.setError e := by
  unfold disconnect
  simp only [setError_ctx]
  cases c.ctx with
  | none => rfl
  | some state =>
    dsimp only
    split
    · exact deliver_setError c e _
    · rfl

theorem shutdown_setError (stopping : List Delivery) :
    (c.setError e).shutdown stopping = (c.shutdown stopping).map fun c => c.setError e := by
  unfold shutdown
  simp only [deliverAll_setError, setError_thread, joinLoop_setError, disconnect_setError,
    release_setError]
  split <;> rfl

theorem finishQuery_setError (call timeoutText : String) (answer : QueryAnswer) :
    Alike (c.finishQuery call timeoutText answer)
      ((c.setError e).finishQuery call timeoutText answer) := by
  cases answer with
  | refused strerror => exact ⟨_, rfl⟩
  | timedOut => exact ⟨_, rfl⟩
  | rung result =>
    unfold finishQuery
    dsimp only
    split
    · exact ⟨e, rfl⟩
    · exact ⟨_, rfl⟩

theorem resolveMonitor_setError (sink : String) (answer : QueryAnswer) :
    Alike (c.resolveMonitor sink answer) ((c.setError e).resolveMonitor sink answer) := by
  obtain ⟨e', same⟩ : Alike (c.queryMonitor sink answer) ((c.setError e).queryMonitor sink answer) :=
    finishQuery_setError c e _ _ answer
  unfold resolveMonitor
  rw [same]
  obtain ⟨d, monitor⟩ := c.queryMonitor sink answer
  cases monitor with
  | none => exact ⟨e', rfl⟩
  | some monitor => exact ⟨e', rfl⟩

theorem resolveTarget_setError (requestedSink : String) (defaultSink monitor : QueryAnswer) :
    Alike (c.resolveTarget requestedSink defaultSink monitor)
      ((c.setError e).resolveTarget requestedSink defaultSink monitor) := by
  obtain ⟨e', asked⟩ :
      Alike (c.queryDefaultSink defaultSink) ((c.setError e).queryDefaultSink defaultSink) :=
    finishQuery_setError c e _ _ defaultSink
  have down : ((c.setError e).ctx.isNone || !(c.setError e).isReady) =
      (c.ctx.isNone || !c.isReady) := rfl
  unfold resolveTarget
  rw [down]
  split
  · exact ⟨_, rfl⟩
  · split
    · rw [asked]
      obtain ⟨d, sink⟩ := c.queryDefaultSink defaultSink
      cases sink with
      | none => exact ⟨e', rfl⟩
      | some sink =>
        dsimp only
        split
        · exact ⟨_, rfl⟩
        · exact resolveMonitor_setError d e' sink monitor
    · exact resolveMonitor_setError c e requestedSink monitor

theorem perform_setError (call : ControlCall) :
    ∃ e', (c.setError e).perform call =
      (c.perform call).map fun r => (r.1.setError e', r.2) := by
  cases call with
  | init env =>
    obtain ⟨e', same⟩ := init_setError c e env
    exact ⟨e', by simp only [perform, same, Option.map_map, Function.comp_def]⟩
  | shutdown stopping =>
    exact ⟨e, by simp only [perform, shutdown_setError, Option.map_map, Function.comp_def]⟩
  | isReady => exact ⟨e, rfl⟩
  | resolveTarget requestedSink defaultSink monitor =>
    obtain ⟨e', same⟩ := resolveTarget_setError c e requestedSink defaultSink monitor
    exact ⟨e', by simp only [perform, same, Option.map_some]⟩
  | callback d => exact ⟨e, by simp only [perform, deliver_setError, Option.map_some]⟩

/-- The error text of a control decides no reply. -/
theorem replies_setError (calls : List ControlCall) :
    (c.setError e).replies calls = c.replies calls := by
  induction calls generalizing c e with
  | nil => rfl
  | cons call calls ih =>
    obtain ⟨e', same⟩ := perform_setError c e call
    unfold replies
    rw [same]
    cases c.perform call with
    | none => rfl
    | some r => exact congrArg (r.2 :: ·) (ih r.1 e')

end

/-! ## What a shutdown leaves behind -/

@[simp] theorem deliver_ctx (c : Control) (d : Delivery) : (c.deliver d).ctx = d.move c.ctx := by
  cases d with
  | current state => cases state <;> rfl
  | stale state => cases state <;> rfl

@[simp] theorem deliver_thread (c : Control) (d : Delivery) : (c.deliver d).thread = c.thread := by
  cases d with
  | current state => cases state <;> rfl
  | stale state => cases state <;> rfl

@[simp] theorem deliver_failed (c : Control) (d : Delivery) :
    (c.deliver d).failed = (c.failed || d.state == .failed) := by
  cases d with
  | current state => cases state <;> simp [deliver, stateCallback, Delivery.state]
  | stale state => cases state <;> simp [deliver, stateCallback, Delivery.state]

@[simp] theorem deliver_terminated (c : Control) (d : Delivery) :
    (c.deliver d).terminated = (c.terminated || d.state == .terminated) := by
  cases d with
  | current state => cases state <;> simp [deliver, stateCallback, Delivery.state]
  | stale state => cases state <;> simp [deliver, stateCallback, Delivery.state]

theorem deliverAll_thread (c : Control) (ds : List Delivery) :
    (c.deliverAll ds).thread = c.thread := by
  induction ds generalizing c with
  | nil => rfl
  | cons d ds ih => exact (ih (c.deliver d)).trans (deliver_thread c d)

theorem deliverAll_ctx (c : Control) (ds : List Delivery) :
    (c.deliverAll ds).ctx = ds.foldl Delivery.move c.ctx := by
  induction ds generalizing c with
  | nil => rfl
  | cons d ds ih => exact (ih (c.deliver d)).trans (by rw [deliver_ctx, List.foldl_cons])

theorem deliverAll_failed (c : Control) (ds : List Delivery) :
    (c.deliverAll ds).failed = (c.failed || ds.any (·.state == .failed)) := by
  induction ds generalizing c with
  | nil => exact (Bool.or_false _).symm
  | cons d ds ih =>
    exact (ih (c.deliver d)).trans (by rw [deliver_failed, List.any_cons, Bool.or_assoc])

theorem deliverAll_terminated (c : Control) (ds : List Delivery) :
    (c.deliverAll ds).terminated = (c.terminated || ds.any (·.state == .terminated)) := by
  induction ds generalizing c with
  | nil => exact (Bool.or_false _).symm
  | cons d ds ih =>
    exact (ih (c.deliver d)).trans (by rw [deliver_terminated, List.any_cons, Bool.or_assoc])

/-- The context is live when shutdown disconnects it. -/
def liveAt (c : Control) (stopping : List Delivery) : Bool :=
  (stopping.foldl Delivery.move c.ctx).any ContextState.isGood

theorem disconnect_eq (c : Control) :
    c.disconnect = if c.ctx.any ContextState.isGood then c.deliver (.current .terminated) else c := by
  unfold disconnect
  cases c.ctx <;> rfl

/-- The join of a shutdown returns unless a later `init` has taken the thread's
loop out of reach. -/
theorem shutdown_returns_iff (c : Control) (stopping : List Delivery) :
    (∃ c', c.shutdown stopping = some c') ↔ c.thread ≠ .orphaned := by
  have same : (c.deliverAll stopping).thread = c.thread := deliverAll_thread c stopping
  unfold shutdown
  dsimp only
  rw [same]
  split
  · rename_i orphaned
    exact ⟨by rintro ⟨_, ⟨⟩⟩, fun reachable => absurd orphaned reachable⟩
  · rename_i reachable
    exact ⟨fun _ => reachable, fun _ => ⟨_, rfl⟩⟩

theorem shutdown_eq {c c' : Control} {stopping : List Delivery}
    (h : c.shutdown stopping = some c') :
    c' = ({ failed := c.failed || stopping.any (·.state == .failed)
            terminated := c.terminated || stopping.any (·.state == .terminated) ||
              c.liveAt stopping } : Control).setError c'.error := by
  unfold shutdown at h
  dsimp only at h
  split at h
  · cases h
  · cases h
    rw [disconnect_eq, liveAt, ← deliverAll_ctx, ← deliverAll_failed, ← deliverAll_terminated]
    have same : (c.deliverAll stopping).joinLoop.ctx = (c.deliverAll stopping).ctx := rfl
    rw [same]
    cases live : (c.deliverAll stopping).ctx.any ContextState.isGood with
    | true => simp [release, setError, joinLoop, deliver, stateCallback]
    | false => simp [release, setError, joinLoop]

/-- Shutdown returns, and nothing has failed or ended then: not before it, not by
a callback while it stops the loop, not by its own disconnect. -/
structure Unbroken (c : Control) (stopping : List Delivery) : Prop where
  joins : c.thread ≠ .orphaned
  failed : c.failed = false
  terminated : c.terminated = false
  quiet : ∀ d ∈ stopping, d.state ≠ .failed ∧ d.state ≠ .terminated
  idle : c.liveAt stopping = false

/-- Connect, and ask whether the connection is up. -/
def reconnect : List ControlCall := [.init { waiting := [.current .ready] }, .isReady]

theorem replies_reconnect (failed terminated : Bool) (e : String) :
    (({ failed, terminated } : Control).setError e).replies reconnect =
      [.status .ok, .ready (!failed && !terminated)] := by
  cases failed <;> cases terminated <;> rfl

/-- A shutdown returns, and the control then replies to every later sequence of
calls like a new one, exactly when the thread it joins runs the loop it has told
to quit, nothing had failed or ended, and the context it disconnected was not
live. -/
theorem shutdown_restores_iff (c : Control) (stopping : List Delivery) :
    (∃ c', c.shutdown stopping = some c' ∧
      ∀ calls, c'.replies calls = ({} : Control).replies calls) ↔ c.Unbroken stopping := by
  constructor
  · rintro ⟨c', returned, same⟩
    have left := shutdown_eq returned
    have up := same reconnect
    have fresh := replies_reconnect false false ""
    rw [left, replies_reconnect] at up
    replace up := up.trans fresh
    simp only [List.cons.injEq, Reply.ready.injEq, and_true, true_and, Bool.not_false,
      Bool.and_self, Bool.and_eq_true, Bool.not_eq_true', Bool.or_eq_false_iff,
      List.any_eq_false, beq_iff_eq] at up
    obtain ⟨⟨failed, neverFailed⟩, ⟨terminated, neverTerminated⟩, idle⟩ := up
    exact ⟨(shutdown_returns_iff c stopping).mp ⟨c', returned⟩, failed, terminated,
      fun d at_ => ⟨neverFailed d at_, neverTerminated d at_⟩, idle⟩
  · rintro ⟨joins, failed, terminated, quiet, idle⟩
    obtain ⟨c', returned⟩ := (shutdown_returns_iff c stopping).mpr joins
    have left := shutdown_eq returned
    have neverFailed : stopping.any (·.state == .failed) = false :=
      List.any_eq_false.mpr fun d at_ => by simpa using (quiet d at_).1
    have neverTerminated : stopping.any (·.state == .terminated) = false :=
      List.any_eq_false.mpr fun d at_ => by simpa using (quiet d at_).2
    refine ⟨c', returned, fun calls => ?_⟩
    rw [left, failed, terminated, neverFailed, neverTerminated, idle]
    exact replies_setError {} c'.error calls

/-- A connection that never got as far as a live context. -/
theorem shutdown_restores_refused : ∃ c c' : Control,
    ({} : Control).init { contextNew := false } = some (c, .errPulse) ∧
    c.shutdown [] = some c' ∧ ∀ calls, c'.replies calls = ({} : Control).replies calls := by
  obtain ⟨c', returned, same⟩ := (shutdown_restores_iff
    { mainloop := true, error := "pa_context_new() failed" } []).mpr
      ⟨by rintro ⟨⟩, rfl, rfl, fun _ at_ => (List.not_mem_nil at_).elim, rfl⟩
  exact ⟨_, c', rfl, returned, same⟩

/-- After an `init` that timed out and one that failed at once, nothing had failed
or ended, and shutdown waits forever for the first one's thread. -/
example : (({} : Control).init {}).bind (fun r => r.1.init { contextNew := false }) =
      some ({ mainloop := true, thread := .orphaned, error := "pa_context_new() failed" },
        .errPulse) ∧
    ({ mainloop := true, thread := .orphaned, error := "pa_context_new() failed" } :
      Control).shutdown [] = none := ⟨rfl, rfl⟩

/-- One session, started and shut down: the next one connects and is not ready,
where that of a new control is. -/
theorem shutdown_spoils_reconnect : ∃ c c' : Control,
    ({} : Control).init { waiting := [.current .ready] } = some (c, .ok) ∧
    c.shutdown [] = some c' ∧
    c'.replies reconnect = [.status .ok, .ready false] ∧
    ({} : Control).replies reconnect = [.status .ok, .ready true] :=
  ⟨_, _, rfl, rfl, rfl, rfl⟩

end Control
end WebAudioCapture
