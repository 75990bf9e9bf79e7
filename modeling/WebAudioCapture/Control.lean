import WebAudioCapture.Abi
import WebAudioCapture.Query

/-!
# `control_t`

The connection to the audio server (`pulse_control.cpp`). What libpulse does
during a call, the callbacks it runs included, is an argument of the call.
-/

namespace WebAudioCapture

/-- `pa_context_state_t`. -/
inductive ContextState where
  | unconnected
  | connecting
  | authorizing
  | settingName
  | ready
  | failed
  | terminated
  deriving DecidableEq, Repr

/-- `PA_CONTEXT_IS_GOOD`: the context is live. -/
def ContextState.isGood : ContextState → Bool
  | .connecting | .authorizing | .settingName | .ready => true
  | _ => false

/-- A state callback: the current context moved to a state, or one the
control no longer points to did. -/
inductive Delivery where
  | current (state : ContextState)
  | stale (state : ContextState)
  deriving DecidableEq, Repr

/-- `_thread`: not joinable, running the loop `_mainloop` points to, or running
one it no longer points to. -/
inductive LoopThread where
  | none
  | current
  | orphaned
  deriving DecidableEq, Repr

def LoopThread.joinable : LoopThread → Bool
  | .none => false
  | _ => true

/-- `target_t`. -/
structure Target where
  sink : String
  monitor : String
  deriving DecidableEq, Repr

structure Control where
  mainloop : Bool := false
  ctx : Option ContextState := none
  thread : LoopThread := .none
  ready : Bool := false
  terminated : Bool := false
  failed : Bool := false
  error : String := ""
  deriving DecidableEq, Repr

/-- What libpulse does during one `init`: the outcome of each call, the
callbacks it runs inside `pa_context_connect`, and those delivered before the
wait last looks at its predicate. -/
structure InitEnv where
  mainloopNew : Bool := true
  contextNew : Bool := true
  connecting : List Delivery := []
  connect : Bool := true
  strerror : String := ""
  waiting : List Delivery := []
  deriving DecidableEq, Repr

/-- How a query ended for the thread that issued it. -/
inductive QueryAnswer where
  | refused (strerror : String)
  | timedOut
  | rung (result : QueryResult)
  deriving DecidableEq, Repr

namespace Control

def setError (c : Control) (message : String) : Control := { c with error := message }

/-- `state_callback`, after the context's state has been read. -/
def stateCallback (c : Control) : ContextState → Control
  | .ready => { c with ready := true }
  | .failed => { c with failed := true }
  | .terminated => { c with terminated := true }
  | _ => c

def deliver (c : Control) : Delivery → Control
  | .current state => { c with ctx := c.ctx.map fun _ => state }.stateCallback state
  | .stale state => c.stateCallback state

def deliverAll (c : Control) (callbacks : List Delivery) : Control := callbacks.foldl deliver c

/-- `_mainloop` is overwritten: a thread still running the old loop stays. -/
def newMainloop (c : Control) (made : Bool) : Control :=
  { c with mainloop := made, thread := if c.thread.joinable then .orphaned else .none }

def newContext (c : Control) (made : Bool) : Control :=
  { c with ctx := if made then some .unconnected else none }

def runLoop (c : Control) : Control := { c with thread := .current }

/-- The end of `init`: what the wait for the connection found. -/
def awaitConnection (c : Control) : Control × Status :=
  if !(c.ready || c.failed) then
    (c.setError "timed out connecting to the audio server", .errPulse)
  else if !c.ready then (c.setError "audio server connection failed", .errPulse)
  else (c, .ok)

/-- `init` from `pa_context_connect` on. None is `std::terminate`: a
`std::thread` assigned over a joinable one. -/
def connect (c : Control) (env : InitEnv) : Option (Control × Status) :=
  let c := c.deliverAll env.connecting
  if !env.connect then
    some (c.setError ("pa_context_connect() failed: " ++ env.strerror), .errPulse)
  else if c.thread.joinable then none
  else some (c.runLoop.deliverAll env.waiting).awaitConnection

/-- `init`. -/
def init (c : Control) (env : InitEnv) : Option (Control × Status) :=
  let c := c.newMainloop env.mainloopNew
  if !env.mainloopNew then some (c.setError "pa_mainloop_new() failed", .errPulse)
  else
    let c := c.newContext env.contextNew
    if !env.contextNew then some (c.setError "pa_context_new() failed", .errPulse)
    else c.connect env

/-- `pa_context_disconnect`: a live context becomes terminated and says so at
once. -/
def disconnect (c : Control) : Control :=
  match c.ctx with
  | some state => if state.isGood then c.deliver (.current .terminated) else c
  | none => c

def joinLoop (c : Control) : Control := { c with thread := .none }

/-- The end of `shutdown`: nothing is left to point to. -/
def release (c : Control) : Control := { c with ctx := none, mainloop := false, ready := false }

/-- `shutdown`, while which the loop thread may still deliver callbacks. None
is a join that never returns: nothing quits the loop of an orphaned thread. -/
def shutdown (c : Control) (stopping : List Delivery) : Option Control :=
  let c := c.deliverAll stopping
  if c.thread = .orphaned then none else some c.joinLoop.disconnect.release

/-- `ready()`. -/
def isReady (c : Control) : Bool := c.ready && !c.failed && !c.terminated

/-- The part `query_default_sink` and `query_monitor` share: what a failed
query says. -/
def finishQuery (c : Control) (call timeoutText : String) : QueryAnswer → Control × Option String
  | .refused strerror => (c.setError (call ++ " failed: " ++ strerror), none)
  | .timedOut => (c.setError timeoutText, none)
  | .rung result => if result.ok then (c, some result.value) else (c.setError result.error, none)

def queryDefaultSink (c : Control) (answer : QueryAnswer) : Control × Option String :=
  c.finishQuery "pa_context_get_server_info()" "timed out querying the default sink" answer

def queryMonitor (c : Control) (sink : String) (answer : QueryAnswer) : Control × Option String :=
  c.finishQuery "pa_context_get_sink_info_by_name()"
    ("timed out looking up sink '" ++ sink ++ "'") answer

/-- The monitor lookup at the end of `resolve_target`. -/
def resolveMonitor (c : Control) (sink : String) (answer : QueryAnswer) :
    Control × Option Target :=
  match c.queryMonitor sink answer with
  | (c, none) => (c, none)
  | (c, some monitor) => (c, some { sink, monitor })

/-- `resolve_target`, with how its two queries end should it issue them. -/
def resolveTarget (c : Control) (requestedSink : String) (defaultSink monitor : QueryAnswer) :
    Control × Option Target :=
  if c.ctx.isNone || !c.isReady then (c.setError "not connected to the audio server", none)
  else if requestedSink.isEmpty then
    match c.queryDefaultSink defaultSink with
    | (c, none) => (c, none)
    | (c, some sink) =>
      if sink.isEmpty then (c.setError "audio server reports an empty default sink", none)
      else c.resolveMonitor sink monitor
  else c.resolveMonitor requestedSink monitor

theorem finishQuery_control (c : Control) (call timeoutText : String) (answer : QueryAnswer) :
    ∃ e, (c.finishQuery call timeoutText answer).1 = c.setError e := by
  cases answer with
  | refused strerror => exact ⟨_, rfl⟩
  | timedOut => exact ⟨_, rfl⟩
  | rung result =>
    unfold finishQuery
    dsimp only
    split
    · exact ⟨c.error, rfl⟩
    · exact ⟨_, rfl⟩

theorem resolveMonitor_control (c : Control) (sink : String) (answer : QueryAnswer) :
    ∃ e, (c.resolveMonitor sink answer).1 = c.setError e := by
  obtain ⟨e, asked⟩ : ∃ e, (c.queryMonitor sink answer).1 = c.setError e :=
    finishQuery_control ..
  refine ⟨e, ?_⟩
  unfold resolveMonitor
  cases found : c.queryMonitor sink answer with
  | mk d monitor =>
    rw [found] at asked
    cases monitor with
    | none => exact asked
    | some monitor => exact asked

/-- A resolve changes nothing of a control but its error text. -/
theorem resolveTarget_control (c : Control) (requestedSink : String)
    (defaultSink monitor : QueryAnswer) :
    ∃ e, (c.resolveTarget requestedSink defaultSink monitor).1 = c.setError e := by
  obtain ⟨e, asked⟩ : ∃ e, (c.queryDefaultSink defaultSink).1 = c.setError e :=
    finishQuery_control ..
  unfold resolveTarget
  split
  · exact ⟨_, rfl⟩
  · split
    · cases found : c.queryDefaultSink defaultSink with
      | mk d sink =>
        rw [found] at asked
        cases sink with
        | none => exact ⟨e, asked⟩
        | some sink =>
          dsimp only
          split
          · rw [show d = c.setError e from asked]
            exact ⟨_, rfl⟩
          · rw [show d = c.setError e from asked]
            obtain ⟨e', told⟩ := resolveMonitor_control (c.setError e) sink monitor
            exact ⟨e', told⟩
    · exact resolveMonitor_control c requestedSink monitor

end Control
end WebAudioCapture
