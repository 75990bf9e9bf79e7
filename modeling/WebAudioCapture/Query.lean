/-!
# Alarms and query callbacks

The one-shot mailbox of `primitives.h` and the callbacks of `pulse_control.cpp`
that ring it. A query hands a raw pointer to its alarm to libpulse, so what a
callback does with the alarm is kept apart from what it computes.
-/

namespace WebAudioCapture

/-- `query_result_t`. -/
structure QueryResult where
  ok : Bool := false
  value : String := ""
  error : String := ""
  deriving DecidableEq, Repr

def failure (message : String) : QueryResult := { error := message }

/-- `alarm_t`, without its mutex and condition variable. -/
structure Alarm (α : Type) where
  raised : Bool := false
  value : α
  deriving DecidableEq, Repr

namespace Alarm

variable {α : Type}

/-- `make_alarm`. -/
def make (value : α) : Alarm α := { value }

/-- The critical section of `ring`; a `notify_all` follows. -/
def ring (_ : Alarm α) (value : α) : Alarm α := { raised := true, value }

/-- The critical section of `try_ring`; on true a `notify_all` follows. -/
def tryRing (alarm : Alarm α) (value : α) : Alarm α × Bool :=
  if alarm.raised then (alarm, false) else ({ raised := true, value }, true)

/-- `reset`. -/
def reset (alarm : Alarm α) : Alarm α := { alarm with raised := false }

/-- The end of `wait` when its predicate held. -/
def take (alarm : Alarm α) : Alarm α × α := ({ alarm with raised := false }, alarm.value)

end Alarm

/-- What is read of a `pa_server_info`. -/
structure ServerInfo where
  defaultSinkName : Option String
  deriving DecidableEq, Repr

/-- What is read of a `pa_sink_info`. -/
structure SinkInfo where
  monitorSourceName : Option String
  deriving DecidableEq, Repr

/-- The result `server_info_callback` tries to ring. -/
def serverInfoCallback : Option ServerInfo → QueryResult
  | none => failure "audio server returned no server info"
  | some info =>
    match info.defaultSinkName with
    | none => failure "audio server reports no default sink"
    | some name => { ok := true, value := name }

/-- The result `sink_info_callback` tries to ring, if it rings at all: an
end-of-list call returns before it looks at the alarm. -/
def sinkInfoCallback (errno : String) (info : Option SinkInfo) (eol : Int) : Option QueryResult :=
  if eol < 0 then some (failure ("sink lookup failed: " ++ errno))
  else if eol > 0 then none
  else
    match info.bind SinkInfo.monitorSourceName with
    | none => some (failure "sink has no monitor source")
    | some name => some { ok := true, value := name }

/-- One call of a query's callback by the main loop thread. -/
inductive Invocation where
  | server (info : Option ServerInfo)
  | sink (errno : String) (info : Option SinkInfo) (eol : Int)
  deriving DecidableEq, Repr

def Invocation.rings : Invocation → Option QueryResult
  | .server info => some (serverInfoCallback info)
  | .sink errno info eol => sinkInfoCallback errno info eol

end WebAudioCapture
