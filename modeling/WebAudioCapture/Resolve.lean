import WebAudioCapture.AlarmLifetime
import WebAudioCapture.Control
import WebAudioCapture.Lib.Progress

/-!
# `resolve_target`

The resolution of a target, its queries run against the main loop thread. Each
query has an alarm of its own, and here every alarm outlives the callbacks that
ring it: none is released. The first callback that rings in time decides, and the
call returns whatever callbacks there are.
-/

namespace WebAudioCapture

/-- The name a callback carries. -/
def Invocation.name : Invocation → Option String
  | .server info => info.bind ServerInfo.defaultSinkName
  | .sink _ info eol => if eol = 0 then info.bind SinkInfo.monitorSourceName else none

/-- What a query makes of the result it waited for. -/
def QueryResult.outcome (timeoutText : String) : Option QueryResult → Except String String
  | none => .error timeoutText
  | some result => if result.ok then .ok result.value else .error result.error

/-- `pulse_error`. -/
def pulseError (what strerror : String) : String := what ++ " failed: " ++ strerror

theorem text_ne_empty {s t : String} (h : s ≠ "") : s ++ t ≠ "" :=
  fun empty => h (String.append_eq_empty_iff.mp empty).1

theorem pulseError_ne_empty {what : String} (h : what ≠ "") (strerror : String) :
    pulseError what strerror ≠ "" := text_ne_empty (text_ne_empty h)

/-- A callback that rings either carries a name or says why it has none. -/
theorem rings_name {call : Invocation} {result : QueryResult} (rings : call.rings = some result) :
    call.name = (if result.ok then some result.value else none) ∧
      (result.ok = false → result.error ≠ "") := by
  cases call with
  | server info =>
    cases rings
    cases info with
    | none => exact ⟨rfl, fun _ => by decide⟩
    | some info =>
      obtain ⟨name⟩ := info
      cases name with
      | none => exact ⟨rfl, fun _ => by decide⟩
      | some name => exact ⟨rfl, by rintro ⟨⟩⟩
  | sink errno info eol =>
    simp only [Invocation.rings, sinkInfoCallback] at rings
    split at rings
    · cases rings
      refine ⟨?_, fun _ => text_ne_empty (by decide)⟩
      simp only [Invocation.name, if_neg (show ¬eol = 0 by omega)]
      rfl
    · split at rings
      · cases rings
      · simp only [Invocation.name, if_pos (show eol = 0 by omega)]
        split at rings
        · rename_i none
          cases rings
          exact ⟨none, fun _ => by decide⟩
        · rename_i name found
          cases rings
          exact ⟨found, by rintro ⟨⟩⟩

/-! ## What a query has heard -/

/-- The callbacks that rang a query's alarm before its wait was over. -/
structure Rings where
  pending : Option Invocation := none
  rang : List Invocation := []
  deriving DecidableEq, Repr

/-- The query has not stopped waiting. -/
def Waiter.listens : Waiter → Bool
  | .created | .issued | .waiting => true
  | .woken _ | .returned => false

def Rings.note (g : Rings) (q : QueryRun) : QueryLabel → Rings
  | .invoke call => if call.rings.isSome then { g with pending := some call } else g
  | .ring =>
    { g with rang := if q.waiter.listens then g.rang ++ g.pending.toList else g.rang }
  | _ => g

/-- The name the first of them carries. -/
def Rings.firstName (g : Rings) : Option String := g.rang.head?.bind Invocation.name

/-- The result is that of the first callback, if any rang. -/
def Decides (result : Option QueryResult) (rang : List Invocation) : Prop :=
  match result with
  | none => rang = []
  | some result => ∃ call rest, rang = call :: rest ∧ call.rings = some result

/-- What the alarm or the waiter holds. -/
def QueryRun.held (q : QueryRun) : Option QueryResult :=
  match q.waiter with
  | .woken result => result
  | .returned => none
  | _ => if q.alarm.raised then some q.alarm.value else none

/-- The query holds what the first callback rang. -/
structure Heard (q : QueryRun) (g : Rings) : Prop where
  entered : ∀ result, q.callback = .entered result →
    ∃ call, g.pending = some call ∧ call.rings = some result
  decides : Decides q.held g.rang
  quiet : q.waiter = .created ∨ q.waiter = .returned →
    q.alarm.raised = false ∧ q.inFlight = false ∧ q.callback = .idle

theorem start_heard : Heard .start {} :=
  ⟨by rintro _ ⟨⟩, rfl, fun _ => ⟨rfl, rfl, rfl⟩⟩

/-- The labels of a query whose alarm is not released. -/
def QueryLabel.keeps : QueryLabel → Bool
  | .leave => false
  | _ => true

/-- The first callback to ring decides. -/
theorem decides_ring {q : QueryRun} {callback : CallbackPc} {rang : List Invocation}
    {call : Invocation} {result : QueryResult}
    (issued : ¬(q.waiter = .created ∨ q.waiter = .returned)) (decides : Decides q.held rang)
    (rings : call.rings = some result) :
    Decides ({ q with alarm := (q.alarm.tryRing result).1, callback } : QueryRun).held
      (if q.waiter.listens then rang ++ [call] else rang) := by
  have later : ∀ value, Decides (some value) rang → Decides (some value) (rang ++ [call]) := by
    rintro value ⟨first, rest, rfl, rang⟩
    exact ⟨first, rest ++ [call], rfl, rang⟩
  have waiting : Decides (if q.alarm.raised then some q.alarm.value else none) rang →
      Decides (if (q.alarm.tryRing result).1.raised then some (q.alarm.tryRing result).1.value
        else none) (rang ++ [call]) := by
    intro decides
    cases raised : q.alarm.raised with
    | true =>
      simp only [Alarm.tryRing, raised, if_true] at decides ⊢
      exact later _ decides
    | false =>
      simp only [Alarm.tryRing, raised, Bool.false_eq_true, if_false, if_true] at decides ⊢
      rw [show rang = [] from decides]
      exact ⟨call, [], rfl, rings⟩
  cases at_ : q.waiter with
  | created => exact absurd (.inl at_) issued
  | returned => exact absurd (.inr at_) issued
  | issued | waiting =>
    simp only [QueryRun.held, at_, Waiter.listens, if_true] at decides ⊢
    exact waiting decides
  | woken result =>
    simp only [QueryRun.held, at_, Waiter.listens, Bool.false_eq_true, if_false] at decides ⊢
    exact decides

theorem step_heard {q r : QueryRun} {g : Rings} {l : QueryLabel} (h : Heard q g)
    (keeps : l.keeps = true) (taken : q.step l = some r) : Heard r (g.note q l) := by
  obtain ⟨entered, decides, quiet⟩ := h
  cases l with
  | leave => cases keeps
  | issue =>
    simp only [QueryRun.step, Option.ite_none_right_eq_some, Option.some.injEq] at taken
    obtain ⟨fresh, rfl⟩ := taken
    refine ⟨entered, ?_, by rintro (ended | ended) <;> cases ended⟩
    simp only [QueryRun.held, fresh] at decides ⊢
    exact decides
  | refuse =>
    simp only [QueryRun.step, Option.ite_none_right_eq_some, Option.some.injEq] at taken
    obtain ⟨fresh, rfl⟩ := taken
    have silent := quiet (.inl fresh)
    refine ⟨entered, ?_, fun _ => silent⟩
    simp only [QueryRun.held, fresh, silent.1] at decides ⊢
    exact decides
  | unref =>
    simp only [QueryRun.step, Option.ite_none_right_eq_some, Option.some.injEq] at taken
    obtain ⟨issued, rfl⟩ := taken
    refine ⟨entered, ?_, by rintro (ended | ended) <;> cases ended⟩
    simp only [QueryRun.held, issued] at decides ⊢
    exact decides
  | wake =>
    simp only [QueryRun.step, Option.ite_none_right_eq_some, Option.some.injEq] at taken
    obtain ⟨⟨waiting, raised⟩, rfl⟩ := taken
    refine ⟨entered, ?_, by rintro (ended | ended) <;> cases ended⟩
    simp only [QueryRun.held, waiting, if_pos raised] at decides
    exact decides
  | timeOut =>
    simp only [QueryRun.step, Option.ite_none_right_eq_some, Option.some.injEq] at taken
    obtain ⟨⟨waiting, silent⟩, rfl⟩ := taken
    refine ⟨entered, ?_, by rintro (ended | ended) <;> cases ended⟩
    simp only [QueryRun.held, waiting, if_neg silent] at decides
    exact decides
  | invoke call =>
    simp only [QueryRun.step] at taken
    split at taken
    · rename_i ready
      cases rings : call.rings with
      | none =>
        simp only [rings, Option.some.injEq] at taken
        subst taken
        simp only [Rings.note, rings, Option.isSome_none, Bool.false_eq_true, if_false]
        exact ⟨entered, decides, quiet⟩
      | some result =>
        simp only [rings, Option.some.injEq] at taken
        subst taken
        simp only [Rings.note, rings, Option.isSome_some, if_true]
        refine ⟨?_, decides, fun ended => ?_⟩
        · rintro _ ⟨⟩
          exact ⟨call, rfl, rings⟩
        · have gone := (quiet ended).2.1
          rw [ready.2] at gone
          cases gone
    · cases taken
  | ring =>
    simp only [QueryRun.step] at taken
    split at taken
    · rename_i result busy
      cases taken
      obtain ⟨call, pending, rings⟩ := entered result busy
      have issued : ¬(q.waiter = .created ∨ q.waiter = .returned) := by
        intro ended
        rw [(quiet ended).2.2] at busy
        cases busy
      simp only [Rings.note, pending, Option.toList_some]
      refine ⟨?_, ?_, fun ended => absurd ended issued⟩
      · intro _ entering
        dsimp only at entering
        split at entering <;> cases entering
      · exact decides_ring issued decides rings
    · cases taken
  | notify =>
    simp only [QueryRun.step, Option.ite_none_right_eq_some, Option.some.injEq] at taken
    obtain ⟨busy, rfl⟩ := taken
    refine ⟨by rintro _ ⟨⟩, decides, fun ended => ?_⟩
    have idle := (quiet ended).2.2
    rw [busy] at idle
    cases idle

/-! ## The resolution -/

/-- Where `resolve_target` stands. -/
inductive ResolvePc where
  | entered
  | sinkQuery
  | monitorQuery (sink : String)
  | failing (reason : String)
  | returned (ok : Bool)
  deriving DecidableEq, Repr

/-- A call of `resolve_target`; `out` is the caller's. -/
structure Resolution where
  control : Control
  requestedSink : String
  out : Target
  pc : ResolvePc := .entered
  sink : QueryRun := .start
  monitor : QueryRun := .start
  deriving DecidableEq, Repr

inductive ResolveLabel where
  | begin
  | refuse (strerror : String)
  | sink (l : QueryLabel)
  | monitor (l : QueryLabel)
  | judge
  | setError
  | deliver (callback : Delivery)
  deriving DecidableEq, Repr

namespace QueryLabel

/-- The steps of the main loop thread. -/
def byLoop : QueryLabel → Bool
  | .invoke _ | .ring | .notify => true
  | _ => false

/-- The steps of a query that got its operation. -/
def byWaiter : QueryLabel → Bool
  | .issue | .unref | .wake | .timeOut => true
  | _ => false

/-- libpulse invokes `server_info_callback` for the one query. -/
def ofServer : QueryLabel → Bool
  | .invoke (.sink ..) => false
  | _ => true

/-- And `sink_info_callback` for the other. -/
def ofSink : QueryLabel → Bool
  | .invoke (.server _) => false
  | _ => true

end QueryLabel

namespace Resolution

def failing (s : Resolution) (reason : String) : Resolution := { s with pc := .failing reason }

/-- The check `resolve_target` begins with, and its first query. -/
def enter (s : Resolution) : Resolution :=
  if s.control.ctx.isNone || !s.control.isReady then s.failing "not connected to the audio server"
  else if s.requestedSink.isEmpty then { s with pc := .sinkQuery }
  else { s with pc := .monitorQuery s.requestedSink }

/-- What follows the wait of `query_default_sink`. -/
def judgeSink (s : Resolution) (result : Option QueryResult) : Resolution :=
  match QueryResult.outcome "timed out querying the default sink" result with
  | .error reason => s.failing reason
  | .ok sink =>
    if sink.isEmpty then s.failing "audio server reports an empty default sink"
    else { s with pc := .monitorQuery sink }

/-- What follows the wait of `query_monitor`. -/
def judgeMonitor (s : Resolution) (sink : String) (result : Option QueryResult) : Resolution :=
  match QueryResult.outcome ("timed out looking up sink '" ++ sink ++ "'") result with
  | .error reason => s.failing reason
  | .ok monitor => { s with out := { sink, monitor }, pc := .returned true }

def asksMonitor (s : Resolution) : Bool :=
  match s.pc with
  | .monitorQuery _ => true
  | _ => false

def step (s : Resolution) : ResolveLabel → Option Resolution
  | .begin => if s.pc = .entered then some s.enter else none
  | .refuse strerror =>
    match s.pc with
    | .sinkQuery => (s.sink.step .refuse).map fun sink =>
      { s with sink }.failing (pulseError "pa_context_get_server_info()" strerror)
    | .monitorQuery _ => (s.monitor.step .refuse).map fun monitor =>
      { s with monitor }.failing (pulseError "pa_context_get_sink_info_by_name()" strerror)
    | _ => none
  | .sink l =>
    if l.ofServer && (l.byLoop || l.byWaiter && s.pc == .sinkQuery) then
      (s.sink.step l).map fun sink => { s with sink }
    else none
  | .monitor l =>
    if l.ofSink && (l.byLoop || l.byWaiter && s.asksMonitor) then
      (s.monitor.step l).map fun monitor => { s with monitor }
    else none
  | .judge =>
    match s.pc, s.sink.waiter, s.monitor.waiter with
    | .sinkQuery, .woken result, _ => some (s.judgeSink result)
    | .monitorQuery sink, _, .woken result => some (s.judgeMonitor sink result)
    | _, _, _ => none
  | .setError =>
    match s.pc with
    | .failing reason =>
      some { s with control := s.control.setError reason, pc := .returned false }
    | _ => none
  | .deliver callback => some { s with control := s.control.deliver callback }

/-- What happened during the call: the connection it found, what each query
heard, the sink it looked up and the errors it set. -/
structure Answers where
  entry : Option Control := none
  sink : Rings := {}
  monitor : Rings := {}
  lookedUp : Option String := none
  reasons : List String := []
  deriving DecidableEq, Repr

def note (s : Resolution) (l : ResolveLabel) (_ : Resolution) (g : Answers) : Answers :=
  match l with
  | .begin => { g with entry := some s.control }
  | .sink l => { g with sink := g.sink.note s.sink l }
  | .monitor l =>
    { g with
      monitor := g.monitor.note s.monitor l
      lookedUp := match s.pc, l with
        | .monitorQuery sink, .issue => some sink
        | _, _ => g.lookedUp }
  | .setError =>
    match s.pc with
    | .failing reason => { g with reasons := g.reasons ++ [reason] }
    | _ => g
  | .refuse _ | .judge | .deliver _ => g

/-- A call about to begin. -/
def call (control : Control) (requestedSink : String) (out : Target) : Resolution :=
  { control, requestedSink, out }

/-! ## What a resolution knows -/

/-- The query ended with a result that carries this name. -/
def gives (w : Waiter) (name : String) : Prop :=
  ∃ result : QueryResult, w = .woken (some result) ∧ result.ok = true ∧ result.value = name

/-- The sink to look up is the requested one, or the default one. -/
def Chosen (requested : String) (w : Waiter) (sink : String) : Prop :=
  if requested.isEmpty then gives w sink ∧ sink.isEmpty = false else sink = requested

/-- The connection the call found was ready. -/
def Connected (g : Answers) : Prop :=
  ∃ c, g.entry = some c ∧ (c.ctx.isNone || !c.isReady) = false

/-- The call cannot succeed any more. -/
inductive Failed (requested : String) (sink monitor : Waiter) (g : Answers) : Prop
  | unconnected (c : Control) (entry : g.entry = some c)
      (gone : (c.ctx.isNone || !c.isReady) = true)
  | noSink (asked : requested.isEmpty = true) (ended : sink.listens = false)
      (none : ∀ name, gives sink name → name.isEmpty = true)
  | noMonitor (ended : monitor.listens = false) (none : ∀ name, ¬gives monitor name)

/-- What `Control.resolveTarget` makes of the answers of this call, where it is `target`. -/
def Follows (requested : String) (g : Answers) (target : Control → Control × Option Target) : Prop :=
  ∃ c a b, g.entry = some c ∧ c.resolveTarget requested a b = target c

/-- Where a call to resolve `requested` into `out` stands. -/
def Place (requested : String) (out : Target) (s : Resolution) (g : Answers) : Prop :=
  match s.pc with
  | .entered => s.out = out ∧ g.reasons = [] ∧ s.sink.waiter = .created ∧
      s.monitor.waiter = .created
  | .sinkQuery => s.out = out ∧ g.reasons = [] ∧ Connected g ∧ requested.isEmpty = true ∧
      s.monitor.waiter = .created ∧ s.sink.waiter ≠ .returned
  | .monitorQuery sink => s.out = out ∧ g.reasons = [] ∧ Connected g ∧
      Chosen requested s.sink.waiter sink ∧ s.monitor.waiter ≠ .returned ∧
      (s.monitor.waiter = .created ∨ g.lookedUp = some sink) ∧
      ∃ c a, g.entry = some c ∧ ∀ b, c.resolveTarget requested a b = c.resolveMonitor sink b
  | .failing reason => s.out = out ∧ g.reasons = [] ∧ reason ≠ "" ∧
      Failed requested s.sink.waiter s.monitor.waiter g ∧
      Follows requested g fun c => (c.setError reason, none)
  | .returned false => s.out = out ∧ g.reasons = [s.control.error] ∧ s.control.error ≠ "" ∧
      Failed requested s.sink.waiter s.monitor.waiter g ∧
      Follows requested g fun c => (c.setError s.control.error, none)
  | .returned true => Connected g ∧ Chosen requested s.sink.waiter s.out.sink ∧
      gives s.monitor.waiter s.out.monitor ∧ g.lookedUp = some s.out.sink ∧
      Follows requested g fun c => (c, some s.out)

structure Steady (requested : String) (out : Target) (s : Resolution) (g : Answers) : Prop where
  asked : s.requestedSink = requested
  sink : Heard s.sink g.sink
  monitor : Heard s.monitor g.monitor
  place : Place requested out s g

section
variable {requested : String} {out : Target} {s t : Resolution} {g g' : Answers}

theorem call_steady (control : Control) (requested : String) (out : Target) :
    Steady requested out (call control requested out) {} :=
  ⟨rfl, start_heard, start_heard, rfl, rfl, rfl, rfl⟩

theorem Failed.same {sink monitor : Waiter} (h : Failed requested sink monitor g)
    (entry : g'.entry = g.entry) : Failed requested sink monitor g' := by
  cases h with
  | unconnected c found gone => exact .unconnected c (entry.trans found) gone
  | noSink asked ended none => exact .noSink asked ended none
  | noMonitor ended none => exact .noMonitor ended none

/-- A step that moves neither the call nor its queries' waits. -/
theorem Place.same (h : Place requested out s g) (pc : t.pc = s.pc) (out_ : t.out = s.out)
    (error : t.control.error = s.control.error) (sink : t.sink.waiter = s.sink.waiter)
    (monitor : t.monitor.waiter = s.monitor.waiter) (entry : g'.entry = g.entry)
    (lookedUp : g'.lookedUp = g.lookedUp) (reasons : g'.reasons = g.reasons) :
    Place requested out t g' := by
  unfold Place at h ⊢
  unfold Connected Follows at *
  rw [pc, out_, error, sink, monitor, entry, lookedUp, reasons]
  split at h
  · exact h
  · exact h
  · exact h
  · obtain ⟨same, none, nonempty, failed, follows⟩ := h
    exact ⟨same, none, nonempty, failed.same entry, follows⟩
  · obtain ⟨same, none, nonempty, failed, follows⟩ := h
    exact ⟨same, none, nonempty, failed.same entry, follows⟩
  · exact h

theorem enter_steady (h : Steady requested out s g) (at_ : s.pc = .entered) :
    Steady requested out s.enter { g with entry := some s.control } := by
  obtain ⟨rfl, sink, monitor, place⟩ := h
  rw [Place, at_] at place
  obtain ⟨same, none, fresh, unasked⟩ := place
  have sink_open : s.sink.waiter ≠ .returned := by rw [fresh]; rintro ⟨⟩
  have monitor_open : s.monitor.waiter ≠ .returned := by rw [unasked]; rintro ⟨⟩
  unfold enter
  split
  · rename_i gone
    refine ⟨rfl, sink, monitor, same, none, by decide, .unconnected _ rfl gone, ?_⟩
    refine ⟨s.control, .timedOut, .timedOut, rfl, ?_⟩
    rw [Control.resolveTarget, if_pos gone]
  · rename_i connected
    have ready : (s.control.ctx.isNone || !s.control.isReady) = false :=
      eq_false_of_ne_true connected
    split
    · rename_i empty
      exact ⟨rfl, sink, monitor, same, none, ⟨_, rfl, ready⟩, empty, unasked, sink_open⟩
    · rename_i pinned
      refine ⟨rfl, sink, monitor, same, none, ⟨_, rfl, ready⟩, ?_, monitor_open, .inl unasked,
        s.control, .timedOut, rfl, fun b => ?_⟩
      · rw [Chosen, if_neg pinned]
      · rw [Control.resolveTarget, if_neg connected, if_neg pinned]

/-- A result a query waited for that has no name says why. -/
theorem error_ne_empty {q : QueryRun} {rings : Rings} {result : QueryResult} (heard : Heard q rings)
    (woken : q.waiter = .woken (some result)) (bad : result.ok = false) : result.error ≠ "" := by
  have decides := heard.decides
  simp only [QueryRun.held, woken] at decides
  obtain ⟨call, rest, _, rang⟩ := decides
  exact (rings_name rang).2 bad

theorem gives_woken {result : QueryResult} {name : String} (ok : result.ok = true) :
    gives (.woken (some result)) name ↔ result.value = name := by
  constructor
  · rintro ⟨_, same, _, value⟩
    cases same
    exact value
  · exact fun value => ⟨result, rfl, ok, value⟩

theorem gives_nothing {w : Waiter} (none : ∀ result, w = .woken (some result) → result.ok = false)
    (name : String) : ¬gives w name := by
  rintro ⟨result, woken, ok, _⟩
  rw [none result woken] at ok
  cases ok

section
variable {c c' : Control} {a b : QueryAnswer}

theorem resolveTarget_noSink (ready : (c.ctx.isNone || !c.isReady) = false)
    (empty : requested.isEmpty = true) (failed : c.queryDefaultSink a = (c', none)) :
    c.resolveTarget requested a b = (c', none) := by
  simp only [Control.resolveTarget, ready, empty, failed, Bool.false_eq_true, if_false, if_true]

theorem resolveTarget_sink {sink : String} (ready : (c.ctx.isNone || !c.isReady) = false)
    (empty : requested.isEmpty = true) (found : c.queryDefaultSink a = (c, some sink)) :
    c.resolveTarget requested a b =
      if sink.isEmpty then (c.setError "audio server reports an empty default sink", none)
      else c.resolveMonitor sink b := by
  simp only [Control.resolveTarget, ready, empty, found, Bool.false_eq_true, if_false, if_true]

end

/-- What follows the wait for the default sink. -/
theorem judgeSink_steady {result : Option QueryResult} (h : Steady requested out s g)
    (at_ : s.pc = .sinkQuery) (woken : s.sink.waiter = .woken result) :
    Steady requested out (s.judgeSink result) g := by
  obtain ⟨asked, sink, monitor, place⟩ := h
  rw [Place, at_] at place
  obtain ⟨same, unset, ⟨c, entry, ready⟩, empty, unasked, _⟩ := place
  have ended : s.sink.waiter.listens = false := by rw [woken]; rfl
  cases result with
  | none =>
    refine ⟨asked, sink, monitor, same, unset, by decide, .noSink empty ended ?_,
      c, .timedOut, .timedOut, entry, resolveTarget_noSink ready empty rfl⟩
    exact fun name given =>
      absurd given (gives_nothing (fun _ again => by cases woken.symm.trans again) name)
  | some result =>
    cases ok : result.ok with
    | false =>
      have failed : s.judgeSink (some result) = s.failing result.error := by
        simp only [judgeSink, QueryResult.outcome, ok, Bool.false_eq_true, if_false]
      rw [failed]
      refine ⟨asked, sink, monitor, same, unset, error_ne_empty sink woken ok,
        .noSink empty ended ?_, c, .rung result, .timedOut, entry,
        resolveTarget_noSink ready empty ?_⟩
      · refine fun name given => absurd given (gives_nothing (fun _ again => ?_) name)
        cases woken.symm.trans again
        exact ok
      · rw [Control.queryDefaultSink, Control.finishQuery, if_neg (by rw [ok]; decide)]
    | true =>
      have found : c.queryDefaultSink (.rung result) = (c, some result.value) := by
        rw [Control.queryDefaultSink, Control.finishQuery, if_pos ok]
      by_cases nameless : result.value.isEmpty = true
      · have failed : s.judgeSink (some result) =
            s.failing "audio server reports an empty default sink" := by
          simp only [judgeSink, QueryResult.outcome, ok, if_true, nameless]
        rw [failed]
        refine ⟨asked, sink, monitor, same, unset, by decide, .noSink empty ended ?_, c,
          .rung result, .timedOut, entry, ?_⟩
        · intro name given
          change gives s.sink.waiter name at given
          rw [woken, gives_woken ok] at given
          rw [← given]
          exact nameless
        · rw [resolveTarget_sink ready empty found, if_pos nameless]
      · have chosen : s.judgeSink (some result) = { s with pc := .monitorQuery result.value } := by
          simp only [judgeSink, QueryResult.outcome, ok, if_true, if_neg nameless]
        rw [chosen]
        have monitor_open : s.monitor.waiter ≠ .returned := by rw [unasked]; rintro ⟨⟩
        refine ⟨asked, sink, monitor, same, unset, ⟨c, entry, ready⟩, ?_, monitor_open,
          .inl unasked, c, .rung result, entry, fun b => ?_⟩
        · rw [Chosen, if_pos empty, show s.sink.waiter = _ from woken, gives_woken ok]
          exact ⟨rfl, eq_false_of_ne_true nameless⟩
        · rw [resolveTarget_sink ready empty found, if_neg nameless]

/-- What follows the wait for the monitor. -/
theorem judgeMonitor_steady {name : String} {result : Option QueryResult}
    (h : Steady requested out s g) (at_ : s.pc = .monitorQuery name)
    (woken : s.monitor.waiter = .woken result) :
    Steady requested out (s.judgeMonitor name result) g := by
  obtain ⟨asked, sink, monitor, place⟩ := h
  rw [Place, at_] at place
  obtain ⟨same, unset, connected, chosen, _, looked, c, a, entry, resolve⟩ := place
  have ended : s.monitor.waiter.listens = false := by rw [woken]; rfl
  have lookedUp : g.lookedUp = some name := by
    obtain fresh | looked := looked
    · cases woken.symm.trans fresh
    · exact looked
  cases result with
  | none =>
    refine ⟨asked, sink, monitor, same, unset, text_ne_empty (text_ne_empty (by decide)),
      .noMonitor ended ?_, c, a, .timedOut, entry, resolve _⟩
    exact gives_nothing fun _ again => by cases woken.symm.trans again
  | some result =>
    cases ok : result.ok with
    | false =>
      have failed : s.judgeMonitor name (some result) = s.failing result.error := by
        simp only [judgeMonitor, QueryResult.outcome, ok, Bool.false_eq_true, if_false]
      rw [failed]
      refine ⟨asked, sink, monitor, same, unset, error_ne_empty monitor woken ok,
        .noMonitor ended ?_, c, a, .rung result, entry, ?_⟩
      · refine gives_nothing fun _ again => ?_
        cases woken.symm.trans again
        exact ok
      · rw [resolve, Control.resolveMonitor, Control.queryMonitor, Control.finishQuery,
          if_neg (by rw [ok]; decide)]
    | true =>
      have done : s.judgeMonitor name (some result) =
          { s with out := ⟨name, result.value⟩, pc := .returned true } := by
        simp only [judgeMonitor, QueryResult.outcome, ok, if_true]
      rw [done]
      refine ⟨asked, sink, monitor, connected, chosen, ?_, lookedUp, c, a, .rung result, entry, ?_⟩
      · exact ⟨result, woken, ok, rfl⟩
      · rw [resolve, Control.resolveMonitor, Control.queryMonitor, Control.finishQuery, if_pos ok]

/-- The main loop thread's steps leave the wait alone. -/
theorem byLoop_waiter {q r : QueryRun} {l : QueryLabel} (byLoop : l.byLoop = true)
    (taken : q.step l = some r) : r.waiter = q.waiter := by
  cases l with
  | invoke call =>
    simp only [QueryRun.step] at taken
    split at taken
    · split at taken
      · cases taken; rfl
      · cases taken; rfl
    · cases taken
  | ring =>
    simp only [QueryRun.step] at taken
    split at taken
    · cases taken; rfl
    · cases taken
  | notify =>
    simp only [QueryRun.step, Option.ite_none_right_eq_some, Option.some.injEq] at taken
    obtain ⟨_, rfl⟩ := taken
    rfl
  | _ => cases byLoop

theorem keeps_of_side {l : QueryLabel} (side : l.byLoop = true ∨ l.byWaiter = true) :
    l.keeps = true := by
  cases l with
  | leave => obtain side | side := side <;> cases side
  | _ => rfl

theorem byWaiter_open {q r : QueryRun} {l : QueryLabel} (byWaiter : l.byWaiter = true)
    (taken : q.step l = some r) : r.waiter ≠ .returned := by
  cases l with
  | issue | unref | wake | timeOut =>
    simp only [QueryRun.step, Option.ite_none_right_eq_some, Option.some.injEq] at taken
    obtain ⟨_, rfl⟩ := taken
    rintro ⟨⟩
  | _ => cases byWaiter

theorem only_issue {q r : QueryRun} {l : QueryLabel} (fresh : q.waiter = .created)
    (byWaiter : l.byWaiter = true) (taken : q.step l = some r) : l = .issue := by
  cases l with
  | issue => rfl
  | unref | wake | timeOut =>
    simp only [QueryRun.step, fresh, reduceCtorEq, false_and, if_false] at taken
  | _ => cases byWaiter

theorem refuse_returned {q r : QueryRun} (refused : q.step .refuse = some r) :
    r.waiter = .returned := by
  simp only [QueryRun.step, Option.ite_none_right_eq_some, Option.some.injEq] at refused
  obtain ⟨_, rfl⟩ := refused
  rfl

theorem step_steady {l : ResolveLabel} (h : Steady requested out s g) (taken : s.step l = some t) :
    Steady requested out t (note s l t g) := by
  cases l with
  | begin =>
    simp only [step, Option.ite_none_right_eq_some, Option.some.injEq] at taken
    obtain ⟨at_, rfl⟩ := taken
    exact enter_steady h at_
  | refuse strerror =>
    obtain ⟨asked, sink, monitor, place⟩ := h
    simp only [step] at taken
    split at taken
    · rename_i at_
      obtain ⟨query, refused, rfl⟩ := Option.map_eq_some_iff.mp taken
      rw [Place, at_] at place
      obtain ⟨same, unset, ⟨c, entry, ready⟩, empty, unasked, _⟩ := place
      have ended := refuse_returned refused
      refine ⟨asked, step_heard sink rfl refused, monitor, same, unset,
        pulseError_ne_empty (by decide) _, .noSink empty (congrArg Waiter.listens ended) ?_, c,
        .refused strerror, .timedOut, entry, resolveTarget_noSink ready empty rfl⟩
      exact fun name given =>
        absurd given (gives_nothing (fun _ again => by cases ended.symm.trans again) name)
    · rename_i at_
      obtain ⟨query, refused, rfl⟩ := Option.map_eq_some_iff.mp taken
      rw [Place, at_] at place
      obtain ⟨same, unset, connected, chosen, _, looked, c, a, entry, resolve⟩ := place
      have ended := refuse_returned refused
      refine ⟨asked, sink, step_heard monitor rfl refused, same, unset,
        pulseError_ne_empty (by decide) _, .noMonitor (congrArg Waiter.listens ended) ?_, c, a,
        .refused strerror, entry, resolve _⟩
      exact gives_nothing fun _ again => by cases ended.symm.trans again
    · cases taken
  | sink l =>
    obtain ⟨asked, sink, monitor, place⟩ := h
    simp only [step, Option.ite_none_right_eq_some, Bool.and_eq_true, Bool.or_eq_true,
      beq_iff_eq] at taken
    obtain ⟨⟨_, side⟩, taken⟩ := taken
    obtain ⟨query, moved, rfl⟩ := Option.map_eq_some_iff.mp taken
    have keeps : l.keeps = true := keeps_of_side (side.imp id And.left)
    refine ⟨asked, step_heard sink keeps moved, monitor, ?_⟩
    obtain byLoop | ⟨byWaiter, at_⟩ := side
    · exact place.same rfl rfl rfl (byLoop_waiter byLoop moved) rfl rfl rfl rfl
    · rw [Place, at_] at place
      obtain ⟨same, unset, connected, empty, unasked, _⟩ := place
      simp only [Place, at_]
      exact ⟨same, unset, connected, empty, unasked, byWaiter_open byWaiter moved⟩
  | monitor l =>
    obtain ⟨asked, sink, monitor, place⟩ := h
    simp only [step, Option.ite_none_right_eq_some, Bool.and_eq_true, Bool.or_eq_true] at taken
    obtain ⟨⟨_, side⟩, taken⟩ := taken
    obtain ⟨query, moved, rfl⟩ := Option.map_eq_some_iff.mp taken
    have keeps : l.keeps = true := keeps_of_side (side.imp id And.left)
    refine ⟨asked, sink, step_heard monitor keeps moved, ?_⟩
    obtain byLoop | ⟨byWaiter, asks⟩ := side
    · have lookedUp : (note s (.monitor l) { s with monitor := query } g).lookedUp = g.lookedUp := by
        simp only [note]
        split
        · cases byLoop
        · rfl
      exact place.same rfl rfl rfl rfl (byLoop_waiter byLoop moved) rfl lookedUp rfl
    · unfold asksMonitor at asks
      split at asks
      · rename_i name at_
        rw [Place, at_] at place
        obtain ⟨same, unset, connected, chosen, _, looked, resolve⟩ := place
        simp only [Place, at_]
        refine ⟨same, unset, connected, chosen, byWaiter_open byWaiter moved, .inr ?_, resolve⟩
        obtain fresh | looked := looked
        · obtain rfl := only_issue fresh byWaiter moved
          simp only [note, at_]
        · cases l with
          | issue => simp only [note, at_]
          | _ =>
            simp only [note, at_]
            exact looked
      · cases asks
  | judge =>
    simp only [step] at taken
    split at taken
    · rename_i at_ woken
      cases taken
      exact judgeSink_steady h at_ woken
    · rename_i at_ woken
      cases taken
      exact judgeMonitor_steady h at_ woken
    · cases taken
  | setError =>
    obtain ⟨asked, sink, monitor, place⟩ := h
    simp only [step] at taken
    split at taken
    · rename_i reason at_
      cases taken
      rw [Place, at_] at place
      obtain ⟨same, none, nonempty, failed, follows⟩ := place
      simp only [note, at_]
      refine ⟨asked, sink, monitor, same, ?_, nonempty, failed.same rfl, follows⟩
      simp only [none, List.nil_append]
      rfl
    · cases taken
  | deliver callback =>
    cases taken
    obtain ⟨asked, sink, monitor, place⟩ := h
    refine ⟨asked, sink, monitor, place.same rfl rfl ?_ rfl rfl rfl rfl rfl⟩
    cases callback <;> rename_i state <;> cases state <;> rfl

/-- What a query that has stopped waiting gives is the name of the first callback. -/
theorem firstName_iff {q : QueryRun} {rings : Rings} (heard : Heard q rings)
    (ended : q.waiter.listens = false) (name : String) :
    rings.firstName = some name ↔ gives q.waiter name := by
  have decides := heard.decides
  cases at_ : q.waiter with
  | created | issued | waiting =>
    rw [at_] at ended
    cases ended
  | returned =>
    simp only [QueryRun.held, at_] at decides
    rw [Rings.firstName, show rings.rang = [] from decides]
    exact ⟨by rintro ⟨⟩, fun given => by obtain ⟨_, ⟨⟩, _⟩ := given⟩
  | woken result =>
    simp only [QueryRun.held, at_] at decides
    cases result with
    | none =>
      rw [Rings.firstName, show rings.rang = [] from decides]
      exact ⟨by rintro ⟨⟩, fun given => by obtain ⟨_, ⟨⟩, _⟩ := given⟩
    | some result =>
      obtain ⟨call, rest, rang, rung⟩ := decides
      rw [Rings.firstName, rang, List.head?_cons, Option.bind_some, (rings_name rung).1]
      cases ok : result.ok with
      | true =>
        rw [if_pos rfl, Option.some.injEq]
        exact (gives_woken ok).symm
      | false =>
        refine ⟨by rintro ⟨⟩, fun given => absurd given (gives_nothing (fun _ same => ?_) name)⟩
        cases same
        exact ok

theorem gives_over {w : Waiter} {name : String} (given : gives w name) : w.listens = false := by
  obtain ⟨_, rfl, _⟩ := given
  rfl

/-- The condition on which `resolve_target` succeeds. -/
structure Answered (requested : String) (g : Answers) : Prop where
  connected : Connected g
  sink : requested.isEmpty = true → ∃ sink, g.sink.firstName = some sink ∧ sink.isEmpty = false
  monitor : ∃ monitor, g.monitor.firstName = some monitor

theorem Steady.not_answered (h : Steady requested out s g)
    (failed : Failed requested s.sink.waiter s.monitor.waiter g) : ¬Answered requested g := by
  rintro ⟨⟨c, entry, ready⟩, sink, monitor⟩
  cases failed with
  | unconnected c' entry' gone =>
    cases entry.symm.trans entry'
    rw [ready] at gone
    cases gone
  | noSink asked ended none =>
    obtain ⟨name, first, nonempty⟩ := sink asked
    rw [none name ((firstName_iff h.sink ended name).mp first)] at nonempty
    cases nonempty
  | noMonitor ended none =>
    obtain ⟨name, first⟩ := monitor
    exact none name ((firstName_iff h.monitor ended name).mp first)

theorem watched_steady {p : Resolution × Answers} {control : Control}
    (run : Steps.Watched step note Steps.Any (· = call control requested out) {} p) :
    Steady requested out p.1 p.2 := by
  apply Steps.Watched.invariant (Steady requested out) ?_ ?_ run
  · rintro _ rfl
    exact call_steady control requested out
  · intro s l t g _ steady _ taken
    exact step_steady steady taken

/-- A call that has returned did what `Control.resolveTarget` does with some
answers to its queries. -/
theorem follows_resolveTarget {p : Resolution × Answers} {control : Control} {ok : Bool}
    (run : Steps.Watched step note Steps.Any (· = call control requested out) {} p)
    (returned : p.1.pc = .returned ok) :
    Follows requested p.2 fun c =>
      if ok then (c, some p.1.out) else (c.setError p.1.control.error, none) := by
  have place := (watched_steady run).place
  cases ok with
  | false =>
    simp only [Place, returned] at place
    exact place.2.2.2.2
  | true =>
    simp only [Place, returned] at place
    exact place.2.2.2.2

end
end Resolution

/-! ## That it returns -/

/-- The steps a waiter has left to its result, and to what is made of it. -/
def Waiter.left : Waiter → Nat
  | .created => 4
  | .issued => 3
  | .waiting => 2
  | .woken _ => 1
  | .returned => 0

/-- The steps of the call itself. -/
def ResolveLabel.own : ResolveLabel → Bool
  | .sink l | .monitor l => l.byWaiter
  | .deliver _ => false
  | .begin | .refuse _ | .judge | .setError => true

namespace Resolution

/-- More steps than the call has left. -/
def left (s : Resolution) : Nat :=
  match s.pc with
  | .entered => 2 + s.sink.waiter.left + s.monitor.waiter.left
  | .sinkQuery => 1 + s.sink.waiter.left + s.monitor.waiter.left
  | .monitorQuery _ => 1 + s.monitor.waiter.left
  | .failing _ => 1
  | .returned _ => 0

section
variable {requested : String} {out : Target} {s t : Resolution} {g : Answers} {q r : QueryRun}

theorem byWaiter_left {l : QueryLabel} (byWaiter : l.byWaiter = true) (taken : q.step l = some r) :
    r.waiter.left < q.waiter.left := by
  cases l with
  | issue | unref =>
    simp only [QueryRun.step, Option.ite_none_right_eq_some, Option.some.injEq] at taken
    obtain ⟨at_, rfl⟩ := taken
    rw [at_]
    exact Nat.lt_succ_self _
  | wake | timeOut =>
    simp only [QueryRun.step, Option.ite_none_right_eq_some, Option.some.injEq] at taken
    obtain ⟨⟨at_, _⟩, rfl⟩ := taken
    rw [at_]
    exact Nat.lt_succ_self _
  | _ => cases byWaiter

theorem refuse_left (refused : q.step .refuse = some r) : q.waiter.left = 4 := by
  simp only [QueryRun.step, Option.ite_none_right_eq_some, Option.some.injEq] at refused
  rw [refused.1]
  rfl

/-- Each step of the call leaves it fewer. -/
theorem step_left {l : ResolveLabel} (own : l.own = true) (taken : s.step l = some t) :
    t.left < s.left := by
  cases l with
  | begin =>
    simp only [step, Option.ite_none_right_eq_some, Option.some.injEq] at taken
    obtain ⟨at_, rfl⟩ := taken
    unfold enter failing
    repeat' split
    all_goals
      simp only [left, at_]
      omega
  | refuse strerror =>
    simp only [step] at taken
    split at taken
    · rename_i at_
      obtain ⟨query, refused, rfl⟩ := Option.map_eq_some_iff.mp taken
      simp only [failing, left, at_, refuse_left refused]
      omega
    · rename_i at_
      obtain ⟨query, refused, rfl⟩ := Option.map_eq_some_iff.mp taken
      simp only [failing, left, at_, refuse_left refused]
      omega
    · cases taken
  | sink l =>
    simp only [step, Option.ite_none_right_eq_some, Bool.and_eq_true, Bool.or_eq_true,
      beq_iff_eq] at taken
    obtain ⟨⟨_, side⟩, taken⟩ := taken
    obtain ⟨query, moved, rfl⟩ := Option.map_eq_some_iff.mp taken
    have nearer := byWaiter_left own moved
    obtain byLoop | ⟨_, at_⟩ := side
    · rw [byLoop_waiter byLoop moved] at nearer
      exact absurd nearer (Nat.lt_irrefl _)
    · simp only [left, at_]
      omega
  | monitor l =>
    simp only [step, Option.ite_none_right_eq_some, Bool.and_eq_true, Bool.or_eq_true] at taken
    obtain ⟨⟨_, side⟩, taken⟩ := taken
    obtain ⟨query, moved, rfl⟩ := Option.map_eq_some_iff.mp taken
    have nearer := byWaiter_left own moved
    obtain byLoop | ⟨_, asks⟩ := side
    · rw [byLoop_waiter byLoop moved] at nearer
      exact absurd nearer (Nat.lt_irrefl _)
    · unfold asksMonitor at asks
      split at asks
      · rename_i at_
        simp only [left, at_]
        omega
      · cases asks
  | judge =>
    simp only [step] at taken
    split at taken
    · rename_i at_ woken
      cases taken
      unfold judgeSink failing
      repeat' split
      all_goals
        simp only [left, at_, woken, Waiter.left]
        omega
    · rename_i at_ woken
      cases taken
      unfold judgeMonitor failing
      split
      all_goals
        simp only [left, at_, woken, Waiter.left]
        omega
    · cases taken
  | setError =>
    simp only [step] at taken
    split at taken
    · rename_i reason at_
      cases taken
      simp only [left, at_]
      omega
    · cases taken
  | deliver callback => cases own

/-- No step of the main loop thread leaves it more. -/
theorem step_left_beside {l : ResolveLabel} (other : ¬l.own = true) (taken : s.step l = some t) :
    t.left ≤ s.left := by
  cases l with
  | begin | refuse strerror | judge | setError => exact absurd rfl other
  | sink l =>
    simp only [step, Option.ite_none_right_eq_some, Bool.and_eq_true, Bool.or_eq_true,
      beq_iff_eq] at taken
    obtain ⟨⟨_, side⟩, taken⟩ := taken
    obtain ⟨query, moved, rfl⟩ := Option.map_eq_some_iff.mp taken
    have same := byLoop_waiter (side.resolve_right fun mine => other mine.1) moved
    simp only [left, same, Nat.le_refl]
  | monitor l =>
    simp only [step, Option.ite_none_right_eq_some, Bool.and_eq_true, Bool.or_eq_true] at taken
    obtain ⟨⟨_, side⟩, taken⟩ := taken
    obtain ⟨query, moved, rfl⟩ := Option.map_eq_some_iff.mp taken
    have same := byLoop_waiter (side.resolve_right fun mine => other mine.1) moved
    simp only [left, same, Nat.le_refl]
  | deliver callback =>
    cases taken
    exact Nat.le_refl _

/-- A query that has not returned has its result or a step to take. -/
theorem waits (open_ : q.waiter ≠ .returned) :
    (∃ result, q.waiter = .woken result) ∨
      ∃ l r, l.ofServer = true ∧ l.ofSink = true ∧ l.byWaiter = true ∧ q.step l = some r := by
  cases at_ : q.waiter with
  | created => exact .inr ⟨.issue, _, rfl, rfl, rfl, if_pos at_⟩
  | issued => exact .inr ⟨.unref, _, rfl, rfl, rfl, if_pos at_⟩
  | waiting =>
    by_cases raised : q.alarm.raised = true
    · exact .inr ⟨.wake, _, rfl, rfl, rfl, if_pos ⟨at_, raised⟩⟩
    · exact .inr ⟨.timeOut, _, rfl, rfl, rfl, if_pos ⟨at_, raised⟩⟩
  | woken result => exact .inl ⟨result, rfl⟩
  | returned => exact absurd at_ open_

/-- A call that has not returned has a step of its own to take. -/
theorem Steady.turn (h : Steady requested out s g) (pending : ∀ ok, s.pc ≠ .returned ok) :
    ∃ l t, l.own = true ∧ s.step l = some t := by
  have place := h.place
  cases at_ : s.pc with
  | entered => exact ⟨.begin, _, rfl, if_pos at_⟩
  | sinkQuery =>
    simp only [Place, at_] at place
    obtain ⟨result, woken⟩ | ⟨l, query, of, _, byWaiter, moved⟩ := waits place.2.2.2.2.2
    · exact ⟨.judge, s.judgeSink result, rfl, by simp only [step, at_, woken]⟩
    · exact ⟨.sink l, { s with sink := query }, byWaiter, by
        simp only [step, at_, of, byWaiter, moved, beq_self_eq_true, Bool.or_true, Bool.and_self,
          if_true, Option.map_some]⟩
  | monitorQuery sink =>
    simp only [Place, at_] at place
    obtain ⟨result, woken⟩ | ⟨l, query, _, of, byWaiter, moved⟩ := waits place.2.2.2.2.1
    · exact ⟨.judge, s.judgeMonitor sink result, rfl, by simp only [step, at_, woken]⟩
    · exact ⟨.monitor l, { s with monitor := query }, byWaiter, by
        simp only [step, asksMonitor, at_, of, byWaiter, moved, Bool.or_true, Bool.and_self, if_true,
          Option.map_some]⟩
  | failing reason =>
    exact ⟨.setError, { s with control := s.control.setError reason, pc := .returned false }, rfl,
      by simp only [step, at_]⟩
  | returned ok => exact absurd at_ (pending ok)

/-! ## What it returns -/

/-- What a call that has returned `ok` has made of its answers: it succeeds where
the connection is ready and the first callback in time of each query it issues
carries a name, that of the default sink not empty. Then the target is the
requested sink, or the default one, with the monitor found for that sink.
Otherwise the target is as it was, and the error the one reason this call has set. -/
structure Decided (requested : String) (out : Target) (ok : Bool) (s : Resolution) (g : Answers) :
    Prop where
  answered : ok = true ↔ Answered requested g
  sink : ok = true →
    if requested.isEmpty then g.sink.firstName = some s.out.sink else s.out.sink = requested
  monitor : ok = true →
    g.lookedUp = some s.out.sink ∧ g.monitor.firstName = some s.out.monitor
  failed : ok = false →
    s.out = out ∧ ∃ reason, reason ≠ "" ∧ g.reasons = [reason] ∧ s.control.error = reason

theorem Steady.decided (h : Steady requested out s g) {ok : Bool} (returned : s.pc = .returned ok) :
    Decided requested out ok s g := by
  have place := h.place
  cases ok with
  | false =>
    simp only [Place, returned] at place
    obtain ⟨same, reasons, nonempty, failed, _⟩ := place
    exact ⟨⟨by rintro ⟨⟩, fun answered => absurd answered (h.not_answered failed)⟩,
      by rintro ⟨⟩, by rintro ⟨⟩, fun _ => ⟨same, _, nonempty, reasons, rfl⟩⟩
  | true =>
    simp only [Place, returned] at place
    obtain ⟨connected, chosen, monitor, lookedUp, _⟩ := place
    have monitor_first := (firstName_iff h.monitor (gives_over monitor) _).mpr monitor
    have sink_first : requested.isEmpty = true →
        g.sink.firstName = some s.out.sink ∧ s.out.sink.isEmpty = false := by
      intro empty
      rw [Chosen, if_pos empty] at chosen
      exact ⟨(firstName_iff h.sink (gives_over chosen.1) _).mpr chosen.1, chosen.2⟩
    refine ⟨⟨fun _ => ⟨connected, fun empty => ⟨_, sink_first empty⟩, _, monitor_first⟩,
      fun _ => rfl⟩, fun _ => ?_, fun _ => ⟨lookedUp, monitor_first⟩, by rintro ⟨⟩⟩
    split
    · rename_i empty
      exact (sink_first empty).1
    · rename_i pinned
      rw [Chosen, if_neg pinned] at chosen
      exact chosen

/-- `resolve_target` returns, whatever the main loop thread does meanwhile, and
what it returns is decided by the first answers: from every state of a call, its
own steps take it to its return, and it has returned what they say. -/
theorem decided_by_first_answer (control : Control) (requested : String) (out : Target)
    (p : Resolution × Answers)
    (run : Steps.Watched step note Steps.Any (· = call control requested out) {} p) :
    Steps.Finishes (Steps.watch step note) (fun l => l.own = true)
      (fun p => ∃ ok, p.1.pc = .returned ok ∧ Decided requested out ok p.1 p.2) p ∧
    ∀ ok, p.1.pc = .returned ok → Decided requested out ok p.1 p.2 := by
  refine ⟨?_, fun ok returned => (watched_steady run).decided returned⟩
  apply Steps.Finishes.of_measure
    (Steps.Watched step note Steps.Any (· = call control requested out) {}) (fun p => p.1.left)
    ?_ ?_ ?_ ?_ run
  · exact fun p l q run taken => .next run trivial taken
  · exact fun p l q own taken => step_left own (Steps.watch_eq_some taken).1
  · exact fun p l q other taken => step_left_beside other (Steps.watch_eq_some taken).1
  · intro p run
    have steady := watched_steady run
    by_cases returned : ∃ ok, p.1.pc = .returned ok
    · obtain ⟨ok, at_⟩ := returned
      exact .inl ⟨ok, at_, steady.decided at_⟩
    · obtain ⟨l, t, own, taken⟩ := steady.turn fun ok at_ => returned ⟨ok, at_⟩
      exact .inr ⟨l, _, own, Option.map_eq_some_iff.mpr ⟨t, taken, rfl⟩⟩

end

/-- A connection that is ready. -/
def readyControl : Control :=
  { mainloop := true, ctx := some .ready, thread := .current, ready := true }

/-- The default sink is asked for and looked up; the lookup hears an end of list,
two sinks and an error. -/
def twoSinks : List ResolveLabel :=
  [.begin, .sink .issue, .sink .unref, .sink (.invoke (.server (some ⟨some "s"⟩))), .sink .ring,
    .sink .notify, .sink .wake, .judge, .monitor .issue, .monitor .unref,
    .monitor (.invoke (.sink "" none 1)), .monitor (.invoke (.sink "" (some ⟨some "m"⟩) 0)),
    .monitor .ring, .monitor .notify, .monitor (.invoke (.sink "" (some ⟨some "n"⟩) 0)),
    .monitor .ring, .monitor .wake, .monitor (.invoke (.sink "e" none (-1))), .monitor .ring,
    .judge]

/-- The first sink is the target. -/
theorem decided_by_first_sink : ∃ p : Resolution × Answers,
    Steps.Watched step note Steps.Any (· = call readyControl "" ⟨"", ""⟩) {} p ∧
    p.1.pc = .returned true ∧ p.1.out = ⟨"s", "m"⟩ ∧ Answered "" p.2 := by
  obtain ⟨p, ran, returned, found⟩ : ∃ p : Resolution × Answers,
      Steps.exec (Steps.watch step note) (call readyControl "" ⟨"", ""⟩, {}) twoSinks = some p ∧
      p.1.pc = .returned true ∧ p.1.out = ⟨"s", "m"⟩ := ⟨_, rfl, rfl, rfl⟩
  have run : Steps.Watched step note Steps.Any (· = call readyControl "" ⟨"", ""⟩) {} p :=
    Steps.Reach.exec (.start ⟨rfl, rfl⟩) (Steps.meets_all _ _ fun _ _ _ => trivial) ran
  have decided := (decided_by_first_answer _ _ _ p run).2 true returned
  exact ⟨p, run, returned, found, decided.answered.mp rfl⟩

end Resolution
end WebAudioCapture
