import WebAudioCapture.OpenOnce

/-!
# Freeing a handle

`weba_capture_destroy` stops the handle and then frees it, unless a stop has
abandoned a thread that still uses it. A thread is joined once it has returned,
a handle with an abandoned thread never starts another, and so the handle and
its connection outlive every thread that can still touch them.
-/

namespace WebAudioCapture

variable {β : Type}

/-- What has become of a handle. -/
inductive Fate where
  | held
  | destroying
  | deleted
  | leaked
  deriving DecidableEq, Repr

/-- A handle and what its owner does with it. -/
structure Owner (β : Type) where
  life : Lifetime β
  fate : Fate := .held
  deriving DecidableEq, Repr

inductive OwnerLabel (β : Type) where
  | act (l : LifetimeLabel β)
  | destroy
  | settle
  deriving DecidableEq, Repr

def LifetimeLabel.isCall : LifetimeLabel β → Bool
  | .start | .stop | .read _ => true
  | _ => false

namespace Owner

/-- `destroy` is a stop, and `settle` its end; no call follows it. -/
def step [Zero β] (s : Owner β) : OwnerLabel β → Option (Owner β)
  | .act l =>
    if s.fate = .held ∨ l.isCall = false then (s.life.step l).map fun life => { s with life }
    else none
  | .destroy =>
    if s.fate = .held then (s.life.step .stop).map fun life => { life, fate := .destroying }
    else none
  | .settle =>
    if s.fate = .destroying ∧ s.life.caller.isFree = true then
      some { s with fate := if s.life.capture.threadAbandoned then .leaked else .deleted }
    else none

/-- A handle `create` has just returned. -/
def Fresh [Zero β] (s : Owner β) : Prop := ∃ life, life.Fresh ∧ s = { life }

end Owner

namespace Control

theorem newMainloop_joinable (c : Control) (made : Bool) :
    (c.newMainloop made).thread = .none ↔ c.thread = .none := by
  unfold newMainloop
  cases c.thread with
  | none => exact ⟨fun _ => rfl, fun _ => rfl⟩
  | current => exact ⟨by rintro ⟨⟩, by rintro ⟨⟩⟩
  | orphaned => exact ⟨by rintro ⟨⟩, by rintro ⟨⟩⟩

theorem awaitConnection_thread (c : Control) : c.awaitConnection.1.thread = c.thread := by
  unfold awaitConnection
  split
  · rfl
  · split
    · rfl
    · rfl

theorem connect_thread {c c' : Control} {env : InitEnv} {status : Status}
    (made : c.connect env = some (c', status)) :
    (status = .ok → c.thread = .none ∧ c'.thread ≠ .none) ∧
    (c.thread ≠ .none → c'.thread ≠ .none) := by
  have connecting := (deliverAll_hold c env.connecting).thread
  unfold connect at made
  dsimp only at made
  split at made
  · cases made
    refine ⟨by rintro ⟨⟩, fun used => ?_⟩
    rw [setError_thread, connecting]
    exact used
  · split at made
    · cases made
    · rename_i unused
      have none : c.thread = .none := by
        rw [connecting] at unused
        cases at_ : c.thread with
        | none => rfl
        | current => exact absurd (at_ ▸ rfl) unused
        | orphaned => exact absurd (at_ ▸ rfl) unused
      have up : c'.thread = .current := by
        have waiting := (deliverAll_hold (c.deliverAll env.connecting).runLoop env.waiting).thread
        rw [← awaitConnection_thread] at waiting
        rw [Option.some.inj made] at waiting
        exact waiting
      rw [up]
      exact ⟨fun _ => ⟨none, by rintro ⟨⟩⟩, fun _ => by rintro ⟨⟩⟩

/-- `init` leaves a loop thread where there was one, and succeeds only where
there was none. -/
theorem init_thread {c c' : Control} {env : InitEnv} {status : Status}
    (made : c.init env = some (c', status)) :
    (status = .ok → c.thread = .none ∧ c'.thread ≠ .none) ∧
    (c.thread ≠ .none → c'.thread ≠ .none) := by
  have kept : ∀ made, c.thread ≠ .none → (c.newMainloop made).thread ≠ .none :=
    fun made used none => used ((newMainloop_joinable c made).mp none)
  unfold init at made
  dsimp only at made
  split at made
  · cases made
    exact ⟨by rintro ⟨⟩, kept env.mainloopNew⟩
  · split at made
    · cases made
      exact ⟨by rintro ⟨⟩, kept env.mainloopNew⟩
    · obtain ⟨succeeds, stays⟩ := connect_thread made
      constructor
      · intro ok
        obtain ⟨unused, up⟩ := succeeds ok
        exact ⟨(newMainloop_joinable c env.mainloopNew).mp unused, up⟩
      · intro used
        exact stays (kept env.mainloopNew used)

end Control

namespace Lifetime

/-- The threads joined, in order. -/
def noteJoined (s : Lifetime β) (l : LifetimeLabel β) (joined : List Nat) : List Nat :=
  match l with
  | .run => if s.caller = .joined then joined ++ s.capture.thread.toList else joined
  | _ => joined

/-- Every thread has been joined, is the handle's or has been abandoned. -/
def Accounted (c : Capture β) (threads : List (CaptureThread β)) (joined : List Nat) : Prop :=
  ∀ i < threads.length, i ∈ joined ∨ c.thread = some i ∨ c.threadAbandoned = true

/-- At most one thread is not done. -/
def Lone (threads : List (CaptureThread β)) : Prop :=
  ∀ (i j : Nat) t u, threads[i]? = some t → threads[j]? = some u → t.isDone = false →
    u.isDone = false → i = j

/-- A handle that has or has abandoned a thread is connected. -/
def Tethered (c : Capture β) : Prop :=
  c.thread.isSome = true ∨ c.threadAbandoned = true → c.control.thread ≠ .none

/-- No thread, kept or abandoned, and a connection. -/
structure Quiet (c : Capture β) : Prop where
  thread : c.thread = none
  kept : c.threadAbandoned = false
  up : c.control.thread ≠ .none

/-- What holds of the handle where the caller stands. -/
def SafeAt (c : Capture β) (threads : List (CaptureThread β)) : CallerPc → Prop
  | .idle | .started _ | .starting | .reading | .requesting => Steady c threads
  | .connecting => c.thread = none
  | .resolving | .retreating | .publishing _ | .arming => Quiet c
  | .raising => Quiet c ∧ c.stopRequested = false
  | .spawning => Quiet c ∧ c.stopRequested = false ∧ c.running = true
  | .closing | .joining | .terminated => True
  | .waiting _ | .joined => c.thread.isSome = true
  | .disconnecting | .lowering => c.thread = none ∧ c.threadAbandoned = false

structure Safe (s : Lifetime β) (joined : List Nat) : Prop where
  returned : ∀ i ∈ joined, s.hasFinished i = true
  accounted : Accounted s.capture s.threads joined
  lone : Lone s.threads
  tethered : Tethered s.capture
  at_ : SafeAt s.capture s.threads s.caller

section
variable {s t : Lifetime β} {c c' : Capture β} {threads threads' : List (CaptureThread β)}
  {joined : List Nat} {pc : CallerPc}

theorem noteJoined_elsewhere (l : LifetimeLabel β) (h : s.caller ≠ .joined) :
    s.noteJoined l joined = joined := by
  unfold noteJoined
  split
  · exact if_neg h
  · rfl

theorem hasFinished_iff {i : Nat} :
    s.hasFinished i = true ↔ ∃ t, s.threads[i]? = some t ∧ t.pc = .finished := by
  simp only [hasFinished, Option.any_eq_true, beq_iff_eq]

/-- With no thread kept or abandoned, all have been joined. -/
theorem Safe.all_joined (h : Safe s joined) (unused : s.capture.thread = none)
    (kept : s.capture.threadAbandoned = false) : ∀ i < s.threads.length, i ∈ joined := by
  intro i lt
  obtain done | mine | left := h.accounted i lt
  · exact done
  · rw [unused] at mine
    cases mine
  · rw [kept] at left
    cases left

theorem Safe.all_finished (h : Safe s joined) (unused : s.capture.thread = none)
    (kept : s.capture.threadAbandoned = false) : ∀ t ∈ s.threads, t.pc = .finished := by
  intro t at_
  obtain ⟨i, lt, rfl⟩ := List.mem_iff_getElem.mp at_
  obtain ⟨t, at_, done⟩ := hasFinished_iff.mp (h.returned i (h.all_joined unused kept i lt))
  rw [List.getElem?_eq_getElem lt] at at_
  cases at_
  exact done

/-! ## Steps the caller takes no part in -/

theorem SafeAt.map (h : SafeAt c threads pc) (same : c.Undisturbed c')
    (steady : Steady c threads → Steady c' threads')
    (running : c.thread = none → c.threadAbandoned = false → c'.running = c.running) :
    SafeAt c' threads' pc := by
  have quiet : Quiet c → Quiet c' := by
    intro h
    refine ⟨same.thread.trans h.thread, same.threadAbandoned.trans h.kept, ?_⟩
    rw [same.control.thread]
    exact h.up
  cases pc with
  | idle | started _ | starting | reading | requesting => exact steady h
  | connecting => exact same.thread.trans h
  | resolving | retreating | publishing _ | arming => exact quiet h
  | raising => exact And.imp quiet same.stopRequested.trans h
  | spawning =>
    obtain ⟨down, going, up⟩ := h
    exact ⟨quiet down, same.stopRequested.trans going, (running down.thread down.kept).trans up⟩
  | closing | joining | terminated => trivial
  | waiting _ | joined => exact (congrArg Option.isSome same.thread).trans h
  | disconnecting | lowering => exact ⟨same.thread.trans h.1, same.threadAbandoned.trans h.2⟩

theorem SafeAt.free (h : SafeAt c threads pc) (free : pc.isFree = true) : Steady c threads := by
  cases pc with
  | idle | started _ => exact h
  | _ => cases free

theorem Tethered.same (h : Tethered c) (same : c.Undisturbed c') : Tethered c' := by
  unfold Tethered
  rw [same.thread, same.threadAbandoned, same.control.thread]
  exact h

/-- A step that neither starts, joins nor abandons a thread. -/
theorem Safe.move (h : Safe s joined) (threads : t.threads = s.threads)
    (thread : t.capture.thread = s.capture.thread)
    (abandoned : t.capture.threadAbandoned = s.capture.threadAbandoned)
    (up : s.capture.control.thread ≠ .none → t.capture.control.thread ≠ .none)
    (at_ : SafeAt t.capture t.threads t.caller) : Safe t joined := by
  refine ⟨?_, ?_, ?_, ?_, at_⟩
  · intro i done
    have finished := h.returned i done
    rw [hasFinished] at finished ⊢
    rw [threads]
    exact finished
  · unfold Accounted
    rw [threads, thread, abandoned]
    exact h.accounted
  · rw [threads]
    exact h.lone
  · unfold Tethered
    rw [thread, abandoned]
    exact fun used => up (h.tethered used)

theorem thread_lone {i : Nat} {th th' : CaptureThread β} {now : Int} (h : Lone threads)
    (at_ : threads[i]? = some th) (moved : th.Moves c now c' th') : Lone (threads.set i th') := by
  have lt := (List.getElem?_eq_some_iff.mp at_).1
  -- a thread that goes on was going on before
  have before : ∀ (j : Nat) u, (threads.set i th')[j]? = some u → u.isDone = false →
      ∃ v, threads[j]? = some v ∧ v.isDone = false := by
    intro j u at_' going
    by_cases this : i = j
    · subst this
      rw [List.getElem?_set_self lt] at at_'
      cases at_'
      refine ⟨th, at_, Bool.eq_false_iff.mpr fun done => ?_⟩
      rw [(CaptureThread.moves_done moved done).1] at going
      cases going
    · rw [List.getElem?_set_ne this] at at_'
      exact ⟨u, at_', going⟩
  intro j k u v at_j at_k going_j going_k
  obtain ⟨u', at_j, going_j⟩ := before j u at_j going_j
  obtain ⟨v', at_k, going_k⟩ := before k v at_k going_k
  exact h j k u' v' at_j at_k going_j going_k

theorem thread_safe {i : Nat} {th th' : CaptureThread β} (h : Safe s joined)
    (at_ : s.threads[i]? = some th) (moved : th.Moves s.capture s.clock c th') :
    Safe { s with capture := c, threads := s.threads.set i th' } joined := by
  obtain ⟨same, left⟩ := th.moves_undisturbed moved
  refine ⟨?_, ?_, thread_lone h.lone at_ moved, h.tethered.same same, ?_⟩
  · intro j done
    obtain ⟨u, at_', finished⟩ := hasFinished_iff.mp (h.returned j done)
    have other : i ≠ j := by
      intro this
      rw [← this, at_] at at_'
      cases at_'
      exact CaptureThread.moves_unfinished moved finished
    apply hasFinished_iff.mpr
    exact ⟨u, (List.getElem?_set_ne other).trans at_', finished⟩
  · intro j lt
    dsimp only at lt ⊢
    rw [List.length_set] at lt
    rw [same.thread, same.threadAbandoned]
    exact h.accounted j lt
  · apply h.at_.map same (thread_steady · at_ moved)
    intro unused kept
    have finished := h.all_finished unused kept th (List.mem_of_getElem? at_)
    exact absurd finished (CaptureThread.moves_unfinished moved)

/-! ## Steps of the caller -/

theorem connected_safe {env : InitEnv} {control : Control} {status : Status}
    (h : Safe s joined) (unused : s.capture.thread = none)
    (made : s.capture.control.init env = some (control, status)) :
    Safe (s.connected env control status) joined := by
  obtain ⟨succeeds, stays⟩ := Control.init_thread made
  unfold connected
  by_cases ok : status = .ok
  · rw [if_pos ok]
    obtain ⟨none, up⟩ := succeeds ok
    have kept : s.capture.threadAbandoned = false := by
      apply Bool.eq_false_iff.mpr
      intro left
      exact h.tethered (.inr left) none
    exact h.move rfl rfl rfl stays ⟨unused, kept, up⟩
  · rw [if_neg ok]
    exact h.move rfl rfl rfl stays (steady_unused unused)

theorem resolved_safe {found : Control × Option Target} (h : Safe s joined)
    (quiet : Quiet s.capture) (same : s.capture.control.SameHold found.1) :
    Safe (s.resolved found) joined := by
  have up : found.1.thread ≠ .none := by
    rw [same.thread]
    exact quiet.up
  obtain ⟨control, _ | target⟩ := found
  · exact h.move rfl rfl rfl (fun _ => up) ⟨quiet.thread, quiet.kept, up⟩
  · exact h.move rfl rfl rfl (fun _ => up) ⟨quiet.thread, quiet.kept, up⟩

theorem shutDown_safe {control : Control} (h : Safe s joined) (unused : s.capture.thread = none)
    (kept : s.capture.threadAbandoned = false) (caller : CallerPc)
    (at_ : SafeAt (s.shutDown control caller).capture s.threads caller) :
    Safe (s.shutDown control caller) joined := by
  refine ⟨h.returned, h.accounted, h.lone, ?_, at_⟩
  intro used
  obtain used | left := used
  · rw [show (s.shutDown control caller).capture.thread = none from unused] at used
    cases used
  · rw [show (s.shutDown control caller).capture.threadAbandoned = false from kept] at left
    cases left

theorem released_at (unused : s.capture.thread = none) :
    SafeAt s.released.capture s.released.threads s.released.caller := by
  unfold released goto
  dsimp only
  by_cases left : s.capture.threadAbandoned = true
  · rw [if_pos left]
    exact steady_unused unused
  · rw [if_neg left]
    exact ⟨unused, Bool.eq_false_iff.mpr left⟩

theorem abandon_safe (h : Safe s joined) (used : s.capture.thread.isSome = true) :
    Safe s.abandon.released joined := by
  refine ⟨h.returned, fun _ _ => .inr (.inr rfl), h.lone, ?_, released_at rfl⟩
  intro _
  exact h.tethered (.inl used)

theorem join_safe {i : Nat} (h : Safe s joined) (used : s.capture.thread = some i)
    (finished : s.hasFinished i = true) : Safe s.detach.released (joined ++ [i]) := by
  refine ⟨?_, ?_, h.lone, ?_, released_at rfl⟩
  · intro j done
    obtain done | done := List.mem_append.mp done
    · exact h.returned j done
    · rw [List.mem_singleton.mp done]
      exact finished
  · intro j lt
    obtain done | mine | left := h.accounted j lt
    · exact .inl (List.mem_append_left _ done)
    · rw [used] at mine
      cases mine
      exact .inl (List.mem_append_right _ (List.mem_singleton_self i))
    · exact .inr (.inr left)
  · intro _
    apply h.tethered
    rw [used]
    exact .inl rfl

end

section
variable [Zero β] {s t : Lifetime β} {joined : List Nat}

theorem spawn_safe (h : Safe s joined) (quiet : Quiet s.capture)
    (going : s.capture.stopRequested = false) (running : s.capture.running = true) :
    Safe s.spawn joined := by
  have finished := h.all_finished quiet.thread quiet.kept
  have old : ∀ (i : Nat) t, s.spawn.threads[i]? = some t → t.isDone = false →
      i = s.threads.length := by
    intro i t at_ going
    have lt := (List.getElem?_eq_some_iff.mp at_).1
    simp only [spawn, List.length_append, List.length_singleton] at lt at_
    by_cases old : i < s.threads.length
    · rw [List.getElem?_append_left old] at at_
      rw [CaptureThread.isDone, finished t (List.mem_of_getElem? at_)] at going
      cases going
    · omega
  refine ⟨?_, ?_, ?_, fun _ => quiet.up, ?_⟩
  · intro i done
    obtain ⟨t, at_, finished⟩ := hasFinished_iff.mp (h.returned i done)
    apply hasFinished_iff.mpr
    refine ⟨t, ?_, finished⟩
    have lt := (List.getElem?_eq_some_iff.mp at_).1
    exact (List.getElem?_append_left lt).trans at_
  · intro i lt
    simp only [spawn, List.length_append, List.length_singleton] at lt ⊢
    by_cases new : i < s.threads.length
    · exact .inl (h.all_joined quiet.thread quiet.kept i new)
    · exact .inr (.inl (congrArg some (by omega)))
  · intro i j t u at_i at_j going_i going_j
    rw [old i t at_i going_i, old j u at_j going_j]
  · intro _
    refine ⟨running, going, ?_⟩
    intro t at_
    obtain old | new := List.mem_append.mp at_
    · rw [finished t old]
      rintro ⟨⟩
    · rw [List.mem_singleton.mp new]
      rintro ⟨⟩

theorem step_safe {l : LifetimeLabel β} (h : Safe s joined) (moved : Moves s l t) :
    Safe t (s.noteJoined l joined) := by
  have at_now := h.at_
  have away : ∀ pc, s.caller = pc → pc ≠ .joined → s.noteJoined l joined = joined := by
    intro pc at_ other
    apply noteJoined_elsewhere
    rw [at_]
    exact other
  cases moved with
  | tick elapsed => exact h.move rfl rfl rfl id at_now
  | callback delivery =>
    have same : s.capture.Undisturbed
        { s.capture with control := s.capture.control.deliver delivery } :=
      ⟨Control.deliver_hold _ delivery, rfl, rfl, rfl, rfl⟩
    refine h.move rfl rfl rfl ?_ (at_now.map same (·.same same rfl) fun _ _ => rfl)
    rw [same.control.thread]
    exact id
  | thread i input th th' c at_ moved => exact thread_safe h at_ moved
  | start free => exact h.move rfl rfl rfl id (at_now.free free)
  | stop free => exact h.move rfl rfl rfl id (at_now.free free)
  | read args r free entered => exact h.move rfl rfl rfl id (at_now.free free)
  | reads c r at_ taken =>
    obtain ⟨same, running⟩ := Reader.moves_undisturbed (Reader.step_moves taken)
    rw [away _ at_ (by rintro ⟨⟩)]
    rw [at_] at at_now
    have steady : Steady c s.threads := Steady.same at_now same running
    refine h.move rfl same.thread same.threadAbandoned ?_ ?_
    · rw [same.control.thread]
      exact id
    · dsimp only
      split
      · exact steady
      · exact steady
  | refuse at_ running =>
    rw [at_] at at_now
    rw [away _ at_ (by rintro ⟨⟩)]
    exact h.move rfl rfl rfl id at_now
  | begin at_ down =>
    rw [at_] at at_now
    rw [away _ at_ (by rintro ⟨⟩)]
    refine h.move rfl rfl rfl id (Option.not_isSome_iff_eq_none.mp ?_)
    intro used
    rw [(at_now used).1] at down
    cases down
  | connect env control status at_ made =>
    rw [at_] at at_now
    exact connected_safe h at_now made
  | crash env at_ clash => exact h.move rfl rfl rfl id trivial
  | resolve defaultSink monitor found at_ answer =>
    rw [at_] at at_now
    exact resolved_safe h at_now (answer ▸ Control.resolveTarget_hold ..)
  | retreat stopping control at_ down =>
    rw [at_] at at_now
    exact shutDown_safe h at_now.thread at_now.kept _ (steady_unused at_now.thread)
  | publish target at_ =>
    rw [at_] at at_now
    rw [away _ at_ (by rintro ⟨⟩)]
    exact h.move rfl rfl rfl id ⟨at_now.thread, at_now.kept, at_now.up⟩
  | arm at_ =>
    rw [at_] at at_now
    rw [away _ at_ (by rintro ⟨⟩)]
    exact h.move rfl rfl rfl id ⟨⟨at_now.thread, at_now.kept, at_now.up⟩, rfl⟩
  | raise at_ =>
    rw [at_] at at_now
    rw [away _ at_ (by rintro ⟨⟩)]
    obtain ⟨quiet, going⟩ := at_now
    exact h.move rfl rfl rfl id ⟨⟨quiet.thread, quiet.kept, quiet.up⟩, going, rfl⟩
  | spawn at_ unused =>
    rw [at_] at at_now
    rw [away _ at_ (by rintro ⟨⟩)]
    exact spawn_safe h at_now.1 at_now.2.1 at_now.2.2
  | overwrite at_ used =>
    rw [away _ at_ (by rintro ⟨⟩)]
    exact h.move rfl rfl rfl id trivial
  | request at_ =>
    rw [away _ at_ (by rintro ⟨⟩)]
    exact h.move rfl rfl rfl id trivial
  | close at_ =>
    rw [away _ at_ (by rintro ⟨⟩)]
    exact h.move rfl rfl rfl id trivial
  | pass at_ unused =>
    rw [away _ at_ (by rintro ⟨⟩)]
    exact h.move rfl rfl rfl id (released_at unused)
  | wait until_ at_ used =>
    rw [away _ at_ (by rintro ⟨⟩)]
    exact h.move rfl rfl rfl id used
  | see until_ at_ down =>
    rw [at_] at at_now
    rw [away _ at_ (by rintro ⟨⟩)]
    exact h.move rfl rfl rfl id at_now
  | abandon until_ at_ late =>
    rw [at_] at at_now
    rw [away _ at_ (by rintro ⟨⟩)]
    exact abandon_safe h at_now
  | join i at_ used finished =>
    have note : s.noteJoined .run joined = joined ++ [i] := by
      simp only [noteJoined, at_, used, if_true, Option.toList_some]
    rw [note]
    exact join_safe h used finished
  | disconnect stopping control at_ down =>
    rw [at_] at at_now
    exact shutDown_safe h at_now.1 at_now.2 _ at_now
  | lower at_ =>
    rw [at_] at at_now
    rw [away _ at_ (by rintro ⟨⟩)]
    exact h.move rfl rfl rfl id (steady_unused at_now.1)

theorem fresh_safe (h : s.Fresh) : Safe s [] := by
  obtain ⟨c, clock, created, rfl⟩ := h
  obtain ⟨storage, shape, _⟩ := created.shape
  have unused : c.thread = none := congrArg Capture.thread shape
  have kept : c.threadAbandoned = false := congrArg Capture.threadAbandoned shape
  refine ⟨by rintro i ⟨⟩, by rintro i ⟨⟩, by rintro i j t u ⟨⟩, ?_, steady_unused unused⟩
  intro used
  obtain used | left := used
  · rw [show ({ capture := c, clock } : Lifetime β).capture.thread = none from unused] at used
    cases used
  · rw [show ({ capture := c, clock } : Lifetime β).capture.threadAbandoned = false from kept] at left
    cases left

end

/-! ## The stop of a destroy -/

/-- In a stop, or between calls. -/
def ends : CallerPc → Bool
  | .requesting | .closing | .joining | .waiting _ | .joined | .disconnecting | .lowering
  | .idle => true
  | _ => false

/-- In a stop, or past one that has left no thread to the handle. -/
structure Ending (s : Lifetime β) : Prop where
  place : ends s.caller = true
  unused : s.caller = .idle → s.capture.thread = none

theorem released_ending {s : Lifetime β} (unused : s.capture.thread = none) : Ending s.released := by
  unfold released goto
  split
  · exact ⟨rfl, fun _ => unused⟩
  · exact ⟨rfl, by rintro ⟨⟩⟩

section
variable [Zero β] {s t : Lifetime β} {joined : List Nat} {l : LifetimeLabel β}

/-- Without another call, a stop stays one to its end. -/
theorem step_ending (safe : Safe s joined) (moved : Moves s l t) (uncalled : l.isCall = false)
    (h : Ending s) : Ending t := by
  have at_now := safe.at_
  have place := h.place
  cases moved with
  | tick elapsed => exact ⟨place, h.unused⟩
  | callback delivery => exact ⟨place, h.unused⟩
  | thread i input th th' c at_ moved =>
    refine ⟨place, fun idle => ?_⟩
    exact (th.moves_undisturbed moved).1.thread.trans (h.unused idle)
  | start free => cases uncalled
  | stop free => cases uncalled
  | read args r free entered => cases uncalled
  | request at_ => exact ⟨rfl, by rintro ⟨⟩⟩
  | close at_ => exact ⟨rfl, by rintro ⟨⟩⟩
  | pass at_ unused => exact released_ending unused
  | wait until_ at_ used => exact ⟨rfl, by rintro ⟨⟩⟩
  | see until_ at_ down => exact ⟨rfl, by rintro ⟨⟩⟩
  | abandon until_ at_ late => exact released_ending rfl
  | join i at_ used finished => exact released_ending rfl
  | disconnect stopping control at_ down => exact ⟨rfl, by rintro ⟨⟩⟩
  | lower at_ =>
    rw [at_] at at_now
    exact ⟨rfl, fun _ => at_now.1⟩
  | reads c r at_ | refuse at_ | begin at_ | connect env control status at_ | crash env at_
  | resolve defaultSink monitor found at_ | retreat stopping control at_ | publish target at_
  | arm at_ | raise at_ | spawn at_ | overwrite at_ =>
    rw [at_] at place
    cases place

/-- A thread that has returned takes no step. -/
theorem returned_rests {i : Nat} (done : s.hasFinished i = true) (input : CaptureInput β) :
    s.step (.thread i input) = none := by
  obtain ⟨t, at_, finished⟩ := hasFinished_iff.mp done
  apply Option.eq_none_iff_forall_ne_some.mpr
  intro after taken
  cases step_moves taken with
  | thread i input t' th c at_' moved =>
    rw [at_] at at_'
    cases at_'
    exact CaptureThread.moves_unfinished moved finished

/-- Between calls, only the server and the threads act. -/
theorem idle_step (moved : Moves s l t) (uncalled : l.isCall = false) (at_ : s.caller = .idle) :
    t.caller = .idle ∧ t.threads.length = s.threads.length := by
  cases moved with
  | tick elapsed => exact ⟨at_, rfl⟩
  | callback delivery => exact ⟨at_, rfl⟩
  | thread i input th th' c _ moved => exact ⟨at_, List.length_set⟩
  | start free => cases uncalled
  | stop free => cases uncalled
  | read args r free entered => cases uncalled
  | reads c r other | refuse other | begin other | connect env control status other
  | crash env other | resolve defaultSink monitor found other | retreat stopping control other
  | publish target other | arm other | raise other | spawn other | overwrite other
  | request other | close other | pass other | wait until_ other | see until_ other
  | abandon until_ other | join i other | disconnect stopping control other | lower other =>
    rw [at_] at other
    cases other

end
end Lifetime

namespace Owner

/-- The threads joined, in order. -/
def noteJoined (s : Owner β) (l : OwnerLabel β) (_ : Owner β) (joined : List Nat) : List Nat :=
  match l with
  | .act l => s.life.noteJoined l joined
  | _ => joined

/-- Once destroyed, a handle has no thread to lose, and a freed one none that
has not been joined. -/
structure Kept (s : Owner β) (joined : List Nat) : Prop where
  safe : s.life.Safe joined
  ending : s.fate ≠ .held → s.life.Ending
  freed : s.fate = .deleted →
    s.life.caller = .idle ∧ ∀ i < s.life.threads.length, i ∈ joined

section
variable [Zero β] {s t : Owner β} {joined : List Nat} {l : OwnerLabel β}

theorem act_kept {life : Lifetime β} {l : LifetimeLabel β} (h : Kept s joined)
    (allowed : s.fate = .held ∨ l.isCall = false) (moved : s.life.Moves l life) :
    Kept { s with life } (s.life.noteJoined l joined) := by
  refine ⟨Lifetime.step_safe h.safe moved, ?_, ?_⟩
  · intro destroyed
    exact Lifetime.step_ending h.safe moved (allowed.resolve_left destroyed) (h.ending destroyed)
  · intro deleted
    obtain ⟨idle, all⟩ := h.freed deleted
    have uncalled : l.isCall = false := by
      apply allowed.resolve_left
      rw [show s.fate = .deleted from deleted]
      rintro ⟨⟩
    obtain ⟨idle', length⟩ := Lifetime.idle_step moved uncalled idle
    refine ⟨idle', ?_⟩
    rw [Lifetime.noteJoined_elsewhere l (by rw [idle]; rintro ⟨⟩)]
    dsimp only
    rw [length]
    exact all

omit [Zero β] in
theorem settle_kept (h : Kept s joined) (destroying : s.fate = .destroying)
    (free : s.life.caller.isFree = true) :
    Kept { s with fate := if s.life.capture.threadAbandoned then .leaked else .deleted } joined := by
  have ending := h.ending (by rw [destroying]; rintro ⟨⟩)
  have place := ending.place
  have idle : s.life.caller = .idle := by
    cases at_ : s.life.caller with
    | idle => rfl
    | started status =>
      rw [at_] at place
      cases place
    | _ =>
      rw [at_] at free
      cases free
  refine ⟨h.safe, fun _ => ending, fun deleted => ⟨idle, ?_⟩⟩
  by_cases left : s.life.capture.threadAbandoned = true
  · rw [show (if s.life.capture.threadAbandoned then Fate.leaked else .deleted) = .leaked from
      if_pos left] at deleted
    cases deleted
  · exact h.safe.all_joined (ending.unused idle) (Bool.eq_false_iff.mpr left)

theorem step_kept (h : Kept s joined) (taken : s.step l = some t) :
    Kept t (s.noteJoined l t joined) := by
  cases l with
  | act l =>
    simp only [step] at taken
    split at taken
    · rename_i allowed
      obtain ⟨life, moved, rfl⟩ := Option.map_eq_some_iff.mp taken
      exact act_kept h allowed (Lifetime.step_moves moved)
    · cases taken
  | destroy =>
    simp only [step] at taken
    split at taken
    · obtain ⟨life, moved, rfl⟩ := Option.map_eq_some_iff.mp taken
      have safe : life.Safe joined := Lifetime.step_safe h.safe (Lifetime.step_moves moved)
      refine ⟨safe, fun _ => ?_, by rintro ⟨⟩⟩
      simp only [Lifetime.step] at moved
      split at moved
      · cases moved
        exact ⟨rfl, by rintro ⟨⟩⟩
      · cases moved
    · cases taken
  | settle =>
    simp only [step] at taken
    split at taken
    · rename_i at_end
      cases taken
      exact settle_kept h at_end.1 at_end.2
    · cases taken

theorem watched_kept {p : Owner β × List Nat}
    (run : Steps.Watched step noteJoined Steps.Any Fresh [] p) : Kept p.1 p.2 := by
  apply Steps.Watched.invariant Kept ?_ ?_ run
  · rintro s ⟨life, fresh, rfl⟩
    exact ⟨Lifetime.fresh_safe fresh, fun destroyed => absurd rfl destroyed, by rintro ⟨⟩⟩
  · intro s l t joined _ kept _ taken
    exact step_kept kept taken

/-- A handle is freed only when each thread ever started on it has been joined,
and none of these takes another step; its connection is shut down only when no
thread can take one; and at most one thread is in the loop. -/
theorem freed_after_threads (p : Owner β × List Nat)
    (run : Steps.Watched step noteJoined Steps.Any Fresh [] p) :
    (p.1.fate = .deleted → ∀ i < p.1.life.threads.length, i ∈ p.2) ∧
    (∀ i ∈ p.2, ∀ input, p.1.life.step (.thread i input) = none) ∧
    (p.1.life.caller = .disconnecting ∨ p.1.life.caller = .retreating →
      ∀ i input, p.1.life.step (.thread i input) = none) ∧
    ∀ (i j : Nat) t u, p.1.life.threads[i]? = some t → p.1.life.threads[j]? = some u →
      t.inLoop = true → u.inLoop = true → i = j := by
  have kept := watched_kept run
  have safe := kept.safe
  refine ⟨fun deleted => (kept.freed deleted).2, ?_, ?_, ?_⟩
  · intro i joined input
    exact Lifetime.returned_rests (safe.returned i joined) input
  · intro down i input
    have all : ∀ i < p.1.life.threads.length, i ∈ p.2 := by
      have at_now := safe.at_
      obtain at_ | at_ := down
      · rw [at_] at at_now
        exact safe.all_joined at_now.1 at_now.2
      · rw [at_] at at_now
        exact safe.all_joined at_now.thread at_now.kept
    by_cases lt : i < p.1.life.threads.length
    · exact Lifetime.returned_rests (safe.returned i (all i lt)) input
    · have none := List.getElem?_eq_none (Nat.not_lt.mp lt)
      simp only [Lifetime.step, none, Option.bind_none]
  · intro i j t u at_i at_j in_i in_j
    exact safe.lone i j t u at_i at_j (CaptureThread.inLoop_going in_i)
      (CaptureThread.inLoop_going in_j)

end

/-- A handle that is started and destroyed. -/
theorem freed_after_threads_once : ∃ p : Owner UInt8 × List Nat,
    Steps.Watched step noteJoined Steps.Any Fresh [] p ∧ p.1.fate = .deleted ∧
    p.1.life.threads.length = 1 ∧ ∀ i < p.1.life.threads.length, i ∈ p.2 := by
  have ran : (Steps.exec (Steps.watch step noteJoined) ({ life := .small }, [])
      (Lifetime.startWell.map .act ++ [.destroy] ++ Lifetime.stopWell.tail.map .act ++ [.settle])).map
      (fun p => (p.1.fate, p.1.life.threads.length)) = some (.deleted, 1) := by rfl
  obtain ⟨p, ran, seen⟩ := Option.map_eq_some_iff.mp ran
  obtain ⟨deleted, one⟩ := Prod.mk.inj seen
  have run : Steps.Watched step noteJoined Steps.Any Fresh [] p :=
    Steps.Reach.exec (.start ⟨⟨_, Lifetime.small_fresh, rfl⟩, rfl⟩) (Steps.meets_any ..) ran
  exact ⟨p, run, deleted, one, (freed_after_threads p run).1 deleted⟩

end Owner
end WebAudioCapture
