import WebAudioCapture.ControlRestart
import WebAudioCapture.Lifetime

/-!
# No session on top of another

`init` assigns its main loop, its context and its thread whatever they held.
A start reaches it whenever no session runs, and two things leave the old
connection behind: an `init` that fails once it has made a main loop, which
only a stop shuts down, and a stop that abandons its thread, after which
nothing does.
-/

namespace WebAudioCapture

variable {β : Type}

namespace Lifetime

/-- A start that is not refused finds no abandoned thread and no `init` that
failed half-way and has not been shut down since. -/
def Careful (s : Lifetime β) : LifetimeLabel β → Prop
  | .run => s.caller = .starting → s.capture.running = false →
      s.capture.threadAbandoned = false ∧ s.halfOpen = false
  | _ => True

instance (s : Lifetime β) (l : LifetimeLabel β) : Decidable (Careful s l) :=
  match l with
  | .run => inferInstanceAs (Decidable (_ → _ → _))
  | .tick _ | .start | .stop | .read _ | .connect _ | .resolve .. | .disconnect _ | .thread ..
  | .callback _ => .isTrue trivial

/-- `init` is entered with nothing open, the thread of the handle is assigned
while there is none, and nothing has called `std::terminate`. -/
structure Alone (s : Lifetime β) : Prop where
  connecting : s.caller = .connecting → s.capture.control.Vacant
  spawning : s.caller = .spawning → s.capture.thread = none
  alive : s.caller ≠ .terminated

/-! ## The handle between the calls -/

/-- A capture thread still in its loop is the handle's, or abandoned. -/
def Owned (c : Capture β) (threads : List (CaptureThread β)) : Prop :=
  ∀ (i : Nat) t, threads[i]? = some t → t.isDone = false →
    c.thread = some i ∨ c.threadAbandoned = true

/-- While the handle has a thread, no thread is leaving its loop. -/
def Steady (c : Capture β) (threads : List (CaptureThread β)) : Prop :=
  c.thread.isSome = true → c.running = true ∧ c.stopRequested = false ∧
    ∀ t ∈ threads, t.pc ≠ .exiting

/-- Nothing is open. -/
structure Bare (c : Capture β) (halfOpen : Bool) : Prop where
  control : c.control.Vacant
  thread : c.thread = none
  kept : c.threadAbandoned = false
  whole : halfOpen = false

/-- A main loop is open, for a session, an abandoned one or a failed `init`. -/
structure Held (c : Capture β) (halfOpen : Bool) : Prop where
  mainloop : c.control.mainloop = true
  why : c.thread.isSome = true ∨ c.threadAbandoned = true ∨ halfOpen = true

/-- No session and no capture thread, in the middle of a start. -/
structure Down (c : Capture β) (halfOpen : Bool) (threads : List (CaptureThread β)) : Prop where
  thread : c.thread = none
  kept : c.threadAbandoned = false
  whole : halfOpen = false
  done : ∀ t ∈ threads, t.isDone = true

/-- What holds of the handle where the caller stands. -/
def OrderlyAt (c : Capture β) (halfOpen : Bool) (threads : List (CaptureThread β)) :
    CallerPc → Prop
  | .idle | .started _ | .starting | .reading | .requesting =>
    Steady c threads ∧ (Bare c halfOpen ∨ Held c halfOpen)
  | .connecting => Down c halfOpen threads ∧ c.control.Vacant
  | .resolving | .retreating | .publishing _ | .arming =>
    Down c halfOpen threads ∧ c.control.mainloop = true
  | .raising => (Down c halfOpen threads ∧ c.control.mainloop = true) ∧ c.stopRequested = false
  | .spawning =>
    (Down c halfOpen threads ∧ c.control.mainloop = true) ∧ c.stopRequested = false ∧
      c.running = true
  | .closing | .joining => Bare c halfOpen ∨ Held c halfOpen
  | .waiting _ | .joined => Held c halfOpen
  | .disconnecting => c.thread = none ∧ c.threadAbandoned = false
  | .lowering => Bare c halfOpen
  | .terminated => False

structure Orderly (s : Lifetime β) : Prop where
  owned : Owned s.capture s.threads
  at_ : OrderlyAt s.capture s.halfOpen s.threads s.caller

end Lifetime

/-! ## The connection -/

namespace Control

theorem awaitConnection_mainloop (c : Control) : c.awaitConnection.1.mainloop = c.mainloop := by
  unfold awaitConnection
  split
  · rfl
  · split
    · rfl
    · rfl

theorem connect_made {c : Control} (unused : c.thread = .none) (env : InitEnv) :
    ∃ c' status, c.connect env = some (c', status) ∧ c'.mainloop = c.mainloop := by
  have connecting := deliverAll_hold c env.connecting
  unfold connect
  dsimp only
  split
  · exact ⟨_, _, rfl, connecting.mainloop⟩
  · rw [connecting.thread, unused]
    have waiting := deliverAll_hold (c.deliverAll env.connecting).runLoop env.waiting
    refine ⟨((c.deliverAll env.connecting).runLoop.deliverAll env.waiting).awaitConnection.1, _,
      rfl, ?_⟩
    rw [awaitConnection_mainloop]
    exact waiting.mainloop.trans connecting.mainloop

/-- With nothing open, `init` never calls `std::terminate`, and leaves a main
loop unless it could not make one. -/
theorem init_vacant {c : Control} (vacant : c.Vacant) (env : InitEnv) :
    ∃ c' status, c.init env = some (c', status) ∧
      (env.mainloopNew = true ∧ c'.mainloop = true ∨
        env.mainloopNew = false ∧ status ≠ .ok ∧ c'.Vacant) := by
  have unused : (c.newMainloop env.mainloopNew).thread = .none := by
    simp only [newMainloop, vacant.thread]
    rfl
  unfold init
  dsimp only
  cases made : env.mainloopNew with
  | false =>
    rw [made] at unused
    exact ⟨_, _, rfl, .inr ⟨rfl, (by rintro ⟨⟩), rfl, vacant.ctx, unused⟩⟩
  | true =>
    rw [made] at unused
    simp only [Bool.not_true, Bool.false_eq_true, if_false]
    split
    · exact ⟨_, _, rfl, .inl ⟨trivial, rfl⟩⟩
    · obtain ⟨c', status, connected, mainloop⟩ :=
        connect_made (c := (c.newMainloop true).newContext env.contextNew) unused env
      exact ⟨c', status, connected, .inl ⟨trivial, mainloop⟩⟩

theorem shutdown_vacant {c c' : Control} {stopping : List Delivery}
    (h : c.shutdown stopping = some c') : c'.Vacant := by
  rw [shutdown_eq h]
  exact ⟨rfl, rfl, rfl⟩

end Control

namespace Lifetime

theorem not_exiting_of_done {t : CaptureThread β} (done : t.isDone = true) : t.pc ≠ .exiting := by
  intro at_
  rw [CaptureThread.isDone, at_] at done
  cases done

/-! ## Steps the caller takes no part in -/

section
variable {c c' : Capture β} {halfOpen : Bool} {threads threads' : List (CaptureThread β)}
  {pc : CallerPc}

theorem Bare.same (h : Bare c halfOpen) (same : c.Undisturbed c') : Bare c' halfOpen :=
  ⟨same.control.vacant h.control, same.thread.trans h.thread, same.threadAbandoned.trans h.kept,
    h.whole⟩

theorem Held.same (h : Held c halfOpen) (same : c.Undisturbed c') : Held c' halfOpen := by
  refine ⟨same.control.mainloop.trans h.mainloop, ?_⟩
  rw [same.thread, same.threadAbandoned]
  exact h.why

theorem OrderlyAt.map (h : OrderlyAt c halfOpen threads pc) (same : c.Undisturbed c')
    (steady : Steady c threads → Steady c' threads')
    (done : (∀ t ∈ threads, t.isDone = true) →
      (∀ t ∈ threads', t.isDone = true) ∧ c'.running = c.running) :
    OrderlyAt c' halfOpen threads' pc := by
  have either : Bare c halfOpen ∨ Held c halfOpen → Bare c' halfOpen ∨ Held c' halfOpen :=
    Or.imp (·.same same) (·.same same)
  have down : Down c halfOpen threads → Down c' halfOpen threads' := fun h =>
    ⟨same.thread.trans h.thread, same.threadAbandoned.trans h.kept, h.whole, (done h.done).1⟩
  have live : Down c halfOpen threads ∧ c.control.mainloop = true →
      Down c' halfOpen threads' ∧ c'.control.mainloop = true :=
    And.imp down same.control.mainloop.trans
  cases pc with
  | idle | started _ | starting | reading | requesting => exact And.imp steady either h
  | connecting => exact And.imp down same.control.vacant h
  | resolving | retreating | publishing _ | arming => exact live h
  | raising => exact And.imp live same.stopRequested.trans h
  | spawning =>
    exact ⟨live h.1, same.stopRequested.trans h.2.1, (done h.1.1.done).2.trans h.2.2⟩
  | closing | joining => exact either h
  | waiting _ | joined => exact h.same same
  | disconnecting => exact And.imp same.thread.trans same.threadAbandoned.trans h
  | lowering => exact h.same same
  | terminated => exact h

theorem OrderlyAt.free (h : OrderlyAt c halfOpen threads pc) (free : pc.isFree = true) :
    Steady c threads ∧ (Bare c halfOpen ∨ Held c halfOpen) := by
  cases pc with
  | idle | started _ => exact h
  | _ => cases free

theorem Owned.same (h : Owned c threads) (same : c.Undisturbed c') : Owned c' threads := by
  intro i t at_ going
  rw [same.thread, same.threadAbandoned]
  exact h i t at_ going

theorem Steady.same (h : Steady c threads) (same : c.Undisturbed c')
    (running : c'.running = c.running) : Steady c' threads := by
  intro used
  obtain ⟨up, going, looping⟩ := h (same.thread ▸ used)
  exact ⟨running.trans up, same.stopRequested.trans going, looping⟩

theorem thread_steady {i : Nat} {t t' : CaptureThread β} {now : Int} (h : Steady c threads)
    (at_ : threads[i]? = some t) (moved : t.Moves c now c' t') : Steady c' (threads.set i t') := by
  obtain ⟨same, left⟩ := t.moves_undisturbed moved
  intro used
  obtain ⟨up, going, looping⟩ := h (same.thread ▸ used)
  have stays := looping t (List.mem_of_getElem? at_)
  refine ⟨(left.resolve_right stays).trans up, same.stopRequested.trans going, ?_⟩
  intro u at_
  obtain old | rfl := List.mem_or_eq_of_mem_set at_
  · exact looping u old
  · intro leaves
    have asked := CaptureThread.moves_exiting moved leaves
    rw [going] at asked
    cases asked

theorem thread_owned {i : Nat} {t t' : CaptureThread β} {now : Int} (h : Owned c threads)
    (at_ : threads[i]? = some t) (moved : t.Moves c now c' t') : Owned c' (threads.set i t') := by
  have owned := h.same (t.moves_undisturbed moved).1
  intro j u at_' going
  by_cases this : i = j
  · subst this
    have lt := (List.getElem?_eq_some_iff.mp at_).1
    rw [List.getElem?_set_self lt] at at_'
    cases at_'
    apply owned i t at_ (Bool.eq_false_iff.mpr ?_)
    intro done
    rw [(CaptureThread.moves_done moved done).1] at going
    cases going
  · rw [List.getElem?_set_ne this] at at_'
    exact owned j u at_' going

theorem thread_done {i : Nat} {t t' : CaptureThread β} {now : Int}
    (at_ : threads[i]? = some t) (moved : t.Moves c now c' t')
    (done : ∀ t ∈ threads, t.isDone = true) :
    (∀ t ∈ threads.set i t', t.isDone = true) ∧ c'.running = c.running := by
  obtain ⟨after, same⟩ := CaptureThread.moves_done moved (done t (List.mem_of_getElem? at_))
  refine ⟨fun u at_ => ?_, by rw [same]⟩
  obtain old | rfl := List.mem_or_eq_of_mem_set at_
  · exact done u old
  · exact after

end

/-! ## Steps of the caller -/

section
variable {c : Capture β} {halfOpen : Bool} {threads : List (CaptureThread β)}

theorem steady_unused (unused : c.thread = none) : Steady c threads := by
  intro used
  rw [unused] at used
  cases used

/-- With no session and no abandoned thread, every capture thread is done. -/
theorem Owned.done (h : Owned c threads) (unused : c.thread = none)
    (kept : c.threadAbandoned = false) : ∀ t ∈ threads, t.isDone = true := by
  intro t at_
  obtain ⟨i, lt, rfl⟩ := List.mem_iff_getElem.mp at_
  apply Bool.of_not_eq_false
  intro going
  obtain mine | left := h i _ (List.getElem?_eq_getElem lt) going
  · rw [unused] at mine; cases mine
  · rw [kept] at left; cases left

/-- What a start that is let through finds. -/
theorem begin_down (owned : Owned c threads) (steady : Steady c threads)
    (either : Bare c halfOpen ∨ Held c halfOpen) (down : c.running = false)
    (kept : c.threadAbandoned = false) (whole : halfOpen = false) :
    Down c halfOpen threads ∧ c.control.Vacant := by
  have unused : c.thread = none := by
    apply Option.not_isSome_iff_eq_none.mp
    intro used
    rw [(steady used).1] at down
    cases down
  obtain bare | held := either
  · exact ⟨⟨unused, kept, whole, owned.done unused kept⟩, bare.control⟩
  · obtain used | left | half := held.why
    · rw [unused] at used; cases used
    · rw [kept] at left; cases left
    · rw [whole] at half; cases half

end

section
variable {s : Lifetime β}

theorem released_orderly (owned : Owned s.capture s.threads) (unused : s.capture.thread = none)
    (either : s.capture.threadAbandoned = true →
      Bare s.capture s.halfOpen ∨ Held s.capture s.halfOpen) : Orderly s.released := by
  refine ⟨owned, ?_⟩
  unfold released goto
  dsimp only
  split
  · rename_i left
    exact ⟨steady_unused unused, either left⟩
  · rename_i kept
    exact ⟨unused, Bool.eq_false_iff.mpr kept⟩

/-- The thread joined was the only one that could still be in its loop. -/
theorem join_orderly {i : Nat} (owned : Owned s.capture s.threads)
    (h : Held s.capture s.halfOpen) (used : s.capture.thread = some i)
    (finished : s.hasFinished i = true) : Orderly s.detach.released := by
  refine released_orderly (fun j t at_ going => ?_) rfl
    fun left => .inr ⟨h.mainloop, .inr (.inl left)⟩
  obtain mine | left := owned j t at_ going
  · rw [used] at mine
    cases mine
    replace at_ : s.threads[i]? = some t := at_
    simp only [hasFinished, at_, Option.any_some, beq_iff_eq] at finished
    rw [CaptureThread.isDone, finished] at going
    cases going
  · exact .inr left

theorem connected_orderly {env : InitEnv} {control : Control} {status : Status}
    (owned : Owned s.capture s.threads)
    (h : Down s.capture s.halfOpen s.threads ∧ s.capture.control.Vacant)
    (made : s.capture.control.init env = some (control, status)) :
    Orderly (s.connected env control status) := by
  obtain ⟨down, vacant⟩ := h
  obtain ⟨c', status', made', left⟩ := Control.init_vacant vacant env
  rw [made] at made'
  cases made'
  unfold connected
  split
  · refine ⟨owned, ⟨down.thread, down.kept, down.whole, down.done⟩, ?_⟩
    obtain ⟨_, mainloop⟩ | ⟨_, failed, _⟩ := left
    · exact mainloop
    · exact absurd ‹_› failed
  · refine ⟨owned, steady_unused down.thread, ?_⟩
    obtain ⟨new, mainloop⟩ | ⟨none, _, vacant⟩ := left
    · exact .inr ⟨mainloop, .inr (.inr (by rw [new, Bool.or_true]))⟩
    · exact .inl ⟨⟨vacant.mainloop, vacant.ctx, vacant.thread⟩, down.thread, down.kept,
        by rw [none, down.whole]; rfl⟩

theorem resolved_orderly {found : Control × Option Target} (owned : Owned s.capture s.threads)
    (h : Down s.capture s.halfOpen s.threads ∧ s.capture.control.mainloop = true)
    (same : s.capture.control.SameHold found.1) : Orderly (s.resolved found) := by
  obtain ⟨down, mainloop⟩ := h
  obtain ⟨control, _ | target⟩ := found
  · exact ⟨owned, ⟨down.thread, down.kept, down.whole, down.done⟩, same.mainloop.trans mainloop⟩
  · exact ⟨owned, ⟨down.thread, down.kept, down.whole, down.done⟩, same.mainloop.trans mainloop⟩

theorem Orderly.alone (h : Orderly s) : Alone s := by
  have at_ := h.at_
  constructor
  · intro connecting
    rw [connecting] at at_
    exact at_.2
  · intro spawning
    rw [spawning] at at_
    exact at_.1.1.thread
  · intro terminated
    rw [terminated] at at_
    exact at_

/-- A start that is let through finds nothing open exactly when it is careful. -/
theorem Orderly.vacant_iff (h : Orderly s) (at_ : s.caller = .starting)
    (down : s.capture.running = false) :
    s.capture.control.Vacant ↔ s.capture.threadAbandoned = false ∧ s.halfOpen = false := by
  obtain ⟨owned, now⟩ := h
  rw [at_] at now
  obtain ⟨steady, either⟩ := now
  constructor
  · intro vacant
    obtain bare | held := either
    · exact ⟨bare.kept, bare.whole⟩
    · have mainloop := held.mainloop
      rw [vacant.mainloop] at mainloop
      cases mainloop
  · rintro ⟨kept, whole⟩
    exact (begin_down owned steady either down kept whole).2

end

section
variable [Zero β] {s t : Lifetime β}

theorem spawn_orderly (h : Down s.capture s.halfOpen s.threads)
    (mainloop : s.capture.control.mainloop = true) (going : s.capture.stopRequested = false)
    (running : s.capture.running = true) : Orderly s.spawn := by
  refine ⟨fun i t at_ alive => ?_, fun _ => ⟨running, going, fun t at_ => ?_⟩,
    .inr ⟨mainloop, .inl rfl⟩⟩
  · simp only [spawn] at at_ ⊢
    by_cases old : i < s.threads.length
    · rw [List.getElem?_append_left old] at at_
      rw [h.done t (List.mem_of_getElem? at_)] at alive
      cases alive
    · have lt := (List.getElem?_eq_some_iff.mp at_).1
      rw [List.length_append, List.length_singleton] at lt
      exact .inl (congrArg some (by omega))
  · obtain old | new := List.mem_append.mp at_
    · exact not_exiting_of_done (h.done t old)
    · rw [List.mem_singleton.mp new]
      rintro ⟨⟩

theorem step_orderly {l : LifetimeLabel β} (careful : Careful s l) (moved : Moves s l t)
    (h : Orderly s) : Orderly t := by
  obtain ⟨owned, h⟩ := h
  cases moved with
  | tick elapsed => exact ⟨owned, h⟩
  | callback delivery =>
    have same : s.capture.Undisturbed
        { s.capture with control := s.capture.control.deliver delivery } :=
      ⟨Control.deliver_hold _ delivery, rfl, rfl, rfl, rfl⟩
    exact ⟨owned.same same, h.map same (·.same same rfl) fun done => ⟨done, rfl⟩⟩
  | thread i input th th' c at_ moved =>
    exact ⟨thread_owned owned at_ moved, h.map (th.moves_undisturbed moved).1
      (thread_steady · at_ moved) (thread_done at_ moved)⟩
  | start free => exact ⟨owned, h.free free⟩
  | stop free => exact ⟨owned, h.free free⟩
  | read args r free entered => exact ⟨owned, h.free free⟩
  | reads c r at_ taken =>
    obtain ⟨same, running⟩ := Reader.moves_undisturbed (Reader.step_moves taken)
    have after := h.map same (·.same same running) fun done => ⟨done, running⟩
    rw [at_] at after
    refine ⟨owned.same same, ?_⟩
    dsimp only
    split
    · exact after
    · exact after
  | refuse at_ running =>
    rw [at_] at h
    exact ⟨owned, h⟩
  | begin at_ down =>
    rw [at_] at h
    obtain ⟨kept, whole⟩ := careful at_ down
    exact ⟨owned, begin_down owned h.1 h.2 down kept whole⟩
  | connect env control status at_ made =>
    rw [at_] at h
    exact connected_orderly owned h made
  | crash env at_ clash =>
    rw [at_] at h
    obtain ⟨c', status, made, _⟩ := Control.init_vacant h.2 env
    rw [made] at clash
    cases clash
  | resolve defaultSink monitor found at_ answer =>
    rw [at_] at h
    exact resolved_orderly owned h (answer ▸ Control.resolveTarget_hold ..)
  | retreat stopping control at_ down =>
    rw [at_] at h
    obtain ⟨⟨unused, kept, _, _⟩, _⟩ := h
    exact ⟨owned, steady_unused unused, .inl ⟨Control.shutdown_vacant down, unused, kept, rfl⟩⟩
  | publish target at_ =>
    rw [at_] at h
    obtain ⟨⟨unused, kept, whole, done⟩, mainloop⟩ := h
    exact ⟨owned, ⟨unused, kept, whole, done⟩, mainloop⟩
  | arm at_ =>
    rw [at_] at h
    obtain ⟨⟨unused, kept, whole, done⟩, mainloop⟩ := h
    exact ⟨owned, ⟨⟨unused, kept, whole, done⟩, mainloop⟩, rfl⟩
  | raise at_ =>
    rw [at_] at h
    obtain ⟨⟨⟨unused, kept, whole, done⟩, mainloop⟩, going⟩ := h
    exact ⟨owned, ⟨⟨unused, kept, whole, done⟩, mainloop⟩, going, rfl⟩
  | spawn at_ unused =>
    rw [at_] at h
    exact spawn_orderly h.1.1 h.1.2 h.2.1 h.2.2
  | overwrite at_ used =>
    rw [at_] at h
    rw [h.1.1.thread] at used
    cases used
  | request at_ =>
    rw [at_] at h
    exact ⟨owned, h.2.imp (fun b => ⟨b.control, b.thread, b.kept, b.whole⟩)
      fun o => ⟨o.mainloop, o.why⟩⟩
  | close at_ =>
    rw [at_] at h
    exact ⟨owned, h.imp (fun b => ⟨b.control, b.thread, b.kept, b.whole⟩)
      fun o => ⟨o.mainloop, o.why⟩⟩
  | pass at_ unused =>
    rw [at_] at h
    exact released_orderly owned unused fun _ => h
  | wait until_ at_ used =>
    rw [at_] at h
    refine ⟨owned, h.resolve_left fun bare => ?_⟩
    rw [bare.thread] at used
    cases used
  | see until_ at_ down =>
    rw [at_] at h
    exact ⟨owned, h⟩
  | abandon until_ at_ late =>
    rw [at_] at h
    exact released_orderly (fun _ _ _ _ => .inr rfl) rfl
      fun left => .inr ⟨h.mainloop, .inr (.inl left)⟩
  | join i at_ used finished =>
    rw [at_] at h
    exact join_orderly owned h used finished
  | disconnect stopping control at_ down =>
    rw [at_] at h
    exact ⟨owned, Control.shutdown_vacant down, h.1, h.2, rfl⟩
  | lower at_ =>
    rw [at_] at h
    exact ⟨owned, steady_unused h.thread, .inl ⟨h.control, h.thread, h.kept, h.whole⟩⟩

theorem reach_orderly (run : Steps.Reach step Careful Fresh s) : Orderly s := by
  apply Steps.Reach.invariant Orderly ?_ ?_ run
  · rintro s ⟨c, clock, created, rfl⟩
    obtain ⟨storage, shape, _⟩ := created.shape
    have control : c.control = {} := congrArg Capture.control shape
    have owned : Owned c [] := by rintro i t ⟨⟩
    refine ⟨owned, steady_unused (congrArg Capture.thread shape), .inl ?_⟩
    refine ⟨?_, congrArg Capture.thread shape, congrArg Capture.threadAbandoned shape, rfl⟩
    rw [control]
    exact ⟨rfl, rfl, rfl⟩
  · intro s l t _ orderly careful taken
    exact step_orderly careful (step_moves taken) orderly

end

/-- No session is opened on top of another in a run whose starts find no
abandoned thread and no connection left half open, and at each start that
condition is exact. -/
theorem opens_alone [Zero β] (s : Lifetime β) (run : Steps.Reach step Careful Fresh s) :
    Alone s ∧ (s.caller = .starting → s.capture.running = false →
      (s.capture.control.Vacant ↔ s.capture.threadAbandoned = false ∧ s.halfOpen = false)) := by
  have orderly := reach_orderly run
  exact ⟨orderly.alone, orderly.vacant_iff⟩

/-- A stop that joins its capture thread. -/
def stopWell : List (LifetimeLabel UInt8) :=
  [.stop, .run, .run, .run, .thread 0 .run, .thread 0 .run, .thread 0 .run, .run, .run,
    .disconnect [], .run]

/-- A handle started, stopped and started again. -/
theorem opens_alone_again : ∃ s : Lifetime UInt8, Steps.Reach step Careful Fresh s ∧
    s.caller = .connecting ∧ s.stops = 1 ∧ Alone s := by
  have ran : (Steps.exec step small (startWell ++ stopWell ++ enterStart)).map
      (fun s => (s.caller, s.stops)) = some (.connecting, 1) := by rfl
  obtain ⟨s, ran, seen⟩ := Option.map_eq_some_iff.mp ran
  obtain ⟨at_, stops⟩ := Prod.mk.inj seen
  have run : Steps.Reach step Careful Fresh s :=
    Steps.Reach.exec (.start small_fresh) (by decide) ran
  exact ⟨s, run, at_, stops, (opens_alone s run).1⟩

/-- Two starts, the first of which times out connecting: the second assigns a
thread over the one still running the first main loop. -/
theorem start_twice_terminates : ∃ s : Lifetime UInt8, Steps.Reach step Steps.Any Fresh s ∧
    s.caller = .terminated ∧ ¬ Alone s := by
  have ran : (Steps.exec step small
      (enterStart ++ [.connect {}] ++ enterStart ++ [.connect {}])).map Lifetime.caller =
      some .terminated := by rfl
  obtain ⟨s, ran, terminated⟩ := Option.map_eq_some_iff.mp ran
  exact ⟨s, Steps.Reach.exec (.start small_fresh) (Steps.meets_any ..) ran, terminated,
    fun alone => alone.alive terminated⟩

end Lifetime
end WebAudioCapture
