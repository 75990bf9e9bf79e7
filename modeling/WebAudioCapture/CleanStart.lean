import WebAudioCapture.Lifetime

/-!
# What a start finds

`weba_capture_stop` closes the queue and nothing opens it again, so a start
leaves the handle as a first one does exactly when no stop came before it, not
even one of a handle that had never started.
-/

namespace WebAudioCapture

variable {β : Type}

namespace Capture

/-- The handle without its connection, its thread, the names it publishes and
its error text. -/
def atRest (c : Capture β) : Capture β :=
  { c with control := {}, thread := none, running := false, formatInfo := {}, error := "" }

/-- The handle is as a new one that has just been started. -/
structure StartsClean [Zero β] (c : Capture β) : Prop where
  likeNew : Created c.atRest
  running : c.running = true
  accepts : c.queue.accepts = true
  empty : c.queue.count = 0
  undropped : c.queue.dropped = 0
  flags : c.pendingFlags = 0
  pacing : c.deadlineValid = false
  kept : c.threadAbandoned = false

theorem Created.startsClean [Zero β] {c : Capture β} (h : Created c.atRest)
    (running : c.running = true) : c.StartsClean := by
  obtain ⟨storage, shape, positive, _⟩ := h.shape
  have queue := congrArg Capture.queue shape
  have flags := congrArg Capture.pendingFlags shape
  have pacing := congrArg Capture.deadlineValid shape
  have kept := congrArg Capture.threadAbandoned shape
  replace queue : c.queue = ⟨storage, c.config.frameBytes, max c.config.queueFrames.toNat 1, 0, 0, 0,
    false⟩ := queue
  have some : c.config.frameBytes ≠ 0 := Nat.ne_of_gt positive
  refine ⟨h, running, ?_, ?_, ?_, flags, pacing, kept⟩
  · rw [queue]
    simpa [FrameQueue.accepts] using some
  · rw [queue]
  · rw [queue]

theorem Created.atRest_eq [Zero β] {c : Capture β} (h : Created c) : c.atRest = c := by
  obtain ⟨storage, shape, _⟩ := h.shape
  rw [shape]
  rfl

end Capture

/-- A call on a handle that is not running changes nothing. -/
theorem Reader.enter_refused [Zero β] {c c' : Capture β} {r r' : Reader β} {now : Int}
    (at_ : r.pc = .entered) (down : c.running = false) (taken : r.step c now = some (c', r')) :
    c' = c ∧ r'.isIdle = true := by
  simp only [step, at_, Option.some.injEq, Prod.mk.injEq] at taken
  obtain ⟨rfl, rfl⟩ := taken
  refine ⟨rfl, ?_⟩
  unfold enter
  rw [down]
  split
  · rfl
  · rfl

namespace Lifetime

/-- Nothing has been started yet. -/
structure Unstarted [Zero β] (c : Capture β) (threads : List (CaptureThread β)) : Prop where
  created : Capture.Created c.atRest
  thread : c.thread = none
  threads : threads = []

/-- A session that nothing has asked to stop. -/
structure Recording (c : Capture β) (threads : List (CaptureThread β)) : Prop where
  running : c.running = true
  going : c.stopRequested = false
  looping : ∀ t ∈ threads, t.pc ≠ .exiting

/-- What holds where a caller that has never called stop stands. -/
def UnstoppedAt [Zero β] (c : Capture β) (threads : List (CaptureThread β)) (r : Reader β) :
    CallerPc → Prop
  | .idle | .started _ | .starting => Unstarted c threads ∧ c.running = false ∨ Recording c threads
  | .reading =>
    (Unstarted c threads ∧ c.running = false) ∧ r.pc = .entered ∨ Recording c threads
  | .connecting | .resolving | .retreating | .publishing _ | .arming | .raising =>
    Unstarted c threads ∧ c.running = false
  | .spawning => Unstarted c threads ∧ c.running = true
  | .terminated => True
  | _ => False

def Unstopped [Zero β] (s : Lifetime β) : Prop :=
  UnstoppedAt s.capture s.threads s.reader s.caller

theorem thread_recording {c c' : Capture β} {threads : List (CaptureThread β)} {i : Nat}
    {th th' : CaptureThread β} {now : Int} (h : Recording c threads)
    (at_ : threads[i]? = some th) (moved : th.Moves c now c' th') :
    Recording c' (threads.set i th') := by
  obtain ⟨same, left⟩ := th.moves_undisturbed moved
  have looping := h.looping th (List.mem_of_getElem? at_)
  refine ⟨?_, same.stopRequested.trans h.going, ?_⟩
  · exact (left.resolve_right looping).trans h.running
  · intro u at_
    obtain old | rfl := List.mem_or_eq_of_mem_set at_
    · exact h.looping u old
    · intro leaves
      have asked := CaptureThread.moves_exiting moved leaves
      rw [h.going] at asked
      cases asked

section
variable [Zero β] {s t : Lifetime β} {c c' : Capture β}
  {threads threads' : List (CaptureThread β)} {r : Reader β} {pc : CallerPc}

/-- Steps the caller takes no part in leave it where it was. -/
theorem UnstoppedAt.map (h : UnstoppedAt c threads r pc)
    (new : Unstarted c threads → Unstarted c' threads' ∧ c'.running = c.running)
    (recording : Recording c threads → Recording c' threads') :
    UnstoppedAt c' threads' r pc := by
  have down : Unstarted c threads ∧ c.running = false → Unstarted c' threads' ∧ c'.running = false :=
    fun ⟨new', down⟩ => ⟨(new new').1, (new new').2.trans down⟩
  have up : Unstarted c threads ∧ c.running = true → Unstarted c' threads' ∧ c'.running = true :=
    fun ⟨new', up⟩ => ⟨(new new').1, (new new').2.trans up⟩
  cases pc with
  | idle => exact Or.imp down recording h
  | started status => exact Or.imp down recording h
  | starting => exact Or.imp down recording h
  | reading => exact Or.imp (And.imp_left down) recording h
  | connecting => exact down h
  | resolving => exact down h
  | retreating => exact down h
  | publishing target => exact down h
  | arming => exact down h
  | raising => exact down h
  | spawning => exact up h
  | terminated => trivial
  | _ => exact h

theorem UnstoppedAt.free (h : UnstoppedAt c threads r pc) (free : pc.isFree = true) :
    Unstarted c threads ∧ c.running = false ∨ Recording c threads := by
  cases pc with
  | idle => exact h
  | started status => exact h
  | _ => cases free

theorem Unstarted.unasked (h : Unstarted c threads) : c.stopRequested = false := by
  obtain ⟨storage, shape, _⟩ := h.created.shape
  exact congrArg Capture.stopRequested shape

/-- The steps of a start, from an unstarted handle on. -/
theorem Unstarted.control (h : Unstarted c threads) (control : Control) :
    Unstarted { c with control } threads :=
  ⟨h.created, h.thread, h.threads⟩

theorem Unstarted.setError (h : Unstarted c threads) (message : String) :
    Unstarted (c.setError message) threads :=
  ⟨h.created, h.thread, h.threads⟩

theorem step_stops {l : LifetimeLabel β} (moved : Moves s l t) (none : t.stops = 0) :
    s.stops = 0 := by
  cases moved with
  | stop free => exact absurd none (Nat.succ_ne_zero _)
  | connect env control status at_ made =>
    unfold connected at none
    split at none
    · exact none
    · exact none
  | resolve defaultSink monitor found at_ answer =>
    obtain ⟨control, _ | target⟩ := found
    · exact none
    · exact none
  | _ => exact none

theorem step_unstopped {l : LifetimeLabel β} (moved : Moves s l t) (none : t.stops = 0)
    (h : Unstopped s) : Unstopped t := by
  unfold Unstopped at h
  cases moved with
  | tick elapsed => exact h
  | callback delivery =>
    refine h.map (fun new => ⟨new.control _, rfl⟩) (fun recording => ?_)
    exact ⟨recording.running, recording.going, recording.looping⟩
  | thread i input th th' c at_ moved =>
    refine h.map (fun new => ?_) (fun recording => thread_recording recording at_ moved)
    rw [new.threads] at at_
    cases at_
  | start free => exact h.free free
  | stop free => exact absurd none (Nat.succ_ne_zero _)
  | read args r free entered => exact (h.free free).imp_left fun new => ⟨new, entered⟩
  | reads c r at_ taken =>
    rw [at_] at h
    obtain ⟨new, entered⟩ | recording := h
    · obtain ⟨rfl, idle⟩ := Reader.enter_refused entered new.2 taken
      simp only [Unstopped, idle, if_true]
      exact .inl new
    · obtain ⟨same, running⟩ := Reader.moves_undisturbed (Reader.step_moves taken)
      have recording : Recording c s.threads :=
        ⟨running.trans recording.running, same.stopRequested.trans recording.going,
          recording.looping⟩
      unfold Unstopped
      dsimp only
      split
      · exact .inr recording
      · exact .inr recording
  | refuse at_ running =>
    rw [at_] at h
    exact h
  | begin at_ down =>
    rw [at_] at h
    obtain new | recording := h
    · exact new
    · rw [recording.running] at down
      cases down
  | connect env control status at_ made =>
    rw [at_] at h
    unfold connected
    split
    · exact ⟨h.1.control control, h.2⟩
    · exact .inl ⟨(h.1.control control).setError _, h.2⟩
  | crash env at_ clash => trivial
  | resolve defaultSink monitor found at_ answer =>
    rw [at_] at h
    obtain ⟨control, _ | target⟩ := found
    · exact ⟨(h.1.control control).setError _, h.2⟩
    · exact ⟨h.1.control control, h.2⟩
  | retreat stopping control at_ down =>
    rw [at_] at h
    exact .inl ⟨h.1.control control, h.2⟩
  | publish target at_ =>
    rw [at_] at h
    exact ⟨⟨h.1.created, h.1.thread, h.1.threads⟩, h.2⟩
  | arm at_ =>
    rw [at_] at h
    rw [← h.1.unasked]
    exact h
  | raise at_ =>
    rw [at_] at h
    exact ⟨⟨h.1.created, h.1.thread, h.1.threads⟩, rfl⟩
  | spawn at_ unused =>
    rw [at_] at h
    refine .inr ⟨h.2, h.1.unasked, fun th at_ => ?_⟩
    simp only [spawn, h.1.threads, List.nil_append, List.mem_singleton] at at_
    rw [at_]
    rintro ⟨⟩
  | overwrite at_ used => trivial
  | request at_ | close at_ | pass at_ | wait until_ at_ | see until_ at_ | abandon until_ at_
  | join i at_ | disconnect stopping control at_ | lower at_ =>
    rw [at_] at h
    exact h.elim

end

/-! ## After a stop -/

/-- Once a stop has got past the queue, the queue stays closed. -/
def Shut (s : Lifetime β) : Prop :=
  0 < s.stops → s.capture.queue.closed = true ∨ s.caller = .requesting ∨ s.caller = .closing

section
variable {s t : Lifetime β}

theorem Shut.elsewhere (h : Shut s) (on : s.caller ≠ .requesting ∧ s.caller ≠ .closing)
    (stops : t.stops = s.stops) (closed : t.capture.queue.closed = s.capture.queue.closed) :
    Shut t := by
  intro stopped
  obtain shut | at_ | at_ := h (stops ▸ stopped)
  · exact .inl (closed.trans shut)
  · exact absurd at_ on.1
  · exact absurd at_ on.2

theorem Shut.aside (h : Shut s) (caller : t.caller = s.caller) (stops : t.stops = s.stops)
    (closed : t.capture.queue.closed = s.capture.queue.closed) : Shut t := by
  intro stopped
  rw [caller, closed]
  exact h (stops ▸ stopped)

theorem free_elsewhere {pc : CallerPc} (free : pc.isFree = true) :
    pc ≠ .requesting ∧ pc ≠ .closing := by
  cases pc with
  | idle => exact ⟨(by rintro ⟨⟩), (by rintro ⟨⟩)⟩
  | started status => exact ⟨(by rintro ⟨⟩), (by rintro ⟨⟩)⟩
  | _ => cases free

end

section
variable [Zero β] {s t : Lifetime β}

theorem step_shut {l : LifetimeLabel β} (moved : Moves s l t) (h : Shut s) : Shut t := by
  cases moved with
  | tick elapsed => exact h
  | callback delivery => exact h
  | thread i input th th' c at_ moved =>
    exact h.aside rfl rfl (th.moves_undisturbed moved).1.closed
  | start free => exact h.elsewhere (free_elsewhere free) rfl rfl
  | stop free => exact fun _ => .inr (.inl rfl)
  | read args r free entered => exact h.elsewhere (free_elsewhere free) rfl rfl
  | reads c r at_ taken =>
    have same := (Reader.moves_undisturbed (Reader.step_moves taken)).1
    exact h.elsewhere (by rw [at_]; exact ⟨(by rintro ⟨⟩), (by rintro ⟨⟩)⟩) rfl same.closed
  | connect env control status at_ made =>
    unfold connected
    split
    · exact h.elsewhere (by rw [at_]; exact ⟨(by rintro ⟨⟩), (by rintro ⟨⟩)⟩) rfl rfl
    · exact h.elsewhere (by rw [at_]; exact ⟨(by rintro ⟨⟩), (by rintro ⟨⟩)⟩) rfl rfl
  | resolve defaultSink monitor found at_ answer =>
    obtain ⟨control, _ | target⟩ := found
    · exact h.elsewhere (by rw [at_]; exact ⟨(by rintro ⟨⟩), (by rintro ⟨⟩)⟩) rfl rfl
    · exact h.elsewhere (by rw [at_]; exact ⟨(by rintro ⟨⟩), (by rintro ⟨⟩)⟩) rfl rfl
  | request at_ => exact fun _ => .inr (.inr rfl)
  | close at_ => exact fun _ => .inl rfl
  | refuse at_ | begin at_ | crash env at_ | retreat stopping control at_ | publish target at_
  | arm at_ | raise at_ | spawn at_ | overwrite at_ | pass at_ | wait until_ at_ | see until_ at_
  | abandon until_ at_ | join i at_ | disconnect stopping control at_ | lower at_ =>
    exact h.elsewhere (by rw [at_]; exact ⟨(by rintro ⟨⟩), (by rintro ⟨⟩)⟩) rfl rfl

/-- Every start that returned so far is judged by the stops before it. -/
def Judged (s : Lifetime β) : Prop :=
  ∀ e ∈ s.launches, e.capture.StartsClean ↔ e.stops = 0

/-- A new handle has not been started. -/
theorem unstarted_of_created {c : Capture β} (h : Capture.Created c) :
    Unstarted c [] ∧ c.running = false := by
  have rest : Capture.Created c.atRest := by
    rw [h.atRest_eq]
    exact h
  obtain ⟨storage, shape, _⟩ := h.shape
  exact ⟨⟨rest, congrArg Capture.thread shape, rfl⟩, congrArg Capture.running shape⟩

/-- The verdict on a start, when its thread enters the loop. -/
theorem spawn_clean (at_ : s.caller = .spawning) (unstopped : s.stops = 0 → Unstopped s)
    (shut : Shut s) (i : Nat) :
    ({ s.capture with thread := some i } : Capture β).StartsClean ↔ s.stops = 0 := by
  constructor
  · intro clean
    apply Nat.eq_zero_of_not_pos
    intro stopped
    have accepts : s.capture.queue.accepts = true := clean.accepts
    obtain closed | elsewhere | elsewhere := shut stopped
    · rw [FrameQueue.accepts, closed] at accepts
      cases accepts
    · rw [at_] at elsewhere; cases elsewhere
    · rw [at_] at elsewhere; cases elsewhere
  · intro none
    have now := unstopped none
    rw [Unstopped, at_] at now
    exact Capture.Created.startsClean now.1.created now.2

theorem step_judged {l : LifetimeLabel β} (moved : Moves s l t)
    (unstopped : s.stops = 0 → Unstopped s) (shut : Shut s) (h : Judged s) : Judged t := by
  cases moved with
  | connect env control status at_ made =>
    unfold connected
    split
    · exact h
    · exact h
  | resolve defaultSink monitor found at_ answer =>
    obtain ⟨control, _ | target⟩ := found
    · exact h
    · exact h
  | spawn at_ unused =>
    intro e launched
    obtain old | new := List.mem_append.mp launched
    · exact h e old
    · rw [List.mem_singleton.mp new]
      exact spawn_clean at_ unstopped shut s.threads.length
  | _ => exact h

/-- A start that returns `WEBA_OK` leaves the handle as a new one just started
exactly when no stop has been called before it. -/
theorem starts_clean_iff_never_stopped (s : Lifetime β) (run : Steps.Reach step Steps.Any Fresh s) :
    ∀ e ∈ s.launches, e.capture.StartsClean ↔ e.stops = 0 := by
  have kept : Judged s ∧ (s.stops = 0 → Unstopped s) ∧ Shut s := by
    apply Steps.Reach.invariant (fun s => Judged s ∧ (s.stops = 0 → Unstopped s) ∧ Shut s) ?_ ?_ run
    · rintro s ⟨c, clock, created, rfl⟩
      refine ⟨fun e launched => (List.not_mem_nil launched).elim, fun _ => .inl ?_,
        fun stopped => absurd stopped (Nat.lt_irrefl 0)⟩
      exact unstarted_of_created created
    · rintro s l t _ ⟨judged, unstopped, shut⟩ _ taken
      have moved := step_moves taken
      refine ⟨step_judged moved unstopped shut judged, fun none => ?_, step_shut moved shut⟩
      exact step_unstopped moved none (unstopped (step_stops moved none))
  exact kept.1

end

/-- The first start of a handle, after one that could not connect. -/
theorem first_start_clean : ∃ s : Lifetime UInt8, Steps.Reach step Steps.Any Fresh s ∧
    ∃ e ∈ s.launches, e.capture.StartsClean := by
  have ran : (Steps.exec step small (enterStart ++ [.connect { mainloopNew := false }] ++
      startWell)).map (fun s => s.launches.map Launch.stops) = some [0] := by rfl
  obtain ⟨s, ran, seen⟩ := Option.map_eq_some_iff.mp ran
  have run : Steps.Reach step Steps.Any Fresh s :=
    Steps.Reach.exec (.start small_fresh) (Steps.meets_any ..) ran
  obtain ⟨e, launched, stops⟩ := List.map_eq_singleton_iff.mp seen
  have at_ : e ∈ s.launches := by rw [launched]; exact List.mem_singleton_self e
  exact ⟨s, run, e, at_, (starts_clean_iff_never_stopped s run e at_).mpr stops⟩

/-- A stop of a handle that never started, then a start: it returns `WEBA_OK`
with the queue closed. -/
theorem start_after_stop_closed : ∃ s : Lifetime UInt8, Steps.Reach step Steps.Any Fresh s ∧
    s.caller = .started .ok ∧ ∃ e ∈ s.launches, ¬ e.capture.StartsClean := by
  have ran : (Steps.exec step small (stopUnstarted ++ startWell)).map
      (fun s => (s.caller, s.launches.map fun e => e.capture.queue.closed)) =
      some (.started .ok, [true]) := by rfl
  obtain ⟨s, ran, seen⟩ := Option.map_eq_some_iff.mp ran
  obtain ⟨returned, closed⟩ := Prod.mk.inj seen
  obtain ⟨e, launched, closed⟩ := List.map_eq_singleton_iff.mp closed
  refine ⟨s, Steps.Reach.exec (.start small_fresh) (Steps.meets_any ..) ran, returned, e, ?_, ?_⟩
  · rw [launched]
    exact List.mem_singleton_self e
  · intro clean
    have accepts := clean.accepts
    rw [FrameQueue.accepts, closed] at accepts
    cases accepts

end Lifetime
end WebAudioCapture
