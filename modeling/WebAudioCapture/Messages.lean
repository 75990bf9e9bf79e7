import WebAudioCapture.Accessors

/-!
# What went wrong last

Every failure of a start and of the capture thread is put into words before
anyone can see that it happened, and there are words from then on.
-/

namespace WebAudioCapture

variable {β : Type}

theorem append_told {a : String} (b : String) (h : a ≠ "") : a ++ b ≠ "" :=
  fun empty => h (String.append_eq_empty_iff.mp empty).1

/-- A result that some call of a callback rings. -/
def QueryAnswer.Genuine : QueryAnswer → Prop
  | .rung result => ∃ call : Invocation, call.rings = some result
  | .refused _ | .timedOut => True

/-- A callback that reports a failure says which. -/
theorem Invocation.rings_told {call : Invocation} {result : QueryResult}
    (rung : call.rings = some result) (failed : result.ok = false) : result.error ≠ "" := by
  cases call with
  | server info =>
    cases rung
    unfold serverInfoCallback at failed ⊢
    split
    · decide
    · split
      · decide
      · rename_i named
        simp only [named, Bool.true_eq_false] at failed
  | sink errno info eol =>
    simp only [rings, sinkInfoCallback] at rung
    split at rung
    · cases rung
      exact append_told errno (by decide)
    · split at rung
      · cases rung
      · split at rung
        · cases rung
          decide
        · cases rung
          cases failed

namespace Control

theorem setError_told (c : Control) {message : String} (h : message ≠ "") :
    (c.setError message).error ≠ "" := h

theorem finishQuery_told {c c' : Control} {call timeoutText : String} {answer : QueryAnswer}
    (named : call ≠ "") (worded : timeoutText ≠ "") (genuine : answer.Genuine)
    (failed : c.finishQuery call timeoutText answer = (c', none)) : c'.error ≠ "" := by
  cases answer with
  | refused strerror =>
    cases failed
    exact append_told _ (append_told _ named)
  | timedOut =>
    cases failed
    exact worded
  | rung result =>
    obtain ⟨invocation, rung⟩ := genuine
    unfold finishQuery at failed
    dsimp only at failed
    split at failed
    · cases failed
    · rename_i bad
      cases failed
      exact Invocation.rings_told rung (Bool.eq_false_iff.mpr bad)

theorem resolveMonitor_told {c c' : Control} {sink : String} {answer : QueryAnswer}
    (genuine : answer.Genuine) (failed : c.resolveMonitor sink answer = (c', none)) :
    c'.error ≠ "" := by
  unfold resolveMonitor at failed
  split at failed
  · rename_i asked
    cases failed
    refine finishQuery_told (by decide) ?_ genuine asked
    exact append_told _ (append_told _ (by decide))
  · cases failed

/-- A resolve that fails says why. -/
theorem resolveTarget_told {c c' : Control} {requestedSink : String}
    {defaultSink monitor : QueryAnswer} (answered : defaultSink.Genuine) (found : monitor.Genuine)
    (failed : c.resolveTarget requestedSink defaultSink monitor = (c', none)) : c'.error ≠ "" := by
  unfold resolveTarget at failed
  split at failed
  · cases failed
    exact setError_told _ (by decide)
  · split at failed
    · split at failed
      · rename_i asked
        cases failed
        exact finishQuery_told (by decide) (by decide) answered asked
      · split at failed
        · cases failed
          exact setError_told _ (by decide)
        · exact resolveMonitor_told found failed
    · exact resolveMonitor_told found failed

theorem awaitConnection_told (c : Control) : c.awaitConnection.2 = .ok ∨
    c.awaitConnection.2 = .errPulse ∧ c.awaitConnection.1.error ≠ "" := by
  unfold awaitConnection
  split
  · exact .inr ⟨rfl, setError_told _ (by decide)⟩
  · split
    · exact .inr ⟨rfl, setError_told _ (by decide)⟩
    · exact .inl rfl

/-- So does an `init`. -/
theorem init_told {c c' : Control} {env : InitEnv} {status : Status}
    (made : c.init env = some (c', status)) : status = .ok ∨ status = .errPulse ∧ c'.error ≠ "" := by
  unfold init connect at made
  dsimp only at made
  split at made
  · cases made
    exact .inr ⟨rfl, setError_told _ (by decide)⟩
  · split at made
    · cases made
      exact .inr ⟨rfl, setError_told _ (by decide)⟩
    · split at made
      · cases made
        exact .inr ⟨rfl, append_told _ (by decide)⟩
      · split at made
        · cases made
        · have told := awaitConnection_told
            ((((c.newMainloop env.mainloopNew).newContext env.contextNew).deliverAll
              env.connecting).runLoop.deliverAll env.waiting)
          rw [Option.some.inj made] at told
          exact told

end Control

/-- An open that is refused says why. -/
theorem Mic.openOn_told {monitor : String} {format : MicFormat} {refusal : Option String}
    {message : String} (refused : openOn monitor format refusal = .error message) :
    message ≠ "" := by
  unfold openOn at refused
  repeat' split at refused
  all_goals cases refused
  · decide
  · exact append_told _ (append_told _ (by decide))
  · decide
  · decide
  · exact append_told _ (append_told _ (by decide))
  · exact append_told _ (by decide)

/-- Where the capture thread has failed and not yet tried again. -/
def CapturePc.hasFailed : CapturePc → Bool
  | .flagOpenFailure | .flagReadFailure | .retrying _ => true
  | _ => false

/-- The answers of a step come from the callbacks. -/
def CaptureInput.Genuine : CaptureInput β → Prop
  | .resolve defaultSink monitor => defaultSink.Genuine ∧ monitor.Genuine
  | _ => True

/-- The same words, or other ones. -/
def Capture.KeepsWords (c c' : Capture β) : Prop := c'.error = c.error ∨ c'.error ≠ ""

theorem Capture.KeepsWords.told {c c' : Capture β} (h : c.KeepsWords c') (told : c.error ≠ "") :
    c'.error ≠ "" := by
  obtain same | told' := h
  · rw [same]
    exact told
  · exact told'

namespace CaptureThread

variable {t t' : CaptureThread β} {c c' : Capture β} {now : Int} {input : CaptureInput β}

/-- A thread that fails has put it into words. -/
theorem step_told (genuine : input.Genuine) (taken : t.step c now input = some (c', t')) :
    c.KeepsWords c' ∧ (t'.pc.hasFailed = true → t.pc.hasFailed = true ∨ c'.error ≠ "") := by
  unfold step at taken
  split at taken
  · cases taken
    refine ⟨.inl rfl, fun failed => ?_⟩
    obtain ⟨next, _⟩ | next | next := t.top_cases c
    all_goals
      rw [goto, next] at failed
      cases failed
  · rename_i defaultSink monitor at_
    cases found : c.control.resolveTarget c.config.requestedSink defaultSink monitor with
    | mk control target =>
      rw [found] at taken
      cases target with
      | none =>
        cases taken
        have told := Control.resolveTarget_told genuine.1 genuine.2 found
        exact ⟨.inr told, fun _ => .inr told⟩
      | some target =>
        cases taken
        exact ⟨.inl rfl, by rintro ⟨⟩⟩
  · cases taken
    exact ⟨.inl rfl, by rintro ⟨⟩⟩
  · rename_i target refusal at_
    cases answer : Mic.openOn target.monitor c.config.micFormat refusal with
    | error message =>
      rw [answer] at taken
      cases taken
      exact ⟨.inr (Mic.openOn_told answer), fun _ => .inr (Mic.openOn_told answer)⟩
    | ok mic =>
      rw [answer] at taken
      cases taken
      refine ⟨.inl rfl, fun failed => ?_⟩
      dsimp only at failed
      split at failed
      · cases failed
      · cases failed
  · rename_i at_
    cases taken
    exact ⟨.inl rfl, fun _ => .inl (at_ ▸ rfl)⟩
  · cases taken
    exact ⟨.inl rfl, by rintro ⟨⟩⟩
  · rename_i bytes failure at_
    split at taken
    · cases failure with
      | none =>
        cases taken
        exact ⟨.inl rfl, by rintro ⟨⟩⟩
      | some strerror =>
        cases taken
        have told : Mic.readError strerror ≠ "" := append_told _ (by decide)
        exact ⟨.inr told, fun _ => .inr told⟩
    · cases taken
  · rename_i at_
    cases taken
    exact ⟨.inl rfl, fun _ => .inl (at_ ▸ rfl)⟩
  · simp only [Capture.pushFrame, Option.map_map, Option.map_eq_some_iff, Prod.exists] at taken
    obtain ⟨queue, discarded, pushed, made⟩ := taken
    cases made
    exact ⟨.inl rfl, by rintro ⟨⟩⟩
  · cases taken
    refine ⟨.inl rfl, fun failed => ?_⟩
    dsimp only [goto] at failed
    split at failed
    · cases failed
    · cases failed
  · cases taken
    exact ⟨.inl rfl, by rintro ⟨⟩⟩
  · cases taken
    exact ⟨.inl rfl, by rintro ⟨⟩⟩
  · split at taken
    · cases taken
      exact ⟨.inl rfl, by rintro ⟨⟩⟩
    · split at taken
      · cases taken
        exact ⟨.inl rfl, by rintro ⟨⟩⟩
      · cases taken
  · cases taken
    exact ⟨.inl rfl, by rintro ⟨⟩⟩
  · cases taken
    exact ⟨.inl rfl, by rintro ⟨⟩⟩
  · cases taken

end CaptureThread

namespace Lifetime

/-- The answers of a step come from the callbacks. -/
def Genuine (_ : Lifetime β) : LifetimeLabel β → Prop
  | .resolve defaultSink monitor => defaultSink.Genuine ∧ monitor.Genuine
  | .thread _ input => input.Genuine
  | _ => True

/-- What failed has been put into words. -/
structure Told (s : Lifetime β) : Prop where
  threads : ∀ t ∈ s.threads, t.pc.hasFailed = true → s.capture.error ≠ ""
  retreating : s.caller = .retreating → s.capture.error ≠ ""
  started : ∀ status, s.caller = .started status →
    status = .ok ∨ status = .errState ∨ status = .errPulse ∧ s.capture.error ≠ ""

section
variable {s t : Lifetime β} {l : LifetimeLabel β}

theorem Told.keep (h : Told s) (words : s.capture.KeepsWords t.capture)
    (threads : ∀ u ∈ t.threads, u ∈ s.threads ∨ u.pc.hasFailed = false)
    (retreating : t.caller = .retreating → s.caller = .retreating ∨ t.capture.error ≠ "")
    (started : ∀ status, t.caller = .started status → s.caller = .started status ∨
      status = .ok ∨ status = .errState ∨ status = .errPulse ∧ t.capture.error ≠ "") : Told t := by
  constructor
  · intro u at_ failed
    obtain old | fine := threads u at_
    · exact words.told (h.threads u old failed)
    · rw [fine] at failed
      cases failed
  · intro at_
    obtain before | told := retreating at_
    · exact words.told (h.retreating before)
    · exact told
  · intro status at_
    obtain before | now := started status at_
    · obtain ok | busy | ⟨failed, told⟩ := h.started status before
      · exact .inl ok
      · exact .inr (.inl busy)
      · exact .inr (.inr ⟨failed, words.told told⟩)
    · exact now

/-- A step of the caller that fails nothing. -/
theorem Told.pass (h : Told s) (error : t.capture.error = s.capture.error)
    (threads : t.threads = s.threads) (retreating : t.caller ≠ .retreating)
    (started : ∀ status, t.caller ≠ .started status) :
    Told t ∧ s.capture.KeepsWords t.capture := by
  refine ⟨h.keep (.inl error) ?_ ?_ ?_, .inl error⟩
  · intro u at_
    exact .inl (threads ▸ at_)
  · exact fun at_ => absurd at_ retreating
  · exact fun status at_ => absurd at_ (started status)

theorem released_caller (s : Lifetime β) :
    s.released.caller = .idle ∨ s.released.caller = .disconnecting := by
  unfold released goto
  dsimp only
  split
  · exact .inl rfl
  · exact .inr rfl

theorem Told.release (h : Told s) {u : Lifetime β} (error : u.capture.error = s.capture.error)
    (threads : u.threads = s.threads) :
    Told u.released ∧ s.capture.KeepsWords u.released.capture := by
  refine h.pass error threads ?_ ?_
  · obtain at_ | at_ := released_caller u
    · rw [at_]; rintro ⟨⟩
    · rw [at_]; rintro ⟨⟩
  · intro status
    obtain at_ | at_ := released_caller u
    · rw [at_]; rintro ⟨⟩
    · rw [at_]; rintro ⟨⟩

theorem thread_told {i : Nat} {th th' : CaptureThread β} {c : Capture β} {input : CaptureInput β}
    (h : Told s) (genuine : input.Genuine) (at_ : s.threads[i]? = some th)
    (stepped : th.step s.capture s.clock input = some (c, th')) :
    Told { s with capture := c, threads := s.threads.set i th' } ∧ s.capture.KeepsWords c := by
  obtain ⟨words, failing⟩ := CaptureThread.step_told genuine stepped
  refine ⟨⟨?_, fun at_ => words.told (h.retreating at_), ?_⟩, words⟩
  · intro u member failed
    obtain old | rfl := List.mem_or_eq_of_mem_set member
    · exact words.told (h.threads u old failed)
    · obtain before | told := failing failed
      · exact words.told (h.threads th (List.mem_of_getElem? at_) before)
      · exact told
  · intro status at_
    obtain ok | busy | ⟨pulse, told⟩ := h.started status at_
    · exact .inl ok
    · exact .inr (.inl busy)
    · exact .inr (.inr ⟨pulse, words.told told⟩)

theorem connect_told {env : InitEnv} {control : Control} {status : Status} (h : Told s)
    (made : s.capture.control.init env = some (control, status)) :
    Told (s.connected env control status) ∧
      s.capture.KeepsWords (s.connected env control status).capture := by
  unfold connected
  split
  · exact h.pass rfl rfl (by rintro ⟨⟩) (by rintro _ ⟨⟩)
  · rename_i failed
    obtain ⟨rfl, told⟩ := (Control.init_told made).resolve_left failed
    refine ⟨h.keep (.inr told) (fun u at_ => .inl at_) (by rintro ⟨⟩) ?_, .inr told⟩
    rintro _ ⟨⟩
    exact .inr (.inr (.inr ⟨rfl, told⟩))

variable [Zero β]

/-- The words kept, and what failed told, by a step. -/
theorem step_told (h : Told s) (genuine : Genuine s l) (taken : s.step l = some t) :
    Told t ∧ s.capture.KeepsWords t.capture := by
  cases step_moves taken with
  | tick elapsed | callback delivery => exact ⟨⟨h.threads, h.retreating, h.started⟩, .inl rfl⟩
  | thread i input th th' c at_ moved =>
    obtain ⟨th, here, taken⟩ := Option.bind_eq_some_iff.mp taken
    obtain ⟨⟨c, th'⟩, stepped, made⟩ := Option.map_eq_some_iff.mp taken
    rw [← made]
    exact thread_told h genuine here stepped
  | reads c r at_ stepped =>
    obtain ⟨_, _, _, _, rfl⟩ := Reader.moves_shape (Reader.step_moves stepped)
    refine h.pass rfl rfl ?_ ?_
    · dsimp only
      split
      · rintro ⟨⟩
      · rintro ⟨⟩
    · intro status
      dsimp only
      split
      · rintro ⟨⟩
      · rintro ⟨⟩
  | refuse at_ running =>
    refine ⟨h.keep (.inl rfl) (fun u at_ => .inl at_) (by rintro ⟨⟩) ?_, .inl rfl⟩
    rintro _ ⟨⟩
    exact .inr (.inr (.inl rfl))
  | connect env control status at_ made => exact connect_told h made
  | resolve defaultSink monitor found at_ answer =>
    obtain ⟨control, _ | target⟩ := found
    · have told := Control.resolveTarget_told genuine.1 genuine.2 answer
      exact ⟨h.keep (.inr told) (fun u at_ => .inl at_) (fun _ => .inr told) (by rintro _ ⟨⟩),
        .inr told⟩
    · exact h.pass rfl rfl (by rintro ⟨⟩) (by rintro _ ⟨⟩)
  | retreat stopping control at_ down =>
    have told := h.retreating at_
    refine ⟨h.keep (.inl rfl) (fun u at_ => .inl at_) (by rintro ⟨⟩) ?_, .inl rfl⟩
    rintro _ ⟨⟩
    exact .inr (.inr (.inr ⟨rfl, told⟩))
  | spawn at_ unused =>
    refine ⟨h.keep (.inl rfl) ?_ (by rintro ⟨⟩) ?_, .inl rfl⟩
    · intro u at_
      obtain old | new := List.mem_append.mp at_
      · exact .inl old
      · rw [List.mem_singleton.mp new]
        exact .inr rfl
    · rintro _ ⟨⟩
      exact .inr (.inl rfl)
  | pass at_ unused => exact h.release rfl rfl
  | abandon until_ at_ late => exact h.release rfl rfl
  | join i at_ used finished => exact h.release rfl rfl
  | start | stop | read | begin | crash | publish | arm | raise | overwrite | request | close
  | wait | see | disconnect | lower => exact h.pass rfl rfl (by rintro ⟨⟩) (by rintro _ ⟨⟩)

/-- A start that fails, other than for a handle that runs already, has left
`weba_capture_last_error` something to say, and so has a capture thread that
failed and has yet to try again; and the words only ever change for others. -/
theorem failures_told (run : Steps.Reach step Genuine Fresh s) :
    (∀ status, s.caller = .started status → status = .ok ∨ status = .errState ∨
      status = .errPulse ∧ Capture.lastError (some s.capture) ≠ "") ∧
    (∀ u ∈ s.threads, u.pc.hasFailed = true → Capture.lastError (some s.capture) ≠ "") ∧
    (Capture.lastError (some s.capture) ≠ "" → ∀ t, Steps.Reach step Genuine (· = s) t →
      Capture.lastError (some t.capture) ≠ "") := by
  have here : Told s := by
    apply Steps.Reach.invariant Told ?_ ?_ run
    · rintro s ⟨c, clock, created, rfl⟩
      exact ⟨by rintro _ ⟨⟩, by rintro ⟨⟩, by rintro _ ⟨⟩⟩
    · intro s l t _ told genuine taken
      exact (step_told told genuine taken).1
  refine ⟨here.started, here.threads, fun worded t further => ?_⟩
  have kept : Told t ∧ Capture.lastError (some t.capture) ≠ "" := by
    apply Steps.Reach.invariant
      (fun t => Told t ∧ Capture.lastError (some t.capture) ≠ "") ?_ ?_ further
    · rintro _ rfl
      exact ⟨here, worded⟩
    · rintro t l u _ ⟨told, worded⟩ genuine taken
      obtain ⟨told', words⟩ := step_told told genuine taken
      exact ⟨told', words.told worded⟩
  exact kept.2

end

/-- A start whose sink has no monitor. -/
theorem failures_told_once : ∃ s : Lifetime UInt8,
    Steps.Reach step Genuine Fresh s ∧ s.caller = .started .errPulse ∧
    Capture.lastError (some s.capture) ≠ "" := by
  have ran : (Steps.exec step small (enterStart ++ [.connect { waiting := [.current .ready] },
      .resolve .timedOut (.rung (failure "sink has no monitor source")), .disconnect []])).map
        (fun s => s.caller) = some (.started .errPulse) := by decide +kernel
  obtain ⟨s, ran, failed⟩ := Option.map_eq_some_iff.mp ran
  have run : Steps.Reach step Genuine Fresh s := by
    refine .exec (.start small_fresh) ?_ ran
    exact ⟨trivial, trivial, trivial, ⟨trivial, .sink "" none 0, rfl⟩, trivial, trivial⟩
  obtain ⟨started, _⟩ := failures_told run
  obtain ⟨⟨⟩⟩ | ⟨⟨⟩⟩ | ⟨_, told⟩ := started _ failed
  exact ⟨s, run, failed, told⟩

end Lifetime
end WebAudioCapture
