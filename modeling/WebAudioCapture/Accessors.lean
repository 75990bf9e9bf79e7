import WebAudioCapture.Destroy

/-!
# What a handle tells its owner

The calls of the C interface that only look: whether the handle is running, the
format in use and what went wrong last. They are made between the other calls,
while the capture threads go on.
-/

namespace WebAudioCapture

variable {β : Type}

namespace Capture

/-- `weba_capture_get_format`; `out` is whether that pointer is given. -/
def getFormat (c : Option (Capture β)) (out : Bool) : Status × Option FormatInfo :=
  match c, out with
  | some c, true => (.ok, some c.formatInfo)
  | _, _ => (.errInval, none)

/-- `weba_capture_is_running`. -/
def isRunning (c : Option (Capture β)) : Int :=
  match c with
  | some c => if c.running then 1 else 0
  | none => 0

/-- `weba_capture_last_error`. -/
def lastError (c : Option (Capture β)) : String :=
  match c with
  | some c => c.error
  | none => ""

end Capture

/-! ## Whether it runs -/

namespace CaptureThread

variable {t t' : CaptureThread β} {c c' : Capture β} {now : Int}

/-- A thread that stays leaves `running` as it was. -/
theorem moves_running_going (moved : t.Moves c now c' t') (going : t'.isDone = false) :
    c'.running = c.running := by
  obtain same | leaving := (moves_undisturbed moved).2
  · exact same
  · have leads := moves_leads moved
    rw [leaving] at leads
    unfold isDone at going
    generalize t'.pc = next at leads going
    cases leads
    cases going

end CaptureThread

namespace Lifetime

/-- A capture thread has yet to clear `running`. -/
def Busy (threads : List (CaptureThread β)) : Prop := ∃ t ∈ threads, t.isDone = false

/-- The handle is running while a thread is, or is about to be. -/
def Live (s : Lifetime β) : Prop :=
  s.capture.running = true ↔ s.caller = .spawning ∨ Busy s.threads

section
variable {s t : Lifetime β} {joined : List Nat}

theorem Live.same (h : Live s) (running : t.capture.running = s.capture.running)
    (threads : t.threads = s.threads) (before : s.caller ≠ .spawning)
    (after : t.caller ≠ .spawning) : Live t := by
  have old : s.capture.running = true ↔ s.caller = .spawning ∨ Busy s.threads := h
  unfold Live
  rw [running, threads, old]
  simp only [before, after, false_or]

/-- With no thread kept or abandoned, none is busy. -/
theorem Safe.not_busy (h : Safe s joined) (unused : s.capture.thread = none)
    (kept : s.capture.threadAbandoned = false) : ¬Busy s.threads := by
  rintro ⟨t, at_, going⟩
  rw [CaptureThread.isDone, h.all_finished unused kept t at_] at going
  cases going

/-- Where the caller is about to start a thread, none is busy. -/
theorem Safe.spawning_rest (h : Safe s joined) (at_ : s.caller = .spawning) : ¬Busy s.threads := by
  have there := h.at_
  rw [at_] at there
  exact h.not_busy there.1.thread there.1.kept

/-- A thread other than `i` is busy. -/
def BusyBut (threads : List (CaptureThread β)) (i : Nat) : Prop :=
  ∃ (j : Nat) (u : CaptureThread β), j ≠ i ∧ threads[j]? = some u ∧ u.isDone = false

theorem busy_at {threads : List (CaptureThread β)} {i : Nat} {th : CaptureThread β}
    (at_ : threads[i]? = some th) :
    Busy threads ↔ th.isDone = false ∨ BusyBut threads i := by
  constructor
  · rintro ⟨u, member, going⟩
    obtain ⟨j, here⟩ := List.mem_iff_getElem?.mp member
    by_cases same : j = i
    · subst same
      rw [at_] at here
      cases here
      exact .inl going
    · exact .inr ⟨j, u, same, here, going⟩
  · rintro (going | ⟨j, u, _, here, going⟩)
    · exact ⟨th, List.mem_iff_getElem?.mpr ⟨i, at_⟩, going⟩
    · exact ⟨u, List.mem_iff_getElem?.mpr ⟨j, here⟩, going⟩

theorem busyBut_set (threads : List (CaptureThread β)) (i : Nat) (th' : CaptureThread β) :
    BusyBut (threads.set i th') i ↔ BusyBut threads i := by
  constructor
  · rintro ⟨j, u, other, here, going⟩
    rw [List.getElem?_set_ne (Ne.symm other)] at here
    exact ⟨j, u, other, here, going⟩
  · rintro ⟨j, u, other, here, going⟩
    refine ⟨j, u, other, ?_, going⟩
    rwa [List.getElem?_set_ne (Ne.symm other)]

theorem thread_live {i : Nat} {th th' : CaptureThread β} {c : Capture β} (safe : Safe s joined)
    (h : Live s) (at_ : s.threads[i]? = some th) (moved : th.Moves s.capture s.clock c th') :
    Live { s with capture := c, threads := s.threads.set i th' } := by
  have old : s.capture.running = true ↔ s.caller = .spawning ∨ Busy s.threads := h
  have lt : i < s.threads.length := (List.getElem?_eq_some_iff.mp at_).1
  have mine : (s.threads.set i th')[i]? = some th' := List.getElem?_set_self lt
  unfold Live
  dsimp only
  rw [busy_at mine, busyBut_set]
  cases done : th.isDone with
  | true =>
    -- it changes nothing that can be seen
    obtain ⟨done', rfl⟩ := CaptureThread.moves_done moved done
    rw [old, busy_at at_, done, done']
  | false =>
    -- it is the one that is busy
    have busy : Busy s.threads := (busy_at at_).mpr (.inl done)
    have elsewhere : s.caller ≠ .spawning := fun spawning => safe.spawning_rest spawning busy
    have alone : ¬BusyBut s.threads i := by
      rintro ⟨j, u, other, here, going⟩
      exact other (safe.lone i j th u at_ here done going).symm
    simp only [elsewhere, alone, false_or, or_false]
    cases done' : th'.isDone with
    | true =>
      obtain ⟨_, _, rfl⟩ | ⟨notifying, _⟩ := CaptureThread.moves_isDone moved done'
      · simp only [Bool.false_eq_true, Bool.true_eq_false]
      · rw [CaptureThread.isDone, notifying] at done
        cases done
    | false =>
      rw [CaptureThread.moves_running_going moved done']
      exact iff_of_true (old.mpr (.inr busy)) rfl

theorem free_unspawning {pc : CallerPc} (free : pc.isFree = true) : pc ≠ .spawning := by
  rintro rfl
  cases free

theorem released_unspawning (s : Lifetime β) : s.released.caller ≠ .spawning := by
  unfold released goto
  dsimp only
  split
  · rintro ⟨⟩
  · rintro ⟨⟩

section
variable [Zero β] {l : LifetimeLabel β}

theorem step_live (safe : Safe s joined) (h : Live s) (moved : Moves s l t) : Live t := by
  have there := safe.at_
  cases moved with
  | tick elapsed => exact h
  | callback delivery => exact h
  | thread i input th th' c at_ moved => exact thread_live safe h at_ moved
  | reads c r at_ taken =>
    have same := (Reader.moves_undisturbed (Reader.step_moves taken)).2
    refine h.same same rfl (by rw [at_]; rintro ⟨⟩) ?_
    dsimp only
    split
    · rintro ⟨⟩
    · rintro ⟨⟩
  | raise at_ => exact ⟨fun _ => .inl rfl, fun _ => rfl⟩
  | spawn at_ unused =>
    rw [at_] at there
    refine iff_of_true there.2.2 (.inr ⟨.spawn s.capture.config, ?_, rfl⟩)
    exact List.mem_append_right _ List.mem_cons_self
  | overwrite at_ used =>
    rw [at_] at there
    rw [there.1.thread] at used
    cases used
  | lower at_ =>
    rw [at_] at there
    have rest := safe.not_busy there.1 there.2
    refine iff_of_false (by rintro ⟨⟩) ?_
    rintro (⟨⟨⟩⟩ | busy)
    exact rest busy
  | start free => exact h.same rfl rfl (free_unspawning free) (by rintro ⟨⟩)
  | stop free => exact h.same rfl rfl (free_unspawning free) (by rintro ⟨⟩)
  | read args r free entered => exact h.same rfl rfl (free_unspawning free) (by rintro ⟨⟩)
  | connect env control status at_ made =>
    unfold connected
    split
    · exact h.same rfl rfl (by rw [at_]; rintro ⟨⟩) (by rintro ⟨⟩)
    · exact h.same rfl rfl (by rw [at_]; rintro ⟨⟩) (by rintro ⟨⟩)
  | resolve defaultSink monitor found at_ answer =>
    obtain ⟨control, _ | target⟩ := found
    · exact h.same rfl rfl (by rw [at_]; rintro ⟨⟩) (by rintro ⟨⟩)
    · exact h.same rfl rfl (by rw [at_]; rintro ⟨⟩) (by rintro ⟨⟩)
  | pass at_ unused =>
    exact h.same rfl rfl (by rw [at_]; rintro ⟨⟩) (released_unspawning _)
  | abandon until_ at_ late =>
    exact h.same rfl rfl (by rw [at_]; rintro ⟨⟩) (released_unspawning _)
  | join i at_ used finished =>
    exact h.same rfl rfl (by rw [at_]; rintro ⟨⟩) (released_unspawning _)
  | refuse at_ | begin at_ | crash env at_ | retreat stopping control at_ | publish target at_
  | arm at_ | request at_ | close at_ | wait until_ at_ | see until_ at_
  | disconnect stopping control at_ =>
    exact h.same rfl rfl (by rw [at_]; rintro ⟨⟩) (by rintro ⟨⟩)

/-- In every life of a handle, however it is started, stopped and left by its
threads, it is running exactly while a capture thread has yet to leave or a
start is about to spawn one. -/
theorem running_iff_live (run : Steps.Reach step Steps.Any Fresh s) :
    Capture.isRunning (some s.capture) = 1 ↔
      s.caller = .spawning ∨ ∃ t ∈ s.threads, t.isDone = false := by
  have live : (∃ joined, Safe s joined) ∧ Live s := by
    apply Steps.Reach.invariant (fun s => (∃ joined, Safe s joined) ∧ Live s) ?_ ?_ run
    · intro s fresh
      refine ⟨⟨[], fresh_safe fresh⟩, ?_⟩
      obtain ⟨c, clock, created, rfl⟩ := fresh
      obtain ⟨_, shape, _⟩ := created.shape
      have down : c.running = false := congrArg Capture.running shape
      refine iff_of_false (by dsimp only; rw [down]; rintro ⟨⟩) ?_
      rintro (⟨⟨⟩⟩ | ⟨_, ⟨⟩, _⟩)
    · rintro s l t _ ⟨⟨joined, safe⟩, live⟩ _ taken
      have moved := step_moves taken
      exact ⟨⟨_, step_safe safe moved⟩, step_live safe live moved⟩
  have up : Capture.isRunning (some s.capture) = 1 ↔ s.capture.running = true := by
    unfold Capture.isRunning
    dsimp only
    split
    · exact iff_of_true rfl ‹_›
    · exact iff_of_false (by decide) ‹_›
  exact up.trans live.2

end
end

/-- A handle that has been started. -/
theorem running_iff_live_once : ∃ s : Lifetime UInt8,
    Steps.Reach step Steps.Any Fresh s ∧ s.threads.length = 1 ∧
    Capture.isRunning (some s.capture) = 1 ∧ ∃ t ∈ s.threads, t.isDone = false := by
  have ran : (Steps.exec step small startWell).map
      (fun s => (s.threads.length, Capture.isRunning (some s.capture), s.caller)) =
        some (1, 1, .started .ok) := by decide +kernel
  obtain ⟨s, ran, seen⟩ := Option.map_eq_some_iff.mp ran
  simp only [Prod.mk.injEq] at seen
  obtain ⟨one, up, started⟩ := seen
  have run : Steps.Reach step Steps.Any Fresh s :=
    .exec (.start small_fresh) (Steps.meets_any ..) ran
  refine ⟨s, run, one, up, ((running_iff_live run).mp up).resolve_left ?_⟩
  rw [started]
  rintro ⟨⟩

/-! ## The format in use -/

end Lifetime

/-- `info` says what the configuration asks for, and its names are C strings
that fit. -/
structure Config.DescribedBy (config : Config) (info : FormatInfo) : Prop where
  sampleRate : info.sampleRate = config.sampleRate
  channels : info.channels = config.channels
  frameSamples : info.frameSamples = config.frameSamples
  format : info.format = config.format
  sinkName : info.sinkName.length < 256 ∧ 0 ∉ info.sinkName
  monitorName : info.monitorName.length < 256 ∧ 0 ∉ info.monitorName

namespace Capture

theorem nameBytes_fits (name : String) : (nameBytes name).length < 256 ∧ 0 ∉ nameBytes name := by
  constructor
  · have short := List.length_take_le 255 (name.toUTF8.toList.takeWhile (· ≠ 0))
    unfold nameBytes
    omega
  · intro at_
    have all := List.all_eq_true.mp (List.all_takeWhile (p := (· ≠ 0)) (l := name.toUTF8.toList))
    have before := all 0 (List.mem_of_mem_take at_)
    simp only [ne_eq, not_true_eq_false, decide_false, Bool.false_eq_true] at before

theorem publishFormat_described (c : Capture β) (target : Target) :
    c.config.DescribedBy (c.publishFormat target).formatInfo :=
  ⟨rfl, rfl, rfl, rfl, nameBytes_fits _, nameBytes_fits _⟩

/-- The same configuration, and the same format or a published one. -/
structure Republishes (c c' : Capture β) : Prop where
  config : c'.config = c.config
  formatInfo : c'.formatInfo = c.formatInfo ∨ c.config.DescribedBy c'.formatInfo

end Capture

theorem CaptureThread.moves_republishes {t t' : CaptureThread β} {c c' : Capture β} {now : Int}
    (moved : t.Moves c now c' t') : c.Republishes c' := by
  refine ⟨moves_config moved, ?_⟩
  cases moved with
  | publish target at_ => exact .inr (c.publishFormat_described target)
  | push c' at_ pushed =>
    simp only [Capture.pushFrame, Option.map_eq_some_iff, Prod.exists] at pushed
    obtain ⟨queue, discarded, took, rfl⟩ := pushed
    exact .inl rfl
  | _ => exact .inl rfl

theorem Reader.moves_republishes [Zero β] {r r' : Reader β} {c c' : Capture β} {now : Int}
    (moved : r.Moves c now c' r') : c.Republishes c' := by
  obtain ⟨_, _, _, _, rfl⟩ := moves_shape moved
  exact ⟨rfl, .inl rfl⟩

namespace Lifetime

/-- A start has returned `WEBA_OK`, or is past where it publishes the format. -/
def Published (s : Lifetime β) : Prop :=
  s.launches ≠ [] ∨ s.caller = .arming ∨ s.caller = .raising ∨ s.caller = .spawning

section
variable [Zero β] {s t : Lifetime β} {l : LifetimeLabel β}

theorem moves_republishes (moved : Moves s l t) : s.capture.Republishes t.capture := by
  cases moved with
  | thread i input th th' c at_ moved => exact CaptureThread.moves_republishes moved
  | reads c r at_ taken => exact Reader.moves_republishes (Reader.step_moves taken)
  | publish target at_ => exact ⟨rfl, .inr (s.capture.publishFormat_described target)⟩
  | connect env control status at_ made =>
    unfold connected
    split
    · exact ⟨rfl, .inl rfl⟩
    · exact ⟨rfl, .inl rfl⟩
  | resolve defaultSink monitor found at_ answer =>
    obtain ⟨control, _ | target⟩ := found
    · exact ⟨rfl, .inl rfl⟩
    · exact ⟨rfl, .inl rfl⟩
  | _ => exact ⟨rfl, .inl rfl⟩

/-- A start gets that far only by publishing. -/
theorem moves_published (moved : Moves s l t) (published : Published t) :
    Published s ∨ s.capture.config.DescribedBy t.capture.formatInfo := by
  cases moved with
  | publish target at_ => exact .inr (s.capture.publishFormat_described target)
  | arm at_ => exact .inl (.inr (.inl at_))
  | raise at_ => exact .inl (.inr (.inr (.inl at_)))
  | spawn at_ unused => exact .inl (.inr (.inr (.inr at_)))
  | tick elapsed | callback delivery | thread i input th th' c at_ moved => exact .inl published
  | reads c r at_ taken =>
    obtain launched | ended | ended | ended := published
    · exact .inl (.inl launched)
    all_goals
      dsimp only at ended
      split at ended
      · cases ended
      · cases ended
  | connect env control status at_ made =>
    unfold connected at published
    split at published
    all_goals
      obtain launched | ⟨⟨⟩⟩ | ⟨⟨⟩⟩ | ⟨⟨⟩⟩ := published
      exact .inl (.inl launched)
  | resolve defaultSink monitor found at_ answer =>
    obtain ⟨control, _ | target⟩ := found
    all_goals
      obtain launched | ⟨⟨⟩⟩ | ⟨⟨⟩⟩ | ⟨⟨⟩⟩ := published
      exact .inl (.inl launched)
  | pass at_ unused | abandon until_ at_ late | join i at_ used finished =>
    obtain launched | ended | ended | ended := published
    · exact .inl (.inl launched)
    all_goals
      unfold released goto at ended
      dsimp only at ended
      split at ended
      · cases ended
      · cases ended
  | start free | stop free | read args r free entered | refuse at_ | begin at_ | crash env at_
  | retreat stopping control at_ | overwrite at_ | request at_ | close at_ | wait until_ at_
  | see until_ at_ | disconnect stopping control at_ | lower at_ =>
    obtain launched | ⟨⟨⟩⟩ | ⟨⟨⟩⟩ | ⟨⟨⟩⟩ := published
    exact .inl (.inl launched)

/-- From the first start that succeeds on, through every reopen, stop and later
start, `weba_capture_get_format` gives the numbers the handle was created with,
and names that fit their fields and end there; before it, these or nothing. -/
theorem format_described {config : Config}
    (run : Steps.Reach step Steps.Any (fun s => Fresh s ∧ s.capture.config = config) s) :
    ∃ info, Capture.getFormat (some s.capture) true = (.ok, some info) ∧
      (config.DescribedBy info ∨ s.launches = [] ∧ info = {}) := by
  have kept : s.capture.config = config ∧
      (config.DescribedBy s.capture.formatInfo ∨ ¬Published s ∧ s.capture.formatInfo = {}) := by
    apply Steps.Reach.invariant (fun s => s.capture.config = config ∧
      (config.DescribedBy s.capture.formatInfo ∨ ¬Published s ∧ s.capture.formatInfo = {})) ?_ ?_ run
    · rintro s ⟨⟨c, clock, created, rfl⟩, same⟩
      obtain ⟨_, shape, _⟩ := created.shape
      refine ⟨same, .inr ⟨?_, congrArg Capture.formatInfo shape⟩⟩
      rintro (none | ⟨⟨⟩⟩ | ⟨⟨⟩⟩ | ⟨⟨⟩⟩)
      exact none rfl
    · rintro s l t _ ⟨same, kept⟩ _ taken
      have moved := step_moves taken
      have after := moves_republishes moved
      refine ⟨after.config.trans same, ?_⟩
      by_cases described : config.DescribedBy t.capture.formatInfo
      · exact .inl described
      · have info : t.capture.formatInfo = s.capture.formatInfo := by
          apply after.formatInfo.resolve_right
          rwa [same]
        rw [info] at described
        obtain ⟨unpublished, none⟩ := kept.resolve_left described
        refine .inr ⟨fun published => ?_, info.trans none⟩
        obtain before | now := moves_published moved published
        · exact unpublished before
        · rw [same, info] at now
          exact described now
  obtain ⟨same, described | ⟨unpublished, none⟩⟩ := kept
  · exact ⟨_, rfl, .inl described⟩
  · refine ⟨_, rfl, .inr ⟨?_, none⟩⟩
    apply Classical.byContradiction
    intro launched
    exact unpublished (.inl launched)

end

theorem format_described_once : ∃ (s : Lifetime UInt8) (info : FormatInfo),
    Steps.Reach step Steps.Any (fun s => Fresh s ∧ s.capture.config = smallHandle.config) s ∧
    s.launches ≠ [] ∧ Capture.getFormat (some s.capture) true = (.ok, some info) ∧
      smallHandle.config.DescribedBy info := by
  have ran : (Steps.exec step small startWell).map (fun s => s.launches.length) = some 1 := by
    decide +kernel
  obtain ⟨s, ran, one⟩ := Option.map_eq_some_iff.mp ran
  have launched : s.launches ≠ [] := by
    intro none
    rw [none] at one
    cases one
  have run : Steps.Reach step Steps.Any
      (fun s => Fresh s ∧ s.capture.config = smallHandle.config) s :=
    .exec (.start ⟨small_fresh, rfl⟩) (Steps.meets_any ..) ran
  obtain ⟨info, given, described | ⟨none, _⟩⟩ := format_described run
  · exact ⟨s, info, run, launched, given, described⟩
  · exact absurd none launched

end Lifetime
end WebAudioCapture
