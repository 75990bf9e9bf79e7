import WebAudioCapture.Conservation
import WebAudioCapture.Sizes

/-!
# Every copy stays inside its memory

Over a whole life of a handle whose queue was given all of its storage, with
callers whose buffers are as large as they say: the pops, pushes and silences
of all threads have the room they need, so none of them is undefined.
-/

namespace WebAudioCapture

variable {β : Type}

/-- All slots of the queue exist, and each takes one frame. -/
structure Capture.Sized (c : Capture β) : Prop where
  wellFormed : c.queue.WellFormed
  slot : c.queue.slotBytes = c.config.frameBytes
  exact_ : c.config.frameBytes = c.config.size

/-- A buffer of `frames` frames. -/
def Config.Fits (config : Config) (frames : Nat) (dst : List β) : Prop :=
  frames * config.channels.toNat * Config.bytesPerSample config.format ≤ dst.length

instance (config : Config) (frames : Nat) (dst : List β) : Decidable (config.Fits frames dst) :=
  inferInstanceAs (Decidable (_ ≤ _))

/-- A buffer that takes a frame. -/
def Config.Holds (config : Config) (dst : Option (List β)) : Prop :=
  ∃ bytes, dst = some bytes ∧ config.frameBytes ≤ bytes.length

/-- The buffer of a call: as large as it was said to be and, once the call is
admitted, large enough. -/
def Reader.Provided (config : Config) (r : Reader β) : Prop :=
  match r.pc with
  | .idle | .returned _ => True
  | .entered => ∀ dst, r.dst = some dst → config.Fits r.capacityFrames.toNat dst
  | _ => config.Holds r.dst

namespace FrameQueue

/-- A pop into a buffer that takes a frame is defined. -/
theorem WellFormed.pop_defined {q : FrameQueue β} (h : q.WellFormed) {out : List β}
    (enough : q.slotBytes ≤ out.length) :
    ∃ q' p, q.pop out = some (q', p) ∧ Taken q q' ∧ p.out.length = out.length := by
  cases queued : q.frames with
  | nil =>
    obtain ⟨q', popped, taken⟩ := pop_empty h queued out
    exact ⟨q', _, popped, taken, rfl⟩
  | cons frame rest =>
    obtain ⟨q', popped, taken⟩ := pop_frame h queued out enough
    have whole : frame.length = q.slotBytes :=
      h.frames_whole frame (by rw [queued]; exact List.mem_cons_self)
    refine ⟨q', _, popped, taken, ?_⟩
    rw [List.length_append, List.length_drop, whole]
    omega

/-- So is a push of a whole frame. -/
theorem WellFormed.push_defined {q : FrameQueue β} (h : q.WellFormed) {frame : List β}
    (enough : q.slotBytes ≤ frame.length) :
    ∃ q' discarded, q.push frame = some (q', discarded) ∧ q'.WellFormed ∧
      q'.slotBytes = q.slotBytes := by
  cases closed : q.closed with
  | true => exact ⟨q, 0, push_closed closed frame, h, rfl⟩
  | false =>
    obtain ⟨q', pushed, after⟩ := push_open h closed enough
    exact ⟨q', _, pushed, after.wellFormed, after.slotBytes⟩

end FrameQueue

/-! ## One step of each party -/

section
variable {c c' : Capture β} {now : Int}

theorem Capture.Sized.same (h : c.Sized) (config : c'.config = c.config)
    (queue : c'.queue = c.queue) : c'.Sized := by
  obtain ⟨wellFormed, slot, exact_⟩ := h
  exact ⟨queue ▸ wellFormed, by rw [queue, config]; exact slot, config ▸ exact_⟩

theorem Capture.Sized.queue {queue : FrameQueue β} (h : c.Sized) (wellFormed : queue.WellFormed)
    (slotBytes : queue.slotBytes = c.queue.slotBytes) : ({ c with queue } : Capture β).Sized :=
  ⟨wellFormed, slotBytes.trans h.slot, h.exact_⟩

section
variable {r r' : Reader β}

theorem Reader.pop_sized {dst : List β} (h : c.Sized) (given : r.dst = some dst)
    (enough : c.config.frameBytes ≤ dst.length) :
    ∃ queue p, r.pop c = some ({ c with queue }, p) ∧ ({ c with queue } : Capture β).Sized ∧
      p.out.length = dst.length := by
  obtain ⟨queue, p, popped, taken, length⟩ := h.wellFormed.pop_defined (h.slot ▸ enough)
  refine ⟨queue, p, ?_, h.queue taken.wellFormed taken.slotBytes, length⟩
  simp only [Reader.pop, given, Option.bind_some, popped, Option.map_some]

theorem Reader.silence_sized [Zero β] {dst : List β} {bytes : Nat} (given : r.dst = some dst)
    (enough : bytes ≤ dst.length) :
    ∃ dst', r.silence bytes = some { r with dst := some dst' } ∧ dst'.length = dst.length := by
  have room : 0 + (List.replicate bytes (0 : β)).length ≤ dst.length := by
    rw [List.length_replicate]
    omega
  have stored : Blocks.store dst 0 (List.replicate bytes 0) = some _ := if_pos room
  refine ⟨_, ?_, (Blocks.store_length stored).1⟩
  simp only [Reader.silence, given, Option.bind_some, stored, Option.map_some]

/-- A call in progress can take its next step. -/
theorem Reader.step_defined [Zero β] (h : c.Sized) (provided : r.Provided c.config)
    (busy : r.isIdle = false) : (r.step c now).isSome = true := by
  unfold Reader.step
  cases at_ : r.pc with
  | idle | returned _ => rw [Reader.isIdle, at_] at busy; cases busy
  | popping wait =>
    rw [Provided, at_] at provided
    obtain ⟨dst, given, enough⟩ := provided
    obtain ⟨queue, p, popped, _⟩ := Reader.pop_sized h given enough
    simp only [popped, Option.map_some, Option.isSome_some]
  | due =>
    rw [Provided, at_] at provided
    obtain ⟨dst, given, enough⟩ := provided
    obtain ⟨queue, p, popped, _⟩ := Reader.pop_sized h given enough
    simp only [popped, Option.map_some, Option.isSome_some]
  | draining result =>
    rw [Provided, at_] at provided
    obtain ⟨dst, given, enough⟩ := provided
    obtain ⟨dst', silenced, _⟩ := Reader.silence_sized given enough
    dsimp only
    split
    · rw [silenced]; rfl
    · rfl
  | _ => rfl

theorem Reader.pop_keeps_sized {p : FrameQueue.Popped β} (next : ReadPc) (h : c.Sized)
    (held : c.config.Holds r.dst) (popped : r.pop c = some (c', p)) :
    c'.Sized ∧ c'.config.Holds (r.keep p next).dst := by
  obtain ⟨dst, given, enough⟩ := held
  obtain ⟨queue, p', again, sized, length⟩ := Reader.pop_sized h given enough
  rw [again] at popped
  cases popped
  exact ⟨sized, p.out, rfl, by rw [length]; exact enough⟩

theorem Reader.moves_sized [Zero β] (h : c.Sized) (provided : r.Provided c.config)
    (moved : r.Moves c now c' r') : c'.Sized ∧ r'.Provided c'.config := by
  have paced : (c.startPacing now).Sized :=
    h.same (c.startPacing_config now) (Session.startPacing_shared c now).1
  unfold Provided at provided
  cases moved with
  | refuse status at_ refused => exact ⟨h, trivial⟩
  | accept timeoutMs at_ running given enough =>
    rw [at_] at provided
    obtain ⟨dst, given⟩ := Option.isSome_iff_exists.mp given
    refine ⟨h, dst, given, ?_⟩
    have fits := provided dst given
    have more := UInt32.le_iff_toNat_le.mp enough
    rw [h.exact_, Config.size]
    exact Nat.le_trans (Nat.mul_le_mul_right _ (Nat.mul_le_mul_right _ more)) fits
  | begin at_ => rw [at_] at provided; exact ⟨h, provided⟩
  | wait at_ pass => rw [at_] at provided; exact ⟨h, provided⟩
  | early next at_ fixed soon leads =>
    rw [at_] at provided
    refine ⟨paced, ?_⟩
    rw [c.startPacing_config]
    obtain rfl | ⟨wait, _, rfl⟩ := leads
    · trivial
    · exact provided
  | reach at_ fixed passed =>
    rw [at_] at provided
    refine ⟨paced, ?_⟩
    rw [c.startPacing_config]
    exact provided
  | again at_ =>
    obtain at_ | ⟨wait, at_⟩ := at_
    · rw [at_] at provided; exact ⟨h, provided⟩
    · rw [at_] at provided; exact ⟨h, provided⟩
  | expire at_ late => exact ⟨h, trivial⟩
  | shut d p at_ popped closed =>
    refine ⟨?_, trivial⟩
    obtain at_ | ⟨wait, at_⟩ := at_
    · rw [at_] at provided
      exact (Reader.pop_keeps_sized .idle h provided popped).1
    · rw [at_] at provided
      exact (Reader.pop_keeps_sized .idle h provided popped).1
  | popWaiting d p wait at_ popped open_ =>
    rw [at_] at provided
    obtain ⟨sized, held⟩ := Reader.pop_keeps_sized (r.afterPop p.result) h provided popped
    refine ⟨sized, ?_⟩
    simp only [Provided, Reader.keep, Reader.afterPop] at held ⊢
    split
    · trivial
    · trivial
    · rename_i entered
      split at entered
      · cases entered
      · split at entered
        · cases entered
        · cases entered
    · exact held
  | popDue d p at_ popped open_ =>
    rw [at_] at provided
    exact Reader.pop_keeps_sized (.draining p.result) h provided popped
  | drain result dst at_ filled =>
    rw [at_] at provided
    refine ⟨h.same rfl rfl, ?_⟩
    split at filled
    · obtain ⟨bytes, given, enough⟩ := provided
      obtain ⟨dst', silenced, length⟩ := Reader.silence_sized given enough
      rw [silenced] at filled
      have same : some dst' = dst := congrArg Reader.dst (Option.some.inj filled)
      exact ⟨dst', same.symm, by rw [length]; exact enough⟩
    · have same : r.dst = dst := congrArg Reader.dst (Option.some.inj filled)
      rw [same] at provided
      exact provided
  | close flags at_ => exact ⟨h.same rfl rfl, trivial⟩
  | stamp at_ => rw [at_] at provided; exact ⟨h, provided⟩
  | tell ns at_ => exact ⟨h.same rfl rfl, trivial⟩

end
section
variable {t t' : CaptureThread β}

theorem CaptureThread.push_defined (h : c.Sized) (buffer : t.buffer.length = c.config.frameBytes)
    (at_ : t.pc = .pushing) : (t.step c now .run).isSome = true := by
  have enough : c.queue.slotBytes ≤ t.buffer.length := by rw [h.slot, buffer]
  obtain ⟨queue, discarded, pushed, _⟩ := h.wellFormed.push_defined enough
  unfold CaptureThread.step
  rw [at_]
  simp only [Capture.pushFrame, pushed, Option.map_some, Option.isSome_some]

theorem CaptureThread.moves_sized (h : c.Sized) (buffer : t.buffer.length = c.config.frameBytes)
    (moved : t.Moves c now c' t') : c'.Sized ∧ t'.buffer.length = c'.config.frameBytes := by
  cases moved with
  | read bytes at_ live whole => exact ⟨h, whole.trans buffer⟩
  | lose bytes message at_ live whole => exact ⟨h.same rfl rfl, whole.trans buffer⟩
  | push c' at_ pushed =>
    have enough : c.queue.slotBytes ≤ t.buffer.length := by rw [h.slot, buffer]
    obtain ⟨queue, discarded, took, wellFormed, slotBytes⟩ := h.wellFormed.push_defined enough
    rw [Capture.pushFrame, took] at pushed
    cases pushed
    exact ⟨h.queue wellFormed slotBytes, buffer⟩
  | _ => exact ⟨h.same rfl rfl, buffer⟩

end
end

/-! ## The life of a handle -/

namespace Lifetime

/-- A handle `create` has just returned, its queue with all of its storage. -/
def Roomy [Zero β] (s : Lifetime β) : Prop :=
  ∃ c clock, Capture.Created c ∧ c.config.queueBytes ≤ c.queue.storage.length ∧
    s = { capture := c, clock }

/-- No caller says that its buffer holds more frames than it does. -/
def Truthful (s : Lifetime β) : LifetimeLabel β → Prop
  | .read args => ∀ dst, args.dst = some dst →
      s.capture.config.Fits args.capacityFrames.toNat dst
  | _ => True

instance (s : Lifetime β) (l : LifetimeLabel β) : Decidable (Truthful s l) :=
  match l with
  | .read ⟨none, _, _, _⟩ => .isTrue nofun
  | .read ⟨some dst, capacityFrames, _, _⟩ =>
    decidable_of_iff (s.capture.config.Fits capacityFrames.toNat dst)
      ⟨fun fits _ same => Option.some.inj same ▸ fits, fun all => all dst rfl⟩
  | .tick _ | .start | .stop | .run | .connect _ | .resolve .. | .disconnect _ | .thread ..
  | .callback _ => .isTrue trivial

structure Provided (s : Lifetime β) : Prop where
  sized : s.capture.Sized
  buffers : ∀ t ∈ s.threads, t.buffer.length = s.capture.config.frameBytes
  reading : s.caller = .reading → s.reader.isIdle = false
  provided : s.reader.Provided s.capture.config

section
variable {s t : Lifetime β}

theorem roomy_provided [Zero β] (h : Roomy s) : Provided s := by
  obtain ⟨c, clock, created, room, rfl⟩ := h
  have small := created.storage_lt
  have exact_ := created.frameBytes_eq
  obtain ⟨storage, shape, positive, _⟩ := created.shape
  have queue : c.queue = { storage, slotBytes := c.config.frameBytes,
                           capacity := max c.config.queueFrames.toNat 1 } :=
    congrArg Capture.queue shape
  have storage_eq : c.queue.storage = storage := congrArg FrameQueue.storage queue
  rw [storage_eq] at room small
  refine ⟨⟨?_, by rw [queue], exact_⟩, nofun, by rintro ⟨⟩, trivial⟩
  dsimp only
  rw [queue]
  exact ⟨positive, by dsimp only; omega, room, small, Nat.zero_le _, by dsimp only; omega,
    by rintro ⟨⟩⟩

/-- What the caller does besides reading leaves all memory alone. -/
theorem Provided.besides (h : Provided s) {c : Capture β} {caller : CallerPc} {threads : List (CaptureThread β)}
    {stops : Nat} {halfOpen : Bool} {launches : List (Launch β)} (sized : c.Sized)
    (config : c.config = s.capture.config) (away : caller ≠ .reading)
    (buffers : ∀ t ∈ threads, t.buffer.length = s.capture.config.frameBytes) :
    Provided { s with capture := c, caller, threads, stops, halfOpen, launches } :=
  ⟨sized, by rw [config]; exact buffers, fun at_ => absurd at_ away,
    by rw [config]; exact h.provided⟩

theorem step_provided [Zero β] {l : LifetimeLabel β} (h : Provided s) (truthful : Truthful s l)
    (taken : s.step l = some t) : Provided t := by
  have idle : ∀ {c : Capture β} {caller : CallerPc}, c.Sized → c.config = s.capture.config →
      caller ≠ .reading → Provided { s with capture := c, caller } :=
    fun sized config away => h.besides sized config away h.buffers
  cases step_moves taken with
  | tick elapsed => exact ⟨h.sized, h.buffers, h.reading, h.provided⟩
  | callback delivery => exact ⟨h.sized.same rfl rfl, h.buffers, h.reading, h.provided⟩
  | thread i input th th' c at_ moved =>
    have config := CaptureThread.moves_config moved
    obtain ⟨sized, buffer⟩ :=
      CaptureThread.moves_sized h.sized (h.buffers th (List.mem_of_getElem? at_)) moved
    refine ⟨sized, fun th'' among => ?_, h.reading, config ▸ h.provided⟩
    obtain old | rfl := List.mem_or_eq_of_mem_set among
    · exact (h.buffers th'' old).trans (congrArg Config.frameBytes config.symm)
    · exact buffer
  | read args r free entered =>
    simp only [step, free, if_true, Option.map_eq_some_iff] at taken
    obtain ⟨r, called, same⟩ := taken
    cases same
    unfold Reader.call at called
    split at called
    · cases called
      exact ⟨h.sized, h.buffers, fun _ => rfl, truthful⟩
    · cases called
  | reads c r at_ stepped =>
    have moved := Reader.step_moves stepped
    have config := Reader.moves_config moved
    obtain ⟨sized, provided⟩ := Reader.moves_sized h.sized h.provided moved
    refine ⟨sized, config ▸ h.buffers, fun reading => ?_, provided⟩
    cases idle : r.isIdle with
    | false => rfl
    | true =>
      dsimp only at reading
      rw [idle, if_pos rfl] at reading
      cases reading
  | connect env control status at_ made =>
    unfold connected
    split
    · exact idle (h.sized.same rfl rfl) rfl (by rintro ⟨⟩)
    · exact h.besides (h.sized.same rfl rfl) rfl (by rintro ⟨⟩) h.buffers
  | resolve defaultSink monitor found at_ answer =>
    obtain ⟨control, _ | target⟩ := found
    · exact idle (h.sized.same rfl rfl) rfl (by rintro ⟨⟩)
    · exact idle (h.sized.same rfl rfl) rfl (by rintro ⟨⟩)
  | spawn at_ unused =>
    refine h.besides (h.sized.same rfl rfl) rfl (by rintro ⟨⟩) fun th among => ?_
    obtain old | new := List.mem_append.mp among
    · exact h.buffers th old
    · rw [List.mem_singleton.mp new]
      exact List.length_replicate
  | close at_ =>
    exact idle (h.sized.queue (FrameQueue.close_wellFormed h.sized.wellFormed) rfl) rfl (by rintro ⟨⟩)
  | stop free => exact h.besides h.sized rfl (by rintro ⟨⟩) h.buffers
  | retreat stopping control at_ down =>
    exact h.besides (h.sized.same rfl rfl) rfl (by rintro ⟨⟩) h.buffers
  | disconnect stopping control at_ down =>
    exact h.besides (h.sized.same rfl rfl) rfl (by rintro ⟨⟩) h.buffers
  | pass at_ unused =>
    refine idle h.sized rfl ?_
    split <;> rintro ⟨⟩
  | abandon until_ at_ late =>
    refine idle (h.sized.same rfl rfl) rfl ?_
    split <;> rintro ⟨⟩
  | join i at_ used finished =>
    refine idle (h.sized.same rfl rfl) rfl ?_
    split <;> rintro ⟨⟩
  | start | refuse | begin | crash | overwrite | wait | see =>
    exact idle h.sized rfl (by rintro ⟨⟩)
  | publish | arm | raise | request | lower =>
    exact idle (h.sized.same rfl rfl) rfl (by rintro ⟨⟩)

/-- Whatever a caller and the threads it has started do, each pop, push and
silence has the memory it needs: a read in progress can take its next step, and
so can a thread that is about to push. -/
theorem memory_safe [Zero β] (run : Steps.Reach step Truthful Roomy s) :
    (s.caller = .reading → (s.step .run).isSome = true) ∧
      ∀ i t, s.threads[i]? = some t → t.pc = .pushing →
        (s.step (.thread i .run)).isSome = true := by
  have safe : Provided s := by
    apply Steps.Reach.invariant Provided ?_ ?_ run
    · intro s roomy
      exact roomy_provided roomy
    · intro s l t _ safe truthful taken
      exact step_provided safe truthful taken
  constructor
  · intro at_
    have stepped : (s.reader.step s.capture s.clock).isSome = true :=
      Reader.step_defined safe.sized safe.provided (safe.reading at_)
    simp only [step, Lifetime.run, at_, Option.isSome_map]
    exact stepped
  · intro i t at_ pushing
    have buffer := safe.buffers t (List.mem_of_getElem? at_)
    have stepped : (t.step s.capture s.clock .run).isSome = true :=
      CaptureThread.push_defined safe.sized buffer pushing
    simp only [step, at_, Option.bind_some, Option.isSome_map]
    exact stepped

end

theorem small_roomy : Roomy small := ⟨_, _, smallHandle_created, by decide, rfl⟩

/-- A call just entered, with room for one frame. -/
theorem memory_safe_once : ∃ s : Lifetime UInt8,
    Steps.Reach step Truthful Roomy s ∧ s.caller = .reading ∧ (s.step .run).isSome = true := by
  have truthful : Steps.Meets step Truthful small
      (startWell ++ [.read ⟨some [7, 7], 1, none, 0⟩]) := by decide +kernel
  have run := Steps.Reach.exec (.start small_roomy) truthful rfl
  exact ⟨_, run, rfl, (memory_safe run).1 rfl⟩

end Lifetime
end WebAudioCapture
