import WebAudioCapture.Handle
import WebAudioCapture.QueueRefinement

/-!
# Sizes

`weba_capture_create` sizes the queue in `size_t`, and a stream asks for
fragments of one frame in `uint32_t`. Both products are of numbers a caller
chooses, and only one exception of the queue's storage is caught.
-/

namespace WebAudioCapture

variable {β : Type}

namespace Config

/-- The channels and the format `create` accepts. -/
def supported (config : Config) : Bool :=
  channelsSupported config.channels && Capture.supportedFormat config.format

/-- The bytes of a frame, unbounded. -/
def size (config : Config) : Nat :=
  config.frameSamples.toNat * config.channels.toNat * bytesPerSample config.format

/-- The bytes of the queue, unbounded. -/
def queueBytes (config : Config) : Nat := max config.queueFrames.toNat 1 * config.frameBytes

theorem orDefault_ne_zero {value default : UInt32} (h : default ≠ 0) : orDefault value default ≠ 0 := by
  unfold orDefault
  split
  · assumption
  · exact h

/-- Zeros of a configuration are replaced by defaults. -/
theorem resolve_nonzero (cfg : Option WebaConfig) :
    (resolve cfg).sampleRate ≠ 0 ∧ (resolve cfg).frameSamples ≠ 0 ∧ (resolve cfg).channels ≠ 0 := by
  cases cfg with
  | none => decide
  | some cfg =>
    exact ⟨orDefault_ne_zero (by decide), orDefault_ne_zero (by decide),
      orDefault_ne_zero (by decide)⟩

/-- A sample of a supported format takes some bytes. -/
theorem bytesPerSample_pos {format : SampleFormat} (h : Capture.supportedFormat format = true) :
    0 < bytesPerSample format := by
  cases format with
  | other value => simp [Capture.supportedFormat] at h
  | _ => decide

theorem size_pos {config : Config} (samples : config.frameSamples ≠ 0)
    (channels : config.channels ≠ 0) (format : Capture.supportedFormat config.format = true) :
    0 < config.size := by
  have some : ∀ {n : UInt32}, n ≠ 0 → 0 < n.toNat := by
    intro n nonzero
    exact Nat.pos_of_ne_zero fun zero => nonzero (UInt32.toNat.inj zero)
  exact Nat.mul_pos (Nat.mul_pos (some samples) (some channels)) (bytesPerSample_pos format)

theorem frameBytes_ne_zero {cfg : Option WebaConfig} (h : (resolve cfg).supported = true) :
    (resolve cfg).frameBytes ≠ 0 := by
  obtain ⟨_, samples, channels⟩ := resolve_nonzero cfg
  obtain ⟨known, format⟩ := Bool.and_eq_true_iff.mp h
  rw [frameBytes_eq known]
  exact Nat.ne_of_gt (size_pos samples channels format)

end Config

/-! ## Creating a handle -/

namespace Allocator

variable {alloc : Allocator} {count : Nat} {value : β} {storage : List β}

theorem assign_ok (h : alloc.assign count value = .ok storage) :
    count ≤ alloc.maxSize ∧ alloc.available count = true := by
  unfold assign at h
  split at h
  · cases h
  · rename_i within
    split at h
    · rename_i available
      exact ⟨Nat.not_lt.mp within, available⟩
    · cases h

theorem assign_badAlloc (h : alloc.assign count value = .error .badAlloc) :
    count ≤ alloc.maxSize ∧ alloc.available count = false := by
  unfold assign at h
  split at h
  · cases h
  · rename_i within
    split at h
    · cases h
    · rename_i short
      exact ⟨Nat.not_lt.mp within, by simpa using short⟩

theorem assign_lengthError (h : alloc.assign count value = .error .lengthError) :
    alloc.maxSize < count := by
  unfold assign at h
  split at h
  · assumption
  · split at h <;> cases h

end Allocator

namespace Capture

/-- The storage holds every slot, and no operation on the queue leaves it. -/
structure Housed (c : Capture β) : Prop where
  storage : c.queue.storage.length = c.queue.capacity * c.config.frameBytes
  inside : ∀ ops : List (QueueOp β c.config.frameBytes), (c.queue.performAll ops).isSome = true

/-- `create` answers by its status: no exception, a handle exactly with
`WEBA_OK`, and then one whose queue is housed. -/
def Answers (result : Except Exception (Status × Option (Capture β))) : Prop :=
  ∃ status handle, result = .ok (status, handle) ∧ (status ≠ .ok → handle = none) ∧
    (status = .ok → ∃ c, handle = some c ∧ c.Housed)

/-- Nothing is thrown but what is caught, and the size of the queue does not
wrap, unless the memory for what it wraps to is short as well. -/
def Sizable (alloc : Allocator) (memory text : Bool) (cfg : Option WebaConfig) (out : Bool) : Prop :=
  let config := Config.resolve cfg
  out = true → memory = true →
    (text = true ∨ config.requestedSink.isEmpty = true) ∧
    (config.supported = true → sizeT config.queueBytes ≤ alloc.maxSize ∧
      (config.queueBytes < 2 ^ 64 ∨ alloc.available (sizeT config.queueBytes) = false))

/-- A new handle over the storage of its queue. -/
def onStorage (config : Config) (storage : List β) : Capture β :=
  { config
    queue :=
      { storage, slotBytes := config.frameBytes, capacity := max config.queueFrames.toNat 1 } }

/-- What `create` does once it has its handle. -/
theorem create_eq [Zero β] (alloc : Allocator) (text : Bool) (cfg : Option WebaConfig) :
    create (β := β) alloc true text cfg true =
      let config := Config.resolve cfg
      if !text && !config.requestedSink.isEmpty then .error .badAlloc
      else if !config.supported then .ok (.errFormat, none)
      else
        match alloc.assign (sizeT config.queueBytes) (0 : β) with
        | .ok storage =>
          .ok (.ok, some (onStorage config storage))
        | .error .badAlloc => .ok (.errNomem, none)
        | .error .lengthError => .error .lengthError := by
  obtain ⟨rate, samples, channels⟩ := Config.resolve_nonzero cfg
  have given : ¬(!true) = true := by decide
  have nonzero : ¬((Config.resolve cfg).sampleRate = 0 ∨ (Config.resolve cfg).frameSamples = 0 ∨
      (Config.resolve cfg).channels = 0) := by
    rintro (zero | zero | zero)
    · exact rate zero
    · exact samples zero
    · exact channels zero
  simp only [create, if_neg given, if_neg nonzero]
  split
  · rfl
  · cases accepted : (Config.resolve cfg).supported with
    | false =>
      simp only [Bool.not_false, if_true]
      cases known : channelsSupported (Config.resolve cfg).channels with
      | false => simp only [Bool.not_false, if_true]
      | true =>
        rw [Config.supported, known, Bool.true_and] at accepted
        simp only [accepted, Bool.not_true, Bool.not_false, Bool.false_eq_true, if_false, if_true]
    | true =>
      obtain ⟨known, format⟩ := Bool.and_eq_true_iff.mp accepted
      simp only [known, format, Bool.not_true, Bool.false_eq_true, if_false, FrameQueue.init,
        if_neg (Config.frameBytes_ne_zero accepted), Config.queueBytes]
      cases alloc.assign (sizeT (max (Config.resolve cfg).queueFrames.toNat 1 *
        (Config.resolve cfg).frameBytes)) (0 : β) with
      | ok storage => rfl
      | error e => cases e <;> rfl

theorem create_ok [Zero β] {alloc : Allocator} {cfg : Option WebaConfig} {storage : List β}
    (accepted : (Config.resolve cfg).supported = true)
    (given : alloc.assign (sizeT (Config.resolve cfg).queueBytes) (0 : β) = .ok storage) :
    create alloc true true cfg true = .ok (.ok, some (onStorage (Config.resolve cfg) storage)) := by
  rw [create_eq]
  simp only [accepted, given]
  rfl

/-- A refusal by status is an answer. -/
theorem Answers.refused {status : Status} (h : status ≠ .ok) :
    Answers (β := β) (.ok (status, none)) :=
  ⟨status, none, rfl, fun _ => rfl, fun ok => absurd ok h⟩

theorem Answers.of_error {e : Exception} : ¬Answers (β := β) (.error e) := by
  rintro ⟨_, _, ⟨⟩, _⟩

theorem answers_created {c : Capture β} : Answers (.ok (.ok, some c)) ↔ c.Housed := by
  constructor
  · rintro ⟨_, _, same, _, whole⟩
    cases same
    obtain ⟨d, created, housed⟩ := whole rfl
    exact Option.some.inj created ▸ housed
  · intro housed
    exact ⟨.ok, some c, rfl, fun refused => absurd rfl refused, fun _ => ⟨c, rfl, housed⟩⟩

/-- A new handle is housed exactly if the size of its queue did not wrap. -/
theorem housed_iff [Zero β] {alloc : Allocator} {config : Config} {storage : List β}
    (some : config.frameBytes ≠ 0)
    (given : alloc.assign (sizeT config.queueBytes) (0 : β) = .ok storage) :
    (onStorage config storage).Housed ↔ config.queueBytes < 2 ^ 64 := by
  have ready : FrameQueue.init alloc config.frameBytes config.queueFrames.toNat ({} : FrameQueue β) =
      .ok (true, (onStorage config storage).queue) := by
    rw [Config.queueBytes] at given
    simp only [FrameQueue.init, if_neg some, given, onStorage]
  have length : storage.length = sizeT config.queueBytes := (FrameQueue.init_ok ready).2.2.1
  constructor
  · intro housed
    have whole : sizeT config.queueBytes = config.queueBytes := length.symm.trans housed.storage
    rw [← whole]
    exact Nat.mod_lt _ (by decide)
  · intro small
    have whole : storage.length = config.queueBytes := length.trans (sizeT_of_lt small)
    refine ⟨whole, fun ops => ?_⟩
    obtain ⟨q, ran, _⟩ :=
      FrameQueue.refines_drop_oldest alloc _ _ _ _ ready (Nat.le_of_eq whole.symm) ops
    exact Option.isSome_of_eq_some ran

/-- `create` answers by its status, with the queue its configuration asks for,
exactly when nothing is thrown that it does not catch and the size of that
queue does not wrap to one that can be had. -/
theorem create_answers_iff [Zero β] (alloc : Allocator) (memory text : Bool)
    (cfg : Option WebaConfig) (out : Bool) :
    Answers (create (β := β) alloc memory text cfg out) ↔ Sizable alloc memory text cfg out := by
  cases out with
  | false => exact ⟨fun _ => by rintro ⟨⟩, fun _ => .refused (by decide)⟩
  | true =>
    cases memory with
    | false => exact ⟨fun _ _ => by rintro ⟨⟩, fun _ => .refused (by decide)⟩
    | true =>
      rw [create_eq]
      have copied : ¬(!text && !(Config.resolve cfg).requestedSink.isEmpty) = true ↔
          text = true ∨ (Config.resolve cfg).requestedSink.isEmpty = true := by
        cases text <;> simp
      have sizable : Sizable alloc true text cfg true ↔ _ :=
        ⟨fun h => h rfl rfl, fun h _ _ => h⟩
      rw [sizable, ← copied]
      dsimp only
      split
      · rename_i thrown
        exact ⟨fun h => absurd h Answers.of_error, fun h => absurd thrown h.1⟩
      · rename_i kept
        cases accepted : (Config.resolve cfg).supported with
        | false => exact ⟨fun _ => ⟨kept, by rintro ⟨⟩⟩, fun _ => .refused (by decide)⟩
        | true =>
          have some := Config.frameBytes_ne_zero accepted
          rw [Bool.not_true, if_neg Bool.false_ne_true, and_iff_right kept, forall_prop_of_true rfl]
          cases given : alloc.assign (sizeT (Config.resolve cfg).queueBytes) (0 : β) with
          | ok storage =>
            obtain ⟨within, available⟩ := Allocator.assign_ok given
            have full : ¬alloc.available (sizeT (Config.resolve cfg).queueBytes) = false := by
              rw [available]
              decide
            rw [and_iff_right within, or_iff_left full, ← housed_iff some given]
            exact answers_created
          | error e =>
            cases e with
            | badAlloc =>
              obtain ⟨within, short⟩ := Allocator.assign_badAlloc given
              exact ⟨fun _ => ⟨within, .inr short⟩, fun _ => .refused (by decide)⟩
            | lengthError =>
              have beyond := Allocator.assign_lengthError given
              exact ⟨fun h => absurd h Answers.of_error,
                fun h => absurd h.1 (Nat.not_le.mpr beyond)⟩

/-- A queue of 2^64 bytes is created with no storage at all, and one of 2^63
bytes throws what is not caught. -/
theorem create_wraps :
    let roomy : Allocator := ⟨2 ^ 63 - 1, fun _ => true, by decide⟩
    let asked : WebaConfig := { channels := 2, frameSamples := 1073741824, ringFrames := 2147483648 }
    ¬Answers (create (β := UInt8) roomy true true (some asked) true) ∧
      (∃ c : Capture UInt8, create roomy true true (some asked) true = .ok (.ok, some c) ∧
        c.queue.storage = [] ∧ c.queue.capacity * c.queue.slotBytes = 2 ^ 64) ∧
      create (β := UInt8) roomy true true (some { asked with channels := 1 }) true =
        .error .lengthError := by
  intro roomy asked
  have bytes : (Config.resolve (some asked)).queueBytes = 2 ^ 64 := by decide +kernel
  have accepted : (Config.resolve (some asked)).supported = true := by decide
  have given : roomy.assign (sizeT (Config.resolve (some asked)).queueBytes) (0 : UInt8) = .ok [] := by
    rw [bytes]
    rfl
  have created := create_ok accepted given
  refine ⟨fun answers => ?_, ⟨_, created, rfl, bytes⟩, ?_⟩
  · rw [created, answers_created] at answers
    have none : 0 = (Config.resolve (some asked)).queueBytes := answers.storage
    rw [bytes] at none
    cases none
  · have half : (Config.resolve (some { asked with channels := 1 })).queueBytes = 2 ^ 63 := by
      decide +kernel
    have accepted : (Config.resolve (some { asked with channels := 1 })).supported = true := by
      decide
    rw [create_eq]
    simp only [accepted, half]
    rfl

end Capture

/-! ## The size of a frame -/

theorem mapSampleFormat_bytes {format : SampleFormat} {server : PaSampleFormat} {bytes : UInt32}
    (h : mapSampleFormat format = some (server, bytes)) : bytes.toNat = bytesPerSampleOf format := by
  cases format with
  | other value => cases h
  | _ => cases h; rfl

/-- A fragment has as many bytes as `uint32_t` arithmetic says. -/
theorem Mic.openOn_fragsize {monitor : String} {format : MicFormat} {refusal : Option String}
    {mic : Mic} (h : openOn monitor format refusal = .ok mic) : mic.fragsize.toNat =
      format.frameSamples.toNat * format.channels.toNat * bytesPerSampleOf format.format % 2 ^ 32 := by
  unfold openOn at h
  repeat' split at h
  all_goals cases h
  rename_i mapped _ _ _ _
  rw [UInt32.toNat_mul, UInt32.toNat_mul, Nat.mod_mul_mod, mapSampleFormat_bytes mapped]

namespace Config

theorem bytesPerSample_agree (format : SampleFormat) :
    bytesPerSampleOf format = bytesPerSample format := by
  cases format <;> rfl

theorem micFormat_frameBytes (config : Config) : config.micFormat.frameBytes = config.frameBytes := by
  rw [MicFormat.frameBytes, bytesPerSample_agree]
  rfl

end Config

/-- For the handle, for its stream and for the server a frame is as many bytes
as it should be, exactly if these are less than 2^32. -/
theorem frame_sizes_agree_iff [Zero β] {c : Capture β} (created : Capture.Created c)
    {monitor : String} {refusal : Option String} {mic : Mic}
    (opened : Mic.openOn monitor c.config.micFormat refusal = .ok mic) :
    (c.config.frameBytes = c.config.size ∧ c.config.micFormat.frameBytes = c.config.size ∧
      mic.fragsize.toNat = c.config.size) ↔ c.config.size < 2 ^ 32 := by
  have bytes : c.config.frameBytes = c.config.size := created.frameBytes_eq
  have fragment : mic.fragsize.toNat = c.config.size % 2 ^ 32 := by
    rw [Mic.openOn_fragsize opened, Config.bytesPerSample_agree]
    rfl
  constructor
  · rintro ⟨_, _, whole⟩
    rw [← whole]
    exact mic.fragsize.toNat_lt
  · intro small
    exact ⟨bytes, (Config.micFormat_frameBytes _).trans bytes,
      fragment.trans (Nat.mod_eq_of_lt small)⟩

/-- The small handle's frames and fragments have two bytes. -/
theorem frame_sizes_agree_small : ∃ mic, Mic.openOn "m" smallHandle.config.micFormat none = .ok mic ∧
    mic.fragsize.toNat = smallHandle.config.size := by
  obtain ⟨mic, opened⟩ : ∃ mic, Mic.openOn "m" smallHandle.config.micFormat none = .ok mic :=
    ⟨_, rfl⟩
  exact ⟨mic, opened, ((frame_sizes_agree_iff smallHandle_created opened).mpr (by decide)).2.2⟩

/-- Frames of 2^32 bytes are recorded in fragments of none. -/
theorem fragment_wraps : ∃ c : Capture UInt8, Capture.Created c ∧ ∃ mic,
    Mic.openOn "m" c.config.micFormat none = .ok mic ∧ c.config.frameBytes = 2 ^ 32 ∧
      mic.fragsize = 0 := by
  let roomy : Allocator := ⟨2 ^ 63 - 1, fun _ => true, by decide⟩
  let asked : WebaConfig := { channels := 1, frameSamples := 1073741824, ringFrames := 1 }
  have accepted : (Config.resolve (some asked)).supported = true := by decide
  have bytes : (Config.resolve (some asked)).queueBytes = 2 ^ 32 := by decide +kernel
  have given : roomy.assign (sizeT (Config.resolve (some asked)).queueBytes) (0 : UInt8) =
      .ok (List.replicate (sizeT (2 ^ 32)) 0) := by
    rw [bytes]
    rfl
  refine ⟨_, ⟨roomy, true, true, some asked, Capture.create_ok accepted given⟩, ?_⟩
  refine ⟨_, rfl, ?_, ?_⟩ <;> decide +kernel

end WebAudioCapture
