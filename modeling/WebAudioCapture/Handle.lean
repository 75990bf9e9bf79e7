import WebAudioCapture.Control
import WebAudioCapture.Mic

/-!
# `weba_capture`

The handle of `capture.cpp`, its resolved configuration and its creation.
Clock readings and time points count nanoseconds, durations microseconds, as
in the source.
-/

namespace WebAudioCapture

def defaultSampleRate : UInt32 := 48000
def defaultChannels : UInt32 := 2
def defaultFrameSamples : UInt32 := 960
def defaultQueueFrames : UInt32 := 100
def defaultSinkRecheckMs : UInt32 := 1000

/-- `kReinitDelay` and `kJoinTimeout`, in milliseconds. -/
def reinitDelay : Int := 1000
def joinTimeout : Int := 3000

def microsecond : Int := 1000
def millisecond : Int := 1000000

/-- `duration_cast` from nanoseconds to microseconds truncates. -/
def toMicroseconds (ns : Int) : Int := ns.tdiv microsecond

/-- `frame_period`, in microseconds. -/
def framePeriod (frameSamples sampleRate : UInt32) : Int :=
  (frameSamples.toNat * 1000000 / sampleRate.toNat : Nat)

/-- The configuration of a handle, with its defaults resolved. -/
structure Config where
  sampleRate : UInt32 := defaultSampleRate
  channels : UInt32 := defaultChannels
  frameSamples : UInt32 := defaultFrameSamples
  format : SampleFormat := .f32le
  requestedSink : String := ""
  queueFrames : UInt32 := defaultQueueFrames
  fixedRate : Bool := true
  sinkRecheckMs : UInt32 := defaultSinkRecheckMs
  deriving DecidableEq, Repr

/-- `weba_config_defaults`. -/
def configDefaults : WebaConfig :=
  { sampleRate := defaultSampleRate, channels := defaultChannels, format := .f32le
    frameSamples := defaultFrameSamples, sink := none, ringFrames := defaultQueueFrames
    fixedRate := 1, sinkRecheckMs := defaultSinkRecheckMs }

def orDefault (value default : UInt32) : UInt32 := if value ≠ 0 then value else default

namespace Config

/-- The configuration `create` applies; none is a null pointer. -/
def resolve : Option WebaConfig → Config
  | none => {}
  | some cfg =>
    { sampleRate := orDefault cfg.sampleRate defaultSampleRate
      channels := orDefault cfg.channels defaultChannels
      frameSamples := orDefault cfg.frameSamples defaultFrameSamples
      format := cfg.format
      requestedSink := cfg.sink.getD ""
      queueFrames := orDefault cfg.ringFrames defaultQueueFrames
      fixedRate := cfg.fixedRate ≠ 0
      sinkRecheckMs := orDefault cfg.sinkRecheckMs defaultSinkRecheckMs }

def bytesPerSample : SampleFormat → Nat
  | .s16le => 2
  | .f32le | .s32le => 4
  | .other _ => 0

/-- `frame_bytes`. -/
def frameBytes (config : Config) : Nat :=
  sizeT (sizeT (config.frameSamples.toNat * config.channels.toNat) * bytesPerSample config.format)

/-- The period of a frame, in nanoseconds. -/
def period (config : Config) : Int :=
  framePeriod config.frameSamples config.sampleRate * microsecond

end Config

theorem Config.bytesPerSample_le (format : SampleFormat) : bytesPerSample format ≤ 4 := by
  unfold bytesPerSample
  split <;> decide

theorem channelsSupported_le {channels : UInt32} (h : channelsSupported channels = true) :
    channels.toNat ≤ 8 := by
  simp only [channelsSupported, Bool.or_eq_true, beq_iff_eq] at h
  obtain ((one | two) | six) | eight := h
  · rw [one]; decide
  · rw [two]; decide
  · rw [six]; decide
  · rw [eight]; decide

/-- With at most eight channels, a frame has less than 2^37 bytes. -/
theorem Config.size_lt {config : Config} (h : channelsSupported config.channels = true) :
    config.frameSamples.toNat * config.channels.toNat < 2 ^ 64 ∧
      config.frameSamples.toNat * config.channels.toNat * bytesPerSample config.format < 2 ^ 64 := by
  have samples := config.frameSamples.toNat_lt
  have row : config.frameSamples.toNat * config.channels.toNat ≤ 2 ^ 32 * 8 :=
    Nat.mul_le_mul (Nat.le_of_lt samples) (channelsSupported_le h)
  have all : config.frameSamples.toNat * config.channels.toNat * bytesPerSample config.format ≤
      2 ^ 32 * 8 * 4 := Nat.mul_le_mul row (bytesPerSample_le _)
  omega

theorem Config.frameBytes_eq {config : Config} (h : channelsSupported config.channels = true) :
    config.frameBytes =
      config.frameSamples.toNat * config.channels.toNat * bytesPerSample config.format := by
  obtain ⟨row, all⟩ := size_lt h
  rw [frameBytes, sizeT_of_lt row, sizeT_of_lt all]

/-- What the capture thread opens its streams with. -/
def Config.micFormat (config : Config) : MicFormat :=
  { sampleRate := config.sampleRate, channels := config.channels
    format := config.format, frameSamples := config.frameSamples }

/-- `weba_capture`. The mutexes and condition variables are in how its
functions are cut into steps; `thread` is the joinable capture thread. -/
structure Capture (β : Type) where
  config : Config
  currentMonitor : String := ""
  nextSinkCheck : Int := 0
  control : Control := {}
  queue : FrameQueue β := {}
  thread : Option Nat := none
  running : Bool := false
  stopRequested : Bool := false
  pendingFlags : FrameFlags := 0
  formatInfo : FormatInfo := {}
  error : String := ""
  nextDeadline : Int := 0
  deadlineValid : Bool := false
  threadAbandoned : Bool := false
  deriving DecidableEq, Repr

namespace Capture

variable {β : Type}

def setError (c : Capture β) (message : String) : Capture β := { c with error := message }

/-- What `snprintf` leaves in a field of 256 bytes. -/
def nameBytes (name : String) : List UInt8 :=
  (name.toUTF8.toList.takeWhile (· ≠ 0)).take 255

def publishFormat (c : Capture β) (target : Target) : Capture β :=
  { c with
    formatInfo :=
      { sampleRate := c.config.sampleRate, channels := c.config.channels
        frameSamples := c.config.frameSamples, format := c.config.format
        sinkName := nameBytes target.sink, monitorName := nameBytes target.monitor } }

/-- `pending_flags.fetch_or` with the flags of a failure or a reopen. -/
def raiseReopen (c : Capture β) : Capture β :=
  { c with pendingFlags := c.pendingFlags ||| reopenFlags }

def supportedFormat (format : SampleFormat) : Bool :=
  format == .f32le || format == .s16le || format == .s32le

/-- `weba_capture_create`: the status and what is stored in `*out`. `out` is
whether that pointer is given, `memory` whether the handle can be allocated,
`text` whether the sink's name can be copied; an empty one takes no memory. -/
def create [Zero β] (alloc : Allocator) (memory text : Bool) (cfg : Option WebaConfig)
    (out : Bool) : Except Exception (Status × Option (Capture β)) :=
  if !out then .ok (.errInval, none)
  else if !memory then .ok (.errNomem, none)
  else
    let config := Config.resolve cfg
    if !text && !config.requestedSink.isEmpty then .error .badAlloc
    else if config.sampleRate = 0 ∨ config.frameSamples = 0 ∨ config.channels = 0 then
      .ok (.errInval, none)
    else if !channelsSupported config.channels then .ok (.errFormat, none)
    else if !supportedFormat config.format then .ok (.errFormat, none)
    else
      match FrameQueue.init alloc config.frameBytes config.queueFrames.toNat ({} : FrameQueue β) with
      | .ok (true, queue) => .ok (.ok, some { config, queue })
      | .ok (false, _) => .ok (.errNomem, none)
      | .error e => .error e

/-- A handle `create` has just returned. -/
def Created [Zero β] (c : Capture β) : Prop :=
  ∃ alloc memory text cfg, create alloc memory text cfg true = .ok (.ok, some c)

/-- What `create` has checked and done when it returns a handle. -/
theorem create_inv [Zero β] {alloc : Allocator} {memory text out : Bool} {cfg : Option WebaConfig}
    {c : Capture β} (made : create alloc memory text cfg out = .ok (.ok, some c)) :
    ∃ queue, c = { config := Config.resolve cfg, queue } ∧ c.config.sampleRate ≠ 0 ∧
      c.config.frameSamples ≠ 0 ∧ channelsSupported c.config.channels = true ∧
      supportedFormat c.config.format = true ∧
      FrameQueue.init alloc c.config.frameBytes c.config.queueFrames.toNat ({} : FrameQueue β) =
        .ok (true, queue) := by
  unfold create at made
  dsimp only at made
  repeat' split at made
  all_goals cases made
  rename_i nonzero channels format _ _ given
  refine ⟨_, rfl, ?_, ?_, ?_, ?_, given⟩
  · exact fun zero => nonzero (.inl zero)
  · exact fun zero => nonzero (.inr (.inl zero))
  · simpa using channels
  · simpa using format

/-- A new handle is its configuration and an empty queue. -/
theorem Created.shape [Zero β] {c : Capture β} (h : Created c) :
    ∃ storage, c = { config := c.config, queue := { storage, slotBytes := c.config.frameBytes,
                                                    capacity := max c.config.queueFrames.toNat 1 } } ∧
      0 < c.config.frameBytes ∧ c.config.sampleRate ≠ 0 ∧ c.config.frameSamples ≠ 0 := by
  obtain ⟨alloc, memory, text, cfg, made⟩ := h
  obtain ⟨queue, rfl, rate, samples, _, _, given⟩ := create_inv made
  obtain ⟨positive, shape, -⟩ := FrameQueue.init_ok given
  refine ⟨queue.storage, ?_, positive, rate, samples⟩
  rw [← shape]

/-- A configuration `create` accepts. -/
theorem Created.accepted [Zero β] {c : Capture β} (h : Created c) :
    channelsSupported c.config.channels = true ∧ supportedFormat c.config.format = true := by
  obtain ⟨alloc, memory, text, cfg, made⟩ := h
  obtain ⟨_, _, _, _, channels, format, _⟩ := create_inv made
  exact ⟨channels, format⟩

theorem Created.storage_lt [Zero β] {c : Capture β} (h : Created c) :
    c.queue.storage.length < 2 ^ 63 := by
  obtain ⟨alloc, memory, text, cfg, made⟩ := h
  obtain ⟨queue, rfl, _, _, _, _, given⟩ := create_inv made
  exact (FrameQueue.init_ok given).2.2.2

/-- The size of a frame does not wrap. -/
theorem Created.frameBytes_eq [Zero β] {c : Capture β} (h : Created c) :
    c.config.frameBytes =
      c.config.frameSamples.toNat * c.config.channels.toNat * Config.bytesPerSample c.config.format :=
  Config.frameBytes_eq h.accepted.1

end Capture

/-- A new fixed-rate handle with frames of one sample, a queue of two and a
pinned sink. -/
def smallHandle : Capture UInt8 :=
  { config := { channels := 1, frameSamples := 1, format := .s16le, requestedSink := "s"
                queueFrames := 2 }
    queue := { storage := [0, 0, 0, 0], slotBytes := 2, capacity := 2 } }

theorem smallHandle_created : Capture.Created smallHandle :=
  ⟨⟨2 ^ 63 - 1, fun _ => true, by decide⟩, true, true,
    some { channels := 1, frameSamples := 1, format := .s16le, sink := some "s", ringFrames := 2
           fixedRate := 1 }, rfl⟩

end WebAudioCapture
