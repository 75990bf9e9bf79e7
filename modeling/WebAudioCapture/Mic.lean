import WebAudioCapture.Abi
import WebAudioCapture.FrameQueue

/-!
# `mic_t`

A recording stream (`pulse_mic.cpp`): the request it is opened with, and why
opening one fails. Whether the server grants the request is an argument.
-/

namespace WebAudioCapture

/-- `mic_format_t`. -/
structure MicFormat where
  sampleRate : UInt32 := 48000
  channels : UInt32 := 2
  format : SampleFormat := .f32le
  frameSamples : UInt32 := 960
  deriving DecidableEq, Repr

inductive PaSampleFormat where
  | float32le
  | s16le
  | s32le
  deriving DecidableEq, Repr

inductive ChannelPosition where
  | mono
  | frontLeft
  | frontRight
  | frontCenter
  | lfe
  | rearLeft
  | rearRight
  | sideLeft
  | sideRight
  deriving DecidableEq, Repr

def stereoMap : List ChannelPosition := [.frontLeft, .frontRight]

def surround51Map : List ChannelPosition :=
  [.frontLeft, .frontRight, .frontCenter, .lfe, .rearLeft, .rearRight]

def surround71Map : List ChannelPosition :=
  [.frontLeft, .frontRight, .frontCenter, .lfe, .rearLeft, .rearRight, .sideLeft, .sideRight]

/-- `build_channel_map`. -/
def buildChannelMap (channels : UInt32) : Option (List ChannelPosition) :=
  if channels = 1 then some [.mono]
  else if channels = 2 then some stereoMap
  else if channels = 6 then some surround51Map
  else if channels = 8 then some surround71Map
  else none

/-- `map_sample_format`: the server's format and the bytes of a sample. -/
def mapSampleFormat : SampleFormat → Option (PaSampleFormat × UInt32)
  | .f32le => some (.float32le, 4)
  | .s16le => some (.s16le, 2)
  | .s32le => some (.s32le, 4)
  | .other _ => none

/-- `bytes_per_sample_of`. -/
def bytesPerSampleOf : SampleFormat → Nat
  | .s16le => 2
  | .f32le | .s32le => 4
  | .other _ => 0

/-- `channels_supported`. -/
def channelsSupported (channels : UInt32) : Bool :=
  channels == 1 || channels == 2 || channels == 6 || channels == 8

/-- `mic_t::frame_bytes`. -/
def MicFormat.frameBytes (format : MicFormat) : Nat :=
  sizeT (sizeT (format.frameSamples.toNat * format.channels.toNat) *
    bytesPerSampleOf format.format)

/-- `mic_t`: what `pa_simple_new` was asked for. -/
structure Mic where
  source : String
  sampleFormat : PaSampleFormat
  rate : UInt32
  channels : UInt8
  channelMap : List ChannelPosition
  fragsize : UInt32
  deriving DecidableEq, Repr

/-- `mic_t::open`; `refusal` is the server's error, if it has one. -/
def Mic.openOn (monitor : String) (format : MicFormat) (refusal : Option String) :
    Except String Mic :=
  if monitor.isEmpty then .error "empty monitor source name"
  else if !channelsSupported format.channels then
    .error ("unsupported channel count " ++ toString format.channels.toNat ++
      " (expected 1, 2, 6 or 8)")
  else if format.frameSamples = 0 then .error "frame size must not be zero"
  else
    match mapSampleFormat format.format with
    | none => .error "unsupported sample format"
    | some (sampleFormat, bytesPerSample) =>
      match buildChannelMap format.channels with
      | none => .error ("no channel map for " ++ toString format.channels.toNat ++ " channels")
      | some channelMap =>
        match refusal with
        | some strerror => .error ("pa_simple_new() failed: " ++ strerror)
        | none =>
          .ok
            { source := monitor, sampleFormat, rate := format.sampleRate
              channels := format.channels.toUInt8, channelMap
              fragsize := format.frameSamples * format.channels * bytesPerSample }

/-- What `read` says when `pa_simple_read` fails. -/
def Mic.readError (strerror : String) : String := "pa_simple_read() failed: " ++ strerror

/-- A stream records the source it was opened on. -/
theorem Mic.openOn_source {monitor : String} {format : MicFormat} {refusal : Option String}
    {mic : Mic} (h : openOn monitor format refusal = .ok mic) : mic.source = monitor := by
  unfold openOn at h
  repeat' split at h
  all_goals cases h
  rfl

end WebAudioCapture
