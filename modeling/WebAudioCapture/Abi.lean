/-!
# The C ABI's values

Status codes, sample formats, frame flags and the configuration of
`webacapture.h`.
-/

namespace WebAudioCapture

/-- `weba_status`. -/
inductive Status where
  | ok
  | errInval
  | errNomem
  | errPulse
  | errFormat
  | errState
  deriving DecidableEq, Repr

def Status.code : Status → Int
  | .ok => 0
  | .errInval => -1
  | .errNomem => -2
  | .errPulse => -3
  | .errFormat => -4
  | .errState => -5

/-- `weba_sample_format`; a C enumeration can hold other values too. -/
inductive SampleFormat where
  | f32le
  | s16le
  | s32le
  | other (value : Int)
  deriving DecidableEq, Repr

/-- The bitwise or of `WEBA_FRAME_*` flags. -/
abbrev FrameFlags := BitVec 32

def frameDiscontinuity : FrameFlags := 1#32 <<< 0
def frameSilence : FrameFlags := 1#32 <<< 1
def frameUnderrun : FrameFlags := 1#32 <<< 2
def frameReinit : FrameFlags := 1#32 <<< 3

/-- The flags every failure and every reopen raises. -/
def reopenFlags : FrameFlags := frameReinit ||| frameDiscontinuity

def FrameFlags.has (flags bit : FrameFlags) : Bool := flags &&& bit != 0

/-- `weba_config`, with `sink` absent for a null pointer. -/
structure WebaConfig where
  sampleRate : UInt32 := 0
  channels : UInt32 := 0
  format : SampleFormat := .f32le
  frameSamples : UInt32 := 0
  sink : Option String := none
  ringFrames : UInt32 := 0
  fixedRate : Int := 0
  sinkRecheckMs : UInt32 := 0
  deriving DecidableEq, Repr

/-- `weba_format_info`; the names are the bytes before the terminating NUL. -/
structure FormatInfo where
  sampleRate : UInt32 := 0
  channels : UInt32 := 0
  frameSamples : UInt32 := 0
  format : SampleFormat := .f32le
  sinkName : List UInt8 := []
  monitorName : List UInt8 := []
  deriving DecidableEq, Repr

/-- `weba_frame_info`. -/
structure FrameInfo where
  timestampNs : UInt64
  flags : FrameFlags
  droppedFrames : UInt32
  deriving DecidableEq, Repr

end WebAudioCapture
