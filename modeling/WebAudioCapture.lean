import WebAudioCapture.Lib.Steps
import WebAudioCapture.Lib.Progress
import WebAudioCapture.Lib.Blocks
import WebAudioCapture.Lib.DropOldest
import WebAudioCapture.Lib.Pacer
import WebAudioCapture.Lib.Monitor
import WebAudioCapture.Lib.Spacing
import WebAudioCapture.Lib.Fields
import WebAudioCapture.Abi
import WebAudioCapture.FrameQueue
import WebAudioCapture.QueueRefinement
import WebAudioCapture.GapAccounting
import WebAudioCapture.Query
import WebAudioCapture.AlarmLifetime
import WebAudioCapture.Control
import WebAudioCapture.ControlRestart
import WebAudioCapture.Mic
import WebAudioCapture.Handle
import WebAudioCapture.ReadFrame
import WebAudioCapture.Cadence
import WebAudioCapture.CaptureLoop
import WebAudioCapture.Session
import WebAudioCapture.SessionEffects
import WebAudioCapture.SessionInvariants
import WebAudioCapture.ReopenCount
import WebAudioCapture.ReopenTold
import WebAudioCapture.Backlog
import WebAudioCapture.Lifetime
import WebAudioCapture.CleanStart
import WebAudioCapture.OpenOnce
import WebAudioCapture.Consumer
import WebAudioCapture.EmptyRead
import WebAudioCapture.DropReport
import WebAudioCapture.Conservation
import WebAudioCapture.StreamTarget
import WebAudioCapture.Destroy
import WebAudioCapture.ReportCause
import WebAudioCapture.Recovery
import WebAudioCapture.StopReader
import WebAudioCapture.JoinWait
import WebAudioCapture.JoinTimeout
import WebAudioCapture.Resolve
import WebAudioCapture.Sizes
import WebAudioCapture.Patience
import WebAudioCapture.Drift
import WebAudioCapture.VirtualClock
import WebAudioCapture.DeliveryPaths
import WebAudioCapture.ClockRange
import WebAudioCapture.SessionCadence
import WebAudioCapture.Waits
import WebAudioCapture.Restraint
import WebAudioCapture.MemorySafety
import WebAudioCapture.WindDown
import WebAudioCapture.Reports
import WebAudioCapture.Accessors
import WebAudioCapture.Messages
import WebAudioCapture.Stopped
import WebAudioCapture.Wav
import WebAudioCapture.Holes
import WebAudioCapture.Dump
