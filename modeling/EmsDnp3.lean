import EmsDnp3.Json.Value
import EmsDnp3.Json.Dump
import EmsDnp3.Json.Extend
import EmsDnp3.Base.Except
import EmsDnp3.Base.Bitmap
import EmsDnp3.Python.TraceRoundTrip
import EmsDnp3.Native.Models
import EmsDnp3.Native.CaptureConfig
import EmsDnp3.Native.CaptureVerdict
import EmsDnp3.System.TraceAgreement
import EmsDnp3.System.CaptureAgreement
import EmsDnp3.Native.UnsolicitedQueue
import EmsDnp3.Native.ReadSuccess
import EmsDnp3.Native.CommandTask
import EmsDnp3.Native.SafetyGate
import EmsDnp3.System.CaptureRequest
import EmsDnp3.Native.EventClasses
import EmsDnp3.System.RangeAgreement
import EmsDnp3.Native.RequestWindow
import EmsDnp3.System.FramingAgreement
import EmsDnp3.System.SoakReconnect
import EmsDnp3.Python.EvidenceChain
import EmsDnp3.Python.TailDisclosure
import EmsDnp3.Python.SecretRedaction
import EmsDnp3.Native.Utf8Agreement
import EmsDnp3.System.GeneratorAgreement
import EmsDnp3.Python.PackageWriter
import EmsDnp3.Python.PytestGating
import EmsDnp3.Python.PerformanceRequests
import EmsDnp3.Python.PerformanceVerdict
import EmsDnp3.Python.SoakVerdict
import EmsDnp3.System.CrcAgreement
import EmsDnp3.System.DepthAgreement
import EmsDnp3.Python.IncidentRetry
import EmsDnp3.Python.UncertainCommands
import EmsDnp3.Base.Runs
import EmsDnp3.Python.CommandResult
import EmsDnp3.Python.ControlCall
import EmsDnp3.Python.ControlLaw
import EmsDnp3.Python.SessionRuns
import EmsDnp3.System.CommandAgreement
