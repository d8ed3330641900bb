import LadoFlow.Protocol.FrameDecoder
import LadoFlow.Protocol.Telemetry
import LadoFlow.Android.DisplaySession
import LadoFlow.Host.InputInjector
import LadoFlow.Host.Runtime
import LadoFlow.Host.UsbInbound
import LadoFlow.Host.DisplayConnection
import LadoFlow.Android.MouseOrder
import LadoFlow.Android.H264FrameGate
import LadoFlow.System.Agreement
import LadoFlow.System.Pairing
import LadoFlow.Transport.MuxOrder
import LadoFlow.Transport.QueueInvariant
import LadoFlow.Transport.MuxConservation
import LadoFlow.Transport.TcpFifo
import LadoFlow.Android.AdmissionChain
import LadoFlow.Android.DecoderAccounting
import LadoFlow.Android.SessionFailure
import LadoFlow.Android.FirstOutput
import LadoFlow.Android.GenerationTelemetry
import LadoFlow.Android.SurfaceReadiness
import LadoFlow.Android.ConnectionStart
import LadoFlow.Android.InputController
import LadoFlow.System.KeyStream
import LadoFlow.System.NegotiatedInput
import LadoFlow.Host.UsbAccessory
import LadoFlow.Android.PairingWindow
import LadoFlow.Android.TetherTransport
import LadoFlow.Android.SurfaceBuffer
import LadoFlow.Media.PresentationOrder
import LadoFlow.Host.RecoveryTelemetry
import LadoFlow.Host.LoopbackLedger
import LadoFlow.Host.WorkerSlot
import LadoFlow.Core.SessionHistory
import LadoFlow.Android.H264Grammar
import LadoFlow.Android.H264GateLaw
import LadoFlow.Host.AccessUnit
import LadoFlow.System.AccessUnit
import LadoFlow.Android.Reconfiguration
import LadoFlow.System.CapabilityEnvelope
import LadoFlow.System.PairingPreface
import LadoFlow.Windows.SetupHistory
import LadoFlow.Media.PacerLaw
import LadoFlow.Media.DispatchSafety
import LadoFlow.Host.CapturePacing
import LadoFlow.System.MediaTimeline
import LadoFlow.Host.ModeSelection
import LadoFlow.Host.CoordinateLaw
import LadoFlow.Host.InputMirror
import LadoFlow.System.PairingCode
import LadoFlow.Core.Quality
import LadoFlow.Android.ReconnectPolicy
import LadoFlow.Android.LedgerLanes
import LadoFlow.Host.LoopbackLockstep
import LadoFlow.Media.TimelineLaw
import LadoFlow.Windows.DisplayServiceLaw
import LadoFlow.Host.DiscoveryLaw
import LadoFlow.Android.AccessoryRecovery
import LadoFlow.Android.WiredTransport
import LadoFlow.Android.SurfaceLease
import LadoFlow.Windows.DisplayController
import LadoFlow.Host.VirtualDisplay
import LadoFlow.Windows.ControllerText
import LadoFlow.System.VirtualDisplay
import LadoFlow.Host.HardwareEncoder
import LadoFlow.Host.EncoderLockstep
import LadoFlow.Android.GateStream
import LadoFlow.Framework.Aligned
import LadoFlow.System.VideoPath
import LadoFlow.Windows.SwapChain
import LadoFlow.Windows.SwapChainLaw
import LadoFlow.Transport.Aoa
import LadoFlow.System.AccessoryMode
import LadoFlow.Host.UsbDiscovery
import LadoFlow.Host.UsbDiscoveryLaw
import LadoFlow.Host.UsbManager
import LadoFlow.Host.UsbManagerLaw
import LadoFlow.Host.UsbLinkTruth
import LadoFlow.Framework.Spacing
import LadoFlow.Host.UsbRecovery
import LadoFlow.Host.UsbRecoveryLaw
import LadoFlow.Host.DisplaySources
import LadoFlow.Host.DisplayAlignment
import LadoFlow.Host.DisplayAlignmentLaw
import LadoFlow.Framework.Decimal
import LadoFlow.Host.TetherEndpoint
import LadoFlow.Host.TetherEndpointLaw
import LadoFlow.Android.UsbTetherNetwork
import LadoFlow.System.TetherEndpoint
import LadoFlow.Android.IncrementalFrameDecoder
import LadoFlow.Android.UsbIoSession
import LadoFlow.Android.UsbIoSessionLaw
import LadoFlow.System.DuplexLink
