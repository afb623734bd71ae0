import Dcsctp4j.Foundation.NativeFrame
import Dcsctp4j.Foundation.FrameContract
import Dcsctp4j.Foundation.Transition
import Dcsctp4j.Foundation.OwnedCells
import Dcsctp4j.Foundation.ObjectGraph
import Dcsctp4j.Foundation.MachineNumbers
import Dcsctp4j.Foundation.KeyedStore
import Dcsctp4j.Foundation.LockOrder
import Dcsctp4j.Foundation.Selection
import Dcsctp4j.Foundation.Dialogue
import Dcsctp4j.Foundation.PlayedDialogue
import Dcsctp4j.Types
import Dcsctp4j.WrappedObjects
import Dcsctp4j.WrapperCalls
import Dcsctp4j.ExceptionSafety
import Dcsctp4j.CallbackDispatch
import Dcsctp4j.NativeSctpSocket
import Dcsctp4j.BatchSend
import Dcsctp4j.MessageRoundTrip
import Dcsctp4j.LogProxy
import Dcsctp4j.LocalReferences
import Dcsctp4j.LogFilter
import Dcsctp4j.Clock
import Dcsctp4j.ReceivePacket
import Dcsctp4j.TimeoutRelay
import Dcsctp4j.MappedOptions
import Dcsctp4j.OptionsStore
import Dcsctp4j.OptionNumbers
import Dcsctp4j.ConfigurationNumbers
import Dcsctp4j.Metrics
import Dcsctp4j.NativeStreams
import Dcsctp4j.StreamIdentity
import Dcsctp4j.CallbackAnswers
import Dcsctp4j.SocketApi
import Dcsctp4j.BridgeRefinement
import Dcsctp4j.CallFreeSockets
import Dcsctp4j.BridgedApplications
import Dcsctp4j.ConnectedEndpoints
import Dcsctp4j.PacketDelivery
import Dcsctp4j.PacketProgress
import Dcsctp4j.TimeoutExpiry
import Dcsctp4j.NativeLifetime
import Dcsctp4j.LifetimeInvariant
import Dcsctp4j.LifetimeMoves
import Dcsctp4j.LifetimeObjects
import Dcsctp4j.LifetimeSafety
import Dcsctp4j.MonitorOrder
import Dcsctp4j.SocketRetention
import Dcsctp4j.LogProxySteps
import Dcsctp4j.LogProxyInvariant
import Dcsctp4j.LogProxyLifetime
