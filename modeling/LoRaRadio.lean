import LoRaRadio.Library.Lens
import LoRaRadio.Library.Faulting
import LoRaRadio.Library.Runs
import LoRaRadio.Library.CircularMemory
import LoRaRadio.Library.Crc
import LoRaRadio.Library.Scanning
import LoRaRadio.Library.CStrings
import LoRaRadio.Config.Types
import LoRaRadio.Radio.Chip
import LoRaRadio.Radio.Hal
import LoRaRadio.Radio.Driver
import LoRaRadio.Radio.DriverLemmas
import LoRaRadio.Radio.Effects
import LoRaRadio.Radio.Observations
import LoRaRadio.Radio.HalCalls
import LoRaRadio.Radio.BringUp
import LoRaRadio.Radio.BringUpLemmas
import LoRaRadio.Node.LoRaNode
import LoRaRadio.Config.Yaml
import LoRaRadio.Config.WrittenValues
import LoRaRadio.Config.Numbers
import LoRaRadio.Node.NodeLemmas
import LoRaRadio.Node.Start
import LoRaRadio.Node.Releases
import LoRaRadio.Fprime.Buffer
import LoRaRadio.Fprime.BufferManager
import LoRaRadio.Fprime.ApidManager
import LoRaRadio.Fprime.CircularBuffer
import LoRaRadio.Fprime.FrameAccumulator
import LoRaRadio.Fprime.FramePool
import LoRaRadio.ComAdapter.LoRaRadioAdapter
import LoRaRadio.ComAdapter.AdapterLemmas
import LoRaRadio.ComAdapter.Recovery
import LoRaRadio.ComAdapter.Forwarding
import LoRaRadio.Radio.Transmission
import LoRaRadio.Radio.OnAir
import LoRaRadio.Node.Send
import LoRaRadio.ComAdapter.Answers
import LoRaRadio.Fprime.TmFramer
import LoRaRadio.Fprime.Crc16
import LoRaRadio.Fprime.TcFrames
import LoRaRadio.Fprime.TcDeframer
import LoRaRadio.Fprime.SpacePackets
import LoRaRadio.Fprime.ComAggregator
import LoRaRadio.Deployment.FrameSize
import LoRaRadio.Node.Started
import LoRaRadio.Radio.Reception
import LoRaRadio.Node.Listening
import LoRaRadio.ComAdapter.Transmissions
import LoRaRadio.Node.Fidelity
import LoRaRadio.Node.Delivery
import LoRaRadio.ComAdapter.UplinkBuffers
import LoRaRadio.Node.Lifecycle
import LoRaRadio.Node.ReceiveWindow
import LoRaRadio.Config.LastAccepted
import LoRaRadio.Config.WrittenNumbers
import LoRaRadio.Radio.BringUpDevice
import LoRaRadio.Radio.TxEnableLine
import LoRaRadio.Node.Parameters
import LoRaRadio.Node.TxEnable
import LoRaRadio.Node.Amplifier
import LoRaRadio.Node.Threads
import LoRaRadio.ComAdapter.Instances
import LoRaRadio.ComAdapter.Stack
import LoRaRadio.Config.Layout
import LoRaRadio.Config.Tree
