import LoRaRadio.Radio.BringUp
import LoRaRadio.Radio.Driver

/-
  `LoRaNode`: a receiving and a transmitting radio, brought
  up together and serviced by polling.

  Each radio object drives a chip of its own.  A node state
  holds the object, the two devices and the kernel; packets
  handed to the receive callback are recorded together with
  the callback they were handed to.

  Main declarations:
    * `NodeState`
    * `configureRadio`
    * `start`, `stop`, `send` and `poll`
-/

------------------------------------------------------------
-- Node State
------------------------------------------------------------

namespace LoRaRadio

structure LoRaNodeRxPacket where
  payload : List UInt8
  rssiDbm : Int8
  snrDb : Int8
deriving DecidableEq, Repr

/-
  `LoRaNode::Impl`.  A receive callback is the number of the
  object it was installed by.
-/
structure LoRaNode where
  config : NodeConfig
  rxCallback : Option Nat := none
  rxRadio : Option LinuxSx1280Radio := none
  txRadio : Option LinuxSx1280Radio := none
  started : Bool := false
deriving DecidableEq, Repr

inductive Side
  | rx
  | tx
deriving DecidableEq, Repr

structure NodeState where
  node : LoRaNode
  rxDevice : Device := {}
  txDevice : Device := {}
  kernel : Kernel := {}
  delivered : List (Nat × LoRaNodeRxPacket) := []

abbrev NodeM :=
  Faulting Fault NodeState

namespace NodeState

def device
    (s : NodeState) : Side → Device
| .rx => s.rxDevice
| .tx => s.txDevice

def setDevice
    (side : Side)
    (d : Device)
    (s : NodeState) : NodeState :=
  match side with
  | .rx => { s with rxDevice := d }
  | .tx => { s with txDevice := d }

def radio
    (s : NodeState) : Side → Option LinuxSx1280Radio
| .rx => s.node.rxRadio
| .tx => s.node.txRadio

def setRadio
    (side : Side)
    (radio : Option LinuxSx1280Radio)
    (s : NodeState) : NodeState :=
  match side with
  | .rx => { s with node := { s.node with rxRadio := radio } }
  | .tx => { s with node := { s.node with txRadio := radio } }

def setKernel
    (k : Kernel)
    (s : NodeState) : NodeState :=
  { s with kernel := k }

def setStarted
    (started : Bool)
    (s : NodeState) : NodeState :=
  { s with node := { s.node with started := started } }

/- Hand a packet to the receive callback, if there is one. -/
def deliver
    (packet : LoRaNodeRxPacket)
    (s : NodeState) : NodeState :=
  match s.node.rxCallback with
  | some owner =>
      { s with delivered := s.delivered ++ [(owner, packet)] }
  | none => s

/- `unique_ptr::reset` -/
def resetRadio
    (side : Side)
    (s : NodeState) : NodeState :=
  match s.radio side with
  | some radio =>
      (s.setKernel (destroy radio s.kernel)).setRadio side none
  | none => s

end NodeState

end LoRaRadio

------------------------------------------------------------
-- Radio Objects of a Node
------------------------------------------------------------

namespace LoRaRadio

open Faulting

/- `std::make_unique<LinuxSx1280Radio>(hw)` -/
def makeRadio
    (side : Side)
    (hw : LinuxSx1280RadioConfig) :
    NodeM LinuxSx1280Radio :=
  mk fun s =>
    let r :=
      exec (construct hw)
        ⟨s.kernel, { config := hw }, s.device side⟩
    (r.1.map fun _ => r.2.radio,
      (s.setKernel r.2.kernel).setDevice side r.2.device)

/- Call a method of a radio that is a local variable. -/
def onLocal
    (side : Side)
    (radio : LinuxSx1280Radio)
    (m : RadioM Unit) : NodeM LinuxSx1280Radio :=
  mk fun s =>
    let r := exec m ⟨radio, s.device side⟩
    (r.1.map fun _ => r.2.radio,
      s.setDevice side r.2.device)

/- Call a method of a radio the node owns. -/
def onOwned
    {α : Type}
    (side : Side)
    (m : RadioM α) : NodeM α :=
  mk fun s =>
    match s.radio side with
    | some radio =>
        let r := exec m ⟨radio, s.device side⟩
        (r.1,
          (s.setDevice side r.2.device).setRadio side
            (some r.2.radio))
    | none => (.error (.assertion "unique_ptr"), s)

/- The destructor of a local radio. -/
def destroyLocal
    (radio : LinuxSx1280Radio) : NodeM Unit :=
  modify fun s => s.setKernel (destroy radio s.kernel)

end LoRaRadio

------------------------------------------------------------
-- Start and Stop
------------------------------------------------------------

namespace LoRaRadio

open Faulting

/-
  The `configure_radio` lambda of `start`, in four groups of
  calls.
-/
def configureModem
    (config : Sx1280Config) : RadioM Unit := do
  setStandby .rc
  setRegulatorMode config.rf.regulatorMode
  setPacketType .lora
  setModulationParams config.lora
  setPacketParams config.lora

def configureCarrier
    (config : Sx1280Config) : RadioM Unit := do
  setRfFrequency config.rf.frequencyHz
  setTxParams config.rf.txPowerDbm config.rf.rampTime
  setBufferBaseAddresses 0x00 0x00

def configureGain
    (runtime : Sx1280RuntimeConfig) : RadioM Unit :=
  if runtime.useManualGain then do
    enableManualGain
    setManualGainValue runtime.manualGainValue
  else
    disableManualGain

def configureRuntime
    (runtime : Sx1280RuntimeConfig) : RadioM Unit := do
  setAutoFs runtime.autoFs
  setLongPreamble runtime.longPreamble
  configureGain runtime
  setLNAGainSetting runtime.lnaSetting

def configureRadio
    (config : Sx1280Config) : RadioM Unit := do
  initRadio
  configureModem config
  configureCarrier config
  configureRuntime config.runtime

/- The interrupts `start` enables. -/
def nodeIrqMask : UInt16 :=
  Irq.txDone ||| Irq.rxDone ||| Irq.rxTxTimeout |||
    Irq.crcError ||| Irq.headerError ||| Irq.headerValid

/- The timeout of the `SET_RX` command. -/
def rxTimeout
    (timeouts : Sx1280TimeoutConfig) : TickTime :=
  if timeouts.continuousRx then
    { timeouts.rxTimeout with periodBaseCount := 0xFFFF }
  else
    timeouts.rxTimeout

/-
  The first half of `start`: two configured radios that are
  local variables.  An exception destroys those that exist.
-/
def bringUp
    (config : NodeConfig) :
    NodeM (LinuxSx1280Radio × LinuxSx1280Radio) := do
  let rx ← makeRadio .rx config.rx.hw
  onThrow
    (do
      let tx ← makeRadio .tx config.tx.hw
      onThrow
        (do
          let rx ← onLocal .rx rx
            (configureRadio config.radio)
          let tx ← onLocal .tx tx
            (configureRadio config.radio)
          return ({ rx with rxDone := true }, tx))
        (destroyLocal tx))
    (destroyLocal rx)

/- The second half of `start`, with the radios moved in. -/
def startRadios
    (config : NodeConfig) : NodeM Unit := do
  onOwned .rx (setDioIrqParams nodeIrqMask nodeIrqMask 0 0)
  onOwned .tx (setDioIrqParams nodeIrqMask 0 0 0)
  onOwned .rx (setRx (rxTimeout config.radio.timeouts))

/- What `stop` does, and the handler of `start`. -/
def NodeState.released
    (s : NodeState) : NodeState :=
  ((s.resetRadio .rx).resetRadio .tx).setStarted false

def start : NodeM Bool := do
  let s ← get
  if s.node.started then
    return true
  tryCatch
    (do
      let (rx, tx) ← bringUp s.node.config
      modify fun s =>
        (s.setRadio .rx (some rx)).setRadio .tx (some tx)
      startRadios s.node.config
      modify (NodeState.setStarted true)
      return true)
    fun _ => do
      modify NodeState.released
      return false

def stop : NodeM Unit :=
  modify NodeState.released

end LoRaRadio

------------------------------------------------------------
-- Send and Poll
------------------------------------------------------------

namespace LoRaRadio

open Faulting

def send
    (payload : List UInt8) : NodeM Bool := do
  let s ← get
  if !s.node.started || s.node.txRadio.isNone then
    return false
  if payload.isEmpty then
    return true
  if payload.length > 0xFF then
    return false
  onOwned .tx
    (sendPayload payload
      s.node.config.radio.timeouts.txTimeout)
  return true

/- The packet the `rxDone` callback reads from the radio. -/
def readPacket : RadioM LoRaNodeRxPacket := do
  let status ← getPacketStatus
  let (length, offset) ← getRxBufferStatus
  let payload ←
    if length > 0 then
      readBuffer offset length.toNat
    else
      pure []
  if status.packetType = .lora then
    return {
      payload
      rssiDbm := Int8.ofInt status.rssiPkt
      snrDb := Int8.ofInt status.snrPkt }
  else
    return { payload, rssiDbm := 0, snrDb := 0 }

/- The `rxDone` callback `start` installs on the RX radio. -/
def rxDone : NodeM Unit := do
  if (← get).node.rxRadio.isNone then
    return
  let packet ← onOwned .rx readPacket
  modify (NodeState.deliver packet)

/-
  One action of the dispatch.  The node sets no callback but
  `rxDone` of the RX radio.
-/
def perform
    (side : Side) : IrqAction → NodeM Unit
| .halPostTx => onOwned side halPostTx
| .halPostRx => onOwned side halPostRx
| .rxDone => do
    match (← get).radio side with
    | some radio => if radio.rxDone then rxDone
    | none => return
| _ => return

/- `ProcessIrqs` of one of the node's radios. -/
def processIrqs
    (side : Side) : NodeM Unit := do
  let (packetType, irqRegs) ← onOwned side processIrqsLocked
  match (← get).radio side with
  | some radio =>
      (processIrqsDispatch packetType radio.operatingMode
        irqRegs).forM (perform side)
  | none => return

/- `if (radio) { radio->ProcessIrqs(); }` -/
def pollRadio
    (side : Side) : NodeM Unit := do
  if ((← get).radio side).isSome then
    processIrqs side

def poll : NodeM Unit := do
  pollRadio .rx
  pollRadio .tx

def setRxCallback
    (owner : Nat) : NodeM Unit :=
  modify fun s =>
    { s with node := { s.node with rxCallback := some owner } }

end LoRaRadio
