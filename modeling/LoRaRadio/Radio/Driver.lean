import LoRaRadio.Radio.Hal

/-
  The portable SX128x driver: the methods the node calls,
  down to the bytes of each SPI transfer.

  The mutexes make each method, and the first half of
  `ProcessIrqs`, one critical section.  `ProcessIrqs` acts
  on the interrupt word after it has released its lock, so
  it is two definitions here: `processIrqsLocked` reads and
  clears the word, `processIrqsDispatch` lists what is done
  about it.

  Main declarations:
    * `writeCommand` and `readCommand`
    * `sendPayload`, `setTx` and `setRx`
    * `processIrqsLocked` and `processIrqsDispatch`
-/

------------------------------------------------------------
-- Transfers
------------------------------------------------------------

namespace LoRaRadio

open Faulting

def writeCommand
    (opcode : RadioCommands)
    (buffer : List UInt8) : RadioM Unit := do
  waitOnBusy
  let _ ← halSpiTransfer (opcode.code :: buffer)
  if opcode ≠ .setSleep then
    waitOnBusy

def readCommand
    (opcode : RadioCommands)
    (size : Nat) : RadioM (List UInt8) := do
  waitOnBusy
  let buffer ←
    if opcode = .getStatus then do
      let bufIn ← halSpiTransfer [opcode.code, 0, 0]
      pure (bufIn.take 1)
    else do
      let bufIn ← halSpiTransfer
        (opcode.code :: List.replicate (size + 1) 0)
      pure ((bufIn.drop 2).take size)
  waitOnBusy
  return buffer

def writeRegisters
    (address : UInt16)
    (buffer : List UInt8) : RadioM Unit := do
  waitOnBusy
  let _ ← halSpiTransfer
    (RadioCommands.writeRegister.code :: hiByte address ::
      loByte address :: buffer)
  waitOnBusy

def writeRegister
    (address : UInt16)
    (value : UInt8) : RadioM Unit :=
  writeRegisters address [value]

def readRegisters
    (address : UInt16)
    (size : Nat) : RadioM (List UInt8) := do
  waitOnBusy
  let bufIn ← halSpiTransfer
    (RadioCommands.readRegister.code :: hiByte address ::
      loByte address :: List.replicate (size + 1) 0)
  waitOnBusy
  return (bufIn.drop 4).take size

def readRegister
    (address : UInt16) : RadioM UInt8 := do
  let data ← readRegisters address 1
  return data.headD 0

def writeBuffer
    (offset : UInt8)
    (buffer : List UInt8) : RadioM Unit := do
  waitOnBusy
  let _ ← halSpiTransfer
    (RadioCommands.writeBuffer.code :: offset :: buffer)
  waitOnBusy

def readBuffer
    (offset : UInt8)
    (size : Nat) : RadioM (List UInt8) := do
  waitOnBusy
  let bufIn ← halSpiTransfer
    (RadioCommands.readBuffer.code :: offset ::
      List.replicate (size + 1) 0)
  waitOnBusy
  return (bufIn.drop 3).take size

end LoRaRadio

------------------------------------------------------------
-- Reset and Standby
------------------------------------------------------------

namespace LoRaRadio

open Faulting

/- `RadioRegsInit` has no entries. -/
def radioRegsInit : List (UInt16 × UInt8) := []

def setRegistersDefault : RadioM Unit :=
  radioRegsInit.forM fun register =>
    writeRegister register.1 register.2

def reset : RadioM Unit := do
  halGpioWrite .reset 0
  halGpioWrite .reset 1

def wakeup : RadioM Unit := do
  let _ ← halSpiTransfer [RadioCommands.getStatus.code, 0]
  waitOnBusy

/- `SX128x::Init` -/
def initRadio : RadioM Unit := do
  reset
  wakeup
  setRegistersDefault

inductive RadioStandbyModes
  | rc
  | xosc
deriving DecidableEq, Repr

def RadioStandbyModes.code : RadioStandbyModes → UInt8
| .rc => 0x00
| .xosc => 0x01

def setStandby
    (standbyConfig : RadioStandbyModes) : RadioM Unit := do
  writeCommand .setStandby [standbyConfig.code]
  modify
    (RadioState.setOperatingMode
      (if standbyConfig = .rc then .stdbyRc else .stdbyXosc))

end LoRaRadio

------------------------------------------------------------
-- Parameters
------------------------------------------------------------

namespace LoRaRadio

open Faulting

def setRegulatorMode
    (mode : RadioRegulatorModes) : RadioM Unit :=
  writeCommand .setRegulatorMode [mode.code]

/- The driver keeps its copy before the chip has it. -/
def setPacketType
    (packetType : RadioPacketTypes) : RadioM Unit := do
  modify (RadioState.setPacketType packetType)
  writeCommand .setPacketType [packetType.code]

/-
  The parameter bytes of `SET_MODULATIONPARAMS` for a LoRa
  configuration.
-/
def modulationBytes
    (lora : Sx1280LoRaConfig) : List UInt8 :=
  [lora.spreadingFactor.code, lora.bandwidth.code,
    lora.codingRate.code]

/-
  `SetModulationParams(to_modulation_params())`: the packet
  type of these parameters is always LoRa.
-/
def setModulationParams
    (lora : Sx1280LoRaConfig) : RadioM Unit := do
  if (← get).radio.packetType ≠ .lora then
    setPacketType .lora
  writeCommand .setModulationParams (modulationBytes lora)

/-
  The parameter bytes of `SET_PACKETPARAMS` for a LoRa
  configuration.
-/
def packetBytes
    (lora : Sx1280LoRaConfig) : List UInt8 :=
  [lora.preambleLength, lora.headerType.code,
    lora.payloadLength, lora.crc.code, lora.iqMode.code,
    0, 0]

/- `SetPacketParams(to_packet_params())` -/
def setPacketParams
    (lora : Sx1280LoRaConfig) : RadioM Unit := do
  if (← get).radio.packetType ≠ .lora then
    setPacketType .lora
  writeCommand .setPacketParams (packetBytes lora)

/-
  `(uint32_t)((double)rfFrequency / FREQ_STEP)` with step
  `52000000 / 2^18`.  The quotient is below `2^25` and, when
  it is no integer, more than `2^-18` away from one, so the
  rounding of the division does not change its floor.
-/
def frequencySteps
    (rfFrequency : UInt32) : Nat :=
  rfFrequency.toNat * 2 ^ 18 / 52000000

def setRfFrequency
    (rfFrequency : UInt32) : RadioM Unit :=
  let freq := frequencySteps rfFrequency
  writeCommand .setRfFrequency
    [UInt8.ofNat (freq / 2 ^ 16), UInt8.ofNat (freq / 2 ^ 8),
      UInt8.ofNat freq]

def setTxParams
    (power : Int8)
    (rampTime : RadioRampTimes) : RadioM Unit :=
  writeCommand .setTxParams
    [UInt8.ofInt (power.toInt + 18), rampTime.code]

def setBufferBaseAddresses
    (txBaseAddress rxBaseAddress : UInt8) : RadioM Unit :=
  writeCommand .setBufferBaseAddress
    [txBaseAddress, rxBaseAddress]

def setAutoFs
    (enable : Bool) : RadioM Unit :=
  writeCommand .setAutoFs [enable.toUInt8]

def setLongPreamble
    (enable : Bool) : RadioM Unit :=
  writeCommand .setLongPreamble [enable.toUInt8]

/-
  Read a register and write back a function of its value.
-/
def updateRegister
    (address : UInt16)
    (f : UInt8 → UInt8) : RadioM Unit := do
  let value ← readRegister address
  writeRegister address (f value)

def enableManualGain : RadioM Unit := do
  updateRegister Reg.enableManualGainControl (· ||| 0x80)
  updateRegister Reg.demodDetection (· &&& 0xFE)

def disableManualGain : RadioM Unit := do
  updateRegister Reg.enableManualGainControl
    (· &&& ~~~ 0x80)
  updateRegister Reg.demodDetection (· ||| ~~~ 0xFE)

def setManualGainValue
    (gain : UInt8) : RadioM Unit :=
  updateRegister Reg.manualGainValue
    fun value => (value &&& 0xF0) ||| gain

def setLNAGainSetting
    (lnaSetting : RadioLnaSettings) : RadioM Unit :=
  match lnaSetting with
  | .highSensitivityMode =>
      updateRegister Reg.lnaRegime (· ||| 0xC0)
  | .lowPowerMode =>
      updateRegister Reg.lnaRegime (· &&& ~~~ 0xC0)

end LoRaRadio

------------------------------------------------------------
-- Interrupts
------------------------------------------------------------

namespace LoRaRadio

open Faulting

def setDioIrqParams
    (irqMask dio1Mask dio2Mask dio3Mask : UInt16) :
    RadioM Unit :=
  writeCommand .setDioIrqParams
    [hiByte irqMask, loByte irqMask,
      hiByte dio1Mask, loByte dio1Mask,
      hiByte dio2Mask, loByte dio2Mask,
      hiByte dio3Mask, loByte dio3Mask]

def getIrqStatus : RadioM UInt16 := do
  let irqStatus ← readCommand .getIrqStatus 2
  return word (irqStatus.getD 0 0) (irqStatus.getD 1 0)

def clearIrqStatus
    (irqMask : UInt16) : RadioM Unit :=
  writeCommand .clrIrqStatus [hiByte irqMask, loByte irqMask]

end LoRaRadio

------------------------------------------------------------
-- Transmission and Reception
------------------------------------------------------------

namespace LoRaRadio

open Faulting

inductive RadioRangingRoles
  | slave
  | master
deriving DecidableEq, Repr

def RadioRangingRoles.code : RadioRangingRoles → UInt8
| .slave => 0x00
| .master => 0x01

def setRangingRole
    (role : RadioRangingRoles) : RadioM Unit :=
  writeCommand .setRangingRole [role.code]

/-
  The calls a radio doing ranging operations needs prior to
  `SET_TX` and `SET_RX`.
-/
def setRoleWhenRanging
    (role : RadioRangingRoles) : RadioM Unit := do
  if (← get).radio.packetType = .ranging then
    setRangingRole role

/- The parameter bytes of `SET_TX` and `SET_RX`. -/
def tickBytes
    (timeout : TickTime) : List UInt8 :=
  [timeout.periodBase.code, hiByte timeout.periodBaseCount,
    loByte timeout.periodBaseCount]

def setTx
    (timeout : TickTime) : RadioM Unit := do
  clearIrqStatus Irq.radioAll
  setRoleWhenRanging .master
  halPostRx
  halPreTx
  writeCommand .setTx (tickBytes timeout)
  modify (RadioState.setOperatingMode .tx)

def setRx
    (timeout : TickTime) : RadioM Unit := do
  clearIrqStatus Irq.radioAll
  setRoleWhenRanging .slave
  halPostTx
  halPreRx
  writeCommand .setRx (tickBytes timeout)
  modify (RadioState.setOperatingMode .rx)

def setPayload
    (buffer : List UInt8)
    (offset : UInt8) : RadioM Unit :=
  writeBuffer offset buffer

/- `SendPayload` with its default offset zero. -/
def sendPayload
    (payload : List UInt8)
    (timeout : TickTime) : RadioM Unit := do
  setPayload payload 0
  setTx timeout

/- Whether packets have the fixed LoRa header. -/
def hasFixedHeader
    (packetType : RadioPacketTypes) : RadioM Bool :=
  if packetType = .lora then do
    let params ← readRegister Reg.lrPacketParams
    return params >>> 7 == 1
  else
    return false

/-
  The length of the packet received last.  With the fixed
  header it is read from a register.
-/
def rxPayloadLength
    (packetType : RadioPacketTypes)
    (fixedHeader : Bool)
    (reported : UInt8) : RadioM UInt8 :=
  if fixedHeader then
    readRegister Reg.lrPayloadLength
  else if packetType = .ble then
    return reported + 2
  else
    return reported

/- Length and start of the packet received last. -/
def getRxBufferStatus : RadioM (UInt8 × UInt8) := do
  let status ← readCommand .getRxBufferStatus 2
  let s ← get
  let packetType := s.radio.packetType
  let fixedHeader ← hasFixedHeader packetType
  let length ←
    rxPayloadLength packetType fixedHeader (status.getD 0 0)
  return (length, status.getD 1 0)

/- The fields of `PacketStatus_t` the node reads. -/
structure PacketStatus where
  packetType : RadioPacketTypes
  rssiPkt : Int
  snrPkt : Int
deriving DecidableEq, Repr

def decodePacketStatus
    (packetType : RadioPacketTypes)
    (status : List UInt8) : PacketStatus :=
  let rssi := (status.getD 0 0).toNat
  let snr := (status.getD 1 0).toNat
  match packetType with
  | .lora | .ranging =>
      { packetType
        rssiPkt := -(Int.tdiv rssi 2)
        snrPkt :=
          if snr < 128 then Int.tdiv snr 4
          else Int.tdiv (snr - 256) 4 }
  | _ => { packetType, rssiPkt := 0, snrPkt := 0 }

def getPacketStatus : RadioM PacketStatus := do
  let status ← readCommand .getPacketStatus 5
  let s ← get
  return decodePacketStatus s.radio.packetType status

end LoRaRadio

------------------------------------------------------------
-- Interrupt Processing
------------------------------------------------------------

namespace LoRaRadio

open Faulting

/-
  The part of `ProcessIrqs` under the lock: the packet type
  and the interrupt word, which it then clears.
-/
def processIrqsLocked :
    RadioM (RadioPacketTypes × UInt16) := do
  let packetType := (← get).radio.packetType
  let irqRegs ← getIrqStatus
  clearIrqStatus Irq.radioAll
  return (packetType, irqRegs)

inductive IrqErrorCode
  | headerError
  | syncwordError
  | crcError
  | rangingOnLoraError
deriving DecidableEq, Repr

inductive IrqRangingCode
  | slaveError
  | slaveValid
  | masterError
  | masterValid
deriving DecidableEq, Repr

/- What `ProcessIrqs` does about an interrupt. -/
inductive IrqAction
  | halPostTx
  | halPostRx
  | txDone
  | rxDone
  | rxSyncWordDone
  | rxHeaderDone
  | txTimeout
  | rxTimeout
  | rxError (errCode : IrqErrorCode)
  | rangingDone (val : IrqRangingCode)
  | cadDone (cadFlag : Bool)
deriving DecidableEq, Repr

/- The actions of one `if` of the dispatch. -/
def onIrq
    (irqRegs mask : UInt16)
    (actions : List IrqAction) : List IrqAction :=
  if Irq.has irqRegs mask then actions else []

/-
  The `switch` of `ProcessIrqs`: what is done, in order, for
  a packet type, an operating mode and an interrupt word.
-/
def processIrqsDispatch
    (packetType : RadioPacketTypes)
    (operatingMode : RadioOperatingModes)
    (irqRegs : UInt16) : List IrqAction :=
  match packetType, operatingMode with
  | .gfsk, .rx | .flrc, .rx | .ble, .rx =>
      onIrq irqRegs Irq.rxDone
        (if Irq.has irqRegs Irq.crcError then
          [.rxError .crcError]
        else if Irq.has irqRegs Irq.syncwordError then
          [.rxError .syncwordError]
        else
          [.rxDone]) ++
      onIrq irqRegs Irq.syncwordValid [.rxSyncWordDone] ++
      onIrq irqRegs Irq.syncwordError
        [.rxError .syncwordError] ++
      onIrq irqRegs Irq.rxTxTimeout
        [.halPostRx, .rxTimeout] ++
      onIrq irqRegs Irq.txDone [.halPostTx, .txDone]
  | .gfsk, .tx | .flrc, .tx | .ble, .tx =>
      onIrq irqRegs Irq.txDone [.halPostTx, .txDone] ++
      onIrq irqRegs Irq.rxTxTimeout [.halPostTx, .txTimeout]
  | .lora, .rx =>
      onIrq irqRegs Irq.rxDone
        (if Irq.has irqRegs Irq.crcError then
          [.rxError .crcError]
        else
          [.rxDone]) ++
      onIrq irqRegs Irq.headerValid [.rxHeaderDone] ++
      onIrq irqRegs Irq.headerError
        [.rxError .headerError] ++
      onIrq irqRegs Irq.rxTxTimeout
        [.halPostRx, .rxTimeout] ++
      onIrq irqRegs Irq.rangingSlaveRequestDiscarded
        [.rxError .rangingOnLoraError]
  | .lora, .tx =>
      onIrq irqRegs Irq.txDone [.halPostTx, .txDone] ++
      onIrq irqRegs Irq.rxTxTimeout [.halPostTx, .txTimeout]
  | .lora, .cad =>
      if Irq.has irqRegs Irq.cadDone then
        [.cadDone (Irq.has irqRegs Irq.cadDetected)]
      else
        onIrq irqRegs Irq.rxTxTimeout [.halPostRx, .rxTimeout]
  | .ranging, .rx =>
      onIrq irqRegs Irq.rangingSlaveRequestDiscarded
        [.rangingDone .slaveError] ++
      onIrq irqRegs Irq.rangingSlaveRequestValid
        [.rangingDone .slaveValid] ++
      onIrq irqRegs Irq.rangingSlaveResponseDone
        [.rangingDone .slaveValid] ++
      onIrq irqRegs Irq.rxTxTimeout
        [.rangingDone .slaveError] ++
      onIrq irqRegs Irq.headerValid [.rxHeaderDone] ++
      onIrq irqRegs Irq.headerError
        [.rxError .headerError]
  | .ranging, .tx =>
      onIrq irqRegs Irq.rangingMasterTimeout
        [.halPostTx, .rangingDone .masterError] ++
      onIrq irqRegs Irq.rangingMasterResultValid
        [.halPostTx, .rangingDone .masterValid]
  | _, _ => []

end LoRaRadio
