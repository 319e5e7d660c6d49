import LoRaRadio.Config.Types
import LoRaRadio.Library.CircularMemory

/-
  The SX1280 as the driver header documents it: the part of
  the chip that the commands of the radio node can reach.

  The chip answers one SPI transfer at a time and changes on
  its own only through `ChipEvent`s, which the environment
  places between transfers.  The bytes last given to each
  command are kept as they came; every parameter the chip
  acts on is read from them.

  Main declarations:
    * `RadioCommands`
    * `Chip.transfer`
    * `Chip.react`
    * `Chip.air`
-/

------------------------------------------------------------
-- Words and Interrupt Masks
------------------------------------------------------------

namespace LoRaRadio

/- The upper byte of a 16-bit word. -/
def hiByte
    (w : UInt16) : UInt8 :=
  (w >>> 8).toUInt8

/- The lower byte of a 16-bit word. -/
def loByte
    (w : UInt16) : UInt8 :=
  w.toUInt8

/- The word with the given bytes. -/
def word
    (hi lo : UInt8) : UInt16 :=
  (hi.toUInt16 <<< 8) ||| lo.toUInt16

theorem word_hiByte_loByte
    (w : UInt16) :
    word (hiByte w) (loByte w) = w := by
  apply UInt16.toBitVec_inj.mp
  simp only [word, hiByte, loByte, UInt16.toBitVec_or,
    UInt16.toBitVec_shiftLeft, UInt8.toBitVec_toUInt16,
    UInt16.toBitVec_toUInt8, UInt16.toBitVec_shiftRight]
  ext i hBit
  simp only [BitVec.getElem_or]
  by_cases hLow : i < 8
  · simp [hLow, BitVec.getLsbD_eq_getElem hBit]
  · have hShift : 8 + (i - 8) = i := by omega
    have hSmall : i - 8 < 8 := by omega
    simp [hLow, hShift, hSmall,
      BitVec.getLsbD_eq_getElem hBit]

/- Interrupt bits, `RadioIrqMasks_t`. -/
namespace Irq

def txDone : UInt16 := 0x0001
def rxDone : UInt16 := 0x0002
def syncwordValid : UInt16 := 0x0004
def syncwordError : UInt16 := 0x0008
def headerValid : UInt16 := 0x0010
def headerError : UInt16 := 0x0020
def crcError : UInt16 := 0x0040
def rangingSlaveResponseDone : UInt16 := 0x0080
def rangingSlaveRequestDiscarded : UInt16 := 0x0100
def rangingMasterResultValid : UInt16 := 0x0200
def rangingMasterTimeout : UInt16 := 0x0400
def rangingSlaveRequestValid : UInt16 := 0x0800
def cadDone : UInt16 := 0x1000
def cadDetected : UInt16 := 0x2000
def rxTxTimeout : UInt16 := 0x4000
def radioAll : UInt16 := 0xFFFF

/- `( irqRegs & mask ) == mask` -/
def has
    (irqRegs mask : UInt16) : Bool :=
  irqRegs &&& mask == mask

end Irq

end LoRaRadio

------------------------------------------------------------
-- Commands
------------------------------------------------------------

namespace LoRaRadio

/- The commands of `RadioCommands_t` the node issues. -/
inductive RadioCommands
  | getStatus
  | writeRegister
  | readRegister
  | writeBuffer
  | readBuffer
  | setSleep
  | setStandby
  | setTx
  | setRx
  | setPacketType
  | setRfFrequency
  | setTxParams
  | setBufferBaseAddress
  | setModulationParams
  | setPacketParams
  | getRxBufferStatus
  | getPacketStatus
  | setDioIrqParams
  | getIrqStatus
  | clrIrqStatus
  | setRegulatorMode
  | setAutoFs
  | setLongPreamble
  | setRangingRole
deriving DecidableEq, Repr

namespace RadioCommands

/- The opcode of a command. -/
def code : RadioCommands → UInt8
| .getStatus => 0xC0
| .writeRegister => 0x18
| .readRegister => 0x19
| .writeBuffer => 0x1A
| .readBuffer => 0x1B
| .setSleep => 0x84
| .setStandby => 0x80
| .setTx => 0x83
| .setRx => 0x82
| .setPacketType => 0x8A
| .setRfFrequency => 0x86
| .setTxParams => 0x8E
| .setBufferBaseAddress => 0x8F
| .setModulationParams => 0x8B
| .setPacketParams => 0x8C
| .getRxBufferStatus => 0x17
| .getPacketStatus => 0x1D
| .setDioIrqParams => 0x8D
| .getIrqStatus => 0x15
| .clrIrqStatus => 0x97
| .setRegulatorMode => 0x96
| .setAutoFs => 0x9E
| .setLongPreamble => 0x9B
| .setRangingRole => 0xA3

def all : List RadioCommands :=
  [.getStatus, .writeRegister, .readRegister, .writeBuffer,
    .readBuffer, .setSleep, .setStandby, .setTx, .setRx,
    .setPacketType, .setRfFrequency, .setTxParams,
    .setBufferBaseAddress, .setModulationParams,
    .setPacketParams, .getRxBufferStatus, .getPacketStatus,
    .setDioIrqParams, .getIrqStatus, .clrIrqStatus,
    .setRegulatorMode, .setAutoFs, .setLongPreamble,
    .setRangingRole]

/- The command with the given opcode. -/
def ofCode?
    (b : UInt8) : Option RadioCommands :=
  all.find? fun command => command.code == b

@[simp] theorem ofCode?_code
    (command : RadioCommands) :
    ofCode? command.code = some command := by
  cases command <;> rfl

end RadioCommands

/- Register addresses the node's commands use. -/
namespace Reg

def lrPacketParams : UInt16 := 0x903
def lrPayloadLength : UInt16 := 0x901
def lnaRegime : UInt16 := 0x0891
def enableManualGainControl : UInt16 := 0x089F
def demodDetection : UInt16 := 0x0895
def manualGainValue : UInt16 := 0x089E

end Reg

end LoRaRadio

------------------------------------------------------------
-- Chip State
------------------------------------------------------------

namespace LoRaRadio

/-
  What the chip is doing.  `rx count` keeps the period count
  of the `SET_RX` command that started it.
-/
inductive ChipMode
  | sleep
  | standby
  | tx
  | rx (count : UInt16)
deriving DecidableEq, Repr

/- What happened to the data buffer and the transmitter. -/
inductive ChipTrace
  | writeBuffer (offset : UInt8) (bytes : List UInt8)
  | setTx (packet : List UInt8)
  | txEnd
deriving DecidableEq, Repr

/- The data buffer has cells. -/
instance neZero_bufferSize : NeZero (256 : Nat) :=
  ⟨by decide⟩

structure Chip where
  /- The bytes last given to each command. -/
  cmd : RadioCommands → List UInt8 := fun _ => []
  buffer : CircularMemory 256 UInt8 := fun _ => 0
  reg : UInt16 → UInt8 := fun _ => 0
  /- The registers as a reset leaves them. -/
  powerOn : UInt16 → UInt8 := fun _ => 0
  irq : UInt16 := 0
  mode : ChipMode := .standby
  /- Length and start of the packet received last. -/
  rxLength : UInt8 := 0
  rxStart : UInt8 := 0
  /- Signal strength and quality bytes of that packet. -/
  rssi : UInt8 := 0
  snr : UInt8 := 0
  trace : List ChipTrace := []

/-
  What the chip does on its own between transfers.  `raise`
  lets any bits appear in the interrupt word, also such as
  are not enabled.
-/
inductive ChipEvent
  | txDone
  | timeout
  | reception
      (start : UInt8)
      (payload : List UInt8)
      (rssi snr : UInt8)
  | raise (bits : UInt16)
deriving DecidableEq, Repr

namespace Chip

/- The interrupts `SET_DIOIRQPARAMS` enabled. -/
def irqMask
    (c : Chip) : UInt16 :=
  match c.cmd .setDioIrqParams with
  | hi :: lo :: _ => word hi lo
  | _ => 0

/- The header mode of the last `SET_PACKETPARAMS`. -/
def headerType
    (c : Chip) : UInt8 :=
  match c.cmd .setPacketParams with
  | _ :: headerType :: _ => headerType
  | _ => 0

/- `PayloadLength` of the last `SET_PACKETPARAMS`. -/
def payloadLength
    (c : Chip) : UInt8 :=
  match c.cmd .setPacketParams with
  | _ :: _ :: payloadLength :: _ => payloadLength
  | _ => 0

def txBaseAddress
    (c : Chip) : UInt8 :=
  match c.cmd .setBufferBaseAddress with
  | txBase :: _ => txBase
  | _ => 0

def raise
    (bits : UInt16)
    (c : Chip) : Chip :=
  { c with irq := c.irq ||| (bits &&& c.irqMask) }

/- The packet a `SET_TX` command would transmit now. -/
def outgoing
    (c : Chip) : List UInt8 :=
  c.buffer.read c.txBaseAddress.toFin c.payloadLength.toNat

/- The packets put on the air so far. -/
def air
    (c : Chip) : List (List UInt8) :=
  c.trace.filterMap fun
    | .setTx packet => some packet
    | _ => none

/-
  The chip after an event.  A transmission ends with
  `TX_DONE` or a timeout; a reception outside continuous
  mode, or a receive timeout, ends in standby.
-/
def react
    (event : ChipEvent)
    (c : Chip) : Chip :=
  match event, c.mode with
  | .txDone, .tx =>
      raise Irq.txDone
        { c with
          mode := .standby
          trace := c.trace ++ [.txEnd] }
  | .timeout, .tx =>
      raise Irq.rxTxTimeout
        { c with
          mode := .standby
          trace := c.trace ++ [.txEnd] }
  | .timeout, .rx count =>
      if count = 0xFFFF then
        c
      else
        raise Irq.rxTxTimeout { c with mode := .standby }
  | .reception start payload rssi snr, .rx count =>
      if payload.length ≤ 255 then
        raise Irq.rxDone
          { c with
            buffer := c.buffer.write start.toFin payload
            rxLength := UInt8.ofNat payload.length
            rxStart := start
            rssi := rssi
            snr := snr
            mode :=
              if count = 0xFFFF then .rx count
              else .standby }
      else
        c
  | .raise bits, _ => { c with irq := c.irq ||| bits }
  | _, _ => c

/- The chip after the events the environment placed. -/
def reacts
    (events : List ChipEvent)
    (c : Chip) : Chip :=
  events.foldl (fun c event => react event c) c

/- The chip when its reset line goes low. -/
def reset
    (c : Chip) : Chip :=
  { c with
    cmd := fun _ => []
    reg := c.powerOn
    irq := 0
    mode := .standby }

/- The value a register reads as. -/
def readReg
    (c : Chip)
    (address : UInt16) : UInt8 :=
  if address = Reg.lrPacketParams then
    c.headerType
  else if address = Reg.lrPayloadLength then
    c.rxLength
  else
    c.reg address

/- Consecutive registers from an address on. -/
def readRegs
    (c : Chip)
    (address : UInt16)
    (count : Nat) : List UInt8 :=
  (List.range count).map fun i =>
    c.readReg (address + UInt16.ofNat i)

def writeReg
    (c : Chip)
    (address : UInt16)
    (value : UInt8) : Chip :=
  { c with
    reg := fun a => if a = address then value else c.reg a }

def writeRegs
    (c : Chip)
    (address : UInt16) :
    List UInt8 → Chip
| [] => c
| value :: values =>
    writeRegs (c.writeReg address value) (address + 1)
      values

/- The chip after a command with the given parameters. -/
def command
    (c : Chip)
    (op : RadioCommands)
    (args : List UInt8) : Chip :=
  let kept :=
    { c with
      cmd := fun op' => if op' = op then args else c.cmd op' }
  match op, args with
  | .setSleep, _ => { kept with mode := .sleep }
  | .setStandby, _ => { kept with mode := .standby }
  | .setTx, _ =>
      { kept with
        mode := .tx
        trace := c.trace ++ [.setTx c.outgoing] }
  | .setRx, [_, hi, lo] =>
      { kept with mode := .rx (word hi lo) }
  | .clrIrqStatus, [hi, lo] =>
      { kept with irq := c.irq &&& ~~~ word hi lo }
  | _, _ => kept

/-
  One SPI transfer: the chip afterwards and the bytes
  clocked out while `out` was clocked in.
-/
def transfer
    (c : Chip)
    (out : List UInt8) : Chip × List UInt8 :=
  match out with
  | [] => (c, [])
  | op :: body =>
      match RadioCommands.ofCode? op, body with
      | some .writeRegister, hi :: lo :: values =>
          (c.writeRegs (word hi lo) values,
            List.replicate out.length 0)
      | some .readRegister, hi :: lo :: rest =>
          (c, [0, 0, 0, 0] ++
            c.readRegs (word hi lo) (rest.length - 1))
      | some .writeBuffer, offset :: bytes =>
          ({ c with
              buffer := c.buffer.write offset.toFin bytes
              trace :=
                c.trace ++ [.writeBuffer offset bytes] },
            List.replicate out.length 0)
      | some .readBuffer, offset :: rest =>
          (c, [0, 0, 0] ++
            c.buffer.read offset.toFin (rest.length - 1))
      | some .getStatus, _ | some .writeRegister, _
      | some .readRegister, _ | some .writeBuffer, _
      | some .readBuffer, _ =>
          (c, List.replicate out.length 0)
      | some .getIrqStatus, _ =>
          (c, [0, 0, hiByte c.irq, loByte c.irq])
      | some .getRxBufferStatus, _ =>
          (c, [0, 0, c.rxLength, c.rxStart])
      | some .getPacketStatus, _ =>
          (c, [0, 0, c.rssi, c.snr, 0, 0, 0])
      | some op, args =>
          (c.command op args,
            List.replicate out.length 0)
      | none, _ => (c, List.replicate out.length 0)

end Chip

end LoRaRadio

------------------------------------------------------------
-- What Events Leave Alone
------------------------------------------------------------

namespace LoRaRadio

namespace Chip

variable (c : Chip)

@[simp] theorem cmd_raise
    (bits : UInt16) :
    (c.raise bits).cmd = c.cmd := rfl

/-
  An event changes nothing, raises interrupts, or ends what
  the chip is doing; a reception may also leave it in
  continuous mode.
-/
theorem react_cases
    {P : Chip → Prop}
    (event : ChipEvent)
    (hSame : P c)
    (hRaise :
      ∀ bits, event = .raise bits →
        P { c with irq := c.irq ||| bits })
    (hEnd :
      ∀ bits, c.mode = .tx →
        P (raise bits
          { c with
            mode := .standby
            trace := c.trace ++ [.txEnd] }))
    (hTimeout :
      ∀ count, c.mode = .rx count →
        P (raise Irq.rxTxTimeout { c with mode := .standby }))
    (hReception :
      ∀ count buffer rxLength rxStart rssi snr,
        c.mode = .rx count →
        P (raise Irq.rxDone
          { c with
            buffer := buffer
            rxLength := rxLength
            rxStart := rxStart
            rssi := rssi
            snr := snr
            mode :=
              if count = 0xFFFF then .rx count
              else .standby })) :
    P (c.react event) := by
  unfold react
  cases event with
  | txDone =>
      cases hMode : c.mode with
      | tx => exact hEnd _ hMode
      | _ => exact hSame
  | timeout =>
      cases hMode : c.mode with
      | tx => exact hEnd _ hMode
      | rx count =>
          change P (if count = 0xFFFF then c else raise _ _)
          by_cases hContinuous : count = 0xFFFF
          · rwa [if_pos hContinuous]
          · rw [if_neg hContinuous]
            exact hTimeout count hMode
      | _ => exact hSame
  | reception start payload rssi snr =>
      cases hMode : c.mode with
      | rx count =>
          change
            P (if payload.length ≤ 255 then raise _ _ else c)
          by_cases hFits : payload.length ≤ 255
          · rw [if_pos hFits]
            exact hReception count _ _ _ _ _ hMode
          · rwa [if_neg hFits]
      | _ => exact hSame
  | raise bits => exact hRaise bits rfl

@[simp] theorem cmd_react
    (event : ChipEvent) :
    (c.react event).cmd = c.cmd := by
  apply react_cases (P := fun c' => c'.cmd = c.cmd) c event <;>
    intros <;> rfl

@[simp] theorem reg_react
    (event : ChipEvent) :
    (c.react event).reg = c.reg := by
  apply react_cases (P := fun c' => c'.reg = c.reg) c event <;>
    intros <;> rfl

@[simp] theorem powerOn_react
    (event : ChipEvent) :
    (c.react event).powerOn = c.powerOn := by
  apply react_cases (P := fun c' => c'.powerOn = c.powerOn) c event <;>
    intros <;> rfl

@[simp] theorem reacts_nil :
    c.reacts [] = c := rfl

@[simp] theorem reacts_cons
    (event : ChipEvent)
    (events : List ChipEvent) :
    c.reacts (event :: events) =
      (c.react event).reacts events := rfl

/-
  What each of the events preserves, they preserve together.
-/
theorem reacts_induction_of
    {I : Chip → Prop}
    {G : ChipEvent → Prop}
    (hEvent : ∀ c event, G event → I c → I (c.react event))
    (events : List ChipEvent)
    (hAll : ∀ event ∈ events, G event)
    {c : Chip}
    (hStart : I c) :
    I (c.reacts events) := by
  induction events generalizing c with
  | nil => exact hStart
  | cons event events ih =>
      have hHere := hAll event List.mem_cons_self
      apply ih
      · exact fun event' hMem =>
          hAll event' (List.mem_cons_of_mem _ hMem)
      · exact hEvent c event hHere hStart

theorem reacts_induction
    {I : Chip → Prop}
    (hEvent : ∀ c event, I c → I (c.react event))
    (events : List ChipEvent)
    {c : Chip}
    (hStart : I c) :
    I (c.reacts events) :=
  reacts_induction_of (G := fun _ => True)
    (fun c event _ => hEvent c event) events
    (fun _ _ => trivial) hStart

@[simp] theorem cmd_reacts
    (events : List ChipEvent) :
    (c.reacts events).cmd = c.cmd :=
  reacts_induction (I := fun c' => c'.cmd = c.cmd)
    (fun c' event hCmd => (cmd_react c' event).trans hCmd)
    events rfl

@[simp] theorem reg_reacts
    (events : List ChipEvent) :
    (c.reacts events).reg = c.reg :=
  reacts_induction (I := fun c' => c'.reg = c.reg)
    (fun c' event hReg => (reg_react c' event).trans hReg)
    events rfl

@[simp] theorem powerOn_reacts
    (events : List ChipEvent) :
    (c.reacts events).powerOn = c.powerOn :=
  reacts_induction (I := fun c' => c'.powerOn = c.powerOn)
    (fun c' event hKept =>
      (powerOn_react c' event).trans hKept)
    events rfl

/- Whether the chip is in receive mode. -/
def InRx
    (c : Chip) : Prop :=
  ∃ count, c.mode = .rx count

/-
  Outside receive mode events do not start a reception and
  do not touch the data buffer.
-/
theorem react_of_not_inRx
    (event : ChipEvent)
    (hMode : ¬ c.InRx) :
    ¬ (c.react event).InRx ∧
      (c.react event).buffer = c.buffer := by
  have hNot : ∀ count, c.mode ≠ .rx count :=
    fun count hEq => hMode ⟨count, hEq⟩
  apply react_cases
    (P := fun c' => ¬ c'.InRx ∧ c'.buffer = c.buffer) c event
  · exact ⟨hMode, rfl⟩
  · exact fun _ _ => ⟨hMode, rfl⟩
  · intro bits _
    refine ⟨?_, rfl⟩
    rintro ⟨count, hEq⟩
    cases hEq
  · exact fun count hEq => absurd hEq (hNot count)
  · intro count _ _ _ _ _ hEq
    exact absurd hEq (hNot count)

theorem reacts_of_not_inRx
    (events : List ChipEvent)
    (hMode : ¬ c.InRx) :
    ¬ (c.reacts events).InRx ∧
      (c.reacts events).buffer = c.buffer :=
  reacts_induction
    (I := fun c' => ¬ c'.InRx ∧ c'.buffer = c.buffer)
    (fun c' event hInv =>
      have hStep := react_of_not_inRx c' event hInv.1
      ⟨hStep.1, hStep.2.trans hInv.2⟩)
    events ⟨hMode, rfl⟩

/- Events never put a packet on the air. -/
@[simp] theorem air_react
    (event : ChipEvent) :
    (c.react event).air = c.air := by
  apply react_cases (P := fun c' => c'.air = c.air) c event <;>
    intros <;> simp [air, raise]

@[simp] theorem air_reacts
    (events : List ChipEvent) :
    (c.reacts events).air = c.air :=
  reacts_induction (I := fun c' => c'.air = c.air)
    (fun c' event hAir => (air_react c' event).trans hAir)
    events rfl

end Chip

end LoRaRadio

------------------------------------------------------------
-- Transfers the Driver Makes
------------------------------------------------------------

namespace LoRaRadio

namespace Chip

variable (c : Chip)

/- The commands that only read. -/
def isReading : RadioCommands → Bool
| .getStatus | .readRegister | .readBuffer
| .getRxBufferStatus | .getPacketStatus
| .getIrqStatus => true
| _ => false

/-
  The commands the chip answers by keeping their parameters
  and acting on them.
-/
def isCommand
    (op : RadioCommands) : Bool :=
  !isReading op && op != .writeRegister &&
    op != .writeBuffer

theorem transfer_command
    (op : RadioCommands)
    (args : List UInt8)
    (hCommand : isCommand op = true) :
    (c.transfer (op.code :: args)).1 =
      c.command op args := by
  cases op <;>
    first | rfl | simp [isCommand, isReading] at hCommand

theorem transfer_reading
    (op : RadioCommands)
    (args : List UInt8)
    (hReading : isReading op = true) :
    (c.transfer (op.code :: args)).1 = c := by
  cases op <;>
    first
    | rfl
    | (rcases args with _ | ⟨a, _ | ⟨b, rest⟩⟩ <;> rfl)
    | cases hReading

theorem transfer_writeBuffer
    (offset : UInt8)
    (bytes : List UInt8) :
    (c.transfer
        (RadioCommands.writeBuffer.code :: offset ::
          bytes)).1 =
      { c with
        buffer := c.buffer.write offset.toFin bytes
        trace := c.trace ++ [.writeBuffer offset bytes] } :=
  rfl

theorem transfer_readBuffer
    (offset : UInt8)
    (size : Nat) :
    c.transfer
        (RadioCommands.readBuffer.code :: offset ::
          List.replicate (size + 1) 0) =
      (c, [0, 0, 0] ++ c.buffer.read offset.toFin size) := by
  change (c, [0, 0, 0] ++ c.buffer.read offset.toFin
    ((List.replicate (size + 1) (0 : UInt8)).length - 1)) = _
  simp

theorem transfer_writeRegisters
    (address : UInt16)
    (values : List UInt8) :
    (c.transfer
        (RadioCommands.writeRegister.code ::
          hiByte address :: loByte address :: values)).1 =
      c.writeRegs address values := by
  change c.writeRegs (word (hiByte address) (loByte address))
    values = _
  rw [word_hiByte_loByte]

theorem transfer_readRegisters
    (address : UInt16)
    (size : Nat) :
    c.transfer
        (RadioCommands.readRegister.code ::
          hiByte address :: loByte address ::
          List.replicate (size + 1) 0) =
      (c, [0, 0, 0, 0] ++ c.readRegs address size) := by
  change (c, [0, 0, 0, 0] ++ c.readRegs
    (word (hiByte address) (loByte address))
    ((List.replicate (size + 1) (0 : UInt8)).length - 1)) = _
  rw [word_hiByte_loByte]
  simp

@[simp] theorem cmd_command
    (op op' : RadioCommands)
    (args : List UInt8) :
    (c.command op args).cmd op' =
      if op' = op then args else c.cmd op' := by
  unfold command
  split <;> rfl

@[simp] theorem reg_command
    (op : RadioCommands)
    (args : List UInt8) :
    (c.command op args).reg = c.reg := by
  unfold command
  split <;> rfl

@[simp] theorem powerOn_command
    (op : RadioCommands)
    (args : List UInt8) :
    (c.command op args).powerOn = c.powerOn := by
  unfold command
  split <;> rfl

@[simp] theorem buffer_command
    (op : RadioCommands)
    (args : List UInt8) :
    (c.command op args).buffer = c.buffer := by
  unfold command
  split <;> rfl

/-
  Every transfer reads, writes registers, writes the buffer
  or is a command.
-/
theorem transfer_cases
    {P : Chip → Prop}
    (op : RadioCommands)
    (args : List UInt8)
    (hSame : P c)
    (hRegs :
      op = .writeRegister →
        ∀ address values, P (c.writeRegs address values))
    (hBuffer :
      op = .writeBuffer →
        ∀ offset bytes,
          P { c with
            buffer := c.buffer.write offset bytes
            trace :=
              c.trace ++
                [.writeBuffer (UInt8.ofFin offset) bytes] })
    (hCommand :
      isCommand op = true → P (c.command op args)) :
    P (c.transfer (op.code :: args)).1 := by
  by_cases hOp : isCommand op = true
  · rw [transfer_command c op args hOp]
    exact hCommand hOp
  · by_cases hReading : isReading op = true
    · rw [transfer_reading c op args hReading]
      exact hSame
    · cases op with
      | writeRegister =>
          rcases args with _ | ⟨hi, _ | ⟨lo, values⟩⟩
          · exact hSame
          · exact hSame
          · exact hRegs rfl _ _
      | writeBuffer =>
          rcases args with _ | ⟨offset, bytes⟩
          · exact hSame
          · exact hBuffer rfl _ _
      | _ => simp [isCommand, isReading] at hOp hReading

@[simp] theorem cmd_writeRegs
    (address : UInt16)
    (values : List UInt8) :
    (c.writeRegs address values).cmd = c.cmd := by
  induction values generalizing c address with
  | nil => rfl
  | cons value values ih => exact ih _ _

@[simp] theorem mode_writeRegs
    (address : UInt16)
    (values : List UInt8) :
    (c.writeRegs address values).mode = c.mode := by
  induction values generalizing c address with
  | nil => rfl
  | cons value values ih => exact ih _ _

@[simp] theorem buffer_writeRegs
    (address : UInt16)
    (values : List UInt8) :
    (c.writeRegs address values).buffer = c.buffer := by
  induction values generalizing c address with
  | nil => rfl
  | cons value values ih => exact ih _ _

@[simp] theorem irq_writeRegs
    (address : UInt16)
    (values : List UInt8) :
    (c.writeRegs address values).irq = c.irq := by
  induction values generalizing c address with
  | nil => rfl
  | cons value values ih => exact ih _ _

@[simp] theorem trace_writeRegs
    (address : UInt16)
    (values : List UInt8) :
    (c.writeRegs address values).trace = c.trace := by
  induction values generalizing c address with
  | nil => rfl
  | cons value values ih => exact ih _ _

end Chip

end LoRaRadio
