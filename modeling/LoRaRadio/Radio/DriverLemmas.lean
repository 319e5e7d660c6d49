import LoRaRadio.Radio.Driver

/-
  The states the driver's methods leave when they return.

  Main declarations:
    * `RadioState.afterRead` and `RadioState.commanded`
    * `writeCommand_ok` and its relatives
    * `post_setTxEnable`
-/

------------------------------------------------------------
-- State After a Call
------------------------------------------------------------

namespace LoRaRadio

namespace RadioState

variable (s : RadioState)

@[simp] theorem radio_afterCall :
    s.afterCall.radio = s.radio := rfl

@[simp] theorem chip_afterCall :
    s.afterCall.device.chip =
      s.device.chip.reacts s.nextEvent.chip := rfl

@[simp] theorem txEnable_afterCall :
    s.afterCall.device.txEnable = s.device.txEnable := rfl

@[simp] theorem hal_afterCall :
    s.afterCall.device.hal = s.device.hal := rfl

@[simp] theorem clock_afterCall :
    s.afterCall.device.clock = s.device.clock + 1 := rfl

@[simp] theorem radio_setChip
    (chip : Chip) :
    (s.setChip chip).radio = s.radio := rfl

@[simp] theorem chip_setChip
    (chip : Chip) :
    (s.setChip chip).device.chip = chip := rfl

@[simp] theorem txEnable_setChip
    (chip : Chip) :
    (s.setChip chip).device.txEnable =
      s.device.txEnable := rfl

@[simp] theorem hal_setChip
    (chip : Chip) :
    (s.setChip chip).device.hal = s.device.hal := rfl

@[simp] theorem clock_setChip
    (chip : Chip) :
    (s.setChip chip).device.clock = s.device.clock := rfl

@[simp] theorem radio_setTxEnableLine
    (value : GpiodLineValue) :
    (s.setTxEnableLine value).radio = s.radio := rfl

@[simp] theorem chip_setTxEnableLine
    (value : GpiodLineValue) :
    (s.setTxEnableLine value).device.chip =
      s.device.chip := rfl

@[simp] theorem txEnable_setTxEnableLine
    (value : GpiodLineValue) :
    (s.setTxEnableLine value).device.txEnable =
      some value := rfl

@[simp] theorem hal_setTxEnableLine
    (value : GpiodLineValue) :
    (s.setTxEnableLine value).device.hal =
      s.device.hal := rfl

@[simp] theorem clock_setTxEnableLine
    (value : GpiodLineValue) :
    (s.setTxEnableLine value).device.clock =
      s.device.clock := rfl

@[simp] theorem device_setOperatingMode
    (mode : RadioOperatingModes) :
    (s.setOperatingMode mode).device = s.device := rfl

@[simp] theorem operatingMode_setOperatingMode
    (mode : RadioOperatingModes) :
    (s.setOperatingMode mode).radio.operatingMode =
      mode := rfl

@[simp] theorem packetType_setOperatingMode
    (mode : RadioOperatingModes) :
    (s.setOperatingMode mode).radio.packetType =
      s.radio.packetType := rfl

@[simp] theorem config_setOperatingMode
    (mode : RadioOperatingModes) :
    (s.setOperatingMode mode).radio.config =
      s.radio.config := rfl

@[simp] theorem device_setPacketType
    (packetType : RadioPacketTypes) :
    (s.setPacketType packetType).device = s.device := rfl

@[simp] theorem packetType_setPacketType
    (packetType : RadioPacketTypes) :
    (s.setPacketType packetType).radio.packetType =
      packetType := rfl

@[simp] theorem operatingMode_setPacketType
    (packetType : RadioPacketTypes) :
    (s.setPacketType packetType).radio.operatingMode =
      s.radio.operatingMode := rfl

@[simp] theorem config_setPacketType
    (packetType : RadioPacketTypes) :
    (s.setPacketType packetType).radio.config =
      s.radio.config := rfl

/- The state after the three calls of a read. -/
def afterRead : RadioState :=
  s.afterCall.afterCall.afterCall

/- The state after a command and the two waits around it. -/
def commanded
    (op : RadioCommands)
    (args : List UInt8) : RadioState :=
  (s.afterCall.afterCall.setChip
    (s.afterCall.afterCall.device.chip.command op args)
    ).afterCall

@[simp] theorem radio_afterRead :
    s.afterRead.radio = s.radio := rfl

@[simp] theorem radio_commanded
    (op : RadioCommands)
    (args : List UInt8) :
    (s.commanded op args).radio = s.radio := rfl

@[simp] theorem txEnable_afterRead :
    s.afterRead.device.txEnable = s.device.txEnable := rfl

@[simp] theorem txEnable_commanded
    (op : RadioCommands)
    (args : List UInt8) :
    (s.commanded op args).device.txEnable =
      s.device.txEnable := rfl

@[simp] theorem hal_afterRead :
    s.afterRead.device.hal = s.device.hal := rfl

@[simp] theorem hal_commanded
    (op : RadioCommands)
    (args : List UInt8) :
    (s.commanded op args).device.hal = s.device.hal := rfl

@[simp] theorem clock_afterRead :
    s.afterRead.device.clock = s.device.clock + 3 := rfl

@[simp] theorem clock_commanded
    (op : RadioCommands)
    (args : List UInt8) :
    (s.commanded op args).device.clock =
      s.device.clock + 3 := rfl

@[simp] theorem cmd_afterRead :
    s.afterRead.device.chip.cmd = s.device.chip.cmd := by
  simp [afterRead]

@[simp] theorem cmd_commanded
    (op op' : RadioCommands)
    (args : List UInt8) :
    (s.commanded op args).device.chip.cmd op' =
      if op' = op then args else s.device.chip.cmd op' := by
  simp [commanded]

@[simp] theorem reg_afterRead :
    s.afterRead.device.chip.reg = s.device.chip.reg := by
  simp [afterRead]

@[simp] theorem reg_commanded
    (op : RadioCommands)
    (args : List UInt8) :
    (s.commanded op args).device.chip.reg =
      s.device.chip.reg := by
  simp [commanded]

end RadioState

end LoRaRadio

------------------------------------------------------------
-- Methods That Return
------------------------------------------------------------

namespace LoRaRadio

open Faulting

variable {s s' : RadioState}

/- A hook whose table gives a state drives the line. -/
theorem exec_hook_some
    {state : TxEnableBehavior → Option Bool}
    {asserted : Bool}
    (hState :
      state s.radio.config.pins.txEnableBehavior =
        some asserted) :
    exec (hook state) s = exec (setTxEnable asserted) s := by
  unfold hook
  rw [exec_bind, exec_get]
  simp only [hState]

theorem exec_hook_none
    {state : TxEnableBehavior → Option Bool}
    (hState :
      state s.radio.config.pins.txEnableBehavior = none) :
    exec (hook state) s = (.ok (), s) := by
  unfold hook
  rw [exec_bind, exec_get]
  simp only [hState, exec_pure]

theorem halCall_ok
    {message : String}
    {a : Unit} :
    exec (halCall message) s = (.ok a, s') ↔
      s.nextEvent.throws = false ∧ s' = s.afterCall := by
  unfold halCall
  rw [exec_mk]
  by_cases hThrows : s.nextEvent.throws
  · simp [hThrows]
  · simp [hThrows, eq_comm]

theorem halSpiTransfer_ok
    {out reply : List UInt8} :
    exec (halSpiTransfer out) s = (.ok reply, s') ↔
      s.nextEvent.throws = false ∧
        reply = (s.afterCall.device.chip.transfer out).2 ∧
        s' = s.afterCall.setChip
          (s.afterCall.device.chip.transfer out).1 := by
  unfold halSpiTransfer
  simp only [exec_bind_ok, halCall_ok, exec_get,
    exec_modify, exec_pure, Prod.mk.injEq, Except.ok.injEq]
  constructor
  · rintro ⟨_, _, ⟨hThrows, rfl⟩, _, _, ⟨rfl, rfl⟩, _, _,
      ⟨-, rfl⟩, rfl, rfl⟩
    exact ⟨hThrows, rfl, rfl⟩
  · rintro ⟨hThrows, hReply, hState⟩
    exact ⟨(), _, ⟨hThrows, rfl⟩, _, _, ⟨rfl, rfl⟩, (), _,
      ⟨trivial, rfl⟩, hReply.symm, hState.symm⟩

/- The state a returning command leaves. -/
theorem writeCommand_ok
    {op : RadioCommands}
    {args : List UInt8}
    {a : Unit}
    (hCommand : Chip.isCommand op = true)
    (hSleep : op ≠ .setSleep)
    (hRun : exec (writeCommand op args) s = (.ok a, s')) :
    s' = s.commanded op args := by
  unfold writeCommand waitOnBusy at hRun
  simp only [exec_bind_ok, halCall_ok, halSpiTransfer_ok,
    ne_eq, hSleep, not_false_eq_true, if_true] at hRun
  rcases hRun with
    ⟨_, s₁, ⟨-, rfl⟩, _, s₂, ⟨-, -, rfl⟩, -, rfl⟩
  rw [Chip.transfer_command _ _ _ hCommand]
  rfl

end LoRaRadio

------------------------------------------------------------
-- Reads and Buffer Writes That Return
------------------------------------------------------------

namespace LoRaRadio

open Faulting

variable {s s' : RadioState}

theorem readCommand_ok
    {op : RadioCommands}
    {size : Nat}
    {reply : List UInt8}
    (hStatus : op ≠ .getStatus)
    (hKeep :
      ∀ chip : Chip,
        (chip.transfer
          (op.code :: List.replicate (size + 1) 0)).1 = chip)
    (hRun : exec (readCommand op size) s = (.ok reply, s')) :
    s' = s.afterRead ∧
      reply =
        ((s.afterCall.afterCall.device.chip.transfer
          (op.code :: List.replicate (size + 1) 0)).2.drop
            2).take size := by
  unfold readCommand waitOnBusy at hRun
  simp only [exec_bind_ok, halCall_ok, hStatus, if_false,
    halSpiTransfer_ok, exec_pure, Prod.mk.injEq,
    Except.ok.injEq] at hRun
  rcases hRun with
    ⟨_, _, ⟨-, rfl⟩, _, _, ⟨-, rfl, rfl⟩, _, _,
      ⟨rfl, rfl⟩, _, _, ⟨-, rfl⟩, rfl, rfl⟩
  refine ⟨?_, rfl⟩
  rw [hKeep]
  rfl

theorem getIrqStatus_ok
    {irqRegs : UInt16}
    (hRun : exec getIrqStatus s = (.ok irqRegs, s')) :
    s' = s.afterRead ∧
      irqRegs =
        s.afterCall.afterCall.device.chip.irq := by
  unfold getIrqStatus at hRun
  simp only [exec_bind_ok, exec_pure, Prod.mk.injEq,
    Except.ok.injEq] at hRun
  rcases hRun with ⟨reply, _, hRead, rfl, rfl⟩
  rcases readCommand_ok (by decide) (fun _ => rfl) hRead with
    ⟨hState, hReply⟩
  refine ⟨hState, ?_⟩
  rw [hReply]
  exact word_hiByte_loByte _

theorem readRegister_ok
    {address : UInt16}
    {value : UInt8}
    (hRun :
      exec (readRegister address) s = (.ok value, s')) :
    s' = s.afterRead ∧
      value =
        s.afterCall.afterCall.device.chip.readReg
          address := by
  unfold readRegister readRegisters waitOnBusy at hRun
  simp only [exec_bind_ok, halCall_ok, halSpiTransfer_ok,
    exec_pure, Prod.mk.injEq, Except.ok.injEq] at hRun
  rcases hRun with
    ⟨_, _, ⟨_, _, ⟨-, rfl⟩, _, _, ⟨-, rfl, rfl⟩, _, _,
      ⟨-, rfl⟩, rfl, rfl⟩, rfl, rfl⟩
  rw [Chip.transfer_readRegisters]
  refine ⟨rfl, ?_⟩
  simp [Chip.readRegs]

theorem writeRegister_ok
    {address : UInt16}
    {value : UInt8}
    {a : Unit}
    (hRun :
      exec (writeRegister address value) s = (.ok a, s')) :
    s' =
      (s.afterCall.afterCall.setChip
        (s.afterCall.afterCall.device.chip.writeReg address
          value)).afterCall := by
  unfold writeRegister writeRegisters waitOnBusy at hRun
  simp only [exec_bind_ok, halCall_ok,
    halSpiTransfer_ok] at hRun
  rcases hRun with
    ⟨_, _, ⟨-, rfl⟩, _, _, ⟨-, -, rfl⟩, -, rfl⟩
  rw [Chip.transfer_writeRegisters]
  rfl

theorem writeBuffer_ok
    {offset : UInt8}
    {bytes : List UInt8}
    {a : Unit}
    (hRun :
      exec (writeBuffer offset bytes) s = (.ok a, s')) :
    s' =
      (s.afterCall.afterCall.setChip
        (s.afterCall.afterCall.device.chip.transfer
          (RadioCommands.writeBuffer.code :: offset ::
            bytes)).1).afterCall := by
  unfold writeBuffer waitOnBusy at hRun
  simp only [exec_bind_ok, halCall_ok,
    halSpiTransfer_ok] at hRun
  rcases hRun with
    ⟨_, _, ⟨-, rfl⟩, _, _, ⟨-, -, rfl⟩, -, rfl⟩
  rfl

theorem readBuffer_ok
    {offset : UInt8}
    {size : Nat}
    {bytes : List UInt8}
    (hRun :
      exec (readBuffer offset size) s = (.ok bytes, s')) :
    s' = s.afterRead ∧
      bytes =
        s.afterCall.afterCall.device.chip.buffer.read
          offset.toFin size := by
  unfold readBuffer waitOnBusy at hRun
  simp only [exec_bind_ok, halCall_ok, halSpiTransfer_ok,
    exec_pure, Prod.mk.injEq, Except.ok.injEq] at hRun
  rcases hRun with
    ⟨_, _, ⟨-, rfl⟩, _, _, ⟨-, rfl, rfl⟩, _, _, ⟨-, rfl⟩,
      rfl, rfl⟩
  rw [Chip.transfer_readBuffer]
  refine ⟨rfl, ?_⟩
  simp

end LoRaRadio

------------------------------------------------------------
-- The TX-Enable Line
------------------------------------------------------------

namespace LoRaRadio

open Faulting

namespace LinuxSx1280Radio

/- Whether the radio has a TX-enable line to write. -/
def hasTxEnableLine
    (radio : LinuxSx1280Radio) : Bool :=
  radio.config.pins.hasTxEnable &&
    radio.txEnableRequest.isSome

/- The level of the line for a logical state. -/
def txEnableLevel
    (radio : LinuxSx1280Radio)
    (asserted : Bool) : GpiodLineValue :=
  assertedLineValue radio.config.pins.txEnableActiveHigh
    asserted

end LinuxSx1280Radio

theorem exec_setTxEnable
    (asserted : Bool)
    (s : RadioState) :
    exec (setTxEnable asserted) s =
      if s.radio.hasTxEnableLine then
        if s.nextEvent.throws then
          (.error (.systemError
            "failed to write GPIO line value"), s.afterCall)
        else
          (.ok (), s.afterCall.setTxEnableLine
            (s.radio.txEnableLevel asserted))
      else
        (.ok (), s) := by
  unfold setTxEnable
  rw [exec_bind, exec_get]
  simp only [LinuxSx1280Radio.hasTxEnableLine]
  by_cases hFlag : s.radio.config.pins.hasTxEnable
  · by_cases hRequest : s.radio.txEnableRequest.isSome
    · have hSome : s.radio.txEnableRequest.isNone = false := by
        simpa [Option.isSome_iff_ne_none] using hRequest
      simp only [hFlag, hRequest, hSome, Bool.not_true,
        Bool.or_self, Bool.and_self, Bool.false_eq_true,
        if_false, if_true]
      rw [exec_bind]
      unfold halCall
      rw [exec_mk]
      by_cases hThrows : s.nextEvent.throws
      · simp [hThrows]
      · simp [hThrows, LinuxSx1280Radio.txEnableLevel]
    · have hNone : s.radio.txEnableRequest = none := by
        simpa using hRequest
      simp [hNone]
  · simp [hFlag]

theorem post_halCall
    (message : String)
    (Q : Unit → RadioState → Prop)
    (E : Fault → RadioState → Prop)
    (s : RadioState) :
    Post (halCall message) Q E s ↔
      if s.nextEvent.throws then
        E (.systemError message) s.afterCall
      else
        Q () s.afterCall := by
  unfold Post halCall
  rw [exec_mk]
  cases s.nextEvent.throws <;> rfl

theorem post_setTxEnable
    (asserted : Bool)
    (Q : Unit → RadioState → Prop)
    (E : Fault → RadioState → Prop)
    (s : RadioState) :
    Post (setTxEnable asserted) Q E s ↔
      if s.radio.hasTxEnableLine then
        if s.nextEvent.throws then
          E (.systemError "failed to write GPIO line value")
            s.afterCall
        else
          Q () (s.afterCall.setTxEnableLine
            (s.radio.txEnableLevel asserted))
      else
        Q () s := by
  unfold Post
  rw [exec_setTxEnable]
  cases s.radio.hasTxEnableLine <;>
    cases s.nextEvent.throws <;> rfl

end LoRaRadio
