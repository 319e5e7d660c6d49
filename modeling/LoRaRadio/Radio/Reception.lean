import LoRaRadio.Radio.Observations

/-
  Reading a received packet out of the chip.

  A reading method leaves the chip as it is.  While nothing
  happens on the chip, what it returns is a function of the
  radio object and the chip.

  Main declarations:
    * `Device.Still`
    * `Reads` and its rules
    * `reads_getPacketStatus` and `reads_getRxBufferStatus`
    * `Chip.Holds` and `Chip.holds_reception`
-/

------------------------------------------------------------
-- Calls Without Events
------------------------------------------------------------

namespace LoRaRadio

namespace Device

/-
  Nothing happens on the chip before the hardware calls from
  the next one up to number `hi`.
-/
def Still
    (d : Device)
    (hi : Nat) : Prop :=
  ∀ k, d.clock ≤ k → k < hi → (d.hal k).chip = []

theorem Still.mono
    {d : Device}
    {hi hi' : Nat}
    (hStill : d.Still hi)
    (hLe : hi' ≤ hi) :
    d.Still hi' :=
  fun k hLow hHigh => hStill k hLow (hHigh.trans_le hLe)

/- The stillness of a device, from a later call on. -/
theorem Still.later
    {d d' : Device}
    {hi : Nat}
    (hStill : d.Still hi)
    (hHal : d'.hal = d.hal)
    (hClock : d.clock ≤ d'.clock) :
    d'.Still hi := by
  intro k hLow hHigh
  rw [hHal]
  exact hStill k (hClock.trans hLow) hHigh

end Device

namespace RadioState

variable {s : RadioState}

theorem chip_afterCall_of_still
    {hi : Nat}
    (hStill : s.device.Still hi)
    (hLt : s.device.clock < hi) :
    s.afterCall.device.chip = s.device.chip := by
  have hNone : s.nextEvent.chip = [] :=
    hStill _ (Nat.le_refl _) hLt
  rw [chip_afterCall, hNone, Chip.reacts_nil]

theorem still_afterCall
    {hi : Nat}
    (hStill : s.device.Still hi) :
    s.afterCall.device.Still hi :=
  hStill.later rfl (Nat.le_succ _)

/- Two calls without events leave the chip as it is. -/
theorem chip_afterCalls_of_still
    {hi : Nat}
    (hStill : s.device.Still hi)
    (hLt : s.device.clock + 1 < hi) :
    s.afterCall.afterCall.device.chip = s.device.chip := by
  have hFirst :=
    chip_afterCall_of_still hStill (Nat.lt_of_succ_lt hLt)
  have hSecond :=
    chip_afterCall_of_still (still_afterCall hStill) hLt
  exact hSecond.trans hFirst

theorem chip_afterRead_of_still
    (hStill : s.device.Still (s.device.clock + 3)) :
    s.afterRead.device.chip = s.device.chip := by
  have hTwo := chip_afterCalls_of_still hStill (by omega)
  have hThird :=
    chip_afterCall_of_still
      (still_afterCall (still_afterCall hStill))
      (by simp only [clock_afterCall]; omega)
  exact hThird.trans hTwo

end RadioState

end LoRaRadio

------------------------------------------------------------
-- Reading Methods
------------------------------------------------------------

namespace LoRaRadio

open Faulting

/-
  A run of a reading method from `s` to `s'` with the result
  `a`: the radio object is as before and, if nothing
  happened on the chip, so is the chip, and `a` is its
  `value`.
-/
structure ReadRun
    {α : Type}
    (value : LinuxSx1280Radio → Chip → α)
    (s : RadioState)
    (a : α)
    (s' : RadioState) : Prop where
  radio : s'.radio = s.radio
  hal : s'.device.hal = s.device.hal
  clock : s.device.clock ≤ s'.device.clock
  still :
    s.device.Still s'.device.clock →
      s'.device.chip = s.device.chip ∧
        a = value s.radio s.device.chip

/- A method that only reads, and what it reads. -/
def Reads
    {α : Type}
    (m : RadioM α)
    (value : LinuxSx1280Radio → Chip → α) : Prop :=
  ∀ ⦃s a s'⦄, exec m s = (.ok a, s') →
    ReadRun value s a s'

variable {α β : Type}

theorem reads_pure
    (a : α) :
    Reads (pure a) fun _ _ => a := by
  intro s b s' hRun
  cases hRun
  exact ⟨rfl, rfl, Nat.le_refl _, fun _ => ⟨rfl, rfl⟩⟩

/-
  Reading twice in a row: a still run is still in both its
  parts, so both read the same chip.
-/
theorem Reads.bind
    {m : RadioM α}
    {rest : α → RadioM β}
    {f : LinuxSx1280Radio → Chip → α}
    {g : α → LinuxSx1280Radio → Chip → β}
    (hFirst : Reads m f)
    (hSecond : ∀ a, Reads (rest a) (g a)) :
    Reads (m >>= rest) fun radio c =>
      g (f radio c) radio c := by
  intro s b s'' hRun
  rcases exec_bind_ok.mp hRun with ⟨a, s', hHead, hTail⟩
  have hHeadRun := hFirst hHead
  have hTailRun := hSecond a hTail
  refine ⟨hTailRun.radio.trans hHeadRun.radio,
    hTailRun.hal.trans hHeadRun.hal,
    hHeadRun.clock.trans hTailRun.clock, fun hStill => ?_⟩
  rcases hHeadRun.still (hStill.mono hTailRun.clock) with
    ⟨hChip, hValue⟩
  rcases hTailRun.still
      (hStill.later hHeadRun.hal hHeadRun.clock) with
    ⟨hChip', hValue'⟩
  refine ⟨hChip'.trans hChip, ?_⟩
  rw [hValue', hHeadRun.radio, hChip, hValue]

/- A read that looks at the radio object first. -/
theorem reads_get_bind
    {f : RadioState → RadioM β}
    (value :
      LinuxSx1280Radio → LinuxSx1280Radio → Chip → β)
    (hRest : ∀ s, Reads (f s) (value s.radio)) :
    Reads (get >>= f) fun radio c => value radio radio c := by
  intro s b s' hRun
  rcases exec_bind_ok.mp hRun with ⟨t, s₁, hGet, hTail⟩
  cases hGet
  have hTailRun := hRest s hTail
  exact ⟨hTailRun.radio, hTailRun.hal, hTailRun.clock,
    hTailRun.still⟩

theorem Reads.congr
    {m : RadioM α}
    {value value' : LinuxSx1280Radio → Chip → α}
    (hReads : Reads m value)
    (hEq : ∀ radio c, value radio c = value' radio c) :
    Reads m value' := by
  intro s a s' hRun
  have hOld := hReads hRun
  refine ⟨hOld.radio, hOld.hal, hOld.clock, fun hStill => ?_⟩
  rw [← hEq]
  exact hOld.still hStill

theorem reads_of_afterRead
    {m : RadioM α}
    {value : Chip → α}
    (hRead :
      ∀ {s a s'}, exec m s = (.ok a, s') →
        s' = s.afterRead ∧
          a = value s.afterCall.afterCall.device.chip) :
    Reads m fun _ c => value c := by
  intro s a s' hRun
  rcases hRead hRun with ⟨rfl, rfl⟩
  refine ⟨rfl, rfl, ?_, fun hStill => ?_⟩
  · simp
  · rw [RadioState.clock_afterRead] at hStill
    rw [RadioState.chip_afterRead_of_still hStill,
      RadioState.chip_afterCalls_of_still hStill (by omega)]
    exact ⟨rfl, rfl⟩

end LoRaRadio

------------------------------------------------------------
-- Reading a Packet
------------------------------------------------------------

namespace LoRaRadio

open Faulting

theorem reads_readCommand
    (op : RadioCommands)
    (size : Nat)
    (hStatus : op ≠ .getStatus)
    (hKeep :
      ∀ chip : Chip,
        (chip.transfer
          (op.code :: List.replicate (size + 1) 0)).1 =
            chip) :
    Reads (readCommand op size) fun _ c =>
      ((c.transfer
        (op.code :: List.replicate (size + 1) 0)).2.drop
          2).take size :=
  reads_of_afterRead fun hRun =>
    readCommand_ok hStatus hKeep hRun

theorem reads_readRegister
    (address : UInt16) :
    Reads (readRegister address) fun _ c =>
      c.readReg address :=
  reads_of_afterRead fun hRun => readRegister_ok hRun

theorem reads_readBuffer
    (offset : UInt8)
    (size : Nat) :
    Reads (readBuffer offset size) fun _ c =>
      c.buffer.read offset.toFin size :=
  reads_of_afterRead fun hRun => readBuffer_ok hRun

theorem reads_getPacketStatus :
    Reads getPacketStatus fun radio c =>
      decodePacketStatus radio.packetType
        [c.rssi, c.snr, 0, 0, 0] := by
  unfold getPacketStatus
  refine Reads.congr
    ((reads_readCommand .getPacketStatus 5 (by decide)
        fun _ => rfl).bind
      fun status => reads_get_bind
        (fun radio _ _ =>
          decodePacketStatus radio.packetType status)
        fun _ => reads_pure _)
    ?_
  intro radio c
  rfl

/- The length `GetRxBufferStatus` reports. -/
def receivedLength
    (packetType : RadioPacketTypes)
    (c : Chip) : UInt8 :=
  if packetType = .ble then c.rxLength + 2 else c.rxLength

theorem reads_hasFixedHeader
    (packetType : RadioPacketTypes) :
    Reads (hasFixedHeader packetType) fun _ c =>
      if packetType = .lora then
        c.readReg Reg.lrPacketParams >>> 7 == 1
      else
        false := by
  unfold hasFixedHeader
  split
  · exact (reads_readRegister _).bind fun _ => reads_pure _
  · exact reads_pure false

theorem reads_rxPayloadLength
    (packetType : RadioPacketTypes)
    (fixedHeader : Bool)
    (reported : UInt8) :
    Reads (rxPayloadLength packetType fixedHeader reported)
      fun _ c =>
        if fixedHeader then
          c.rxLength
        else if packetType = .ble then
          reported + 2
        else
          reported := by
  unfold rxPayloadLength
  split
  · exact reads_readRegister _
  · split
    · exact reads_pure _
    · exact reads_pure _

theorem reads_getRxBufferStatus :
    Reads getRxBufferStatus fun radio c =>
      (receivedLength radio.packetType c, c.rxStart) := by
  unfold getRxBufferStatus
  refine Reads.congr
    ((reads_readCommand .getRxBufferStatus 2 (by decide)
        fun _ => rfl).bind
      fun status => reads_get_bind
        (fun radio _ c =>
          (if (if radio.packetType = .lora then
              c.readReg Reg.lrPacketParams >>> 7 == 1
            else false) then c.rxLength
          else if radio.packetType = .ble then
            status.getD 0 0 + 2
          else status.getD 0 0, status.getD 1 0))
        fun _ => (reads_hasFixedHeader _).bind
      fun fixedHeader =>
        (reads_rxPayloadLength _ fixedHeader _).bind
      fun length => reads_pure (length, status.getD 1 0))
    ?_
  intro radio c
  unfold receivedLength
  cases radio.packetType <;>
    simp [Chip.transfer, RadioCommands.ofCode?_code]

end LoRaRadio

------------------------------------------------------------
-- Receptions
------------------------------------------------------------

namespace LoRaRadio

namespace Chip

/- A packet waits in the chip, and no interrupt but its own. -/
def Holds
    (c : Chip)
    (packet : List UInt8) : Prop :=
  c.irq = Irq.rxDone ∧
    c.buffer.read c.rxStart.toFin c.rxLength.toNat = packet

/- The chip receives and reports `RX_DONE`. -/
def Hears
    (c : Chip) : Prop :=
  c.InRx ∧ Irq.rxDone &&& c.irqMask = Irq.rxDone

/- A packet received with nothing pending is held. -/
theorem holds_reception
    {c : Chip}
    (hHears : c.Hears)
    (hIrq : c.irq = 0)
    {start rssi snr : UInt8}
    {packet : List UInt8}
    (hLength : packet.length ≤ 255) :
    (c.react (.reception start packet rssi snr)).Holds
      packet := by
  rcases hHears with ⟨⟨count, hMode⟩, hMask⟩
  unfold react
  simp only [hMode, hLength, if_true]
  constructor
  · change c.irq ||| (Irq.rxDone &&& c.irqMask) = _
    rw [hMask, hIrq, UInt16.zero_or]
  · change (c.buffer.write start.toFin packet).read
      start.toFin (UInt8.ofNat packet.length).toNat = packet
    have hSize :
        (UInt8.ofNat packet.length).toNat =
          packet.length := by
      rw [UInt8.toNat_ofNat']
      omega
    rw [hSize]
    exact CircularMemory.read_write_self _ _ _ (by omega)

end Chip

end LoRaRadio
