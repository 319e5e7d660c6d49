import LoRaRadio.Radio.DriverLemmas

/-
  The effects a driver method can have.

  A method's effects are listed once; what a relation
  between radio states has to tolerate to be kept by the
  method, whatever the hardware does, follows from the list.
  A method with listed effects also throws only when a
  hardware call does.

  Main declarations:
    * `Effect` and `Issues`
    * `Tolerates` and `Issues.keeps`
    * `Issues.returns`
    * `issues_configureRadio` and its relatives
-/

------------------------------------------------------------
-- Effects
------------------------------------------------------------

namespace LoRaRadio

open Faulting

inductive Effect
  | issue (op : RadioCommands)
  | reset
  | writeLine
  | setMode
  | setType
deriving DecidableEq, Repr

/- A method with no effects but those listed. -/
inductive Issues
    (effects : List Effect) :
    (α : Type) → RadioM α → Prop
  | pure {α : Type} (a : α) : Issues effects α (pure a)
  | get : Issues effects RadioState get
  | bind {α β : Type}
      {m : RadioM α} {f : α → RadioM β}
      (first : Issues effects α m)
      (rest : ∀ a, Issues effects β (f a)) :
      Issues effects β (m >>= f)
  | halCall (message : String) :
      Issues effects Unit (halCall message)
  | transfer (op : RadioCommands) (args : List UInt8)
      (allowed : .issue op ∈ effects) :
      Issues effects (List UInt8)
        (halSpiTransfer (op.code :: args))
  | reset (allowed : .reset ∈ effects) :
      Issues effects Unit
        (modify fun s => s.setChip s.device.chip.reset)
  | writeLine (value : GpiodLineValue)
      (allowed : .writeLine ∈ effects) :
      Issues effects Unit
        (modify (RadioState.setTxEnableLine value))
  | setMode (mode : RadioOperatingModes)
      (allowed : .setMode ∈ effects) :
      Issues effects Unit
        (modify (RadioState.setOperatingMode mode))
  | setType (packetType : RadioPacketTypes)
      (allowed : .setType ∈ effects) :
      Issues effects Unit
        (modify (RadioState.setPacketType packetType))

variable {effects effects' : List Effect}
variable {α β : Type}
variable {m : RadioM α}

theorem Issues.mono
    (hIssues : Issues effects α m)
    (hSub : effects ⊆ effects') :
    Issues effects' α m := by
  induction hIssues with
  | pure a => exact .pure a
  | get => exact .get
  | bind _ _ ihFirst ihRest => exact .bind ihFirst ihRest
  | halCall message => exact .halCall message
  | transfer op args allowed =>
      exact .transfer op args (hSub allowed)
  | reset allowed => exact .reset (hSub allowed)
  | writeLine value allowed =>
      exact .writeLine value (hSub allowed)
  | setMode mode allowed =>
      exact .setMode mode (hSub allowed)
  | setType packetType allowed =>
      exact .setType packetType (hSub allowed)

theorem Issues.ite
    {c : Prop}
    [Decidable c]
    {m' : RadioM α}
    (hThen : Issues effects α m)
    (hElse : Issues effects α m') :
    Issues effects α (if c then m else m') := by
  split
  · exact hThen
  · exact hElse

end LoRaRadio

------------------------------------------------------------
-- Relations That Tolerate Effects
------------------------------------------------------------

namespace LoRaRadio

open Faulting

/-
  A relation between radio states that the environment's
  events do not break.
-/
class EventProof (R : RadioState → RadioState → Prop) :
    Prop extends Std.Refl R, IsTrans RadioState R where
  afterCall : ∀ s, R s s.afterCall

/- The effect relates the states before and after it. -/
def Tolerates
    (R : RadioState → RadioState → Prop) :
    Effect → Prop
| .issue op =>
    ∀ (s : RadioState) (args : List UInt8),
      R s (s.setChip
        (s.device.chip.transfer (op.code :: args)).1)
| .reset => ∀ s, R s (s.setChip s.device.chip.reset)
| .writeLine => ∀ s value, R s (s.setTxEnableLine value)
| .setMode => ∀ s mode, R s (s.setOperatingMode mode)
| .setType =>
    ∀ s packetType, R s (s.setPacketType packetType)

variable {effects : List Effect}
variable {α : Type}
variable {m : RadioM α}
variable {R : RadioState → RadioState → Prop}

/-
  A relation that tolerates the effects of a method is kept
  by it, whether it returns or throws.
-/
theorem Issues.keeps
    [EventProof R]
    (hIssues : Issues effects α m)
    (hTolerates : ∀ e ∈ effects, Tolerates R e) :
    Keeps R m := by
  induction hIssues with
  | pure a => exact keeps_pure a
  | get => exact keeps_get
  | bind _ _ ihFirst ihRest => exact ihFirst.bind ihRest
  | halCall message => exact fun s => EventProof.afterCall s
  | transfer op args allowed =>
      have hCall : Keeps R
          (LoRaRadio.halCall
            "failed to perform SPI transfer") :=
        fun s => EventProof.afterCall s
      refine hCall.bind fun _ => ?_
      exact fun s => hTolerates _ allowed s args
  | reset allowed =>
      exact keeps_modify (hTolerates _ allowed)
  | writeLine value allowed =>
      exact keeps_modify
        fun s => hTolerates _ allowed s value
  | setMode mode allowed =>
      exact keeps_modify
        fun s => hTolerates _ allowed s mode
  | setType packetType allowed =>
      exact keeps_modify
        fun s => hTolerates _ allowed s packetType

/- No hardware call throws from now on. -/
def Device.Works
    (d : Device) : Prop :=
  ∀ k, d.clock ≤ k → (d.hal k).throws = false

/- A method returns if the hardware works. -/
theorem Issues.returns
    (hIssues : Issues effects α m)
    {s : RadioState}
    (hWorks : s.device.Works) :
    ∃ a s', exec m s = (.ok a, s') ∧ s'.device.Works := by
  induction hIssues generalizing s with
  | pure a => exact ⟨a, s, rfl, hWorks⟩
  | get => exact ⟨s, s, rfl, hWorks⟩
  | bind _ _ ihFirst ihRest =>
      rcases ihFirst hWorks with ⟨a, s₁, hFirst, hWorks₁⟩
      rcases ihRest a hWorks₁ with ⟨b, s₂, hRest, hWorks₂⟩
      exact ⟨b, s₂, exec_bind_ok.mpr ⟨a, s₁, hFirst, hRest⟩,
        hWorks₂⟩
  | halCall message =>
      have hNext : s.nextEvent.throws = false :=
        hWorks _ (Nat.le_refl _)
      exact ⟨(), s.afterCall, halCall_ok.mpr ⟨hNext, rfl⟩,
        fun k hLe => hWorks k (Nat.le_of_succ_le hLe)⟩
  | transfer op args allowed =>
      have hNext : s.nextEvent.throws = false :=
        hWorks _ (Nat.le_refl _)
      exact ⟨_, _, halSpiTransfer_ok.mpr ⟨hNext, rfl, rfl⟩,
        fun k hLe => hWorks k (Nat.le_of_succ_le hLe)⟩
  | reset allowed => exact ⟨(), _, rfl, hWorks⟩
  | writeLine value allowed => exact ⟨(), _, rfl, hWorks⟩
  | setMode mode allowed => exact ⟨(), _, rfl, hWorks⟩
  | setType packetType allowed => exact ⟨(), _, rfl, hWorks⟩

end LoRaRadio

------------------------------------------------------------
-- Effects of the Driver's Methods
------------------------------------------------------------

namespace LoRaRadio

open Faulting

variable {effects : List Effect}

theorem issues_waitOnBusy :
    Issues effects Unit waitOnBusy :=
  .halCall _

theorem issues_writeCommand
    {op : RadioCommands}
    (args : List UInt8)
    (hAllowed : .issue op ∈ effects) :
    Issues effects Unit (writeCommand op args) := by
  unfold writeCommand
  refine issues_waitOnBusy.bind fun _ => ?_
  refine (Issues.transfer op args hAllowed).bind fun _ => ?_
  exact .ite issues_waitOnBusy (.pure ())

theorem issues_readCommand
    {op : RadioCommands}
    (size : Nat)
    (hAllowed : .issue op ∈ effects) :
    Issues effects (List UInt8) (readCommand op size) := by
  unfold readCommand
  refine issues_waitOnBusy.bind fun _ => ?_
  split
  · exact (Issues.transfer op _ hAllowed).bind fun _ =>
      (Issues.pure _).bind fun _ =>
      issues_waitOnBusy.bind fun _ => .pure _
  · exact (Issues.transfer op _ hAllowed).bind fun _ =>
      (Issues.pure _).bind fun _ =>
      issues_waitOnBusy.bind fun _ => .pure _

theorem issues_writeBuffer
    (offset : UInt8)
    (bytes : List UInt8)
    (hAllowed : .issue .writeBuffer ∈ effects) :
    Issues effects Unit (writeBuffer offset bytes) := by
  unfold writeBuffer
  refine issues_waitOnBusy.bind fun _ => ?_
  exact (Issues.transfer .writeBuffer _ hAllowed).bind
    fun _ => issues_waitOnBusy

theorem issues_readBuffer
    (offset : UInt8)
    (size : Nat)
    (hAllowed : .issue .readBuffer ∈ effects) :
    Issues effects (List UInt8)
      (readBuffer offset size) := by
  unfold readBuffer
  refine issues_waitOnBusy.bind fun _ => ?_
  exact (Issues.transfer .readBuffer _ hAllowed).bind
    fun _ => issues_waitOnBusy.bind fun _ => .pure _

theorem issues_readRegister
    (address : UInt16)
    (hAllowed : .issue .readRegister ∈ effects) :
    Issues effects UInt8 (readRegister address) := by
  unfold readRegister readRegisters
  refine Issues.bind ?_ fun _ => .pure _
  refine issues_waitOnBusy.bind fun _ => ?_
  exact (Issues.transfer .readRegister _ hAllowed).bind
    fun _ => issues_waitOnBusy.bind fun _ => .pure _

theorem issues_writeRegister
    (address : UInt16)
    (value : UInt8)
    (hAllowed : .issue .writeRegister ∈ effects) :
    Issues effects Unit (writeRegister address value) := by
  unfold writeRegister writeRegisters
  refine issues_waitOnBusy.bind fun _ => ?_
  exact (Issues.transfer .writeRegister _ hAllowed).bind
    fun _ => issues_waitOnBusy

theorem issues_updateRegister
    (address : UInt16)
    (f : UInt8 → UInt8)
    (hRead : .issue .readRegister ∈ effects)
    (hWrite : .issue .writeRegister ∈ effects) :
    Issues effects Unit (updateRegister address f) :=
  (issues_readRegister address hRead).bind fun _ =>
    issues_writeRegister address _ hWrite

theorem issues_setTxEnable
    (asserted : Bool)
    (hAllowed : .writeLine ∈ effects) :
    Issues effects Unit (setTxEnable asserted) := by
  unfold setTxEnable
  refine Issues.get.bind fun s => ?_
  refine .ite (.pure ()) ?_
  exact (Issues.halCall _).bind fun _ =>
    .writeLine _ hAllowed

theorem issues_hook
    (state : TxEnableBehavior → Option Bool)
    (hAllowed : .writeLine ∈ effects) :
    Issues effects Unit (hook state) := by
  unfold hook
  refine Issues.get.bind fun s => ?_
  split
  · exact issues_setTxEnable _ hAllowed
  · exact .pure ()

/- A hook does nothing but write the line. -/
theorem issues_hookOnly
    (state : TxEnableBehavior → Option Bool) :
    Issues [.writeLine] Unit (hook state) :=
  issues_hook state List.mem_cons_self

end LoRaRadio

------------------------------------------------------------
-- Effects of Transmission, Reception and Interrupts
------------------------------------------------------------

namespace LoRaRadio

open Faulting

theorem issues_clearIrqStatus
    (irqMask : UInt16) :
    Issues [.issue .clrIrqStatus] Unit
      (clearIrqStatus irqMask) :=
  issues_writeCommand _ (by decide)

theorem issues_setRoleWhenRanging
    (role : RadioRangingRoles) :
    Issues [.issue .setRangingRole] Unit
      (setRoleWhenRanging role) := by
  unfold setRoleWhenRanging
  refine Issues.get.bind fun s => ?_
  exact .ite (issues_writeCommand _ (by decide)) (.pure ())

def setTxEffects : List Effect :=
  [.issue .clrIrqStatus, .issue .setRangingRole, .writeLine,
    .issue .setTx, .setMode]

theorem issues_setTx
    (timeout : TickTime) :
    Issues setTxEffects Unit (setTx timeout) := by
  unfold setTx
  exact
    ((issues_clearIrqStatus _).mono (by decide)).bind
    fun _ =>
      ((issues_setRoleWhenRanging _).mono (by decide)).bind
    fun _ => (issues_hook _ (by decide)).bind
    fun _ => (issues_hook _ (by decide)).bind
    fun _ => (issues_writeCommand _ (by decide)).bind
    fun _ => .setMode _ (by decide)

def setRxEffects : List Effect :=
  [.issue .clrIrqStatus, .issue .setRangingRole, .writeLine,
    .issue .setRx, .setMode]

theorem issues_setRx
    (timeout : TickTime) :
    Issues setRxEffects Unit (setRx timeout) := by
  unfold setRx
  exact
    ((issues_clearIrqStatus _).mono (by decide)).bind
    fun _ =>
      ((issues_setRoleWhenRanging _).mono (by decide)).bind
    fun _ => (issues_hook _ (by decide)).bind
    fun _ => (issues_hook _ (by decide)).bind
    fun _ => (issues_writeCommand _ (by decide)).bind
    fun _ => .setMode _ (by decide)

theorem issues_sendPayload
    (payload : List UInt8)
    (timeout : TickTime) :
    Issues (.issue .writeBuffer :: setTxEffects) Unit
      (sendPayload payload timeout) := by
  unfold sendPayload setPayload
  exact (issues_writeBuffer _ _ (by decide)).bind fun _ =>
    (issues_setTx timeout).mono (by decide)

/- The effects of polling a radio. -/
def pollEffects : List Effect :=
  [.issue .getIrqStatus, .issue .clrIrqStatus, .writeLine,
    .issue .getPacketStatus, .issue .getRxBufferStatus,
    .issue .readRegister, .issue .readBuffer]

/- The effects of polling a radio apart from the hooks. -/
def serviceEffects : List Effect :=
  [.issue .getIrqStatus, .issue .clrIrqStatus,
    .issue .getPacketStatus, .issue .getRxBufferStatus,
    .issue .readRegister, .issue .readBuffer]

theorem services_processIrqsLocked :
    Issues serviceEffects (RadioPacketTypes × UInt16)
      processIrqsLocked := by
  unfold processIrqsLocked getIrqStatus
  refine Issues.get.bind fun s => ?_
  refine Issues.bind ?_ fun _ => ?_
  · exact (issues_readCommand _ (by decide)).bind fun _ =>
      .pure _
  · exact
      ((issues_clearIrqStatus _).mono (by decide)).bind
        fun _ => .pure _

theorem issues_processIrqsLocked :
    Issues pollEffects (RadioPacketTypes × UInt16)
      processIrqsLocked :=
  services_processIrqsLocked.mono (by decide)

theorem issues_getPacketStatus :
    Issues serviceEffects PacketStatus getPacketStatus := by
  unfold getPacketStatus
  exact (issues_readCommand _ (by decide)).bind fun _ =>
    Issues.get.bind fun _ => .pure _

theorem issues_hasFixedHeader
    (packetType : RadioPacketTypes) :
    Issues serviceEffects Bool
      (hasFixedHeader packetType) := by
  unfold hasFixedHeader
  refine .ite ?_ (.pure _)
  exact (issues_readRegister _ (by decide)).bind fun _ =>
    .pure _

theorem issues_rxPayloadLength
    (packetType : RadioPacketTypes)
    (fixedHeader : Bool)
    (reported : UInt8) :
    Issues serviceEffects UInt8
      (rxPayloadLength packetType fixedHeader
        reported) := by
  unfold rxPayloadLength
  exact .ite (issues_readRegister _ (by decide))
    (.ite (.pure _) (.pure _))

theorem issues_getRxBufferStatus :
    Issues serviceEffects (UInt8 × UInt8)
      getRxBufferStatus := by
  unfold getRxBufferStatus
  exact (issues_readCommand _ (by decide)).bind fun _ =>
    Issues.get.bind fun _ =>
    (issues_hasFixedHeader _).bind fun _ =>
    (issues_rxPayloadLength _ _ _).bind fun _ => .pure _

end LoRaRadio

------------------------------------------------------------
-- Effects of Configuration
------------------------------------------------------------

namespace LoRaRadio

open Faulting

theorem issues_setPacketType
    (packetType : RadioPacketTypes) :
    Issues [.setType, .issue .setPacketType] Unit
      (setPacketType packetType) := by
  unfold setPacketType
  exact (Issues.setType _ (by decide)).bind fun _ =>
    issues_writeCommand _ (by decide)

theorem issues_setModulationParams
    (lora : Sx1280LoRaConfig) :
    Issues
      [.setType, .issue .setPacketType,
        .issue .setModulationParams]
      Unit (setModulationParams lora) := by
  unfold setModulationParams
  refine Issues.get.bind fun s => ?_
  have hWrite :
      Issues
        [.setType, .issue .setPacketType,
          .issue .setModulationParams]
        Unit
        (writeCommand .setModulationParams
          (modulationBytes lora)) :=
    issues_writeCommand _ (by decide)
  refine .ite ?_ hWrite
  exact ((issues_setPacketType _).mono (by decide)).bind
    fun _ => hWrite

theorem issues_setPacketParams
    (lora : Sx1280LoRaConfig) :
    Issues
      [.setType, .issue .setPacketType,
        .issue .setPacketParams]
      Unit (setPacketParams lora) := by
  unfold setPacketParams
  refine Issues.get.bind fun s => ?_
  have hWrite :
      Issues
        [.setType, .issue .setPacketType,
          .issue .setPacketParams]
        Unit
        (writeCommand .setPacketParams (packetBytes lora)) :=
    issues_writeCommand _ (by decide)
  refine .ite ?_ hWrite
  exact ((issues_setPacketType _).mono (by decide)).bind
    fun _ => hWrite

theorem issues_setStandby
    (standbyConfig : RadioStandbyModes) :
    Issues [.issue .setStandby, .setMode] Unit
      (setStandby standbyConfig) := by
  unfold setStandby
  exact (issues_writeCommand _ (by decide)).bind fun _ =>
    .setMode _ (by decide)

theorem issues_wakeup :
    Issues [.issue .getStatus] Unit wakeup := by
  unfold wakeup
  exact (Issues.transfer .getStatus _ (by decide)).bind
    fun _ => issues_waitOnBusy

theorem issues_initRadio :
    Issues [.reset, .issue .getStatus] Unit initRadio := by
  unfold initRadio reset setRegistersDefault
  refine Issues.bind ?_ fun _ => Issues.bind ?_ fun _ =>
    .pure ()
  · refine Issues.bind ?_ fun _ => ?_
    · exact (Issues.halCall _).bind fun _ =>
        .ite (.reset (by decide)) (.pure ())
    · exact (Issues.halCall _).bind fun _ =>
        .ite (.reset (by decide)) (.pure ())
  · exact issues_wakeup.mono (by decide)

def registerEffects : List Effect :=
  [.issue .readRegister, .issue .writeRegister]

theorem issues_setLNAGainSetting
    (lnaSetting : RadioLnaSettings) :
    Issues registerEffects Unit
      (setLNAGainSetting lnaSetting) := by
  unfold setLNAGainSetting
  split <;>
    exact issues_updateRegister _ _ (by decide) (by decide)

theorem issues_enableManualGain :
    Issues registerEffects Unit enableManualGain := by
  unfold enableManualGain
  exact (issues_updateRegister _ _ (by decide) (by decide)
    ).bind fun _ =>
      issues_updateRegister _ _ (by decide) (by decide)

theorem issues_disableManualGain :
    Issues registerEffects Unit disableManualGain := by
  unfold disableManualGain
  exact (issues_updateRegister _ _ (by decide) (by decide)
    ).bind fun _ =>
      issues_updateRegister _ _ (by decide) (by decide)

end LoRaRadio
