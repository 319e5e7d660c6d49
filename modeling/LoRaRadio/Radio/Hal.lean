import LoRaRadio.Library.Faulting
import LoRaRadio.Radio.Chip

/-
  The hardware access layer of one radio,
  `LinuxSx1280Radio`: GPIO lines, SPI transfers and the
  TX-enable hooks the driver calls.

  The environment decides, for each hardware call in turn,
  what the chip did on its own before the call, whether the
  call throws and whether it comes back at all.  A call that
  throws has no effect on the hardware.  A method says what
  is left once its calls have come back.

  Main declarations:
    * `LinuxSx1280Radio` and `Device`
    * `halCall`
    * `waitLoop` and `waitOnBusy`
    * `halSpiTransfer`
    * `setTxEnable` and the `halPre`/`halPost` hooks
-/

------------------------------------------------------------
-- Exceptions and Handles
------------------------------------------------------------

namespace LoRaRadio

/-
  What a call can throw or abort with.  A read outside a
  buffer, which may do anything, counts as an abort.
-/
inductive Fault
  | systemError (message : String)
  | runtimeError (message : String)
  | assertion (condition : String)
  | outOfBounds (reader : String)
deriving DecidableEq, Repr

/-
  What a process holds from the kernel, and the libgpiod
  objects a line request needs while it is being made.
-/
inductive Handle
  | spi (devicePath : Text)
  | gpioChip (chipPath : Text)
  | line (chipPath : Text) (offset : UInt32)
  | lineSettings
  | lineConfig
  | requestConfig
deriving DecidableEq, Repr

inductive GpiodLineValue
  | inactive
  | active
deriving DecidableEq, Repr

/- The level of the pin for a logical TX-enable state. -/
def assertedLineValue
    (activeHigh asserted : Bool) : GpiodLineValue :=
  let rawHigh := if asserted then activeHigh else !activeHigh
  if rawHigh then .active else .inactive

end LoRaRadio

------------------------------------------------------------
-- The Radio Object and Its Device
------------------------------------------------------------

namespace LoRaRadio

/- The driver's own idea of what the chip is doing. -/
inductive RadioOperatingModes
  | sleep
  | calibration
  | stdbyRc
  | stdbyXosc
  | fs
  | rx
  | tx
  | cad
deriving DecidableEq, Repr

/-
  A `LinuxSx1280Radio`: the members of its `Impl` and those
  of the driver base class that some method reads back.
  `rxDone` says whether `callbacks.rxDone` is set; the node
  sets no other callback.
-/
structure LinuxSx1280Radio where
  config : LinuxSx1280RadioConfig := {}
  spiFd : Option Handle := none
  gpioChip : Option Handle := none
  resetRequest : Option Handle := none
  busyRequest : Option Handle := none
  dio1Request : Option Handle := none
  dio2Request : Option Handle := none
  dio3Request : Option Handle := none
  txEnableRequest : Option Handle := none
  operatingMode : RadioOperatingModes := .stdbyRc
  packetType : RadioPacketTypes := .none
  rxDone : Bool := false
deriving DecidableEq, Repr

/- The handles of a radio, in the order `~Impl` releases them. -/
def LinuxSx1280Radio.handles
    (radio : LinuxSx1280Radio) : List Handle :=
  radio.resetRequest.toList ++ radio.busyRequest.toList ++
    radio.dio1Request.toList ++ radio.dio2Request.toList ++
    radio.dio3Request.toList ++
    radio.txEnableRequest.toList ++ radio.gpioChip.toList ++
    radio.spiFd.toList

/-
  What the environment does at one hardware call.  A wait at
  this call reads BUSY high `busy` times before it reads it
  low or a reading throws; `none` if BUSY is never released.
  Any other call is over at once, or with `none` never.
-/
structure HalEvent where
  chip : List ChipEvent := []
  throws : Bool := false
  busy : Option Nat := some 0
deriving DecidableEq, Repr

/- The call comes back. -/
def HalEvent.ComesBack
    (event : HalEvent) : Prop :=
  event.busy.isSome = true

instance
    (event : HalEvent) :
    Decidable event.ComesBack :=
  inferInstanceAs (Decidable (_ = true))

/-
  The hardware behind one radio object.  Call number `k`
  meets the event `hal k`; `clock` counts the calls made.
  `txEnable` is the level last written to the TX-enable
  line.
-/
structure Device where
  chip : Chip := {}
  txEnable : Option GpiodLineValue := none
  hal : Nat → HalEvent := fun _ => {}
  clock : Nat := 0

structure RadioState where
  radio : LinuxSx1280Radio
  device : Device

/- A method of the radio object. -/
abbrev RadioM :=
  Faulting Fault RadioState

namespace RadioState

/- The event the next hardware call meets. -/
def nextEvent
    (s : RadioState) : HalEvent :=
  s.device.hal s.device.clock

/- The state once the events before the next call are past. -/
def afterCall
    (s : RadioState) : RadioState :=
  { s with
    device :=
      { s.device with
        chip := s.device.chip.reacts s.nextEvent.chip
        clock := s.device.clock + 1 } }

def setChip
    (chip : Chip)
    (s : RadioState) : RadioState :=
  { s with device := { s.device with chip := chip } }

def setTxEnableLine
    (value : GpiodLineValue)
    (s : RadioState) : RadioState :=
  { s with
    device := { s.device with txEnable := some value } }

def setOperatingMode
    (mode : RadioOperatingModes)
    (s : RadioState) : RadioState :=
  { s with radio := { s.radio with operatingMode := mode } }

def setPacketType
    (packetType : RadioPacketTypes)
    (s : RadioState) : RadioState :=
  { s with
    radio := { s.radio with packetType := packetType } }

end RadioState

end LoRaRadio

------------------------------------------------------------
-- Hardware Calls
------------------------------------------------------------

namespace LoRaRadio

open Faulting

/- One hardware call that comes back: it throws or not. -/
def halCall
    (message : String) : RadioM Unit :=
  mk fun s =>
    (if s.nextEvent.throws then
        .error (.systemError message)
      else
        .ok (),
      s.afterCall)

inductive GpioPinFunction
  | reset
  | busy
  | dio1
  | dio2
  | dio3
deriving DecidableEq, Repr

def halGpioWrite
    (func : GpioPinFunction)
    (value : UInt8) : RadioM Unit := do
  match func with
  | .reset =>
      halCall "failed to write GPIO line value"
      if value = 0 then
        modify fun s => s.setChip s.device.chip.reset
  | .busy | .dio1 | .dio2 | .dio3 =>
      throw
        (.runtimeError
          "attempted to write to an input GPIO line")

def halSpiTransfer
    (out : List UInt8) : RadioM (List UInt8) := do
  halCall "failed to perform SPI transfer"
  let s ← get
  let (chip, reply) := s.device.chip.transfer out
  modify (RadioState.setChip chip)
  return reply

def setTxEnable
    (asserted : Bool) : RadioM Unit := do
  let s ← get
  let pins := s.radio.config.pins
  if !pins.hasTxEnable || s.radio.txEnableRequest.isNone then
    return
  halCall "failed to write GPIO line value"
  modify
    (RadioState.setTxEnableLine
      (assertedLineValue pins.txEnableActiveHigh asserted))

end LoRaRadio

------------------------------------------------------------
-- Waiting
------------------------------------------------------------

namespace LoRaRadio

open Faulting

/- `HalGpioRead(GPIO_PIN_BUSY)`, the `i`-th time in a wait. -/
def HalEvent.reading
    (event : HalEvent)
    (i : Nat) : Except Fault Bool :=
  match event.busy with
  | none => .ok true
  | some high =>
      if i < high then .ok true
      else if event.throws then
        .error (.systemError "failed to read GPIO line value")
      else .ok false

/-
  The loop of `WaitOnBusy` and `WaitOnBusyLong` from reading
  `i` on, over at most `fuel` readings.
-/
def waitLoop
    (event : HalEvent) :
    Nat → Nat → Option (Except Fault Unit)
| 0, _ => none
| fuel + 1, i =>
    match event.reading i with
    | .error e => some (.error e)
    | .ok true => waitLoop event fuel (i + 1)
    | .ok false => some (.ok ())

/-
  A wait.  The readings before the last one change nothing,
  so a loop that ends is one call with the last reading.
-/
def waitOnBusy : RadioM Unit :=
  halCall "failed to read GPIO line value"

variable {s : RadioState}
variable {event : HalEvent}

/- A loop that BUSY lets go ends with its last reading. -/
theorem waitLoop_of_le
    {high : Nat}
    (hBusy : event.busy = some high)
    (fuel i : Nat)
    (hLe : i ≤ high) :
    waitLoop event fuel i =
      if high - i < fuel then
        some
          (if event.throws then
            .error
              (.systemError "failed to read GPIO line value")
          else .ok ())
      else none := by
  induction fuel generalizing i with
  | zero => rfl
  | succ fuel ih =>
      unfold waitLoop HalEvent.reading
      simp only [hBusy]
      by_cases hHigh : i < high
      · rw [if_pos hHigh]
        dsimp only
        rw [ih (i + 1) hHigh]
        refine if_congr ?_ rfl rfl
        omega
      · have hMore : high - i < fuel + 1 := by omega
        rw [if_neg hHigh, if_pos hMore]
        cases event.throws with
        | true => rfl
        | false => rfl

/- As long as BUSY stays high the loop goes on. -/
theorem waitLoop_of_none
    (hBusy : event.busy = none)
    (fuel i : Nat) :
    waitLoop event fuel i = none := by
  induction fuel generalizing i with
  | zero => rfl
  | succ fuel ih =>
      unfold waitLoop HalEvent.reading
      rw [hBusy]
      exact ih (i + 1)

/-
  The loop of a wait ends just when the call comes back, and
  then as `waitOnBusy` does.
-/
theorem waitLoop_ends_iff
    {r : Except Fault Unit} :
    (∃ fuel, waitLoop s.nextEvent fuel 0 = some r) ↔
      s.nextEvent.ComesBack ∧ (exec waitOnBusy s).1 = r := by
  unfold HalEvent.ComesBack
  cases hBusy : s.nextEvent.busy with
  | none =>
      refine iff_of_false ?_ fun hBoth => nomatch hBoth.1
      rintro ⟨fuel, hEnds⟩
      rw [waitLoop_of_none hBusy] at hEnds
      cases hEnds
  | some high =>
      constructor
      · rintro ⟨fuel, hEnds⟩
        rw [waitLoop_of_le hBusy fuel 0 (Nat.zero_le _)] at hEnds
        split at hEnds
        · exact ⟨rfl, Option.some.inj hEnds⟩
        · cases hEnds
      · rintro ⟨-, hLast⟩
        have hMore : high - 0 < high + 1 := Nat.lt_succ_self high
        refine ⟨high + 1, ?_⟩
        rw [waitLoop_of_le hBusy _ 0 (Nat.zero_le _), if_pos hMore]
        exact congrArg some hLast

end LoRaRadio

------------------------------------------------------------
-- Transmit and Receive Hooks
------------------------------------------------------------

namespace LoRaRadio

open Faulting

/-
  A hook drives the TX-enable line to the state its table
  gives for the configured behavior, if it gives one.
-/
def hook
    (state : TxEnableBehavior → Option Bool) :
    RadioM Unit := do
  match state (← get).radio.config.pins.txEnableBehavior with
  | some asserted => setTxEnable asserted
  | none => return

def preTxState : TxEnableBehavior → Option Bool
| .none | .staticAsserted | .staticDeasserted => none
| .assertDuringTxOnly => some true

def preRxState : TxEnableBehavior → Option Bool
| .none | .staticAsserted | .staticDeasserted => none
| .assertDuringTxOnly => some false

def postTxState : TxEnableBehavior → Option Bool
| .none => none
| .staticAsserted => some true
| .staticDeasserted => some false
| .assertDuringTxOnly => some false

def postRxState : TxEnableBehavior → Option Bool
| .none => none
| .staticAsserted => some true
| .staticDeasserted | .assertDuringTxOnly => some false

def halPreTx : RadioM Unit :=
  hook preTxState

def halPreRx : RadioM Unit :=
  hook preRxState

def halPostTx : RadioM Unit :=
  hook postTxState

def halPostRx : RadioM Unit :=
  hook postRxState

end LoRaRadio
