import Mathlib.Data.Multiset.AddSub
import LoRaRadio.Radio.Hal

/-
  Construction and destruction of a `LinuxSx1280Radio`: the
  calls to the kernel and to libgpiod made by the `Impl`
  constructor, and the releases made by its destructor.

  The environment decides for each call in turn whether it
  fails.  What the process holds is kept in the kernel, not
  in the object: a constructor that throws loses its
  members, not the handles.

  Main declarations:
    * `Kernel`
    * `requestInputLine` and `requestOutputLine`
    * `construct`
    * `destroy`
-/

------------------------------------------------------------
-- Kernel Calls
------------------------------------------------------------

namespace LoRaRadio

/-
  The handles the process holds, and which of its calls
  fail: call number `k` fails if `fails k`.
-/
structure Kernel where
  held : Multiset Handle := 0
  fails : Nat → Bool := fun _ => false
  clock : Nat := 0

namespace Kernel

def nextFails
    (k : Kernel) : Bool :=
  k.fails k.clock

def afterCall
    (k : Kernel) : Kernel :=
  { k with clock := k.clock + 1 }

def hold
    (h : Handle)
    (k : Kernel) : Kernel :=
  { k with held := h ::ₘ k.held }

def release
    (h : Handle)
    (k : Kernel) : Kernel :=
  { k with held := k.held.erase h }

end Kernel

/- The state a radio object is constructed in. -/
structure OsState where
  kernel : Kernel
  radio : LinuxSx1280Radio
  device : Device

abbrev OsM :=
  Faulting Fault OsState

namespace OsState

def onKernel
    (f : Kernel → Kernel)
    (s : OsState) : OsState :=
  { s with kernel := f s.kernel }

def onRadio
    (f : LinuxSx1280Radio → LinuxSx1280Radio)
    (s : OsState) : OsState :=
  { s with radio := f s.radio }

end OsState

/- The radio object and its device. -/
def radioPart : Lens OsState RadioState where
  get s := ⟨s.radio, s.device⟩
  set r s := { s with radio := r.radio, device := r.device }
  get_set _ _ := rfl

end LoRaRadio

------------------------------------------------------------
-- Calls That Acquire and Release
------------------------------------------------------------

namespace LoRaRadio

open Faulting

/- A call to the kernel or to libgpiod. -/
def osCall
    (fault : Fault) : OsM Unit :=
  mk fun s =>
    (if s.kernel.nextFails then .error fault else .ok (),
      s.onKernel Kernel.afterCall)

/- A call that returns a new handle. -/
def acquire
    (h : Handle)
    (fault : Fault) : OsM Unit := do
  osCall fault
  modify (OsState.onKernel (Kernel.hold h))

def free
    (h : Handle) : OsM Unit :=
  modify (OsState.onKernel (Kernel.release h))

/-
  Work with a libgpiod object that is freed on every path.
-/
def withObject
    (object : Handle)
    (fault : Fault)
    (body : OsM Unit) : OsM Unit := do
  acquire object fault
  onThrow body (free object)
  free object

/-
  `gpiod_chip_request_lines`: the kernel also refuses a line
  that is requested already.
-/
def gpiodChipRequestLines
    (line : Handle)
    (fault : Fault) : OsM Unit :=
  mk fun s =>
    let refused :=
      s.kernel.nextFails || decide (line ∈ s.kernel.held)
    if refused then
      (.error fault, s.onKernel Kernel.afterCall)
    else
      (.ok (), s.onKernel fun k => (k.afterCall).hold line)

/-
  `requestInputLine` and `requestOutputLine` differ in the
  word their messages use and in the initial value of an
  output.
-/
def requestLineObjects
    (direction : String)
    (initialValue : Option GpiodLineValue)
    (line : Handle) : OsM Unit :=
  withObject .lineSettings
    (.runtimeError "failed to allocate GPIO line settings")
    do
      osCall (.systemError
        s!"failed to set GPIO {direction} direction")
      match initialValue with
      | some _ =>
          osCall (.systemError
            "failed to set GPIO output initial value")
      | none => pure ()
      withObject .lineConfig
        (.runtimeError "failed to allocate GPIO line config")
        do
          osCall (.systemError
            s!"failed to add GPIO {direction} line settings")
          withObject .requestConfig
            (.runtimeError
              "failed to allocate GPIO request config")
            (gpiodChipRequestLines line (.systemError
              s!"failed to request GPIO {direction} line"))

def requestLine
    (direction : String)
    (initialValue : Option GpiodLineValue)
    (chip : Text)
    (offset : UInt32) : OsM Handle := do
  let line := Handle.line chip offset
  requestLineObjects direction initialValue line
  return line

def requestInputLine
    (chip : Text)
    (offset : UInt32) : OsM Handle :=
  requestLine "input" none chip offset

def requestOutputLine
    (chip : Text)
    (offset : UInt32)
    (initialValue : GpiodLineValue) : OsM Handle :=
  requestLine "output" (some initialValue) chip offset

end LoRaRadio

------------------------------------------------------------
-- Constructor
------------------------------------------------------------

namespace LoRaRadio

open Faulting

def validateConfig
    (config : LinuxSx1280RadioConfig) : OsM Unit := do
  if config.spi.devicePath = [] then
    throw (.runtimeError "SPI device path cannot be empty")
  if config.gpio.chipPath = [] then
    throw (.runtimeError "GPIO chip path cannot be empty")
  if !config.pins.hasTxEnable &&
      config.pins.txEnableBehavior != .none then
    throw (.runtimeError
      "TX enable behavior requires has_tx_enable=true")

/- The six `ioctl` calls of `openSpi`. -/
def setSpiParameters : OsM Unit := do
  osCall (.systemError "failed to set SPI mode")
  osCall (.systemError "failed to read SPI mode")
  osCall (.systemError "failed to set SPI bits per word")
  osCall (.systemError "failed to read SPI bits per word")
  osCall (.systemError "failed to set SPI max speed")
  osCall (.systemError "failed to read SPI max speed")

def openSpi
    (config : LinuxSx1280RadioConfig) : OsM Unit := do
  let spi := Handle.spi config.spi.devicePath
  acquire spi (.systemError
    ("failed to open SPI device: " ++
      String.ofList config.spi.devicePath))
  modify (OsState.onRadio ({ · with spiFd := some spi }))
  setSpiParameters

def openGpioChip
    (config : LinuxSx1280RadioConfig) : OsM Unit := do
  let chip := Handle.gpioChip config.gpio.chipPath
  acquire chip (.systemError
    ("failed to open GPIO chip: " ++
      String.ofList config.gpio.chipPath))
  modify (OsState.onRadio ({ · with gpioChip := some chip }))

/- Request a line and keep its handle in a member. -/
def requestInto
    (request : OsM Handle)
    (store :
      Handle → LinuxSx1280Radio → LinuxSx1280Radio) :
    OsM Unit := do
  let h ← request
  modify (OsState.onRadio (store h))

def requestIf
    (configured : Bool)
    (request : OsM Handle)
    (store :
      Handle → LinuxSx1280Radio → LinuxSx1280Radio) :
    OsM Unit :=
  if configured then requestInto request store else pure ()

/-
  Request the lines the pins name.  The kernel drives a
  requested output line to its initial value.
-/
def requestGpioLines
    (config : LinuxSx1280RadioConfig) : OsM Unit := do
  let pins := config.pins
  let chip := config.gpio.chipPath
  let deasserted :=
    assertedLineValue pins.txEnableActiveHigh false
  requestInto
    (requestOutputLine chip pins.resetLine .active)
    fun h => ({ · with resetRequest := some h })
  requestInto (requestInputLine chip pins.busyLine)
    fun h => ({ · with busyRequest := some h })
  requestIf pins.hasDio1
    (requestInputLine chip pins.dio1Line)
    fun h => ({ · with dio1Request := some h })
  requestIf pins.hasDio2
    (requestInputLine chip pins.dio2Line)
    fun h => ({ · with dio2Request := some h })
  requestIf pins.hasDio3
    (requestInputLine chip pins.dio3Line)
    fun h => ({ · with dio3Request := some h })
  requestIf pins.hasTxEnable
    (requestOutputLine chip pins.txEnableLine deasserted)
    fun h => ({ · with txEnableRequest := some h })
  if pins.hasTxEnable then
    zoom radioPart
      (modify (RadioState.setTxEnableLine deasserted))

/- The logical TX-enable state after construction. -/
def initialTxState : TxEnableBehavior → Bool
| .none | .assertDuringTxOnly => false
| .staticAsserted => true
| .staticDeasserted => false

def applyInitialTxEnableState
    (config : LinuxSx1280RadioConfig) : OsM Unit :=
  zoom radioPart
    (setTxEnable
      (initialTxState config.pins.txEnableBehavior))

/- The `Impl` constructor, run on its members' initializers. -/
def construct
    (config : LinuxSx1280RadioConfig) : OsM Unit := do
  validateConfig config
  openSpi config
  openGpioChip config
  requestGpioLines config
  applyInitialTxEnableState config

end LoRaRadio

------------------------------------------------------------
-- Destructor
------------------------------------------------------------

namespace LoRaRadio

/- `~Impl` -/
def destroy
    (radio : LinuxSx1280Radio)
    (k : Kernel) : Kernel :=
  radio.handles.foldl (fun k h => k.release h) k

end LoRaRadio
