import Mathlib.Data.UInt

/-
  Configuration records of the radio node, with the defaults
  their C++ member initializers give, and the driver's
  enumerations with the byte each value has on the wire.

  A `std::string` is a list of characters, one for each
  byte.

  Main declarations:
    * `LinuxSx1280RadioConfig`
    * `Sx1280Config`
    * `NodeConfig`
-/

------------------------------------------------------------
-- Driver Enumerations
------------------------------------------------------------

namespace LoRaRadio

/- The contents of a `std::string`. -/
abbrev Text :=
  List Char

inductive RadioRegulatorModes
  | useLdo
  | useDcdc
deriving DecidableEq, Repr

def RadioRegulatorModes.code :
    RadioRegulatorModes → UInt8
| .useLdo => 0x00
| .useDcdc => 0x01

inductive RadioPacketTypes
  | gfsk
  | lora
  | ranging
  | flrc
  | ble
  | none
deriving DecidableEq, Repr

def RadioPacketTypes.code : RadioPacketTypes → UInt8
| .gfsk => 0x00
| .lora => 0x01
| .ranging => 0x02
| .flrc => 0x03
| .ble => 0x04
| .none => 0x0F

inductive RadioRampTimes
  | ramp02us
  | ramp04us
  | ramp06us
  | ramp08us
  | ramp10us
  | ramp12us
  | ramp16us
  | ramp20us
deriving DecidableEq, Repr

def RadioRampTimes.code : RadioRampTimes → UInt8
| .ramp02us => 0x00
| .ramp04us => 0x20
| .ramp06us => 0x40
| .ramp08us => 0x60
| .ramp10us => 0x80
| .ramp12us => 0xA0
| .ramp16us => 0xC0
| .ramp20us => 0xE0

inductive RadioLoRaSpreadingFactors
  | sf5
  | sf6
  | sf7
  | sf8
  | sf9
  | sf10
  | sf11
  | sf12
deriving DecidableEq, Repr

def RadioLoRaSpreadingFactors.code :
    RadioLoRaSpreadingFactors → UInt8
| .sf5 => 0x50
| .sf6 => 0x60
| .sf7 => 0x70
| .sf8 => 0x80
| .sf9 => 0x90
| .sf10 => 0xA0
| .sf11 => 0xB0
| .sf12 => 0xC0

inductive RadioLoRaBandwidths
  | bw0200
  | bw0400
  | bw0800
  | bw1600
deriving DecidableEq, Repr

def RadioLoRaBandwidths.code :
    RadioLoRaBandwidths → UInt8
| .bw0200 => 0x34
| .bw0400 => 0x26
| .bw0800 => 0x18
| .bw1600 => 0x0A

inductive RadioLoRaCodingRates
  | cr45
  | cr46
  | cr47
  | cr48
  | crLi45
  | crLi46
  | crLi47
deriving DecidableEq, Repr

def RadioLoRaCodingRates.code :
    RadioLoRaCodingRates → UInt8
| .cr45 => 0x01
| .cr46 => 0x02
| .cr47 => 0x03
| .cr48 => 0x04
| .crLi45 => 0x05
| .crLi46 => 0x06
| .crLi47 => 0x07

inductive RadioLoRaPacketLengthsModes
  | variableLength
  | fixedLength
deriving DecidableEq, Repr

def RadioLoRaPacketLengthsModes.code :
    RadioLoRaPacketLengthsModes → UInt8
| .variableLength => 0x00
| .fixedLength => 0x80

inductive RadioLoRaCrcModes
  | on
  | off
deriving DecidableEq, Repr

def RadioLoRaCrcModes.code : RadioLoRaCrcModes → UInt8
| .on => 0x20
| .off => 0x00

inductive RadioLoRaIQModes
  | normal
  | inverted
deriving DecidableEq, Repr

def RadioLoRaIQModes.code : RadioLoRaIQModes → UInt8
| .normal => 0x40
| .inverted => 0x00

inductive RadioTickSizes
  | tick0015us
  | tick0062us
  | tick1000us
  | tick4000us
deriving DecidableEq, Repr

def RadioTickSizes.code : RadioTickSizes → UInt8
| .tick0015us => 0x00
| .tick0062us => 0x01
| .tick1000us => 0x02
| .tick4000us => 0x03

inductive RadioLnaSettings
  | lowPowerMode
  | highSensitivityMode
deriving DecidableEq, Repr

/-
  An amount of time measured by the radio clock.  Count
  `0x0000` is single mode and `0xFFFF` continuous mode.
-/
structure TickTime where
  periodBase : RadioTickSizes
  periodBaseCount : UInt16
deriving DecidableEq, Repr

end LoRaRadio

------------------------------------------------------------
-- Hardware Configuration
------------------------------------------------------------

namespace LoRaRadio

inductive TxEnableBehavior
  | none
  | staticAsserted
  | staticDeasserted
  | assertDuringTxOnly
deriving DecidableEq, Repr

structure LinuxSpiConfig where
  devicePath : Text := "/dev/spidev0.0".toList
  speedHz : UInt32 := 1000000
  mode : UInt8 := 0
  bitsPerWord : UInt8 := 8
deriving DecidableEq, Repr

structure LinuxGpioChipConfig where
  chipPath : Text := "/dev/gpiochip0".toList
deriving DecidableEq, Repr

structure LinuxSx1280PinConfig where
  resetLine : UInt32 := 0
  busyLine : UInt32 := 0
  hasDio1 : Bool := false
  dio1Line : UInt32 := 0
  hasDio2 : Bool := false
  dio2Line : UInt32 := 0
  hasDio3 : Bool := false
  dio3Line : UInt32 := 0
  hasTxEnable : Bool := false
  txEnableLine : UInt32 := 0
  txEnableActiveHigh : Bool := true
  txEnableBehavior : TxEnableBehavior := .none
deriving DecidableEq, Repr

structure LinuxSx1280RadioConfig where
  spi : LinuxSpiConfig := {}
  gpio : LinuxGpioChipConfig := {}
  pins : LinuxSx1280PinConfig := {}
deriving DecidableEq, Repr

end LoRaRadio

------------------------------------------------------------
-- Radio Configuration
------------------------------------------------------------

namespace LoRaRadio

structure Sx1280RfConfig where
  frequencyHz : UInt32 := 2400000000
  txPowerDbm : Int8 := 10
  rampTime : RadioRampTimes := .ramp20us
  regulatorMode : RadioRegulatorModes := .useDcdc
deriving DecidableEq, Repr

structure Sx1280LoRaConfig where
  spreadingFactor : RadioLoRaSpreadingFactors := .sf7
  bandwidth : RadioLoRaBandwidths := .bw0800
  codingRate : RadioLoRaCodingRates := .cr45
  preambleLength : UInt8 := 12
  headerType : RadioLoRaPacketLengthsModes :=
    .variableLength
  payloadLength : UInt8 := 255
  crc : RadioLoRaCrcModes := .on
  iqMode : RadioLoRaIQModes := .normal
deriving DecidableEq, Repr

structure Sx1280TimeoutConfig where
  txTimeout : TickTime := ⟨.tick1000us, 2000⟩
  rxTimeout : TickTime := ⟨.tick1000us, 2000⟩
  continuousRx : Bool := true
deriving DecidableEq, Repr

structure Sx1280RuntimeConfig where
  autoFs : Bool := true
  longPreamble : Bool := false
  useManualGain : Bool := false
  manualGainValue : UInt8 := 0
  lnaSetting : RadioLnaSettings := .highSensitivityMode
deriving DecidableEq, Repr

structure Sx1280Config where
  rf : Sx1280RfConfig := {}
  lora : Sx1280LoRaConfig := {}
  timeouts : Sx1280TimeoutConfig := {}
  runtime : Sx1280RuntimeConfig := {}
deriving DecidableEq, Repr

end LoRaRadio

------------------------------------------------------------
-- Node Configuration
------------------------------------------------------------

namespace LoRaRadio

inductive NodeConfigError
  | none
  | ioError
  | parseError
  | invalidSchema
deriving DecidableEq, Repr

inductive NodeRadioRole
  | rx
  | tx
  | txRx
deriving DecidableEq, Repr

structure RadioHwConfig where
  hw : LinuxSx1280RadioConfig := {}
  role : NodeRadioRole := .txRx
deriving DecidableEq, Repr

structure NodeConfig where
  rx : RadioHwConfig := {}
  tx : RadioHwConfig := {}
  radio : Sx1280Config := {}
deriving DecidableEq, Repr

end LoRaRadio
