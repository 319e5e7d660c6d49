import LoRaRadio.Library.CStrings
import LoRaRadio.Library.Lens
import LoRaRadio.Config.Types

/-
  `loadNodeConfigFromYaml`: a configuration file read line
  by line.

  A line is a header, which selects a section or a
  sub-section, or a key and a value.  The keys recognised in
  a section are a table; an entry says how the value is
  parsed and where it is stored.

  Main declarations:
    * `Field` and `fields`
    * `Loader.step`
    * `loadNodeConfigFromYaml`
    * `splitKey_trim` and `cleanValue_trim`
-/

------------------------------------------------------------
-- Value Parsers
------------------------------------------------------------

namespace LoRaRadio

open CStrings

def parseBool
    (v : Text) : Option Bool :=
  if v = "true".toList then some true
  else if v = "false".toList then some false
  else none

def parseUint32
    (v : Text) : Option UInt32 :=
  (stoul v).map UInt32.ofNat

def parseUint8
    (v : Text) : Option UInt8 :=
  match stoul v with
  | some n => if n ≤ 0xFF then some (UInt8.ofNat n) else none
  | none => none

def parseInt8
    (v : Text) : Option Int8 :=
  match stol v with
  | some n =>
      if n < -128 ∨ 127 < n then none
      else some (Int8.ofInt n)
  | none => none

def stripQuotes
    (v : Text) : Text :=
  if v.length ≥ 2 ∧ v.head? = some '"' ∧
      v.getLast? = some '"' then
    v.tail.dropLast
  else
    v

/-
  The parsers of enumerations: the value a word stands for,
  or the default if the parser does not know the word.
-/
def parseWord
    {α : Type}
    (words : List (String × α))
    (default : α)
    (v : Text) : α :=
  match words.find? fun word => word.1.toList == v with
  | some word => word.2
  | none => default

def parseNodeRole : Text → NodeRadioRole :=
  parseWord [("rx", .rx), ("tx", .tx)] .txRx

def parseTxBehavior : Text → TxEnableBehavior :=
  parseWord
    [("none", .none), ("static_asserted", .staticAsserted),
      ("static_deasserted", .staticDeasserted),
      ("assert_during_tx", .assertDuringTxOnly)]
    .none

def parseSpreadingFactor :
    Text → RadioLoRaSpreadingFactors :=
  parseWord [("sf7", .sf7)] .sf7

def parseBandwidth : Text → RadioLoRaBandwidths :=
  parseWord [("bw_0800", .bw0800)] .bw0800

def parseCodingRate : Text → RadioLoRaCodingRates :=
  parseWord [("cr_4_5", .cr45)] .cr45

def parseHeaderType : Text → RadioLoRaPacketLengthsModes :=
  parseWord [("variable_length", .variableLength)]
    .variableLength

def parseCrcMode : Text → RadioLoRaCrcModes :=
  parseWord [("on", .on), ("off", .off)] .on

def parseIqMode : Text → RadioLoRaIQModes :=
  parseWord [("normal", .normal)] .normal

def parseRampTime : Text → RadioRampTimes :=
  parseWord [("20us", .ramp20us)] .ramp20us

def parseRegulatorMode : Text → RadioRegulatorModes :=
  parseWord [("dcdc", .useDcdc)] .useDcdc

def parseLnaSetting : Text → RadioLnaSettings :=
  parseWord [("high_sensitivity", .highSensitivityMode)]
    .highSensitivityMode

end LoRaRadio

------------------------------------------------------------
-- Fields
------------------------------------------------------------

namespace LoRaRadio

/-
  What a recognised key does with its value: which kind of
  value it takes, and where that is stored.  For an
  enumeration the words that name its values are listed with
  the value each of them names; none contains a `#`.
-/
inductive Field : Type 1
  | text (place : Lens NodeConfig Text)
  | bool (place : Lens NodeConfig Bool)
  | uint32 (place : Lens NodeConfig UInt32)
  | uint8 (place : Lens NodeConfig UInt8)
  | int8 (place : Lens NodeConfig Int8)
  | millis (place : Lens NodeConfig TickTime)
  | word {α : Type} (place : Lens NodeConfig α)
      (parse : Text → α)
      (words : List (String × α))
      (agree :
        ∀ w ∈ words,
          parse w.1.toList = w.2 ∧ '#' ∉ w.1.toList)

/- `tx_ms` and `rx_ms` are clamped to the period count. -/
def clampMillis
    (v32 : UInt32) : TickTime :=
  { periodBase := .tick1000us
    periodBaseCount :=
      if v32 ≥ 0xFFFF then 0xFFFF else v32.toUInt16 }

/- What a recognised key does with its value. -/
def Field.assign
    (field : Field)
    (value : Text)
    (cfg : NodeConfig) : NodeConfig :=
  match field with
  | .text place => place.set value cfg
  | .bool place =>
      match parseBool value with
      | some b => place.set b cfg
      | none => cfg
  | .uint32 place =>
      match parseUint32 value with
      | some n => place.set n cfg
      | none => cfg
  | .uint8 place =>
      match parseUint8 value with
      | some n => place.set n cfg
      | none => cfg
  | .int8 place =>
      match parseInt8 value with
      | some n => place.set n cfg
      | none => cfg
  | .millis place =>
      match parseUint32 value with
      | some v32 => place.set (clampMillis v32) cfg
      | none => cfg
  | .word place parse _ _ => place.set (parse value) cfg

end LoRaRadio

------------------------------------------------------------
-- Recognised Keys
------------------------------------------------------------

namespace LoRaRadio

inductive Section
  | none
  | radiosRx
  | radiosTx
  | lora
  | timeouts
  | runtime
deriving DecidableEq, Repr

inductive SubSection
  | none
  | spi
  | gpio
  | pins
deriving DecidableEq, Repr

/- The parts of the configuration the sections address. -/
def hwPart
    (isRx : Bool) : Lens NodeConfig RadioHwConfig where
  get cfg := if isRx then cfg.rx else cfg.tx
  set rhw cfg :=
    if isRx then { cfg with rx := rhw }
    else { cfg with tx := rhw }
  get_set := by cases isRx <;> intros <;> rfl

def spiPart
    (isRx : Bool) : Lens NodeConfig LinuxSpiConfig :=
  (hwPart isRx).comp
    ⟨(·.hw.spi),
      fun v rhw => { rhw with hw := { rhw.hw with spi := v } },
      fun _ _ => rfl⟩

def gpioPart
    (isRx : Bool) : Lens NodeConfig LinuxGpioChipConfig :=
  (hwPart isRx).comp
    ⟨(·.hw.gpio),
      fun v rhw => { rhw with hw := { rhw.hw with gpio := v } },
      fun _ _ => rfl⟩

def pinsPart
    (isRx : Bool) : Lens NodeConfig LinuxSx1280PinConfig :=
  (hwPart isRx).comp
    ⟨(·.hw.pins),
      fun v rhw => { rhw with hw := { rhw.hw with pins := v } },
      fun _ _ => rfl⟩

def rfPart : Lens NodeConfig Sx1280RfConfig :=
  ⟨(·.radio.rf),
    fun v cfg =>
      { cfg with radio := { cfg.radio with rf := v } },
    fun _ _ => rfl⟩

def loraPart : Lens NodeConfig Sx1280LoRaConfig :=
  ⟨(·.radio.lora),
    fun v cfg =>
      { cfg with radio := { cfg.radio with lora := v } },
    fun _ _ => rfl⟩

def timeoutsPart : Lens NodeConfig Sx1280TimeoutConfig :=
  ⟨(·.radio.timeouts),
    fun v cfg =>
      { cfg with radio := { cfg.radio with timeouts := v } },
    fun _ _ => rfl⟩

def runtimePart : Lens NodeConfig Sx1280RuntimeConfig :=
  ⟨(·.radio.runtime),
    fun v cfg =>
      { cfg with radio := { cfg.radio with runtime := v } },
    fun _ _ => rfl⟩

def roleFields
    (isRx : Bool) : List (String × Field) :=
  [("role", .word
      ((hwPart isRx).comp
        ⟨(·.role),
          fun v c => { c with role := v },
          fun _ _ => rfl⟩)
      parseNodeRole
      [("rx", .rx), ("tx", .tx), ("txrx", .txRx)]
      (by decide))]

def spiFields
    (isRx : Bool) : List (String × Field) :=
  [("device", .text
      ((spiPart isRx).comp
        ⟨(·.devicePath),
          fun v c => { c with devicePath := v },
          fun _ _ => rfl⟩)),
    ("speed_hz", .uint32
      ((spiPart isRx).comp
        ⟨(·.speedHz),
          fun v c => { c with speedHz := v },
          fun _ _ => rfl⟩)),
    ("mode", .uint8
      ((spiPart isRx).comp
        ⟨(·.mode),
          fun v c => { c with mode := v },
          fun _ _ => rfl⟩)),
    ("bits_per_word", .uint8
      ((spiPart isRx).comp
        ⟨(·.bitsPerWord),
          fun v c => { c with bitsPerWord := v },
          fun _ _ => rfl⟩))]

def gpioFields
    (isRx : Bool) : List (String × Field) :=
  [("chip", .text
      ((gpioPart isRx).comp
        ⟨(·.chipPath),
          fun v c => { c with chipPath := v },
          fun _ _ => rfl⟩))]

def pinFields
    (isRx : Bool) : List (String × Field) :=
  [("reset", .uint32
      ((pinsPart isRx).comp
        ⟨(·.resetLine),
          fun v c => { c with resetLine := v },
          fun _ _ => rfl⟩)),
    ("busy", .uint32
      ((pinsPart isRx).comp
        ⟨(·.busyLine),
          fun v c => { c with busyLine := v },
          fun _ _ => rfl⟩)),
    ("has_dio1", .bool
      ((pinsPart isRx).comp
        ⟨(·.hasDio1),
          fun v c => { c with hasDio1 := v },
          fun _ _ => rfl⟩)),
    ("dio1", .uint32
      ((pinsPart isRx).comp
        ⟨(·.dio1Line),
          fun v c => { c with dio1Line := v },
          fun _ _ => rfl⟩)),
    ("has_dio2", .bool
      ((pinsPart isRx).comp
        ⟨(·.hasDio2),
          fun v c => { c with hasDio2 := v },
          fun _ _ => rfl⟩)),
    ("dio2", .uint32
      ((pinsPart isRx).comp
        ⟨(·.dio2Line),
          fun v c => { c with dio2Line := v },
          fun _ _ => rfl⟩)),
    ("has_dio3", .bool
      ((pinsPart isRx).comp
        ⟨(·.hasDio3),
          fun v c => { c with hasDio3 := v },
          fun _ _ => rfl⟩)),
    ("dio3", .uint32
      ((pinsPart isRx).comp
        ⟨(·.dio3Line),
          fun v c => { c with dio3Line := v },
          fun _ _ => rfl⟩)),
    ("has_tx_enable", .bool
      ((pinsPart isRx).comp
        ⟨(·.hasTxEnable),
          fun v c => { c with hasTxEnable := v },
          fun _ _ => rfl⟩)),
    ("tx_enable", .uint32
      ((pinsPart isRx).comp
        ⟨(·.txEnableLine),
          fun v c => { c with txEnableLine := v },
          fun _ _ => rfl⟩)),
    ("tx_enable_active_high", .bool
      ((pinsPart isRx).comp
        ⟨(·.txEnableActiveHigh),
          fun v c => { c with txEnableActiveHigh := v },
          fun _ _ => rfl⟩)),
    ("tx_enable_behavior", .word
      ((pinsPart isRx).comp
        ⟨(·.txEnableBehavior),
          fun v c => { c with txEnableBehavior := v },
          fun _ _ => rfl⟩)
      parseTxBehavior
      [("none", .none), ("static_asserted", .staticAsserted),
        ("static_deasserted", .staticDeasserted),
        ("assert_during_tx", .assertDuringTxOnly)]
      (by decide))]

def hwFields
    (isRx : Bool) : SubSection → List (String × Field)
| .none => roleFields isRx
| .spi => spiFields isRx
| .gpio => gpioFields isRx
| .pins => pinFields isRx

def loraFields : List (String × Field) :=
  [("frequency_hz", .uint32
      (rfPart.comp
        ⟨(·.frequencyHz),
          fun v c => { c with frequencyHz := v },
          fun _ _ => rfl⟩)),
    ("tx_power_dbm", .int8
      (rfPart.comp
        ⟨(·.txPowerDbm),
          fun v c => { c with txPowerDbm := v },
          fun _ _ => rfl⟩)),
    ("ramp_time", .word
      (rfPart.comp
        ⟨(·.rampTime),
          fun v c => { c with rampTime := v },
          fun _ _ => rfl⟩)
      parseRampTime [("20us", .ramp20us)] (by decide)),
    ("regulator_mode", .word
      (rfPart.comp
        ⟨(·.regulatorMode),
          fun v c => { c with regulatorMode := v },
          fun _ _ => rfl⟩)
      parseRegulatorMode [("dcdc", .useDcdc)] (by decide)),
    ("spreading_factor", .word
      (loraPart.comp
        ⟨(·.spreadingFactor),
          fun v c => { c with spreadingFactor := v },
          fun _ _ => rfl⟩)
      parseSpreadingFactor [("sf7", .sf7)] (by decide)),
    ("bandwidth", .word
      (loraPart.comp
        ⟨(·.bandwidth),
          fun v c => { c with bandwidth := v },
          fun _ _ => rfl⟩)
      parseBandwidth [("bw_0800", .bw0800)] (by decide)),
    ("coding_rate", .word
      (loraPart.comp
        ⟨(·.codingRate),
          fun v c => { c with codingRate := v },
          fun _ _ => rfl⟩)
      parseCodingRate [("cr_4_5", .cr45)] (by decide)),
    ("preamble_length", .uint8
      (loraPart.comp
        ⟨(·.preambleLength),
          fun v c => { c with preambleLength := v },
          fun _ _ => rfl⟩)),
    ("header_type", .word
      (loraPart.comp
        ⟨(·.headerType),
          fun v c => { c with headerType := v },
          fun _ _ => rfl⟩)
      parseHeaderType [("variable_length", .variableLength)]
      (by decide)),
    ("payload_length", .uint8
      (loraPart.comp
        ⟨(·.payloadLength),
          fun v c => { c with payloadLength := v },
          fun _ _ => rfl⟩)),
    ("crc", .word
      (loraPart.comp
        ⟨(·.crc),
          fun v c => { c with crc := v },
          fun _ _ => rfl⟩)
      parseCrcMode [("on", .on), ("off", .off)] (by decide)),
    ("iq_mode", .word
      (loraPart.comp
        ⟨(·.iqMode),
          fun v c => { c with iqMode := v },
          fun _ _ => rfl⟩)
      parseIqMode [("normal", .normal)] (by decide))]

def timeoutFields : List (String × Field) :=
  [("tx_ms", .millis
      (timeoutsPart.comp
        ⟨(·.txTimeout),
          fun v c => { c with txTimeout := v },
          fun _ _ => rfl⟩)),
    ("rx_ms", .millis
      (timeoutsPart.comp
        ⟨(·.rxTimeout),
          fun v c => { c with rxTimeout := v },
          fun _ _ => rfl⟩)),
    ("continuous_rx", .bool
      (timeoutsPart.comp
        ⟨(·.continuousRx),
          fun v c => { c with continuousRx := v },
          fun _ _ => rfl⟩))]

def runtimeFields : List (String × Field) :=
  [("auto_fs", .bool
      (runtimePart.comp
        ⟨(·.autoFs),
          fun v c => { c with autoFs := v },
          fun _ _ => rfl⟩)),
    ("long_preamble", .bool
      (runtimePart.comp
        ⟨(·.longPreamble),
          fun v c => { c with longPreamble := v },
          fun _ _ => rfl⟩)),
    ("use_manual_gain", .bool
      (runtimePart.comp
        ⟨(·.useManualGain),
          fun v c => { c with useManualGain := v },
          fun _ _ => rfl⟩)),
    ("manual_gain_value", .uint8
      (runtimePart.comp
        ⟨(·.manualGainValue),
          fun v c => { c with manualGainValue := v },
          fun _ _ => rfl⟩)),
    ("lna_setting", .word
      (runtimePart.comp
        ⟨(·.lnaSetting),
          fun v c => { c with lnaSetting := v },
          fun _ _ => rfl⟩)
      parseLnaSetting
      [("high_sensitivity", .highSensitivityMode)]
      (by decide))]

/- The keys recognised in a section and sub-section. -/
def fields :
    Section → SubSection → List (String × Field)
| .none, _ => []
| .radiosRx, sub => hwFields true sub
| .radiosTx, sub => hwFields false sub
| .lora, _ => loraFields
| .timeouts, _ => timeoutFields
| .runtime, _ => runtimeFields

/- The field a key addresses. -/
def fieldOf
    (sect : Section)
    (sub : SubSection)
    (key : Text) : Option Field :=
  ((fields sect sub).find? fun f => f.1.toList == key).map
    Prod.snd

end LoRaRadio

------------------------------------------------------------
-- Lines and Files
------------------------------------------------------------

namespace LoRaRadio

open CStrings

structure Loader where
  sect : Section := .none
  sub : SubSection := .none
  cfg : NodeConfig := {}

/- The header lines and what each selects. -/
def headers : List (String × (Loader → Loader)) :=
  [("radios:", ({ · with sect := .none, sub := .none })),
    ("rx:", ({ · with sect := .radiosRx, sub := .none })),
    ("tx:", ({ · with sect := .radiosTx, sub := .none })),
    ("spi:", ({ · with sub := .spi })),
    ("gpio:", ({ · with sub := .gpio })),
    ("pins:", ({ · with sub := .pins })),
    ("lora:", ({ · with sect := .lora, sub := .none })),
    ("timeouts:", ({ · with sect := .timeouts, sub := .none })),
    ("runtime:", ({ · with sect := .runtime, sub := .none }))]

/- The key of a line and the text after its first colon. -/
def splitKey
    (t : Text) : Option (Text × Text) :=
  if ':' ∈ t then
    some (trim (t.takeWhile (· != ':')),
      trim (t.dropWhile (· != ':')).tail)
  else
    none

/- The value taken from the text after the colon. -/
def cleanValue
    (value : Text) : Text :=
  let uncommented :=
    if '#' ∈ value then
      trim (value.takeWhile (· != '#'))
    else
      value
  if uncommented.head? = some '"' then
    stripQuotes uncommented
  else
    uncommented

/- What a line is to the loader. -/
inductive Line
  | skipped
  | header (enter : Loader → Loader)
  | entry (key value : Text)

def readLine
    (line : Text) : Line :=
  let t := trim line
  if t = [] ∨ t.head? = some '#' then
    .skipped
  else
    match headers.find? fun h => h.1.toList == t with
    | some h => .header h.2
    | none =>
        match splitKey t with
        | some (key, value) => .entry key value
        | none => .skipped

/- One turn of the loop over the lines. -/
def Loader.step
    (l : Loader)
    (line : Text) : Loader :=
  match readLine line with
  | .skipped => l
  | .header enter => enter l
  | .entry key value =>
      match fieldOf l.sect l.sub key with
      | some field =>
          { l with
            cfg := field.assign (cleanValue value) l.cfg }
      | none => l

/-
  The lines `std::getline` yields.  The empty line after a
  final newline, which it does not yield, would be skipped.
-/
def fileLines
    (content : Text) : List Text :=
  content.splitOn '\n'

/-
  Load a configuration; `file` is the content of the file,
  if it can be opened.  The results are the error code, the
  caller's configuration and the error text.
-/
def loadNodeConfigFromYaml
    (path : Text)
    (file : Option Text)
    (out : NodeConfig) :
    NodeConfigError × NodeConfig × Text :=
  match file with
  | none =>
      (.ioError, out,
        "failed to open config file: ".toList ++ path)
  | some content =>
      let l := (fileLines content).foldl Loader.step {}
      (.none, l.cfg, [])

end LoRaRadio

------------------------------------------------------------
-- The Parts of a Line
------------------------------------------------------------

namespace LoRaRadio

open CStrings

/- The value with everything from a `#` on cut off. -/
def uncommented
    (value : Text) : Text :=
  if '#' ∈ value then
    trim (value.takeWhile (· != '#'))
  else
    value

theorem cleanValue_eq_stripQuotes
    (value : Text) :
    cleanValue value = stripQuotes (uncommented value) := by
  change
    (if (uncommented value).head? = some '"' then
      stripQuotes (uncommented value)
    else uncommented value) = _
  split
  · rfl
  · next hFirst =>
      unfold stripQuotes
      rw [if_neg fun hQuoted => hFirst hQuoted.2.1]

/- The value of an entry, by the text after the colon. -/
theorem cleanValue_trim
    (rest : Text) :
    cleanValue (trim rest) =
      stripQuotes (trim (rest.takeWhile (· != '#'))) := by
  have hUncommented :
      uncommented (trim rest) =
        trim ((trim rest).takeWhile (· != '#')) := by
    unfold uncommented
    split
    · rfl
    · next hNone => rw [takeWhile_of_not_mem hNone, trim_trim]
  rw [cleanValue_eq_stripQuotes, hUncommented,
    trim_takeWhile_trim (by decide)]

/- The parts of an entry, by the line as it is. -/
theorem splitKey_trim
    (line : Text) :
    splitKey (trim line) =
      if ':' ∈ line then
        some (trim (line.takeWhile (· != ':')),
          trim (line.dropWhile (· != ':')).tail)
      else none := by
  unfold splitKey
  simp only [mem_trim_iff (show isSpace ':' = false by decide),
    trim_takeWhile_trim (show isSpace ':' = false by decide),
    trim_tail_dropWhile_trim
      (show isSpace ':' = false by decide)]

end LoRaRadio
