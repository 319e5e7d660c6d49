import LoRaRadio.Config.WrittenNumbers
import LoRaRadio.Node.Listening
import LoRaRadio.Node.Releases
import LoRaRadio.Radio.BringUpDevice

/-
  The parameters a `start` that succeeds leaves in the
  chips, and when they are those of the configuration and of
  its file.

  Main declarations:
    * `Programmed` and `Started.programmed`
    * `Undistorted` and `FileFits`
    * `undistorted_iff`
    * `continuous_iff`
-/

------------------------------------------------------------
-- Registers
------------------------------------------------------------

namespace LoRaRadio

open Faulting

instance :
    EventProof (Same fun r => r.device.chip.reg) where
  afterCall r := by simp [Same]

/- Only `WRITE_REGISTER` and a reset change registers. -/
theorem tolerates_reg
    {e : Effect}
    (hIssue : e ≠ .issue .writeRegister)
    (hReset : e ≠ .reset) :
    Tolerates (Same fun r => r.device.chip.reg) e := by
  cases e with
  | reset => exact absurd rfl hReset
  | issue op =>
      have hOp : op ≠ .writeRegister :=
        fun hEq => hIssue (hEq ▸ rfl)
      intro r args
      apply Chip.transfer_cases r.device.chip
        (P := fun c => c.reg = r.device.chip.reg)
      · rfl
      · exact fun hEq => absurd hEq hOp
      · intro _ offset bytes
        rfl
      · intro _
        simp
  | _ => exact fun _ _ => rfl

theorem Issues.keeps_reg
    {effects : List Effect}
    {α : Type}
    {m : RadioM α}
    (hIssues : Issues effects α m)
    (hIssue : .issue .writeRegister ∉ effects)
    (hReset : .reset ∉ effects) :
    Keeps (Same fun r => r.device.chip.reg) m :=
  hIssues.keeps fun _ hMem =>
    tolerates_reg (fun hEq => hIssue (hEq ▸ hMem))
      fun hEq => hReset (hEq ▸ hMem)

instance :
    EventProof (Same fun r => r.device.chip.powerOn) where
  afterCall r := by simp [Same]

/- `Init` leaves the registers as a reset leaves them. -/
theorem initRadio_ok
    {r r' : RadioState}
    {u : Unit}
    (hRun : exec initRadio r = (.ok u, r')) :
    r'.device.chip.reg = r.device.chip.powerOn := by
  unfold initRadio reset at hRun
  simp only [exec_bind_ok] at hRun
  rcases hRun with
    ⟨_, r₂, ⟨_, r₁, hLow, hHigh⟩, _, r₃, hWakeup, hRegs⟩
  have hLowReg :
      r₁.device.chip.reg = r.device.chip.powerOn := by
    unfold halGpioWrite at hLow
    rcases exec_bind_ok.mp hLow with ⟨_, r₀, hCall, hReset⟩
    rcases halCall_ok.mp hCall with ⟨_, rfl⟩
    rw [if_pos rfl] at hReset
    cases hReset
    simp [Chip.reset]
  have hHighReg : r₂.device.chip.reg = r₁.device.chip.reg := by
    unfold halGpioWrite at hHigh
    rcases exec_bind_ok.mp hHigh with ⟨_, r₀, hCall, hNothing⟩
    rcases halCall_ok.mp hCall with ⟨_, rfl⟩
    rw [if_neg (by decide)] at hNothing
    cases hNothing
    simp
  have hWakeupReg :
      r₃.device.chip.reg = r₂.device.chip.reg :=
    (issues_wakeup.keeps_reg (by decide) (by decide)).of_exec
      hWakeup
  unfold setRegistersDefault radioRegsInit at hRegs
  cases hRegs
  rw [hWakeupReg, hHighReg, hLowReg]

/- A register that does not show something else. -/
def Reg.Plain
    (address : UInt16) : Prop :=
  address ≠ lrPacketParams ∧ address ≠ lrPayloadLength

/- What an update of a register leaves in all registers. -/
theorem updateRegister_ok
    {address : UInt16}
    {f : UInt8 → UInt8}
    {r r' : RadioState}
    {u : Unit}
    (hPlain : Reg.Plain address)
    (hRun :
      exec (updateRegister address f) r = (.ok u, r'))
    (a : UInt16) :
    r'.device.chip.reg a =
      if a = address then f (r.device.chip.reg address)
      else r.device.chip.reg a := by
  unfold updateRegister at hRun
  rcases exec_bind_ok.mp hRun with
    ⟨value, r₁, hRead, hWrite⟩
  rcases readRegister_ok hRead with ⟨rfl, hValue⟩
  have hPlainValue : value = r.device.chip.reg address := by
    rw [hValue]
    unfold Chip.readReg
    rw [if_neg hPlain.1, if_neg hPlain.2]
    simp
  rw [writeRegister_ok hWrite, hPlainValue]
  simp [Chip.writeReg]

/- The gain register once the gain is configured. -/
theorem configureGain_ok
    {runtime : Sx1280RuntimeConfig}
    {r r' : RadioState}
    {u : Unit}
    (hManual : runtime.useManualGain = true)
    (hRun :
      exec (configureGain runtime) r = (.ok u, r')) :
    r'.device.chip.reg Reg.manualGainValue =
      (r.device.chip.reg Reg.manualGainValue &&& 0xF0) |||
        runtime.manualGainValue := by
  unfold configureGain at hRun
  rw [if_pos hManual] at hRun
  unfold enableManualGain setManualGainValue at hRun
  simp only [exec_bind_ok] at hRun
  rcases hRun with ⟨_, r₁, ⟨_, r₂, hFirst, hSecond⟩, hThird⟩
  have hGain :=
    updateRegister_ok (by unfold Reg.Plain; decide) hThird
      Reg.manualGainValue
  have hDemod :=
    updateRegister_ok (by unfold Reg.Plain; decide) hSecond
      Reg.manualGainValue
  have hControl :=
    updateRegister_ok (by unfold Reg.Plain; decide) hFirst
      Reg.manualGainValue
  rw [if_pos rfl] at hGain
  rw [if_neg (by decide)] at hDemod hControl
  rw [hGain, hDemod, hControl]

end LoRaRadio

------------------------------------------------------------
-- What Is Programmed
------------------------------------------------------------

namespace LoRaRadio

open Faulting

/- The parameter bytes of `SET_RFFREQUENCY`. -/
def frequencyBytes
    (rfFrequency : UInt32) : List UInt8 :=
  let freq := frequencySteps rfFrequency
  [UInt8.ofNat (freq / 2 ^ 16), UInt8.ofNat (freq / 2 ^ 8),
    UInt8.ofNat freq]

/- The parameter bytes of `SET_TXPARAMS`. -/
def txParamBytes
    (rf : Sx1280RfConfig) : List UInt8 :=
  [UInt8.ofInt (rf.txPowerDbm.toInt + 18), rf.rampTime.code]

/-
  The chip `after` has been configured, and `before` was its
  state when it was opened.  `Init` resets the chip, so the
  register of the gain had its power-on value.
-/
structure Programmed
    (config : Sx1280Config)
    (before after : Chip) : Prop where
  frequency :
    after.cmd .setRfFrequency =
      frequencyBytes config.rf.frequencyHz
  txParams :
    after.cmd .setTxParams = txParamBytes config.rf
  gain :
    config.runtime.useManualGain = true →
      after.reg Reg.manualGainValue =
        (before.powerOn Reg.manualGainValue &&& 0xF0) |||
          config.runtime.manualGainValue

variable {config : Sx1280Config}

theorem configureCarrier_ok
    {r r' : RadioState}
    {u : Unit}
    (hRun :
      exec (configureCarrier config) r = (.ok u, r')) :
    r'.device.chip.cmd .setRfFrequency =
        frequencyBytes config.rf.frequencyHz ∧
      r'.device.chip.cmd .setTxParams =
        txParamBytes config.rf := by
  unfold configureCarrier setRfFrequency setTxParams
    setBufferBaseAddresses at hRun
  simp only [exec_bind_ok] at hRun
  rcases hRun with ⟨_, r₁, hFrequency, _, r₂, hParams, hBase⟩
  rw [writeCommand_ok (by decide) (by decide) hBase,
    writeCommand_ok (by decide) (by decide) hParams,
    writeCommand_ok (by decide) (by decide) hFrequency]
  simp [frequencyBytes, txParamBytes]

theorem configureRuntime_ok
    {runtime : Sx1280RuntimeConfig}
    {r r' : RadioState}
    {u : Unit}
    (hManual : runtime.useManualGain = true)
    (hRun :
      exec (configureRuntime runtime) r = (.ok u, r')) :
    r'.device.chip.reg Reg.manualGainValue =
      (r.device.chip.reg Reg.manualGainValue &&& 0xF0) |||
        runtime.manualGainValue := by
  unfold configureRuntime at hRun
  simp only [exec_bind_ok] at hRun
  rcases hRun with
    ⟨_, r₁, hAuto, _, r₂, hLong, _, r₃, hGain, hLna⟩
  have hLast :
      r'.device.chip.reg Reg.manualGainValue =
        r₃.device.chip.reg Reg.manualGainValue := by
    unfold setLNAGainSetting at hLna
    split at hLna
    · rw [updateRegister_ok (by unfold Reg.Plain; decide)
        hLna, if_neg (by decide)]
    · rw [updateRegister_ok (by unfold Reg.Plain; decide)
        hLna, if_neg (by decide)]
  rw [hLast, configureGain_ok hManual hGain,
    writeCommand_ok (by decide) (by decide) hLong,
    writeCommand_ok (by decide) (by decide) hAuto]
  simp

/- A radio whose `configure_radio` returned is programmed. -/
theorem programmed_configureRadio
    {r r' : RadioState}
    {u : Unit}
    (hRun :
      exec (configureRadio config) r = (.ok u, r')) :
    Programmed config r.device.chip r'.device.chip := by
  unfold configureRadio at hRun
  simp only [exec_bind_ok] at hRun
  rcases hRun with
    ⟨_, r₁, hInit, _, r₂, hModem, _, r₃, hCarrier, hRuntime⟩
  rcases configureCarrier_ok hCarrier with
    ⟨hFrequency, hParams⟩
  have hIssues := issues_configureRuntime config.runtime
  have hKeptFrequency :=
    (hIssues.keeps_cmd .setRfFrequency (by decide)
      (by decide)).of_exec hRuntime
  have hKeptParams :=
    (hIssues.keeps_cmd .setTxParams (by decide)
      (by decide)).of_exec hRuntime
  have hModemReg :=
    ((issues_configureModem config).keeps_reg (by decide)
      (by decide)).of_exec hModem
  have hCarrierReg :=
    ((issues_configureCarrier config).keeps_reg (by decide)
      (by decide)).of_exec hCarrier
  have hReg : r₃.device.chip.reg = r.device.chip.powerOn :=
    (hCarrierReg.trans hModemReg).trans (initRadio_ok hInit)
  refine ⟨hKeptFrequency.trans hFrequency,
    hKeptParams.trans hParams, fun hManual => ?_⟩
  rw [configureRuntime_ok hManual hRuntime, hReg]

/- Commands that touch none of these keep them. -/
theorem Issues.keeps_programmed
    {effects : List Effect}
    {m : RadioM Unit}
    {before : Chip}
    {r r' : RadioState}
    {u : Unit}
    (hIssues : Issues effects Unit m)
    (hFrequency : .issue .setRfFrequency ∉ effects)
    (hParams : .issue .setTxParams ∉ effects)
    (hWrite : .issue .writeRegister ∉ effects)
    (hReset : .reset ∉ effects)
    (hRun : exec m r = (.ok u, r'))
    (hProgrammed : Programmed config before r.device.chip) :
    Programmed config before r'.device.chip := by
  have hKeptFrequency :=
    (hIssues.keeps_cmd .setRfFrequency hFrequency
      hReset).of_exec hRun
  have hKeptParams :=
    (hIssues.keeps_cmd .setTxParams hParams hReset).of_exec
      hRun
  have hReg : r'.device.chip.reg = r.device.chip.reg :=
    (hIssues.keeps_reg hWrite hReset).of_exec hRun
  refine ⟨hKeptFrequency.trans hProgrammed.frequency,
    hKeptParams.trans hProgrammed.txParams, ?_⟩
  rw [hReg]
  exact hProgrammed.gain

/- The constructor opens the same chip. -/
theorem LinuxSx1280RadioConfig.Makes.powerOn
    {hw : LinuxSx1280RadioConfig}
    {d d' : Device}
    (hMakes : hw.Makes d d') :
    d'.chip.powerOn = d.chip.powerOn := by
  rcases hMakes with ⟨k, k', hRun⟩
  have hKept :=
    keeps_construct (f := fun d => d.chip.powerOn)
      (fun _ _ => rfl) hw
  exact hKept.of_exec hRun

/- Both radios of a node that came up are programmed. -/
theorem Started.programmed
    {s s' : NodeState}
    {rx rx' tx tx' : RadioState}
    (hStarted : Started s s' rx rx' tx tx')
    (side : Side) :
    Programmed s.node.config.radio (s.device side).chip
      (s'.device side).chip := by
  rcases hStarted.rxConfigured with ⟨d, hMakes, hRx⟩
  rcases hStarted.txConfigured with ⟨d', hMakes', hTx⟩
  rcases exec_bind_ok.mp hStarted.rxStarted with
    ⟨_, r, hMask, hSetRx⟩
  cases side with
  | rx =>
      have hConfigured := programmed_configureRadio hRx
      have hMasked :=
        (issues_setDioIrqParams nodeIrqMask nodeIrqMask 0 0
          ).keeps_programmed (by decide) (by decide)
          (by decide) (by decide) hMask hConfigured
      have hReceiving :=
        (issues_setRx _).keeps_programmed (by decide)
          (by decide) (by decide) (by decide) hSetRx hMasked
      change Programmed _ s.rxDevice.chip s'.rxDevice.chip
      rw [hStarted.rxDevice]
      refine ⟨hReceiving.frequency, hReceiving.txParams, ?_⟩
      rw [← hMakes.powerOn]
      exact hReceiving.gain
  | tx =>
      have hConfigured := programmed_configureRadio hTx
      have hMasked :=
        (issues_setDioIrqParams nodeIrqMask 0 0 0
          ).keeps_programmed (by decide) (by decide)
          (by decide) (by decide) hStarted.txStarted
          hConfigured
      change Programmed _ s.txDevice.chip s'.txDevice.chip
      rw [hStarted.txDevice]
      refine ⟨hMasked.frequency, hMasked.txParams, ?_⟩
      rw [← hMakes'.powerOn]
      exact hMasked.gain

end LoRaRadio

------------------------------------------------------------
-- Values That Fit Their Fields
------------------------------------------------------------

namespace LoRaRadio

/-
  The parameters in the chip `after` decode to those of the
  configuration: the power byte, the 24-bit frequency word
  in steps of 52000000 / 2^18 Hz, and the two halves of the
  gain register.
-/
structure Undistorted
    (config : Sx1280Config)
    (before after : Chip) : Prop where
  power :
    ∃ power ramp,
      after.cmd .setTxParams = [power, ramp] ∧
        power.toNat ≤ 31 ∧
          (power.toNat : Int) =
            config.rf.txPowerDbm.toInt + 18
  frequency :
    ∃ hi mid lo,
      after.cmd .setRfFrequency = [hi, mid, lo] ∧
        let w :=
          hi.toNat * 2 ^ 16 + mid.toNat * 2 ^ 8 + lo.toNat
        let scaled := config.rf.frequencyHz.toNat * 2 ^ 18
        w * 52000000 ≤ scaled ∧ scaled < (w + 1) * 52000000
  gain :
    config.runtime.useManualGain = true →
      after.reg Reg.manualGainValue &&& 0xF0 =
          before.powerOn Reg.manualGainValue &&& 0xF0 ∧
        after.reg Reg.manualGainValue &&& 0x0F =
          config.runtime.manualGainValue

/- The values of the configuration fit the chip's fields. -/
structure FitsChip
    (config : Sx1280Config) : Prop where
  power :
    -18 ≤ config.rf.txPowerDbm.toInt ∧
      config.rf.txPowerDbm.toInt ≤ 13
  frequency : config.rf.frequencyHz.toNat < 3328000000
  gain :
    config.runtime.useManualGain = true →
      config.runtime.manualGainValue ≤ 15

/- The power byte is the offset power if that fits. -/
theorem power_iff
    (power : Int8) :
    ((UInt8.ofInt (power.toInt + 18)).toNat ≤ 31 ∧
        ((UInt8.ofInt (power.toInt + 18)).toNat : Int) =
          power.toInt + 18) ↔
      -18 ≤ power.toInt ∧ power.toInt ≤ 13 := by
  have hLow := power.le_toInt
  have hHigh := power.toInt_lt
  have hByte :
      (UInt8.ofInt (power.toInt + 18)).toNat =
        ((power.toInt + 18) % 2 ^ 8).toNat := by
    unfold UInt8.ofInt
    rw [UInt8.toNat_ofNat']
    omega
  rw [hByte]
  omega

/- The frequency word is exact if it has 24 bits. -/
theorem frequency_iff
    (frequencyHz : UInt32) :
    (let freq := frequencySteps frequencyHz
    let w :=
      (UInt8.ofNat (freq / 2 ^ 16)).toNat * 2 ^ 16 +
        (UInt8.ofNat (freq / 2 ^ 8)).toNat * 2 ^ 8 +
        (UInt8.ofNat freq).toNat
    let scaled := frequencyHz.toNat * 2 ^ 18
    w * 52000000 ≤ scaled ∧ scaled < (w + 1) * 52000000) ↔
      frequencyHz.toNat < 3328000000 := by
  have hSteps :
      frequencySteps frequencyHz * 52000000 ≤
          frequencyHz.toNat * 2 ^ 18 ∧
        frequencyHz.toNat * 2 ^ 18 <
          (frequencySteps frequencyHz + 1) * 52000000 := by
    unfold frequencySteps
    omega
  have hWord : ∀ n : Nat,
      (UInt8.ofNat (n / 2 ^ 16)).toNat * 2 ^ 16 +
          (UInt8.ofNat (n / 2 ^ 8)).toNat * 2 ^ 8 +
          (UInt8.ofNat n).toNat =
        n % 2 ^ 24 := by
    intro n
    simp only [UInt8.toNat_ofNat']
    omega
  dsimp only
  rw [hWord]
  constructor
  · intro hExact
    have hLess :
        frequencySteps frequencyHz % 2 ^ 24 < 2 ^ 24 :=
      Nat.mod_lt _ (by decide)
    omega
  · intro hFits
    have hSmall : frequencySteps frequencyHz < 2 ^ 24 := by
      omega
    rw [Nat.mod_eq_of_lt hSmall]
    exact hSteps

theorem nibble_of_le
    (gain : UInt8)
    (hGain : gain ≤ 15) :
    gain &&& 0xF0 = 0 ∧ gain &&& 0x0F = gain := by
  have hAll : ∀ n < 16,
      UInt8.ofNat n &&& 0xF0 = 0 ∧
        UInt8.ofNat n &&& 0x0F = UInt8.ofNat n := by
    decide
  have hBound := UInt8.le_iff_toNat_le.mp hGain
  have hByte := hAll gain.toNat (Nat.lt_succ_of_le hBound)
  rwa [UInt8.ofNat_toNat] at hByte

theorem nibble_le
    (value : UInt8) :
    value &&& 0x0F ≤ 15 := by
  rw [UInt8.le_iff_toNat_le, UInt8.toNat_and]
  exact Nat.and_le_right

/- The gain register holds both halves if the gain is one. -/
theorem gain_iff
    (value gain : UInt8) :
    (((value &&& 0xF0) ||| gain) &&& 0xF0 = value &&& 0xF0 ∧
        ((value &&& 0xF0) ||| gain) &&& 0x0F = gain) ↔
      gain ≤ 15 := by
  constructor
  · intro hHalves
    rw [← hHalves.2]
    exact nibble_le _
  · intro hGain
    rcases nibble_of_le gain hGain with ⟨hUpper, hLower⟩
    have hSplit : ∀ m : UInt8,
        ((value &&& 0xF0) ||| gain) &&& m =
          (value &&& (0xF0 &&& m)) ||| (gain &&& m) := by
      intro m
      apply UInt8.toBitVec_inj.mp
      simp only [UInt8.toBitVec_and, UInt8.toBitVec_or]
      rw [BitVec.and_or_distrib_right, BitVec.and_assoc]
    rw [hSplit, hSplit, hUpper, hLower]
    have hDisjoint : (0xF0 : UInt8) &&& 0x0F = 0 := by decide
    rw [hDisjoint]
    simp

/- What is programmed is undistorted if it fits. -/
theorem Programmed.undistorted_iff_fits
    {config : Sx1280Config}
    {before after : Chip}
    (hProgrammed : Programmed config before after) :
    Undistorted config before after ↔ FitsChip config := by
  constructor
  · intro hUndistorted
    refine ⟨?_, ?_, fun hManual => ?_⟩
    · rcases hUndistorted.power with
        ⟨power, ramp, hBytes, hPower⟩
      rw [hProgrammed.txParams] at hBytes
      cases hBytes
      exact (power_iff _).mp hPower
    · rcases hUndistorted.frequency with
        ⟨hi, mid, lo, hBytes, hWord⟩
      rw [hProgrammed.frequency] at hBytes
      cases hBytes
      exact (frequency_iff _).mp hWord
    · have hHalves := hUndistorted.gain hManual
      rw [hProgrammed.gain hManual] at hHalves
      exact (gain_iff _ _).mp hHalves
  · intro hFits
    refine ⟨?_, ?_, fun hManual => ?_⟩
    · exact ⟨_, _, hProgrammed.txParams,
        (power_iff _).mpr hFits.power⟩
    · exact ⟨_, _, _, hProgrammed.frequency,
        (frequency_iff _).mpr hFits.frequency⟩
    · rw [hProgrammed.gain hManual]
      exact (gain_iff _ _).mpr (hFits.gain hManual)

end LoRaRadio

------------------------------------------------------------
-- Files Whose Values Fit
------------------------------------------------------------

namespace LoRaRadio

open Faulting

/- The numbers the file gives fit the chip's fields. -/
@[mk_iff fileFits_def]
structure FileFits
    (content : Text) : Prop where
  numbers : NumbersFit content
  power :
    ∀ n ∈ lastIn content .lora "tx_power_dbm" writtenNumber,
      -18 ≤ n ∧ n ≤ 13
  frequency :
    ∀ n ∈ lastIn content .lora "frequency_hz" writtenNumber,
      n < 3328000000
  gain :
    lastIn content .runtime "use_manual_gain" parseBool =
        some true →
      ∀ n ∈ lastIn content .runtime "manual_gain_value"
          writtenNumber,
        n ≤ 15

instance
    (content : Text) :
    Decidable (FileFits content) :=
  decidable_of_iff _ (fileFits_def content).symm

section Files

variable {path content text : Text}
variable {out cfg : NodeConfig}

/- A value other than the default was given. -/
theorem given_of_getD
    {α : Type}
    {given : Option α}
    {otherwise v : α}
    (hValue : given.getD otherwise = v)
    (hOther : otherwise ≠ v) :
    given = some v := by
  cases given with
  | none => exact absurd hValue hOther
  | some v' => exact congrArg some hValue

theorem power_fits_iff
    (hLoad :
      loadNodeConfigFromYaml path (some content) out =
        (.none, cfg, text))
    (hLoaded : LoadedAsWritten content cfg) :
    -18 ≤ cfg.radio.rf.txPowerDbm.toInt ∧
        cfg.radio.rf.txPowerDbm.toInt ≤ 13 ↔
      ∀ n ∈ lastIn content .lora "tx_power_dbm" writtenNumber,
        -18 ≤ n ∧ n ≤ 13 := by
  have hPower :=
    number_iff (P := fun n => -18 ≤ n ∧ n ≤ 13) .lora
      "tx_power_dbm" hLoad hLoaded rfl rfl (by decide)
  exact hPower

theorem frequency_fits_iff
    (hLoad :
      loadNodeConfigFromYaml path (some content) out =
        (.none, cfg, text))
    (hLoaded : LoadedAsWritten content cfg) :
    cfg.radio.rf.frequencyHz.toNat < 3328000000 ↔
      ∀ n ∈ lastIn content .lora "frequency_hz" writtenNumber,
        n < 3328000000 := by
  have hFrequency :=
    number_iff (P := fun n => n < 3328000000) .lora
      "frequency_hz" hLoad hLoaded rfl rfl (by decide)
  rw [← Int.ofNat_lt]
  exact hFrequency

theorem gain_fits_iff
    (hLoad :
      loadNodeConfigFromYaml path (some content) out =
        (.none, cfg, text))
    (hLoaded : LoadedAsWritten content cfg) :
    cfg.radio.runtime.manualGainValue ≤ 15 ↔
      ∀ n ∈ lastIn content .runtime "manual_gain_value"
          writtenNumber,
        n ≤ 15 := by
  have hGain :=
    number_iff (P := fun n => n ≤ 15) .runtime
      "manual_gain_value" hLoad hLoaded rfl rfl (by decide)
  rw [UInt8.le_iff_toNat_le, ← Int.ofNat_le]
  exact hGain

/- The chip's fields are wide enough for what is written. -/
theorem fileFits_iff
    (hLoad :
      loadNodeConfigFromYaml path (some content) out =
        (.none, cfg, text)) :
    FitsChip cfg.radio ∧ LoadedAsWritten content cfg ↔
      FileFits content := by
  have hManual :
      cfg.radio.runtime.useManualGain =
        (lastIn content .runtime "use_manual_gain"
          parseBool).getD false := by
    have hValue :=
      loaded_value .runtime "use_manual_gain" hLoad rfl
    exact hValue
  constructor
  · rintro ⟨hFits, hLoaded⟩
    refine ⟨(loadedAsWritten_iff hLoad).mp hLoaded,
      (power_fits_iff hLoad hLoaded).mp hFits.power,
      (frequency_fits_iff hLoad hLoaded).mp hFits.frequency,
      fun hOn => ?_⟩
    rw [hOn] at hManual
    exact (gain_fits_iff hLoad hLoaded).mp
      (hFits.gain hManual)
  · intro hFits
    have hLoaded := (loadedAsWritten_iff hLoad).mpr
      hFits.numbers
    refine ⟨⟨(power_fits_iff hLoad hLoaded).mpr hFits.power,
      (frequency_fits_iff hLoad hLoaded).mpr hFits.frequency,
      fun hOn => ?_⟩, hLoaded⟩
    have hSet :
        lastIn content .runtime "use_manual_gain" parseBool =
          some true :=
      given_of_getD (hManual.symm.trans hOn) (by decide)
    exact (gain_fits_iff hLoad hLoaded).mpr
      (hFits.gain hSet)

/-
  A node that comes up with a loaded configuration has
  programmed its radios without distortion, and has the
  numbers of the file in its configuration, exactly if
  these numbers fit the fields and the chip's fields.
-/
theorem undistorted_iff
    {s s' : NodeState}
    (hLoad :
      loadNodeConfigFromYaml path (some content) out =
        (.none, cfg, text))
    (hConfig : s.node.config = cfg)
    (hIdle : s.node.started = false)
    (hStart : exec start s = (.ok true, s')) :
    (∀ side,
        Undistorted cfg.radio (s.device side).chip
          (s'.device side).chip) ∧
        LoadedAsWritten content cfg ↔
      FileFits content := by
  rcases start_ok_true hIdle hStart with
    ⟨rx, rx', tx, tx', hStarted⟩
  have hProgrammed := hStarted.programmed
  rw [hConfig] at hProgrammed
  rw [← fileFits_iff hLoad]
  refine and_congr_left fun _ => ?_
  constructor
  · exact fun hAll =>
      (hProgrammed .rx).undistorted_iff_fits.mp (hAll .rx)
  · exact fun hFits side =>
      (hProgrammed side).undistorted_iff_fits.mpr hFits

end Files

/- Settings for radios with four different lines. -/
def pinnedYaml
    (settings : String) : Text :=
  ("radios:\n  rx:\n    pins:\n      reset: 22\n" ++
    "      busy: 23\n  tx:\n    pins:\n      reset: 5\n" ++
    "      busy: 6\n" ++ settings).toList

/- A node created from the configuration they load to. -/
def loadedNode
    (settings : String) : NodeState where
  node :=
    { config :=
        (loadNodeConfigFromYaml [] (some (pinnedYaml settings))
          {}).2.1 }

theorem loadedNode_loads
    (settings : String) :
    loadNodeConfigFromYaml [] (some (pinnedYaml settings)) {} =
      (.none, (loadedNode settings).node.config, []) := by
  unfold loadedNode
  rw [loadNodeConfigFromYaml_eq]

/- Settings in range, with a window that ends. -/
def fittedSettings : String :=
  "lora:\n  frequency_hz: 2450000000\n  tx_power_dbm: -5\n" ++
    "timeouts:\n  rx_ms: 500\n  continuous_rx: false\n" ++
    "runtime:\n  use_manual_gain: true\n" ++
    "  manual_gain_value: 7\n"

def fittedNode : NodeState := loadedNode fittedSettings

theorem fittedNode_loads :
    loadNodeConfigFromYaml [] (some (pinnedYaml fittedSettings))
        {} =
      (.none, fittedNode.node.config, []) :=
  loadedNode_loads fittedSettings

def fittedNodeUp : NodeState := (exec start fittedNode).2

theorem fittedNode_starts :
    exec start fittedNode = (.ok true, fittedNodeUp) :=
  exec_of_fst (by decide +kernel)

theorem fittedSettings_fit :
    FileFits (pinnedYaml fittedSettings) := by
  decide +kernel

theorem undistorted_iff_fitted :
    (∀ side,
        Undistorted fittedNode.node.config.radio
          (fittedNode.device side).chip
          (fittedNodeUp.device side).chip) ∧
      LoadedAsWritten (pinnedYaml fittedSettings)
        fittedNode.node.config :=
  (undistorted_iff fittedNode_loads rfl rfl
    fittedNode_starts).mpr fittedSettings_fit

/-
  A file can ask for 20 dBm.  It is accepted, and the power
  byte is 38, which is not in [0..31].
-/
def loudNode : NodeState :=
  loadedNode "lora:\n  tx_power_dbm: 20\n"

theorem loudNode_distorted :
    (exec start loudNode).1 = .ok true ∧
      ¬ Undistorted loudNode.node.config.radio
        (loudNode.device .tx).chip
        ((exec start loudNode).2.device .tx).chip := by
  have hRun :
      (exec start loudNode).1 = .ok true ∧
        ((exec start loudNode).2.device .tx).chip.cmd
          .setTxParams = [38, 0xE0] := by decide +kernel
  refine ⟨hRun.1, fun hUndistorted => ?_⟩
  rcases hUndistorted.power with ⟨power, ramp, hBytes, hLe, -⟩
  rw [hRun.2] at hBytes
  cases hBytes
  exact absurd hLe (by decide)

end LoRaRadio

------------------------------------------------------------
-- The Receive Window
------------------------------------------------------------

namespace LoRaRadio

open Faulting

theorem setRx_bytes
    {timeout : TickTime}
    {r r' : RadioState}
    {u : Unit}
    (hRun : exec (setRx timeout) r = (.ok u, r')) :
    r'.device.chip.cmd .setRx = tickBytes timeout := by
  unfold setRx at hRun
  simp only [exec_bind_ok] at hRun
  rcases hRun with
    ⟨_, r₁, hClear, _, r₂, hRole, _, r₃, hPostTx, _, r₄,
      hPreRx, _, r₅, hCommand, hMode⟩
  cases hMode
  simp [writeCommand_ok (by decide) (by decide) hCommand]

theorem Started.setRx
    {s s' : NodeState}
    {rx rx' tx tx' : RadioState}
    (hStarted : Started s s' rx rx' tx tx') :
    s'.rxDevice.chip.cmd .setRx =
      tickBytes (rxTimeout s.node.config.radio.timeouts) := by
  rcases exec_bind_ok.mp hStarted.rxStarted with
    ⟨_, r, hMask, hSetRx⟩
  rw [hStarted.rxDevice]
  exact setRx_bytes hSetRx

/- The largest period count that ends. -/
def largestFiniteCount : Nat := 0xFFFE

/-
  The window with this base and count is as configured: it
  is continuous exactly with `continuous_rx`, and otherwise
  has `rx_ms` milliseconds as far as a finite window can.
-/
structure AsConfigured
    (content : Text)
    (timeouts : Sx1280TimeoutConfig)
    (base : UInt8)
    (count : UInt16) : Prop where
  continuous : count = 0xFFFF ↔ timeouts.continuousRx = true
  finite :
    timeouts.continuousRx = false →
      ∀ v,
        lastIn content .timeouts "rx_ms" parseUint32 =
            some v →
          0 < v.toNat →
            base = RadioTickSizes.tick1000us.code ∧
              count.toNat = min v.toNat largestFiniteCount

/- The chip was given a window that is as configured. -/
def ListensAsConfigured
    (content : Text)
    (timeouts : Sx1280TimeoutConfig)
    (chip : Chip) : Prop :=
  ∃ base hi lo,
    chip.cmd .setRx = [base, hi, lo] ∧
      AsConfigured content timeouts base (word hi lo)

/- The file's finite window is below the special value. -/
def WindowFits
    (content : Text) : Prop :=
  lastIn content .timeouts "continuous_rx" parseBool =
      some false →
    ∀ v,
      lastIn content .timeouts "rx_ms" parseUint32 = some v →
        v.toNat < 0xFFFF

section Files

variable {path content text : Text}
variable {out cfg : NodeConfig}

/- The configured window, by what the file says. -/
theorem loaded_rxTimeout
    (hLoad :
      loadNodeConfigFromYaml path (some content) out =
        (.none, cfg, text)) :
    cfg.radio.timeouts.rxTimeout =
      ((lastIn content .timeouts "rx_ms" parseUint32).map
        clampMillis).getD ⟨.tick1000us, 2000⟩ := by
  have hValue := loaded_value .timeouts "rx_ms" hLoad rfl
  rw [lastIn, ← lastAccepted_map]
  exact hValue

theorem loaded_continuousRx
    (hLoad :
      loadNodeConfigFromYaml path (some content) out =
        (.none, cfg, text)) :
    cfg.radio.timeouts.continuousRx =
      (lastIn content .timeouts "continuous_rx"
        parseBool).getD true := by
  have hValue :=
    loaded_value .timeouts "continuous_rx" hLoad rfl
  exact hValue

/- The two bytes of the count are read back as the count. -/
theorem listensAsConfigured_iff
    {timeouts : Sx1280TimeoutConfig}
    {timeout : TickTime}
    {chip : Chip}
    (hBytes : chip.cmd .setRx = tickBytes timeout) :
    ListensAsConfigured content timeouts chip ↔
      AsConfigured content timeouts timeout.periodBase.code
        timeout.periodBaseCount := by
  unfold ListensAsConfigured
  rw [hBytes]
  unfold tickBytes
  constructor
  · rintro ⟨base, hi, lo, hEq, hConfigured⟩
    cases hEq
    rwa [word_hiByte_loByte] at hConfigured
  · intro hConfigured
    refine ⟨_, _, _, rfl, ?_⟩
    rwa [word_hiByte_loByte]

/- A window in continuous mode is as configured. -/
theorem asConfigured_of_continuous
    {timeouts : Sx1280TimeoutConfig}
    (hOn : timeouts.continuousRx = true) :
    AsConfigured content timeouts
      (rxTimeout timeouts).periodBase.code
      (rxTimeout timeouts).periodBaseCount := by
  refine ⟨?_, ?_⟩
  · simp [rxTimeout, hOn]
  · intro hOff
    rw [hOn] at hOff
    cases hOff

/- A finite one is if it is not clamped to the special one. -/
theorem asConfigured_iff_of_finite
    (hLoad :
      loadNodeConfigFromYaml path (some content) out =
        (.none, cfg, text))
    (hOff : cfg.radio.timeouts.continuousRx = false) :
    AsConfigured content cfg.radio.timeouts
        (rxTimeout cfg.radio.timeouts).periodBase.code
        (rxTimeout cfg.radio.timeouts).periodBaseCount ↔
      ∀ v,
        lastIn content .timeouts "rx_ms" parseUint32 =
            some v →
          v.toNat < 0xFFFF := by
  have hSame :
      rxTimeout cfg.radio.timeouts =
        cfg.radio.timeouts.rxTimeout := by
    unfold rxTimeout
    rw [if_neg (by simp [hOff])]
  have hTimeout := loaded_rxTimeout hLoad
  rw [hSame, hTimeout]
  constructor
  · intro hConfigured v hLast
    have hNot := mt hConfigured.continuous.mp (by simp [hOff])
    rw [hLast] at hNot
    have hCount := clampMillis_count v
    by_contra hLarge
    apply hNot
    apply UInt16.toNat_inj.mp
    simp only [Option.map_some, Option.getD_some]
    rw [hCount, Nat.min_eq_right (Nat.le_of_not_lt hLarge)]
    rfl
  · intro hSmall
    cases hLast :
        lastIn content .timeouts "rx_ms" parseUint32 with
    | none =>
        refine ⟨by simp [hOff], fun _ v hSome => ?_⟩
        rw [hLast] at hSome
        cases hSome
    | some v =>
        have hLt := hSmall v hLast
        have hCount := clampMillis_count v
        rw [Nat.min_eq_left (Nat.le_of_lt hLt)] at hCount
        refine ⟨?_, fun _ v' hSome hPos => ⟨rfl, ?_⟩⟩
        · simp only [Option.map_some, Option.getD_some, hOff,
            Bool.false_eq_true, iff_false]
          intro hSpecial
          rw [hSpecial] at hCount
          exact Nat.ne_of_gt hLt hCount
        · rw [hLast] at hSome
          cases hSome
          simp only [Option.map_some, Option.getD_some]
          exact hCount.trans
            (Nat.min_eq_left (Nat.le_of_lt_succ hLt)).symm

/-
  The receive window of a node that comes up is as configured
  exactly if a finite window is shorter than 65535 ms, the
  count that the chip takes for continuous reception.
-/
theorem continuous_iff
    {s s' : NodeState}
    (hLoad :
      loadNodeConfigFromYaml path (some content) out =
        (.none, cfg, text))
    (hConfig : s.node.config = cfg)
    (hIdle : s.node.started = false)
    (hStart : exec start s = (.ok true, s')) :
    ListensAsConfigured content cfg.radio.timeouts
        s'.rxDevice.chip ↔
      WindowFits content := by
  rcases start_ok_true hIdle hStart with
    ⟨rx, rx', tx, tx', hStarted⟩
  have hBytes := hStarted.setRx
  rw [hConfig] at hBytes
  rw [listensAsConfigured_iff hBytes]
  cases hContinuous : cfg.radio.timeouts.continuousRx with
  | true =>
      refine iff_of_true
        (asConfigured_of_continuous hContinuous)
        fun hOff => ?_
      rw [loaded_continuousRx hLoad, hOff] at hContinuous
      cases hContinuous
  | false =>
      rw [asConfigured_iff_of_finite hLoad hContinuous]
      have hOff :
          lastIn content .timeouts "continuous_rx"
            parseBool = some false := by
        rw [loaded_continuousRx hLoad] at hContinuous
        exact given_of_getD hContinuous (by decide)
      exact ⟨fun hAll _ => hAll, fun hFits => hFits hOff⟩

end Files

theorem fittedSettings_window :
    WindowFits (pinnedYaml fittedSettings) := by
  intro _ v hLast
  have hGiven :
      lastIn (pinnedYaml fittedSettings) .timeouts "rx_ms"
        parseUint32 = some 500 := by
    decide +kernel
  cases hGiven.symm.trans hLast
  decide

theorem continuous_iff_fitted :
    ListensAsConfigured (pinnedYaml fittedSettings)
      fittedNode.node.config.radio.timeouts
      fittedNodeUp.rxDevice.chip :=
  (continuous_iff fittedNode_loads rfl rfl
    fittedNode_starts).mpr fittedSettings_window

/-
  A window of 70000 ms is asked for, without continuous
  reception.  The clamp makes it continuous.
-/
def longWindow : String :=
  "timeouts:\n  rx_ms: 70000\n  continuous_rx: false\n"

def longWindowNode : NodeState := loadedNode longWindow

theorem longWindow_continuous :
    (exec start longWindowNode).1 = .ok true ∧
      ¬ ListensAsConfigured (pinnedYaml longWindow)
        longWindowNode.node.config.radio.timeouts
        (exec start longWindowNode).2.rxDevice.chip := by
  have hRun :
      (exec start longWindowNode).1 = .ok true ∧
        (exec start longWindowNode).2.rxDevice.chip.cmd
            .setRx = [0x02, 0xFF, 0xFF] ∧
          (longWindowNode.node.config.radio.timeouts
            ).continuousRx = false := by decide +kernel
  refine ⟨hRun.1, ?_⟩
  rintro ⟨base, hi, lo, hBytes, hConfigured⟩
  rw [hRun.2.1] at hBytes
  cases hBytes
  have hOn := hConfigured.continuous.mp (by decide)
  rw [hRun.2.2] at hOn
  cases hOn

end LoRaRadio
