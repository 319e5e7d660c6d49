import LoRaRadio.Node.LoRaNode
import LoRaRadio.Radio.BringUpLemmas
import LoRaRadio.Radio.Observations

/-
  How the node's operations run: calling a method of one of
  its radios, making and destroying a radio, and what a
  method leaves alone.

  Main declarations:
    * `post_onOwned` and `post_onLocal`
    * `post_makeRadio`
    * `held_destroy`
    * `issues_configureRadio`
-/

------------------------------------------------------------
-- Node States
------------------------------------------------------------

namespace LoRaRadio

namespace NodeState

variable (s : NodeState)

@[simp] theorem radio_setRadio
    (side side' : Side)
    (radio : Option LinuxSx1280Radio) :
    (s.setRadio side radio).radio side' =
      if side' = side then radio else s.radio side' := by
  cases side <;> cases side' <;> rfl

@[simp] theorem device_setRadio
    (side side' : Side)
    (radio : Option LinuxSx1280Radio) :
    (s.setRadio side radio).device side' =
      s.device side' := by
  cases side <;> cases side' <;> rfl

@[simp] theorem radio_setDevice
    (side side' : Side)
    (d : Device) :
    (s.setDevice side d).radio side' = s.radio side' := by
  cases side <;> cases side' <;> rfl

@[simp] theorem device_setDevice
    (side side' : Side)
    (d : Device) :
    (s.setDevice side d).device side' =
      if side' = side then d else s.device side' := by
  cases side <;> cases side' <;> rfl

@[simp] theorem kernel_setRadio
    (side : Side)
    (radio : Option LinuxSx1280Radio) :
    (s.setRadio side radio).kernel = s.kernel := by
  cases side <;> rfl

@[simp] theorem kernel_setDevice
    (side : Side)
    (d : Device) :
    (s.setDevice side d).kernel = s.kernel := by
  cases side <;> rfl

@[simp] theorem node_setDevice
    (side : Side)
    (d : Device) :
    (s.setDevice side d).node = s.node := by
  cases side <;> rfl

@[simp] theorem config_setRadio
    (side : Side)
    (radio : Option LinuxSx1280Radio) :
    (s.setRadio side radio).node.config = s.node.config := by
  cases side <;> rfl

@[simp] theorem started_setRadio
    (side : Side)
    (radio : Option LinuxSx1280Radio) :
    (s.setRadio side radio).node.started =
      s.node.started := by
  cases side <;> rfl

@[simp] theorem rxCallback_setRadio
    (side : Side)
    (radio : Option LinuxSx1280Radio) :
    (s.setRadio side radio).node.rxCallback =
      s.node.rxCallback := by
  cases side <;> rfl

@[simp] theorem delivered_setRadio
    (side : Side)
    (radio : Option LinuxSx1280Radio) :
    (s.setRadio side radio).delivered = s.delivered := by
  cases side <;> rfl

@[simp] theorem delivered_setDevice
    (side : Side)
    (d : Device) :
    (s.setDevice side d).delivered = s.delivered := by
  cases side <;> rfl

@[simp] theorem kernel_setKernel
    (k : Kernel) :
    (s.setKernel k).kernel = k := rfl

@[simp] theorem node_setKernel
    (k : Kernel) :
    (s.setKernel k).node = s.node := rfl

@[simp] theorem radio_setKernel
    (k : Kernel)
    (side : Side) :
    (s.setKernel k).radio side = s.radio side := by
  cases side <;> rfl

@[simp] theorem device_setKernel
    (k : Kernel)
    (side : Side) :
    (s.setKernel k).device side = s.device side := by
  cases side <;> rfl

@[simp] theorem radio_setStarted
    (started : Bool)
    (side : Side) :
    (s.setStarted started).radio side = s.radio side := by
  cases side <;> rfl

@[simp] theorem device_setStarted
    (started : Bool)
    (side : Side) :
    (s.setStarted started).device side = s.device side := by
  cases side <;> rfl

end NodeState

end LoRaRadio

------------------------------------------------------------
-- Calling a Radio
------------------------------------------------------------

namespace LoRaRadio

open Faulting

namespace NodeState

/- The node after a method of its radio left `r`. -/
def afterMethod
    (side : Side)
    (s : NodeState)
    (r : RadioState) : NodeState :=
  (s.setDevice side r.device).setRadio side (some r.radio)

end NodeState

variable {α : Type}
variable {s : NodeState}

theorem post_onOwned
    {side : Side}
    {radio : LinuxSx1280Radio}
    {m : RadioM α}
    {Q : α → NodeState → Prop}
    {E : Fault → NodeState → Prop}
    (hRadio : s.radio side = some radio) :
    Post (onOwned side m) Q E s ↔
      Post m (fun a r => Q a (s.afterMethod side r))
        (fun e r => E e (s.afterMethod side r))
        ⟨radio, s.device side⟩ := by
  unfold Post onOwned NodeState.afterMethod
  rw [exec_mk, hRadio]
  rcases hRun : exec m ⟨radio, s.device side⟩ with
    ⟨e | a, r⟩ <;> simp [hRun]

theorem post_onLocal
    {side : Side}
    {radio : LinuxSx1280Radio}
    {m : RadioM Unit}
    {Q : LinuxSx1280Radio → NodeState → Prop}
    {E : Fault → NodeState → Prop} :
    Post (onLocal side radio m) Q E s ↔
      Post m (fun _ r => Q r.radio (s.setDevice side r.device))
        (fun e r => E e (s.setDevice side r.device))
        ⟨radio, s.device side⟩ := by
  unfold Post onLocal
  rw [exec_mk]
  rcases hRun : exec m ⟨radio, s.device side⟩ with
    ⟨e | a, r⟩ <;> simp [Except.map]

/-
  A method of known effects returns with the same handles;
  if it throws, the hardware does not work.
-/
theorem Issues.post
    {effects : List Effect}
    {m : RadioM α}
    (hIssues : Issues effects α m)
    (r : RadioState) :
    Post m
      (fun _ r' =>
        r'.identity = r.identity ∧
          (r.device.Works → r'.device.Works))
      (fun _ r' =>
        r'.identity = r.identity ∧ ¬ r.device.Works) r := by
  have hSame := hIssues.keeps_identity.post r
  unfold Post at *
  rcases hRun : exec m r with ⟨e | a, r'⟩
  · simp only [hRun] at hSame
    refine ⟨hSame, fun hWorks => ?_⟩
    rcases hIssues.returns hWorks with ⟨a, r'', hOk, -⟩
    rw [hRun] at hOk
    cases hOk
  · simp only [hRun] at hSame
    refine ⟨hSame, fun hWorks => ?_⟩
    rcases hIssues.returns hWorks with ⟨b, r'', hOk, hWorks'⟩
    rw [hRun] at hOk
    cases hOk
    exact hWorks'

end LoRaRadio

------------------------------------------------------------
-- Making and Destroying Radios
------------------------------------------------------------

namespace LoRaRadio

open Faulting

theorem held_destroy
    (radio : LinuxSx1280Radio)
    (k : Kernel) :
    (destroy radio k).held = k.held - ↑radio.handles := by
  unfold destroy
  generalize radio.handles = handles
  induction handles generalizing k with
  | nil => exact (tsub_zero k.held).symm
  | cons h handles ih =>
      rw [List.foldl_cons, ih]
      unfold Kernel.release
      rw [← Multiset.cons_coe, Multiset.sub_cons]

/- Destroying gives back what was acquired. -/
theorem held_destroy_of_eq
    {radio : LinuxSx1280Radio}
    {k : Kernel}
    {base : Multiset Handle}
    (hHeld : k.held = ↑radio.handles + base) :
    (destroy radio k).held = base := by
  rw [held_destroy, hHeld]
  exact add_tsub_cancel_left _ _

/- The device `d'` is `d` after more hardware calls. -/
def Device.Later
    (d d' : Device) : Prop :=
  d'.hal = d.hal ∧ d.clock ≤ d'.clock

theorem Device.Works.later
    {d d' : Device}
    (hWorks : d.Works)
    (hLater : d.Later d') :
    d'.Works := by
  intro k hLe
  rw [hLater.1]
  exact hWorks k (hLater.2.trans hLe)

namespace LinuxSx1280RadioConfig

variable (config : LinuxSx1280RadioConfig)

/- The constructor returns. -/
def GoesThrough
    (k : Kernel)
    (d : Device) : Prop :=
  config.Valid ∧ k.nextFails = false ∧ config.LaterGoes k d

/-
  If the constructor fails, it fails before it holds
  anything: once the device is open, nothing goes wrong.
-/
def NoLateFailure
    (k : Kernel)
    (d : Device) : Prop :=
  config.Valid → k.nextFails = false → config.LaterGoes k d

/- The kernel once the constructor has returned. -/
def broughtUp
    (k : Kernel) : Kernel :=
  k.advance (1 + config.laterCalls) ↑config.built.handles

end LinuxSx1280RadioConfig

variable {s : NodeState}

theorem post_makeRadio
    (side : Side)
    (hw : LinuxSx1280RadioConfig) :
    Post (makeRadio side hw)
      (fun radio s' =>
        hw.GoesThrough s.kernel (s.device side) ∧
          radio = hw.built ∧
          s'.kernel = hw.broughtUp s.kernel ∧
          s'.node = s.node ∧
          (∀ side', side' ≠ side →
            s'.device side' = s.device side') ∧
          (s.device side).Later (s'.device side))
      (fun _ s' =>
        ¬ hw.GoesThrough s.kernel (s.device side) ∧
          (hw.NoLateFailure s.kernel (s.device side) →
            s'.kernel.held = s.kernel.held) ∧
          s'.node = s.node)
      s := by
  have hConstruct := post_construct hw s.kernel (s.device side)
  unfold Post makeRadio at *
  rw [exec_mk]
  rcases hRun : exec (construct hw)
    ⟨s.kernel, { config := hw }, s.device side⟩ with
    ⟨e | a, s'⟩
  · simp only [hRun] at hConstruct
    simp only [Except.map, NodeState.kernel_setDevice,
      NodeState.node_setDevice, NodeState.kernel_setKernel,
      NodeState.node_setKernel]
    by_cases hOpen : hw.Valid ∧ s.kernel.nextFails = false
    · rw [if_pos hOpen] at hConstruct
      exact ⟨fun hGoes => hConstruct.1 hGoes.2.2,
        fun hLate =>
          absurd (hLate hOpen.1 hOpen.2) hConstruct.1,
        trivial⟩
    · rw [if_neg hOpen] at hConstruct
      exact ⟨fun hGoes => hOpen ⟨hGoes.1, hGoes.2.1⟩,
        fun _ => hConstruct, trivial⟩
  · simp only [hRun] at hConstruct
    rcases hConstruct with
      ⟨hValid, hNext, hLater, hKernel, hRadio, hHal, hClock⟩
    refine ⟨⟨hValid, hNext, hLater⟩, hRadio, ?_, ?_, ?_, ?_⟩
    · rw [NodeState.kernel_setDevice,
        NodeState.kernel_setKernel, hKernel]
      rfl
    · simp
    · intro side' hOther
      simp [hOther]
    · simp only [NodeState.device_setDevice, if_true]
      exact ⟨hHal, hClock⟩

end LoRaRadio

------------------------------------------------------------
-- Effects of Starting
------------------------------------------------------------

namespace LoRaRadio

open Faulting

def modemEffects : List Effect :=
  [.issue .setStandby, .setMode, .issue .setRegulatorMode,
    .setType, .issue .setPacketType,
    .issue .setModulationParams, .issue .setPacketParams]

def modulationEffects : List Effect :=
  [.issue .setRegulatorMode, .setType,
    .issue .setPacketType, .issue .setModulationParams,
    .issue .setPacketParams]

/- What follows the standby command. -/
theorem issues_modulation
    (config : Sx1280Config) :
    Issues modulationEffects Unit
      (do
        setRegulatorMode config.rf.regulatorMode
        setPacketType .lora
        setModulationParams config.lora
        setPacketParams config.lora) :=
  (issues_writeCommand _ (by decide)).bind
    fun _ => ((issues_setPacketType _).mono (by decide)).bind
    fun _ =>
      ((issues_setModulationParams _).mono (by decide)).bind
    fun _ => (issues_setPacketParams _).mono (by decide)

theorem issues_configureModem
    (config : Sx1280Config) :
    Issues modemEffects Unit (configureModem config) := by
  unfold configureModem
  exact
    ((issues_setStandby _).mono (by decide)).bind
    fun _ => (issues_modulation config).mono (by decide)

def carrierEffects : List Effect :=
  [.issue .setRfFrequency, .issue .setTxParams,
    .issue .setBufferBaseAddress]

theorem issues_configureCarrier
    (config : Sx1280Config) :
    Issues carrierEffects Unit (configureCarrier config) := by
  unfold configureCarrier
  exact (issues_writeCommand _ (by decide)).bind
    fun _ => (issues_writeCommand _ (by decide)).bind
    fun _ => issues_writeCommand _ (by decide)

def runtimeEffects : List Effect :=
  [.issue .setAutoFs, .issue .setLongPreamble,
    .issue .readRegister, .issue .writeRegister]

theorem issues_configureGain
    (runtime : Sx1280RuntimeConfig) :
    Issues runtimeEffects Unit (configureGain runtime) := by
  unfold configureGain
  refine .ite ?_ (issues_disableManualGain.mono (by decide))
  exact (issues_enableManualGain.mono (by decide)).bind
    fun _ =>
      issues_updateRegister _ _ (by decide) (by decide)

theorem issues_configureRuntime
    (runtime : Sx1280RuntimeConfig) :
    Issues runtimeEffects Unit
      (configureRuntime runtime) := by
  unfold configureRuntime
  exact (issues_writeCommand _ (by decide)).bind
    fun _ => (issues_writeCommand _ (by decide)).bind
    fun _ => (issues_configureGain runtime).bind
    fun _ => (issues_setLNAGainSetting _).mono (by decide)

/- The effects of bringing a radio up. -/
def configureEffects : List Effect :=
  [.reset, .issue .getStatus] ++ modemEffects ++
    carrierEffects ++ runtimeEffects

theorem issues_configureRadio
    (config : Sx1280Config) :
    Issues configureEffects Unit (configureRadio config) := by
  unfold configureRadio
  exact (issues_initRadio.mono (by decide)).bind
    fun _ => ((issues_configureModem _).mono (by decide)).bind
    fun _ => ((issues_configureCarrier _).mono (by decide)).bind
    fun _ => (issues_configureRuntime _).mono (by decide)

theorem issues_setDioIrqParams
    (irqMask dio1Mask dio2Mask dio3Mask : UInt16) :
    Issues [.issue .setDioIrqParams] Unit
      (setDioIrqParams irqMask dio1Mask dio2Mask
        dio3Mask) :=
  issues_writeCommand _ (by decide)

end LoRaRadio
