import LoRaRadio.Node.Send
import LoRaRadio.Node.Start
import LoRaRadio.Radio.OnAir

/-
  What a `start` that succeeds has done: the states its
  radios went through, and the node it leaves.

  Main declarations:
    * `onOwned_ok` and `onLocal_ok`
    * `Started`
    * `start_ok_true`
    * `Configured` and `configureRadio_ok`
    * `Started.offAir`
-/

------------------------------------------------------------
-- Calls That Return
------------------------------------------------------------

namespace LoRaRadio

open Faulting

variable {α : Type}
variable {s s' : NodeState}

namespace NodeState

/- One of the node's radios with its device. -/
def viewWith
    (s : NodeState)
    (side : Side)
    (radio : LinuxSx1280Radio) : RadioState :=
  ⟨radio, s.device side⟩

end NodeState

theorem onOwned_ok
    {side : Side}
    {radio : LinuxSx1280Radio}
    {m : RadioM α}
    {a : α}
    (hRadio : s.radio side = some radio) :
    exec (onOwned side m) s = (.ok a, s') ↔
      ∃ r, exec m (s.viewWith side radio) = (.ok a, r) ∧
        s' = s.afterMethod side r := by
  unfold onOwned NodeState.viewWith NodeState.afterMethod
  rw [exec_mk, hRadio]
  constructor
  · intro hRun
    rcases hCall : exec m ⟨radio, s.device side⟩ with ⟨r, t⟩
    simp only [hCall] at hRun
    cases hRun
    exact ⟨t, rfl, rfl⟩
  · intro hRun
    rcases hRun with ⟨r, hCall, hState⟩
    simp only [hCall, hState]

theorem onLocal_ok
    {side : Side}
    {radio radio' : LinuxSx1280Radio}
    {m : RadioM Unit} :
    exec (onLocal side radio m) s = (.ok radio', s') ↔
      ∃ r, exec m (s.viewWith side radio) = (.ok (), r) ∧
        radio' = r.radio ∧
        s' = s.setDevice side r.device := by
  unfold onLocal NodeState.viewWith
  rw [exec_mk]
  constructor
  · intro hRun
    rcases hCall : exec m ⟨radio, s.device side⟩ with
      ⟨e | a, t⟩
    · simp only [hCall] at hRun
      cases hRun
    · simp only [hCall] at hRun
      cases hRun
      exact ⟨t, rfl, rfl, rfl⟩
  · intro hRun
    rcases hRun with ⟨r, hCall, hRadio, hState⟩
    simp only [hCall, hRadio, hState, Except.map]

/-
  The constructor, run on the device `d`, returns and leaves
  it as `d'`.
-/
def LinuxSx1280RadioConfig.Makes
    (config : LinuxSx1280RadioConfig)
    (d d' : Device) : Prop :=
  ∃ k k',
    exec (construct config) ⟨k, { config }, d⟩ =
      (.ok (), ⟨k', config.built, d'⟩)

theorem LinuxSx1280RadioConfig.Makes.later
    {config : LinuxSx1280RadioConfig}
    {d d' : Device}
    (hMakes : config.Makes d d') :
    d.Later d' := by
  rcases hMakes with ⟨k, k', hRun⟩
  have hMade := (post_construct config k d).of_ok hRun
  exact ⟨hMade.2.2.2.2.2.1, hMade.2.2.2.2.2.2⟩

/- A radio that has been made is the one that was built. -/
theorem makeRadio_ok
    {side : Side}
    {hw : LinuxSx1280RadioConfig}
    {radio : LinuxSx1280Radio}
    (hRun :
      exec (makeRadio side hw) s = (.ok radio, s')) :
    radio = hw.built ∧
      s'.node = s.node ∧
      s'.delivered = s.delivered ∧
      hw.Makes (s.device side) (s'.device side) ∧
      ∀ side', side' ≠ side →
        s'.device side' = s.device side' := by
  have hPost := (post_makeRadio (s := s) side hw).of_ok hRun
  refine ⟨hPost.2.1, hPost.2.2.2.1, ?_, ?_,
    hPost.2.2.2.2.1⟩
  · unfold makeRadio at hRun
    have hPackets := congrArg (fun o => o.2.delivered) hRun
    simpa [NodeState.setKernel] using hPackets.symm
  · have hRadio : radio = hw.built := hPost.2.1
    unfold makeRadio at hRun
    rw [exec_mk] at hRun
    rcases hCall : exec (construct hw)
      ⟨s.kernel, { config := hw }, s.device side⟩ with
      ⟨e | u, t⟩
    · simp only [hCall] at hRun
      cases hRun
    · simp only [hCall] at hRun
      cases hRun
      refine ⟨s.kernel, t.kernel, ?_⟩
      rw [hCall, ← hRadio]
      cases side <;> rfl

end LoRaRadio

------------------------------------------------------------
-- A Start That Succeeds
------------------------------------------------------------

namespace LoRaRadio

open Faulting

/-
  From `s`, a `start` has gone through: the configured
  radios are `rx` and `tx`, the ones the node then owns are
  in the states `rx'` and `tx'`.
-/
structure Started
    (s s' : NodeState)
    (rx rx' tx tx' : RadioState) : Prop where
  rxConfigured :
    ∃ d : Device,
      s.node.config.rx.hw.Makes s.rxDevice d ∧
        exec (configureRadio s.node.config.radio)
          ⟨s.node.config.rx.hw.built, d⟩ = (.ok (), rx)
  txConfigured :
    ∃ d : Device,
      s.node.config.tx.hw.Makes s.txDevice d ∧
        exec (configureRadio s.node.config.radio)
          ⟨s.node.config.tx.hw.built, d⟩ = (.ok (), tx)
  rxStarted :
    exec
        (do
          setDioIrqParams nodeIrqMask nodeIrqMask 0 0
          setRx (rxTimeout s.node.config.radio.timeouts))
        { rx with
          radio := { rx.radio with rxDone := true } } =
      (.ok (), rx')
  txStarted :
    exec (setDioIrqParams nodeIrqMask 0 0 0) tx =
      (.ok (), tx')
  node :
    s'.node =
      { s.node with
        rxRadio := some rx'.radio
        txRadio := some tx'.radio
        started := true }
  rxDevice : s'.rxDevice = rx'.device
  txDevice : s'.txDevice = tx'.device
  delivered : s'.delivered = s.delivered

variable {s s' : NodeState}

theorem bringUp_ok
    {radios : LinuxSx1280Radio × LinuxSx1280Radio}
    (hRun :
      exec (bringUp s.node.config) s = (.ok radios, s')) :
    ∃ rx tx : RadioState,
      (∃ d : Device,
        s.node.config.rx.hw.Makes s.rxDevice d ∧
          exec (configureRadio s.node.config.radio)
            ⟨s.node.config.rx.hw.built, d⟩ =
              (.ok (), rx)) ∧
      (∃ d : Device,
        s.node.config.tx.hw.Makes s.txDevice d ∧
          exec (configureRadio s.node.config.radio)
            ⟨s.node.config.tx.hw.built, d⟩ =
              (.ok (), tx)) ∧
      radios = ({ rx.radio with rxDone := true }, tx.radio) ∧
      s'.node = s.node ∧
      s'.rxDevice = rx.device ∧ s'.txDevice = tx.device ∧
      s'.delivered = s.delivered := by
  unfold bringUp at hRun
  simp only [exec_bind_ok, exec_onThrow_ok, onLocal_ok,
    exec_pure, Prod.mk.injEq, Except.ok.injEq] at hRun
  rcases hRun with
    ⟨rx₀, s₁, hRx, tx₀, s₂, hTx, _, _,
      ⟨rx, hRxConfig, rfl, rfl⟩, _, _,
      ⟨tx, hTxConfig, rfl, rfl⟩, rfl, rfl⟩
  rcases makeRadio_ok hRx with
    ⟨rfl, hNode₁, hPackets₁, hMakes₁, hOther₁⟩
  rcases makeRadio_ok hTx with
    ⟨rfl, hNode₂, hPackets₂, hMakes₂, hOther₂⟩
  rw [← hOther₂ .rx (by decide)] at hMakes₁
  rw [hOther₁ .tx (by decide)] at hMakes₂
  refine ⟨rx, tx, ⟨_, hMakes₁, hRxConfig⟩,
    ⟨_, hMakes₂, hTxConfig⟩, rfl, ?_, rfl, rfl, ?_⟩
  · simp [hNode₁, hNode₂]
  · simp [hPackets₁, hPackets₂]

theorem startRadios_ok
    {config : NodeConfig}
    {rx tx : LinuxSx1280Radio}
    {u : Unit}
    (hRx : s.radio .rx = some rx)
    (hTx : s.radio .tx = some tx)
    (hRun :
      exec (startRadios config) s = (.ok u, s')) :
    ∃ rx' tx' : RadioState,
      exec
          (do
            setDioIrqParams nodeIrqMask nodeIrqMask 0 0
            setRx (rxTimeout config.radio.timeouts))
          (s.viewWith .rx rx) = (.ok (), rx') ∧
        exec (setDioIrqParams nodeIrqMask 0 0 0)
          (s.viewWith .tx tx) = (.ok (), tx') ∧
        s'.node =
          { s.node with
            rxRadio := some rx'.radio
            txRadio := some tx'.radio } ∧
        s'.rxDevice = rx'.device ∧
        s'.txDevice = tx'.device ∧
        s'.delivered = s.delivered := by
  unfold startRadios at hRun
  simp only [exec_bind_ok] at hRun
  rcases hRun with ⟨_, s₁, hFirst, _, s₂, hSecond, hThird⟩
  rcases (onOwned_ok hRx).mp hFirst with ⟨r₁, hMask, rfl⟩
  have hTx₁ : (s.afterMethod .rx r₁).radio .tx = some tx :=
    hTx
  rcases (onOwned_ok hTx₁).mp hSecond with
    ⟨r₂, hTxMask, rfl⟩
  have hRx₂ :
      ((s.afterMethod .rx r₁).afterMethod .tx r₂).radio .rx =
        some r₁.radio := rfl
  rcases (onOwned_ok hRx₂).mp hThird with ⟨r₃, hSetRx, rfl⟩
  exact ⟨r₃, r₂, exec_bind_ok.mpr ⟨(), r₁, hMask, hSetRx⟩,
    hTxMask, rfl, rfl, rfl, rfl⟩

/- How a node that was not started comes up. -/
theorem start_ok_true
    (hIdle : s.node.started = false)
    (hRun : exec start s = (.ok true, s')) :
    ∃ rx rx' tx tx', Started s s' rx rx' tx tx' := by
  unfold start at hRun
  rw [exec_bind, exec_get] at hRun
  simp only [hIdle, Bool.false_eq_true, if_false] at hRun
  rcases exec_tryCatch_ok.mp hRun with
    hBody | ⟨e, s₁, -, hHandler⟩
  · simp only [exec_bind_ok, exec_modify, exec_pure,
      Prod.mk.injEq] at hBody
    rcases hBody with
      ⟨radios, s₁, hBringUp, _, _, ⟨-, rfl⟩, _, s₂, hRadios,
        _, _, ⟨-, rfl⟩, -, rfl⟩
    rcases bringUp_ok hBringUp with
      ⟨rx, tx, hRx, hTx, rfl, hNode, hRxDevice, hTxDevice,
        hDelivered⟩
    rcases startRadios_ok rfl rfl hRadios with
      ⟨rx', tx', hRx', hTx', hNode', hRxDevice', hTxDevice',
        hDelivered'⟩
    have hTxView :
        (⟨tx.radio, s₁.txDevice⟩ : RadioState) = tx := by
      rw [hTxDevice]
    refine ⟨rx, rx', tx, tx', hRx, hTx, ?_, ?_, ?_,
      hRxDevice', hTxDevice', ?_⟩
    · rw [← hRx', ← hRxDevice]
      rfl
    · rw [← hTxView]
      exact hTx'
    · rw [← hNode]
      exact congrArg
        (fun n : LoRaNode => { n with started := true })
        hNode'
    · exact hDelivered'.trans hDelivered
  · rcases exec_bind_ok.mp hHandler with ⟨_, s₂, -, hFalse⟩
    cases hFalse

end LoRaRadio

------------------------------------------------------------
-- A Radio That Is Configured
------------------------------------------------------------

namespace LoRaRadio

open Faulting

/- What `configure_radio` leaves a radio with. -/
structure Configured
    (config : Sx1280Config)
    (r : RadioState) : Prop where
  packetType : r.radio.packetType = .lora
  packetParams :
    r.device.chip.cmd .setPacketParams =
      packetBytes config.lora
  baseAddress :
    r.device.chip.cmd .setBufferBaseAddress = [0, 0]
  notInRx : ¬ r.device.chip.InRx

theorem ensures_writeCommand
    {op : RadioCommands}
    {args : List UInt8}
    (hCommand : Chip.isCommand op = true)
    (hSleep : op ≠ .setSleep) :
    Ensures (fun r => r.device.chip.cmd op = args)
      (writeCommand op args) := by
  intro s a s' hRun
  rw [writeCommand_ok hCommand hSleep hRun]
  simp

theorem ensures_setPacketParams
    (lora : Sx1280LoRaConfig) :
    Ensures
      (fun r => r.radio.packetType = .lora ∧
        r.device.chip.cmd .setPacketParams =
          packetBytes lora)
      (setPacketParams lora) := by
  intro s a s' hRun
  have hWrite : Ensures
      (fun r => r.device.chip.cmd .setPacketParams =
        packetBytes lora)
      (writeCommand .setPacketParams (packetBytes lora)) :=
    ensures_writeCommand (by decide) (by decide)
  unfold setPacketParams at hRun
  rw [exec_bind, exec_get] at hRun
  by_cases hType : s.radio.packetType = .lora
  · simp only [hType, ne_eq, not_true_eq_false,
      if_false] at hRun
    refine ⟨?_, hWrite s a s' hRun⟩
    rw [writeCommand_ok (by decide) (by decide) hRun]
    exact hType
  · simp only [hType, ne_eq, not_false_eq_true,
      if_true] at hRun
    rcases exec_bind_ok.mp hRun with ⟨_, s₁, hSet, hLast⟩
    refine ⟨?_, hWrite s₁ a s' hLast⟩
    unfold setPacketType at hSet
    simp only [exec_bind_ok, exec_modify,
      Prod.mk.injEq] at hSet
    rcases hSet with ⟨_, s₂, ⟨-, rfl⟩, hCommand⟩
    rw [writeCommand_ok (by decide) (by decide) hLast,
      writeCommand_ok (by decide) (by decide) hCommand]
    rfl

/- Standby ends a reception. -/
theorem ensures_setStandby
    (standbyConfig : RadioStandbyModes) :
    Ensures (fun r => ¬ r.device.chip.InRx)
      (setStandby standbyConfig) := by
  unfold setStandby
  refine Ensures.bind_keeps ?_ fun _ _ hMode => hMode
  intro s a s' hRun
  rw [writeCommand_ok (by decide) (by decide) hRun]
  apply (Chip.reacts_of_not_inRx _ _ _).1
  intro hRx
  rcases hRx with ⟨count, hMode⟩
  cases hMode

theorem ensures_configureModem
    (config : Sx1280Config) :
    Ensures
      (fun r => (r.radio.packetType = .lora ∧
          r.device.chip.cmd .setPacketParams =
            packetBytes config.lora) ∧
        ¬ r.device.chip.InRx)
      (configureModem config) := by
  intro s a s' hRun
  constructor
  · have hLast : Ensures
        (fun r => r.radio.packetType = .lora ∧
          r.device.chip.cmd .setPacketParams =
            packetBytes config.lora)
        (configureModem config) := by
      unfold configureModem
      exact Ensures.bind fun _ => Ensures.bind fun _ =>
        Ensures.bind fun _ => Ensures.bind fun _ =>
        ensures_setPacketParams config.lora
    exact hLast s a s' hRun
  · unfold configureModem at hRun
    rcases exec_bind_ok.mp hRun with ⟨_, s₁, hStandby, hRest⟩
    have hMode := ensures_setStandby _ _ _ _ hStandby
    have hIssues := issues_modulation config
    exact (hIssues.keeps_notInRx (by decide)).of_exec hRest
      hMode

/- A radio whose `configure_radio` returned is configured. -/
theorem configureRadio_ok
    {config : Sx1280Config}
    {r r' : RadioState}
    {u : Unit}
    (hRun :
      exec (configureRadio config) r = (.ok u, r')) :
    Configured config r' := by
  unfold configureRadio at hRun
  simp only [exec_bind_ok] at hRun
  rcases hRun with
    ⟨_, r₁, -, _, r₂, hModem, _, r₃, hCarrier, hRuntime⟩
  rcases ensures_configureModem _ _ _ _ hModem with
    ⟨⟨hType, hParams⟩, hMode⟩
  have hCarrierIssues := issues_configureCarrier config
  have hRuntimeIssues :=
    issues_configureRuntime config.runtime
  have hBase :
      r₃.device.chip.cmd .setBufferBaseAddress = [0, 0] := by
    have hLast : Ensures
        (fun r => r.device.chip.cmd .setBufferBaseAddress =
          [0, 0])
        (configureCarrier config) := by
      unfold configureCarrier
      exact Ensures.bind fun _ => Ensures.bind fun _ =>
        ensures_writeCommand (by decide) (by decide)
    exact hLast _ _ _ hCarrier
  refine ⟨?_, ?_, ?_, ?_⟩
  · have hFirst :=
      (hCarrierIssues.keeps_packetType (by decide)
        ).of_exec hCarrier
    have hSecond :=
      (hRuntimeIssues.keeps_packetType (by decide)
        ).of_exec hRuntime
    exact hSecond.trans (hFirst.trans hType)
  · have hFirst :=
      (hCarrierIssues.keeps_cmd .setPacketParams (by decide)
        (by decide)).of_exec hCarrier
    have hSecond :=
      (hRuntimeIssues.keeps_cmd .setPacketParams (by decide)
        (by decide)).of_exec hRuntime
    exact hSecond.trans (hFirst.trans hParams)
  · have hKept :=
      (hRuntimeIssues.keeps_cmd .setBufferBaseAddress
        (by decide) (by decide)).of_exec hRuntime
    exact hKept.trans hBase
  · have hFirst :=
      (hCarrierIssues.keeps_notInRx (by decide)
        ).of_exec hCarrier hMode
    exact (hRuntimeIssues.keeps_notInRx (by decide)
      ).of_exec hRuntime hFirst

/- A method leaves the device as it was, some calls later. -/
theorem Issues.later
    {effects : List Effect}
    {α : Type}
    {m : RadioM α}
    (hIssues : Issues effects α m)
    {a : α}
    {r r' : RadioState}
    (hRun : exec m r = (.ok a, r')) :
    r.device.Later r'.device :=
  ⟨hIssues.keeps_hal.of_exec hRun,
    hIssues.keeps_clock.of_exec hRun⟩

theorem Device.Later.trans
    {d d' d'' : Device}
    (hFirst : d.Later d')
    (hSecond : d'.Later d'') :
    d.Later d'' :=
  ⟨hSecond.1.trans hFirst.1, hFirst.2.trans hSecond.2⟩

/- Coming up makes calls of both devices, and no more. -/
theorem Started.later
    {s s' : NodeState}
    {rx rx' tx tx' : RadioState}
    (hStarted : Started s s' rx rx' tx tx') :
    s.Later s' := by
  rcases hStarted.rxConfigured with ⟨d, hMakes, hRx⟩
  rcases hStarted.txConfigured with ⟨d', hMakes', hTx⟩
  have hIssues := issues_configureRadio s.node.config.radio
  rcases exec_bind_ok.mp hStarted.rxStarted with
    ⟨_, r, hMask, hSetRx⟩
  have hMasked :=
    (issues_setDioIrqParams nodeIrqMask nodeIrqMask 0 0
      ).later hMask
  have hReceiving := (issues_setRx _).later hSetRx
  have hTxMasked :=
    (issues_setDioIrqParams nodeIrqMask 0 0 0).later
      hStarted.txStarted
  intro side
  cases side with
  | rx =>
      change s.rxDevice.Later s'.rxDevice
      rw [hStarted.rxDevice]
      exact hMakes.later.trans ((hIssues.later hRx).trans
        (hMasked.trans hReceiving))
  | tx =>
      change s.txDevice.Later s'.txDevice
      rw [hStarted.txDevice]
      exact hMakes'.later.trans
        ((hIssues.later hTx).trans hTxMasked)

/- Coming up does not change what the environment does. -/
theorem Started.hal
    {s s' : NodeState}
    {rx rx' tx tx' : RadioState}
    (hStarted : Started s s' rx rx' tx tx') :
    s'.rxDevice.hal = s.rxDevice.hal ∧
      s'.txDevice.hal = s.txDevice.hal :=
  ⟨(hStarted.later .rx).1, (hStarted.later .tx).1⟩

/- Standby ends whatever a chip was sending. -/
theorem ensures_configureRadio_offAir
    (config : Sx1280Config) :
    Ensures (fun r => r.device.chip.mode ≠ .tx)
      (configureRadio config) := by
  have hStays :
      ∀ {effects : List Effect} {m : RadioM Unit},
        Issues effects Unit m →
        .issue .setTx ∉ effects →
        .issue .writeBuffer ∉ effects →
          Keeps (Stays fun r => r.device.chip.mode ≠ .tx)
            m := by
    intro effects m hIssues hTx hWrite
    have hOffAir := hIssues.keeps_offAir hTx hWrite
    exact hOffAir.mono fun _ _ hKept hMode => (hKept hMode).1
  have hStandby :
      Ensures (fun r => r.device.chip.mode ≠ .tx)
        (setStandby .rc) := by
    unfold setStandby
    refine Ensures.bind_keeps ?_ fun _ _ hMode => hMode
    intro r a r' hRun
    rw [writeCommand_ok (by decide) (by decide) hRun]
    have hCall := EventProof.afterCall (R := OffAir)
      (r.afterCall.afterCall.setChip
        (r.afterCall.afterCall.device.chip.command
          .setStandby [RadioStandbyModes.code .rc]))
    exact (hCall fun hEq => by cases hEq).1
  have hModem :
      Ensures (fun r => r.device.chip.mode ≠ .tx)
        (configureModem config) :=
    hStandby.bind_keeps fun _ =>
      hStays (issues_modulation config) (by decide) (by decide)
  unfold configureRadio
  refine Ensures.bind fun _ => ?_
  refine hModem.bind_keeps fun _ => ?_
  exact
    (hStays (issues_configureCarrier config) (by decide)
      (by decide)).bind fun _ =>
    hStays (issues_configureRuntime config.runtime)
      (by decide) (by decide)

/- A transmitter that has come up is not on the air. -/
theorem Started.offAir
    {s s' : NodeState}
    {rx rx' tx tx' : RadioState}
    (hStarted : Started s s' rx rx' tx tx') :
    s'.txDevice.chip.mode ≠ .tx := by
  rcases hStarted.txConfigured with ⟨d, -, hTx⟩
  have hConfigured :=
    ensures_configureRadio_offAir _ _ _ _ hTx
  have hMask :=
    ((issues_setDioIrqParams nodeIrqMask 0 0 0).keeps_offAir
      (by decide) (by decide)).of_exec hStarted.txStarted
  rw [hStarted.txDevice]
  exact (hMask hConfigured).1

end LoRaRadio
