import LoRaRadio.Node.Listening

/-
  The lifecycle of a node over every sequence of its calls,
  with hardware that may fail anywhere in them.

  Main declarations:
    * `NodeAction` and `NodeState.act`
    * `Lifecycle` and `lifecycle_act`
    * `Polled` and `polled_poll`
    * `Blames` and `blames_poll`
    * `Serves` and `serves_run`
-/

------------------------------------------------------------
-- Calls and the Invariant
------------------------------------------------------------

namespace LoRaRadio

open Faulting

/- A call of the node's interface. -/
inductive NodeAction
  | start
  | stop
  | send (payload : List UInt8)
  | poll
  | setRxCallback (owner : Nat)
deriving DecidableEq, Repr

/- The node after a call, whether it returned or threw. -/
def NodeState.act
    (s : NodeState) : NodeAction → NodeState
| .start => (exec LoRaRadio.start s).2
| .stop => (exec LoRaRadio.stop s).2
| .send payload => (exec (LoRaRadio.send payload) s).2
| .poll => (exec LoRaRadio.poll s).2
| .setRxCallback owner =>
    (exec (LoRaRadio.setRxCallback owner) s).2

/- A mode the driver of a TX radio may be in. -/
def RadioOperatingModes.ForTx
    (mode : RadioOperatingModes) : Prop :=
  mode = .stdbyRc ∨ mode = .tx

/- The radio object transmits LoRa packets, or may. -/
def LinuxSx1280Radio.Speaks
    (radio : LinuxSx1280Radio) : Prop :=
  radio.packetType = .lora ∧ radio.operatingMode.ForTx ∧
    radio.rxDone = false

/-
  A node that is started has a radio that listens and one
  that speaks; one that is not has none.
-/
structure Lifecycle
    (s : NodeState) : Prop where
  started :
    s.node.started = true →
      ∃ rx tx,
        s.node.rxRadio = some rx ∧ rx.Listens ∧
          s.node.txRadio = some tx ∧ tx.Speaks
  stopped :
    s.node.started = false →
      s.node.rxRadio = none ∧ s.node.txRadio = none

variable {s : NodeState}

theorem Lifecycle.started_iff
    (hLifecycle : Lifecycle s) :
    s.node.started = true ↔
      s.node.rxRadio.isSome = true ∧
        s.node.txRadio.isSome = true := by
  constructor
  · intro hStarted
    rcases hLifecycle.started hStarted with
      ⟨rx, tx, hRx, -, hTx, -⟩
    rw [hRx, hTx]
    exact ⟨rfl, rfl⟩
  · intro hBoth
    by_contra hNot
    have hStopped :=
      hLifecycle.stopped (Bool.eq_false_iff.mpr hNot)
    rw [hStopped.1] at hBoth
    cases hBoth.1

theorem Lifecycle.idle
    (hLifecycle : Lifecycle s)
    (hStopped : s.node.started = false) :
    s.Idle :=
  ⟨hStopped, hLifecycle.stopped hStopped⟩

theorem NodeState.Idle.lifecycle
    (hIdle : s.Idle) :
    Lifecycle s := by
  refine ⟨fun hStarted => ?_, fun _ => hIdle.2⟩
  rw [hIdle.1] at hStarted
  cases hStarted

end LoRaRadio

------------------------------------------------------------
-- Calls on the Radios
------------------------------------------------------------

namespace LoRaRadio

open Faulting

/-
  The lifecycle goes on and nothing is handed to the
  callback.
-/
def Quietly
    (s s' : NodeState) : Prop :=
  Lifecycle s →
    Lifecycle s' ∧ s'.delivered = s.delivered ∧
      s'.node.rxCallback = s.node.rxCallback ∧
      s'.node.started = s.node.started

instance : Std.Refl Quietly :=
  ⟨fun _ hLifecycle => ⟨hLifecycle, rfl, rfl, rfl⟩⟩

instance : IsTrans NodeState Quietly :=
  ⟨fun _ _ _ hFirst hSecond hLifecycle =>
    have hMiddle := hFirst hLifecycle
    have hLast := hSecond hMiddle.1
    ⟨hLast.1, hLast.2.1.trans hMiddle.2.1,
      hLast.2.2.1.trans hMiddle.2.2.1,
      hLast.2.2.2.trans hMiddle.2.2.2⟩⟩

variable {effects : List Effect}
variable {α : Type}

theorem keepsQuietly_rx
    {m : RadioM α}
    (hIssues : Issues pollEffects α m) :
    Keeps Quietly (onOwned .rx m) := by
  intro s hLifecycle
  unfold onOwned
  rw [exec_mk]
  cases hRx : s.radio .rx with
  | none => exact ⟨hLifecycle, rfl, rfl, rfl⟩
  | some radio =>
      have hType :=
        hIssues.keeps_packetType (by decide)
          ⟨radio, s.rxDevice⟩
      have hMode :=
        hIssues.keeps_operatingMode (by decide)
          ⟨radio, s.rxDevice⟩
      have hDone := hIssues.keeps_rxDone ⟨radio, s.rxDevice⟩
      refine ⟨⟨fun hStarted => ?_, fun hStopped => ?_⟩, rfl,
        rfl, rfl⟩
      · rcases hLifecycle.started hStarted with
          ⟨rx, tx, hSame, hListens, hTx, hSpeaks⟩
        cases hSame.symm.trans hRx
        exact ⟨_, tx, rfl,
          ⟨hType.trans hListens.1,
            hMode.trans hListens.2.1,
            hDone.trans hListens.2.2⟩, hTx, hSpeaks⟩
      · have hNone := (hLifecycle.stopped hStopped).1
        cases hNone.symm.trans hRx

/-
  A call on the TX radio that leaves its mode in standby or
  transmit.
-/
theorem keepsQuietly_tx
    {m : RadioM α}
    (hType : Keeps (Same fun r => r.radio.packetType) m)
    (hDone : Keeps (Same fun r => r.radio.rxDone) m)
    (hMode :
      Keeps (Stays fun r => r.radio.operatingMode.ForTx) m) :
    Keeps Quietly (onOwned .tx m) := by
  intro s hLifecycle
  unfold onOwned
  rw [exec_mk]
  cases hTx : s.radio .tx with
  | none => exact ⟨hLifecycle, rfl, rfl, rfl⟩
  | some radio =>
      refine ⟨⟨fun hStarted => ?_, fun hStopped => ?_⟩, rfl,
        rfl, rfl⟩
      · rcases hLifecycle.started hStarted with
          ⟨rx, tx, hRx, hListens, hSame, hSpeaks⟩
        cases hSame.symm.trans hTx
        have hType' := hType ⟨radio, s.txDevice⟩
        have hDone' := hDone ⟨radio, s.txDevice⟩
        exact ⟨rx, _, hRx, hListens, rfl,
          hType'.trans hSpeaks.1,
          hMode ⟨radio, s.txDevice⟩ hSpeaks.2.1,
          hDone'.trans hSpeaks.2.2⟩
      · have hNone := (hLifecycle.stopped hStopped).2
        cases hNone.symm.trans hTx

/- Polling leaves the mode of the TX radio. -/
theorem keepsQuietly_pollTx
    {m : RadioM α}
    (hIssues : Issues pollEffects α m) :
    Keeps Quietly (onOwned .tx m) :=
  keepsQuietly_tx (hIssues.keeps_packetType (by decide))
    hIssues.keeps_rxDone
    ((hIssues.keeps_operatingMode (by decide)).stays
      (P := RadioOperatingModes.ForTx))

/- Every mode a transmission sets is transmit. -/
theorem mode_sendPayload
    (payload : List UInt8)
    (timeout : TickTime) :
    Keeps (Stays fun r => r.radio.operatingMode.ForTx)
      (sendPayload payload timeout) := by
  rw [sendPayload_eq]
  have hWrite :
      Issues [.issue .setTx] Unit
        (writeCommand .setTx (tickBytes timeout)) :=
    issues_writeCommand _ (by decide)
  have hLoad :=
    (issues_loadTx payload).keeps_operatingMode (by decide)
  have hIssue := hWrite.keeps_operatingMode (by decide)
  refine (hLoad.stays (P := RadioOperatingModes.ForTx)).bind
    fun _ => ?_
  refine (hIssue.stays (P := RadioOperatingModes.ForTx)).bind
    fun _ => ?_
  exact keeps_modify fun _ _ => .inr rfl

theorem keepsQuietly_send
    (payload : List UInt8) :
    Keeps Quietly (send payload) := by
  intro s
  by_cases hTransmits : s.Transmits payload
  · rw [exec_send_of_transmits hTransmits, exec_bind]
    generalize s.node.config.radio.timeouts.txTimeout =
      timeout
    have hIssues := issues_sendPayload payload timeout
    have hKept :=
      keepsQuietly_tx (hIssues.keeps_packetType (by decide))
        hIssues.keeps_rxDone (mode_sendPayload payload timeout)
        s
    rcases hRun :
        exec (onOwned .tx (sendPayload payload timeout)) s with
      ⟨e | a, s'⟩
    · rw [hRun] at hKept
      exact hKept
    · rw [hRun] at hKept
      exact hKept
  · rw [exec_send_of_not_transmits hTransmits]
    exact Std.Refl.refl s

end LoRaRadio

------------------------------------------------------------
-- Starting and Stopping
------------------------------------------------------------

namespace LoRaRadio

open Faulting

/- A radio that has been configured is in standby. -/
theorem ensures_configureRadio_standby
    (config : Sx1280Config) :
    Ensures (fun r => r.radio.operatingMode = .stdbyRc)
      (configureRadio config) := by
  have hStandby :
      Ensures (fun r => r.radio.operatingMode = .stdbyRc)
        (setStandby .rc) := by
    unfold setStandby
    refine Ensures.bind fun _ => ?_
    intro r a r' hRun
    cases hRun
    rfl
  have hModem :
      Ensures (fun r => r.radio.operatingMode = .stdbyRc)
        (configureModem config) :=
    hStandby.bind_keeps fun _ =>
      ((issues_modulation config).keeps_operatingMode
        (by decide)).stays (P := fun mode => mode = .stdbyRc)
  have hCarrier :=
    (issues_configureCarrier config).keeps_operatingMode
      (by decide)
  have hRuntime :=
    (issues_configureRuntime
      config.runtime).keeps_operatingMode (by decide)
  unfold configureRadio
  refine Ensures.bind fun _ => ?_
  refine hModem.bind_keeps fun _ => ?_
  refine Keeps.bind ?_ fun _ => ?_
  · exact hCarrier.stays (P := fun mode => mode = .stdbyRc)
  · exact hRuntime.stays (P := fun mode => mode = .stdbyRc)

variable {s s' : NodeState}
variable {rx rx' tx tx' : RadioState}

/- The TX radio of a node that came up. -/
theorem Started.speaks
    (hStarted : Started s s' rx rx' tx tx') :
    tx'.radio.Speaks := by
  rcases hStarted.txConfigured with ⟨d, -, hTx⟩
  have hMask := issues_setDioIrqParams nodeIrqMask 0 0 0
  have hType :=
    (hMask.keeps_packetType (by decide)).of_exec
      hStarted.txStarted
  have hMode :=
    (hMask.keeps_operatingMode (by decide)).of_exec
      hStarted.txStarted
  have hStandby :=
    ensures_configureRadio_standby _ _ _ _ hTx
  exact ⟨hType.trans (configureRadio_ok hTx).packetType,
    .inl (hMode.trans hStandby), hStarted.silent⟩

theorem Started.lifecycle
    (hStarted : Started s s' rx rx' tx tx') :
    Lifecycle s' := by
  have hNode := hStarted.node
  refine ⟨fun _ => ⟨rx'.radio, tx'.radio, ?_,
    hStarted.listens, ?_, hStarted.speaks⟩, fun hStopped => ?_⟩
  · rw [hNode]
  · rw [hNode]
  · rw [hNode] at hStopped
    cases hStopped

/- A node without radios has stopped. -/
theorem lifecycle_released
    (s : NodeState) :
    Lifecycle s.released := by
  apply NodeState.Idle.lifecycle
  unfold NodeState.Idle
  rw [NodeState.node_released]
  exact ⟨rfl, rfl, rfl⟩

/-
  `start` returns.  If the answer is true the node is
  started; if it is false, no radio is left behind.
-/
theorem start_ok
    (hLifecycle : Lifecycle s) :
    ∃ up, exec start s = (.ok up, (exec start s).2) ∧
      Lifecycle (exec start s).2 ∧
      (exec start s).2.node.started = up := by
  by_cases hStarted : s.node.started = true
  · rw [NodeState.exec_start_of_started hStarted]
    exact ⟨true, rfl, hLifecycle, hStarted⟩
  · have hStopped := Bool.eq_false_iff.mpr hStarted
    have hIdle := hLifecycle.idle hStopped
    have hPost := post_start hIdle
    rcases hRun : exec start s with ⟨e | up, s'⟩
    · exact (hPost.of_error hRun).elim
    · refine ⟨up, rfl, ?_⟩
      cases up with
      | true =>
          rcases start_ok_true hStopped hRun with
            ⟨rx, rx', tx, tx', hUp⟩
          exact ⟨hUp.lifecycle, by rw [hUp.node]⟩
      | false =>
          have hNode : s'.node = s.node :=
            (hPost.of_ok hRun).2.2
          have hIdle' : s'.Idle := by
            unfold NodeState.Idle
            rwa [hNode]
          exact ⟨hIdle'.lifecycle, hIdle'.1⟩

end LoRaRadio

------------------------------------------------------------
-- What Starting Leaves Alone
------------------------------------------------------------

namespace LoRaRadio

open Faulting

/-
  What was handed over, who would be handed the next, and
  the configuration.
-/
def NodeState.callbacks
    (s : NodeState) :
    List (Nat × LoRaNodeRxPacket) × Option Nat ×
      NodeConfig :=
  (s.delivered, s.node.rxCallback, s.node.config)

variable {α : Type}

theorem callbacks_released
    (s : NodeState) :
    s.released.callbacks = s.callbacks := by
  have hReset : ∀ side (t : NodeState),
      (t.resetRadio side).delivered = t.delivered := by
    intro side t
    unfold NodeState.resetRadio
    cases t.radio side with
    | none => rfl
    | some radio => exact NodeState.delivered_setRadio _ _ _
  have hDelivered : s.released.delivered = s.delivered :=
    (hReset .tx _).trans (hReset .rx s)
  unfold NodeState.callbacks
  rw [hDelivered, NodeState.node_released]

theorem keepsCallbacks_onOwned
    (side : Side)
    (m : RadioM α) :
    Keeps (Same NodeState.callbacks) (onOwned side m) := by
  intro s
  unfold onOwned
  rw [exec_mk]
  cases s.radio side with
  | none => rfl
  | some radio => cases side <;> rfl

theorem keepsCallbacks_onLocal
    (side : Side)
    (radio : LinuxSx1280Radio)
    (m : RadioM Unit) :
    Keeps (Same NodeState.callbacks)
      (onLocal side radio m) := by
  intro s
  cases side <;> rfl

theorem keepsCallbacks_makeRadio
    (side : Side)
    (hw : LinuxSx1280RadioConfig) :
    Keeps (Same NodeState.callbacks) (makeRadio side hw) := by
  intro s
  cases side <;> rfl

theorem keepsCallbacks_destroyLocal
    (radio : LinuxSx1280Radio) :
    Keeps (Same NodeState.callbacks) (destroyLocal radio) :=
  fun _ => rfl

theorem keepsCallbacks_onThrow
    {m : NodeM α}
    (radio : LinuxSx1280Radio)
    (hBody : Keeps (Same NodeState.callbacks) m) :
    Keeps (Same NodeState.callbacks)
      (onThrow m (destroyLocal radio)) :=
  hBody.tryCatch fun e =>
    (keepsCallbacks_destroyLocal radio).bind
      fun _ => keeps_throw e

/- A `start` does not hand over packets. -/
theorem keepsCallbacks_start :
    Keeps (Same NodeState.callbacks) start := by
  have hBringUp : ∀ config,
      Keeps (Same NodeState.callbacks) (bringUp config) := by
    intro config
    unfold bringUp
    refine (keepsCallbacks_makeRadio .rx _).bind fun rx => ?_
    refine keepsCallbacks_onThrow rx ?_
    refine (keepsCallbacks_makeRadio .tx _).bind fun tx => ?_
    refine keepsCallbacks_onThrow tx ?_
    refine (keepsCallbacks_onLocal .rx rx _).bind fun _ => ?_
    refine (keepsCallbacks_onLocal .tx tx _).bind fun _ => ?_
    exact keeps_pure _
  have hRadios : ∀ config,
      Keeps (Same NodeState.callbacks)
        (startRadios config) := by
    intro config
    unfold startRadios
    exact (keepsCallbacks_onOwned .rx _).bind
      fun _ => (keepsCallbacks_onOwned .tx _).bind
      fun _ => keepsCallbacks_onOwned .rx _
  unfold start
  refine keeps_get.bind fun s => ?_
  refine keeps_ite (fun _ => keeps_pure _) fun _ => ?_
  refine Keeps.tryCatch ?_ fun e => ?_
  · refine (hBringUp _).bind fun radios => ?_
    refine Keeps.bind ?_ fun _ => (hRadios _).bind
      fun _ => Keeps.bind ?_ fun _ => keeps_pure _
    · exact keeps_modify fun _ => rfl
    · exact keeps_modify fun _ => rfl
  · exact (keeps_modify callbacks_released).bind
      fun _ => keeps_pure _

end LoRaRadio

------------------------------------------------------------
-- Polls
------------------------------------------------------------

namespace LoRaRadio

open Faulting

/-
  A `poll` reads `RX_DONE` without a CRC error from the RX
  radio.
-/
def NodeState.ReadsPacket
    (s : NodeState) : Prop :=
  ∃ radio w r,
    s.node.rxRadio = some radio ∧
      exec processIrqsLocked (s.viewWith .rx radio) =
        (.ok (radio.packetType, w), r) ∧
      Irq.has w Irq.rxDone = true ∧
      Irq.has w Irq.crcError = false

/-
  What a poll from `s` owes in `s'`: at most one packet is
  handed over, and only if the poll has read one; a poll
  that returns has done so.
-/
structure Polled
    (returned : Bool)
    (s s' : NodeState) : Prop where
  lifecycle : Lifecycle s'
  callback : s'.node.rxCallback = s.node.rxCallback
  started : s'.node.started = s.node.started
  delivers :
    s'.delivered = s.delivered ∨
      s.ReadsPacket ∧
        ∃ owner packet,
          s.node.rxCallback = some owner ∧
            s'.delivered = s.delivered ++ [(owner, packet)]
  once :
    returned = true →
      s.ReadsPacket →
        ∀ owner, s.node.rxCallback = some owner →
          ∃ packet,
            s'.delivered = s.delivered ++ [(owner, packet)]

variable {s s' s'' : NodeState}
variable {returned returned' : Bool}

/- What happens quietly afterwards changes nothing. -/
theorem Polled.quietly
    (hPolled : Polled returned s s')
    (hQuietly : Quietly s' s'')
    (hReturned : returned' = true → returned = true) :
    Polled returned' s s'' := by
  rcases hQuietly hPolled.lifecycle with
    ⟨hLifecycle, hSame, hCallback, hStarted⟩
  refine ⟨hLifecycle, hCallback.trans hPolled.callback,
    hStarted.trans hPolled.started, ?_, ?_⟩
  · rw [hSame]
    exact hPolled.delivers
  · rw [hSame]
    exact fun hAll => hPolled.once (hReturned hAll)

/- A poll that hands over nothing. -/
theorem Quietly.polled
    (hQuietly : Quietly s s')
    (hLifecycle : Lifecycle s)
    (hNothing : returned = true → ¬ s.ReadsPacket) :
    Polled returned s s' := by
  rcases hQuietly hLifecycle with
    ⟨hLifecycle', hSame, hCallback, hStarted⟩
  exact ⟨hLifecycle', hCallback, hStarted, .inl hSame,
    fun hReturned hReads =>
      absurd hReads (hNothing hReturned)⟩

/- An action that is not a reception hands over nothing. -/
theorem keepsQuietly_perform_rx
    {action : IrqAction}
    (hAction : action ≠ .rxDone) :
    Keeps Quietly (perform .rx action) := by
  cases action with
  | halPostTx =>
      exact keepsQuietly_rx (issues_hook _ (by decide))
  | halPostRx =>
      exact keepsQuietly_rx (issues_hook _ (by decide))
  | rxDone => exact absurd rfl hAction
  | _ => exact keeps_pure _

/- The TX radio has no callback to run. -/
theorem Lifecycle.perform_tx_rxDone
    (hLifecycle : Lifecycle s) :
    exec (perform .tx .rxDone) s = (.ok (), s) := by
  unfold perform
  rw [exec_bind, exec_get]
  cases hStarted : s.node.started with
  | true =>
      rcases hLifecycle.started hStarted with
        ⟨rx, tx, -, -, hTx, hSpeaks⟩
      have hSome : s.radio .tx = some tx := hTx
      simp [hSome, hSpeaks.2.2]
  | false =>
      have hNone : s.radio .tx = none :=
        (hLifecycle.stopped hStarted).2
      simp [hNone]

theorem keepsQuietly_perform_tx
    (action : IrqAction) :
    Keeps Quietly (perform .tx action) := by
  cases action with
  | halPostTx =>
      exact keepsQuietly_pollTx (issues_hook _ (by decide))
  | halPostRx =>
      exact keepsQuietly_pollTx (issues_hook _ (by decide))
  | rxDone =>
      intro s hLifecycle
      rw [hLifecycle.perform_tx_rxDone]
      exact ⟨hLifecycle, rfl, rfl, rfl⟩
  | _ => exact keeps_pure _

/- Polling the TX radio hands over nothing. -/
theorem keepsQuietly_pollRadio_tx :
    Keeps Quietly (pollRadio .tx) :=
  keeps_pollRadio
    (keepsQuietly_pollTx issues_processIrqsLocked)
    keepsQuietly_perform_tx

theorem lifecycle_deliver
    (packet : LoRaNodeRxPacket)
    (hLifecycle : Lifecycle s) :
    Lifecycle (s.deliver packet) := by
  have hNode : (s.deliver packet).node = s.node := by
    unfold NodeState.deliver
    cases s.node.rxCallback <;> rfl
  refine ⟨fun hStarted => ?_, fun hStopped => ?_⟩
  · rw [hNode] at hStarted ⊢
    exact hLifecycle.started hStarted
  · rw [hNode] at hStopped ⊢
    exact hLifecycle.stopped hStopped

/- What follows a reception in the dispatch. -/
def afterReception
    (irqRegs : UInt16) : List IrqAction :=
  onIrq irqRegs Irq.headerValid [.rxHeaderDone] ++
    onIrq irqRegs Irq.headerError [.rxError .headerError] ++
    onIrq irqRegs Irq.rxTxTimeout [.halPostRx, .rxTimeout] ++
    onIrq irqRegs Irq.rangingSlaveRequestDiscarded
      [.rxError .rangingOnLoraError]

theorem mem_onIrq
    {irqRegs mask : UInt16}
    {actions : List IrqAction}
    {action : IrqAction}
    (hMem : action ∈ onIrq irqRegs mask actions) :
    action ∈ actions := by
  unfold onIrq at hMem
  split at hMem
  · exact hMem
  · cases hMem

/- One reception is dispatched at most. -/
theorem rxDone_not_mem_afterReception
    (irqRegs : UInt16) :
    .rxDone ∉ afterReception irqRegs := by
  intro hMem
  unfold afterReception at hMem
  simp only [List.mem_append] at hMem
  rcases hMem with ((hMem | hMem) | hMem) | hMem <;>
    · have hListed := mem_onIrq hMem
      simp at hListed

/- `RX_DONE` without a CRC error is a reception. -/
theorem dispatch_reception
    {irqRegs : UInt16}
    (hDone : Irq.has irqRegs Irq.rxDone = true)
    (hCrc : Irq.has irqRegs Irq.crcError = false) :
    processIrqsDispatch .lora .rx irqRegs =
      .rxDone :: afterReception irqRegs := by
  have hFirst :
      onIrq irqRegs Irq.rxDone
        (if Irq.has irqRegs Irq.crcError then
          [.rxError .crcError]
        else
          [.rxDone]) = [.rxDone] := by
    simp [onIrq, hDone, hCrc]
  simp only [processIrqsDispatch, afterReception, hFirst,
    List.append_assoc, List.cons_append, List.nil_append]

/- Nothing else is. -/
theorem dispatch_no_reception
    {irqRegs : UInt16}
    (hNot :
      ¬ (Irq.has irqRegs Irq.rxDone = true ∧
        Irq.has irqRegs Irq.crcError = false)) :
    .rxDone ∉ processIrqsDispatch .lora .rx irqRegs := by
  have hSplit :
      processIrqsDispatch .lora .rx irqRegs =
        onIrq irqRegs Irq.rxDone
          (if Irq.has irqRegs Irq.crcError then
            [.rxError .crcError]
          else
            [.rxDone]) ++ afterReception irqRegs := by
    simp only [processIrqsDispatch, afterReception,
      List.append_assoc]
  rw [hSplit, List.mem_append]
  intro hMem
  rcases hMem with hHead | hTail
  · unfold onIrq at hHead
    split at hHead
    · next hDone =>
        split at hHead
        · simp at hHead
        · next hCrc =>
            exact hNot ⟨hDone, Bool.eq_false_iff.mpr hCrc⟩
    · cases hHead
  · exact rxDone_not_mem_afterReception irqRegs hTail

theorem keepsQuietly_forM
    {actions : List IrqAction}
    (hNot : .rxDone ∉ actions) :
    Keeps Quietly (actions.forM (perform .rx)) := by
  induction actions with
  | nil => exact keeps_pure _
  | cons action actions ih =>
      have hHead : action ≠ .rxDone :=
        fun hEq => hNot (hEq ▸ List.mem_cons_self)
      have hTail : .rxDone ∉ actions :=
        fun hMem => hNot (List.mem_cons_of_mem _ hMem)
      exact (keepsQuietly_perform_rx hHead).bind
        fun _ => ih hTail

end LoRaRadio

------------------------------------------------------------
-- One Poll of a Node
------------------------------------------------------------

namespace LoRaRadio

open Faulting

variable {s s' : NodeState}

/- Reading the packet that has been reported. -/
theorem polled_rxDone
    {rx : LinuxSx1280Radio}
    (hLifecycle : Lifecycle s)
    (hReads : s.ReadsPacket)
    (hQuietly : Quietly s s')
    (hRx : s'.radio .rx = some rx)
    (hListens : rx.Listens) :
    Post (perform .rx .rxDone)
      (fun _ s'' => Polled true s s'')
      (fun _ s'' => Polled false s s'') s' := by
  have hSome : s'.node.rxRadio.isNone = false := by
    rw [show s'.node.rxRadio = some rx from hRx]
    rfl
  have hRead := keepsQuietly_rx issues_readPacket s'
  unfold perform
  rw [post_bind, post_get]
  simp only [hRx, hListens.2.2, if_true]
  unfold rxDone
  rw [post_bind, post_get]
  simp only [hSome, Bool.false_eq_true, if_false]
  rw [post_bind]
  unfold Post
  rcases hRun : exec (onOwned .rx readPacket) s' with
    ⟨e | packet, s₂⟩
  · rw [hRun] at hRead
    have hBoth : Quietly s s₂ :=
      IsTrans.trans _ _ _ hQuietly hRead
    exact hBoth.polled hLifecycle nofun
  · rw [hRun] at hRead
    have hBoth : Quietly s s₂ :=
      IsTrans.trans _ _ _ hQuietly hRead
    rcases hBoth hLifecycle with
      ⟨hLifecycle₂, hSame, hCallback, hStarted⟩
    change Polled true s (s₂.deliver packet)
    have hKept := lifecycle_deliver packet hLifecycle₂
    unfold NodeState.deliver at hKept ⊢
    cases hOwner : s₂.node.rxCallback with
    | none =>
        rw [hOwner] at hKept
        refine ⟨hKept, hCallback, hStarted, .inl hSame, ?_⟩
        intro _ _ owner hSet
        rw [← hCallback, hOwner] at hSet
        cases hSet
    | some owner =>
        rw [hOwner] at hKept
        have hSet := hCallback.symm.trans hOwner
        refine ⟨hKept, hCallback, hStarted,
          .inr ⟨hReads, owner, packet, hSet, ?_⟩, ?_⟩
        · rw [hSame]
        · intro _ _ owner' hSet'
          cases hSet.symm.trans hSet'
          exact ⟨packet, by rw [hSame]⟩

/- What is done about the word a poll has read. -/
theorem polled_dispatch
    {rx : LinuxSx1280Radio}
    {irqRegs : UInt16}
    (hLifecycle : Lifecycle s)
    (hReads :
      s.ReadsPacket ↔
        Irq.has irqRegs Irq.rxDone = true ∧
          Irq.has irqRegs Irq.crcError = false)
    (hQuietly : Quietly s s')
    (hRx : s'.radio .rx = some rx)
    (hListens : rx.Listens) :
    Post
      ((processIrqsDispatch .lora .rx irqRegs).forM
        (perform .rx))
      (fun _ s'' => Polled true s s'')
      (fun _ s'' => Polled false s s'') s' := by
  by_cases hPacket : s.ReadsPacket
  · rcases hReads.mp hPacket with ⟨hDone, hCrc⟩
    have hRest :=
      keepsQuietly_forM
        (rxDone_not_mem_afterReception irqRegs)
    rw [dispatch_reception hDone hCrc]
    change Post
      (perform .rx .rxDone >>= fun _ =>
        (afterReception irqRegs).forM (perform .rx)) _ _ s'
    rw [post_bind]
    apply Post.mono
      (polled_rxDone hLifecycle hPacket hQuietly hRx hListens)
    · intro _ s₂ hPolled
      apply Post.mono (hRest.post s₂)
      · exact fun _ s₃ hQuiet => hPolled.quietly hQuiet id
      · exact fun _ s₃ hQuiet =>
          hPolled.quietly hQuiet fun _ => rfl
    · exact fun _ _ hPolled => hPolled
  · have hNone :=
      dispatch_no_reception fun hBoth =>
        hPacket (hReads.mpr hBoth)
    apply Post.mono ((keepsQuietly_forM hNone).post s')
    · intro _ s₂ hQuiet
      have hBoth : Quietly s s₂ :=
        IsTrans.trans _ _ _ hQuietly hQuiet
      exact hBoth.polled hLifecycle fun _ => hPacket
    · intro _ s₂ hQuiet
      have hBoth : Quietly s s₂ :=
        IsTrans.trans _ _ _ hQuietly hQuiet
      exact hBoth.polled hLifecycle nofun

/- What a poll of the RX radio owes. -/
theorem polled_rx
    (hLifecycle : Lifecycle s) :
    Post (pollRadio .rx)
      (fun _ s' => Polled true s s')
      (fun _ s' => Polled false s s') s := by
  unfold pollRadio
  rw [post_bind, post_get]
  cases hStarted : s.node.started with
  | false =>
      have hNone : s.node.rxRadio = none :=
        (hLifecycle.stopped hStarted).1
      have hNoRadio : s.radio .rx = none := hNone
      simp only [hNoRadio, Option.isSome_none,
        Bool.false_eq_true, if_false]
      have hQuietly : Quietly s s := Std.Refl.refl s
      refine hQuietly.polled hLifecycle fun _ hReads => ?_
      rcases hReads with ⟨radio, w, r, hSome, -⟩
      cases hNone.symm.trans hSome
  | true =>
      rcases hLifecycle.started hStarted with
        ⟨rx, tx, hRx, hListens, -⟩
      have hSome : s.radio .rx = some rx := hRx
      simp only [hSome, Option.isSome_some, if_true]
      unfold processIrqs
      rw [post_bind]
      have hLocked := keepsQuietly_rx issues_processIrqsLocked s
      unfold Post
      rcases hRun : exec (onOwned .rx processIrqsLocked) s with
        ⟨e | ⟨packetType, w⟩, s₁⟩
      · rw [hRun] at hLocked
        exact Quietly.polled hLocked hLifecycle nofun
      · rw [hRun] at hLocked
        rcases (onOwned_ok hSome).mp hRun with ⟨r, hRead, -⟩
        rcases processIrqsLocked_ok hRead with ⟨hType, -, -⟩
        have hLora : packetType = .lora :=
          hType.trans hListens.1
        rcases hLocked hLifecycle with
          ⟨hLifecycle₁, -, -, hStarted₁⟩
        rcases hLifecycle₁.started
            (hStarted₁.trans hStarted) with
          ⟨rx₁, tx₁, hRx₁, hListens₁, -⟩
        have hSome₁ : s₁.radio .rx = some rx₁ := hRx₁
        have hReads :
            s.ReadsPacket ↔
              Irq.has w Irq.rxDone = true ∧
                Irq.has w Irq.crcError = false := by
          constructor
          · intro hReads
            rcases hReads with
              ⟨radio, w', r', hRadio, hRead', hPacket⟩
            cases hRx.symm.trans hRadio
            cases hRead.symm.trans hRead'
            exact hPacket
          · intro hPacket
            rw [hType] at hRead
            exact ⟨rx, w, r, hRx, hRead, hPacket⟩
        change Post _ _ _ s₁
        rw [post_bind, post_get]
        simp only [hSome₁, hLora, hListens₁.2.1]
        exact polled_dispatch hLifecycle hReads hLocked hSome₁
          hListens₁

/- What a `poll` owes. -/
theorem polled_poll
    (hLifecycle : Lifecycle s) :
    Post poll
      (fun _ s' => Polled true s s')
      (fun _ s' => Polled false s s') s := by
  unfold poll
  rw [post_bind]
  apply Post.mono (polled_rx hLifecycle)
  · intro _ s₁ hPolled
    apply Post.mono (keepsQuietly_pollRadio_tx.post s₁)
    · exact fun _ s₂ hQuiet => hPolled.quietly hQuiet id
    · exact fun _ s₂ hQuiet =>
        hPolled.quietly hQuiet fun _ => rfl
  · exact fun _ _ hPolled => hPolled

end LoRaRadio

------------------------------------------------------------
-- Polls That Throw
------------------------------------------------------------

namespace LoRaRadio

open Faulting

/- A hardware call made between the two states has thrown. -/
def NodeState.Disturbed
    (s s' : NodeState) : Prop :=
  ∃ side k,
    (s.device side).clock ≤ k ∧
      k < (s'.device side).clock ∧
        ((s.device side).hal k).throws = true

/- The devices have gone on and the radios are still there. -/
def GoesOn
    (s s' : NodeState) : Prop :=
  ∀ side,
    (s.device side).Later (s'.device side) ∧
      (s'.radio side).isSome = (s.radio side).isSome

/-
  On a node with both radios a computation throws only if
  one of its hardware calls does.
-/
def Blames
    {α : Type}
    (m : NodeM α) : Prop :=
  ∀ s : NodeState,
    (∀ side, (s.radio side).isSome = true) →
      Post m (fun _ s' => GoesOn s s')
        (fun _ s' => s.Disturbed s') s

variable {α β : Type}
variable {s s' s'' : NodeState}

theorem goesOn_refl
    (s : NodeState) :
    GoesOn s s :=
  fun _ => ⟨⟨rfl, Nat.le_refl _⟩, rfl⟩

theorem GoesOn.trans
    (hFirst : GoesOn s s')
    (hSecond : GoesOn s' s'') :
    GoesOn s s'' := by
  intro side
  rcases hFirst side with ⟨⟨hHal, hClock⟩, hSome⟩
  rcases hSecond side with ⟨⟨hHal', hClock'⟩, hSome'⟩
  exact ⟨⟨hHal'.trans hHal, hClock.trans hClock'⟩,
    hSome'.trans hSome⟩

theorem GoesOn.disturbed
    (hGoes : GoesOn s s')
    (hDisturbed : s'.Disturbed s'') :
    s.Disturbed s'' := by
  rcases hDisturbed with ⟨side, k, hLow, hHigh, hThrows⟩
  rcases hGoes side with ⟨⟨hHal, hClock⟩, -⟩
  rw [hHal] at hThrows
  exact ⟨side, k, hClock.trans hLow, hHigh, hThrows⟩

theorem blames_pure
    (a : α) :
    Blames (pure a : NodeM α) :=
  fun s _ => goesOn_refl s

theorem blames_get :
    Blames (get : NodeM NodeState) :=
  fun s _ => goesOn_refl s

theorem Blames.bind
    {m : NodeM α}
    {f : α → NodeM β}
    (hFirst : Blames m)
    (hRest : ∀ a, Blames (f a)) :
    Blames (m >>= f) := by
  intro s hBoth
  rw [post_bind]
  apply Post.mono (hFirst s hBoth)
  · intro a s₁ hGoes
    have hBoth₁ : ∀ side, (s₁.radio side).isSome = true :=
      fun side => ((hGoes side).2).trans (hBoth side)
    apply Post.mono (hRest a s₁ hBoth₁)
    · exact fun b s₂ hGoes' => hGoes.trans hGoes'
    · exact fun e s₂ hDisturbed => hGoes.disturbed hDisturbed
  · exact fun e s₁ hDisturbed => hDisturbed

theorem blames_forM
    {f : α → NodeM PUnit}
    (hRound : ∀ a, Blames (f a))
    (as : List α) :
    Blames (as.forM f) := by
  induction as with
  | nil => exact blames_pure _
  | cons a as ih => exact (hRound a).bind fun _ => ih

/- Calling a method of a radio. -/
theorem blames_onOwned
    {effects : List Effect}
    {m : RadioM α}
    (side : Side)
    (hIssues : Issues effects α m) :
    Blames (onOwned side m) := by
  intro s hBoth
  rcases Option.isSome_iff_exists.mp (hBoth side) with
    ⟨radio, hRadio⟩
  rw [LoRaRadio.post_onOwned hRadio]
  unfold Post
  rcases hRun : exec m ⟨radio, s.device side⟩ with
    ⟨e | a, r⟩
  · rcases hIssues.throws hRun with ⟨k, hLow, hHigh, hThrows⟩
    refine ⟨side, k, hLow, ?_, hThrows⟩
    unfold NodeState.afterMethod
    simpa using hHigh
  · have hHal := hIssues.keeps_hal.of_exec hRun
    have hClock := hIssues.keeps_clock.of_exec hRun
    intro side'
    unfold NodeState.afterMethod
    by_cases hSide : side' = side
    · subst hSide
      simp only [NodeState.device_setRadio,
        NodeState.device_setDevice, if_true,
        NodeState.radio_setRadio, hRadio, Option.isSome_some]
      exact ⟨⟨hHal, hClock⟩, trivial⟩
    · simp only [NodeState.device_setRadio,
        NodeState.device_setDevice, hSide, if_false,
        NodeState.radio_setRadio, NodeState.radio_setDevice]
      exact ⟨⟨rfl, Nat.le_refl _⟩, trivial⟩

theorem blames_deliver
    (packet : LoRaNodeRxPacket) :
    Blames (modify (NodeState.deliver packet)) := by
  intro s _
  rw [post_modify]
  unfold NodeState.deliver
  cases s.node.rxCallback with
  | none => exact goesOn_refl s
  | some owner =>
      intro side
      cases side <;> exact ⟨⟨rfl, Nat.le_refl _⟩, rfl⟩

theorem blames_rxDone :
    Blames rxDone := by
  unfold rxDone
  refine blames_get.bind fun s => ?_
  split
  · exact blames_pure _
  · exact (blames_onOwned .rx issues_readPacket).bind
      blames_deliver

theorem blames_perform
    (side : Side)
    (action : IrqAction) :
    Blames (perform side action) := by
  cases action with
  | halPostTx =>
      exact blames_onOwned side (issues_hookOnly _)
  | halPostRx =>
      exact blames_onOwned side (issues_hookOnly _)
  | rxDone =>
      unfold perform
      refine blames_get.bind fun s => ?_
      split
      · split
        · exact blames_rxDone
        · exact blames_pure _
      · exact blames_pure _
  | _ => exact blames_pure _

theorem blames_poll :
    Blames poll := by
  have hRadio : ∀ side, Blames (pollRadio side) := by
    intro side
    unfold pollRadio processIrqs
    refine blames_get.bind fun s => ?_
    split
    · refine (blames_onOwned side
        issues_processIrqsLocked).bind fun r => ?_
      refine blames_get.bind fun s' => ?_
      split
      · exact blames_forM (blames_perform side) _
      · exact blames_pure _
    · exact blames_pure _
  unfold poll
  exact (hRadio .rx).bind fun _ => hRadio .tx

end LoRaRadio

------------------------------------------------------------
-- Runs of a Node
------------------------------------------------------------

namespace LoRaRadio

open Faulting

variable {s : NodeState}

/- A node that is not started does not touch its hardware. -/
theorem Lifecycle.untouched
    (hLifecycle : Lifecycle s)
    (hStopped : s.node.started = false) :
    exec poll s = (.ok (), s) := by
  rcases hLifecycle.stopped hStopped with ⟨hRx, hTx⟩
  have hNoRx : s.radio .rx = none := hRx
  have hNoTx : s.radio .tx = none := hTx
  unfold poll pollRadio
  simp [exec_bind, hNoRx, hNoTx]

/- Every call keeps the lifecycle, wherever it throws. -/
theorem lifecycle_act
    (s : NodeState)
    (action : NodeAction)
    (hLifecycle : Lifecycle s) :
    Lifecycle (s.act action) := by
  cases action with
  | start =>
      rcases start_ok hLifecycle with ⟨up, -, hKept, -⟩
      exact hKept
  | stop => exact lifecycle_released s
  | send payload =>
      exact (keepsQuietly_send payload s hLifecycle).1
  | poll =>
      have hPolled := polled_poll hLifecycle
      change Lifecycle (exec poll s).2
      rcases hRun : exec poll s with ⟨e | a, s'⟩
      · exact (hPolled.of_error hRun).lifecycle
      · exact (hPolled.of_ok hRun).lifecycle
  | setRxCallback owner =>
      exact ⟨hLifecycle.started, hLifecycle.stopped⟩

/-
  What a node in state `s` guarantees: the lifecycle
  invariant, and what each call on it does and does not.
-/
structure Serves
    (s : NodeState) : Prop where
  lifecycle : Lifecycle s
  started_iff :
    s.node.started = true ↔
      s.node.rxRadio.isSome = true ∧
        s.node.txRadio.isSome = true
  startFails :
    ∀ s', exec start s = (.ok false, s') →
      s'.node.rxRadio = none ∧ s'.node.txRadio = none
  untouched :
    s.node.started = false →
      s.act .poll = s ∧ ∀ payload, s.act (.send payload) = s
  silent :
    ∀ action, action ≠ .poll →
      (s.act action).delivered = s.delivered
  delivers :
    (s.act .poll).delivered = s.delivered ∨
      s.ReadsPacket ∧
        ∃ owner packet,
          s.node.rxCallback = some owner ∧
            (s.act .poll).delivered =
              s.delivered ++ [(owner, packet)]
  once :
    ¬ s.Disturbed (s.act .poll) →
      s.ReadsPacket →
        ∀ owner, s.node.rxCallback = some owner →
          ∃ packet,
            (s.act .poll).delivered =
              s.delivered ++ [(owner, packet)]

/- A poll without a failing hardware call returns. -/
theorem poll_returns
    (hLifecycle : Lifecycle s)
    (hGoes : ¬ s.Disturbed (s.act .poll)) :
    exec poll s = (.ok (), s.act .poll) := by
  change ¬ s.Disturbed (exec poll s).2 at hGoes
  change exec poll s = (.ok (), (exec poll s).2)
  cases hStarted : s.node.started with
  | false => rw [hLifecycle.untouched hStarted]
  | true =>
      rcases hLifecycle.started hStarted with
        ⟨rx, tx, hRx, -, hTx, -⟩
      have hBoth : ∀ side, (s.radio side).isSome = true := by
        intro side
        cases side with
        | rx => exact Option.isSome_iff_exists.mpr ⟨rx, hRx⟩
        | tx => exact Option.isSome_iff_exists.mpr ⟨tx, hTx⟩
      have hPost := blames_poll s hBoth
      rcases hRun : exec poll s with ⟨e | a, s'⟩
      · rw [hRun] at hGoes
        exact absurd (hPost.of_error hRun) hGoes
      · rfl

theorem Lifecycle.serves
    (hLifecycle : Lifecycle s) :
    Serves s := by
  have hPolled := polled_poll hLifecycle
  refine ⟨hLifecycle, hLifecycle.started_iff, ?_, ?_, ?_, ?_,
    ?_⟩
  · intro s' hRun
    rcases start_ok hLifecycle with ⟨up, hOk, hKept, hUp⟩
    rw [hRun] at hOk hKept hUp
    cases hOk
    exact hKept.stopped hUp
  · intro hStopped
    refine ⟨?_, fun payload => ?_⟩
    · change (exec poll s).2 = s
      rw [hLifecycle.untouched hStopped]
    · have hNot : ¬ s.Transmits payload := by
        intro hTransmits
        rw [hTransmits.1.1] at hStopped
        cases hStopped
      change (exec (send payload) s).2 = s
      rw [exec_send_of_not_transmits hNot]
  · intro action hNot
    cases action with
    | start =>
        have hSame := keepsCallbacks_start s
        exact congrArg Prod.fst hSame
    | stop =>
        have hSame := callbacks_released s
        exact congrArg Prod.fst hSame
    | send payload =>
        exact (keepsQuietly_send payload s hLifecycle).2.1
    | poll => exact absurd rfl hNot
    | setRxCallback owner => rfl
  · rcases hRun : exec poll s with ⟨e | a, s'⟩
    · have hAct : s.act .poll = s' := congrArg Prod.snd hRun
      rw [hAct]
      exact (hPolled.of_error hRun).delivers
    · have hAct : s.act .poll = s' := congrArg Prod.snd hRun
      rw [hAct]
      exact (hPolled.of_ok hRun).delivers
  · intro hGoes
    have hRun := poll_returns hLifecycle hGoes
    exact (hPolled.of_ok hRun).once rfl

/-
  A node just created serves after every sequence of calls,
  whatever its hardware does during them.
-/
theorem serves_run
    (config : NodeConfig)
    (rxDevice txDevice : Device)
    (kernel : Kernel)
    (actions : List NodeAction) :
    Serves
      (Runs.run NodeState.act
        { node := { config }, rxDevice, txDevice, kernel }
        actions) := by
  have hCreated :
      Lifecycle
        { node := { config }, rxDevice, txDevice, kernel } :=
    NodeState.Idle.lifecycle ⟨rfl, rfl, rfl⟩
  exact
    (Runs.run_invariant lifecycle_act actions hCreated).serves

end LoRaRadio
