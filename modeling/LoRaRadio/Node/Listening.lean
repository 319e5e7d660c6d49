import LoRaRadio.Library.Runs
import LoRaRadio.Node.Started
import LoRaRadio.Radio.Reception

/-
  A started node that receives: what keeps it listening, and
  what one `poll` hands to the receive callback.

  Main declarations:
    * `NodeOp` and `NodeState.operate`
    * `Listening` and `listening_operate`
    * `Started.listening`
    * `poll_ok` and `poll_delivers`
-/

------------------------------------------------------------
-- Operations of a Started Node
------------------------------------------------------------

namespace LoRaRadio

open Faulting

/- A call on a node that is up. -/
inductive NodeOp
  | send (payload : List UInt8)
  | poll
deriving DecidableEq, Repr

/- The node after a call, whether it returned or threw. -/
def NodeState.operate
    (s : NodeState) : NodeOp → NodeState
| .send payload => (exec (LoRaRadio.send payload) s).2
| .poll => (exec LoRaRadio.poll s).2

variable {α : Type}
variable {R : NodeState → NodeState → Prop}

/-
  A relation that calls on the TX radio keep is kept by
  `send`.
-/
theorem keeps_send
    [Std.Refl R]
    (hOwned :
      ∀ {m : RadioM Unit},
        Issues (.issue .writeBuffer :: setTxEffects) Unit m →
          Keeps R (onOwned .tx m))
    (payload : List UInt8) :
    Keeps R (send payload) := by
  intro s
  by_cases hTransmits : s.Transmits payload
  · rw [exec_send_of_transmits hTransmits, exec_bind]
    have hKept :=
      hOwned (issues_sendPayload payload
        s.node.config.radio.timeouts.txTimeout) s
    rcases hRun : exec (onOwned .tx (sendPayload payload
      s.node.config.radio.timeouts.txTimeout)) s with
      ⟨e | a, s'⟩ <;>
      · rw [hRun] at hKept
        exact hKept
  · rw [exec_send_of_not_transmits hTransmits]
    exact Std.Refl.refl s

theorem services_readPacket :
    Issues serviceEffects LoRaNodeRxPacket readPacket := by
  unfold readPacket
  refine issues_getPacketStatus.bind fun status => ?_
  refine issues_getRxBufferStatus.bind fun r => ?_
  refine .ite ?_ ?_
  · exact (issues_readBuffer _ _ (by decide)).bind
      fun payload => .ite (.pure _) (.pure _)
  · exact (Issues.pure _).bind
      fun payload => .ite (.pure _) (.pure _)

theorem issues_readPacket :
    Issues pollEffects LoRaNodeRxPacket readPacket :=
  services_readPacket.mono (by decide)

/-
  Polling a radio keeps what its locked half and each action
  of the dispatch keep.
-/
theorem keeps_pollRadio
    [Std.Refl R]
    [IsTrans NodeState R]
    {side : Side}
    (hLocked : Keeps R (onOwned side processIrqsLocked))
    (hPerform : ∀ action, Keeps R (perform side action)) :
    Keeps R (pollRadio side) := by
  unfold pollRadio processIrqs
  refine keeps_get.bind fun s => ?_
  refine keeps_ite (fun _ => ?_) fun _ => keeps_pure _
  refine hLocked.bind fun r => keeps_get.bind fun s' => ?_
  split
  · exact keeps_forM hPerform _
  · exact keeps_pure _

/-
  An action keeps what calls on the two radios whose effects
  are those of polling, and deliveries, keep.
-/
theorem keeps_perform
    [Std.Refl R]
    [IsTrans NodeState R]
    {side : Side}
    (hOwned :
      ∀ {α} {m : RadioM α},
        Issues pollEffects α m → Keeps R (onOwned side m))
    (hRead :
      Keeps R (onOwned .rx readPacket))
    (hDeliver : ∀ packet s, R s (s.deliver packet))
    (action : IrqAction) :
    Keeps R (perform side action) := by
  cases action with
  | halPostTx => exact hOwned (issues_hook _ (by decide))
  | halPostRx => exact hOwned (issues_hook _ (by decide))
  | rxDone =>
      have hRxDone : Keeps R rxDone := by
        unfold rxDone
        refine keeps_get.bind fun s => ?_
        refine keeps_ite (fun _ => keeps_pure _) fun _ => ?_
        exact hRead.bind fun packet =>
          keeps_modify (hDeliver packet)
      unfold perform
      refine keeps_get.bind fun s => ?_
      split
      · exact keeps_ite (fun _ => hRxDone)
          fun _ => keeps_pure _
      · exact keeps_pure _
  | _ => exact keeps_pure _

/-
  A relation kept by calls on the two radios whose effects
  are those of polling, and by deliveries, is kept by
  `poll`.
-/
theorem keeps_poll
    [Std.Refl R]
    [IsTrans NodeState R]
    (hOwned :
      ∀ {α} side {m : RadioM α},
        Issues pollEffects α m → Keeps R (onOwned side m))
    (hDeliver : ∀ packet s, R s (s.deliver packet)) :
    Keeps R poll := by
  have hRadio : ∀ side, Keeps R (pollRadio side) :=
    fun side => keeps_pollRadio
      (hOwned side issues_processIrqsLocked)
      (keeps_perform (hOwned side)
        (hOwned .rx issues_readPacket) hDeliver)
  unfold poll
  exact (hRadio .rx).bind fun _ => hRadio .tx

end LoRaRadio

------------------------------------------------------------
-- Listening Nodes
------------------------------------------------------------

namespace LoRaRadio

open Faulting

/- The radio object dispatches LoRa receptions. -/
def LinuxSx1280Radio.Listens
    (radio : LinuxSx1280Radio) : Prop :=
  radio.packetType = .lora ∧ radio.operatingMode = .rx ∧
    radio.rxDone = true

/-
  A node whose RX radio reports receptions to the callback
  of `owner`, and whose TX radio reports nothing.
-/
structure Listening
    (owner : Nat)
    (s : NodeState) : Prop where
  radio :
    ∃ radio, s.node.rxRadio = some radio ∧ radio.Listens
  callback : s.node.rxCallback = some owner
  mask :
    s.rxDevice.chip.cmd .setDioIrqParams =
      [hiByte nodeIrqMask, loByte nodeIrqMask,
        hiByte nodeIrqMask, loByte nodeIrqMask, 0, 0, 0, 0]
  txSilent :
    ∀ radio, s.node.txRadio = some radio →
      radio.rxDone = false

variable {owner : Nat}
variable {effects : List Effect}
variable {α : Type}

theorem Listening.irqMask
    {s : NodeState}
    (hListening : Listening owner s) :
    Irq.rxDone &&& s.rxDevice.chip.irqMask = Irq.rxDone := by
  unfold Chip.irqMask
  rw [hListening.mask]
  decide

/- Calls on the RX radio that only poll it. -/
theorem keeps_listening_rx
    {m : RadioM α}
    (hIssues : Issues pollEffects α m) :
    Keeps (Stays (Listening owner)) (onOwned .rx m) := by
  intro s hListening
  rcases hListening.radio with ⟨radio, hRadio, hListens⟩
  have hType :=
    hIssues.keeps_packetType (by decide) ⟨radio, s.rxDevice⟩
  have hMode :=
    hIssues.keeps_operatingMode (by decide)
      ⟨radio, s.rxDevice⟩
  have hDone := hIssues.keeps_rxDone ⟨radio, s.rxDevice⟩
  have hMask :=
    hIssues.keeps_cmd .setDioIrqParams (by decide) (by decide)
      ⟨radio, s.rxDevice⟩
  have hSome : s.radio .rx = some radio := hRadio
  unfold onOwned
  rw [exec_mk, hSome]
  exact ⟨⟨_, rfl, hType.trans hListens.1,
      hMode.trans hListens.2.1, hDone.trans hListens.2.2⟩,
    hListening.callback, hMask.trans hListening.mask,
    hListening.txSilent⟩

/- Calls on the TX radio. -/
theorem keeps_listening_tx
    {m : RadioM α}
    (hIssues : Issues effects α m) :
    Keeps (Stays (Listening owner)) (onOwned .tx m) := by
  intro s hListening
  unfold onOwned
  rw [exec_mk]
  cases hTx : s.radio .tx with
  | none => exact hListening
  | some radio =>
      have hDone := hIssues.keeps_rxDone ⟨radio, s.txDevice⟩
      refine ⟨hListening.radio, hListening.callback,
        hListening.mask, ?_⟩
      intro radio' hRadio'
      cases hRadio'
      exact hDone.trans (hListening.txSilent radio hTx)

theorem listening_deliver
    (packet : LoRaNodeRxPacket)
    (s : NodeState) :
    Stays (Listening owner) s (s.deliver packet) := by
  intro hListening
  unfold NodeState.deliver
  rw [hListening.callback]
  exact ⟨hListening.radio, hListening.callback,
    hListening.mask, hListening.txSilent⟩

/- A listening node keeps listening. -/
theorem listening_operate
    (s : NodeState)
    (op : NodeOp)
    (hListening : Listening owner s) :
    Listening owner (s.operate op) := by
  cases op with
  | send payload =>
      exact keeps_send keeps_listening_tx payload s hListening
  | poll =>
      refine keeps_poll ?_ listening_deliver s hListening
      intro α side m hIssues
      cases side with
      | rx => exact keeps_listening_rx hIssues
      | tx => exact keeps_listening_tx hIssues

end LoRaRadio

------------------------------------------------------------
-- A Started Node Listens
------------------------------------------------------------

namespace LoRaRadio

open Faulting

variable {s s' : NodeState}
variable {rx rx' tx tx' : RadioState}

theorem ensures_setRx
    (timeout : TickTime) :
    Ensures (fun r => r.radio.operatingMode = .rx)
      (setRx timeout) := by
  unfold setRx
  refine Ensures.bind fun _ => Ensures.bind fun _ =>
    Ensures.bind fun _ => Ensures.bind fun _ =>
    Ensures.bind fun _ => ?_
  intro r a r' hRun
  cases hRun
  rfl

/- The radio objects built by the constructor. -/
theorem configured_rxDone
    {hw : LinuxSx1280RadioConfig}
    {config : Sx1280Config}
    {d : Device}
    {r : RadioState}
    (hRun :
      exec (configureRadio config) ⟨hw.built, d⟩ =
        (.ok (), r)) :
    r.radio.rxDone = false :=
  (issues_configureRadio config).keeps_rxDone.of_exec hRun

/- The RX radio of a node that came up. -/
theorem Started.listens
    (hStarted : Started s s' rx rx' tx tx') :
    rx'.radio.Listens := by
  rcases hStarted.rxConfigured with ⟨d, -, hRx⟩
  rcases exec_bind_ok.mp hStarted.rxStarted with
    ⟨_, r, hMask, hSetRx⟩
  have hMaskIssues :=
    issues_setDioIrqParams nodeIrqMask nodeIrqMask 0 0
  have hSetIssues :=
    issues_setRx (rxTimeout s.node.config.radio.timeouts)
  refine ⟨?_, ensures_setRx _ _ _ _ hSetRx, ?_⟩
  · have hFirst :=
      (hMaskIssues.keeps_packetType (by decide)
        ).of_exec hMask
    have hSecond :=
      (hSetIssues.keeps_packetType (by decide)
        ).of_exec hSetRx
    exact hSecond.trans
      (hFirst.trans (configureRadio_ok hRx).packetType)
  · have hFirst := hMaskIssues.keeps_rxDone.of_exec hMask
    have hSecond := hSetIssues.keeps_rxDone.of_exec hSetRx
    exact hSecond.trans hFirst

/- The TX radio of a node that came up. -/
theorem Started.silent
    (hStarted : Started s s' rx rx' tx tx') :
    tx'.radio.rxDone = false := by
  rcases hStarted.txConfigured with ⟨d, -, hTx⟩
  have hKept :=
    (issues_setDioIrqParams nodeIrqMask 0 0 0
      ).keeps_rxDone.of_exec hStarted.txStarted
  exact hKept.trans (configured_rxDone hTx)

theorem Started.listening
    {owner : Nat}
    (hStarted : Started s s' rx rx' tx tx')
    (hCallback : s.node.rxCallback = some owner) :
    Listening owner s' := by
  rcases exec_bind_ok.mp hStarted.rxStarted with
    ⟨_, r, hMask, hSetRx⟩
  have hSetIssues :=
    issues_setRx (rxTimeout s.node.config.radio.timeouts)
  refine ⟨⟨rx'.radio, ?_, hStarted.listens⟩, ?_, ?_, ?_⟩
  · rw [hStarted.node]
  · rw [hStarted.node]
    exact hCallback
  · have hSet : Ensures
        (fun r => r.device.chip.cmd .setDioIrqParams = _)
        (setDioIrqParams nodeIrqMask nodeIrqMask 0 0) :=
      ensures_writeCommand (by decide) (by decide)
    have hKept :=
      (hSetIssues.keeps_cmd .setDioIrqParams (by decide)
        (by decide)).of_exec hSetRx
    rw [hStarted.rxDevice]
    exact hKept.trans (hSet _ _ _ hMask)
  · intro radio hRadio
    rw [hStarted.node] at hRadio
    cases hRadio
    exact hStarted.silent

end LoRaRadio

------------------------------------------------------------
-- One Poll of the Receiver
------------------------------------------------------------

namespace LoRaRadio

open Faulting

namespace RadioState

/- The chip that answers the `GetIrqStatus` of a poll. -/
def sampled
    (r : RadioState) : Chip :=
  r.afterCall.afterCall.device.chip

/- The radio once a poll has cleared the interrupts. -/
def cleared
    (r : RadioState) : RadioState :=
  r.afterRead.commanded .clrIrqStatus [0xFF, 0xFF]

end RadioState

theorem processIrqsLocked_ok
    {r r' : RadioState}
    {packetType : RadioPacketTypes}
    {irqRegs : UInt16}
    (hRun :
      exec processIrqsLocked r =
        (.ok (packetType, irqRegs), r')) :
    packetType = r.radio.packetType ∧
      irqRegs = r.sampled.irq ∧ r' = r.cleared := by
  unfold processIrqsLocked at hRun
  simp only [exec_bind_ok, exec_get, exec_pure,
    Prod.mk.injEq, Except.ok.injEq] at hRun
  rcases hRun with
    ⟨_, _, ⟨rfl, rfl⟩, w, r₁, hStatus, _, r₂, hClear,
      ⟨rfl, rfl⟩, rfl⟩
  rcases getIrqStatus_ok hStatus with ⟨rfl, hWord⟩
  refine ⟨rfl, hWord, ?_⟩
  exact writeCommand_ok (by decide) (by decide) hClear

/- The packet the callback makes of what it has read. -/
def packetOf
    (status : PacketStatus)
    (payload : List UInt8) : LoRaNodeRxPacket :=
  if status.packetType = .lora then
    { payload
      rssiDbm := Int8.ofInt status.rssiPkt
      snrDb := Int8.ofInt status.snrPkt }
  else
    { payload, rssiDbm := 0, snrDb := 0 }

/- The packet a radio reads from a chip. -/
def receivedPacket
    (radio : LinuxSx1280Radio)
    (c : Chip) : LoRaNodeRxPacket :=
  packetOf
    (decodePacketStatus radio.packetType
      [c.rssi, c.snr, 0, 0, 0])
    (c.buffer.read c.rxStart.toFin
      (receivedLength radio.packetType c).toNat)

theorem reads_packetOf
    (status : PacketStatus)
    (payload : List UInt8) :
    Reads
      (if status.packetType = .lora then
        return {
          payload
          rssiDbm := Int8.ofInt status.rssiPkt
          snrDb := Int8.ofInt status.snrPkt }
      else
        return { payload, rssiDbm := 0, snrDb := 0 })
      fun _ _ => packetOf status payload := by
  unfold packetOf
  split
  · exact reads_pure _
  · exact reads_pure _

theorem reads_readPacket :
    Reads readPacket receivedPacket := by
  refine reads_getPacketStatus.bind
    (g := fun status radio c =>
      packetOf status
        (c.buffer.read c.rxStart.toFin
          (receivedLength radio.packetType c).toNat))
    fun status => ?_
  refine reads_getRxBufferStatus.bind
    (g := fun r _ c =>
      packetOf status
        (c.buffer.read r.2.toFin r.1.toNat))
    fun r => ?_
  dsimp only
  split
  · exact (reads_readBuffer _ _).bind
      fun payload => reads_packetOf status payload
  · next hNone =>
      -- An empty packet is not fetched from the buffer.
      have hZero : r.1.toNat = 0 := by
        have hLe := UInt8.not_lt.mp hNone
        simpa [UInt8.le_iff_toNat_le] using hLe
      rw [hZero]
      exact (reads_pure []).bind
        fun payload => reads_packetOf status payload

/-
  A `poll` of the receiver does nothing about an empty
  interrupt word, and reads one packet and delivers it when
  the word is `RX_DONE`.
-/
theorem pollRx_ok
    {s s' : NodeState}
    {radio : LinuxSx1280Radio}
    {u : Unit}
    (hRadio : s.node.rxRadio = some radio)
    (hListens : radio.Listens)
    (hRun : exec (pollRadio .rx) s = (.ok u, s')) :
    ((s.viewWith .rx radio).sampled.irq = 0 →
      s' = s.afterMethod .rx (s.viewWith .rx radio).cleared) ∧
    ((s.viewWith .rx radio).sampled.irq = Irq.rxDone →
      ∃ packet r,
        exec readPacket (s.viewWith .rx radio).cleared =
            (.ok packet, r) ∧
          s' = (s.afterMethod .rx r).deliver packet) := by
  have hSome : s.radio .rx = some radio := hRadio
  unfold pollRadio at hRun
  rw [exec_bind, exec_get] at hRun
  simp only [hSome, Option.isSome_some, if_true] at hRun
  unfold processIrqs at hRun
  rcases exec_bind_ok.mp hRun with
    ⟨⟨packetType, w⟩, s₁, hLocked, hDispatch⟩
  rcases (onOwned_ok hSome).mp hLocked with ⟨r, hRead, rfl⟩
  rcases processIrqsLocked_ok hRead with ⟨rfl, rfl, rfl⟩
  have hView : (s.viewWith .rx radio).radio = radio := rfl
  rw [exec_bind, exec_get] at hDispatch
  simp only [hView, hListens.1] at hDispatch
  generalize hCleared : (s.viewWith .rx radio).cleared = r at *
  have hKept : r.radio = radio := by
    rw [← hCleared]
    rfl
  have hOwned :
      (s.afterMethod .rx r).radio .rx = some r.radio := rfl
  simp only [hOwned, hKept, hListens.2.1] at hDispatch
  constructor
  · intro hWord
    rw [hWord] at hDispatch
    cases hDispatch
    rfl
  · intro hWord
    rw [hWord] at hDispatch
    rcases exec_bind_ok.mp hDispatch with
      ⟨_, s₂, hPerform, hEnd⟩
    cases hEnd
    unfold perform at hPerform
    rw [exec_bind, exec_get] at hPerform
    simp only [hOwned, hKept, hListens.2.2,
      if_true] at hPerform
    unfold rxDone at hPerform
    rw [exec_bind, exec_get] at hPerform
    have hNotNone :
        (s.afterMethod .rx r).node.rxRadio.isNone = false :=
      rfl
    simp only [hNotNone, Bool.false_eq_true,
      if_false] at hPerform
    rcases exec_bind_ok.mp hPerform with
      ⟨packet, s₃, hPacket, hDeliver⟩
    rcases (onOwned_ok hOwned).mp hPacket with
      ⟨r', hReadPacket, rfl⟩
    cases hDeliver
    exact ⟨packet, r', hReadPacket, rfl⟩

end LoRaRadio

------------------------------------------------------------
-- What the Transmitter Leaves Alone
------------------------------------------------------------

namespace LoRaRadio

open Faulting

namespace NodeState

/- The receiving half of a node. -/
def ears
    (s : NodeState) :
    Option LinuxSx1280Radio × Device ×
      List (Nat × LoRaNodeRxPacket) :=
  (s.node.rxRadio, s.rxDevice, s.delivered)

end NodeState

/- A listening node hears on as it did. -/
def EarsKept
    (owner : Nat)
    (s s' : NodeState) : Prop :=
  Listening owner s →
    Listening owner s' ∧ s'.ears = s.ears

instance
    (owner : Nat) :
    Std.Refl (EarsKept owner) :=
  ⟨fun _ hListening => ⟨hListening, rfl⟩⟩

instance
    (owner : Nat) :
    IsTrans NodeState (EarsKept owner) :=
  ⟨fun _ _ _ hFirst hSecond hListening =>
    have hMiddle := hFirst hListening
    have hLast := hSecond hMiddle.1
    ⟨hLast.1, hLast.2.trans hMiddle.2⟩⟩

variable {owner : Nat}
variable {effects : List Effect}
variable {α : Type}

theorem keepsEars_onOwned
    {m : RadioM α}
    (hIssues : Issues effects α m) :
    Keeps (EarsKept owner) (onOwned .tx m) := by
  intro s hListening
  refine ⟨keeps_listening_tx hIssues s hListening, ?_⟩
  unfold onOwned
  rw [exec_mk]
  cases s.radio .tx <;> rfl

theorem keepsEars_perform
    (action : IrqAction) :
    Keeps (EarsKept owner) (perform .tx action) := by
  cases action with
  | halPostTx =>
      exact keepsEars_onOwned (issues_hookOnly _)
  | halPostRx =>
      exact keepsEars_onOwned (issues_hookOnly _)
  | rxDone =>
      -- The TX radio has no callback to run.
      intro s hListening
      have hNothing :
          exec (perform .tx .rxDone) s = (.ok (), s) := by
        unfold perform
        rw [exec_bind, exec_get]
        cases hTx : s.radio .tx with
        | none => simp [hTx]
        | some radio =>
            simp [hTx, hListening.txSilent radio hTx]
      rw [hNothing]
      exact ⟨hListening, rfl⟩
  | _ => exact keeps_pure _

theorem keepsEars_pollTx :
    Keeps (EarsKept owner) (pollRadio .tx) :=
  keeps_pollRadio
    (keepsEars_onOwned issues_processIrqsLocked)
    keepsEars_perform

/- A `send` does not touch the receiver. -/
theorem ears_send
    {s : NodeState}
    (payload : List UInt8)
    (hListening : Listening owner s) :
    (s.operate (.send payload)).ears = s.ears :=
  (keeps_send keepsEars_onOwned payload s hListening).2

/-
  One `poll` of a listening node, by the interrupt word it
  reads: nothing pending, or one packet received.
-/
theorem poll_ok
    {s s' : NodeState}
    {radio : LinuxSx1280Radio}
    {u : Unit}
    (hListening : Listening owner s)
    (hRadio : s.node.rxRadio = some radio)
    (hRun : exec poll s = (.ok u, s')) :
    ((s.viewWith .rx radio).sampled.irq = 0 →
      s'.ears =
        (some radio, (s.viewWith .rx radio).cleared.device,
          s.delivered)) ∧
    ((s.viewWith .rx radio).sampled.irq = Irq.rxDone →
      ∃ packet r,
        ReadRun receivedPacket
            (s.viewWith .rx radio).cleared packet r ∧
          s'.ears =
            (some radio, r.device,
              s.delivered ++ [(owner, packet)])) := by
  rcases hListening.radio with ⟨_, hSame, hListens⟩
  cases hRadio.symm.trans hSame
  unfold poll at hRun
  rcases exec_bind_ok.mp hRun with ⟨_, s₁, hRx, hTx⟩
  have hListening₁ : Listening owner s₁ :=
    (keeps_pollRadio
      (keeps_listening_rx issues_processIrqsLocked)
      (keeps_perform keeps_listening_rx
        (keeps_listening_rx issues_readPacket)
        listening_deliver)).of_exec hRx hListening
  have hEars : s'.ears = s₁.ears :=
    (keepsEars_pollTx.of_exec hTx hListening₁).2
  rcases pollRx_ok hRadio hListens hRx with ⟨hQuiet, hDone⟩
  refine ⟨fun hWord => ?_, fun hWord => ?_⟩
  · rw [hEars, hQuiet hWord]
    rfl
  · rcases hDone hWord with ⟨packet, r, hRead, rfl⟩
    have hReadRun := reads_readPacket hRead
    refine ⟨packet, r, hReadRun, ?_⟩
    have hKept : r.radio = radio := hReadRun.radio
    rw [hEars]
    unfold NodeState.deliver NodeState.ears
    have hCallback :
        (s.afterMethod .rx r).node.rxCallback = some owner :=
      hListening.callback
    simp only [hCallback]
    rw [← hKept]
    rfl

end LoRaRadio

------------------------------------------------------------
-- A Packet Delivered
------------------------------------------------------------

namespace LoRaRadio

open Faulting

/- The chip once all its interrupts are cleared. -/
def Chip.acknowledged
    (c : Chip) : Chip :=
  c.command .clrIrqStatus [0xFF, 0xFF]

@[simp] theorem Chip.irq_acknowledged
    (c : Chip) :
    c.acknowledged.irq = 0 := by
  change c.irq &&& ~~~ word 0xFF 0xFF = 0
  rw [show ~~~ word 0xFF 0xFF = 0 by decide,
    UInt16.and_zero]

namespace RadioState

/-
  The events a radio meets while a poll clears its
  interrupts, in order.
-/
theorem chip_cleared
    (r : RadioState) :
    let event := fun k =>
      (r.device.hal (r.device.clock + k)).chip
    r.cleared.device.chip =
      ((((r.sampled.reacts (event 2)).reacts
        (event 3)).reacts (event 4)).acknowledged).reacts
          (event 5) :=
  rfl

end RadioState

theorem payload_receivedPacket
    {radio : LinuxSx1280Radio}
    {c : Chip}
    {packet : List UInt8}
    (hType : radio.packetType = .lora)
    (hHolds : c.Holds packet) :
    (receivedPacket radio c.acknowledged).payload =
      packet := by
  have hLength :
      receivedLength .lora c.acknowledged = c.rxLength := rfl
  unfold receivedPacket
  rw [hType, hLength, ← hHolds.2]
  rfl

variable {owner : Nat}

/- The receiver has made more hardware calls. -/
def RxClockGrows
    (s s' : NodeState) : Prop :=
  s.rxDevice.clock ≤ s'.rxDevice.clock

instance : Std.Refl RxClockGrows :=
  ⟨fun s => Nat.le_refl s.rxDevice.clock⟩

instance : IsTrans NodeState RxClockGrows :=
  ⟨fun _ _ _ hFirst hSecond => Nat.le_trans hFirst hSecond⟩

theorem keeps_rxClock
    {effects : List Effect}
    {α : Type}
    {m : RadioM α}
    (side : Side)
    (hIssues : Issues effects α m) :
    Keeps RxClockGrows (onOwned side m) := by
  intro s
  unfold onOwned
  rw [exec_mk]
  cases hRadio : s.radio side with
  | none => exact Nat.le_refl _
  | some radio =>
      have hGrows :=
        hIssues.keeps_clock ⟨radio, s.device side⟩
      cases side with
      | rx => exact hGrows
      | tx => exact Nat.le_refl _

theorem rxClock_deliver
    (packet : LoRaNodeRxPacket)
    (s : NodeState) :
    RxClockGrows s (s.deliver packet) := by
  unfold NodeState.deliver
  cases s.node.rxCallback <;> exact Nat.le_refl _

/- A poll makes at least the calls of its locked half. -/
theorem clock_poll
    {s s' : NodeState}
    {u : Unit}
    (hRadio : s.node.rxRadio.isSome = true)
    (hRun : exec poll s = (.ok u, s')) :
    s.rxDevice.clock + 6 ≤ s'.rxDevice.clock := by
  rcases Option.isSome_iff_exists.mp hRadio with
    ⟨radio, hSome⟩
  have hPerform : ∀ side action,
      Keeps RxClockGrows (perform side action) :=
    fun side => keeps_perform (keeps_rxClock side)
      (keeps_rxClock .rx issues_readPacket) rxClock_deliver
  unfold poll at hRun
  rcases exec_bind_ok.mp hRun with ⟨_, s₁, hRx, hTx⟩
  have hLast : s₁.rxDevice.clock ≤ s'.rxDevice.clock :=
    (keeps_pollRadio
      (keeps_rxClock .tx issues_processIrqsLocked)
      (hPerform .tx)).of_exec hTx
  unfold pollRadio processIrqs at hRx
  have hRxRadio : s.radio .rx = some radio := hSome
  rw [exec_bind, exec_get] at hRx
  simp only [hRxRadio, Option.isSome_some, if_true] at hRx
  rcases exec_bind_ok.mp hRx with
    ⟨⟨packetType, w⟩, s₂, hLocked, hRest⟩
  rcases (onOwned_ok hRxRadio).mp hLocked with
    ⟨r, hRead, rfl⟩
  rcases processIrqsLocked_ok hRead with ⟨-, -, rfl⟩
  rw [exec_bind, exec_get] at hRest
  have hMiddle :
      s.rxDevice.clock + 6 ≤ s₁.rxDevice.clock :=
    (keeps_forM (hPerform .rx) _).of_exec hRest
  exact hMiddle.trans hLast

/-
  A poll that finds a packet held and is not disturbed until
  it returns delivers that packet and nothing else.
-/
theorem poll_delivers
    {s s' : NodeState}
    {radio : LinuxSx1280Radio}
    {packet : List UInt8}
    {u : Unit}
    (hListening : Listening owner s)
    (hRadio : s.node.rxRadio = some radio)
    (hRun : exec poll s = (.ok u, s'))
    (hHolds : (s.viewWith .rx radio).sampled.Holds packet)
    (hStill :
      ∀ k, s.rxDevice.clock + 2 ≤ k →
        k < s'.rxDevice.clock →
        (s.rxDevice.hal k).chip = []) :
    (∃ p : LoRaNodeRxPacket, p.payload = packet ∧
        s'.delivered = s.delivered ++ [(owner, p)]) ∧
      s'.rxDevice.chip =
        (s.viewWith .rx radio).sampled.acknowledged ∧
      s'.rxDevice.hal = s.rxDevice.hal ∧
      s.rxDevice.clock + 6 ≤ s'.rxDevice.clock := by
  rcases hListening.radio with ⟨_, hSame, hListens⟩
  cases hRadio.symm.trans hSame
  rcases (poll_ok hListening hRadio hRun).2 hHolds.1 with
    ⟨p, r, hRead, hEars⟩
  have hDevice : s'.rxDevice = r.device :=
    congrArg (fun e => e.2.1) hEars
  have hDelivered :
      s'.delivered = s.delivered ++ [(owner, p)] :=
    congrArg (fun e => e.2.2) hEars
  have hClock : s.rxDevice.clock + 6 ≤ r.device.clock :=
    hRead.clock
  have hQuiet : ∀ k, 2 ≤ k → k ≤ 5 →
      (s.rxDevice.hal (s.rxDevice.clock + k)).chip = [] := by
    intro k hLow hHigh
    exact hStill _ (by omega) (by rw [hDevice]; omega)
  have hCleared :
      (s.viewWith .rx radio).cleared.device.chip =
        (s.viewWith .rx radio).sampled.acknowledged := by
    rw [RadioState.chip_cleared]
    change ((((_ : Chip).reacts
      (s.rxDevice.hal (s.rxDevice.clock + 2)).chip).reacts
      (s.rxDevice.hal (s.rxDevice.clock + 3)).chip).reacts
      (s.rxDevice.hal (s.rxDevice.clock + 4)).chip
      ).acknowledged.reacts
      (s.rxDevice.hal (s.rxDevice.clock + 5)).chip = _
    rw [hQuiet 2 (by omega) (by omega),
      hQuiet 3 (by omega) (by omega),
      hQuiet 4 (by omega) (by omega),
      hQuiet 5 (by omega) (by omega)]
    rfl
  have hLate :
      (s.viewWith .rx radio).cleared.device.Still
        r.device.clock := by
    intro k hLow hHigh
    have hSix : s.rxDevice.clock + 6 ≤ k := hLow
    exact hStill k (by omega) (by rw [hDevice]; exact hHigh)
  rcases hRead.still hLate with ⟨hChip, hPacket⟩
  refine ⟨⟨p, ?_, hDelivered⟩, ?_, ?_, ?_⟩
  · rw [hPacket, hCleared]
    exact payload_receivedPacket hListens.1 hHolds
  · rw [hDevice, hChip, hCleared]
  · rw [hDevice]
    exact hRead.hal
  · rw [hDevice]
    exact hClock

end LoRaRadio
