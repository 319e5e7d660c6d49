import LoRaRadio.Node.Listening
import LoRaRadio.Node.Releases

/-
  What a started node puts on the air for a payload, and
  what a second node makes of it.

  The length on the air is the one `start` gave to the chip;
  `send` gives it the bytes only.

  Main declarations:
    * `TxReady` and `txReady_operate`
    * `Receives` and `Faithful`
    * `payload_faithful_iff`
-/

------------------------------------------------------------
-- A Transmitter That Is Ready
------------------------------------------------------------

namespace LoRaRadio

open Faulting

/-
  The TX chip has the packet parameters of a configuration,
  its base addresses are zero and it does not receive.
-/
structure TxReady
    (lora : Sx1280LoRaConfig)
    (s : NodeState) : Prop where
  packetParams :
    s.txDevice.chip.cmd .setPacketParams = packetBytes lora
  baseAddress :
    s.txDevice.chip.cmd .setBufferBaseAddress = [0, 0]
  notInRx : ¬ s.txDevice.chip.InRx

variable {lora : Sx1280LoRaConfig}
variable {effects : List Effect}
variable {α : Type}

theorem keeps_txReady_tx
    {m : RadioM α}
    (hIssues : Issues effects α m)
    (hParams : .issue .setPacketParams ∉ effects)
    (hBase : .issue .setBufferBaseAddress ∉ effects)
    (hRx : .issue .setRx ∉ effects)
    (hReset : .reset ∉ effects) :
    Keeps (Stays (TxReady lora)) (onOwned .tx m) := by
  intro s hReady
  unfold onOwned
  rw [exec_mk]
  cases hTx : s.radio .tx with
  | none => exact hReady
  | some radio =>
      have hParams' :=
        hIssues.keeps_cmd .setPacketParams hParams hReset
          ⟨radio, s.txDevice⟩
      have hBase' :=
        hIssues.keeps_cmd .setBufferBaseAddress hBase hReset
          ⟨radio, s.txDevice⟩
      have hMode :=
        hIssues.keeps_notInRx hRx ⟨radio, s.txDevice⟩
          hReady.notInRx
      exact ⟨hParams'.trans hReady.packetParams,
        hBase'.trans hReady.baseAddress, hMode⟩

theorem keeps_txReady_rx
    (m : RadioM α) :
    Keeps (Stays (TxReady lora)) (onOwned .rx m) := by
  intro s hReady
  unfold onOwned
  rw [exec_mk]
  cases s.radio .rx <;>
    exact ⟨hReady.packetParams, hReady.baseAddress,
      hReady.notInRx⟩

theorem txReady_deliver
    (packet : LoRaNodeRxPacket)
    (s : NodeState) :
    Stays (TxReady lora) s (s.deliver packet) := by
  intro hReady
  unfold NodeState.deliver
  cases s.node.rxCallback <;>
    exact ⟨hReady.packetParams, hReady.baseAddress,
      hReady.notInRx⟩

theorem txReady_operate
    (s : NodeState)
    (op : NodeOp)
    (hReady : TxReady lora s) :
    TxReady lora (s.operate op) := by
  cases op with
  | send payload =>
      have hOwned : ∀ {m : RadioM Unit},
          Issues (.issue .writeBuffer :: setTxEffects) Unit
              m →
            Keeps (Stays (TxReady lora)) (onOwned .tx m) :=
        fun hIssues => keeps_txReady_tx hIssues (by decide)
          (by decide) (by decide) (by decide)
      exact keeps_send hOwned payload s hReady
  | poll =>
      refine keeps_poll ?_ txReady_deliver s hReady
      intro α side m hIssues
      cases side with
      | rx => exact keeps_txReady_rx m
      | tx =>
          exact keeps_txReady_tx hIssues (by decide)
            (by decide) (by decide) (by decide)

theorem Started.txReady
    {s s' : NodeState}
    {rx rx' tx tx' : RadioState}
    (hStarted : Started s s' rx rx' tx tx') :
    TxReady s.node.config.radio.lora s' := by
  rcases hStarted.txConfigured with ⟨d, -, hConfigure⟩
  have hConfigured := configureRadio_ok hConfigure
  have hIssues := issues_setDioIrqParams nodeIrqMask 0 0 0
  have hParams :=
    (hIssues.keeps_cmd .setPacketParams (by decide)
      (by decide)).of_exec hStarted.txStarted
  have hBase :=
    (hIssues.keeps_cmd .setBufferBaseAddress (by decide)
      (by decide)).of_exec hStarted.txStarted
  have hMode :=
    (hIssues.keeps_notInRx (by decide)
      ).of_exec hStarted.txStarted hConfigured.notInRx
  refine ⟨?_, ?_, ?_⟩
  · rw [hStarted.txDevice]
    exact hParams.trans hConfigured.packetParams
  · rw [hStarted.txDevice]
    exact hBase.trans hConfigured.baseAddress
  · rw [hStarted.txDevice]
    exact hMode

end LoRaRadio

------------------------------------------------------------
-- The Packet on the Air
------------------------------------------------------------

namespace LoRaRadio

open Faulting

variable {lora : Sx1280LoRaConfig}
variable {s s' : NodeState}
variable {payload : List UInt8}

/-
  What the chip transmits from a buffer with the payload at
  address zero is the payload just when the payload has the
  configured length.
-/
theorem outgoing_eq_iff
    {c : Chip}
    {memory : CircularMemory 256 UInt8}
    (hParams :
      c.cmd .setPacketParams = packetBytes lora)
    (hBase : c.cmd .setBufferBaseAddress = [0, 0])
    (hBuffer : c.buffer = memory.write 0 payload)
    (hLength : payload.length ≤ 255) :
    c.outgoing = payload ↔
      payload.length = lora.payloadLength.toNat := by
  have hCount : c.payloadLength = lora.payloadLength := by
    unfold Chip.payloadLength
    rw [hParams]
    rfl
  have hAddress : c.txBaseAddress = 0 := by
    unfold Chip.txBaseAddress
    rw [hBase]
  unfold Chip.outgoing
  rw [hCount, hAddress, hBuffer]
  exact CircularMemory.read_write_eq_iff memory _ payload _
    (by omega)

/- A `send` that answers true puts one packet on the air. -/
theorem send_air
    (hReady : TxReady lora s)
    (hNonempty : payload ≠ [])
    (hRun : exec (send payload) s = (.ok true, s')) :
    ∃ packet,
      s'.txDevice.chip.air =
          s.txDevice.chip.air ++ [packet] ∧
        (packet = payload ↔
          payload.length = lora.payloadLength.toNat) := by
  by_cases hTransmits : s.Transmits payload
  · rcases Option.isSome_iff_exists.mp hTransmits.1.2 with
      ⟨radio, hRadio⟩
    rw [exec_send_of_transmits hTransmits] at hRun
    rcases exec_bind_ok.mp hRun with ⟨_, s₁, hSend, hEnd⟩
    cases hEnd
    have hTx : s.radio .tx = some radio := hRadio
    rcases (onOwned_ok hTx).mp hSend with ⟨r, hCall, rfl⟩
    rcases sendPayload_ok hCall with
      ⟨-, c, hAir, hParams, hBase, hBuffer⟩
    refine ⟨c.outgoing, hAir, ?_⟩
    exact outgoing_eq_iff (hParams.trans hReady.packetParams)
      (hBase.trans hReady.baseAddress)
      (hBuffer hReady.notInRx) hTransmits.2.2
  · rw [exec_send_of_not_transmits hTransmits] at hRun
    have hAnswer : s.idleAnswer payload = true := by
      simpa using congrArg Prod.fst hRun
    unfold NodeState.idleAnswer at hAnswer
    simp [hNonempty] at hAnswer

end LoRaRadio

------------------------------------------------------------
-- Fidelity
------------------------------------------------------------

namespace LoRaRadio

open Faulting

/-
  A node that was started, with the callback of `owner`, and
  then operated, receives `packet` with no interrupt pending
  and polls, with nothing else happening to its receiver
  until the poll returns.
-/
structure Receives
    (owner : Nat)
    (packet : List UInt8)
    (t t' : NodeState) : Prop where
  started :
    ∃ (t₀ t₁ : NodeState) (ops : List NodeOp),
      t₀.node.started = false ∧
        t₀.node.rxCallback = some owner ∧
        exec start t₀ = (.ok true, t₁) ∧
        t = Runs.run NodeState.operate t₁ ops
  inRx : t.rxDevice.chip.InRx
  nonePending : t.rxDevice.chip.irq = 0
  reception :
    ∃ start rssi snr,
      (t.rxDevice.hal t.rxDevice.clock).chip =
        [.reception start packet rssi snr]
  polled : exec poll t = (.ok (), t')
  undisturbed :
    ∀ k, t.rxDevice.clock < k → k < t'.rxDevice.clock →
      (t.rxDevice.hal k).chip = []

/-
  Between `s` and `s'` exactly one packet has gone on the
  air, it is the payload, and a node that receives it and
  polls hands the payload to its callback.
-/
def Faithful
    (s s' : NodeState)
    (payload : List UInt8) : Prop :=
  ∃ packet,
    s'.txDevice.chip.air =
        s.txDevice.chip.air ++ [packet] ∧
      packet = payload ∧
      ∀ owner t t', Receives owner packet t t' →
        ∃ p : LoRaNodeRxPacket,
          t'.delivered = t.delivered ++ [(owner, p)] ∧
            p.payload = payload

/- A node that has been started and operated listens. -/
theorem Receives.listening
    {owner : Nat}
    {packet : List UInt8}
    {t t' : NodeState}
    (hReceives : Receives owner packet t t') :
    Listening owner t := by
  rcases hReceives.started with
    ⟨t₀, t₁, ops, hIdle, hCallback, hStart, rfl⟩
  rcases start_ok_true hIdle hStart with
    ⟨rx, rx', tx, tx', hStarted⟩
  exact Runs.run_invariant listening_operate ops
    (hStarted.listening hCallback)

/- What is received is what is handed to the callback. -/
theorem Receives.delivers
    {owner : Nat}
    {packet : List UInt8}
    {t t' : NodeState}
    (hReceives : Receives owner packet t t')
    (hLength : packet.length ≤ 255) :
    ∃ p : LoRaNodeRxPacket,
      t'.delivered = t.delivered ++ [(owner, p)] ∧
        p.payload = packet := by
  have hListening := hReceives.listening
  rcases hListening.radio with ⟨radio, hRadio, -⟩
  rcases hReceives.reception with
    ⟨start, rssi, snr, hEvents⟩
  have hClock :=
    clock_poll (by rw [hRadio]; rfl) hReceives.polled
  have hNext :=
    hReceives.undisturbed (t.rxDevice.clock + 1) (by omega)
      (by omega)
  have hHears : t.rxDevice.chip.Hears :=
    ⟨hReceives.inRx, hListening.irqMask⟩
  have hSampled :
      (t.viewWith .rx radio).sampled =
        t.rxDevice.chip.react
          (.reception start packet rssi snr) := by
    change (t.rxDevice.chip.reacts
      (t.rxDevice.hal t.rxDevice.clock).chip).reacts
      (t.rxDevice.hal (t.rxDevice.clock + 1)).chip = _
    rw [hEvents, hNext]
    rfl
  have hHolds :
      (t.viewWith .rx radio).sampled.Holds packet := by
    rw [hSampled]
    exact Chip.holds_reception hHears hReceives.nonePending
      hLength
  have hDelivers :=
    poll_delivers hListening hRadio hReceives.polled hHolds
      fun k hLow hHigh =>
        hReceives.undisturbed k (by omega) hHigh
  rcases hDelivers.1 with ⟨p, hPayload, hDelivered⟩
  exact ⟨p, hDelivered, hPayload⟩

/-
  Whatever was sent before, a payload is put on the air as
  it is, and arrives so, exactly when its length is the
  configured one.
-/
theorem payload_faithful_iff
    {s₀ s₁ s' : NodeState}
    {payload : List UInt8}
    (ops : List NodeOp)
    (hIdle : s₀.node.started = false)
    (hStart : exec start s₀ = (.ok true, s₁))
    (hNonempty : payload ≠ [])
    (hSend :
      exec (send payload)
          (Runs.run NodeState.operate s₁ ops) =
        (.ok true, s')) :
    Faithful (Runs.run NodeState.operate s₁ ops) s'
        payload ↔
      payload.length =
        s₀.node.config.radio.lora.payloadLength.toNat := by
  rcases start_ok_true hIdle hStart with
    ⟨rx, rx', tx, tx', hStarted⟩
  have hReady :=
    Runs.run_invariant txReady_operate ops hStarted.txReady
  rcases send_air hReady hNonempty hSend with
    ⟨packet, hAir, hIff⟩
  rw [← hIff]
  constructor
  · intro hFaithful
    rcases hFaithful with ⟨packet', hAir', hSame, -⟩
    rw [hAir] at hAir'
    have hLast := List.append_cancel_left hAir'
    cases hLast
    exact hSame
  · intro hSame
    refine ⟨packet, hAir, hSame, fun owner t t' hReceives => ?_⟩
    have hLength : packet.length ≤ 255 := by
      rw [hSame, hIff.mp hSame]
      have hByte :=
        s₀.node.config.radio.lora.payloadLength.toNat_lt
      omega
    rw [← hSame]
    exact hReceives.delivers hLength

/- A node whose packets on the air have the given length. -/
def sizedNode
    (payloadLength : UInt8) : NodeState where
  node :=
    { config :=
        { rx := { hw := pinnedRadio 5 6 }
          tx := { hw := pinnedRadio 7 8 }
          radio := { lora := { payloadLength } } } }

/- The same node once it has come up. -/
def sizedNodeUp
    (payloadLength : UInt8) : NodeState :=
  (exec start (sizedNode payloadLength)).2

/- A payload of the configured length. -/
theorem payload_faithful_iff_three :
    Faithful (sizedNodeUp 3)
      (exec (send [1, 2, 3]) (sizedNodeUp 3)).2 [1, 2, 3] :=
  have hIdle : (sizedNode 3).node.started = false := rfl
  (payload_faithful_iff [] hIdle
    (Prod.ext (by decide +kernel) rfl) (by decide)
    (Prod.ext (by decide +kernel) rfl)).mpr rfl

/-
  With the default length of 255 three bytes go on the air
  with 252 bytes of the buffer behind them.
-/
theorem shortPayload_padded :
    let s := sizedNodeUp 255
    let s' := (exec (send [1, 2, 3]) s).2
    (exec start (sizedNode 255)).1 = .ok true ∧
      (exec (send [1, 2, 3]) s).1 = .ok true ∧
      s'.txDevice.chip.air =
        s.txDevice.chip.air ++
          [[1, 2, 3] ++ List.replicate 252 0] ∧
      ¬ Faithful s s' [1, 2, 3] := by
  intro s s'
  have hAir :
      s'.txDevice.chip.air =
        s.txDevice.chip.air ++
          [[1, 2, 3] ++ List.replicate 252 0] := by
    decide +kernel
  refine ⟨by decide +kernel, by decide +kernel, hAir, ?_⟩
  intro hFaithful
  rcases hFaithful with ⟨packet, hAir', hSame, -⟩
  rw [hAir, hSame] at hAir'
  have hLast := List.append_cancel_left hAir'
  exact absurd hLast (by decide)

end LoRaRadio
