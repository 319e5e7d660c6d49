import LoRaRadio.Node.Amplifier

/-
  Two threads on one node that is up: one runs `send`, the
  other `poll`.

  The locked sections of `SetTx` and of `ProcessIrqs` are
  atomic.  The dispatch of `ProcessIrqs` follows after the
  unlock, so another `SetTx` may come between an interrupt
  word and what is done about it.

  Main declarations:
    * `Threads` and `Threads.step`
    * `send_alone` and `poll_alone`
    * `NodeState.TxIs`
    * `Threads.Guarded` and `guarded_step`
    * `lit_iff_notOvertaken`
-/

------------------------------------------------------------
-- Threads and Their Steps
------------------------------------------------------------

namespace LoRaRadio

open Faulting

/- Where the thread that runs `poll` stands. -/
inductive PollerPoint
  | idle
  | polledRx
  | read (packetType : RadioPacketTypes) (irqRegs : UInt16)
  | dispatching (actions : List IrqAction)
deriving DecidableEq, Repr

/-
  A node and its two threads.  Once the thread that runs
  `send` has written its payload, `sender` is the timeout it
  is going to call `SetTx` with.  `overtaken` says that
  `SetTx` has run since the interrupt word was read last.
-/
structure Threads where
  node : NodeState
  sender : Option TickTime := none
  poller : PollerPoint := .idle
  overtaken : Bool := false

/- What happens next: an event of the chip, or a thread's step. -/
inductive ThreadStep
  | chip (event : ChipEvent)
  | beginSend (payload : List UInt8)
  | setTx
  | pollRx
  | readIrqs
  | dispatch
  | act
deriving DecidableEq, Repr

namespace Threads

/- Between two calls the chip meets an event. -/
def chip
    (event : ChipEvent)
    (t : Threads) : Threads :=
  let d := t.node.txDevice
  { t with
    node :=
      { t.node with
        txDevice := { d with chip := d.chip.react event } } }

/- `send` up to `SetPayload`. -/
def beginSend
    (payload : List UInt8)
    (t : Threads) : Threads :=
  if t.sender = none ∧ t.node.Transmits payload then
    let r := exec (onOwned .tx (setPayload payload 0)) t.node
    let timeout :=
      t.node.node.config.radio.timeouts.txTimeout
    { t with
      node := r.2
      sender := r.1.toOption.map fun _ => timeout }
  else
    t

/- `SetTx`, which ends the `send`. -/
def setTx
    (t : Threads) : Threads :=
  match t.sender with
  | some timeout =>
      { t with
        node :=
          (exec (onOwned .tx (LoRaRadio.setTx timeout))
            t.node).2
        sender := none
        overtaken := true }
  | none => t

/- `poll` begins with the RX radio. -/
def pollRx
    (t : Threads) : Threads :=
  if t.poller = .idle then
    let r := exec (pollRadio .rx) t.node
    { t with
      node := r.2
      poller :=
        if r.1.isOk && (r.2.radio .tx).isSome then .polledRx
        else .idle }
  else
    t

/- The locked section of `ProcessIrqs` of the TX radio. -/
def readIrqs
    (t : Threads) : Threads :=
  if t.poller = .polledRx then
    let r := exec (onOwned .tx processIrqsLocked) t.node
    { t with
      node := r.2
      poller :=
        match r.1 with
        | .ok (packetType, irqRegs) =>
            .read packetType irqRegs
        | .error _ => .idle
      overtaken := false }
  else
    t

/- The `switch` of the dispatch. -/
def dispatch
    (t : Threads) : Threads :=
  match t.poller with
  | .read packetType irqRegs =>
      { t with
        poller :=
          match t.node.radio .tx with
          | some radio =>
              .dispatching
                (processIrqsDispatch packetType
                  radio.operatingMode irqRegs)
          | none => .idle }
  | _ => t

/- The next thing the dispatch does. -/
def act
    (t : Threads) : Threads :=
  match t.poller with
  | .dispatching (action :: rest) =>
      let r := exec (perform .tx action) t.node
      { t with
        node := r.2
        poller :=
          if r.1.isOk then .dispatching rest else .idle }
  | .dispatching [] => { t with poller := .idle }
  | _ => t

def step
    (t : Threads) : ThreadStep → Threads
| .chip event => t.chip event
| .beginSend payload => t.beginSend payload
| .setTx => t.setTx
| .pollRx => t.pollRx
| .readIrqs => t.readIrqs
| .dispatch => t.dispatch
| .act => t.act

/- A node before its first call. -/
def fresh
    (s : NodeState) : Threads :=
  { node := s }

/- While the chip transmits, the amplifier is on. -/
def Lit
    (hw : LinuxSx1280RadioConfig)
    (t : Threads) : Prop :=
  t.node.txDevice.chip.mode = .tx →
    t.node.txDevice.txEnable = some (hw.txLevel true)

/-
  What is asked of the surroundings: a payload is handed to
  the radio after the transmission before it has ended on
  the chip, and interrupts are genuine.
-/
def Proviso
    (t : Threads) : ThreadStep → Prop
| .chip event => event.Genuine
| .beginSend payload =>
    t.sender = none → t.node.Transmits payload →
      t.node.txDevice.chip.mode ≠ .tx
| .setTx | .pollRx | .readIrqs | .dispatch | .act => True

/-
  The dispatch does not switch the amplifier off on account
  of an interrupt word that `SetTx` has overtaken, unless
  the chip does not transmit any more.
-/
def NotOvertaken
    (t : Threads)
    (a : ThreadStep) : Prop :=
  let d := t.node.txDevice
  let next := d.hal d.clock
  a = .act → t.overtaken = true →
    ∀ rest, t.poller = .dispatching (.halPostTx :: rest) →
      next.throws = false →
        (d.chip.reacts next.chip).mode ≠ .tx

end Threads

end LoRaRadio

------------------------------------------------------------
-- One Thread Alone
------------------------------------------------------------

namespace LoRaRadio

open Faulting Runs

variable {t : Threads}

theorem exec_onOwned
    {α : Type}
    {s : NodeState}
    {side : Side}
    {radio : LinuxSx1280Radio}
    (hRadio : s.radio side = some radio)
    (m : RadioM α) :
    exec (onOwned side m) s =
      ((exec m (s.viewWith side radio)).1,
        s.afterMethod side
          (exec m (s.viewWith side radio)).2) := by
  unfold onOwned
  rw [exec_mk, hRadio]
  rfl

/- The steps of a `send` that nothing comes between. -/
theorem send_alone
    (payload : List UInt8)
    (hSender : t.sender = none) :
    (run Threads.step t
      [.beginSend payload, .setTx]).node =
      (exec (send payload) t.node).2 := by
  change ((t.beginSend payload).setTx).node = _
  unfold Threads.beginSend
  by_cases hTransmits : t.node.Transmits payload
  · rcases Option.isSome_iff_exists.mp hTransmits.1.2 with
      ⟨radio, hRadio⟩
    have hTx : t.node.radio .tx = some radio := hRadio
    rw [if_pos ⟨hSender, hTransmits⟩,
      exec_send_of_transmits hTransmits, exec_bind,
      exec_onOwned hTx, exec_onOwned hTx]
    unfold sendPayload
    rw [exec_bind]
    rcases exec (setPayload payload 0)
      (t.node.viewWith .tx radio) with ⟨e | u, r⟩
    · rfl
    · simp only [Threads.setTx, Except.toOption,
        Option.map_some]
      have hNext :
          (t.node.afterMethod .tx r).radio .tx =
            some r.radio := rfl
      rw [exec_onOwned hNext]
      have hView :
          (t.node.afterMethod .tx r).viewWith .tx r.radio =
            r := rfl
      rw [hView]
      rcases exec (setTx _) r with ⟨e | u', r'⟩
      · rfl
      · rfl
  · rw [if_neg fun hBoth => hTransmits hBoth.2,
      exec_send_of_not_transmits hTransmits]
    unfold Threads.setTx
    rw [hSender]

/- A thread that is not dispatching does nothing more. -/
theorem run_act_idle
    (hIdle : t.poller = .idle)
    (n : Nat) :
    run Threads.step t (List.replicate n .act) = t := by
  have hStep : t.step .act = t := by
    change t.act = t
    unfold Threads.act
    rw [hIdle]
  induction n with
  | zero => rfl
  | succ n ih =>
      rw [List.replicate_succ, run_cons, hStep, ih]

theorem run_act
    {actions : List IrqAction}
    (hAt : t.poller = .dispatching actions) :
    (run Threads.step t
        (List.replicate (actions.length + 1) .act)).node =
        (exec (actions.forM (perform .tx)) t.node).2 ∧
      (run Threads.step t
        (List.replicate (actions.length + 1) .act)).poller =
        .idle := by
  induction actions generalizing t with
  | nil =>
      have hStep : t.step .act = { t with poller := .idle } := by
        change t.act = _
        unfold Threads.act
        rw [hAt]
      change (t.step .act).node = _ ∧ (t.step .act).poller = _
      rw [hStep]
      exact ⟨rfl, rfl⟩
  | cons action rest ih =>
      have hStep :
          t.step .act =
            { t with
              node := (exec (perform .tx action) t.node).2
              poller :=
                if (exec (perform .tx action) t.node).1.isOk
                then .dispatching rest else .idle } := by
        change t.act = _
        unfold Threads.act
        rw [hAt]
      have hLoop :
          exec ((action :: rest).forM (perform .tx)) t.node =
            exec (perform .tx action >>= fun _ =>
              rest.forM (perform .tx)) t.node := rfl
      rw [List.length_cons, List.replicate_succ, run_cons,
        hStep, hLoop, exec_bind]
      rcases exec (perform .tx action) t.node with ⟨e | u, n⟩
      · rw [run_act_idle rfl]
        exact ⟨rfl, rfl⟩
      · exact ih rfl

/- A radio that is not there is not polled. -/
theorem exec_pollRadio_of_none
    {s : NodeState}
    {side : Side}
    (hRadio : s.radio side = none) :
    exec (pollRadio side) s = (.ok (), s) := by
  unfold pollRadio
  rw [exec_bind, exec_get]
  dsimp only
  rw [hRadio]
  rfl

theorem exec_pollRadio_of_some
    {s : NodeState}
    {side : Side}
    {radio : LinuxSx1280Radio}
    (hRadio : s.radio side = some radio) :
    exec (pollRadio side) s = exec (processIrqs side) s := by
  unfold pollRadio
  rw [exec_bind, exec_get]
  dsimp only
  rw [hRadio]
  rfl

/- What a poll does with an interrupt word it has read. -/
theorem exec_processIrqs_of_read
    {s s' : NodeState}
    {side : Side}
    {packetType : RadioPacketTypes}
    {irqRegs : UInt16}
    {radio : LinuxSx1280Radio}
    (hRead :
      exec (onOwned side processIrqsLocked) s =
        (.ok (packetType, irqRegs), s'))
    (hRadio : s'.radio side = some radio) :
    exec (processIrqs side) s =
      exec
        ((processIrqsDispatch packetType radio.operatingMode
          irqRegs).forM (perform side)) s' := by
  unfold processIrqs
  rw [exec_bind, hRead]
  dsimp only
  rw [exec_bind, exec_get]
  dsimp only
  rw [hRadio]

/- The steps of the TX radio's `ProcessIrqs`. -/
theorem processIrqs_alone
    {radio : LinuxSx1280Radio}
    (hTx : t.node.radio .tx = some radio)
    (hPoller : t.poller = .polledRx) :
    ∃ n,
      let t' :=
        run Threads.step t
          ([.readIrqs, .dispatch] ++ List.replicate n .act)
      t'.node = (exec (processIrqs .tx) t.node).2 ∧
        t'.poller = .idle := by
  simp only [run_append]
  change ∃ n,
    (run Threads.step t.readIrqs.dispatch
        (List.replicate n .act)).node = _ ∧
      (run Threads.step t.readIrqs.dispatch
        (List.replicate n .act)).poller = _
  have hOwned := exec_onOwned hTx processIrqsLocked
  unfold Threads.readIrqs
  rw [if_pos hPoller]
  rcases hRead : exec (onOwned .tx processIrqsLocked) t.node
    with ⟨e | ⟨packetType, irqRegs⟩, s'⟩
  · refine ⟨0, ?_⟩
    unfold processIrqs
    rw [exec_bind, hRead]
    exact ⟨rfl, rfl⟩
  · rw [hRead] at hOwned
    have hState := congrArg Prod.snd hOwned
    dsimp only at hState
    have hTx' :
        s'.radio .tx =
          some (exec processIrqsLocked
            (t.node.viewWith .tx radio)).2.radio := by
      rw [hState]
      rfl
    rw [exec_processIrqs_of_read hRead hTx']
    refine ⟨_, run_act ?_⟩
    unfold Threads.dispatch
    dsimp only
    rw [hTx']

/- The steps of a `poll` that nothing comes between. -/
theorem poll_alone
    (hPoller : t.poller = .idle) :
    ∃ n,
      let t' :=
        run Threads.step t
          ([.pollRx, .readIrqs, .dispatch] ++
            List.replicate n .act)
      t'.node = (exec poll t.node).2 ∧ t'.poller = .idle := by
  change ∃ n,
    (run Threads.step t.pollRx
        ([.readIrqs, .dispatch] ++
          List.replicate n .act)).node = _ ∧
      (run Threads.step t.pollRx
        ([.readIrqs, .dispatch] ++
          List.replicate n .act)).poller = _
  unfold Threads.pollRx poll
  rw [if_pos hPoller, exec_bind]
  rcases exec (pollRadio .rx) t.node with ⟨e | u, n⟩
  · exact ⟨0, rfl, rfl⟩
  · dsimp only
    cases hTx : n.radio .tx with
    | none =>
        rw [exec_pollRadio_of_none hTx]
        exact ⟨0, rfl, rfl⟩
    | some radio =>
        rw [exec_pollRadio_of_some hTx]
        exact processIrqs_alone hTx rfl

end LoRaRadio

------------------------------------------------------------
-- The Transmitter of a Node
------------------------------------------------------------

namespace LoRaRadio

open Faulting

variable {hw : LinuxSx1280RadioConfig}
variable {P Q : RadioState → Prop}
variable {s s' : NodeState}

/- The node has a TX radio, and it is in `P`. -/
def NodeState.TxIs
    (P : RadioState → Prop)
    (s : NodeState) : Prop :=
  ∃ radio, s.radio .tx = some radio ∧
    P (s.viewWith .tx radio)

namespace NodeState

theorem TxIs.mono
    (hIs : s.TxIs P)
    (hImp :
      ∀ r : RadioState, r.device = s.txDevice → P r → Q r) :
    s.TxIs Q := by
  rcases hIs with ⟨radio, hRadio, hHere⟩
  exact ⟨radio, hRadio, hImp _ rfl hHere⟩

/- A method of the TX radio concerns the transmitter only. -/
theorem TxIs.onOwned
    {α : Type}
    {m : RadioM α}
    (hIs : s.TxIs P)
    (hMethod : ∀ r, P r → Q (exec m r).2) :
    (exec (onOwned .tx m) s).2.TxIs Q := by
  rcases hIs with ⟨radio, hRadio, hHere⟩
  rw [exec_onOwned hRadio]
  exact ⟨_, rfl, hMethod _ hHere⟩

/- A poll of the RX radio does not concern it. -/
theorem TxIs.pollRx
    (hIs : s.TxIs P) :
    (exec (pollRadio .rx) s).2.TxIs P := by
  rcases hIs with ⟨radio, hRadio, hHere⟩
  have hVoice := keepsVoice_pollRx s
  refine ⟨radio, ?_, ?_⟩
  · exact (congrArg Prod.fst hVoice).trans hRadio
  · have hDevice :
        (exec (pollRadio .rx) s).2.device .tx =
          s.device .tx :=
      congrArg Prod.snd hVoice
    change P ⟨radio, _⟩
    rw [hDevice]
    exact hHere

theorem TxIs.resting
    (hPowered : s.TxIs (Powered hw))
    (hOff : s.txDevice.chip.mode ≠ .tx) :
    s.TxIs (Resting hw) := by
  apply hPowered.mono
  intro r hDevice hHere
  apply hHere.resting
  rwa [hDevice]

theorem TxIs.powered
    (hResting : s.TxIs (Resting hw)) :
    s.TxIs (Powered hw) :=
  hResting.mono fun _ _ hHere => hHere.powered

theorem TxIs.offAir
    (hResting : s.TxIs (Resting hw)) :
    s.txDevice.chip.mode ≠ .tx := by
  rcases hResting with ⟨radio, -, hHere⟩
  exact hHere.chip.offAir

end NodeState

end LoRaRadio

------------------------------------------------------------
-- Restoring the Line
------------------------------------------------------------

namespace LoRaRadio

open Faulting

variable {hw : LinuxSx1280RadioConfig}
variable {r : RadioState}
variable {s : NodeState}

/-
  `HalPostTx` makes one call.  Either the write of the line
  fails, or the line is low afterwards.
-/
theorem exec_halPostTx
    (hTxOnly : hw.TxOnly)
    (hOf : r.radio.IsOf hw) :
    (exec halPostTx r).2 =
      if r.nextEvent.throws then r.afterCall
      else r.afterCall.setTxEnableLine (hw.txLevel false) := by
  have hPost :
      Post halPostTx
        (fun _ r' => r.nextEvent.throws = false ∧
          r' = r.afterCall.setTxEnableLine (hw.txLevel false))
        (fun _ r' => r.nextEvent.throws = true ∧
          r' = r.afterCall) r := by
    change Post (hook postTxState) _ _ r
    rw [post_hook_txOnly hTxOnly hOf rfl]
    split
    case isTrue hThrows => exact ⟨hThrows, rfl⟩
    case isFalse hReturns =>
    exact ⟨Bool.eq_false_iff.mpr hReturns, rfl⟩
  rcases hRun : exec halPostTx r with ⟨e | u, r'⟩
  · rcases hPost.of_error hRun with ⟨hThrows, hState⟩
    rw [hThrows]
    exact hState
  · rcases hPost.of_ok hRun with ⟨hReturns, hState⟩
    rw [hReturns]
    exact hState

/- A transmitter at rest stays so. -/
theorem resting_halPostTx
    (hTxOnly : hw.TxOnly)
    (hResting : Resting hw r) :
    Resting hw (exec halPostTx r).2 := by
  have hCalled := EventProof.afterCall
    (R := Stays (Resting hw)) _ hResting
  rw [exec_halPostTx hTxOnly hResting.isOf]
  split
  · exact hCalled
  · exact ⟨hCalled.isOf, hCalled.speaks, hCalled.genuine,
      hCalled.chip⟩

end LoRaRadio

------------------------------------------------------------
-- What the Threads Keep
------------------------------------------------------------

namespace LoRaRadio

open Faulting

/- The actions that concern a transmission. -/
def txActions : List IrqAction :=
  [.halPostTx, .txDone, .txTimeout]

theorem dispatch_forTx
    {mode : RadioOperatingModes}
    (hMode : mode.ForTx)
    (irqRegs : UInt16) :
    processIrqsDispatch .lora mode irqRegs ⊆ txActions := by
  rcases hMode with rfl | rfl
  · exact List.nil_subset _
  · change onIrq irqRegs Irq.txDone [.halPostTx, .txDone] ++
      onIrq irqRegs Irq.rxTxTimeout [.halPostTx, .txTimeout] ⊆
        txActions
    unfold onIrq
    split <;> split <;> decide

/- Only an end of a transmission restores the line. -/
theorem ended_of_halPostTx
    {mode : RadioOperatingModes}
    {irqRegs : UInt16}
    (hMode : mode.ForTx)
    (hMem : .halPostTx ∈ processIrqsDispatch .lora mode irqRegs) :
    Irq.has irqRegs Irq.txDone = true ∨
      Irq.has irqRegs Irq.rxTxTimeout = true := by
  rcases hMode with rfl | rfl
  · cases hMem
  · change .halPostTx ∈
      onIrq irqRegs Irq.txDone [.halPostTx, .txDone] ++
        onIrq irqRegs Irq.rxTxTimeout [.halPostTx, .txTimeout]
      at hMem
    unfold onIrq at hMem
    by_contra hNeither
    rw [if_neg fun hDone => hNeither (.inl hDone),
      if_neg fun hTimeout => hNeither (.inr hTimeout)] at hMem
    cases hMem

namespace PollerPoint

/- What the thread holds concerns a LoRa transmission. -/
def ForTx : PollerPoint → Prop
| .idle | .polledRx => True
| .read packetType _ => packetType = .lora
| .dispatching actions => actions ⊆ txActions

/- It holds an interrupt that ends a transmission. -/
def HoldsEnd : PollerPoint → Prop
| .idle | .polledRx => False
| .read _ irqRegs =>
    Irq.has irqRegs Irq.txDone = true ∨
      Irq.has irqRegs Irq.rxTxTimeout = true
| .dispatching actions => .halPostTx ∈ actions

end PollerPoint

/-
  The amplifier is on while the chip transmits.  The chip
  does not transmit while a payload waits for its `SetTx`,
  nor while an end of a transmission is dispatched that
  `SetTx` has not overtaken.
-/
structure Threads.Guarded
    (hw : LinuxSx1280RadioConfig)
    (t : Threads) : Prop where
  powered : t.node.TxIs (Powered hw)
  loaded :
    t.sender ≠ none → t.node.txDevice.chip.mode ≠ .tx
  forTx : t.poller.ForTx
  held :
    t.overtaken = false → t.poller.HoldsEnd →
      t.node.txDevice.chip.mode ≠ .tx

variable {hw : LinuxSx1280RadioConfig}
variable {t : Threads}

namespace Threads

theorem Guarded.lit
    (hGuarded : t.Guarded hw) :
    t.Lit hw := by
  rcases hGuarded.powered with ⟨radio, -, hHere⟩
  exact fun hTx => (hHere.chip.onAir hTx).2

theorem Guarded.chip
    {event : ChipEvent}
    (hGuarded : t.Guarded hw)
    (hGenuine : event.Genuine) :
    (t.chip event).Guarded hw := by
  rcases hGuarded.powered with ⟨radio, hRadio, hHere⟩
  have hCalm :=
    Chip.calm_react hGenuine hHere.chip.notInRx
  have hOff : t.node.txDevice.chip.mode ≠ .tx →
      (t.chip event).node.txDevice.chip.mode ≠ .tx :=
    fun hBefore hTx => hBefore (hCalm.onAir hTx)
  refine ⟨⟨radio, hRadio, ?_⟩, ?_, hGuarded.forTx, ?_⟩
  · exact ⟨hHere.isOf, hHere.speaks, hHere.genuine,
      hHere.chip.calm hCalm⟩
  · exact fun hSome => hOff (hGuarded.loaded hSome)
  · exact fun hNot hEnd => hOff (hGuarded.held hNot hEnd)

theorem Guarded.beginSend
    {payload : List UInt8}
    (hGuarded : t.Guarded hw)
    (hProviso : t.Proviso (.beginSend payload)) :
    (t.beginSend payload).Guarded hw := by
  unfold Threads.beginSend
  split
  case isFalse => exact hGuarded
  case isTrue hBegins =>
  have hOff := hProviso hBegins.1 hBegins.2
  have hIssues :
      Issues [.issue .writeBuffer] Unit
        (setPayload payload 0) :=
    issues_writeBuffer _ _ (by decide)
  have hKeeps :
      Keeps (Stays (Resting hw)) (setPayload payload 0) :=
    hIssues.keeps_transmitter (by decide)
  have hResting :=
    (hGuarded.powered.resting hOff).onOwned hKeeps
  exact ⟨hResting.powered, fun _ => hResting.offAir,
    hGuarded.forTx, fun _ _ => hResting.offAir⟩

theorem Guarded.setTx
    (hTxOnly : hw.TxOnly)
    (hGuarded : t.Guarded hw) :
    t.setTx.Guarded hw := by
  unfold Threads.setTx
  cases hSender : t.sender with
  | none => exact hGuarded
  | some timeout =>
      have hOff :=
        hGuarded.loaded (hSender ▸ Option.some_ne_none _)
      have hResting := hGuarded.powered.resting hOff
      have hPowered :=
        hResting.onOwned fun r hHere =>
          powered_setTx hTxOnly hHere timeout
      refine ⟨hPowered, ?_, hGuarded.forTx, ?_⟩
      · exact fun hSome => absurd rfl hSome
      · intro hNot
        cases hNot

theorem Guarded.pollRx
    (hGuarded : t.Guarded hw) :
    t.pollRx.Guarded hw := by
  have hVoice := keepsVoice_pollRx t.node
  have hDevice :
      (exec (pollRadio .rx) t.node).2.txDevice =
        t.node.txDevice :=
    congrArg Prod.snd hVoice
  unfold Threads.pollRx
  split
  case isFalse => exact hGuarded
  case isTrue =>
  refine ⟨hGuarded.powered.pollRx, ?_, ?_, ?_⟩
  · rw [hDevice]
    exact hGuarded.loaded
  · dsimp only
    split <;> trivial
  · intro _ hEnd
    dsimp only at hEnd
    split at hEnd <;> exact hEnd.elim

theorem Guarded.readIrqs
    (hGuarded : t.Guarded hw) :
    t.readIrqs.Guarded hw := by
  have hPowered :
      Keeps (Stays (Powered hw)) processIrqsLocked :=
    services_processIrqsLocked.keeps_transmitter (by decide)
  have hResting :
      Keeps (Stays (Resting hw)) processIrqsLocked :=
    services_processIrqsLocked.keeps_transmitter (by decide)
  unfold Threads.readIrqs
  split
  case isFalse => exact hGuarded
  case isTrue =>
  refine ⟨hGuarded.powered.onOwned hPowered, ?_, ?_, ?_⟩
  · intro hSome
    have hOff := hGuarded.loaded hSome
    have hRested :=
      (hGuarded.powered.resting hOff).onOwned hResting
    exact hRested.offAir
  all_goals
    rcases hGuarded.powered with ⟨radio, hRadio, hHere⟩
    rw [exec_onOwned hRadio]
    rcases hRun :
      exec processIrqsLocked (t.node.viewWith .tx radio) with
      ⟨e | ⟨packetType, irqRegs⟩, r⟩
  · trivial
  · rcases processIrqsLocked_ok hRun with ⟨hType, -, -⟩
    exact hType.trans hHere.speaks.1
  · exact fun _ hEnd => hEnd.elim
  · exact fun _ hEnd =>
      processIrqsLocked_ended hHere hRun hEnd

theorem Guarded.dispatch
    (hGuarded : t.Guarded hw) :
    t.dispatch.Guarded hw := by
  rcases hGuarded.powered with ⟨radio, hRadio, hHere⟩
  have hMode := hHere.speaks.2.1
  unfold Threads.dispatch
  cases hAt : t.poller with
  | read packetType irqRegs =>
      have hType : packetType = .lora := by
        have hForTx := hGuarded.forTx
        rwa [hAt] at hForTx
      rw [hRadio, hType]
      refine ⟨hGuarded.powered, hGuarded.loaded,
        dispatch_forTx hMode irqRegs, fun hNot hMem => ?_⟩
      apply hGuarded.held hNot
      rw [hAt]
      exact ended_of_halPostTx hMode hMem
  | _ => exact hGuarded

/- An action of the dispatch, at a chip that is at rest. -/
theorem resting_perform
    {action : IrqAction}
    {s : NodeState}
    (hTxOnly : hw.TxOnly)
    (hAction : action ∈ txActions)
    (hResting : s.TxIs (Resting hw)) :
    (exec (perform .tx action) s).2.TxIs (Resting hw) := by
  rcases List.mem_cons.mp hAction with rfl | hOther
  · exact hResting.onOwned fun r hHere =>
      resting_halPostTx hTxOnly hHere
  · rcases List.mem_pair.mp hOther with rfl | rfl
    · exact hResting
    · exact hResting

/- An action that does not switch the line off. -/
theorem powered_perform
    {action : IrqAction}
    {s : NodeState}
    (hTxOnly : hw.TxOnly)
    (hAction : action ∈ txActions)
    (hKept :
      action = .halPostTx →
        (s.txDevice.hal s.txDevice.clock).throws = true)
    (hPowered : s.TxIs (Powered hw)) :
    (exec (perform .tx action) s).2.TxIs (Powered hw) := by
  rcases List.mem_cons.mp hAction with rfl | hOther
  · rcases hPowered with ⟨radio, hRadio, hHere⟩
    have hThrows :
        (s.viewWith .tx radio).nextEvent.throws = true :=
      hKept rfl
    have hRun := congrArg Prod.snd (exec_onOwned hRadio halPostTx)
    rw [exec_halPostTx hTxOnly hHere.isOf, if_pos hThrows]
      at hRun
    have hCalled := EventProof.afterCall
      (R := Stays (Powered hw)) _ hHere
    change (exec (onOwned .tx halPostTx) s).2.TxIs _
    rw [hRun]
    exact ⟨_, rfl, hCalled⟩
  · rcases List.mem_pair.mp hOther with rfl | rfl
    · exact hPowered
    · exact hPowered

/- An action that does. -/
theorem exec_perform_low
    {s : NodeState}
    (hTxOnly : hw.TxOnly)
    (hPowered : s.TxIs (Powered hw))
    (hReturns :
      (s.txDevice.hal s.txDevice.clock).throws = false) :
    ∃ radio,
      s.radio .tx = some radio ∧
        (exec (perform .tx .halPostTx) s).2 =
          s.afterMethod .tx
            ((s.viewWith .tx radio).afterCall.setTxEnableLine
              (hw.txLevel false)) := by
  rcases hPowered with ⟨radio, hRadio, hHere⟩
  have hNot :
      ¬ (s.viewWith .tx radio).nextEvent.throws = true :=
    Bool.eq_false_iff.mp hReturns
  have hRun := congrArg Prod.snd (exec_onOwned hRadio halPostTx)
  rw [exec_halPostTx hTxOnly hHere.isOf, if_neg hNot] at hRun
  exact ⟨radio, hRadio, hRun⟩

/- The transmitter after the next action of the dispatch. -/
theorem Guarded.perform
    {action : IrqAction}
    {rest : List IrqAction}
    (hTxOnly : hw.TxOnly)
    (hGuarded : t.Guarded hw)
    (hAt : t.poller = .dispatching (action :: rest))
    (hAction : action ∈ txActions)
    (hNot : t.NotOvertaken .act) :
    (exec (perform .tx action) t.node).2.TxIs
      (Powered hw) := by
  have hPowered := hGuarded.powered
  by_cases hTx : t.node.txDevice.chip.mode = .tx
  · by_cases hPost : action = .halPostTx
    · subst hPost
      by_cases hReturns :
        (t.node.txDevice.hal
          t.node.txDevice.clock).throws = false
      · have hHeld : t.poller.HoldsEnd := by
          rw [hAt]
          exact List.mem_cons_self
        have hOvertaken : t.overtaken = true := by
          by_contra hLate
          exact hGuarded.held (Bool.eq_false_iff.mpr hLate)
            hHeld hTx
        have hOff := hNot rfl hOvertaken rest hAt hReturns
        rcases hPowered with ⟨radio, hRadio, hHere⟩
        rcases exec_perform_low hTxOnly ⟨radio, hRadio, hHere⟩
          hReturns with ⟨radio', hRadio', hRun⟩
        cases hRadio.symm.trans hRadio'
        have hCalled := EventProof.afterCall
          (R := Stays (Powered hw)) _ hHere
        have hResting :
            Resting hw (t.node.viewWith .tx radio).afterCall :=
          hCalled.resting hOff
        rw [hRun]
        exact ⟨_, rfl, hResting.isOf, hResting.speaks,
          hResting.genuine, hResting.chip.sends⟩
      · exact powered_perform hTxOnly hAction
          (fun _ => Bool.eq_true_of_not_eq_false hReturns)
          hPowered
    · exact powered_perform hTxOnly hAction
        (fun hEq => absurd hEq hPost) hPowered
  · exact (resting_perform hTxOnly hAction
      (hPowered.resting hTx)).powered

theorem Guarded.act
    (hTxOnly : hw.TxOnly)
    (hGuarded : t.Guarded hw)
    (hNot : t.NotOvertaken .act) :
    t.act.Guarded hw := by
  have hForTx := hGuarded.forTx
  have hHeld := hGuarded.held
  unfold Threads.act
  cases hAt : t.poller with
  | dispatching actions =>
      rw [hAt] at hForTx hHeld
      cases actions with
      | nil =>
          exact ⟨hGuarded.powered, hGuarded.loaded, trivial,
            fun _ hEnd => hEnd.elim⟩
      | cons action rest =>
          have hAction : action ∈ txActions :=
            hForTx List.mem_cons_self
          have hRested :
              t.node.txDevice.chip.mode ≠ .tx →
                (exec (LoRaRadio.perform .tx action)
                  t.node).2.txDevice.chip.mode ≠ .tx :=
            fun hOff => (resting_perform hTxOnly hAction
              (hGuarded.powered.resting hOff)).offAir
          refine ⟨hGuarded.perform hTxOnly hAt hAction hNot,
            ?_, ?_, ?_⟩
          · exact fun hSome => hRested (hGuarded.loaded hSome)
          · dsimp only
            split
            · exact fun a hMem =>
                hForTx (List.mem_cons_of_mem _ hMem)
            · trivial
          · intro hFresh hEnd
            dsimp only at hEnd
            split at hEnd
            · exact hRested
                (hHeld hFresh (List.mem_cons_of_mem _ hEnd))
            · exact hEnd.elim
  | _ => exact hGuarded

/- If the amplifier stays on, nothing was switched off. -/
theorem Guarded.notOvertaken
    (hTxOnly : hw.TxOnly)
    (hGuarded : t.Guarded hw)
    (hLit : t.act.Lit hw) :
    t.NotOvertaken .act := by
  intro _ _ rest hAt hReturns hTx
  rcases exec_perform_low hTxOnly hGuarded.powered hReturns
    with ⟨radio, -, hRun⟩
  have hNode :
      t.act.node =
        (exec (LoRaRadio.perform .tx .halPostTx) t.node).2 := by
    unfold Threads.act
    rw [hAt]
  unfold Threads.Lit at hLit
  rw [hNode, hRun] at hLit
  exact hw.notAsserted_low (hLit hTx)

end Threads

end LoRaRadio

------------------------------------------------------------
-- Runs of the Two Threads
------------------------------------------------------------

namespace LoRaRadio

open Faulting Runs Threads

variable {hw : LinuxSx1280RadioConfig}
variable {t : Threads}
variable {a : ThreadStep}
variable {s s' : NodeState}

/- Under the proviso, a step that is not overtaken is safe. -/
theorem guarded_step
    (hTxOnly : hw.TxOnly)
    (hGuarded : t.Guarded hw)
    (hProviso : t.Proviso a)
    (hNot : t.NotOvertaken a) :
    (t.step a).Guarded hw := by
  cases a with
  | chip event => exact hGuarded.chip hProviso
  | beginSend payload => exact hGuarded.beginSend hProviso
  | setTx => exact hGuarded.setTx hTxOnly
  | pollRx => exact hGuarded.pollRx
  | readIrqs => exact hGuarded.readIrqs
  | dispatch => exact hGuarded.dispatch
  | act => exact hGuarded.act hTxOnly hNot

/- After any other step the amplifier is off on the air. -/
theorem lit_step_iff
    (hTxOnly : hw.TxOnly)
    (hGuarded : t.Guarded hw)
    (hProviso : t.Proviso a) :
    (t.step a).Lit hw ↔ t.NotOvertaken a := by
  constructor
  · intro hLit hAct
    subst hAct
    exact hGuarded.notOvertaken hTxOnly hLit rfl
  · intro hNot
    exact (guarded_step hTxOnly hGuarded hProviso hNot).lit

/- A node that has come up is guarded. -/
theorem Started.guarded
    {rx rx' tx tx' : RadioState}
    (hStarted : Started s s' rx rx' tx tx')
    (hGenuine :
      ∀ k, ∀ event ∈ (s.txDevice.hal k).chip,
        event.Genuine) :
    (fresh s').Guarded s.node.config.tx.hw := by
  have hRadio : s'.radio .tx = some tx'.radio :=
    congrArg LoRaNode.txRadio hStarted.node
  rcases hStarted.txConfigured with ⟨d, -, hTx⟩
  have hNotInRx :=
    ((issues_setDioIrqParams nodeIrqMask 0 0 0
      ).keeps_notInRx (by decide)).of_exec hStarted.txStarted
      (configureRadio_ok hTx).notInRx
  have hOff := hStarted.offAir
  refine ⟨⟨tx'.radio, hRadio, ?_⟩, fun _ => hOff, trivial,
    fun _ _ => hOff⟩
  refine ⟨(hStarted.sideIs .tx).1 _ hRadio, hStarted.speaks,
    ?_, ?_⟩
  · intro k event hMem
    apply hGenuine k event
    rw [← hStarted.hal.2]
    exact hMem
  · have hRests : s'.txDevice.chip.Rests :=
      ⟨by rwa [hStarted.txDevice], hOff⟩
    exact hRests.sends

/-
  In every interleaving in which a payload is handed to the
  radio only after the transmission before it has ended, the
  amplifier is on throughout every transmission exactly if
  no dispatch restores the line of a transmission that has
  started since its interrupt word was read.
-/
theorem lit_iff_notOvertaken
    (hStopped : s.node.started = false)
    (hUp : exec start s = (.ok true, s'))
    (hTxOnly : s.node.config.tx.hw.TxOnly)
    (hGenuine :
      ∀ k, ∀ event ∈ (s.txDevice.hal k).chip,
        event.Genuine)
    (steps : List ThreadStep)
    (hProviso : Along Threads.step Proviso (fresh s') steps) :
    Along Threads.step
        (fun t a => (t.step a).Lit s.node.config.tx.hw)
        (fresh s') steps ↔
      Along Threads.step NotOvertaken (fresh s') steps := by
  rcases start_ok_true hStopped hUp with
    ⟨rx, rx', tx, tx', hStarted⟩
  have hStep : ∀ (t : Threads) (a : ThreadStep),
      t.Guarded s.node.config.tx.hw →
        t.Proviso a ∧ (t.step a).Lit s.node.config.tx.hw →
          (t.step a).Guarded s.node.config.tx.hw := by
    intro t a hGuarded hHere
    have hNot :=
      (lit_step_iff hTxOnly hGuarded hHere.1).mp hHere.2
    exact guarded_step hTxOnly hGuarded hHere.1 hNot
  have hIff : ∀ (t : Threads) (a : ThreadStep),
      t.Guarded s.node.config.tx.hw →
        (t.Proviso a ∧ (t.step a).Lit s.node.config.tx.hw ↔
          t.Proviso a ∧ t.NotOvertaken a) :=
    fun t a hGuarded => and_congr_right fun hHere =>
      lit_step_iff hTxOnly hGuarded hHere
  have hBoth :=
    along_iff hStep hIff steps (hStarted.guarded hGenuine)
  rw [along_and, along_and] at hBoth
  simpa only [hProviso, true_and] using hBoth

/- The amplified node, started, whose first payload is sent. -/
def amplifiedThreads : Threads :=
  fresh (exec start (amplifiedNode fun _ => false)).2

/- A transmission whose end is dispatched before the next. -/
theorem lit_iff_notOvertaken_polled :
    Along Threads.step
      (fun t a => (t.step a).Lit { pins := amplifiedPins })
      amplifiedThreads
      [.beginSend [1], .setTx, .pollRx, .readIrqs, .dispatch,
        .act, .act, .act] := by
  have hGenuine :
      ∀ k, ∀ event ∈
        ((amplifiedNode fun _ => false).txDevice.hal k).chip,
          event.Genuine := by
    intro k event hMem
    change event ∈ if k = 67 then [.txDone] else [] at hMem
    split at hMem
    · rw [List.mem_singleton.mp hMem]
      trivial
    · cases hMem
  have hProviso :
      Along Threads.step Proviso amplifiedThreads
        [.beginSend [1], .setTx, .pollRx, .readIrqs,
          .dispatch, .act, .act, .act] := by
    refine ⟨fun _ _ => ?_, trivial, trivial, trivial, trivial,
      trivial, trivial, trivial, trivial⟩
    decide +kernel
  apply (lit_iff_notOvertaken rfl
    (exec_of_fst (by decide +kernel)) (by decide) hGenuine
    _ hProviso).mpr
  have hOther : ∀ (t : Threads) (a : ThreadStep),
      a ≠ .act → t.NotOvertaken a :=
    fun _ _ hOther hAct => absurd hAct hOther
  have hFresh : ∀ t : Threads,
      t.overtaken = false → t.NotOvertaken .act := by
    intro t hFresh _ hOvertaken
    rw [hFresh] at hOvertaken
    cases hOvertaken
  refine ⟨hOther _ _ ?_, hOther _ _ ?_, hOther _ _ ?_,
    hOther _ _ ?_, hOther _ _ ?_, hFresh _ ?_, hFresh _ ?_,
    hFresh _ ?_, trivial⟩ <;> decide +kernel

/-
  The interrupt word of the first transmission is read, the
  second begins, and then the first is dispatched.
-/
theorem overtaken_goesDark :
    (exec start (amplifiedNode fun _ => false)).1 =
        .ok true ∧
      Along Threads.step Proviso amplifiedThreads
        [.beginSend [1], .setTx, .pollRx, .readIrqs,
          .beginSend [2], .setTx, .dispatch, .act] ∧
      ¬ Along Threads.step
        (fun t a => (t.step a).Lit { pins := amplifiedPins })
        amplifiedThreads
        [.beginSend [1], .setTx, .pollRx, .readIrqs,
          .beginSend [2], .setTx, .dispatch, .act] := by
  refine ⟨by decide +kernel, ?_, ?_⟩
  · refine ⟨fun _ _ => ?_, trivial, trivial, trivial,
      fun _ _ => ?_, trivial, trivial, trivial, trivial⟩
    · decide +kernel
    · decide +kernel
  · intro hAlong
    have hLast := hAlong.2.2.2.2.2.2.2.1
    exact absurd (hLast (by decide +kernel))
      (by decide +kernel)

end LoRaRadio
