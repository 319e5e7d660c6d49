import LoRaRadio.ComAdapter.Recovery
import LoRaRadio.Node.Listening
import LoRaRadio.Radio.OnAir

/-
  Whether a frame cuts the transmission before it short, in
  every run of sends and polls of a node that is up, made
  directly or through the adapter.

  A send does not ask whether the chip still transmits, and
  is answered as soon as its `SET_TX` is written.

  Main declarations:
    * `LinkCall` and `AdapterState.link`
    * `NodeState.OnAir`
    * `AdapterState.Clear` and `AdapterState.Launched`
    * `uncut_iff_clear`
-/

------------------------------------------------------------
-- Calls of a Node That Is Up
------------------------------------------------------------

namespace LoRaRadio

open Faulting LoRaRadioAdapter

variable {π : Type}

/- A send or a poll, direct or through the adapter. -/
inductive LinkCall
  | send (payload : List UInt8)
  | poll
  | adapter (c : AdapterCall)

namespace AdapterState

def link
    (up : Uplink π)
    (s : AdapterState NodeState π) :
    LinkCall → AdapterState NodeState π
| .send payload =>
    (exec (callNode (loraNodeApi.send payload)) s).2
| .poll => (exec (pollNode loraNodeApi) s).2
| .adapter c => s.call loraNodeApi up c

/- The payload a call hands to `send`. -/
def payload?
    (s : AdapterState NodeState π) :
    LinkCall → Option (List UInt8)
| .send payload => some payload
| .adapter (.dataIn _ buffer _) => some (s.payload buffer)
| .poll | .adapter _ => none

end AdapterState

/-
  A payload that is handed to the radio reaches its data
  buffer after the chip has ended its transmission.
-/
def NodeState.Clear
    (s : NodeState)
    (payload : List UInt8) : Prop :=
  s.Transmits payload → s.txDevice.onWrite.mode ≠ .tx

namespace AdapterState

def Clear
    (s : AdapterState NodeState π)
    (call : LinkCall) : Prop :=
  ∀ payload, s.payload? call = some payload →
    s.node.Clear payload

/-
  A frame that is answered SUCCESS is empty, or its `SET_TX`
  comes next after the write of its bytes.
-/
def Launched
    (up : Uplink π)
    (s : AdapterState NodeState π)
    (call : LinkCall) : Prop :=
  ∀ portNum buffer context,
    call = .adapter (.dataIn portNum buffer context) →
    statuses (s.link up call).calls =
        statuses s.calls ++ [.success] →
      s.payload buffer = [] ∨
        ∃ before packet,
          s.node.txDevice.chip.trace ++ before ++
              [.writeBuffer 0 (s.payload buffer)] ++
              [.setTx packet] <+:
            (s.link up call).node.txDevice.chip.trace

end AdapterState

end LoRaRadio

------------------------------------------------------------
-- The Transmitter of a Node
------------------------------------------------------------

namespace LoRaRadio

open Faulting

variable {n : Nat}
variable {α : Type}

/-
  The hardware of the TX radio works, and its chip has been
  followed from the first `n` entries of its record on.
-/
def NodeState.OnAir
    (n : Nat)
    (s : NodeState) : Prop :=
  s.txDevice.Works ∧ s.txDevice.chip.Follows n

/- What a method of known effects leaves of it. -/
theorem Issues.works
    {effects : List Effect}
    {m : RadioM α}
    (hIssues : Issues effects α m)
    (r : RadioState)
    (hWorks : r.device.Works) :
    (exec m r).2.device.Works :=
  hWorks.later ⟨hIssues.keeps_hal r, hIssues.keeps_clock r⟩

theorem keepsOnAir_onOwned
    (side : Side)
    {m : RadioM α}
    (hIssues : Issues pollEffects α m) :
    Keeps (Stays (NodeState.OnAir n)) (onOwned side m) := by
  intro s hOnAir
  unfold onOwned
  rw [exec_mk]
  cases s.radio side with
  | none => exact hOnAir
  | some radio =>
      cases side with
      | rx => exact hOnAir
      | tx =>
          have hFollows :=
            hIssues.keeps_follows (n := n) (by decide)
              ⟨radio, s.txDevice⟩ hOnAir.2
          have hWorks :=
            hIssues.works ⟨radio, s.txDevice⟩ hOnAir.1
          exact ⟨hWorks, hFollows⟩

/- Polling cuts nothing short. -/
theorem onAir_poll
    (s : NodeState)
    (hOnAir : s.OnAir n) :
    (loraNodeApi.poll s).2.2.OnAir n := by
  have hDeliver : ∀ packet (s : NodeState),
      s.OnAir n → (s.deliver packet).OnAir n := by
    intro packet s hBefore
    unfold NodeState.deliver
    cases s.node.rxCallback with
    | none => exact hBefore
    | some owner => exact hBefore
  have hKeeps : Keeps (Stays (NodeState.OnAir n)) poll :=
    keeps_poll keepsOnAir_onOwned hDeliver
  exact hKeeps { s with delivered := [] } hOnAir

variable {s : NodeState}
variable {payload : List UInt8}

/- A payload that is handed to a radio that works. -/
theorem send_returns
    (hTransmits : s.Transmits payload)
    (hWorks : s.txDevice.Works) :
    ∃ (radio : LinuxSx1280Radio) (r : RadioState),
      exec
          (sendPayload payload
            s.node.config.radio.timeouts.txTimeout)
          ⟨radio, s.txDevice⟩ = (.ok (), r) ∧
        r.device.Works ∧
        exec (send payload) s =
          (.ok true, s.afterMethod .tx r) := by
  rcases Option.isSome_iff_exists.mp hTransmits.1.2 with
    ⟨radio, hRadio⟩
  have hTx : s.radio .tx = some radio := hRadio
  have hIssues := issues_sendPayload payload
    s.node.config.radio.timeouts.txTimeout
  rcases hIssues.returns (s := ⟨radio, s.txDevice⟩) hWorks
    with ⟨_, r, hRun, hWorks'⟩
  refine ⟨radio, r, hRun, hWorks', ?_⟩
  rw [exec_send_of_transmits hTransmits]
  exact exec_bind_ok.mpr
    ⟨(), s.afterMethod .tx r,
      (onOwned_ok hTx).mpr ⟨r, hRun, rfl⟩, rfl⟩

theorem onAir_send
    (hOnAir : s.OnAir n)
    (hClear : s.Clear payload) :
    (exec (send payload) s).2.OnAir n := by
  by_cases hTransmits : s.Transmits payload
  · rcases send_returns hTransmits hOnAir.1 with
      ⟨radio, r, hRun, hWorks, hSend⟩
    rw [hSend]
    refine ⟨hWorks, ?_⟩
    exact sendPayload_follows hRun (hClear hTransmits)
      hOnAir.2
  · rw [exec_send_of_not_transmits hTransmits]
    exact hOnAir

theorem cut_send
    (hOnAir : s.OnAir n)
    (hNot : ¬ s.Clear payload) :
    ¬ Uncut
      ((exec (send payload) s).2.txDevice.chip.since n) := by
  unfold NodeState.Clear at hNot
  push Not at hNot
  rcases hNot with ⟨hTransmits, hOn⟩
  rcases send_returns hTransmits hOnAir.1 with
    ⟨radio, r, hRun, -, hSend⟩
  rw [hSend]
  exact sendPayload_cuts hRun hOn hOnAir.2

/- The record of a node is only added to. -/
def NodeState.Records
    (s s' : NodeState) : Prop :=
  s.txDevice.chip.trace <+: s'.txDevice.chip.trace

instance : Std.Refl NodeState.Records where
  refl _ := List.prefix_rfl

instance : IsTrans NodeState NodeState.Records where
  trans _ _ _ hFirst hSecond := hFirst.trans hSecond

theorem keepsRecords_onOwned
    {effects : List Effect}
    (side : Side)
    {m : RadioM α}
    (hIssues : Issues effects α m) :
    Keeps NodeState.Records (onOwned side m) := by
  intro s
  unfold onOwned
  rw [exec_mk]
  cases s.radio side with
  | none => exact List.prefix_rfl
  | some radio =>
      cases side with
      | rx => exact List.prefix_rfl
      | tx => exact hIssues.keeps_records ⟨radio, s.txDevice⟩

theorem records_send
    (s : NodeState)
    (payload : List UInt8) :
    s.Records (exec (send payload) s).2 :=
  keeps_send (keepsRecords_onOwned .tx) payload s

theorem records_poll
    (s : NodeState) :
    s.Records (loraNodeApi.poll s).2.2 := by
  have hDeliver : ∀ packet (s : NodeState),
      s.Records (s.deliver packet) := by
    intro packet s
    unfold NodeState.deliver
    cases s.node.rxCallback with
    | none => exact List.prefix_rfl
    | some owner => exact List.prefix_rfl
  have hKeeps : Keeps NodeState.Records poll :=
    keeps_poll (fun side _ hIssues =>
      keepsRecords_onOwned side hIssues) hDeliver
  exact hKeeps { s with delivered := [] }

end LoRaRadio

------------------------------------------------------------
-- What a Call Does to the Node
------------------------------------------------------------

namespace LoRaRadio

open Faulting LoRaRadioAdapter

variable {π : Type}
variable {up : Uplink π}
variable {s : AdapterState NodeState π}
variable {call : LinkCall}

namespace AdapterState

/- The adapter has a node that is up. -/
structure Running
    (s : AdapterState NodeState π) : Prop where
  started : s.adapter.started = true
  hasNode : s.adapter.hasNode = true

theorem Running.sound
    (hRunning : s.Running) :
    s.Sound :=
  fun _ => hRunning.hasNode

theorem Running.of_standing
    {s' : AdapterState NodeState π}
    (hRunning : s.Running)
    (hSame : Same AdapterState.standing s s') :
    s'.Running := by
  unfold Same standing at hSame
  simp only [Prod.mk.injEq] at hSame
  rcases hSame with ⟨⟨hNode, hStarted, -⟩, -⟩
  exact ⟨hStarted.trans hRunning.started,
    hNode.trans hRunning.hasNode⟩

end AdapterState

theorem exec_callNode
    {α : Type}
    (m : NodeM α)
    (hNode : s.adapter.hasNode = true) :
    exec (callNode m) s =
      ((exec m s.node).1,
        { s with node := (exec m s.node).2 }) := by
  unfold callNode
  rw [exec_bind, exec_get]
  simp only [hNode, Bool.not_true, Bool.false_eq_true,
    if_false]
  rfl

theorem node_receiveAll
    (packets : List (Nat × LoRaNodeRxPacket))
    (s : AdapterState NodeState π) :
    (packets.foldl AdapterState.receive s).node = s.node := by
  induction packets generalizing s with
  | nil => rfl
  | cons packet packets ih =>
      rw [List.foldl_cons, ih]
      unfold AdapterState.receive
      split
      · rfl
      · rfl

theorem node_pollNode
    (hNode : s.adapter.hasNode = true) :
    (exec (pollNode loraNodeApi) s).2.node =
      (loraNodeApi.poll s.node).2.2 := by
  unfold pollNode
  rw [exec_bind, exec_get]
  simp only [hNode, Bool.not_true, Bool.false_eq_true,
    if_false]
  exact node_receiveAll _ _

theorem node_serviceRadio
    (up : Uplink π)
    (hNode : s.adapter.hasNode = true) :
    (exec (serviceRadio loraNodeApi up) s).2.node =
      (loraNodeApi.poll s.node).2.2 := by
  have hPolled := node_pollNode hNode
  unfold serviceRadio
  rw [exec_bind]
  rcases hRun : exec (pollNode loraNodeApi) s with
    ⟨e | u, s₁⟩
  · rw [hRun] at hPolled
    exact hPolled
  · rw [hRun] at hPolled
    have hKeeps :
        Keeps (Same fun s : AdapterState NodeState π => s.node)
          (forwardAll up s₁.adapter.rxQueue) :=
      keeps_forwardAll up _
    have hSame := hKeeps s₁
    exact Eq.trans hSame hPolled

/- A run polls the node once. -/
theorem exec_runHandler_running
    (up : Uplink π)
    (hRunning : s.Running) :
    exec (runHandler loraNodeApi up) s =
      exec (serviceRadio loraNodeApi up) s.announced := by
  rw [exec_runHandler hRunning.sound,
    exec_ensureNodeStarted_of_started hRunning.started]

theorem exec_dataInHandler_running
    (portNum : Nat)
    (buffer : FwBuffer)
    (context : FrameContext)
    (hRunning : s.Running) :
    exec (dataInHandler loraNodeApi portNum buffer context)
        s =
      handled loraNodeApi portNum buffer context true s := by
  rw [exec_dataInHandler hRunning.sound,
    exec_ensureNodeStarted_of_started hRunning.started]

/- Every payload goes through `send`, once. -/
theorem link_sends
    {payload : List UInt8}
    (hRunning : s.Running)
    (hPayload : s.payload? call = some payload) :
    (s.link up call).node =
      (exec (send payload) s.node).2 := by
  cases call with
  | poll => cases hPayload
  | send payload' =>
      cases hPayload
      have hCall := exec_callNode (loraNodeApi.send payload)
        hRunning.hasNode
      exact congrArg (fun o => o.2.node) hCall
  | adapter c =>
      cases c with
      | dataIn portNum buffer context =>
          cases hPayload
          change (exec (dataInHandler loraNodeApi portNum
            buffer context) s).2.node = _
          rw [exec_dataInHandler_running _ _ _ hRunning]
          unfold handled
          rw [if_pos rfl]
          change _ = (exec (loraNodeApi.send _) s.node).2
          rcases exec (loraNodeApi.send (s.payload buffer))
            s.node with ⟨e | ok, n⟩
          · rfl
          · rfl
      | _ => cases hPayload

/- The other calls poll the node or leave it alone. -/
theorem link_polls
    (hRunning : s.Running)
    (hPayload : s.payload? call = none) :
    (s.link up call).node = s.node ∨
      (s.link up call).node =
        (loraNodeApi.poll s.node).2.2 := by
  cases call with
  | poll => exact .inr (node_pollNode hRunning.hasNode)
  | send payload => cases hPayload
  | adapter c =>
      cases c with
      | dataIn portNum buffer context => cases hPayload
      | run =>
          right
          change (exec (runHandler loraNodeApi up) s).2.node =
            _
          have hAnnounced :
              s.announced.adapter.hasNode = true ∧
                s.announced.node = s.node := by
            unfold AdapterState.announced
            split
            · exact ⟨hRunning.hasNode, rfl⟩
            · exact ⟨hRunning.hasNode, rfl⟩
          rw [exec_runHandler_running up hRunning,
            node_serviceRadio up hAnnounced.1, hAnnounced.2]
      | dataReturnIn buffer context =>
          have hKeeps :
              Keeps
                (Same fun s : AdapterState NodeState π =>
                  s.node)
                (dataReturnInHandler up buffer context) :=
            keeps_dataReturnInHandler up buffer context
          exact .inl (hKeeps s)
      | otherWrites memory => exact .inl rfl

theorem running_link
    (hRunning : s.Running)
    (call : LinkCall) :
    (s.link up call).Running := by
  cases call with
  | send payload =>
      change (exec (callNode (loraNodeApi.send payload)) s
        ).2.Running
      rw [exec_callNode _ hRunning.hasNode]
      exact ⟨hRunning.started, hRunning.hasNode⟩
  | poll =>
      exact hRunning.of_standing (silent_pollNode loraNodeApi s)
  | adapter c =>
      cases c with
      | dataIn portNum buffer context =>
          change (exec (dataInHandler loraNodeApi portNum
            buffer context) s).2.Running
          rw [exec_dataInHandler_running _ _ _ hRunning]
          unfold handled
          rw [if_pos rfl]
          rcases exec (loraNodeApi.send (s.payload buffer))
            s.node with ⟨e | ok, n⟩
          · exact ⟨hRunning.started, hRunning.hasNode⟩
          · exact ⟨hRunning.started, hRunning.hasNode⟩
      | run =>
          change (exec (runHandler loraNodeApi up) s).2.Running
          rw [exec_runHandler_running up hRunning]
          have hAnnounced : s.announced.Running := by
            unfold AdapterState.announced
            split
            · exact hRunning
            · exact ⟨hRunning.started, hRunning.hasNode⟩
          exact hAnnounced.of_standing
            (silent_serviceRadio loraNodeApi up _)
      | dataReturnIn buffer context =>
          exact hRunning.of_standing
            (AdapterState.silent_dataReturnIn loraNodeApi up
              buffer context s)
      | otherWrites memory =>
          exact ⟨hRunning.started, hRunning.hasNode⟩

end LoRaRadio

------------------------------------------------------------
-- One Call
------------------------------------------------------------

namespace LoRaRadio

open Faulting LoRaRadioAdapter

variable {π : Type}
variable {n : Nat}
variable {up : Uplink π}
variable {s : AdapterState NodeState π}

/- The invariant of a run that cuts nothing short. -/
structure AdapterState.OnAir
    (n : Nat)
    (s : AdapterState NodeState π) : Prop where
  running : s.Running
  node : s.node.OnAir n

theorem onAir_link
    (call : LinkCall)
    (hOnAir : s.OnAir n)
    (hClear : s.Clear call) :
    (s.link up call).OnAir n := by
  refine ⟨running_link hOnAir.running call, ?_⟩
  cases hPayload : s.payload? call with
  | some payload =>
      rw [link_sends hOnAir.running hPayload]
      exact onAir_send hOnAir.node (hClear payload hPayload)
  | none =>
      rcases @link_polls _ up _ _ hOnAir.running hPayload with
        hSame | hPolled
      · rw [hSame]
        exact hOnAir.node
      · rw [hPolled]
        exact onAir_poll s.node hOnAir.node

theorem cut_link
    (call : LinkCall)
    (hOnAir : s.OnAir n)
    (hNot : ¬ s.Clear call) :
    ¬ Uncut ((s.link up call).node.txDevice.chip.since n) := by
  unfold AdapterState.Clear at hNot
  push Not at hNot
  rcases hNot with ⟨payload, hPayload, hCut⟩
  rw [link_sends hOnAir.running hPayload]
  exact cut_send hOnAir.node hCut

/- A frame that is answered SUCCESS is on its way. -/
theorem launched_link
    (call : LinkCall)
    (hOnAir : s.OnAir n)
    (hClear : s.Clear call) :
    s.Launched up call := by
  intro portNum buffer context hCall hSuccess
  subst hCall
  have hSend := hClear (s.payload buffer) rfl
  have hLink :
      s.link up (.adapter (.dataIn portNum buffer context)) =
        (handled loraNodeApi portNum buffer context true s
          ).2 :=
    congrArg Prod.snd
      (exec_dataInHandler_running portNum buffer context
        hOnAir.running)
  unfold handled at hLink
  rw [if_pos rfl] at hLink
  have hApi :
      exec (loraNodeApi.send (s.payload buffer)) s.node =
        exec (send (s.payload buffer)) s.node := rfl
  rw [hApi] at hLink
  by_cases hTransmits : s.node.Transmits (s.payload buffer)
  · rcases send_returns hTransmits hOnAir.node.1 with
      ⟨radio, r, hRun, -, hReturns⟩
    rw [hReturns] at hLink
    rcases sendPayload_launches hRun (hSend hTransmits) with
      ⟨packet, c, events, hTrace, -, hChip⟩
    rcases records_onWrite ⟨radio, s.node.txDevice⟩ with
      ⟨before, hBefore⟩
    refine .inr ⟨before, packet, ?_⟩
    have hRecord :
        c.trace <+: r.device.chip.trace := by
      rw [hChip]
      exact Chip.reacts_induction
        (I := fun c' => c.trace <+: c'.trace)
        (fun c' event hKept =>
          hKept.trans (c'.react_records event))
        events List.prefix_rfl
    rw [hTrace, ← hBefore] at hRecord
    rw [hLink]
    exact hRecord
  · left
    rw [exec_send_of_not_transmits hTransmits] at hLink
    have hStatus :
        statuses (s.link up
            (.adapter (.dataIn portNum buffer context))
            ).calls =
          statuses s.calls ++
            [sendStatus
              (s.node.idleAnswer (s.payload buffer))] := by
      rw [hLink]
      exact AdapterState.statuses_answered portNum buffer
        context _
    rw [hStatus] at hSuccess
    have hAnswer := List.append_cancel_left hSuccess
    cases hIdle : s.node.idleAnswer (s.payload buffer) with
    | false =>
        rw [hIdle] at hAnswer
        cases hAnswer
    | true =>
        unfold NodeState.idleAnswer at hIdle
        simp only [Bool.and_eq_true,
          List.isEmpty_iff] at hIdle
        exact hIdle.2

/- What has been cut short stays so. -/
theorem cut_stays
    (call : LinkCall)
    (hRunning : s.Running)
    (hCut : ¬ Uncut (s.node.txDevice.chip.since n)) :
    ¬ Uncut ((s.link up call).node.txDevice.chip.since n) := by
  have hRecords :
      s.node.Records (s.link up call).node := by
    cases hPayload : s.payload? call with
    | some payload =>
        rw [link_sends hRunning hPayload]
        exact records_send s.node payload
    | none =>
        rcases @link_polls _ up _ _ hRunning hPayload with
          hSame | hPolled
        · rw [hSame]
          exact refl s.node
        · rw [hPolled]
          exact records_poll s.node
  exact fun hUncut =>
    hCut ( List.IsChain.prefix hUncut (hRecords.drop n))

end LoRaRadio

------------------------------------------------------------
-- Runs
------------------------------------------------------------

namespace LoRaRadio

open Faulting LoRaRadioAdapter Runs

variable {π : Type}
variable {s s' : AdapterState NodeState π}

/- Bringing the node up starts one that was not started. -/
theorem post_ensureNodeStarted_start
    (hIdle : s.node.Idle)
    (hStopped : s.adapter.started = false) :
    Post (ensureNodeStarted loraNodeApi)
      (fun up s' =>
        up = true →
          ∃ n : NodeState,
            n.node.started = false ∧
              n.txDevice = s.node.txDevice ∧
              exec start n = (.ok true, s'.node) ∧
              s'.Running)
      (fun _ _ => True) s := by
  unfold ensureNodeStarted
  rw [post_bind, post_get]
  simp only [hStopped, Bool.false_eq_true, if_false]
  rw [post_bind, post_loadConfig]
  split
  · intro hUp
    cases hUp
  · simp only [post_bind, post_modify]
    rw [post_callNode rfl]
    have hBefore :
        ((staticNode loraNodeApi s.loaded).onNode
            (loraNodeApi.setRxCallback
              (staticNode loraNodeApi s.loaded).this)
          ).node.node.started = false ∧
        ((staticNode loraNodeApi s.loaded).onNode
            (loraNodeApi.setRxCallback
              (staticNode loraNodeApi s.loaded).this)
          ).node.txDevice = s.node.txDevice := by
      unfold staticNode AdapterState.onNode
        AdapterState.loaded
      dsimp only
      split
      · exact ⟨hIdle.1, rfl⟩
      · exact ⟨rfl, rfl⟩
    unfold Post
    rcases hRun : exec loraNodeApi.start _ with ⟨e | up, n⟩
    · trivial
    · cases up with
      | false =>
          intro hUp
          cases hUp
      | true =>
          intro _
          exact ⟨_, hBefore.1, hBefore.2, hRun, rfl, rfl⟩

/-
  In a run of sends and polls of a node that has come up on
  hardware that works, no transmission is cut short, and
  every frame answered SUCCESS is on its way, exactly if
  every payload handed to the radio reaches the data buffer
  after the chip has ended the transmission before.
-/
theorem uncut_iff_clear
    (up : Uplink π)
    (hIdle : s.node.Idle)
    (hStopped : s.adapter.started = false)
    (hUp :
      exec (ensureNodeStarted loraNodeApi) s =
        (.ok true, s'))
    (hWorks : ∀ k, (s.node.txDevice.hal k).throws = false)
    (calls : List LinkCall) :
    (Uncut
        ((run (AdapterState.link up) s' calls
          ).node.txDevice.chip.since
            s'.node.txDevice.chip.trace.length) ∧
      Along (AdapterState.link up) (AdapterState.Launched up)
        s' calls) ↔
      Along (AdapterState.link up) AdapterState.Clear s'
        calls := by
  have hStart := post_ensureNodeStarted_start hIdle hStopped
  rcases hStart.of_ok hUp rfl with
    ⟨n, hBefore, hDevice, hRun, hRunning⟩
  rcases start_ok_true hBefore hRun with
    ⟨rx, rx', tx, tx', hStarted⟩
  have hHal : s'.node.txDevice.hal = s.node.txDevice.hal := by
    rw [hStarted.hal.2, hDevice]
  have hOnAir :
      s'.OnAir s'.node.txDevice.chip.trace.length := by
    refine ⟨hRunning, fun k _ => ?_, ?_⟩
    · rw [hHal]
      exact hWorks k
    · exact Chip.follows_start hStarted.offAir
  generalize s'.node.txDevice.chip.trace.length = count
    at hOnAir
  have hStep : ∀ (t : AdapterState NodeState π) call,
      t.OnAir count → t.Clear call →
        (t.link up call).OnAir count :=
    fun t call => onAir_link call
  have hUncut :
      Uncut
          ((run (AdapterState.link up) s' calls
            ).node.txDevice.chip.since count) ↔
        Along (AdapterState.link up) AdapterState.Clear s'
          calls := by
    apply run_iff_along (I := AdapterState.OnAir count)
      (L := fun t => t.Running ∧
        ¬ Uncut (t.node.txDevice.chip.since count))
      (P := fun t : AdapterState NodeState π =>
        Uncut (t.node.txDevice.chip.since count)) hStep
    · intro t call hBefore hNot
      exact ⟨running_link hBefore.running call,
        cut_link call hBefore hNot⟩
    · intro t call hCut
      exact ⟨running_link hCut.1 call,
        cut_stays call hCut.1 hCut.2⟩
    · exact fun t hBefore => hBefore.node.2.uncut
    · exact fun t hCut => hCut.2
    · exact hOnAir
  rw [hUncut]
  constructor
  · exact fun hBoth => hBoth.1
  · intro hAlong
    refine ⟨hAlong, ?_⟩
    exact hAlong.of_invariant hStep
      (fun t call => launched_link call) hOnAir

/- A frame of three bytes. -/
def shortFrame : LinkCall :=
  .adapter (.dataIn 0 { data := 1, size := 3 } {})

/-
  The transmission of the first frame ends at call number 64
  of the transmitter, the first of the poll that follows.
-/
def pacedAdapter : AdapterState NodeState Unit :=
  { readyAdapter with
    node :=
      { readyAdapter.node with
        txDevice :=
          { hal := fun k =>
              { chip := if k = 64 then [.txDone] else [] } } } }

/- Two frames with a poll between them. -/
theorem uncut_iff_clear_polled :
    let s :=
      (exec (ensureNodeStarted loraNodeApi) pacedAdapter).2
    let calls := [shortFrame, .adapter .run, shortFrame]
    Uncut
        ((run (AdapterState.link noUplink) s calls
          ).node.txDevice.chip.since
            s.node.txDevice.chip.trace.length) ∧
      Along (AdapterState.link noUplink)
        (AdapterState.Launched noUplink) s calls := by
  refine (uncut_iff_clear noUplink ⟨rfl, rfl, rfl⟩ rfl
    (exec_of_fst (by decide +kernel)) (fun _ => rfl) _).mpr ?_
  refine ⟨?_, ?_, ?_, trivial⟩
  · intro payload hPayload _
    decide +kernel
  · intro payload hPayload
    cases hPayload
  · intro payload hPayload _
    decide +kernel

/-
  The second frame comes before the transmission of the
  first has ended, and overwrites it.  The answer to both is
  SUCCESS.
-/
theorem secondFrame_cutsFirst :
    let s :=
      (exec (ensureNodeStarted loraNodeApi) readyAdapter).2
    let s' :=
      run (AdapterState.link noUplink) s
        [shortFrame, shortFrame]
    statuses s'.calls = [.success, .success] ∧
      ¬ Uncut
        (s'.node.txDevice.chip.since
          s.node.txDevice.chip.trace.length) := by
  decide +kernel

end LoRaRadio
