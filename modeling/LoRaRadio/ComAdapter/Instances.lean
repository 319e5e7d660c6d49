import LoRaRadio.ComAdapter.AdapterLemmas
import LoRaRadio.Node.Lifecycle
import LoRaRadio.Node.Parameters

/-
  Several adapters in one process.  They share the node,
  which is a function-local static of `ensureNodeStarted`;
  everything else is a member of each of them.

  Main declarations:
    * `Process` and `ProcessStep`
    * `RunsOnItsOwn`
    * `Undisturbing`
    * `runsOnItsOwn_run`
-/

------------------------------------------------------------
-- Adapters of a Process
------------------------------------------------------------

namespace LoRaRadio

open Faulting LoRaRadioAdapter

/- The adapters of a process and the node they share. -/
structure Process where
  adapters : Nat → LoRaRadioAdapter := fun _ => {}
  nodeConstructed : Bool := false
  node : NodeState

/-
  What the handlers of the adapters do to the shared node:
  they begin with `ensureNodeStarted`, which may find any
  file, and if it returns true they send or poll.  `forward`
  takes a packet out of the queue.
-/
inductive ProcessStep
  | ensureNodeStarted (i : Nat) (file : Option Text)
  | send (i : Nat) (payload : List UInt8)
  | poll (i : Nat)
  | forward (i : Nat)

namespace Process

/- One adapter in the process. -/
def view
    (i : Nat)
    (file : Option Text)
    (p : Process) : AdapterState NodeState Unit where
  this := i
  adapter := p.adapters i
  nodeConstructed := p.nodeConstructed
  node := p.node
  uplink := ()
  yaml := fun _ => file

/- The process after one adapter has done something. -/
def update
    (i : Nat)
    (s : AdapterState NodeState Unit)
    (p : Process) : Process where
  adapters := Function.update p.adapters i s.adapter
  nodeConstructed := s.nodeConstructed
  node := s.node

/- The callback of an adapter appends to its queue. -/
def receive
    (p : Process)
    (packet : Nat × LoRaNodeRxPacket) : Process :=
  let a := p.adapters packet.1
  { p with
    adapters :=
      Function.update p.adapters packet.1
        { a with rxQueue := a.rxQueue ++ [packet.2] } }

/- The packets a poll of the node hands to callbacks. -/
def handed
    (p : Process) : List (Nat × LoRaNodeRxPacket) :=
  (loraNodeApi.poll p.node).2.1

/- `m_node->poll()`, with the callbacks it invokes. -/
def polled
    (p : Process) : Process :=
  p.handed.foldl receive
    { p with node := (loraNodeApi.poll p.node).2.2 }

def step
    (p : Process) : ProcessStep → Process
| .ensureNodeStarted i file =>
    p.update i
      (exec (ensureNodeStarted loraNodeApi)
        (p.view i file)).2
| .send i payload =>
    if (p.adapters i).started then
      { p with
        node := (exec (loraNodeApi.send payload) p.node).2 }
    else p
| .poll i => if (p.adapters i).started then p.polled else p
| .forward i =>
    let a := p.adapters i
    { p with
      adapters :=
        Function.update p.adapters i
          { a with rxQueue := a.rxQueue.tail } }

/- A process that has not used its adapters yet. -/
def boot
    (kernel : Kernel)
    (rxDevice txDevice : Device) : Process where
  node :=
    { node := { config := {} }, kernel, rxDevice, txDevice }

/-
  Every started adapter has its own, latest configuration in
  the node, and every packet a poll hands over goes to its
  queue and to no other one; a poll that returns and has
  read a packet hands it over.
-/
structure RunsOnItsOwn
    (p : Process) : Prop where
  config :
    ∀ i, (p.adapters i).started = true →
      p.nodeConstructed = true ∧
        p.node.node.config = (p.adapters i).nodeConfig
  packets :
    ∀ i, (p.adapters i).started = true →
      (p.polled.adapters i).rxQueue =
          (p.adapters i).rxQueue ++ p.handed.map Prod.snd ∧
        ∀ j ≠ i,
          (p.polled.adapters j).rxQueue =
            (p.adapters j).rxQueue
  handsOver :
    ∀ i, (p.adapters i).started = true →
      (loraNodeApi.poll p.node).1 = .ok () →
        p.node.ReadsPacket → p.handed.length = 1

/- The configuration a file loads to. -/
def configOf
    (content : Text) : NodeConfig :=
  (loadNodeConfigFromYaml defaultYamlPath (some content)
    {}).2.1

/-
  A step that does not take the node over: an adapter that
  is not started and finds a file is the first one, and the
  node, if it exists, was built from what the file loads to.
-/
def Undisturbing
    (p : Process) : ProcessStep → Prop
| .ensureNodeStarted i file =>
    (p.adapters i).started = false →
      ∀ content, file = some content →
        (∀ j, (p.adapters j).started = false) ∧
          (p.nodeConstructed = true →
            p.node.node.config = configOf content)
| _ => True

end Process

end LoRaRadio

------------------------------------------------------------
-- Who Is Handed a Packet
------------------------------------------------------------

namespace LoRaRadio

open Faulting

/-
  Packets are handed only to the one whose callback is
  installed, and the node keeps configuration and callback.
-/
def Hands
    (s s' : NodeState) : Prop :=
  s'.node.config = s.node.config ∧
    s'.node.rxCallback = s.node.rxCallback ∧
      ∃ packets,
        s'.delivered = s.delivered ++ packets ∧
          ∀ packet ∈ packets,
            s.node.rxCallback = some packet.1

instance : Std.Refl Hands where
  refl s := ⟨rfl, rfl, [], by simp, by simp⟩

instance : IsTrans NodeState Hands where
  trans s₁ s₂ s₃ hFirst hSecond := by
    rcases hFirst with
      ⟨hConfig, hCallback, packets, hDelivered, hOwn⟩
    rcases hSecond with
      ⟨hConfig', hCallback', packets', hDelivered', hOwn'⟩
    refine ⟨hConfig'.trans hConfig,
      hCallback'.trans hCallback, packets ++ packets', ?_, ?_⟩
    · rw [hDelivered', hDelivered, List.append_assoc]
    · intro packet hMem
      rcases List.mem_append.mp hMem with hFirst | hSecond
      · exact hOwn packet hFirst
      · exact hCallback ▸ hOwn' packet hSecond

variable {α : Type}
variable {s s' : NodeState}

theorem hands_of_callbacks
    (s s' : NodeState)
    (hSame : Same NodeState.callbacks s s') :
    Hands s s' := by
  have hDelivered : s'.delivered = s.delivered :=
    congrArg (fun c => c.1) hSame
  have hCallback : s'.node.rxCallback = s.node.rxCallback :=
    congrArg (fun c => c.2.1) hSame
  have hConfig : s'.node.config = s.node.config :=
    congrArg (fun c => c.2.2) hSame
  exact ⟨hConfig, hCallback, [], by simp [hDelivered],
    by simp⟩

theorem hands_onOwned
    (side : Side)
    (m : RadioM α) :
    Keeps Hands (onOwned side m) :=
  (keepsCallbacks_onOwned side m).mono hands_of_callbacks

theorem hands_deliver
    (packet : LoRaNodeRxPacket)
    (s : NodeState) :
    Hands s (s.deliver packet) := by
  unfold NodeState.deliver
  cases hOwner : s.node.rxCallback with
  | none => exact refl s
  | some owner =>
      refine ⟨rfl, rfl, [(owner, packet)], rfl, ?_⟩
      simp [hOwner]

theorem hands_poll :
    Keeps Hands poll := by
  have hPerform : ∀ side action,
      Keeps Hands (perform side action) := fun side =>
    keeps_perform (fun _ => hands_onOwned side _)
      (hands_onOwned .rx _) hands_deliver
  have hRadio : ∀ side, Keeps Hands (pollRadio side) :=
    fun side =>
      keeps_pollRadio (hands_onOwned side _) (hPerform side)
  unfold poll
  exact (hRadio .rx).bind fun _ => hRadio .tx

theorem keepsCallbacks_send
    (payload : List UInt8) :
    Keeps (Same NodeState.callbacks) (send payload) := by
  unfold send
  refine keeps_get.bind fun s => ?_
  refine keeps_ite (fun _ => keeps_pure _) fun _ => ?_
  refine keeps_ite (fun _ => keeps_pure _) fun _ => ?_
  refine keeps_ite (fun _ => keeps_pure _) fun _ => ?_
  exact (keepsCallbacks_onOwned .tx _).bind
    fun _ => keeps_pure _

end LoRaRadio

------------------------------------------------------------
-- Steps of a Process
------------------------------------------------------------

namespace LoRaRadio

open Faulting LoRaRadioAdapter

namespace Process

variable {p : Process}

/-
  The invariant: a started adapter is the one whose callback
  is installed, with the configuration of the node.
-/
structure Owned
    (p : Process) : Prop where
  lifecycle : Lifecycle p.node
  config :
    ∀ i, (p.adapters i).started = true →
      p.nodeConstructed = true ∧
        p.node.node.config = (p.adapters i).nodeConfig
  callback :
    ∀ i, (p.adapters i).started = true →
      p.node.node.rxCallback = some i

/- The packets of a poll are those of its callback. -/
theorem handed_owner
    {owner : Nat}
    (hOwner : p.node.node.rxCallback = some owner) :
    ∀ packet ∈ p.handed, packet.1 = owner := by
  have hHands := hands_poll { p.node with delivered := [] }
  rcases hHands with ⟨-, -, packets, hDelivered, hOwn⟩
  intro packet hMem
  have hMem' : packet ∈ packets := by
    have hAll : p.handed = [] ++ packets := hDelivered
    rwa [hAll] at hMem
  exact Option.some_inj.mp
    ((hOwn packet hMem').symm.trans hOwner)

/- Packets for one adapter are appended to its queue. -/
theorem queue_receive
    {owner : Nat}
    (packets : List (Nat × LoRaNodeRxPacket))
    (hOwner : ∀ packet ∈ packets, packet.1 = owner)
    (p : Process)
    (j : Nat) :
    ((packets.foldl receive p).adapters j).rxQueue =
      if j = owner then
        (p.adapters j).rxQueue ++ packets.map Prod.snd
      else
        (p.adapters j).rxQueue := by
  induction packets generalizing p with
  | nil => simp
  | cons packet packets ih =>
      have hHere := hOwner packet List.mem_cons_self
      rw [List.foldl_cons, ih fun packet' hMem =>
        hOwner packet' (List.mem_cons_of_mem _ hMem)]
      unfold receive
      by_cases hSelf : j = owner
      · simp [hSelf, hHere]
      · simp [hSelf, hHere]

/- Receiving changes the queues only. -/
theorem foldl_receive
    (packets : List (Nat × LoRaNodeRxPacket))
    (p : Process) :
    (packets.foldl receive p).node = p.node ∧
      (packets.foldl receive p).nodeConstructed =
        p.nodeConstructed ∧
      ∀ j,
        ((packets.foldl receive p).adapters j).started =
            (p.adapters j).started ∧
          ((packets.foldl receive p).adapters j).nodeConfig =
            (p.adapters j).nodeConfig := by
  induction packets generalizing p with
  | nil => exact ⟨rfl, rfl, fun _ => ⟨rfl, rfl⟩⟩
  | cons packet packets ih =>
      rcases ih (p.receive packet) with
        ⟨hNode, hConstructed, hRest⟩
      refine ⟨hNode, hConstructed, fun j => ?_⟩
      rw [List.foldl_cons, (hRest j).1, (hRest j).2]
      unfold receive
      by_cases hSelf : j = packet.1
      · subst hSelf
        simp
      · simp [hSelf]

/- The node that an adapter is about to start. -/
def nodeFor
    (p : Process)
    (i : Nat)
    (content : Text) : NodeState :=
  loraNodeApi.setRxCallback i
    (if p.nodeConstructed then p.node
    else loraNodeApi.construct (configOf content) p.node)

/- What an adapter that finds a file does. -/
theorem ensureNodeStarted_file
    (i : Nat)
    (content : Text)
    (hIdle : (p.adapters i).started = false) :
    p.step (.ensureNodeStarted i (some content)) =
      { adapters :=
          Function.update p.adapters i
            { p.adapters i with
              nodeConfig := configOf content
              hasNode := true
              started :=
                (exec start (p.nodeFor i content)).1 =
                  .ok true }
        nodeConstructed := true
        node := (exec start (p.nodeFor i content)).2 } := by
  have hLoad :
      loadNodeConfigFromYaml defaultYamlPath (some content)
          (p.adapters i).nodeConfig =
        (.none, configOf content, []) := by
    unfold configOf
    rw [loadNodeConfigFromYaml_eq, loadNodeConfigFromYaml_eq]
  unfold step ensureNodeStarted
  simp only [exec_bind, exec_get]
  rw [if_neg (by simp [view, hIdle])]
  simp only [exec_bind, loadConfig, exec_mk]
  simp only [view, hLoad]
  simp only [ne_eq, not_true_eq_false, if_false, exec_bind,
    exec_modify]
  simp only [staticNode, AdapterState.onNode]
  unfold callNode
  simp only [exec_bind, exec_get]
  simp only [Bool.not_true, Bool.false_eq_true, if_false,
    exec_zoom, AdapterState.nodePart]
  have hFor :
      loraNodeApi.setRxCallback i
          (if p.nodeConstructed then p.node
          else loraNodeApi.construct (configOf content)
            p.node) =
        p.nodeFor i content := rfl
  have hApi : loraNodeApi.start = start := rfl
  rw [hFor, hApi]
  rcases exec start (p.nodeFor i content) with ⟨e | up, n⟩
  · simp [update, hIdle]
  · cases up with
    | true =>
        simp only [Bool.not_true, Bool.false_eq_true,
          if_false, exec_bind, exec_modify, exec_pure]
        simp [update, AdapterState.onAdapter]
    | false => simp [update, hIdle]

/- An adapter that is started does nothing again. -/
theorem ensureNodeStarted_started
    (i : Nat)
    (file : Option Text)
    (hStarted : (p.adapters i).started = true) :
    p.step (.ensureNodeStarted i file) = p := by
  have hUp : (p.view i file).adapter.started = true :=
    hStarted
  simp only [step]
  rw [exec_ensureNodeStarted_of_started hUp]
  simp [update, view]

/- Neither does one that finds no file. -/
theorem ensureNodeStarted_missing
    (i : Nat)
    (hIdle : (p.adapters i).started = false) :
    p.step (.ensureNodeStarted i none) = p := by
  unfold step ensureNodeStarted
  simp only [exec_bind, exec_get]
  rw [if_neg (by simp [view, hIdle])]
  simp only [exec_bind, loadConfig, exec_mk]
  simp [view, loadNodeConfigFromYaml, update]

theorem lifecycle_nodeFor
    (i : Nat)
    (content : Text)
    (hLifecycle : Lifecycle p.node) :
    Lifecycle (p.nodeFor i content) := by
  have hBuilt :
      Lifecycle
        (if p.nodeConstructed then p.node
        else loraNodeApi.construct (configOf content)
          p.node) := by
    split
    · exact hLifecycle
    · exact NodeState.Idle.lifecycle ⟨rfl, rfl, rfl⟩
  exact lifecycle_act _ (.setRxCallback i) hBuilt

/- The node has the configuration of the file. -/
theorem config_nodeFor
    (i : Nat)
    (content : Text)
    (hConfig :
      p.nodeConstructed = true →
        p.node.node.config = configOf content) :
    (p.nodeFor i content).node.config = configOf content := by
  change
    (if p.nodeConstructed then p.node
      else loraNodeApi.construct (configOf content)
        p.node).node.config = configOf content
  split
  · next hConstructed => exact hConfig hConstructed
  · rfl

theorem owned_ensureNodeStarted
    (i : Nat)
    (file : Option Text)
    (hOwned : Owned p)
    (hUndisturbing :
      p.Undisturbing (.ensureNodeStarted i file)) :
    Owned (p.step (.ensureNodeStarted i file)) := by
  cases hStarted : (p.adapters i).started with
  | true => rwa [ensureNodeStarted_started i file hStarted]
  | false =>
      cases file with
      | none => rwa [ensureNodeStarted_missing i hStarted]
      | some content =>
          rcases hUndisturbing hStarted content rfl with
            ⟨hFirst, hConfig⟩
          have hKept :=
            keepsCallbacks_start (p.nodeFor i content)
          rw [ensureNodeStarted_file i content hStarted]
          -- No other adapter is started.
          have hOnly : ∀ j,
              ((Function.update p.adapters i
                { p.adapters i with
                  nodeConfig := configOf content
                  hasNode := true
                  started :=
                    (exec start (p.nodeFor i content)).1 =
                      .ok true }) j).started = true →
                j = i := by
            intro j hUp
            by_contra hOther
            rw [Function.update_of_ne hOther, hFirst j] at hUp
            cases hUp
          refine ⟨?_, fun j hUp => ?_, fun j hUp => ?_⟩
          · exact lifecycle_act _ .start
              (lifecycle_nodeFor i content hOwned.lifecycle)
          · have hSame := hOnly j hUp
            subst hSame
            refine ⟨rfl, ?_⟩
            simp only [Function.update_self]
            exact (congrArg (fun c => c.2.2) hKept).trans
              (config_nodeFor j content hConfig)
          · have hSame := hOnly j hUp
            subst hSame
            exact congrArg (fun c => c.2.1) hKept

/- What concerns neither the node nor what is loaded. -/
theorem Owned.of_same
    {p' : Process}
    (hOwned : Owned p)
    (hNode : p'.node = p.node)
    (hConstructed : p'.nodeConstructed = p.nodeConstructed)
    (hSame :
      ∀ j,
        (p'.adapters j).started = (p.adapters j).started ∧
          (p'.adapters j).nodeConfig =
            (p.adapters j).nodeConfig) :
    Owned p' := by
  refine ⟨?_, fun j hUp => ?_, fun j hUp => ?_⟩
  · rw [hNode]
    exact hOwned.lifecycle
  · rw [(hSame j).1] at hUp
    rw [hNode, hConstructed, (hSame j).2]
    exact hOwned.config j hUp
  · rw [(hSame j).1] at hUp
    rw [hNode]
    exact hOwned.callback j hUp

/- The node goes on with its configuration and callback. -/
theorem Owned.of_node
    {n : NodeState}
    (hOwned : Owned p)
    (hLifecycle : Lifecycle n)
    (hConfig : n.node.config = p.node.node.config)
    (hCallback :
      n.node.rxCallback = p.node.node.rxCallback) :
    Owned { p with node := n } := by
  refine ⟨hLifecycle, fun j hUp => ?_, fun j hUp => ?_⟩
  · rcases hOwned.config j hUp with ⟨hBuilt, hOwn⟩
    exact ⟨hBuilt, hConfig.trans hOwn⟩
  · exact hCallback.trans (hOwned.callback j hUp)

theorem owned_polled
    (hOwned : Owned p) :
    Owned p.polled := by
  have hClean : Lifecycle { p.node with delivered := [] } :=
    ⟨hOwned.lifecycle.started, hOwned.lifecycle.stopped⟩
  have hAfter := lifecycle_act _ .poll hClean
  have hHands := hands_poll { p.node with delivered := [] }
  have hNode :
      Owned { p with node := (loraNodeApi.poll p.node).2.2 } :=
    hOwned.of_node ⟨hAfter.started, hAfter.stopped⟩ hHands.1
      hHands.2.1
  rcases foldl_receive p.handed
      { p with node := (loraNodeApi.poll p.node).2.2 } with
    ⟨hSameNode, hConstructed, hSame⟩
  exact hNode.of_same hSameNode hConstructed hSame

/- Only a step that starts an adapter can disturb. -/
theorem owned_step
    (p : Process)
    (step : ProcessStep)
    (hOwned : Owned p)
    (hUndisturbing : p.Undisturbing step) :
    Owned (p.step step) := by
  cases step with
  | ensureNodeStarted i file =>
      exact owned_ensureNodeStarted i file hOwned
        hUndisturbing
  | send i payload =>
      simp only [Process.step]
      split
      · have hKept := keepsCallbacks_send payload p.node
        exact hOwned.of_node
          (lifecycle_act _ (.send payload) hOwned.lifecycle)
          (congrArg (fun c => c.2.2) hKept)
          (congrArg (fun c => c.2.1) hKept)
      · exact hOwned
  | poll i =>
      simp only [Process.step]
      split
      · exact owned_polled hOwned
      · exact hOwned
  | forward i =>
      have hSame : ∀ j,
          ((p.step (.forward i)).adapters j).started =
              (p.adapters j).started ∧
            ((p.step (.forward i)).adapters j).nodeConfig =
              (p.adapters j).nodeConfig := by
        intro j
        simp only [Process.step]
        by_cases hSelf : j = i
        · subst hSelf
          simp
        · simp [hSelf]
      exact hOwned.of_same rfl rfl hSame

/- Packets for a started adapter go to its queue only. -/
theorem Owned.packets
    (hOwned : Owned p)
    {i : Nat}
    (hStarted : (p.adapters i).started = true)
    (j : Nat) :
    (p.polled.adapters j).rxQueue =
      if j = i then
        (p.adapters j).rxQueue ++ p.handed.map Prod.snd
      else
        (p.adapters j).rxQueue :=
  queue_receive p.handed
    (handed_owner (hOwned.callback i hStarted)) _ j

theorem Owned.runsOnItsOwn
    (hOwned : Owned p) :
    p.RunsOnItsOwn := by
  refine ⟨hOwned.config, fun i hStarted => ⟨?_, ?_⟩,
    fun i hStarted hReturns hReads => ?_⟩
  · rw [hOwned.packets hStarted i, if_pos rfl]
  · intro j hOther
    rw [hOwned.packets hStarted j, if_neg hOther]
  · have hClean : Lifecycle { p.node with delivered := [] } :=
      ⟨hOwned.lifecycle.started, hOwned.lifecycle.stopped⟩
    have hPolled := polled_poll hClean
    have hRun :
        exec poll { p.node with delivered := [] } =
          (.ok (), (exec poll
            { p.node with delivered := [] }).2) :=
      exec_of_fst hReturns
    rcases (hPolled.of_ok hRun).once rfl hReads i
        (hOwned.callback i hStarted) with ⟨packet, hHanded⟩
    change (exec poll
      { p.node with delivered := [] }).2.delivered.length = 1
    rw [hHanded]
    rfl

/-
  In every run in which no step takes the node over, every
  started adapter runs on its own, latest configuration and
  gets the packets of the node.
-/
theorem runsOnItsOwn_run
    (kernel : Kernel)
    (rxDevice txDevice : Device)
    (steps : List ProcessStep)
    (hAlong :
      Runs.Along step Undisturbing
        (boot kernel rxDevice txDevice) steps) :
    RunsOnItsOwn
      (Runs.run step (boot kernel rxDevice txDevice)
        steps) := by
  have hBoot : Owned (boot kernel rxDevice txDevice) := by
    refine ⟨NodeState.Idle.lifecycle ⟨rfl, rfl, rfl⟩,
      fun i hUp => ?_, fun i hUp => ?_⟩
    · cases hUp
    · cases hUp
  exact
    (Runs.run_invariant_along owned_step hBoot
      hAlong).runsOnItsOwn

/- One adapter that is started and polls. -/
theorem runsOnItsOwn_oneAdapter :
    RunsOnItsOwn
      (Runs.run step (boot {} {} {})
        [.ensureNodeStarted 0 (some (pinnedYaml "")),
          .poll 0]) := by
  have hFirst :
      (boot {} {} {}).Undisturbing
        (.ensureNodeStarted 0 (some (pinnedYaml ""))) :=
    fun _ _ _ => ⟨fun _ => rfl, fun hBuilt => by cases hBuilt⟩
  exact runsOnItsOwn_run {} {} {} _
    ⟨hFirst, trivial, trivial⟩

/- Two adapters; the second one is to send with 5 dBm. -/
def twoAdapters : List ProcessStep :=
  [.ensureNodeStarted 0 (some (pinnedYaml "")),
    .ensureNodeStarted 1
      (some (pinnedYaml "lora:\n  tx_power_dbm: 5\n"))]

/-
  The second adapter is started with a node that was built
  from the configuration of the first one.
-/
theorem twoAdapters_share :
    ¬ RunsOnItsOwn
      (Runs.run step (boot {} {} {}) twoAdapters) := by
  intro hOwn
  have hRun :
      ((Runs.run step (boot {} {} {}) twoAdapters).adapters
          1).started = true ∧
        ((Runs.run step (boot {} {} {}) twoAdapters).node.node
          ).config.radio.rf.txPowerDbm = 10 ∧
        ((Runs.run step (boot {} {} {}) twoAdapters).adapters
          1).nodeConfig.radio.rf.txPowerDbm = 5 := by
    decide +kernel
  have hConfig := (hOwn.config 1 hRun.1).2
  rw [hConfig, hRun.2.2] at hRun
  exact absurd hRun.2.1 (by decide)

end Process

end LoRaRadio
