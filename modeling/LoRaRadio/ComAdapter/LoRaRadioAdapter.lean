import LoRaRadio.Config.Yaml
import LoRaRadio.Fprime.Buffer
import LoRaRadio.Node.LoRaNode

/-
  `LoRaRadioAdapter`: the communication adapter between the
  framing stack and a LoRa node.

  The handlers are written against the operations of the
  node they use (`NodeApi`) and against what is wired to the
  uplink ports (`Uplink`).  The calls an adapter makes on its
  output ports are recorded in order.

  Main declarations:
    * `AdapterState`
    * `ensureNodeStarted`
    * `dataInHandler`, `dataReturnInHandler` and `runHandler`
    * `AdapterState.call`
-/

------------------------------------------------------------
-- Surroundings of the Adapter
------------------------------------------------------------

namespace LoRaRadio

/-
  The operations of a node kept in `ν`, hardware included.
  `poll` gives the packets it handed to receive callbacks,
  each with the object that installed the callback.
-/
structure NodeApi (ν : Type) where
  construct : NodeConfig → ν → ν
  setRxCallback : Nat → ν → ν
  start : Faulting Fault ν Bool
  send : List UInt8 → Faulting Fault ν Bool
  poll :
    ν → Except Fault Unit × List (Nat × LoRaNodeRxPacket) × ν

/-
  What is wired to `allocate`, `deallocate` and `dataOut`.
  The buffers `dataOut` gives back are those its consumer
  returns on `dataReturnIn` as the last thing it does.
-/
structure Uplink (π : Type) where
  allocate : Nat → Faulting Fault π FwBuffer
  deallocate : FwBuffer → Faulting Fault π Unit
  dataOut :
    FwBuffer → List UInt8 → FrameContext →
      Faulting Fault π (List (FwBuffer × FrameContext))

/- A call on an output port of the adapter. -/
inductive PortCall
  | allocate (size : Nat) (answer : FwBuffer)
  | deallocate (buffer : FwBuffer)
  | dataOut
      (buffer : FwBuffer)
      (bytes : List UInt8)
      (context : FrameContext)
  | dataReturnOut
      (portNum : Nat)
      (buffer : FwBuffer)
      (context : FrameContext)
  | comStatusOut (portNum : Nat) (status : Success)
deriving DecidableEq, Repr

end LoRaRadio

------------------------------------------------------------
-- Adapter State
------------------------------------------------------------

namespace LoRaRadio

/- The members of `LoRaRadioAdapter`. -/
structure LoRaRadioAdapter where
  rxQueue : List LoRaNodeRxPacket := []
  nodeConfig : NodeConfig := {}
  hasNode : Bool := false
  started : Bool := false
  initialStatusSent : Bool := false
deriving DecidableEq, Repr

/-
  An adapter in its process.  The object has the number
  `this`; the node is the function-local static of
  `ensureNodeStarted`.  Load number `k` of the configuration
  finds the file content `yaml k`.
-/
structure AdapterState (ν π : Type) where
  this : Nat := 0
  adapter : LoRaRadioAdapter := {}
  nodeConstructed : Bool := false
  node : ν
  uplink : π
  memory : Memory := fun _ => 0
  yaml : Nat → Option Text := fun _ => none
  loads : Nat := 0
  calls : List PortCall := []
  elsewhere : List (Nat × LoRaNodeRxPacket) := []

abbrev AdapterM (ν π : Type) :=
  Faulting Fault (AdapterState ν π)

namespace AdapterState

variable {ν π : Type}

def onAdapter
    (f : LoRaRadioAdapter → LoRaRadioAdapter)
    (s : AdapterState ν π) : AdapterState ν π :=
  { s with adapter := f s.adapter }

def onNode
    (f : ν → ν)
    (s : AdapterState ν π) : AdapterState ν π :=
  { s with node := f s.node }

def record
    (c : PortCall)
    (s : AdapterState ν π) : AdapterState ν π :=
  { s with calls := s.calls ++ [c] }

def memcpy
    (address : Nat)
    (bytes : List UInt8)
    (s : AdapterState ν π) : AdapterState ν π :=
  { s with memory := writeBytes s.memory address bytes }

/-
  A packet handed to the callback of an object: the callback
  of this adapter appends it to the queue.
-/
def receive
    (s : AdapterState ν π)
    (packet : Nat × LoRaNodeRxPacket) : AdapterState ν π :=
  if packet.1 = s.this then
    s.onAdapter fun a =>
      { a with rxQueue := a.rxQueue ++ [packet.2] }
  else
    { s with elsewhere := s.elsewhere ++ [packet] }

def nodePart : Lens (AdapterState ν π) ν where
  get s := s.node
  set n s := { s with node := n }
  get_set _ _ := rfl

def uplinkPart : Lens (AdapterState ν π) π where
  get s := s.uplink
  set u s := { s with uplink := u }
  get_set _ _ := rfl

end AdapterState

end LoRaRadio

------------------------------------------------------------
-- Output Ports
------------------------------------------------------------

namespace LoRaRadio

open Faulting

namespace LoRaRadioAdapter

variable {ν π : Type}

def comStatusOut
    (portNum : Nat)
    (status : Success) : AdapterM ν π Unit :=
  modify (AdapterState.record (.comStatusOut portNum status))

def dataReturnOut
    (portNum : Nat)
    (buffer : FwBuffer)
    (context : FrameContext) : AdapterM ν π Unit :=
  modify
    (AdapterState.record
      (.dataReturnOut portNum buffer context))

def allocateOut
    (up : Uplink π)
    (size : Nat) : AdapterM ν π FwBuffer := do
  let buffer ←
    zoom AdapterState.uplinkPart (up.allocate size)
  modify (AdapterState.record (.allocate size buffer))
  return buffer

def deallocateOut
    (up : Uplink π)
    (buffer : FwBuffer) : AdapterM ν π Unit := do
  modify (AdapterState.record (.deallocate buffer))
  zoom AdapterState.uplinkPart (up.deallocate buffer)

end LoRaRadioAdapter

end LoRaRadio

------------------------------------------------------------
-- Bringing the Node Up
------------------------------------------------------------

namespace LoRaRadio

open Faulting

namespace LoRaRadioAdapter

variable {ν π : Type}

/- `kDefaultYamlPath` -/
def defaultYamlPath : Text :=
  "Sx1280Radio/Config/sx1280.yaml".toList

/- Load the configuration into `m_nodeConfig`. -/
def loadConfig : AdapterM ν π NodeConfigError :=
  Faulting.mk fun s =>
    let (err, config, _) :=
      loadNodeConfigFromYaml defaultYamlPath
        (s.yaml s.loads) s.adapter.nodeConfig
    (.ok err,
      { s with
        adapter := { s.adapter with nodeConfig := config }
        loads := s.loads + 1 })

/-
  `static LoRaNode node(m_nodeConfig)`, which constructs the
  node the first time only, and `m_node = &node`.
-/
def staticNode
    (api : NodeApi ν)
    (s : AdapterState ν π) : AdapterState ν π :=
  { s with
    node :=
      if s.nodeConstructed then s.node
      else api.construct s.adapter.nodeConfig s.node
    nodeConstructed := true
    adapter := { s.adapter with hasNode := true } }

/- Call a method of the node `m_node` points to. -/
def callNode
    {α : Type}
    (m : Faulting Fault ν α) : AdapterM ν π α := do
  if !(← get).adapter.hasNode then
    throw (.assertion "m_node")
  zoom AdapterState.nodePart m

def ensureNodeStarted
    (api : NodeApi ν) : AdapterM ν π Bool := do
  if (← get).adapter.started then
    return true
  let err ← loadConfig
  if err ≠ .none then
    return false
  modify (staticNode api)
  modify fun s => s.onNode (api.setRxCallback s.this)
  let up ← callNode api.start
  if !up then
    return false
  modify (AdapterState.onAdapter ({ · with started := true }))
  return true

end LoRaRadioAdapter

end LoRaRadio

------------------------------------------------------------
-- Handlers
------------------------------------------------------------

namespace LoRaRadio

open Faulting

namespace LoRaRadioAdapter

variable {ν π : Type}

def dataInHandler
    (api : NodeApi ν)
    (portNum : Nat)
    (sendBuffer : FwBuffer)
    (context : FrameContext) : AdapterM ν π Unit := do
  if !(← ensureNodeStarted api) then
    dataReturnOut portNum sendBuffer context
    comStatusOut portNum .failure
    return
  let payload :=
    readBytes (← get).memory sendBuffer.data sendBuffer.size
  let ok ← callNode (api.send payload)
  dataReturnOut portNum sendBuffer context
  comStatusOut portNum (if ok then .success else .failure)

def dataReturnInHandler
    (up : Uplink π)
    (buffer : FwBuffer)
    (_ : FrameContext) : AdapterM ν π Unit :=
  deallocateOut up buffer

def comStatusInit
    (api : NodeApi ν) : AdapterM ν π Unit := do
  if (← get).adapter.initialStatusSent then
    return
  if !(← ensureNodeStarted api) then
    return
  comStatusOut 0 .success
  modify
    (AdapterState.onAdapter
      ({ · with initialStatusSent := true }))

/- `m_node->poll()`, with the callbacks it invokes. -/
def pollNode
    (api : NodeApi ν) : AdapterM ν π Unit := do
  if !(← get).adapter.hasNode then
    throw (.assertion "m_node")
  Faulting.mk fun s =>
    let (outcome, packets, node) := api.poll s.node
    (outcome,
      packets.foldl AdapterState.receive
        { s with node := node })

/- Send a buffer up; its consumer may give it back at once. -/
def dataOut
    (up : Uplink π)
    (buffer : FwBuffer)
    (context : FrameContext) : AdapterM ν π Unit := do
  let bytes :=
    readBytes (← get).memory buffer.data buffer.size
  modify (AdapterState.record (.dataOut buffer bytes context))
  let returned ←
    zoom AdapterState.uplinkPart
      (up.dataOut buffer bytes context)
  returned.forM fun r => dataReturnInHandler up r.1 r.2

/- The body of the loop of `run_handler`. -/
def forward
    (up : Uplink π)
    (pkt : LoRaNodeRxPacket) : AdapterM ν π Unit := do
  let needed := pkt.payload.length
  let buffer ← allocateOut up needed
  if !buffer.isValid || buffer.size < needed then
    if buffer.isValid then
      deallocateOut up buffer
  else
    modify (AdapterState.memcpy buffer.data pkt.payload)
    dataOut up (buffer.setSize needed) {}

/-
  The loop of `run_handler`.  Nothing is appended to the
  queue while it runs, so it goes through the packets that
  are queued when it starts.
-/
def forwardAll
    (up : Uplink π) :
    List LoRaNodeRxPacket → AdapterM ν π Unit
| [] => return
| pkt :: rest => do
    modify
      (AdapterState.onAdapter ({ · with rxQueue := rest }))
    forward up pkt
    forwardAll up rest

def runHandler
    (api : NodeApi ν)
    (up : Uplink π) : AdapterM ν π Unit := do
  if !(← ensureNodeStarted api) then
    return
  comStatusInit api
  pollNode api
  forwardAll up (← get).adapter.rxQueue

end LoRaRadioAdapter

end LoRaRadio

------------------------------------------------------------
-- Runs of an Adapter
------------------------------------------------------------

namespace LoRaRadio

open Faulting LoRaRadioAdapter

/-
  A call of one of the adapter's input ports, or other
  components writing to memory between two calls.
-/
inductive AdapterCall
  | dataIn
      (portNum : Nat)
      (buffer : FwBuffer)
      (context : FrameContext)
  | dataReturnIn (buffer : FwBuffer) (context : FrameContext)
  | run
  | otherWrites (memory : Memory)

variable {ν π : Type}

/- The handler of a call. -/
def handler
    (api : NodeApi ν)
    (up : Uplink π) : AdapterCall → AdapterM ν π Unit
| .dataIn portNum buffer context =>
    dataInHandler api portNum buffer context
| .dataReturnIn buffer context =>
    dataReturnInHandler up buffer context
| .run => runHandler api up
| .otherWrites memory => modify ({ · with memory := memory })

/- The state a call leaves, whether it returns or throws. -/
def AdapterState.call
    (api : NodeApi ν)
    (up : Uplink π)
    (s : AdapterState ν π)
    (c : AdapterCall) : AdapterState ν π :=
  (exec (handler api up c) s).2

end LoRaRadio

------------------------------------------------------------
-- The Node of the Deployment
------------------------------------------------------------

namespace LoRaRadio

open Faulting

/- `LoRaNode` as the adapter uses it. -/
def loraNodeApi : NodeApi NodeState where
  construct config s := { s with node := { config } }
  setRxCallback owner s := (exec (setRxCallback owner) s).2
  start := start
  send := send
  poll s :=
    let r := exec poll { s with delivered := [] }
    (r.1, r.2.delivered, { r.2 with delivered := [] })

end LoRaRadio
