import LoRaRadio.ComAdapter.AdapterLemmas
import LoRaRadio.Library.Runs

/-
  What an adapter forwards of the packets it receives, over
  every sequence of calls of its ports.

  Each packet is paired with the buffer `allocate` answers
  for it.  The pairs tell what is sent: a packet goes out if
  its buffer is valid and large enough, and is dropped
  otherwise.  A node that logs the packets it hands to
  callbacks says what was received.

  Main declarations:
    * `Answering` and `NodeApi.logged`
    * `Passed` and `post_forwardAll`
    * `Forwards`, `serves_call` and `forwards_run`
    * `packets_forwarded`
-/

------------------------------------------------------------
-- Surroundings
------------------------------------------------------------

namespace LoRaRadio

open Faulting

/- Components behind the uplink ports, which all answer. -/
structure Answering (π : Type) where
  allocate : Nat → π → FwBuffer × π
  deallocate : FwBuffer → π → π
  dataOut :
    FwBuffer → List UInt8 → FrameContext → π →
      List (FwBuffer × FrameContext) × π

def Answering.uplink
    {π : Type}
    (up : Answering π) : Uplink π where
  allocate size :=
    Faulting.mk fun u =>
      (.ok (up.allocate size u).1, (up.allocate size u).2)
  deallocate buffer := modify (up.deallocate buffer)
  dataOut buffer bytes context :=
    Faulting.mk fun u =>
      (.ok (up.dataOut buffer bytes context u).1,
        (up.dataOut buffer bytes context u).2)

/- The packets handed to callbacks, with their owners. -/
abbrev PacketLog :=
  List (Nat × LoRaNodeRxPacket)

def loggedPart
    (ν : Type) : Lens (ν × PacketLog) ν where
  get n := n.1
  set m n := (m, n.2)
  get_set _ _ := rfl

/- The same node, with a log of what it hands over. -/
def NodeApi.logged
    {ν : Type}
    (api : NodeApi ν) : NodeApi (ν × PacketLog) where
  construct config n := (api.construct config n.1, n.2)
  setRxCallback owner n := (api.setRxCallback owner n.1, n.2)
  start := zoom (loggedPart ν) api.start
  send payload := zoom (loggedPart ν) (api.send payload)
  poll n :=
    let (outcome, packets, m) := api.poll n.1
    (outcome, packets, (m, n.2 ++ packets))

/- The `allocate` calls among the calls, with answers. -/
def allocations
    (calls : List PortCall) : List (Nat × FwBuffer) :=
  calls.filterMap fun c =>
    match c with
    | .allocate size answer => some (size, answer)
    | _ => none

/- The sizes and bytes of the buffers sent on `dataOut`. -/
def sent
    (calls : List PortCall) : List (Nat × List UInt8) :=
  calls.filterMap fun c =>
    match c with
    | .dataOut buffer bytes _ => some (buffer.size, bytes)
    | _ => none

theorem allocations_append
    (calls calls' : List PortCall) :
    allocations (calls ++ calls') =
      allocations calls ++ allocations calls' :=
  List.filterMap_append

theorem sent_append
    (calls calls' : List PortCall) :
    sent (calls ++ calls') = sent calls ++ sent calls' :=
  List.filterMap_append

/- A packet and the buffer `allocate` answered for it. -/
abbrev Answered :=
  LoRaNodeRxPacket × FwBuffer

namespace Answered

def request
    (p : Answered) : Nat × FwBuffer :=
  (p.1.payload.length, p.2)

/- The buffer is valid and the payload fits in it. -/
def Fits
    (p : Answered) : Prop :=
  p.2.isValid = true ∧ p.1.payload.length ≤ p.2.size

instance
    (p : Answered) :
    Decidable p.Fits :=
  inferInstanceAs (Decidable (_ ∧ _))

/- What is sent of the packet. -/
def sent?
    (p : Answered) : Option (Nat × List UInt8) :=
  if p.Fits then
    some (p.1.payload.length, p.1.payload)
  else
    none

/- The addresses of the payload in the buffer. -/
def Covers
    (p : Answered)
    (address : Nat) : Prop :=
  p.Fits ∧ p.2.data ≤ address ∧
    address < p.2.data + p.2.size

end Answered

end LoRaRadio

------------------------------------------------------------
-- Forwarding the Queue
------------------------------------------------------------

namespace LoRaRadio

open Faulting LoRaRadioAdapter

variable {ν π : Type}
variable {s s' s'' : AdapterState ν π}

/-
  From `s` to `s'` the packets of the pairs have been
  forwarded or dropped, each with its answer.
-/
structure Passed
    (pairs : List Answered)
    (s s' : AdapterState ν π) : Prop where
  this : s'.this = s.this
  node : s'.node = s.node
  allocations :
    LoRaRadio.allocations s'.calls =
      LoRaRadio.allocations s.calls ++
        pairs.map Answered.request
  sent :
    LoRaRadio.sent s'.calls =
      LoRaRadio.sent s.calls ++
        pairs.filterMap Answered.sent?
  memory :
    ∀ address, s'.memory address ≠ s.memory address →
      ∃ p ∈ pairs, p.Covers address

theorem Passed.trans
    {first second : List Answered}
    (hFirst : Passed first s s')
    (hSecond : Passed second s' s'') :
    Passed (first ++ second) s s'' := by
  refine ⟨hSecond.this.trans hFirst.this,
    hSecond.node.trans hFirst.node, ?_, ?_, ?_⟩
  · rw [hSecond.allocations, hFirst.allocations,
      List.map_append, List.append_assoc]
  · rw [hSecond.sent, hFirst.sent, List.filterMap_append,
      List.append_assoc]
  · intro address hChanged
    by_cases hEarly :
        s'.memory address = s.memory address
    · rw [← hEarly] at hChanged
      rcases hSecond.memory address hChanged with
        ⟨p, hMem, hCovers⟩
      exact ⟨p, List.mem_append_right _ hMem, hCovers⟩
    · rcases hFirst.memory address hEarly with
        ⟨p, hMem, hCovers⟩
      exact ⟨p, List.mem_append_left _ hMem, hCovers⟩

/- Nothing is passed by changes of the uplink alone. -/
theorem passed_nil
    (hThis : s'.this = s.this)
    (hNode : s'.node = s.node)
    (hMemory : s'.memory = s.memory)
    (hAllocations :
      allocations s'.calls = allocations s.calls)
    (hSent : sent s'.calls = sent s.calls) :
    Passed [] s s' := by
  refine ⟨hThis, hNode, ?_, ?_, ?_⟩
  · rw [hAllocations, List.map_nil, List.append_nil]
  · rw [hSent, List.filterMap_nil, List.append_nil]
  · intro address hChanged
    rw [hMemory] at hChanged
    exact absurd rfl hChanged

variable {up : Answering π}

theorem post_deallocateOut
    (buffer : FwBuffer) :
    Post (deallocateOut up.uplink buffer)
      (fun _ s' =>
        Passed [] s s' ∧ s'.adapter = s.adapter)
      (fun _ _ => False) s := by
  refine ⟨passed_nil rfl rfl rfl ?_ ?_, rfl⟩
  · exact (allocations_append _ _).trans (List.append_nil _)
  · exact (sent_append _ _).trans (List.append_nil _)

/- What the consumer gives back is handed on. -/
theorem post_returned
    (returned : List (FwBuffer × FrameContext)) :
    Post
      (returned.forM fun r =>
        dataReturnInHandler up.uplink r.1 r.2)
      (fun _ s' =>
        Passed [] s s' ∧ s'.adapter = s.adapter)
      (fun _ _ => False) s := by
  induction returned generalizing s with
  | nil => exact ⟨passed_nil rfl rfl rfl rfl rfl, rfl⟩
  | cons r returned ih =>
      change Post
        (deallocateOut up.uplink r.1 >>= fun _ =>
          returned.forM fun r =>
            dataReturnInHandler up.uplink r.1 r.2) _ _ s
      rw [post_bind]
      apply Post.mono (post_deallocateOut r.1)
      · intro _ s₁ hFirst
        apply Post.mono ih
        · intro _ s₂ hRest
          exact ⟨hFirst.1.trans hRest.1,
            hRest.2.trans hFirst.2⟩
        · exact fun _ _ => id
      · exact fun _ _ => id

/- The state once `allocate` has answered. -/
def AdapterState.asked
    (up : Answering π)
    (size : Nat)
    (s : AdapterState ν π) : AdapterState ν π :=
  ({ s with uplink := (up.allocate size s.uplink).2 }).record
    (.allocate size (up.allocate size s.uplink).1)

theorem allocations_asked
    (size : Nat) :
    allocations (s.asked up size).calls =
      allocations s.calls ++
        [(size, (up.allocate size s.uplink).1)] :=
  allocations_append _ _

theorem sent_asked
    (size : Nat) :
    sent (s.asked up size).calls = sent s.calls :=
  (sent_append _ _).trans (List.append_nil _)

/- A packet that does not fit is dropped. -/
theorem passed_dropped
    {pkt : LoRaNodeRxPacket}
    (hNot :
      ¬ Answered.Fits
        (pkt,
          (up.allocate pkt.payload.length s.uplink).1)) :
    Passed
      [(pkt, (up.allocate pkt.payload.length s.uplink).1)] s
      (s.asked up pkt.payload.length) := by
  refine ⟨rfl, rfl, allocations_asked _, ?_, ?_⟩
  · simp [sent_asked, Answered.sent?, hNot]
  · exact fun _ hChanged => absurd rfl hChanged

/- A packet that fits is copied and sent. -/
theorem post_sent
    {pkt : LoRaNodeRxPacket}
    {buffer : FwBuffer}
    (hBuffer :
      buffer = (up.allocate pkt.payload.length s.uplink).1)
    (hFits : Answered.Fits (pkt, buffer)) :
    Post
      (do
        modify (AdapterState.memcpy buffer.data pkt.payload)
        dataOut up.uplink
          (buffer.setSize pkt.payload.length) {})
      (fun _ s' =>
        Passed [(pkt, buffer)] s s' ∧ s'.adapter = s.adapter)
      (fun _ _ => False) (s.asked up pkt.payload.length) := by
  generalize hCopied :
    (s.asked up pkt.payload.length).memcpy buffer.data
      pkt.payload = s₁
  have hBytes :
      readBytes s₁.memory buffer.data pkt.payload.length =
        pkt.payload := by
    rw [← hCopied]
    exact readBytes_writeBytes _ _ _
  have hPassed : ∀ uplink,
      Passed [(pkt, buffer)] s
        { s₁.record
            (.dataOut (buffer.setSize pkt.payload.length)
              pkt.payload {}) with uplink := uplink } := by
    intro uplink
    rw [← hCopied]
    refine ⟨rfl, rfl, ?_, ?_, ?_⟩
    · change allocations (_ ++ [_]) = _
      rw [allocations_append]
      change allocations (s.asked up _).calls ++ [] = _
      rw [List.append_nil, allocations_asked, ← hBuffer]
      rfl
    · change sent (_ ++ [_]) = _
      rw [sent_append]
      change sent (s.asked up _).calls ++ _ = _
      rw [sent_asked]
      simp [Answered.sent?, hFits, sent, FwBuffer.setSize]
    · intro address hChanged
      refine ⟨(pkt, buffer), List.mem_singleton_self _, hFits,
        ?_⟩
      have hRange := writeBytes_ne hChanged
      have hRoom : pkt.payload.length ≤ buffer.size := hFits.2
      exact ⟨hRange.1,
        hRange.2.trans_le (Nat.add_le_add_left hRoom _)⟩
  rw [post_bind, post_modify, hCopied]
  unfold dataOut
  rw [post_bind, post_get, post_bind, post_modify, post_bind,
    post_zoom]
  have hAdapter : s₁.adapter = s.adapter := by
    rw [← hCopied]
    rfl
  rw [show readBytes s₁.memory
      (buffer.setSize pkt.payload.length).data
      (buffer.setSize pkt.payload.length).size =
        pkt.payload from hBytes]
  apply Post.mono (post_returned _)
  · intro _ s₂ hReturned
    exact ⟨(hPassed _).trans hReturned.1,
      hReturned.2.trans hAdapter⟩
  · exact fun _ _ => id

/-
  One packet: the answer for it decides whether it is sent.
-/
theorem post_forward
    (pkt : LoRaNodeRxPacket) :
    Post (forward up.uplink pkt)
      (fun _ s' =>
        Passed
            [(pkt,
              (up.allocate pkt.payload.length s.uplink).1)]
            s s' ∧
          s'.adapter = s.adapter)
      (fun _ _ => False) s := by
  have hAllocate :
      Post (allocateOut up.uplink pkt.payload.length)
        (fun buffer s' =>
          buffer =
              (up.allocate pkt.payload.length s.uplink).1 ∧
            s' = s.asked up pkt.payload.length)
        (fun _ _ => False) s := ⟨rfl, rfl⟩
  unfold forward
  rw [post_bind]
  apply Post.mono hAllocate
  case hE => exact fun _ _ => id
  intro buffer s₁ hAnswer
  rcases hAnswer with ⟨hBuffer, rfl⟩
  have hFits :
      Answered.Fits (pkt, buffer) ↔
        ¬ ((!buffer.isValid ||
          decide (buffer.size < pkt.payload.length)) =
            true) := by
    simp [Answered.Fits]
  rw [← hBuffer]
  split
  case isTrue hDrops =>
    have hNot : ¬ Answered.Fits (pkt, buffer) :=
      fun hYes => hFits.mp hYes hDrops
    have hDropped :
        Passed [(pkt, buffer)] s
          (s.asked up pkt.payload.length) := by
      rw [hBuffer] at hNot ⊢
      exact passed_dropped hNot
    split
    · apply Post.mono (post_deallocateOut buffer)
      · intro _ s₂ hGiven
        exact ⟨hDropped.trans hGiven.1, hGiven.2⟩
      · exact fun _ _ => id
    · exact ⟨hDropped, rfl⟩
  case isFalse hSends =>
    exact post_sent hBuffer (hFits.mpr hSends)

/- The loop, with one answer for each packet of the queue. -/
theorem post_forwardAll
    (queue : List LoRaNodeRxPacket)
    (hQueue : s.adapter.rxQueue = queue) :
    Post (forwardAll up.uplink queue)
      (fun _ s' =>
        ∃ pairs, Passed pairs s s' ∧
          pairs.map Prod.fst = queue ∧
          s'.adapter = { s.adapter with rxQueue := [] })
      (fun _ _ => False) s := by
  induction queue generalizing s with
  | nil =>
      refine ⟨[], passed_nil rfl rfl rfl rfl rfl, rfl, ?_⟩
      rw [← hQueue]
  | cons pkt rest ih =>
      unfold forwardAll
      rw [post_bind, post_modify, post_bind]
      generalize hPopped :
        s.onAdapter ({ · with rxQueue := rest }) = s₀
      have hAdapter₀ :
          s₀.adapter = { s.adapter with rxQueue := rest } := by
        rw [← hPopped]
        rfl
      apply Post.mono (post_forward (s := s₀) pkt)
      case hE => exact fun _ _ => id
      intro _ s₁ hFirst
      rcases hFirst with ⟨hPassed, hAdapter₁⟩
      have hQueue₁ : s₁.adapter.rxQueue = rest := by
        rw [hAdapter₁, hAdapter₀]
      apply Post.mono (ih hQueue₁)
      case hE => exact fun _ _ => id
      intro _ s₂ hRest
      rcases hRest with ⟨pairs, hPassed', hPackets, hAdapter₂⟩
      have hPop : Passed [] s s₀ := by
        rw [← hPopped]
        exact passed_nil rfl rfl rfl rfl rfl
      have hAll := (hPop.trans hPassed).trans hPassed'
      refine ⟨_, hAll, ?_, ?_⟩
      · rw [List.map_append, hPackets]
        rfl
      · rw [hAdapter₂, hAdapter₁, hAdapter₀]

end LoRaRadio

------------------------------------------------------------
-- Receiving
------------------------------------------------------------

namespace LoRaRadio

open Faulting LoRaRadioAdapter

variable {ν π : Type}

/- The packets of a log that were handed to one object. -/
def ownPackets
    (this : Nat)
    (log : PacketLog) : List LoRaNodeRxPacket :=
  (log.filter (·.1 = this)).map Prod.snd

theorem ownPackets_append
    (this : Nat)
    (log log' : PacketLog) :
    ownPackets this (log ++ log') =
      ownPackets this log ++ ownPackets this log' := by
  simp [ownPackets]

/- What a reception does not touch. -/
def AdapterState.setting
    (s : AdapterState ν π) :
    (Nat × ν × π) × Memory × List PortCall ×
      LoRaRadioAdapter :=
  ((s.this, s.node, s.uplink), s.memory, s.calls,
    { s.adapter with rxQueue := [] })

/- The packets of this adapter are queued in order. -/
theorem receiveAll_queue
    (packets : PacketLog)
    (s : AdapterState ν π) :
    (packets.foldl AdapterState.receive s).setting =
        s.setting ∧
      (packets.foldl AdapterState.receive s).adapter.rxQueue =
        s.adapter.rxQueue ++ ownPackets s.this packets := by
  induction packets generalizing s with
  | nil => exact ⟨rfl, (List.append_nil _).symm⟩
  | cons packet packets ih =>
      rcases ih (s.receive packet) with ⟨hSetting, hQueue⟩
      rw [List.foldl_cons]
      by_cases hOwn : packet.1 = s.this
      · have hReceive :
            s.receive packet =
              s.onAdapter fun a =>
                { a with rxQueue := a.rxQueue ++ [packet.2] } :=
          if_pos hOwn
        rw [hReceive] at hSetting hQueue ⊢
        refine ⟨hSetting, ?_⟩
        rw [hQueue]
        have hCons :
            ownPackets s.this (packet :: packets) =
              packet.2 :: ownPackets s.this packets := by
          simp [ownPackets, hOwn]
        rw [hCons]
        exact List.append_assoc _ _ _
      · have hReceive :
            s.receive packet =
              { s with
                elsewhere := s.elsewhere ++ [packet] } :=
          if_neg hOwn
        rw [hReceive] at hSetting hQueue ⊢
        refine ⟨hSetting, ?_⟩
        rw [hQueue]
        simp [ownPackets, hOwn]

/- The log of the adapter's node. -/
def AdapterState.log
    (s : AdapterState (ν × PacketLog) π) : PacketLog :=
  s.node.2

/- Bringing the node up hands over nothing. -/
theorem keepsLog_ensureNodeStarted
    (api : NodeApi ν) :
    Keeps (Same AdapterState.log)
      (ensureNodeStarted api.logged :
        AdapterM (ν × PacketLog) π Bool) := by
  have hLoad :
      Keeps (Same AdapterState.log)
        (loadConfig : AdapterM (ν × PacketLog) π _) :=
    fun _ => rfl
  have hStart :
      Keeps (Same AdapterState.log)
        (callNode api.logged.start :
          AdapterM (ν × PacketLog) π Bool) := by
    unfold callNode
    refine keeps_get.bind fun s => ?_
    have hZoom :
        Keeps (Same AdapterState.log)
          (zoom (AdapterState.nodePart (π := π))
            api.logged.start) :=
      fun _ => rfl
    split
    · exact (keeps_throw _).bind fun _ => hZoom
    · exact hZoom
  unfold ensureNodeStarted
  refine keeps_get.bind fun s => ?_
  refine keeps_ite (fun _ => keeps_pure _) fun _ => ?_
  refine hLoad.bind fun err => ?_
  refine keeps_ite (fun _ => keeps_pure _) fun _ => ?_
  refine Keeps.bind (keeps_modify fun s => ?_) fun _ => ?_
  · unfold Same AdapterState.log staticNode
    dsimp only
    split <;> rfl
  refine Keeps.bind (keeps_modify fun _ => rfl) fun _ => ?_
  refine hStart.bind fun up => ?_
  refine keeps_ite (fun _ => keeps_pure _) fun _ => ?_
  exact Keeps.bind (keeps_modify fun _ => rfl)
    fun _ => keeps_pure _

end LoRaRadio

------------------------------------------------------------
-- One Call
------------------------------------------------------------

namespace LoRaRadio

open Faulting LoRaRadioAdapter

variable {ν π : Type}
variable {s s' s'' : AdapterState (ν × PacketLog) π}

/-
  From `s` to `s'` the packets of the pairs leave the queue,
  each with its answer, in the order they came in.
-/
structure Forwards
    (pairs : List Answered)
    (s s' : AdapterState (ν × PacketLog) π) : Prop where
  this : s'.this = s.this
  queue :
    ∃ packets, s'.log = s.log ++ packets ∧
      s.adapter.rxQueue ++ ownPackets s.this packets =
        pairs.map Prod.fst ++ s'.adapter.rxQueue
  allocations :
    LoRaRadio.allocations s'.calls =
      LoRaRadio.allocations s.calls ++
        pairs.map Answered.request
  sent :
    LoRaRadio.sent s'.calls =
      LoRaRadio.sent s.calls ++
        pairs.filterMap Answered.sent?

/- Memory changes only where the pairs have buffers. -/
def Within
    (pairs : List Answered)
    (memory memory' : Memory) : Prop :=
  ∀ address, memory' address ≠ memory address →
    ∃ p ∈ pairs, p.Covers address

theorem Forwards.trans
    {first second : List Answered}
    (hFirst : Forwards first s s')
    (hSecond : Forwards second s' s'') :
    Forwards (first ++ second) s s'' := by
  rcases hFirst.queue with ⟨packets, hLog, hQueue⟩
  rcases hSecond.queue with ⟨packets', hLog', hQueue'⟩
  refine ⟨hSecond.this.trans hFirst.this,
    ⟨packets ++ packets', ?_, ?_⟩, ?_, ?_⟩
  · rw [hLog', hLog, List.append_assoc]
  · rw [hFirst.this] at hQueue'
    rw [ownPackets_append, ← List.append_assoc, hQueue,
      List.append_assoc, hQueue', List.map_append,
      List.append_assoc]
  · rw [hSecond.allocations, hFirst.allocations,
      List.map_append, List.append_assoc]
  · rw [hSecond.sent, hFirst.sent, List.filterMap_append,
      List.append_assoc]

/- A state that differs in nothing the packets depend on. -/
theorem forwards_nil
    (hThis : s'.this = s.this)
    (hLog : s'.log = s.log)
    (hQueue : s'.adapter.rxQueue = s.adapter.rxQueue)
    (hAllocations :
      allocations s'.calls = allocations s.calls)
    (hSent : sent s'.calls = sent s.calls) :
    Forwards [] s s' := by
  refine ⟨hThis, ⟨[], ?_, ?_⟩, ?_, ?_⟩
  · rw [hLog, List.append_nil]
  · rw [hQueue]
    exact List.append_nil _
  · rw [hAllocations, List.map_nil, List.append_nil]
  · rw [hSent, List.filterMap_nil, List.append_nil]

/- The loop takes from the queue what it passes on. -/
theorem Passed.forwards
    {pairs : List Answered}
    (hPassed : Passed pairs s s')
    (hQueue :
      s.adapter.rxQueue =
        pairs.map Prod.fst ++ s'.adapter.rxQueue) :
    Forwards pairs s s' := by
  refine ⟨hPassed.this, ⟨[], ?_, ?_⟩, hPassed.allocations,
    hPassed.sent⟩
  · unfold AdapterState.log
    rw [hPassed.node, List.append_nil]
  · rw [hQueue]
    exact List.append_nil _

/- What a poll hands over joins the queue. -/
theorem forwards_received
    {n : ν × PacketLog}
    {packets : PacketLog}
    (hLog : n.2 = s.log ++ packets) :
    Forwards [] s
        (packets.foldl AdapterState.receive
          { s with node := n }) ∧
      (packets.foldl AdapterState.receive
        { s with node := n }).memory = s.memory := by
  rcases receiveAll_queue packets { s with node := n } with
    ⟨hSetting, hQueue⟩
  generalize packets.foldl AdapterState.receive
    { s with node := n } = s' at *
  unfold AdapterState.setting at hSetting
  simp only [Prod.mk.injEq] at hSetting
  rcases hSetting with
    ⟨⟨hThis, hNode, -⟩, hMemory, hCalls, -⟩
  refine ⟨⟨hThis, ⟨packets, ?_, hQueue.symm⟩, ?_, ?_⟩,
    hMemory⟩
  · unfold AdapterState.log at *
    rw [hNode, hLog]
  · rw [hCalls, List.map_nil, List.append_nil]
  · rw [hCalls, List.filterMap_nil, List.append_nil]

/- Polling adds to the queue, whether it returns or throws. -/
theorem post_pollNode
    (api : NodeApi ν)
    (hNode : s.adapter.hasNode = true) :
    Post (pollNode api.logged)
      (fun _ s' => Forwards [] s s' ∧ s'.memory = s.memory)
      (fun _ s' => Forwards [] s s' ∧ s'.memory = s.memory)
      s := by
  have hPoll :
      Keeps
        (fun s s' : AdapterState (ν × PacketLog) π =>
          Forwards [] s s' ∧ s'.memory = s.memory)
        (Faulting.mk fun s : AdapterState (ν × PacketLog) π =>
          ((api.logged.poll s.node).1,
            (api.logged.poll s.node).2.1.foldl
              AdapterState.receive
              { s with
                node := (api.logged.poll s.node).2.2 })) :=
    fun _ => forwards_received rfl
  unfold pollNode
  rw [post_bind, post_get]
  simp only [hNode, Bool.not_true, Bool.false_eq_true,
    if_false]
  exact hPoll.post s

/- What one call does to the packets and to memory. -/
def ServesQueue
    (s s' : AdapterState (ν × PacketLog) π) : Prop :=
  ∃ pairs, Forwards pairs s s' ∧
    Within pairs s.memory s'.memory

theorem serves_nil
    (hForwards : Forwards [] s s')
    (hMemory : s'.memory = s.memory) :
    ServesQueue s s' := by
  refine ⟨[], hForwards, ?_⟩
  intro address hChanged
  rw [hMemory] at hChanged
  exact absurd rfl hChanged

theorem Passed.serves
    {pairs : List Answered}
    (hPassed : Passed pairs s s')
    (hQueue :
      s.adapter.rxQueue =
        pairs.map Prod.fst ++ s'.adapter.rxQueue) :
    ServesQueue s s' :=
  ⟨pairs, hPassed.forwards hQueue, hPassed.memory⟩

/- First come changes that touch no packet and no memory. -/
theorem ServesQueue.after
    (hServes : ServesQueue s' s'')
    (hForwards : Forwards [] s s')
    (hMemory : s'.memory = s.memory) :
    ServesQueue s s'' := by
  rcases hServes with ⟨pairs, hPairs, hWithin⟩
  rw [hMemory] at hWithin
  exact ⟨pairs, hForwards.trans hPairs, hWithin⟩

variable (api : NodeApi ν)
variable (up : Answering π)

/- The queue is polled full and then emptied. -/
theorem post_serviceRadio
    (hNode : s.adapter.hasNode = true) :
    Post (serviceRadio api.logged up.uplink)
      (fun _ s' => ServesQueue s s' ∧ s'.adapter.rxQueue = [])
      (fun _ s' => ServesQueue s s') s := by
  unfold serviceRadio
  rw [post_bind]
  apply Post.mono (post_pollNode api hNode)
  · intro _ s₁ hPolled
    rcases hPolled with ⟨hForwards, hMemory⟩
    rw [post_bind, post_get]
    apply Post.mono (post_forwardAll _ rfl)
    · intro _ s₂ hEmptied
      rcases hEmptied with
        ⟨pairs, hPassed, hPackets, hAdapter⟩
      have hEmpty : s₂.adapter.rxQueue = [] := by
        rw [hAdapter]
      have hQueue :
          s₁.adapter.rxQueue =
            pairs.map Prod.fst ++ s₂.adapter.rxQueue := by
        rw [hEmpty, hPackets, List.append_nil]
      have hServes : ServesQueue s₁ s₂ := hPassed.serves hQueue
      exact ⟨hServes.after hForwards hMemory, hEmpty⟩
    · exact fun _ _ => False.elim
  · intro _ s₁ hPolled
    exact serves_nil hPolled.1 hPolled.2

end LoRaRadio

------------------------------------------------------------
-- Every Call
------------------------------------------------------------

namespace LoRaRadio

open Faulting LoRaRadioAdapter

variable {ν π : Type}
variable {s s' : AdapterState (ν × PacketLog) π}
variable (api : NodeApi ν)
variable (up : Answering π)

/- Packets are queued only once the node has been started. -/
structure AdapterState.Orderly
    {ν : Type}
    (s : AdapterState ν π) : Prop where
  sound : s.Sound
  idle : s.adapter.started = false → s.adapter.rxQueue = []

theorem orderly_of_started
    (hSound : s.Sound)
    (hStarted : s.adapter.started = true) :
    s.Orderly := by
  refine ⟨hSound, fun hStopped => ?_⟩
  rw [hStarted] at hStopped
  cases hStopped

theorem AdapterState.Orderly.of_standing
    (hStarted : s.adapter.started = true)
    (hSound : s.Sound)
    (hSame : s'.standing = s.standing) :
    s'.Orderly := by
  refine orderly_of_started (hSound.of_standing hSame) ?_
  unfold AdapterState.standing at hSame
  simp only [Prod.mk.injEq] at hSame
  rcases hSame with ⟨⟨-, hSame, -⟩, -⟩
  rw [hSame, hStarted]

/- Bringing the node up touches no packet and no memory. -/
theorem post_ensureNodeStarted_orderly
    (hOrderly : s.Orderly) :
    Post (ensureNodeStarted api.logged)
      (fun up s' =>
        (Forwards [] s s' ∧ s'.memory = s.memory) ∧
          s'.Orderly ∧ s'.adapter.started = up)
      (fun _ s' =>
        (Forwards [] s s' ∧ s'.memory = s.memory) ∧
          s'.Orderly)
      s := by
  by_cases hStarted : s.adapter.started = true
  · unfold Post
    rw [exec_ensureNodeStarted_of_started hStarted]
    exact ⟨⟨forwards_nil rfl rfl rfl rfl rfl, rfl⟩, hOrderly,
      hStarted⟩
  · rw [Bool.not_eq_true] at hStarted
    have hKept :
        ∀ {s' : AdapterState (ν × PacketLog) π},
          s'.surface = s.surface → s'.log = s.log →
          s'.Sound →
          (Forwards [] s s' ∧ s'.memory = s.memory) ∧
            s'.Orderly := by
      intro s' hSurface hLog hSound
      unfold AdapterState.surface at hSurface
      simp only [Prod.mk.injEq] at hSurface
      rcases hSurface with
        ⟨⟨hThis, -, hMemory⟩, hCalls, -, hQueue, -⟩
      refine ⟨⟨?_, hMemory⟩, hSound, fun _ => ?_⟩
      · apply forwards_nil hThis hLog hQueue
        · rw [hCalls]
        · rw [hCalls]
      · rw [hQueue, hOrderly.idle hStarted]
    have hUp := post_ensureNodeStarted api.logged hOrderly.sound
    have hLog := (keepsLog_ensureNodeStarted api).post s
    apply Post.mono (hUp.and hLog)
    · intro up s' hBoth
      rcases hBoth with ⟨⟨hSurface, hSound, hEq⟩, hSame⟩
      have hAll := hKept hSurface hSame hSound
      exact ⟨hAll.1, hAll.2, hEq⟩
    · intro e s' hBoth
      rcases hBoth with ⟨⟨hSurface, hSound, -⟩, hSame⟩
      exact hKept hSurface hSame hSound

/- A call on a port that carries no packet. -/
theorem forwards_record
    {c : PortCall}
    (hAllocations : allocations [c] = [])
    (hSent : sent [c] = []) :
    Forwards [] s (s.record c) := by
  refine forwards_nil rfl rfl rfl ?_ ?_
  · change allocations (s.calls ++ [c]) = _
    rw [allocations_append, hAllocations, List.append_nil]
  · change sent (s.calls ++ [c]) = _
    rw [sent_append, hSent, List.append_nil]

theorem forwards_answered
    (portNum : Nat)
    (buffer : FwBuffer)
    (context : FrameContext)
    (status : Success) :
    Forwards [] s
      (s.answered portNum buffer context status) := by
  have hReturned :
      Forwards [] s
        (s.record (.dataReturnOut portNum buffer context)) :=
    forwards_record rfl rfl
  exact hReturned.trans (forwards_record rfl rfl)

theorem forwards_announced :
    Forwards [] s s.announced ∧
      s.announced.memory = s.memory ∧
      s.announced.adapter.started = s.adapter.started := by
  unfold AdapterState.announced
  split
  · exact ⟨forwards_nil rfl rfl rfl rfl rfl, rfl, rfl⟩
  · have hStatus :
        Forwards [] s (s.record (.comStatusOut 0 .success)) :=
      forwards_record rfl rfl
    have hFlag :
        Forwards [] (s.record (.comStatusOut 0 .success))
          ((s.record (.comStatusOut 0 .success)).onAdapter
            ({ · with initialStatusSent := true })) :=
      forwards_nil rfl rfl rfl rfl rfl
    exact ⟨hStatus.trans hFlag, rfl, rfl⟩

/- A run serves the queue and leaves it empty. -/
theorem post_runHandler
    (hOrderly : s.Orderly) :
    Post (runHandler api.logged up.uplink)
      (fun _ s' =>
        ServesQueue s s' ∧ s'.Orderly ∧ s'.adapter.rxQueue = [])
      (fun _ s' => ServesQueue s s' ∧ s'.Orderly) s := by
  have hUp := post_ensureNodeStarted_orderly
    api hOrderly
  unfold Post
  rw [exec_runHandler hOrderly.sound]
  rcases hStart : exec (ensureNodeStarted api.logged) s with
    ⟨e | started, s₁⟩
  · have hFailed := hUp.of_error hStart
    exact ⟨serves_nil hFailed.1.1 hFailed.1.2, hFailed.2⟩
  · rcases hUp.of_ok hStart with
      ⟨⟨hForwards, hMemory⟩, hOrderly₁, hStarted⟩
    cases started with
    | false =>
        exact ⟨serves_nil hForwards hMemory, hOrderly₁,
          hOrderly₁.idle hStarted⟩
    | true =>
        rcases forwards_announced (s := s₁) with
          ⟨hAnnounced, hMemory', hStarted'⟩
        rw [hStarted] at hStarted'
        have hSound := hOrderly₁.sound.announced
        have hServed :=
          post_serviceRadio api up (hSound hStarted')
        have hStanding :=
          (silent_serviceRadio api.logged up.uplink).post
            s₁.announced
        have hBefore := hForwards.trans hAnnounced
        have hMemory₂ := hMemory'.trans hMemory
        apply Post.mono (hServed.and hStanding)
        · intro _ s₂ hDone
          rcases hDone with ⟨⟨hServes, hEmpty⟩, hSame⟩
          have hOrderly₂ := AdapterState.Orderly.of_standing
            hStarted' hSound hSame
          exact ⟨hServes.after hBefore hMemory₂, hOrderly₂,
            hEmpty⟩
        · intro _ s₂ hDone
          rcases hDone with ⟨hServes, hSame⟩
          have hOrderly₂ := AdapterState.Orderly.of_standing
            hStarted' hSound hSame
          exact ⟨hServes.after hBefore hMemory₂, hOrderly₂⟩

/- Sending a frame touches no packet. -/
theorem post_dataInHandler
    (hOrderly : s.Orderly)
    (portNum : Nat)
    (buffer : FwBuffer)
    (context : FrameContext) :
    Post (dataInHandler api.logged portNum buffer context)
      (fun _ s' => ServesQueue s s' ∧ s'.Orderly)
      (fun _ s' => ServesQueue s s' ∧ s'.Orderly) s := by
  have hUp := post_ensureNodeStarted_orderly
    api hOrderly
  unfold Post
  rw [exec_dataInHandler hOrderly.sound]
  rcases hStart : exec (ensureNodeStarted api.logged) s with
    ⟨e | started, s₁⟩
  · have hFailed := hUp.of_error hStart
    exact ⟨serves_nil hFailed.1.1 hFailed.1.2, hFailed.2⟩
  · rcases hUp.of_ok hStart with
      ⟨⟨hForwards, hMemory⟩, hOrderly₁, hStarted⟩
    unfold handled
    cases started with
    | false =>
        have hAnswered := forwards_answered (s := s₁)
          portNum buffer context .failure
        exact ⟨serves_nil (hForwards.trans hAnswered) hMemory,
          hOrderly₁.sound, hOrderly₁.idle⟩
    | true =>
        have hLog :
            Keeps (fun n n' : ν × PacketLog => n'.2 = n.2)
              (api.logged.send (s₁.payload buffer)) :=
          fun _ => rfl
        have hKept := hLog s₁.node
        simp only [if_true]
        rcases hSend :
            exec (api.logged.send (s₁.payload buffer))
              s₁.node with ⟨outcome, n⟩
        rw [hSend] at hKept
        have hSent : Forwards [] s₁ { s₁ with node := n } :=
          forwards_nil rfl hKept rfl rfl rfl
        have hBefore := hForwards.trans hSent
        cases outcome with
        | error e =>
            exact ⟨serves_nil hBefore hMemory, hOrderly₁.sound,
              hOrderly₁.idle⟩
        | ok ok =>
            have hAnswered := forwards_answered
              (s := { s₁ with node := n })
              portNum buffer context (sendStatus ok)
            have hAll := hBefore.trans hAnswered
            exact ⟨serves_nil hAll hMemory, hOrderly₁.sound,
              hOrderly₁.idle⟩

end LoRaRadio

------------------------------------------------------------
-- Whole Runs
------------------------------------------------------------

namespace LoRaRadio

open Faulting LoRaRadioAdapter

variable {ν π : Type}
variable {s : AdapterState (ν × PacketLog) π}

variable (api : NodeApi ν)
variable (up : Answering π)

/- The state a computation leaves, however it ends. -/
theorem serves_of_post
    {m : AdapterM (ν × PacketLog) π Unit}
    (hPost :
      Post m (fun _ s' => ServesQueue s s' ∧ s'.Orderly)
        (fun _ s' => ServesQueue s s' ∧ s'.Orderly) s) :
    ServesQueue s (exec m s).2 ∧ (exec m s).2.Orderly := by
  unfold Post at hPost
  rcases hRun : exec m s with ⟨e | u, s'⟩
  · rwa [hRun] at hPost
  · rwa [hRun] at hPost

/- Every handler serves the queue. -/
theorem serves_call
    (hOrderly : s.Orderly)
    (c : AdapterCall)
    (hCall : ∀ memory, c ≠ .otherWrites memory) :
    ServesQueue s (s.call api.logged up.uplink c) ∧
      (s.call api.logged up.uplink c).Orderly := by
  unfold AdapterState.call
  apply serves_of_post
  cases c with
  | dataIn portNum buffer context =>
      exact post_dataInHandler api hOrderly portNum buffer context
  | dataReturnIn buffer context =>
      apply Post.mono (post_deallocateOut buffer)
      · intro _ s' hReturned
        rcases hReturned with ⟨hPassed, hAdapter⟩
        have hQueue :
            s.adapter.rxQueue =
              ([] : List Answered).map Prod.fst ++
                s'.adapter.rxQueue := by
          rw [hAdapter]
          rfl
        refine ⟨hPassed.serves hQueue, ?_, ?_⟩
        · unfold AdapterState.Sound
          rw [hAdapter]
          exact hOrderly.sound
        · rw [hAdapter]
          exact hOrderly.idle
      · exact fun _ _ => False.elim
  | run =>
      apply Post.mono (post_runHandler api up hOrderly)
      · exact fun _ s' hDone => ⟨hDone.1, hDone.2.1⟩
      · exact fun _ _ => id
  | otherWrites memory => exact absurd rfl (hCall memory)

/- Other components may write to memory between two calls. -/
theorem forwards_call
    (hOrderly : s.Orderly)
    (c : AdapterCall) :
    (∃ pairs,
        Forwards pairs s (s.call api.logged up.uplink c)) ∧
      (s.call api.logged up.uplink c).Orderly := by
  by_cases hCall : ∀ memory, c ≠ .otherWrites memory
  · rcases serves_call api up hOrderly c hCall with
      ⟨⟨pairs, hForwards, -⟩, hOrderly'⟩
    exact ⟨⟨pairs, hForwards⟩, hOrderly'⟩
  · push Not at hCall
    rcases hCall with ⟨memory, rfl⟩
    exact ⟨⟨[], forwards_nil rfl rfl rfl rfl rfl⟩,
      hOrderly.sound, hOrderly.idle⟩

/- Over a run the pairs of the calls follow one another. -/
theorem forwards_run
    (calls : List AdapterCall)
    (hOrderly : s.Orderly) :
    ∃ pairs,
      Forwards pairs s
        (Runs.run (AdapterState.call api.logged up.uplink) s
          calls) := by
  induction calls generalizing s with
  | nil => exact ⟨[], forwards_nil rfl rfl rfl rfl rfl⟩
  | cons c calls ih =>
      rcases forwards_call api up hOrderly c
        with ⟨⟨pairs, hFirst⟩, hOrderly'⟩
      rcases ih hOrderly' with ⟨pairs', hRest⟩
      exact ⟨pairs ++ pairs', hFirst.trans hRest⟩

/-
  What each call of a run guarantees: a run of the handler
  that returns leaves the queue empty, and a handler writes
  to memory only inside buffers that were allocated in that
  call and hold the packet.
-/
structure CallForwards
    (api : NodeApi ν)
    (up : Answering π)
    (s : AdapterState (ν × PacketLog) π)
    (c : AdapterCall) : Prop where
  emptied :
    c = .run →
    (exec (handler api.logged up.uplink c) s).1 = .ok () →
      (s.call api.logged up.uplink c).adapter.rxQueue = []
  within :
    (∀ memory, c ≠ .otherWrites memory) →
      ∃ pairs : List Answered,
        allocations (s.call api.logged up.uplink c).calls =
            allocations s.calls ++
              pairs.map Answered.request ∧
          Within pairs s.memory
            (s.call api.logged up.uplink c).memory

theorem call_forwards
    (hOrderly : s.Orderly)
    (c : AdapterCall) :
    CallForwards api up s c := by
  refine ⟨?_, ?_⟩
  · intro hRun hReturns
    rw [hRun] at hReturns ⊢
    have hDone := (post_runHandler api up hOrderly).of_ok
      (exec_of_fst hReturns)
    exact hDone.2.2
  · intro hCall
    rcases (serves_call api up hOrderly c hCall).1 with
      ⟨pairs, hForwards, hWithin⟩
    exact ⟨pairs, hForwards.allocations, hWithin⟩

/-
  Over every run of an adapter in its process, the packets
  its callback received are, in order, those of some pairs
  followed by those still queued; the pairs' buffers are the
  answers of `allocate`; and what was sent on `dataOut` is
  what the pairs say: the payloads of exactly the packets
  whose buffer is valid and large enough.
-/
theorem packets_forwarded
    (api : NodeApi ν)
    (up : Answering π)
    (this : Nat)
    (node : ν)
    (uplink : π)
    (nodeConstructed : Bool)
    (memory : Memory)
    (yaml : Nat → Option Text)
    (calls : List AdapterCall) :
    let start : AdapterState (ν × PacketLog) π :=
      { this, node := (node, []), uplink, nodeConstructed,
        memory, yaml }
    let s :=
      Runs.run (AdapterState.call api.logged up.uplink)
        start calls
    (∃ pairs : List Answered,
        ownPackets this s.log =
            pairs.map Prod.fst ++ s.adapter.rxQueue ∧
          allocations s.calls = pairs.map Answered.request ∧
          sent s.calls = pairs.filterMap Answered.sent?) ∧
      Runs.Along (AdapterState.call api.logged up.uplink)
        (CallForwards api up) start calls := by
  intro start s
  have hOrderly : start.Orderly := ⟨fun h => h, fun _ => rfl⟩
  refine ⟨?_, ?_⟩
  · rcases forwards_run api up calls hOrderly
      with ⟨pairs, hForwards⟩
    rcases hForwards.queue with ⟨packets, hLog, hQueue⟩
    refine ⟨pairs, ?_, hForwards.allocations,
      hForwards.sent⟩
    rw [show s.log = packets from hLog]
    exact hQueue
  · apply Runs.along_of_invariant
      (I := AdapterState.Orderly)
    · exact fun s c hOrderly => (forwards_call api up hOrderly c).2
    · exact fun s c hOrderly => call_forwards api up hOrderly c
    · exact hOrderly

end LoRaRadio
