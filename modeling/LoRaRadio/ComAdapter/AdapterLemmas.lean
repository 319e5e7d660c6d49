import LoRaRadio.ComAdapter.LoRaRadioAdapter

/-
  What the parts of the adapter's handlers do, and what they
  leave alone.

  Main declarations:
    * `post_ensureNodeStarted`
    * `exec_dataInHandler` and `exec_runHandler`
    * `UplinkProof` and `keeps_forwardAll`
    * `silent_serviceRadio`
    * `AdapterState.Sound.call`
-/

------------------------------------------------------------
-- Bringing the Node Up
------------------------------------------------------------

namespace LoRaRadio

open Faulting LoRaRadioAdapter

variable {ν π : Type}
variable {s : AdapterState ν π}

namespace AdapterState

/- What bringing the node up does not touch. -/
def surface
    (s : AdapterState ν π) :
    (Nat × π × Memory) ×
      List PortCall × List (Nat × LoRaNodeRxPacket) ×
      List LoRaNodeRxPacket × Bool :=
  ((s.this, s.uplink, s.memory), s.calls, s.elsewhere,
    s.adapter.rxQueue, s.adapter.initialStatusSent)

/- An adapter that has started its node has a node. -/
def Sound
    (s : AdapterState ν π) : Prop :=
  s.adapter.started = true → s.adapter.hasNode = true

end AdapterState

theorem exec_ensureNodeStarted_of_started
    {api : NodeApi ν}
    (hStarted : s.adapter.started = true) :
    exec (ensureNodeStarted api) s = (.ok true, s) := by
  unfold ensureNodeStarted
  rw [exec_bind, exec_get]
  simp [hStarted]

theorem post_callNode
    {α : Type}
    {m : Faulting Fault ν α}
    {Q : α → AdapterState ν π → Prop}
    {E : Fault → AdapterState ν π → Prop}
    (hNode : s.adapter.hasNode = true) :
    Post (callNode m) Q E s ↔
      Post m (fun a n => Q a { s with node := n })
        (fun e n => E e { s with node := n }) s.node := by
  unfold callNode
  rw [post_bind, post_get]
  simp only [hNode, Bool.not_true, Bool.false_eq_true,
    if_false]
  exact post_zoom _ _ _ _ _

/- The state after the configuration has been loaded. -/
def AdapterState.loaded
    (s : AdapterState ν π) : AdapterState ν π :=
  let r :=
    loadNodeConfigFromYaml defaultYamlPath (s.yaml s.loads)
      s.adapter.nodeConfig
  { s with
    adapter := { s.adapter with nodeConfig := r.2.1 }
    loads := s.loads + 1 }

theorem post_loadConfig
    {Q : NodeConfigError → AdapterState ν π → Prop}
    {E : Fault → AdapterState ν π → Prop} :
    Post loadConfig Q E s ↔
      Q (loadNodeConfigFromYaml defaultYamlPath
        (s.yaml s.loads) s.adapter.nodeConfig).1
        s.loaded := Iff.rfl

/-
  Bringing the node up changes nothing on the surface, and
  returns true exactly when the adapter then has a started
  node.
-/
theorem post_ensureNodeStarted
    (api : NodeApi ν)
    (hSound : s.Sound) :
    Post (ensureNodeStarted api)
      (fun up s' =>
        s'.surface = s.surface ∧ s'.Sound ∧
          s'.adapter.started = up)
      (fun _ s' =>
        s'.surface = s.surface ∧ s'.Sound ∧
          s'.adapter.started = false)
      s := by
  by_cases hStarted : s.adapter.started = true
  · unfold Post
    rw [exec_ensureNodeStarted_of_started hStarted]
    exact ⟨rfl, hSound, hStarted⟩
  · rw [Bool.not_eq_true] at hStarted
    unfold ensureNodeStarted
    rw [post_bind, post_get]
    simp only [hStarted, Bool.false_eq_true, if_false]
    rw [post_bind, post_loadConfig]
    split
    · exact ⟨rfl, hSound, hStarted⟩
    · simp only [post_bind, post_modify]
      rw [post_callNode rfl]
      unfold Post
      rcases exec api.start _ with ⟨e | up, n⟩
      · exact ⟨rfl, fun _ => rfl, hStarted⟩
      · cases up with
        | true => exact ⟨rfl, fun _ => rfl, rfl⟩
        | false => exact ⟨rfl, fun _ => rfl, hStarted⟩

end LoRaRadio

------------------------------------------------------------
-- Handling a Frame
------------------------------------------------------------

namespace LoRaRadio

open Faulting LoRaRadioAdapter

variable {ν π : Type}
variable {s : AdapterState ν π}

/- A frame is returned, then answered. -/
def AdapterState.answered
    (portNum : Nat)
    (buffer : FwBuffer)
    (context : FrameContext)
    (status : Success)
    (s : AdapterState ν π) : AdapterState ν π :=
  (s.record (.dataReturnOut portNum buffer context)).record
    (.comStatusOut portNum status)

/- The bytes a buffer points to. -/
def AdapterState.payload
    (s : AdapterState ν π)
    (buffer : FwBuffer) : List UInt8 :=
  readBytes s.memory buffer.data buffer.size

def sendStatus
    (ok : Bool) : Success :=
  if ok then .success else .failure

/-
  What happens to a frame once it is known whether the node
  is up.
-/
def handled
    (api : NodeApi ν)
    (portNum : Nat)
    (buffer : FwBuffer)
    (context : FrameContext)
    (up : Bool)
    (s : AdapterState ν π) :
    Except Fault Unit × AdapterState ν π :=
  if up then
    match exec (api.send (s.payload buffer)) s.node with
    | (.ok ok, n) =>
        (.ok (), ({ s with node := n }).answered portNum
          buffer context (sendStatus ok))
    | (.error e, n) => (.error e, { s with node := n })
  else
    (.ok (), s.answered portNum buffer context .failure)

theorem exec_dataInHandler
    {api : NodeApi ν}
    (hSound : s.Sound)
    (portNum : Nat)
    (buffer : FwBuffer)
    (context : FrameContext) :
    exec (dataInHandler api portNum buffer context) s =
      match exec (ensureNodeStarted api) s with
      | (.ok up, s') =>
          handled api portNum buffer context up s'
      | (.error e, s') => (.error e, s') := by
  have hUp := post_ensureNodeStarted api hSound
  unfold dataInHandler
  rw [exec_bind]
  unfold Post at hUp
  rcases hRun : exec (ensureNodeStarted api) s with
    ⟨e | up, s'⟩
  · rfl
  · rw [hRun] at hUp
    unfold handled
    cases up with
    | false => rfl
    | true =>
        have hNode : s'.adapter.hasNode = true :=
          hUp.2.1 hUp.2.2
        simp only [Bool.not_true, Bool.false_eq_true,
          if_false, if_true, callNode, exec_bind, exec_get,
          hNode, exec_zoom]
        rw [show AdapterState.nodePart.get s' = s'.node
          from rfl]
        unfold AdapterState.payload
        rcases exec (api.send (readBytes s'.memory
          buffer.data buffer.size)) s'.node with
          ⟨e | ok, n⟩ <;> rfl

end LoRaRadio

------------------------------------------------------------
-- Statuses and Flags
------------------------------------------------------------

namespace LoRaRadio

open Faulting LoRaRadioAdapter

variable {ν π : Type}
variable {s : AdapterState ν π}

def PortCall.status? : PortCall → Option Success
| .comStatusOut _ status => some status
| _ => none

/- The statuses emitted, in order. -/
def statuses
    (calls : List PortCall) : List Success :=
  calls.filterMap PortCall.status?

@[simp] theorem statuses_append
    (calls calls' : List PortCall) :
    statuses (calls ++ calls') =
      statuses calls ++ statuses calls' :=
  List.filterMap_append

/- The adapter's flags and the statuses it has emitted. -/
def AdapterState.standing
    (s : AdapterState ν π) :
    (Bool × Bool × Bool) × List Success :=
  ((s.adapter.hasNode, s.adapter.started,
    s.adapter.initialStatusSent), statuses s.calls)

theorem standing_receive
    (packet : Nat × LoRaNodeRxPacket) :
    (s.receive packet).standing = s.standing := by
  unfold AdapterState.receive
  by_cases hOwn : packet.1 = s.this
  · rw [if_pos hOwn]
    rfl
  · rw [if_neg hOwn]
    rfl

theorem standing_receiveAll
    (packets : List (Nat × LoRaNodeRxPacket)) :
    (packets.foldl AdapterState.receive s).standing =
      s.standing := by
  induction packets generalizing s with
  | nil => rfl
  | cons packet packets ih =>
      exact ih.trans (standing_receive packet)

/- A part that emits no status and sets no flag. -/
abbrev Silent
    {α : Type}
    (m : AdapterM ν π α) : Prop :=
  Keeps (Same AdapterState.standing) m

theorem silent_modify
    {f : AdapterState ν π → AdapterState ν π}
    (hSame : ∀ s, (f s).standing = s.standing) :
    Silent (modify f) :=
  keeps_modify hSame

theorem silent_pollNode
    (api : NodeApi ν) :
    Silent (pollNode api : AdapterM ν π Unit) := by
  have hPoll :
      Silent (Faulting.mk fun s : AdapterState ν π =>
        ((api.poll s.node).1,
          (api.poll s.node).2.1.foldl AdapterState.receive
            { s with node := (api.poll s.node).2.2 })) :=
    fun s => standing_receiveAll (s := { s with node := _ }) _
  unfold pollNode
  refine keeps_get.bind fun s => ?_
  split
  · exact (keeps_throw _).bind fun _ => hPoll
  · exact hPoll

end LoRaRadio

------------------------------------------------------------
-- Passing Packets Up
------------------------------------------------------------

namespace LoRaRadio

open Faulting LoRaRadioAdapter

variable {ν π : Type}

/-
  A relation that passing packets up does not break: calls
  on the ports other than `comStatusOut`, changes of the
  uplink and of memory, and taking packets from the queue.
-/
class UplinkProof
    (R : AdapterState ν π → AdapterState ν π → Prop) :
    Prop extends Std.Refl R,
      IsTrans (AdapterState ν π) R where
  record :
    ∀ s c, PortCall.status? c = none → R s (s.record c)
  uplink : ∀ s u, R s { s with uplink := u }
  memcpy : ∀ s address bytes, R s (s.memcpy address bytes)
  queue :
    ∀ s queue,
      R s (s.onAdapter ({ · with rxQueue := queue }))

instance :
    UplinkProof (Same (AdapterState.standing (ν := ν)
      (π := π))) where
  record s c hStatus := by
    unfold Same AdapterState.standing AdapterState.record
    simp [statuses, hStatus]
  uplink _ _ := rfl
  memcpy _ _ _ := rfl
  queue _ _ := rfl

/- The node is not touched. -/
instance :
    UplinkProof
      (Same fun s : AdapterState ν π => s.node) where
  record _ _ _ := rfl
  uplink _ _ := rfl
  memcpy _ _ _ := rfl
  queue _ _ := rfl

variable {R : AdapterState ν π → AdapterState ν π → Prop}
variable [UplinkProof R]

theorem keeps_record
    {c : PortCall}
    (hStatus : c.status? = none) :
    Keeps R
      (modify (AdapterState.record c) :
        AdapterM ν π Unit) :=
  keeps_modify fun s => UplinkProof.record s c hStatus

theorem keeps_uplink
    {α : Type}
    (m : Faulting Fault π α) :
    Keeps R (zoom AdapterState.uplinkPart m) :=
  keeps_zoom fun u s => UplinkProof.uplink s u

theorem keeps_deallocateOut
    (up : Uplink π)
    (buffer : FwBuffer) :
    Keeps R (deallocateOut up buffer) := by
  unfold deallocateOut
  exact (keeps_record rfl).bind fun _ => keeps_uplink _

theorem keeps_allocateOut
    (up : Uplink π)
    (size : Nat) :
    Keeps R (allocateOut up size) := by
  unfold allocateOut
  exact (keeps_uplink _).bind fun _ =>
    (keeps_record rfl).bind fun _ => keeps_pure _

theorem keeps_dataReturnInHandler
    (up : Uplink π)
    (buffer : FwBuffer)
    (context : FrameContext) :
    Keeps R (dataReturnInHandler up buffer context) :=
  keeps_deallocateOut up buffer

theorem keeps_dataOut
    (up : Uplink π)
    (buffer : FwBuffer)
    (context : FrameContext) :
    Keeps R (dataOut up buffer context) := by
  unfold dataOut
  refine keeps_get.bind fun s => ?_
  refine (keeps_record rfl).bind fun _ => ?_
  refine (keeps_uplink _).bind fun returned => ?_
  apply keeps_forM
  exact fun r => keeps_dataReturnInHandler up r.1 r.2

theorem keeps_forward
    (up : Uplink π)
    (pkt : LoRaNodeRxPacket) :
    Keeps R (forward up pkt) := by
  have hCopy : ∀ address,
      Keeps R
        (modify (AdapterState.memcpy address pkt.payload) :
          AdapterM ν π Unit) :=
    fun address => keeps_modify fun s =>
      UplinkProof.memcpy s address pkt.payload
  unfold forward
  refine (keeps_allocateOut up _).bind fun buffer => ?_
  refine keeps_ite (fun _ => ?_) fun _ => ?_
  · refine keeps_ite (fun _ => ?_) fun _ => keeps_pure _
    exact keeps_deallocateOut up buffer
  · exact (hCopy _).bind fun _ => keeps_dataOut up _ _

/- Every packet of the queue is passed up alike. -/
theorem keeps_forwardAll
    (up : Uplink π)
    (queue : List LoRaNodeRxPacket) :
    Keeps R (forwardAll up queue) := by
  induction queue with
  | nil => exact keeps_pure _
  | cons pkt rest ih =>
      have hTaken :
          Keeps R
            (modify (AdapterState.onAdapter
                ({ · with rxQueue := rest })) :
              AdapterM ν π Unit) :=
        keeps_modify fun s => UplinkProof.queue s rest
      unfold forwardAll
      exact hTaken.bind fun _ =>
        (keeps_forward up pkt).bind fun _ => ih

end LoRaRadio

------------------------------------------------------------
-- The Rest of a Run
------------------------------------------------------------

namespace LoRaRadio

open Faulting LoRaRadioAdapter

variable {ν π : Type}
variable {s : AdapterState ν π}

/- The part of `run_handler` after the initial status. -/
def serviceRadio
    (api : NodeApi ν)
    (up : Uplink π) : AdapterM ν π Unit := do
  pollNode api
  forwardAll up (← get).adapter.rxQueue

theorem silent_serviceRadio
    (api : NodeApi ν)
    (up : Uplink π) :
    Silent (serviceRadio api up) := by
  unfold serviceRadio
  refine (silent_pollNode api).bind fun _ => ?_
  exact keeps_get.bind fun s => keeps_forwardAll up _

/- The state after the initial status has been seen to. -/
def AdapterState.announced
    (s : AdapterState ν π) : AdapterState ν π :=
  if s.adapter.initialStatusSent then s
  else
    (s.record (.comStatusOut 0 .success)).onAdapter
      ({ · with initialStatusSent := true })

theorem exec_comStatusInit
    {api : NodeApi ν}
    (hStarted : s.adapter.started = true) :
    exec (comStatusInit api) s = (.ok (), s.announced) := by
  unfold comStatusInit AdapterState.announced
  rw [exec_bind, exec_get]
  cases hSent : s.adapter.initialStatusSent with
  | true => simp [hSent]
  | false =>
      simp only [hSent, Bool.false_eq_true, if_false]
      rw [exec_bind,
        exec_ensureNodeStarted_of_started hStarted]
      rfl

/-
  A run does nothing if the node is not up.  Otherwise it
  sees to the initial status, and then changes neither the
  flags nor the statuses.
-/
theorem exec_runHandler
    {api : NodeApi ν}
    {up : Uplink π}
    (hSound : s.Sound) :
    exec (runHandler api up) s =
      match exec (ensureNodeStarted api) s with
      | (.ok true, s') =>
          exec (serviceRadio api up) s'.announced
      | (.ok false, s') => (.ok (), s')
      | (.error e, s') => (.error e, s') := by
  have hUp := post_ensureNodeStarted api hSound
  unfold runHandler
  rw [exec_bind]
  unfold Post at hUp
  rcases hRun : exec (ensureNodeStarted api) s with
    ⟨e | up, s'⟩
  · rfl
  · rw [hRun] at hUp
    cases up with
    | false => rfl
    | true =>
        simp only [Bool.not_true, Bool.false_eq_true,
          if_false]
        rw [exec_bind, exec_comStatusInit hUp.2.2]
        rfl

end LoRaRadio

------------------------------------------------------------
-- Every Call
------------------------------------------------------------

namespace LoRaRadio

open Faulting LoRaRadioAdapter

variable {ν π : Type}
variable {s s' : AdapterState ν π}

namespace AdapterState

theorem Sound.of_standing
    (hSound : s.Sound)
    (hSame : s'.standing = s.standing) :
    s'.Sound := by
  unfold standing at hSame
  simp only [Prod.mk.injEq] at hSame
  rcases hSame with ⟨⟨hNode, hStarted, -⟩, -⟩
  unfold Sound at *
  rwa [hNode, hStarted]

theorem Sound.announced
    (hSound : s.Sound) :
    s.announced.Sound := by
  unfold AdapterState.announced
  cases s.adapter.initialStatusSent with
  | true => exact hSound
  | false => exact hSound

/- Every call keeps an adapter sound. -/
theorem Sound.call
    (api : NodeApi ν)
    (up : Uplink π)
    (c : AdapterCall)
    (hSound : s.Sound) :
    (s.call api up c).Sound := by
  have hPost := post_ensureNodeStarted api hSound
  unfold Post at hPost
  unfold AdapterState.call handler
  cases c with
  | dataReturnIn buffer context =>
      have hSame :
          Silent (dataReturnInHandler up buffer context :
            AdapterM ν π Unit) :=
        keeps_dataReturnInHandler up buffer context
      exact hSound.of_standing (hSame s)
  | otherWrites memory => exact hSound
  | dataIn portNum buffer context =>
      rw [exec_dataInHandler hSound]
      rcases hRun : exec (ensureNodeStarted api) s with
        ⟨e | up, s₁⟩
      · rw [hRun] at hPost
        exact hPost.2.1
      · rw [hRun] at hPost
        have hSound₁ := hPost.2.1
        unfold handled
        cases up with
        | false => exact hSound₁
        | true =>
            simp only [if_true]
            rcases exec (api.send (s₁.payload buffer)) s₁.node
              with ⟨e | ok, n⟩
            · exact hSound₁
            · exact hSound₁
  | run =>
      rw [exec_runHandler hSound]
      rcases hRun : exec (ensureNodeStarted api) s with
        ⟨e | up, s₁⟩
      · rw [hRun] at hPost
        exact hPost.2.1
      · rw [hRun] at hPost
        have hSound₁ := hPost.2.1
        cases up with
        | false => exact hSound₁
        | true =>
            exact hSound₁.announced.of_standing
              (silent_serviceRadio api _ s₁.announced)

end AdapterState

end LoRaRadio
