import LoRaRadio.ComAdapter.AdapterLemmas
import LoRaRadio.Fprime.FramePool
import LoRaRadio.Fprime.TcFrames
import LoRaRadio.Node.Delivery

/-
  The buffers of the uplink: the adapter, the frame
  accumulator and the pool they share, wired as in the
  topology.

  A packet goes up in a buffer out of the pool, and the
  accumulator returns it.  The buffer for an empty packet has
  size zero: it is not valid, so it is neither sent nor given
  back, and its slot is lost.

  Main declarations:
    * `topologyUplink`
    * `Settled` and `ProperRun`
    * `settled_forward` and `leaked_forward`
    * `uplink_settled`
-/

------------------------------------------------------------
-- The Wiring
------------------------------------------------------------

namespace LoRaRadio

open Faulting LoRaRadioAdapter

variable {n : Nat} [NeZero n]
variable {σ ν : Type}

/- The accumulator in front of a pool and a consumer. -/
abbrev UplinkState (n : Nat) (σ : Type) :=
  AccumulatorState n (Pooled σ)

/-
  `allocate` and `deallocate` go to the pool, and `dataOut`
  to the accumulator, which gives back every buffer on
  `dataReturnOut` as the last thing it does.
-/
def topologyUplink
    (detect : FrameDetector n)
    (consume : FrameConsumer σ) : Uplink (UplinkState n σ) where
  allocate size :=
    zoom AccumulatorState.downPart (Pooled.getCallee size)
  deallocate buffer :=
    zoom AccumulatorState.downPart (Pooled.sendIn buffer)
  dataOut buffer bytes context := do
    FrameAccumulator.dataIn detect (onPool consume) buffer bytes
      context
    return [(buffer, context)]

/-
  A call of the adapter, or other components using the pool
  between two calls.
-/
inductive UplinkAction (σ : Type)
  | call (c : AdapterCall)
  | others (m : Faulting Fault (Pooled σ) Unit)

def uplinkAct
    (api : NodeApi ν)
    (detect : FrameDetector n)
    (consume : FrameConsumer σ) :
    UplinkAction σ → AdapterM ν (UplinkState n σ) Unit
| .call c => handler api (topologyUplink detect consume) c
| .others m =>
    zoom AdapterState.uplinkPart
      (zoom AccumulatorState.downPart m)

end LoRaRadio

------------------------------------------------------------
-- What Becomes of the Buffers
------------------------------------------------------------

namespace LoRaRadio

open Faulting LoRaRadioAdapter

variable {n : Nat}
variable {σ ν π : Type}

namespace PortCall

/- The buffer that a call obtains, sends or gives back. -/
def obtained? : PortCall → Option FwBuffer
| .allocate _ answer =>
    if answer.data = 0 then none else some answer
| _ => none

def sentUp? : PortCall → Option FwBuffer
| .dataOut buffer _ _ => some buffer
| _ => none

def givenBack? : PortCall → Option FwBuffer
| .deallocate buffer => some buffer
| _ => none

end PortCall

/-
  The adapter accounts for no slot, nothing was given back in
  vain, and every buffer it obtained was sent once and given
  back once, in order.
-/
structure Settled
    (keeps : σ → List FwBuffer)
    (s : AdapterState ν (UplinkState n σ)) : Prop where
  accounted : Accounted keeps [] s.uplink.down
  sent :
    s.calls.filterMap PortCall.sentUp? =
      s.calls.filterMap PortCall.obtained?
  back :
    s.calls.filterMap PortCall.givenBack? =
      s.calls.filterMap PortCall.obtained?

/- The packet is not empty, or there is no slot for it. -/
def HasUse
    (pool : BufferManager)
    (pkt : LoRaNodeRxPacket) : Prop :=
  pkt.payload ≠ [] ∨
    pool.findSlot pkt.payload.length = none

/- Every packet of a queue has a use when its turn comes. -/
def Passable
    (up : Uplink (UplinkState n σ)) :
    List LoRaNodeRxPacket →
      AdapterState ν (UplinkState n σ) → Prop
| [], _ => True
| pkt :: rest, s =>
    HasUse s.uplink.down.pool pkt ∧
      ∀ s',
        exec (forward up pkt)
            (s.onAdapter ({ · with rxQueue := rest })) =
          (.ok (), s') →
        Passable up rest s'

/-
  An action as the topology has it: buffers come back only
  from the accumulator, the packets a run passes up have a
  use, and the others keep the accounts.
-/
def Proper
    [NeZero n]
    (api : NodeApi ν)
    (detect : FrameDetector n)
    (consume : FrameConsumer σ)
    (keeps : σ → List FwBuffer)
    (s : AdapterState ν (UplinkState n σ)) :
    UplinkAction σ → Prop
| .call .run =>
    ∀ s₁ s₂,
      exec (ensureNodeStarted api) s = (.ok true, s₁) →
      exec (pollNode api) s₁.announced = (.ok (), s₂) →
      Passable (topologyUplink detect consume)
        s₂.adapter.rxQueue s₂
| .call (.dataReturnIn _ _) => False
| .call _ => True
| .others m =>
    ∀ held p, Accounted keeps held p →
      Post m (fun _ p' => Accounted keeps held p')
        (fun _ p' => p'.rejected = []) p

/- Every action is proper in the state it is taken in. -/
def ProperRun
    [NeZero n]
    (api : NodeApi ν)
    (detect : FrameDetector n)
    (consume : FrameConsumer σ)
    (keeps : σ → List FwBuffer) :
    List (UplinkAction σ) →
      AdapterState ν (UplinkState n σ) → Prop
| [], _ => True
| a :: rest, s =>
    Proper api detect consume keeps s a ∧
      ∀ s',
        exec (uplinkAct api detect consume a) s = (.ok (), s') →
        ProperRun api detect consume keeps rest s'

theorem passable_single
    {up : Uplink (UplinkState n σ)}
    {pkt : LoRaNodeRxPacket}
    {s : AdapterState ν (UplinkState n σ)}
    (hSome : pkt.payload ≠ []) :
    Passable up [pkt] s :=
  ⟨.inl hSome, fun _ _ => trivial⟩

theorem ProperRun.single
    [NeZero n]
    {api : NodeApi ν}
    {detect : FrameDetector n}
    {consume : FrameConsumer σ}
    {keeps : σ → List FwBuffer}
    {s : AdapterState ν (UplinkState n σ)}
    {a : UplinkAction σ}
    (hProper : Proper api detect consume keeps s a) :
    ProperRun api detect consume keeps [a] s :=
  ⟨hProper, fun _ _ => trivial⟩

/- What the buffers of an adapter depend on. -/
def AdapterState.books
    (s : AdapterState ν π) :
    π × List FwBuffer × List FwBuffer × List FwBuffer :=
  (s.uplink, s.calls.filterMap PortCall.obtained?,
    s.calls.filterMap PortCall.sentUp?,
    s.calls.filterMap PortCall.givenBack?)

/- Calls that balance one another are added. -/
theorem Settled.grows
    {keeps : σ → List FwBuffer}
    {s s' : AdapterState ν (UplinkState n σ)}
    {more : List PortCall}
    (hSettled : Settled keeps s)
    (hAccounted : Accounted keeps [] s'.uplink.down)
    (hCalls : s'.calls = s.calls ++ more)
    (hSent :
      more.filterMap PortCall.sentUp? =
        more.filterMap PortCall.obtained?)
    (hBack :
      more.filterMap PortCall.givenBack? =
        more.filterMap PortCall.obtained?) :
    Settled keeps s' := by
  refine ⟨hAccounted, ?_, ?_⟩
  · rw [hCalls, List.filterMap_append, List.filterMap_append,
      hSettled.sent, hSent]
  · rw [hCalls, List.filterMap_append, List.filterMap_append,
      hSettled.back, hBack]

theorem Settled.of_books
    {keeps : σ → List FwBuffer}
    {s s' : AdapterState ν (UplinkState n σ)}
    (hSettled : Settled keeps s)
    (hSame : s'.books = s.books) :
    Settled keeps s' := by
  unfold AdapterState.books at hSame
  simp only [Prod.mk.injEq] at hSame
  rcases hSame with ⟨hUplink, hObtained, hSent, hBack⟩
  constructor
  · rw [hUplink]
    exact hSettled.accounted
  · rw [hSent, hObtained]
    exact hSettled.sent
  · rw [hBack, hObtained]
    exact hSettled.back

end LoRaRadio

------------------------------------------------------------
-- Handlers That Leave the Buffers Alone
------------------------------------------------------------

namespace LoRaRadio

open Faulting LoRaRadioAdapter

variable {ν π : Type}
variable {s s' : AdapterState ν π}

theorem books_of_surface
    (hSame : s'.surface = s.surface) :
    s'.books = s.books := by
  unfold AdapterState.surface at hSame
  simp only [Prod.mk.injEq] at hSame
  rcases hSame with ⟨⟨-, hUplink, -⟩, hCalls, -⟩
  unfold AdapterState.books
  rw [hUplink, hCalls]

theorem books_record
    {c : PortCall}
    (hObtained : c.obtained? = none)
    (hSent : c.sentUp? = none)
    (hBack : c.givenBack? = none) :
    (s.record c).books = s.books := by
  unfold AdapterState.books AdapterState.record
  simp [hObtained, hSent, hBack]

theorem books_announced :
    s.announced.books = s.books := by
  unfold AdapterState.announced
  split
  · rfl
  · exact books_record (s := s) rfl rfl rfl

theorem books_receiveAll
    (packets : List (Nat × LoRaNodeRxPacket)) :
    (packets.foldl AdapterState.receive s).books =
      s.books := by
  induction packets generalizing s with
  | nil => rfl
  | cons packet packets ih =>
      refine ih.trans ?_
      unfold AdapterState.receive
      split
      · rfl
      · rfl

theorem books_pollNode
    (api : NodeApi ν) :
    Keeps (Same AdapterState.books)
      (pollNode api : AdapterM ν π Unit) := by
  have hPoll :
      Keeps (Same AdapterState.books)
        (Faulting.mk fun s : AdapterState ν π =>
          ((api.poll s.node).1,
            (api.poll s.node).2.1.foldl AdapterState.receive
              { s with node := (api.poll s.node).2.2 })) :=
    fun s => books_receiveAll (s := { s with node := _ }) _
  unfold pollNode
  refine keeps_get.bind fun s => ?_
  split
  · exact (keeps_throw _).bind fun _ => hPoll
  · exact hPoll

theorem books_answered
    (portNum : Nat)
    (buffer : FwBuffer)
    (context : FrameContext)
    (status : Success) :
    (s.answered portNum buffer context status).books =
      s.books := by
  unfold AdapterState.answered
  rw [books_record rfl rfl rfl, books_record rfl rfl rfl]

theorem books_handled
    (api : NodeApi ν)
    (portNum : Nat)
    (buffer : FwBuffer)
    (context : FrameContext)
    (up : Bool) :
    (handled api portNum buffer context up s).2.books =
      s.books := by
  unfold handled
  cases up with
  | false => exact books_answered ..
  | true =>
      rw [if_pos rfl]
      rcases exec (api.send (s.payload buffer)) s.node with
        ⟨e | ok, node⟩
      · rfl
      · exact books_answered ..

/- A frame to send does not concern the uplink. -/
theorem books_dataIn
    (api : NodeApi ν)
    (hSound : s.Sound)
    (portNum : Nat)
    (buffer : FwBuffer)
    (context : FrameContext) :
    (exec (dataInHandler api portNum buffer context) s).2.books =
      s.books := by
  have hUp := post_ensureNodeStarted api hSound
  rw [exec_dataInHandler hSound]
  rcases hRun : exec (ensureNodeStarted api) s with
    ⟨e | up, s₁⟩
  · exact books_of_surface (hUp.of_error hRun).1
  · exact (books_handled api portNum buffer context up).trans
      (books_of_surface (hUp.of_ok hRun).1)

end LoRaRadio

------------------------------------------------------------
-- Passing Packets Up
------------------------------------------------------------

namespace LoRaRadio

open Faulting LoRaRadioAdapter

variable {n : Nat} [NeZero n]
variable {σ ν : Type}
variable {detect : FrameDetector n}
variable {keeps : σ → List FwBuffer}
variable {consume : FrameConsumer σ}
variable {s : AdapterState ν (UplinkState n σ)}

/- A buffer that is sent comes back, and goes to the pool. -/
theorem post_dataOut
    (hGives : GivesBack keeps consume)
    {buffer : FwBuffer}
    (hAccounted :
      Accounted keeps [buffer] s.uplink.down)
    (context : FrameContext) :
    Post
      (dataOut (topologyUplink detect consume) buffer context)
      (fun _ s' =>
        Accounted keeps [] s'.uplink.down ∧
          ∃ bytes,
            s'.calls =
              s.calls ++
                [.dataOut buffer bytes context,
                  .deallocate buffer])
      (fun _ s' => s'.uplink.down.rejected = []) s := by
  unfold dataOut topologyUplink
  dsimp only
  rw [post_bind, post_get, post_bind, post_modify, post_bind,
    post_zoom, post_bind]
  apply (FrameAccumulator.accounted_dataIn hGives buffer _
    context hAccounted).mono
  case hE => exact fun _ _ hRejected => hRejected
  intro _ u hStill
  rw [post_pure]
  change
    Post
      (deallocateOut (topologyUplink detect consume) buffer >>=
        fun _ => pure ()) _ _ _
  unfold deallocateOut topologyUplink
  rw [post_bind, post_bind, post_modify, post_zoom, post_zoom]
  apply hStill.post_sendIn.mono
  · intro _ p hLess
    exact ⟨hLess, _, List.append_assoc _ [_] [_]⟩
  · exact fun _ _ hNever => hNever.elim

/-
  A packet that has a use is dropped for want of a buffer, or
  goes up in a buffer that is given back.
-/
theorem settled_forward
    (hGives : GivesBack keeps consume)
    {pkt : LoRaNodeRxPacket}
    (hUse : HasUse s.uplink.down.pool pkt)
    (hSettled : Settled keeps s) :
    Post (forward (topologyUplink detect consume) pkt)
      (fun _ s' => Settled keeps s')
      (fun _ s' => s'.uplink.down.rejected = []) s := by
  unfold forward allocateOut
  rw [post_bind, post_bind, post_zoom]
  unfold topologyUplink
  dsimp only
  rw [post_zoom]
  apply (hSettled.accounted.post_getCallee _).mono
  case hE => exact fun _ _ hNever => hNever.elim
  intro buffer p hEither
  rw [post_bind, post_modify, post_pure]
  rcases hEither with
    ⟨rfl, -, hSame⟩ | ⟨hData, hSize, hFind, hMore⟩
  · exact hSettled.grows hSame rfl rfl rfl
  · have hSome : pkt.payload ≠ [] :=
      hUse.resolve_right hFind
    have hLength : 0 < pkt.payload.length :=
      List.length_pos_iff.mpr hSome
    have hValid : buffer.isValid = true := by
      unfold FwBuffer.isValid
      rw [Bool.and_eq_true, bne_iff_ne, decide_eq_true_eq]
      exact ⟨hData, by omega⟩
    have hWhole :
        buffer.setSize pkt.payload.length = buffer := by
      rw [← hSize]
      rfl
    rw [if_neg (by simp [hValid, hSize]), post_bind,
      post_modify, hWhole]
    apply (post_dataOut hGives hMore {}).mono
    · rintro _ s' ⟨hBack, bytes, hCalls⟩
      have hObtained :
          List.filterMap PortCall.obtained?
              [.allocate pkt.payload.length buffer,
                .dataOut buffer bytes {}, .deallocate buffer] =
            [buffer] := by
        simp [List.filterMap_cons, PortCall.obtained?, hData]
      exact hSettled.grows hBack
        (hCalls.trans (List.append_assoc _ [_] _))
        hObtained.symm hObtained.symm
    · exact fun _ _ hRejected => hRejected

/-
  An empty packet for which there is a slot takes the slot,
  and nothing is given back.
-/
theorem leaked_forward
    {pkt : LoRaNodeRxPacket}
    (hUse : ¬ HasUse s.uplink.down.pool pkt)
    (hSettled : Settled keeps s) :
    Post (forward (topologyUplink detect consume) pkt)
      (fun _ s' =>
        ¬ Settled keeps s' ∧
          ∃ buffer, Accounted keeps [buffer] s'.uplink.down)
      (fun _ _ => False) s := by
  rw [HasUse, not_or, not_not] at hUse
  rcases hUse with ⟨hEmpty, hFind⟩
  unfold forward allocateOut
  rw [post_bind, post_bind, post_zoom]
  unfold topologyUplink
  dsimp only
  rw [post_zoom]
  apply (hSettled.accounted.post_getCallee _).mono
  case hE => exact fun _ _ hNever => hNever.elim
  intro buffer p hEither
  rw [post_bind, post_modify, post_pure]
  rcases hEither with ⟨-, hNone, -⟩ | ⟨hData, hSize, -, hMore⟩
  · exact absurd hNone hFind
  · have hInvalid : buffer.isValid = false := by
      unfold FwBuffer.isValid
      rw [hSize, hEmpty]
      exact Bool.and_false _
    simp only [hInvalid, Bool.not_false, Bool.true_or, if_true,
      Bool.false_eq_true, if_false]
    rw [post_pure]
    refine ⟨fun hAfter => ?_, buffer, hMore⟩
    have hBack := hAfter.back
    change
      (s.calls ++ [_]).filterMap PortCall.givenBack? =
        (s.calls ++ [_]).filterMap PortCall.obtained? at hBack
    rw [List.filterMap_append, List.filterMap_append,
      hSettled.back] at hBack
    have hNothing := List.append_cancel_left hBack
    simp [List.filterMap_cons, PortCall.givenBack?,
      PortCall.obtained?, hData] at hNothing

/- The packets of a queue, in order. -/
theorem settled_forwardAll
    (hGives : GivesBack keeps consume)
    (queue : List LoRaNodeRxPacket)
    (hPassable :
      Passable (topologyUplink detect consume) queue s)
    (hSettled : Settled keeps s) :
    Post (forwardAll (topologyUplink detect consume) queue)
      (fun _ s' => Settled keeps s')
      (fun _ s' => s'.uplink.down.rejected = []) s := by
  induction queue generalizing s with
  | nil => exact hSettled
  | cons pkt rest ih =>
      rcases hPassable with ⟨hUse, hRest⟩
      let taken : AdapterState ν (UplinkState n σ) :=
        s.onAdapter ({ · with rxQueue := rest })
      have hOne :
          Post (forward (topologyUplink detect consume) pkt)
            (fun _ s' => Settled keeps s')
            (fun _ s' => s'.uplink.down.rejected = []) taken :=
        settled_forward hGives hUse (hSettled.of_books rfl)
      unfold forwardAll
      rw [post_bind, post_modify, post_bind]
      change
        Post (forward (topologyUplink detect consume) pkt)
          _ _ taken
      rcases hRun :
          exec (forward (topologyUplink detect consume) pkt)
            taken with ⟨e | u, s'⟩
      · have hRejected := hOne.of_error hRun
        unfold Post
        rw [hRun]
        exact hRejected
      · have hNext := ih (hRest s' hRun) (hOne.of_ok hRun)
        unfold Post
        rw [hRun]
        exact hNext

end LoRaRadio

------------------------------------------------------------
-- Every Run
------------------------------------------------------------

namespace LoRaRadio

open Faulting LoRaRadioAdapter BufferManager

variable {n : Nat} [NeZero n]
variable {σ ν : Type}
variable {api : NodeApi ν}
variable {detect : FrameDetector n}
variable {keeps : σ → List FwBuffer}
variable {consume : FrameConsumer σ}
variable {s : AdapterState ν (UplinkState n σ)}

theorem settled_runHandler
    (hGives : GivesBack keeps consume)
    (hSound : s.Sound)
    (hProper :
      Proper api detect consume keeps s (.call .run))
    (hSettled : Settled keeps s) :
    Post (runHandler api (topologyUplink detect consume))
      (fun _ s' => Settled keeps s')
      (fun _ s' => s'.uplink.down.rejected = []) s := by
  have hUp := post_ensureNodeStarted api hSound
  unfold Post
  rw [exec_runHandler hSound]
  rcases hRun : exec (ensureNodeStarted api) s with
    ⟨e | up, s₁⟩
  · have hSame := books_of_surface (hUp.of_error hRun).1
    exact (hSettled.of_books hSame).accounted.rejected
  · have hSame := books_of_surface (hUp.of_ok hRun).1
    have hSettled₁ := hSettled.of_books hSame
    cases up with
    | false => exact hSettled₁
    | true =>
        have hSettled₂ := hSettled₁.of_books books_announced
        have hPolled := books_pollNode api s₁.announced
        change Post (serviceRadio _ _) _ _ s₁.announced
        unfold serviceRadio
        rw [post_bind]
        rcases hPoll : exec (pollNode api) s₁.announced with
          ⟨e | u, s₂⟩
        · rw [hPoll] at hPolled
          unfold Post
          rw [hPoll]
          exact (hSettled₂.of_books hPolled).accounted.rejected
        · rw [hPoll] at hPolled
          have hAll :=
            settled_forwardAll hGives s₂.adapter.rxQueue
              (hProper s₁ s₂ hRun hPoll)
              (hSettled₂.of_books hPolled)
          unfold Post
          rw [hPoll]
          exact hAll

/- What one action does to an adapter that is settled. -/
theorem settled_act
    (hGives : GivesBack keeps consume)
    (hSound : s.Sound)
    (a : UplinkAction σ)
    (hProper : Proper api detect consume keeps s a)
    (hSettled : Settled keeps s) :
    Post (uplinkAct api detect consume a)
      (fun _ s' => Settled keeps s')
      (fun _ s' => s'.uplink.down.rejected = []) s := by
  cases a with
  | others m =>
      unfold uplinkAct
      rw [post_zoom, post_zoom]
      apply (hProper [] _ hSettled.accounted).mono
      · intro _ p hStill
        exact hSettled.grows hStill
          (List.append_nil _).symm rfl rfl
      · exact fun _ _ hRejected => hRejected
  | call c =>
      cases c with
      | dataReturnIn buffer context => exact hProper.elim
      | otherWrites memory => exact hSettled.of_books rfl
      | run =>
          exact
            settled_runHandler hGives hSound hProper hSettled
      | dataIn portNum buffer context =>
          have hSame :=
            books_dataIn api hSound portNum buffer context
          change
            Post (dataInHandler api portNum buffer context)
              _ _ s
          unfold Post
          rcases hRun :
              exec (dataInHandler api portNum buffer context)
                s with ⟨e | u, s'⟩
          · rw [hRun] at hSame
            exact (hSettled.of_books hSame).accounted.rejected
          · rw [hRun] at hSame
            exact hSettled.of_books hSame

theorem sound_act
    (hSound : s.Sound)
    (a : UplinkAction σ) :
    (exec (uplinkAct api detect consume a) s).2.Sound := by
  cases a with
  | call c => exact hSound.call api _ c
  | others m => exact hSound

/- A node that receives one packet, right before it is polled. -/
def packetNode
    (payload : List UInt8) : NodeState :=
  { onePacketNode 61 with
    rxDevice :=
      { hal := fun n =>
          { chip :=
              if n = 61 then [.reception 0 payload 0 0]
              else [] } } }

/- A consumer that gives every frame back as it is. -/
def returnsAtOnce : FrameConsumer Unit :=
  fun buffer _ _ => pure (buffer.data, buffer.size)

theorem givesBack_returnsAtOnce :
    GivesBack (fun _ => []) returnsAtOnce := by
  intro buffer bytes context held p hAccounted
  unfold returnsAtOnce
  rw [post_pure]
  exact ⟨⟨le_refl _, le_refl _, .inl rfl⟩, hAccounted⟩

/- An adapter that has started that node, on a free pool. -/
def packetAdapter
    (payload : List UInt8) :
    AdapterState NodeState (UplinkState 2048 Unit) where
  adapter :=
    { nodeConfig := (packetNode payload).node.config
      hasNode := true
      started := true }
  nodeConstructed := true
  node := (exec start (packetNode payload)).2
  uplink :=
    { inRing := frameAccumulator.inRing
      down := { pool := commsBufferManager, consumer := () } }

theorem accounted_packetAdapter
    (payload : List UInt8) :
    Accounted (fun _ => []) []
      (packetAdapter payload).uplink.down := by
  rcases sound_comms with ⟨hSound, hFree, hCount⟩
  exact ⟨Lending.balanced_start hSound hFree hCount, rfl⟩

theorem rxQueue_packetAdapter :
    (exec (pollNode loraNodeApi)
        (packetAdapter [1, 2, 3]).announced).2.adapter.rxQueue =
      [⟨[1, 2, 3], 0, 0⟩] := by
  decide +kernel

theorem polled_packetAdapter
    {s₁ s₂ : AdapterState NodeState (UplinkState 2048 Unit)}
    (hUp :
      exec (ensureNodeStarted loraNodeApi)
          (packetAdapter [1, 2, 3]) =
        (.ok true, s₁))
    (hPoll :
      exec (pollNode loraNodeApi) s₁.announced =
        (.ok (), s₂)) :
    s₂.adapter.rxQueue = [⟨[1, 2, 3], 0, 0⟩] := by
  have hStarted :
      (packetAdapter [1, 2, 3]).adapter.started = true := rfl
  rw [exec_ensureNodeStarted_of_started hStarted] at hUp
  have hSame : packetAdapter [1, 2, 3] = s₁ :=
    congrArg Prod.snd hUp
  have hLast :
      (exec (pollNode loraNodeApi) s₁.announced).2 = s₂ :=
    congrArg Prod.snd hPoll
  rw [← hLast, ← hSame]
  exact rxQueue_packetAdapter

/-
  From any state of the pool in which its slots are accounted
  for, in every run whose actions are all proper: whenever a
  run of the actions returns, the adapter has sent every
  buffer it obtained once, has given it back once and
  accounts for no slot.  No buffer is ever given back in
  vain, not even where a run stops at an assertion.
-/
theorem uplink_settled
    (hGives : GivesBack keeps consume)
    (hSound : s.Sound)
    (hCalls : s.calls = [])
    (hAccounted : Accounted keeps [] s.uplink.down)
    (actions : List (UplinkAction σ))
    (hProper :
      ProperRun api detect consume keeps actions s) :
    Post (actions.forM (uplinkAct api detect consume))
      (fun _ s' => Settled keeps s')
      (fun _ s' => s'.uplink.down.rejected = []) s := by
  have hSettled : Settled keeps s := by
    refine ⟨hAccounted, ?_, ?_⟩
    · rw [hCalls]
      rfl
    · rw [hCalls]
      rfl
  clear hCalls hAccounted
  induction actions generalizing s with
  | nil => exact hSettled
  | cons a rest ih =>
      rcases hProper with ⟨hHere, hRest⟩
      have hOne := settled_act hGives hSound a hHere hSettled
      have hSound' :
          (exec (uplinkAct api detect consume a) s).2.Sound :=
        sound_act hSound a
      change
        Post (uplinkAct api detect consume a >>= fun _ =>
          rest.forM (uplinkAct api detect consume)) _ _ s
      rw [post_bind]
      rcases hRun : exec (uplinkAct api detect consume a) s with
        ⟨e | u, s'⟩
      · have hRejected := hOne.of_error hRun
        unfold Post
        rw [hRun]
        exact hRejected
      · rw [hRun] at hSound'
        have hNext := ih hSound' (hRest s' hRun) (hOne.of_ok hRun)
        unfold Post
        rw [hRun]
        exact hNext

/- A packet of three bytes. -/
theorem uplink_settled_packet :
    let r :=
      exec
        ([UplinkAction.call .run].forM
          (uplinkAct loraNodeApi CcsdsTcFrameDetector.detect
            returnsAtOnce))
        (packetAdapter [1, 2, 3])
    r.1 = .ok () ∧ Settled (fun _ => []) r.2 := by
  have hHere :
      Proper loraNodeApi CcsdsTcFrameDetector.detect
        returnsAtOnce (fun _ => []) (packetAdapter [1, 2, 3])
        (.call .run) := by
    intro s₁ s₂ hUp hPoll
    rw [polled_packetAdapter hUp hPoll]
    exact passable_single (List.cons_ne_nil _ _)
  have hSound : (packetAdapter [1, 2, 3]).Sound := fun _ => rfl
  have hCalls : (packetAdapter [1, 2, 3]).calls = [] := rfl
  have hAccounted := accounted_packetAdapter [1, 2, 3]
  have hReturns :
      (exec
        ([UplinkAction.call .run].forM
          (uplinkAct loraNodeApi CcsdsTcFrameDetector.detect
            returnsAtOnce))
        (packetAdapter [1, 2, 3])).1 = .ok () := by
    decide +kernel
  -- Nothing below may evaluate the start of the node again.
  generalize packetAdapter [1, 2, 3] = s at *
  have hSettled :=
    uplink_settled givesBack_returnsAtOnce hSound hCalls
      hAccounted [.call .run] (ProperRun.single hHere)
  exact ⟨hReturns, hSettled.of_ok (Prod.ext hReturns rfl)⟩

/-
  An empty packet on the same adapter.  The run returns, and
  a slot is taken that nobody holds.
-/
theorem uplink_leaks_emptyPacket :
    let s := packetAdapter []
    let r :=
      exec
        (runHandler loraNodeApi
          (topologyUplink CcsdsTcFrameDetector.detect
            returnsAtOnce)) s
    s.Sound ∧ s.calls = [] ∧
      GivesBack (fun _ => []) returnsAtOnce ∧
      Accounted (fun _ => []) [] s.uplink.down ∧
      r.1 = .ok () ∧
      r.2.calls =
        [.comStatusOut 0 .success,
          .allocate 0
            { data := 7296, size := 0, context := 13107200 }] ∧
      r.2.uplink.down.pool.currBuffs = 1 ∧
      ¬ Settled (fun _ => []) r.2 := by
  intro s r
  have hReturns : r.1 = .ok () := by
    decide +kernel
  have hCalls :
      r.2.calls =
        [.comStatusOut 0 .success,
          .allocate 0
            { data := 7296
              size := 0
              context := 13107200 }] := by
    decide +kernel
  have hCount : r.2.uplink.down.pool.currBuffs = 1 := by
    decide +kernel
  refine ⟨fun _ => rfl, rfl, givesBack_returnsAtOnce,
    accounted_packetAdapter [], hReturns, hCalls, hCount, ?_⟩
  intro hSettled
  have hBack := hSettled.back
  rw [hCalls] at hBack
  exact absurd hBack (by decide)

end LoRaRadio
