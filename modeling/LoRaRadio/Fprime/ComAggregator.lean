import LoRaRadio.Fprime.TmFramer
import LoRaRadio.Library.Faulting

/-
  `Svc::ComAggregator`: data buffers collected into one
  until a status from downstream allows it to be sent.

  The actions of the state machine are computations on the
  aggregator, the memory it serializes into and the calls it
  makes upstream.  The call of `dataOut`, always the last
  action of a transition, is left to the caller.

  Main declarations:
    * `ComAggregator`
    * `AggregationSignal`
    * `AggregatorM` and the actions and guards
    * `ComAggregator.dispatch`
    * `ComAggregator.Bounded`
    * `ComAggregator.Outcome`
    * `ComAggregator.post_dispatch`
-/

------------------------------------------------------------
-- The Component
------------------------------------------------------------

namespace LoRaRadio

/- `ComCfg::AggregationSize` -/
def aggregationSize : Nat :=
  tmFrameFixedSize - 6 - 6 - 1 - 2

/- `Svc::ComDataContextPair` -/
structure ComDataContextPair where
  data : FwBuffer := {}
  context : FrameContext := {}
deriving DecidableEq, Repr

/- The states of `AggregationMachine`. -/
inductive AggregationState
  | waitStatus
  | fill
deriving DecidableEq, Repr

/- The signals of `AggregationMachine`. -/
inductive AggregationSignal
  | timeout
  | fill (value : ComDataContextPair)
  | status (condition : Success)
deriving DecidableEq, Repr

/-
  The members of `ComAggregator`.  The store of the frame
  buffer is the memory from `frameBufferStore` on, and the
  serializer is its position in the store.
-/
structure ComAggregator where
  frameBufferStore : Nat
  bufferState : BufferOwnershipState := .owned
  frameBuffer : FwBuffer :=
    { data := frameBufferStore
      size := aggregationSize }
  frameSerializer : Nat := 0
  lastContext : FrameContext := {}
  held : ComDataContextPair := {}
  allowTimeout : Bool := false
  aggregationMachine : AggregationState := .waitStatus
deriving DecidableEq, Repr

/- A call on a port towards the component upstream. -/
inductive UpstreamCall
  | dataReturnOut (value : ComDataContextPair)
  | comStatusOut (status : Success)
deriving DecidableEq, Repr

/- What the actions of the state machine work on. -/
structure Aggregating where
  aggregator : ComAggregator
  memory : Memory
  upstream : List UpstreamCall := []

abbrev AggregatorM :=
  Faulting Fault Aggregating

namespace Aggregating

def onAggregator
    (f : ComAggregator → ComAggregator)
    (s : Aggregating) : Aggregating :=
  { s with aggregator := f s.aggregator }

def record
    (c : UpstreamCall)
    (s : Aggregating) : Aggregating :=
  { s with upstream := s.upstream ++ [c] }

/- `serializeFrom` of bytes there is room for. -/
def serialize
    (data : FwBuffer)
    (s : Aggregating) : Aggregating :=
  let a := s.aggregator
  { s with
    memory :=
      writeBytes s.memory
        (a.frameBufferStore + a.frameSerializer)
        (readBytes s.memory data.data data.size)
    aggregator :=
      { a with
        frameSerializer := a.frameSerializer + data.size } }

end Aggregating

end LoRaRadio

------------------------------------------------------------
-- Guards and Actions
------------------------------------------------------------

namespace LoRaRadio

open Faulting Aggregating

namespace ComAggregator

/- What both guards on a value compare its size with. -/
def remaining
    (value : ComDataContextPair) : AggregatorM Nat := do
  if value.data.size > aggregationSize then
    throw (.assertion
      "value.get_data().getSize() <= ComCfg::AggregationSize")
  return aggregationSize - (← get).aggregator.frameSerializer

def isFull
    (value : ComDataContextPair) : AggregatorM Bool := do
  return (← remaining value) < value.data.size

def willFill
    (value : ComDataContextPair) : AggregatorM Bool := do
  return (← remaining value) = value.data.size

def isNotEmpty
    (a : ComAggregator) : Bool :=
  a.frameSerializer > 0

def isGood
    (value : Success) : Bool :=
  value = .success

def doFill
    (value : ComDataContextPair) : AggregatorM Unit := do
  let a := (← get).aggregator
  if a.frameSerializer + value.data.size >
      aggregationSize then
    throw (.assertion
      "status == Fw::SerializeStatus::FW_SERIALIZE_OK")
  modify (serialize value.data)
  modify (onAggregator
    ({ · with lastContext := value.context }))
  modify (record (.dataReturnOut value))
  modify (record (.comStatusOut .success))

def doClear : AggregatorM Unit := do
  modify (onAggregator fun a =>
    { a with
      allowTimeout := true
      frameSerializer := 0
      frameBuffer := a.frameBuffer.setSize aggregationSize })
  let held := (← get).aggregator.held
  if held.data.isValid then
    doFill held
    modify (onAggregator ({ · with held := {} }))

/- What there is to hand out on `dataOut`. -/
def doSend : AggregatorM (Option ComDataContextPair) := do
  let a := (← get).aggregator
  if a.frameSerializer > 0 then
    let frameBuffer := a.frameBuffer.setSize a.frameSerializer
    modify (onAggregator fun a =>
      { a with
        bufferState := .notOwned
        frameBuffer := frameBuffer
        allowTimeout := false })
    return some
      { data := frameBuffer, context := a.lastContext }
  else
    return none

/- What the assertion of `doHold` says when it fails. -/
def heldTwice : Fault :=
  .assertion "not this->m_held.get_data().isValid()"

def doHold
    (value : ComDataContextPair) : AggregatorM Unit := do
  if (← get).aggregator.held.data.isValid then
    throw heldTwice
  modify (onAggregator ({ · with held := value }))

def assertNoStatus : AggregatorM Unit :=
  throw (.assertion "0")

end ComAggregator

end LoRaRadio

------------------------------------------------------------
-- State Machine
------------------------------------------------------------

namespace LoRaRadio

open Faulting Aggregating

namespace ComAggregator

def enter
    (state : AggregationState) : AggregatorM Unit :=
  modify (onAggregator
    ({ · with aggregationMachine := state }))

/-
  `do { …, doSend } enter WAIT_STATUS`.  When there is data
  to hand out the state is entered once the call of
  `dataOut` has returned.
-/
def sendThenWait :
    AggregatorM (Option ComDataContextPair) := do
  let data ← doSend
  if data.isNone then
    enter .waitStatus
  return data

/- The transition of a signal in a state. -/
def react :
    AggregationState → AggregationSignal →
      AggregatorM (Option ComDataContextPair)
| .waitStatus, .fill value => do
    doHold value
    return none
| .waitStatus, .timeout => return none
| .waitStatus, .status condition => do
    if isGood condition then
      doClear
      enter .fill
    else
      enter .waitStatus
    return none
| .fill, .fill value => do
    if ← isFull value then
      doHold value
      sendThenWait
    else if ← willFill value then
      doFill value
      sendThenWait
    else
      doFill value
      enter .fill
      return none
| .fill, .timeout => do
    if (← get).aggregator.isNotEmpty then
      sendThenWait
    else
      return none
| .fill, .status _ => do
    assertNoStatus
    return none

/- A signal taken from the queue. -/
def dispatch
    (signal : AggregationSignal) :
    AggregatorM (Option ComDataContextPair) := do
  react (← get).aggregator.aggregationMachine signal

/- `dataReturnIn_handler` -/
def dataReturnIn
    (a : ComAggregator) : Except Fault ComAggregator :=
  if a.bufferState ≠ .notOwned then
    .error (.assertion
      "this->m_bufferState == Fw::Buffer::OwnershipState::NOT_OWNED")
  else
    .ok { a with bufferState := .owned }

end ComAggregator

end LoRaRadio

------------------------------------------------------------
-- What the Actions Do
------------------------------------------------------------

namespace LoRaRadio

open Faulting Aggregating

namespace ComAggregator

variable {Q : Unit → Aggregating → Prop}
variable {E : Fault → Aggregating → Prop}
variable {s : Aggregating}
variable {value : ComDataContextPair}

/- What the aggregator holds fits into its frame buffer. -/
structure Bounded
    (a : ComAggregator) : Prop where
  serializer : a.frameSerializer ≤ aggregationSize
  held : a.held.data.size ≤ aggregationSize

/- The state after a value has been filled in. -/
def filled
    (value : ComDataContextPair)
    (s : Aggregating) : Aggregating :=
  (((s.serialize value.data).onAggregator
    ({ · with lastContext := value.context })).record
      (.dataReturnOut value)).record (.comStatusOut .success)

theorem post_doFill
    (hRoom :
      s.aggregator.frameSerializer + value.data.size ≤
        aggregationSize) :
    Post (doFill value) Q E s ↔ Q () (filled value s) := by
  unfold doFill
  rw [post_bind, post_get]
  have hFits :
      ¬ s.aggregator.frameSerializer + value.data.size >
        aggregationSize := by
    omega
  simp only [hFits, if_false]
  rfl

/-
  Clearing never fails: a held value fits into the empty
  buffer.
-/
theorem post_doClear
    (hBounded : s.aggregator.Bounded) :
    Post doClear
      (fun _ s' =>
        s'.aggregator.Bounded ∧
          s'.aggregator.bufferState =
            s.aggregator.bufferState)
      E s := by
  unfold doClear
  rw [post_bind, post_modify, post_bind, post_get]
  dsimp only
  split
  · rw [post_bind, post_doFill]
    · refine ⟨⟨?_, ?_⟩, rfl⟩
      · have hHeld := hBounded.held
        change 0 + s.aggregator.held.data.size ≤ _
        omega
      · exact Nat.zero_le _
    · have hHeld := hBounded.held
      change 0 + s.aggregator.held.data.size ≤ _
      omega
  · exact ⟨⟨Nat.zero_le _, hBounded.held⟩, rfl⟩

/- A value is held unless another one is. -/
theorem post_doHold
    (hHeld :
      s.aggregator.held.data.isValid = false →
        Q () (s.onAggregator ({ · with held := value })))
    (hTwice :
      s.aggregator.held.data.isValid = true →
        E heldTwice s) :
    Post (doHold value) Q E s := by
  unfold doHold
  rw [post_bind, post_get]
  cases hValid : s.aggregator.held.data.isValid with
  | true => exact hTwice hValid
  | false => exact hHeld hValid

end ComAggregator

end LoRaRadio

------------------------------------------------------------
-- What a Transition Does
------------------------------------------------------------

namespace LoRaRadio

open Faulting Aggregating

namespace ComAggregator

variable {s : Aggregating}
variable {E : Fault → Aggregating → Prop}

/-
  From `a`, a signal leads to `a'` and leaves `data` to be
  handed out.
-/
inductive Outcome
    (a : ComAggregator)
    (signal : AggregationSignal)
    (a' : ComAggregator) :
    Option ComDataContextPair → Prop
  | waits
      (hState : a'.aggregationMachine = .waitStatus)
      (hBuffer : a'.bufferState = a.bufferState) :
      Outcome a signal a' none
  | clears
      (hWaiting : a.aggregationMachine = .waitStatus)
      (hSignal : signal = .status .success)
      (hState : a'.aggregationMachine = .fill)
      (hBuffer : a'.bufferState = a.bufferState) :
      Outcome a signal a' none
  | fills
      (hFilling : a.aggregationMachine = .fill)
      (hState : a'.aggregationMachine = .fill)
      (hBuffer : a'.bufferState = a.bufferState) :
      Outcome a signal a' none
  | sends
      (value : ComDataContextPair)
      (hFilling : a.aggregationMachine = .fill)
      (hState : a'.aggregationMachine = .fill)
      (hBuffer : a'.bufferState = .notOwned)
      (hSize : value.data.size ≤ aggregationSize) :
      Outcome a signal a' (some value)

/- Data to be sent is handed out with the buffer. -/
theorem post_sendThenWait
    {a : ComAggregator}
    {signal : AggregationSignal}
    (hBounded : s.aggregator.Bounded)
    (hFilling : a.aggregationMachine = .fill)
    (hState : s.aggregator.aggregationMachine = .fill)
    (hBuffer : s.aggregator.bufferState = a.bufferState) :
    Post sendThenWait
      (fun data s' =>
        s'.aggregator.Bounded ∧
          Outcome a signal s'.aggregator data)
      E s := by
  unfold sendThenWait doSend
  rw [post_bind, post_bind, post_get]
  dsimp only
  split
  · refine ⟨⟨hBounded.serializer, hBounded.held⟩, ?_⟩
    exact .sends _ hFilling hState rfl hBounded.serializer
  · refine ⟨⟨hBounded.serializer, hBounded.held⟩, ?_⟩
    exact .waits rfl hBuffer

/- Neither guard on a value that fits fails. -/
theorem post_remaining
    {value : ComDataContextPair}
    {Q : Nat → Aggregating → Prop}
    (hSize : value.data.size ≤ aggregationSize) :
    Post (remaining value) Q E s ↔
      Q (aggregationSize - s.aggregator.frameSerializer)
        s := by
  unfold remaining
  have hFits : ¬ value.data.size > aggregationSize := by
    omega
  simp only [hFits, if_false]
  rfl

end ComAggregator

end LoRaRadio

------------------------------------------------------------
-- Every Transition
------------------------------------------------------------

namespace LoRaRadio

open Faulting Aggregating

namespace ComAggregator

variable {s : Aggregating}

/- The size of the value a signal carries. -/
def Fits
    (signal : AggregationSignal) : Prop :=
  ∀ value, signal = .fill value →
    value.data.size ≤ aggregationSize

/-
  A transition of the state FILL on a value: the value is
  held, or filled in, or both filled in and sent.
-/
theorem post_fill
    {value : ComDataContextPair}
    (hBounded : s.aggregator.Bounded)
    (hSize : value.data.size ≤ aggregationSize)
    (hState : s.aggregator.aggregationMachine = .fill) :
    Post (react .fill (.fill value))
      (fun data s' =>
        s'.aggregator.Bounded ∧
          Outcome s.aggregator (.fill value) s'.aggregator
            data)
      (fun f _ => f = heldTwice) s := by
  have hPosition := hBounded.serializer
  have hHeld := hBounded.held
  unfold react isFull willFill
  rw [post_bind, post_bind, post_remaining hSize, post_pure]
  split
  · rw [post_bind]
    apply post_doHold
    · intro _
      refine post_sendThenWait ?_ hState hState rfl
      exact ⟨hPosition, hSize⟩
    · exact fun _ => rfl
  · next hNotFull =>
      have hRoom :
          s.aggregator.frameSerializer + value.data.size ≤
            aggregationSize := by
        simp only [decide_eq_true_eq] at hNotFull
        omega
      rw [post_bind, post_bind, post_remaining hSize,
        post_pure]
      split
      · rw [post_bind, post_doFill hRoom]
        refine post_sendThenWait ?_ hState hState rfl
        exact ⟨hRoom, hHeld⟩
      · rw [post_bind, post_doFill hRoom]
        refine ⟨⟨hRoom, hHeld⟩, ?_⟩
        exact .fills hState rfl rfl

/-
  A signal whose value fits, other than a status in the
  state FILL, is processed, or finds a value held already.
-/
theorem post_dispatch
    {signal : AggregationSignal}
    (hBounded : s.aggregator.Bounded)
    (hFits : Fits signal)
    (hStatus :
      ∀ condition, signal = .status condition →
        s.aggregator.aggregationMachine = .waitStatus) :
    Post (dispatch signal)
      (fun data s' =>
        s'.aggregator.Bounded ∧
          Outcome s.aggregator signal s'.aggregator data)
      (fun f _ => f = heldTwice) s := by
  unfold dispatch
  rw [post_bind, post_get]
  cases hState : s.aggregator.aggregationMachine with
  | waitStatus =>
      cases signal with
      | timeout => exact ⟨hBounded, .waits hState rfl⟩
      | fill value =>
          simp only [react]
          rw [post_bind]
          apply post_doHold
          · intro _
            have hSize := hFits value rfl
            refine ⟨⟨hBounded.serializer, hSize⟩, ?_⟩
            exact .waits hState rfl
          · exact fun _ => rfl
      | status condition =>
          cases condition with
          | failure =>
              have hBounds : s.aggregator.Bounded := hBounded
              exact ⟨⟨hBounds.1, hBounds.2⟩, .waits rfl rfl⟩
          | success =>
              simp only [react, isGood, decide_true, if_true]
              rw [post_bind]
              apply Post.mono (post_doClear hBounded)
              · intro _ s' hCleared
                refine ⟨⟨hCleared.1.1, hCleared.1.2⟩, ?_⟩
                exact .clears hState rfl rfl hCleared.2
              · exact fun _ _ hFalse => hFalse
  | fill =>
      cases signal with
      | fill value =>
          exact post_fill hBounded (hFits value rfl) hState
      | status condition =>
          have hWaiting := hStatus condition rfl
          rw [hState] at hWaiting
          cases hWaiting
      | timeout =>
          simp only [react]
          rw [post_bind, post_get]
          split
          · exact post_sendThenWait hBounded hState hState rfl
          · exact ⟨hBounded, .fills hState hState rfl⟩

end ComAggregator

end LoRaRadio
