import LoRaRadio.ComAdapter.Recovery
import LoRaRadio.Fprime.ComAggregator
import LoRaRadio.Library.Runs

/-
  The adapter, the framer and the aggregator wired as in the
  topology, on their two threads.

  The aggregator takes its signals from an unbounded queue
  on a thread of its own; the rate group calls `run` and
  `timeout` on another.  A thread can be interrupted by the
  other one wherever it calls a port or sets a flag, so each
  handler is cut into segments at these places.

  Main declarations:
    * `dataInHandler_eq` and `runHandler_eq`
    * `Stack` and `Stack.step`
    * `Stack.Paced`
    * `stack_undisturbed`
-/

------------------------------------------------------------
-- Segments of the Handlers
------------------------------------------------------------

namespace LoRaRadio

open Faulting

namespace LoRaRadioAdapter

variable {ν π : Type}

/- `dataIn_handler` up to its calls of output ports. -/
def transmit
    (api : NodeApi ν)
    (sendBuffer : FwBuffer) : AdapterM ν π Success := do
  if !(← ensureNodeStarted api) then
    return .failure
  let payload :=
    readBytes (← get).memory sendBuffer.data sendBuffer.size
  let ok ← callNode (api.send payload)
  return if ok then .success else .failure

/-
  `comStatusInit` up to the assignment that follows its
  status, and whether the status has been emitted.
-/
def announce
    (api : NodeApi ν) : AdapterM ν π Bool := do
  if (← get).adapter.initialStatusSent then
    return false
  if !(← ensureNodeStarted api) then
    return false
  comStatusOut 0 .success
  return true

/- `m_initialStatusSent = true` -/
def markAnnounced : AdapterM ν π Unit :=
  modify
    (AdapterState.onAdapter
      ({ · with initialStatusSent := true }))

/- The handler of a frame is its segments in order. -/
theorem dataInHandler_eq
    (api : NodeApi ν)
    (portNum : Nat)
    (sendBuffer : FwBuffer)
    (context : FrameContext) :
    (dataInHandler api portNum sendBuffer context :
      AdapterM ν π Unit) =
      (do
        let status ← transmit api sendBuffer
        dataReturnOut portNum sendBuffer context
        comStatusOut portNum status) := by
  unfold dataInHandler transmit
  rw [bind_assoc]
  apply bind_congr
  intro up
  cases up with
  | false => rfl
  | true => simp

/- `comStatusInit` is its segments in order. -/
theorem comStatusInit_eq
    (api : NodeApi ν) :
    (comStatusInit api : AdapterM ν π Unit) =
      (do
        if ← announce api then
          markAnnounced) := by
  unfold comStatusInit announce
  rw [bind_assoc]
  apply bind_congr
  intro s
  cases s.adapter.initialStatusSent with
  | true => rfl
  | false =>
      simp only [Bool.false_eq_true, if_false, bind_assoc]
      apply bind_congr
      intro up
      cases up with
      | false => rfl
      | true => rfl

/- A tick is its segments in order. -/
theorem runHandler_eq
    (api : NodeApi ν)
    (up : Uplink π) :
    (runHandler api up : AdapterM ν π Unit) =
      (do
        if !(← ensureNodeStarted api) then
          return
        if ← announce api then
          markAnnounced
        serviceRadio api up) := by
  unfold runHandler
  rw [comStatusInit_eq]
  apply bind_congr
  intro started
  cases started with
  | false => rfl
  | true =>
      simp only [Bool.not_true, Bool.false_eq_true, if_false,
        bind_assoc]
      apply bind_congr
      intro announced
      cases announced with
      | false => rfl
      | true => rfl

end LoRaRadioAdapter

end LoRaRadio

------------------------------------------------------------
-- The Stack
------------------------------------------------------------

namespace LoRaRadio

/-
  Where the thread of the aggregator is: about to call
  `preamble`, waiting for a signal, or in the call of
  `dataOut` of `doSend`, from the framer down to the adapter
  and back.
-/
inductive AggregatorThread
  | preamble
  | idle
  | framing (value : ComDataContextPair)
  | transmitting
      (frame : FwBuffer)
      (context : FrameContext)
  | returning
      (frame : FwBuffer)
      (context : FrameContext)
      (status : Success)
  | answering (status : Success)
  | framed
  | sent
deriving DecidableEq, Repr

/-
  Where the thread of the rate group is: between two calls,
  in `timeout` after it has found timeouts allowed, or in
  `run` before one of its segments.
-/
inductive RateGroupThread
  | idle
  | timingOut
  | announcing
  | announced
  | serving
deriving DecidableEq, Repr

/-
  What passes between the adapter and the framer downlink.
  A status of `run_handler` is told from one of
  `dataIn_handler`.
-/
inductive Exchange
  | initialStatus (status : Success)
  | frame
  | status (status : Success)
deriving DecidableEq, Repr

/- The status that is emitted. -/
def Exchange.status? : Exchange → Option Success
| .initialStatus c => some c
| .status c => some c
| .frame => none

/- The statuses among exchanges, in order. -/
def emitted
    (exchanges : List Exchange) : List Success :=
  exchanges.filterMap Exchange.status?

theorem emitted_append
    (l l' : List Exchange) :
    emitted (l ++ l') = emitted l ++ emitted l' :=
  List.filterMap_append

/- The three components, their queue and their threads. -/
structure Stack (ν π : Type) where
  radio : AdapterState ν π
  framer : TmFramer
  aggregator : ComAggregator
  queue : List AggregationSignal := []
  upstream : List UpstreamCall := []
  thread : AggregatorThread := .preamble
  rateGroup : RateGroupThread := .idle
  exchanges : List Exchange := []

/- Data the aggregator's buffer has room for. -/
structure AggregationData extends ComDataContextPair where
  fits : data.size ≤ aggregationSize

/-
  What can happen next: a call of one of the aggregator's or
  the adapter's ports from outside the stack, the next
  segment of a thread, or a change of the node's hardware
  and of memory by someone else.
-/
inductive StackAction (ν : Type)
  | fill (value : AggregationData)
  | timeout
  | tick
  | rateGroup
  | aggregator
  | outside (node : ν) (memory : Memory)

end LoRaRadio

------------------------------------------------------------
-- Steps of the Stack
------------------------------------------------------------

namespace LoRaRadio

open Faulting LoRaRadioAdapter

variable {ν π : Type}

namespace Stack

/- A fault ends the run: nothing is left to continue. -/
abbrev Next (ν π : Type) :=
  Except Fault (Stack ν π)

/- Run a segment of a handler of the adapter. -/
def onRadio
    {α : Type}
    (m : AdapterM ν π α)
    (s : Stack ν π)
    (next : α → Stack ν π → Next ν π) : Next ν π :=
  match exec m s.radio with
  | (.ok a, radio) => next a { s with radio }
  | (.error f, _) => .error f

/-
  `comStatusIn` of the framer, which passes the status on to
  the aggregator, which queues it.
-/
def comStatusIn
    (status : Success)
    (s : Stack ν π) : Stack ν π :=
  { s with queue := s.queue ++ [.status status] }

/- Process a signal up to a call of `dataOut`. -/
def process
    (signal : AggregationSignal)
    (s : Stack ν π) : Next ν π :=
  let before : Aggregating :=
    { aggregator := s.aggregator
      memory := s.radio.memory
      upstream := s.upstream }
  match exec (ComAggregator.dispatch signal) before with
  | (.error f, _) => .error f
  | (.ok data, after) =>
      .ok
        { s with
          aggregator := after.aggregator
          radio := { s.radio with memory := after.memory }
          upstream := after.upstream
          thread :=
            match data with
            | none => .idle
            | some value => .framing value }

/- The next segment of the aggregator's thread. -/
def stepAggregator
    (api : NodeApi ν)
    (s : Stack ν π) : Next ν π :=
  match s.thread with
  | .preamble =>
      .ok
        { s with
          upstream := s.upstream ++ [.comStatusOut .success]
          thread := .idle }
  | .idle =>
      match s.queue with
      | [] => .ok s
      | signal :: rest => process signal { s with queue := rest }
  | .framing value =>
      match s.framer.dataIn s.radio.memory value.data
          value.context with
      | .error f => .error f
      | .ok (framer, memory, frame) =>
          .ok
            { s with
              framer := framer
              radio := { s.radio with memory := memory }
              thread := .transmitting frame value.context
              exchanges := s.exchanges ++ [.frame] }
  | .transmitting frame context =>
      s.onRadio (transmit api frame) fun status s =>
        .ok
          { s with
            thread := .returning frame context status }
  | .returning frame context status =>
      s.onRadio (dataReturnOut 0 frame context) fun _ s =>
        match s.framer.dataReturnIn frame with
        | .error f => .error f
        | .ok framer =>
            .ok
              { s with
                framer := framer
                thread := .answering status }
  | .answering status =>
      s.onRadio (comStatusOut 0 status) fun _ s =>
        .ok
          { s.comStatusIn status with
            thread := .framed
            exchanges := s.exchanges ++ [.status status] }
  | .framed =>
      match s.aggregator.dataReturnIn with
      | .error f => .error f
      | .ok aggregator =>
          .ok { s with aggregator, thread := .sent }
  | .sent =>
      .ok
        { s with
          aggregator :=
            { s.aggregator with
              aggregationMachine := .waitStatus }
          thread := .idle }

/- The next segment of the rate group's thread. -/
def stepRateGroup
    (api : NodeApi ν)
    (up : Uplink π)
    (s : Stack ν π) : Next ν π :=
  match s.rateGroup with
  | .idle => .ok s
  | .timingOut =>
      .ok
        { s with
          queue := s.queue ++ [.timeout]
          rateGroup := .idle }
  | .announcing =>
      s.onRadio (announce api) fun emitted s =>
        if emitted then
          .ok
            { s.comStatusIn .success with
              rateGroup := .announced
              exchanges :=
                s.exchanges ++ [.initialStatus .success] }
        else
          .ok { s with rateGroup := .serving }
  | .announced =>
      s.onRadio markAnnounced fun _ s =>
        .ok { s with rateGroup := .serving }
  | .serving =>
      s.onRadio (serviceRadio api up) fun _ s =>
        .ok { s with rateGroup := .idle }

/- `dataIn_handler` of the aggregator -/
def fill
    (value : AggregationData)
    (s : Stack ν π) : Stack ν π :=
  { s with
    queue := s.queue ++ [.fill value.toComDataContextPair] }

/- `timeout_handler` up to its signal -/
def timeout
    (s : Stack ν π) : Stack ν π :=
  if s.rateGroup = .idle ∧ s.aggregator.allowTimeout then
    { s with rateGroup := .timingOut }
  else
    s

/- `run_handler` up to `comStatusInit` -/
def tick
    (api : NodeApi ν)
    (s : Stack ν π) : Next ν π :=
  if s.rateGroup = .idle then
    s.onRadio (ensureNodeStarted api) fun started s =>
      .ok
        { s with
          rateGroup := if started then .announcing else .idle }
  else
    .ok s

def step
    (api : NodeApi ν)
    (up : Uplink π)
    (s : Stack ν π) : StackAction ν → Next ν π
| .fill value => .ok (s.fill value)
| .timeout => .ok s.timeout
| .tick => s.tick api
| .rateGroup => s.stepRateGroup api up
| .aggregator => s.stepAggregator api
| .outside node memory =>
    .ok { s with radio := { s.radio with node, memory } }

/-
  The stack before its threads start.  The adapter is number
  `this`, and its configuration file has the content
  `yaml k` when it is read for the `k`-th time.
-/
def initial
    (this store frameBuffer : Nat)
    (node : ν)
    (uplink : π)
    (memory : Memory)
    (yaml : Nat → Option Text) : Stack ν π where
  radio := { this, node, uplink, memory, yaml }
  framer := { frameBuffer }
  aggregator := { frameBufferStore := store }

end Stack

end LoRaRadio

------------------------------------------------------------
-- The Invariant
------------------------------------------------------------

namespace LoRaRadio

namespace AggregatorThread

/- Who owns the framer's frame buffer. -/
def framerState :
    AggregatorThread → BufferOwnershipState
| .transmitting _ _ => .notOwned
| .returning _ _ _ => .notOwned
| _ => .owned

/- Who owns the aggregator's frame buffer. -/
def bufferState :
    AggregatorThread → BufferOwnershipState
| .preamble => .owned
| .idle => .owned
| .sent => .owned
| _ => .notOwned

/- The thread is in the call of `dataOut`. -/
def isSending : AggregatorThread → Bool
| .preamble => false
| .idle => false
| _ => true

/- The adapter has a frame it has not answered. -/
def unanswered : AggregatorThread → Bool
| .transmitting _ _ => true
| .returning _ _ _ => true
| .answering _ => true
| _ => false

/- The frame that is out of the framer's hands. -/
def frame? : AggregatorThread → Option FwBuffer
| .transmitting frame _ => some frame
| .returning frame _ _ => some frame
| _ => none

/- The data on its way to the framer. -/
def value? : AggregatorThread → Option ComDataContextPair
| .framing value => some value
| _ => none

/-
  How many statuses may be queued.  The aggregator waits for
  one in WAIT_STATUS, and already once its frame has been
  answered.
-/
def allowance : AggregatorThread → AggregationState → Nat
| .preamble, .waitStatus => 1
| .idle, .waitStatus => 1
| .framed, _ => 1
| .sent, _ => 1
| _, _ => 0

variable {thread : AggregatorThread}

theorem allowance_of_not_sending
    (hIdle : thread.isSending = false) :
    thread.allowance .waitStatus = 1 := by
  cases thread with
  | preamble => rfl
  | idle => rfl
  | _ => cases hIdle

theorem allowance_le
    (thread : AggregatorThread)
    (state : AggregationState) :
    thread.allowance state ≤ 1 := by
  unfold allowance
  split <;> decide

theorem unanswered_of_not_sending
    (hIdle : thread.isSending = false) :
    thread.unanswered = false := by
  cases thread with
  | preamble => rfl
  | idle => rfl
  | _ => cases hIdle

end AggregatorThread

namespace RateGroupThread

/- The thread is in `run`, and the node is up. -/
def isRunning : RateGroupThread → Bool
| .idle => false
| .timingOut => false
| _ => true

end RateGroupThread

/- A status, rather than a value or a timeout. -/
def AggregationSignal.isStatus : AggregationSignal → Bool
| .status _ => true
| _ => false

/- The statuses that wait for the aggregator. -/
def pendingStatuses
    (queue : List AggregationSignal) : Nat :=
  queue.countP AggregationSignal.isStatus

/-
  Exchanges in order, with a frame open at the end or not:
  first the initial SUCCESS, then frames, each followed by
  its status.
-/
inductive Orderly : Bool → List Exchange → Prop
  | silent : Orderly false []
  | initial : Orderly false [.initialStatus .success]
  | frame
      {l : List Exchange}
      (hOrderly : Orderly false l)
      (hBegun : l ≠ []) :
      Orderly true (l ++ [.frame])
  | status
      {l : List Exchange}
      (c : Success)
      (hOrderly : Orderly true l) :
      Orderly false (l ++ [.status c])

variable {ν π : Type}

/-
  The right to send passes round: it is a status in the
  queue, or the state FILL, or a frame being handed down.
-/
structure Stack.Paced
    (s : Stack ν π) : Prop where
  sound : s.radio.Sound
  bounded : s.aggregator.Bounded
  fits : ∀ signal ∈ s.queue, ComAggregator.Fits signal
  framerState : s.framer.bufferState = s.thread.framerState
  bufferState :
    s.aggregator.bufferState = s.thread.bufferState
  handed :
    ∀ value ∈ s.thread.value?,
      value.data.size ≤ aggregationSize
  lent :
    ∀ frame ∈ s.thread.frame?,
      frame.data = s.framer.frameBuffer
  filling :
    s.thread.isSending = true →
      s.aggregator.aggregationMachine = .fill
  queued :
    pendingStatuses s.queue ≤
      s.thread.allowance s.aggregator.aggregationMachine
  orderly : Orderly s.thread.unanswered s.exchanges
  silent :
    s.exchanges = [] →
      s.thread.isSending = false ∧
        s.aggregator.aggregationMachine = .waitStatus ∧
        pendingStatuses s.queue = 0
  started :
    s.exchanges ≠ [] ∨ s.rateGroup.isRunning = true →
      s.radio.adapter.started = true
  announced :
    s.exchanges ≠ [] ↔
      s.radio.adapter.initialStatusSent = true ∨
        s.rateGroup = .announced
  emits :
    statuses s.radio.calls = emitted s.exchanges

end LoRaRadio

------------------------------------------------------------
-- Steps of the Rate Group
------------------------------------------------------------

namespace LoRaRadio

open Faulting LoRaRadioAdapter

variable {ν π : Type}
variable {s s' : Stack ν π}

@[simp] theorem pendingStatuses_append
    (queue queue' : List AggregationSignal) :
    pendingStatuses (queue ++ queue') =
      pendingStatuses queue + pendingStatuses queue' :=
  List.countP_append

/-
  `comStatusInit` emits a status exactly when the flag is
  not set, and leaves the flag to be set.
-/
theorem exec_announce
    (api : NodeApi ν)
    {radio : AdapterState ν π}
    (hStarted : radio.adapter.started = true) :
    exec (announce api) radio =
      if radio.adapter.initialStatusSent then
        (.ok false, radio)
      else
        (.ok true, radio.record (.comStatusOut 0 .success)) := by
  unfold announce
  rw [exec_bind, exec_get]
  cases hSent : radio.adapter.initialStatusSent with
  | true => simp [hSent]
  | false =>
      simp only [hSent, Bool.false_eq_true, if_false]
      rw [exec_bind,
        exec_ensureNodeStarted_of_started hStarted]
      rfl

namespace Stack

theorem exec_onRadio
    {α : Type}
    {m : AdapterM ν π α}
    {a : α}
    {radio : AdapterState ν π}
    {next : α → Stack ν π → Next ν π}
    (hRun : exec m s.radio = (.ok a, radio)) :
    s.onRadio m next = next a { s with radio } := by
  unfold onRadio
  rw [hRun]

/- A segment that returned. -/
theorem onRadio_ok
    {α : Type}
    {m : AdapterM ν π α}
    {next : α → Stack ν π → Next ν π}
    (hNext : s.onRadio m next = .ok s') :
    ∃ a radio,
      exec m s.radio = (.ok a, radio) ∧
        next a { s with radio } = .ok s' := by
  unfold onRadio at hNext
  split at hNext
  · next a radio hRun => exact ⟨a, radio, hRun, hNext⟩
  · cases hNext

/-
  A step of the rate group that queues nothing concerns the
  adapter's flags only.
-/
theorem Paced.radio
    (hPaced : s.Paced)
    {radio : AdapterState ν π}
    {rateGroup : RateGroupThread}
    (hSound : radio.Sound)
    (hStarted :
      s.exchanges ≠ [] ∨ rateGroup.isRunning = true →
        radio.adapter.started = true)
    (hAnnounced :
      s.exchanges ≠ [] ↔
        radio.adapter.initialStatusSent = true ∨
          rateGroup = .announced)
    (hEmitted :
      statuses radio.calls = statuses s.radio.calls) :
    ({ s with radio, rateGroup } : Stack ν π).Paced :=
  { hPaced with
    sound := hSound
    started := hStarted
    announced := hAnnounced
    emits := hEmitted.trans hPaced.emits }

/-
  The node is brought up at the beginning of a tick.  Once
  the initial status is out it is up already.
-/
theorem Paced.tick
    {api : NodeApi ν}
    (hPaced : s.Paced)
    (hStep : s.tick api = .ok s') :
    s'.Paced := by
  unfold Stack.tick at hStep
  split at hStep
  · next hIdle =>
      rcases onRadio_ok hStep with
        ⟨started, radio, hRun, hNext⟩
      cases hNext
      have hUp :=
        (post_ensureNodeStarted api hPaced.sound).of_ok hRun
      have hFlag :
          radio.adapter.initialStatusSent =
            s.radio.adapter.initialStatusSent :=
        congrArg (fun o => o.2.2.2.2) hUp.1
      have hAnnounced := hPaced.announced
      rw [hIdle, ← hFlag] at hAnnounced
      have hKept :
          s.exchanges ≠ [] → radio.adapter.started = true := by
        intro hBegun
        have hStarted := hPaced.started (.inl hBegun)
        rw [exec_ensureNodeStarted_of_started hStarted] at hRun
        cases hRun
        exact hStarted
      apply hPaced.radio hUp.2.1
      · cases started with
        | true => exact fun _ => hUp.2.2
        | false => simpa [RateGroupThread.isRunning] using hKept
      · cases started with
        | true => simpa using hAnnounced
        | false => exact hAnnounced
      · rw [show radio.calls = s.radio.calls from
          congrArg (fun o => o.2.1) hUp.1]
  · cases hStep
    exact hPaced

theorem Paced.timeout
    (hPaced : s.Paced) :
    s.timeout.Paced := by
  unfold Stack.timeout
  split
  · next hTimeout =>
      have hAnnounced := hPaced.announced
      have hStarted := hPaced.started
      rw [hTimeout.1] at hAnnounced hStarted
      apply hPaced.radio hPaced.sound
      · exact hStarted
      · simpa using hAnnounced
      · rfl
  · exact hPaced

/- Signals that are no statuses may be queued at any time. -/
theorem Paced.queue
    (hPaced : s.Paced)
    (signal : AggregationSignal)
    (hFits : ComAggregator.Fits signal)
    (hOther : signal.isStatus = false) :
    ({ s with queue := s.queue ++ [signal] } :
      Stack ν π).Paced := by
  have hSame :
      pendingStatuses (s.queue ++ [signal]) =
        pendingStatuses s.queue := by
    simp [pendingStatuses, hOther]
  refine { hPaced with
    fits := ?_, queued := ?_, silent := ?_ }
  · intro other hOther
    rcases List.mem_append.1 hOther with hOld | hNew
    · exact hPaced.fits other hOld
    · rwa [List.mem_singleton.1 hNew]
  · rw [hSame]
    exact hPaced.queued
  · rw [hSame]
    exact hPaced.silent

theorem Paced.fill
    (hPaced : s.Paced)
    (value : AggregationData) :
    (s.fill value).Paced := by
  apply hPaced.queue
  · intro other hOther
    cases hOther
    exact value.fits
  · rfl

/-
  The initial status is emitted before any other exchange,
  when the aggregator waits for it and none is queued.
-/
theorem Paced.announcing
    {api : NodeApi ν}
    {up : Uplink π}
    (hPaced : s.Paced)
    (hThread : s.rateGroup = .announcing)
    (hStep : s.stepRateGroup api up = .ok s') :
    s'.Paced := by
  simp only [stepRateGroup, hThread] at hStep
  have hStarted : s.radio.adapter.started = true := by
    apply hPaced.started
    right
    rw [hThread]
    rfl
  have hAnnounced := hPaced.announced
  rw [hThread] at hAnnounced
  have hRun := exec_announce api hStarted
  cases hSent : s.radio.adapter.initialStatusSent with
  | true =>
      rw [hSent, if_pos rfl] at hRun
      rw [exec_onRadio hRun] at hStep
      cases hStep
      apply hPaced.radio hPaced.sound
      · exact fun _ => hStarted
      · simpa using hAnnounced
      · rfl
  | false =>
      rw [hSent] at hRun hAnnounced
      rw [exec_onRadio hRun] at hStep
      cases hStep
      have hSilent : s.exchanges = [] := by
        simpa using hAnnounced
      rcases hPaced.silent hSilent with
        ⟨hIdle, hWaiting, hNone⟩
      refine { hPaced with
        sound := hPaced.sound
        fits := ?_, queued := ?_, orderly := ?_
        silent := ?_, started := ?_, announced := ?_
        emits := ?_ }
      · intro signal hMem
        rcases List.mem_append.1 hMem with hOld | hNew
        · exact hPaced.fits signal hOld
        · rw [List.mem_singleton.1 hNew]
          exact nofun
      · change pendingStatuses (s.queue ++ [_]) ≤
          s.thread.allowance s.aggregator.aggregationMachine
        rw [pendingStatuses_append, hNone, hWaiting,
          AggregatorThread.allowance_of_not_sending hIdle]
        decide
      · change Orderly s.thread.unanswered
          (s.exchanges ++ [_])
        rw [hSilent,
          AggregatorThread.unanswered_of_not_sending hIdle]
        exact .initial
      · intro hEmpty
        exact absurd hEmpty (by simp)
      · exact fun _ => hStarted
      · simp [comStatusIn]
      · have hEmitted := hPaced.emits
        change statuses (s.radio.calls ++ [_]) =
          emitted (s.exchanges ++ [_])
        rw [statuses_append, emitted_append, hEmitted]
        rfl

/- Setting the flag, and the rest of a tick. -/
theorem Paced.rateGroup
    {api : NodeApi ν}
    {up : Uplink π}
    (hPaced : s.Paced)
    (hStep : s.stepRateGroup api up = .ok s') :
    s'.Paced := by
  cases hThread : s.rateGroup with
  | announcing => exact hPaced.announcing hThread hStep
  | idle =>
      simp only [stepRateGroup, hThread] at hStep
      cases hStep
      exact hPaced
  | timingOut =>
      simp only [stepRateGroup, hThread] at hStep
      cases hStep
      have hFits : ComAggregator.Fits .timeout := by
        intro other hOther
        cases hOther
      have hQueued := hPaced.queue .timeout hFits rfl
      have hAnnounced := hPaced.announced
      have hStarted := hPaced.started
      rw [hThread] at hAnnounced hStarted
      apply hQueued.radio hPaced.sound
      · exact hStarted
      · simpa using hAnnounced
      · rfl
  | announced =>
      simp only [stepRateGroup, hThread] at hStep
      rcases onRadio_ok hStep with ⟨_, radio, hRun, hNext⟩
      cases hRun
      cases hNext
      have hStarted : s.radio.adapter.started = true := by
        apply hPaced.started
        right
        rw [hThread]
        rfl
      have hAnnounced := hPaced.announced
      rw [hThread] at hAnnounced
      apply hPaced.radio
      · exact hPaced.sound
      · exact fun _ => hStarted
      · simpa [AdapterState.onAdapter] using hAnnounced
      · rfl
  | serving =>
      simp only [stepRateGroup, hThread] at hStep
      rcases onRadio_ok hStep with ⟨_, radio, hRun, hNext⟩
      cases hNext
      have hStanding :
          radio.standing = s.radio.standing := by
        have hSilent := silent_serviceRadio api up s.radio
        rwa [hRun] at hSilent
      have hFlags := congrArg Prod.fst hStanding
      have hStarted := hPaced.started
      have hAnnounced := hPaced.announced
      rw [hThread] at hAnnounced
      unfold AdapterState.standing at hFlags
      simp only [Prod.mk.injEq] at hFlags
      apply hPaced.radio (hPaced.sound.of_standing hStanding)
      · intro hBegun
        rw [hFlags.2.1]
        apply hStarted
        rcases hBegun with hThreads | hNever
        · exact .inl hThreads
        · cases hNever
      · rw [hFlags.2.2]
        simpa using hAnnounced
      · exact congrArg Prod.snd hStanding

end Stack

end LoRaRadio

------------------------------------------------------------
-- Steps of the Aggregator
------------------------------------------------------------

namespace LoRaRadio

open Faulting LoRaRadioAdapter

variable {ν π : Type}
variable {s s' : Stack ν π}

@[simp] theorem pendingStatuses_cons
    (signal : AggregationSignal)
    (queue : List AggregationSignal) :
    pendingStatuses (signal :: queue) =
      pendingStatuses queue +
        if signal.isStatus then 1 else 0 :=
  List.countP_cons

/- Once the node is up, a frame is sent to it. -/
theorem exec_transmit
    {api : NodeApi ν}
    {radio : AdapterState ν π}
    (hSound : radio.Sound)
    (hStarted : radio.adapter.started = true)
    (frame : FwBuffer) :
    exec (transmit api frame) radio =
      match exec (api.send (radio.payload frame))
          radio.node with
      | (.ok ok, n) =>
          (.ok (sendStatus ok), { radio with node := n })
      | (.error e, n) => (.error e, { radio with node := n }) := by
  unfold transmit
  rw [exec_bind, exec_ensureNodeStarted_of_started hStarted]
  simp only [Bool.not_true, Bool.false_eq_true, if_false,
    callNode, exec_bind, exec_get, hSound hStarted, exec_zoom]
  rw [show AdapterState.nodePart.get radio = radio.node
    from rfl]
  unfold AdapterState.payload
  rcases exec (api.send (readBytes radio.memory frame.data
    frame.size)) radio.node with ⟨e | ok, n⟩ <;> rfl

namespace Stack

/- Nothing is sent before the initial status. -/
theorem Paced.begun
    (hPaced : s.Paced)
    (hSending : s.thread.isSending = true) :
    s.exchanges ≠ [] := by
  intro hSilent
  have hIdle := (hPaced.silent hSilent).1
  rw [hSending] at hIdle
  cases hIdle

/- A status at the head of the queue finds WAIT_STATUS. -/
theorem Paced.waiting
    (hPaced : s.Paced)
    (hThread : s.thread = .idle)
    {condition : Success}
    {rest : List AggregationSignal}
    (hQueue : s.queue = .status condition :: rest) :
    s.aggregator.aggregationMachine = .waitStatus := by
  have hStatuses := hPaced.queued
  rw [hQueue, hThread] at hStatuses
  cases hState : s.aggregator.aggregationMachine with
  | waitStatus => rfl
  | fill =>
      rw [hState] at hStatuses
      simp [AggregationSignal.isStatus,
        AggregatorThread.allowance] at hStatuses

/- The aggregator's thread waits for a signal again. -/
theorem Paced.processed
    (hPaced : s.Paced)
    (hThread : s.thread = .idle)
    {rest : List AggregationSignal}
    {aggregator : ComAggregator}
    {memory : Memory}
    {upstream : List UpstreamCall}
    (hBounded : aggregator.Bounded)
    (hFits : ∀ signal ∈ rest, ComAggregator.Fits signal)
    (hBuffer :
      aggregator.bufferState = s.aggregator.bufferState)
    (hStatuses :
      pendingStatuses rest ≤
        AggregatorThread.idle.allowance
          aggregator.aggregationMachine)
    (hSilent :
      s.exchanges = [] →
        aggregator.aggregationMachine = .waitStatus ∧
          pendingStatuses rest = 0) :
    ({ s with
        queue := rest
        aggregator
        radio := { s.radio with memory }
        upstream
        thread := .idle } : Stack ν π).Paced := by
  have hOwned := hPaced.bufferState
  have hFramer := hPaced.framerState
  have hOrderly := hPaced.orderly
  rw [hThread] at hOwned hFramer hOrderly
  exact { hPaced with
    sound := hPaced.sound
    bounded := hBounded
    fits := hFits
    framerState := hFramer
    bufferState := hBuffer.trans hOwned
    handed := nofun
    lent := nofun
    filling := nofun
    queued := hStatuses
    orderly := hOrderly
    silent := fun hEmpty => ⟨rfl, hSilent hEmpty⟩ }

/-
  Processing a signal that is not a status leaves the
  statuses, and so the right to send, where they are; a
  status turns into the state FILL, and FILL into a frame.
-/
theorem Paced.process
    (hPaced : s.Paced)
    (hThread : s.thread = .idle)
    {signal : AggregationSignal}
    {rest : List AggregationSignal}
    (hQueue : s.queue = signal :: rest)
    (hStep :
      process signal { s with queue := rest } = .ok s') :
    s'.Paced := by
  have hFits : ∀ other ∈ signal :: rest,
      ComAggregator.Fits other := by
    rw [← hQueue]
    exact hPaced.fits
  have hRest : ∀ other ∈ rest, ComAggregator.Fits other :=
    fun other hMem =>
      hFits other (List.mem_cons_of_mem _ hMem)
  have hCount := hPaced.queued
  have hSilent := hPaced.silent
  rw [hThread, hQueue, pendingStatuses_cons] at hCount
  rw [hQueue, pendingStatuses_cons] at hSilent
  unfold Stack.process at hStep
  dsimp only at hStep
  split at hStep
  · cases hStep
  · next data after hRun =>
      cases hStep
      have hPost :=
        (ComAggregator.post_dispatch hPaced.bounded
          (hFits signal List.mem_cons_self) (by
            intro condition hSignal
            exact hPaced.waiting hThread
              (hSignal ▸ hQueue))).of_ok hRun
      rcases hPost with ⟨hBounded, hOutcome⟩
      cases hOutcome with
      | waits hState hBuffer =>
          apply hPaced.processed hThread hBounded hRest
            hBuffer
          · rw [hState]
            have hMost :=
              AggregatorThread.idle.allowance_le
                s.aggregator.aggregationMachine
            change _ ≤ 1
            omega
          · intro hEmpty
            have hNone := (hSilent hEmpty).2.2
            exact ⟨hState, by omega⟩
      | clears hWaiting hSignal hState hBuffer =>
          subst hSignal
          rw [hWaiting] at hCount
          change pendingStatuses rest + 1 ≤ 1 at hCount
          apply hPaced.processed hThread hBounded hRest
            hBuffer
          · rw [hState]
            change _ ≤ 0
            omega
          · intro hEmpty
            have hNone := (hSilent hEmpty).2.2
            cases hNone
      | fills hFilling hState hBuffer =>
          rw [hFilling] at hCount
          apply hPaced.processed hThread hBounded hRest
            hBuffer
          · rw [hState]
            change _ ≤ 0
            change _ ≤ 0 at hCount
            omega
          · intro hEmpty
            have hWaiting := (hSilent hEmpty).2.1
            rw [hFilling] at hWaiting
            cases hWaiting
      | sends value hFilling hState hBuffer hSize =>
          have hFramer := hPaced.framerState
          have hOrderly := hPaced.orderly
          rw [hThread] at hFramer hOrderly
          rw [hFilling] at hCount
          refine { hPaced with
            sound := hPaced.sound
            bounded := hBounded
            fits := hRest
            framerState := hFramer
            bufferState := hBuffer
            handed := ?_
            lent := nofun
            filling := fun _ => hState
            queued := ?_
            orderly := hOrderly
            silent := ?_ }
          · intro other hOther
            cases hOther
            exact hSize
          · change pendingStatuses rest ≤ 0
            change _ ≤ 0 at hCount
            omega
          · intro hEmpty
            have hWaiting := (hSilent hEmpty).2.1
            rw [hFilling] at hWaiting
            cases hWaiting

/-
  What a step in the call of `dataOut` has to look after:
  the two buffers, the queue and the exchanges.
-/
theorem Paced.sending
    (hPaced : s.Paced)
    (hSending : s.thread.isSending = true)
    {radio : AdapterState ν π}
    {framer : TmFramer}
    {aggregator : ComAggregator}
    {queue : List AggregationSignal}
    {thread : AggregatorThread}
    {exchanges : List Exchange}
    (hRadio :
      (radio.adapter = s.radio.adapter))
    (hAggregator :
      aggregator.Bounded ∧
        aggregator.aggregationMachine = .fill)
    (hFits : ∀ signal ∈ queue, ComAggregator.Fits signal)
    (hFramer : framer.bufferState = thread.framerState)
    (hBuffer : aggregator.bufferState = thread.bufferState)
    (hHanded : thread.value? = none)
    (hLent :
      ∀ frame ∈ thread.frame?,
        frame.data = framer.frameBuffer)
    (hStatuses :
      pendingStatuses queue ≤ thread.allowance .fill)
    (hOrderly : Orderly thread.unanswered exchanges)
    (hBegun : exchanges ≠ [])
    (hEmitted :
      statuses s.radio.calls =
          emitted s.exchanges →
        statuses radio.calls =
          emitted exchanges) :
    ({ s with
        radio, framer, aggregator, queue, thread
        exchanges } : Stack ν π).Paced := by
  have hSound := hPaced.sound
  have hWas := hPaced.begun hSending
  have hStarted := hPaced.started (.inl hWas)
  have hAnnounced := hPaced.announced
  unfold AdapterState.Sound at hSound
  refine { hPaced with
    sound := ?_
    bounded := hAggregator.1
    fits := hFits
    framerState := hFramer
    bufferState := hBuffer
    handed := ?_
    lent := hLent
    filling := fun _ => hAggregator.2
    queued := ?_
    orderly := hOrderly
    silent := fun hEmpty => absurd hEmpty hBegun
    started := ?_
    announced := ?_
    emits := hEmitted hPaced.emits }
  · unfold AdapterState.Sound
    rwa [hRadio]
  · rw [hHanded]
    exact nofun
  · dsimp only
    rw [hAggregator.2]
    exact hStatuses
  · intro _
    dsimp only
    rwa [hRadio]
  · dsimp only
    rw [hRadio]
    exact ⟨fun _ => hAnnounced.1 hWas, fun _ => hBegun⟩

end Stack

end LoRaRadio

------------------------------------------------------------
-- The Call of `dataOut`
------------------------------------------------------------

namespace LoRaRadio

open Faulting LoRaRadioAdapter

variable {ν π : Type}
variable {s s' : Stack ν π}
variable {api : NodeApi ν}

namespace Stack

/- The framer accepts what the aggregator hands it. -/
theorem Paced.framed
    (hPaced : s.Paced)
    {value : ComDataContextPair}
    (hThread : s.thread = .framing value) :
    ∃ framer memory frame,
      s.framer.dataIn s.radio.memory value.data
          value.context = .ok (framer, memory, frame) ∧
        framer.bufferState = .notOwned ∧
        framer.frameBuffer = s.framer.frameBuffer ∧
        frame.data = s.framer.frameBuffer := by
  apply TmFramer.dataIn_of_room
  · rw [hPaced.framerState, hThread]
    rfl
  · have hSize := hPaced.handed value (by rw [hThread]; rfl)
    unfold aggregationSize tmFrameFixedSize at hSize
    unfold TmFramer.idlePacketSize tmFrameFixedSize
      tmTrailerSize tmHeaderSize
    omega

/- The framer gets its own frame buffer back. -/
theorem Paced.released
    (hPaced : s.Paced)
    {frame : FwBuffer}
    (hFrame : s.thread.frame? = some frame) :
    s.framer.dataReturnIn frame =
      .ok { s.framer with bufferState := .owned } := by
  have hLent := hPaced.lent frame hFrame
  unfold TmFramer.dataReturnIn
  rw [if_pos]
  rw [hLent]
  unfold tmFrameFixedSize
  omega

/- The aggregator gets back what it has handed out. -/
theorem Paced.returned
    (hPaced : s.Paced)
    (hThread : s.thread = .framed) :
    s.aggregator.dataReturnIn =
      .ok { s.aggregator with bufferState := .owned } := by
  unfold ComAggregator.dataReturnIn
  rw [hPaced.bufferState, hThread]
  rfl

/- The statuses that may be queued while a frame is out. -/
theorem Paced.none_queued
    (hPaced : s.Paced)
    (hAllowance :
      s.thread.allowance s.aggregator.aggregationMachine =
        0) :
    pendingStatuses s.queue = 0 := by
  have hStatuses := hPaced.queued
  omega

/- Every segment of the aggregator's thread. -/
theorem Paced.aggregator
    (hPaced : s.Paced)
    (hStep : s.stepAggregator api = .ok s') :
    s'.Paced := by
  have hFramer := hPaced.framerState
  have hBuffer := hPaced.bufferState
  have hOrderly := hPaced.orderly
  have hFilling := hPaced.filling
  have hNone := hPaced.none_queued
  have hBegun := hPaced.begun
  have hLent := hPaced.lent
  have hStatuses := hPaced.queued
  cases hThread : s.thread with
  | idle =>
      simp only [stepAggregator, hThread] at hStep
      cases hQueue : s.queue with
      | nil =>
          rw [hQueue] at hStep
          cases hStep
          exact hPaced
      | cons signal rest =>
          rw [hQueue] at hStep
          exact hPaced.process hThread hQueue hStep
  | preamble =>
      simp only [stepAggregator, hThread] at hStep
      cases hStep
      rw [hThread] at hFramer hBuffer hOrderly hStatuses
      refine { hPaced with
        sound := hPaced.sound
        framerState := hFramer
        bufferState := hBuffer
        handed := nofun
        lent := nofun
        filling := nofun
        queued := ?_
        orderly := hOrderly
        silent := ?_ }
      · dsimp only
        cases hState : s.aggregator.aggregationMachine <;>
          rwa [hState] at hStatuses
      · exact fun hEmpty => ⟨rfl, (hPaced.silent hEmpty).2⟩
  | framing value =>
      rcases hPaced.framed hThread with
        ⟨framer, memory, frame, hFramed, hLent, hSame, hOwn⟩
      simp only [stepAggregator, hThread, hFramed] at hStep
      cases hStep
      rw [hThread] at hBuffer hOrderly hFilling hNone hBegun
      apply hPaced.sending
      · rw [hThread]
        rfl
      · rfl
      · exact ⟨hPaced.bounded, hFilling rfl⟩
      · exact hPaced.fits
      · exact hLent
      · exact hBuffer
      · rfl
      · intro other hOther
        cases hOther
        exact hOwn.trans hSame.symm
      · exact (hNone rfl).le
      · exact .frame hOrderly (hBegun rfl)
      · simp
      · intro hEmitted
        rw [emitted_append]
        exact hEmitted.trans (List.append_nil _).symm
  | transmitting frame context =>
      simp only [stepAggregator, hThread] at hStep
      rw [hThread] at hFramer hBuffer hOrderly hFilling hNone
      rw [hThread] at hBegun hLent
      have hStarted := hPaced.started (.inl (hBegun rfl))
      rcases onRadio_ok hStep with
        ⟨status, radio, hRun, hNext⟩
      cases hNext
      rw [exec_transmit hPaced.sound hStarted] at hRun
      split at hRun
      · cases hRun
        apply hPaced.sending
        · rw [hThread]
          rfl
        · rfl
        · exact ⟨hPaced.bounded, hFilling rfl⟩
        · exact hPaced.fits
        · exact hFramer
        · exact hBuffer
        · rfl
        · exact hLent
        · exact (hNone rfl).le
        · exact hOrderly
        · exact hBegun rfl
        · exact fun hEmitted => hEmitted
      · cases hRun
  | returning frame context status =>
      have hFrame : s.thread.frame? = some frame := by
        rw [hThread]
        rfl
      have hReleased := hPaced.released hFrame
      simp only [stepAggregator, hThread] at hStep
      rw [hThread] at hBuffer hOrderly hFilling hNone hBegun
      rcases onRadio_ok hStep with ⟨_, radio, hRun, hNext⟩
      cases hRun
      rw [hReleased] at hNext
      cases hNext
      apply hPaced.sending
      · rw [hThread]
        rfl
      · rfl
      · exact ⟨hPaced.bounded, hFilling rfl⟩
      · exact hPaced.fits
      · rfl
      · exact hBuffer
      · rfl
      · exact nofun
      · exact (hNone rfl).le
      · exact hOrderly
      · exact hBegun rfl
      · intro hEmitted
        change statuses (s.radio.calls ++ [_]) = _
        rw [statuses_append, hEmitted]
        exact List.append_nil _
  | answering status =>
      simp only [stepAggregator, hThread] at hStep
      rw [hThread] at hFramer hBuffer hOrderly hFilling hNone
      rcases onRadio_ok hStep with ⟨_, radio, hRun, hNext⟩
      cases hRun
      cases hNext
      apply hPaced.sending
      · rw [hThread]
        rfl
      · rfl
      · exact ⟨hPaced.bounded, hFilling rfl⟩
      · intro signal hMem
        rcases List.mem_append.1 hMem with hOld | hNew
        · exact hPaced.fits signal hOld
        · rw [List.mem_singleton.1 hNew]
          exact nofun
      · exact hFramer
      · exact hBuffer
      · rfl
      · exact nofun
      · change pendingStatuses (s.queue ++ [_]) ≤ 1
        rw [pendingStatuses_append, hNone rfl]
        exact le_rfl
      · exact .status status hOrderly
      · simp
      · intro hEmitted
        change statuses (s.radio.calls ++ [_]) = _
        rw [statuses_append, emitted_append, hEmitted]
        rfl
  | framed =>
      have hReturned := hPaced.returned hThread
      simp only [stepAggregator, hThread, hReturned] at hStep
      cases hStep
      rw [hThread] at hFramer hOrderly hFilling hBegun
      rw [hThread] at hStatuses
      rw [hFilling rfl] at hStatuses
      apply hPaced.sending
      · rw [hThread]
        rfl
      · rfl
      · refine ⟨?_, hFilling rfl⟩
        exact ⟨hPaced.bounded.serializer, hPaced.bounded.held⟩
      · exact hPaced.fits
      · exact hFramer
      · rfl
      · rfl
      · exact nofun
      · exact hStatuses
      · exact hOrderly
      · exact hBegun rfl
      · exact fun hEmitted => hEmitted
  | sent =>
      simp only [stepAggregator, hThread] at hStep
      cases hStep
      rw [hThread] at hFramer hBuffer hOrderly hBegun
      rw [hThread] at hStatuses
      exact { hPaced with
        sound := hPaced.sound
        bounded :=
          ⟨hPaced.bounded.serializer, hPaced.bounded.held⟩
        framerState := hFramer
        bufferState := hBuffer
        handed := nofun
        lent := nofun
        filling := nofun
        queued := hStatuses
        orderly := hOrderly
        silent := fun hEmpty =>
          absurd hEmpty (hBegun rfl) }

/-
  The aggregator's thread fails in two ways only: a value
  comes while one is held, or `send` throws.
-/
theorem Paced.aggregator_fault
    (hPaced : s.Paced)
    {f : Fault}
    (hStep : s.stepAggregator api = .error f) :
    f = ComAggregator.heldTwice ∨
      ∃ payload node,
        exec (api.send payload) s.radio.node =
          (.error f, node) := by
  cases hThread : s.thread with
  | preamble =>
      simp only [stepAggregator, hThread] at hStep
      cases hStep
  | idle =>
      left
      simp only [stepAggregator, hThread] at hStep
      cases hQueue : s.queue with
      | nil =>
          rw [hQueue] at hStep
          cases hStep
      | cons signal rest =>
          rw [hQueue] at hStep
          simp only [Stack.process] at hStep
          split at hStep
          · next hRun =>
              cases hStep
              have hFits : ComAggregator.Fits signal := by
                apply hPaced.fits
                rw [hQueue]
                exact List.mem_cons_self
              apply (ComAggregator.post_dispatch
                hPaced.bounded hFits _).of_error hRun
              intro condition hSignal
              exact hPaced.waiting hThread (hSignal ▸ hQueue)
          · cases hStep
  | framing value =>
      rcases hPaced.framed hThread with
        ⟨framer, memory, frame, hFramed, -⟩
      simp only [stepAggregator, hThread, hFramed] at hStep
      cases hStep
  | transmitting frame context =>
      right
      have hStarted : s.radio.adapter.started = true := by
        apply hPaced.started
        left
        exact hPaced.begun (by rw [hThread]; rfl)
      simp only [stepAggregator, hThread, onRadio,
        exec_transmit hPaced.sound hStarted] at hStep
      rcases hRun : exec (api.send (s.radio.payload frame))
        s.radio.node with ⟨e | ok, n⟩
      · rw [hRun] at hStep
        cases hStep
        exact ⟨_, n, hRun⟩
      · rw [hRun] at hStep
        cases hStep
  | returning frame context status =>
      have hFrame : s.thread.frame? = some frame := by
        rw [hThread]
        rfl
      have hReleased := hPaced.released hFrame
      simp only [stepAggregator, hThread, onRadio,
        LoRaRadioAdapter.dataReturnOut, exec_modify,
        hReleased] at hStep
      cases hStep
  | answering status =>
      simp only [stepAggregator, hThread, onRadio,
        LoRaRadioAdapter.comStatusOut, exec_modify] at hStep
      cases hStep
  | framed =>
      have hReturned := hPaced.returned hThread
      simp only [stepAggregator, hThread, hReturned] at hStep
      cases hStep
  | sent =>
      simp only [stepAggregator, hThread] at hStep
      cases hStep

end Stack

end LoRaRadio

------------------------------------------------------------
-- Runs of the Stack
------------------------------------------------------------

namespace LoRaRadio

open Faulting LoRaRadioAdapter Runs

variable {ν π : Type}

namespace Stack

variable {s s' : Stack ν π}

theorem Paced.step
    {api : NodeApi ν}
    {up : Uplink π}
    (hPaced : s.Paced)
    (action : StackAction ν)
    (hStep : s.step api up action = .ok s') :
    s'.Paced := by
  cases action with
  | fill value =>
      cases hStep
      exact hPaced.fill value
  | timeout =>
      cases hStep
      exact hPaced.timeout
  | tick => exact hPaced.tick hStep
  | rateGroup => exact hPaced.rateGroup hStep
  | aggregator => exact hPaced.aggregator hStep
  | outside node memory =>
      cases hStep
      exact { hPaced with sound := hPaced.sound }

theorem paced_initial
    (this store frameBuffer : Nat)
    (node : ν)
    (uplink : π)
    (memory : Memory)
    (yaml : Nat → Option Text) :
    (initial this store frameBuffer node uplink memory
      yaml).Paced where
  sound := nofun
  bounded := ⟨Nat.zero_le _, Nat.zero_le _⟩
  fits := nofun
  framerState := rfl
  bufferState := rfl
  handed := nofun
  lent := nofun
  filling := nofun
  queued := Nat.zero_le _
  orderly := .silent
  silent := fun _ => ⟨rfl, rfl, rfl⟩
  started hRunning := by
    rcases hRunning with hBegun | hRunning
    · exact absurd rfl hBegun
    · cases hRunning
  announced := by simp [initial]
  emits := rfl

/-
  What the adapter must not do to the components it is wired
  to, in a state.
-/
structure Undisturbed
    (api : NodeApi ν)
    (s : Stack ν π) : Prop where
  /- At most one status is outstanding. -/
  oneStatus : pendingStatuses s.queue ≤ 1
  /- No status is processed in the state FILL. -/
  noStatusInFill :
    ∀ condition rest,
      s.thread = .idle →
        s.queue = .status condition :: rest →
          s.aggregator.aggregationMachine ≠ .fill
  /- A single initial SUCCESS comes before every frame. -/
  initialFirst :
    s.exchanges = [] ∨
      ∃ rest, s.exchanges = .initialStatus .success :: rest ∧
        ∀ condition, .initialStatus condition ∉ rest
  /- The statuses exchanged are those of `comStatusOut`. -/
  emits :
    statuses s.radio.calls =
      emitted s.exchanges
  /- The framer owns its buffer when data comes. -/
  framerOwns :
    ∀ value, s.thread = .framing value →
      s.framer.bufferState = .owned
  /- The aggregator has lent its buffer when it comes back. -/
  aggregatorLent :
    s.thread = .framed →
      s.aggregator.bufferState = .notOwned
  /- No assertion fails but that against a second value. -/
  asserts :
    ∀ f, s.stepAggregator api = .error f →
      f = ComAggregator.heldTwice ∨
        ∃ payload node,
          exec (api.send payload) s.radio.node =
            (.error f, node)

end Stack

theorem Orderly.begun
    {l : List Exchange}
    (hOrderly : Orderly true l) :
    l ≠ [] := by
  cases hOrderly with
  | frame => simp

/- An initial SUCCESS, if anything, and no second one. -/
theorem Orderly.initialFirst
    {isOpen : Bool}
    {l : List Exchange}
    (hOrderly : Orderly isOpen l) :
    l = [] ∨
      ∃ rest, l = .initialStatus .success :: rest ∧
        ∀ condition, .initialStatus condition ∉ rest := by
  induction hOrderly with
  | silent => exact .inl rfl
  | initial => exact .inr ⟨[], rfl, fun _ => nofun⟩
  | frame hOrderly hBegun ih =>
      rcases ih with hEmpty | ⟨rest, hList, hOnce⟩
      · exact absurd hEmpty hBegun
      · refine .inr ⟨rest ++ [.frame], by rw [hList]; rfl, ?_⟩
        intro condition hMem
        simp [hOnce condition] at hMem
  | status c hOrderly ih =>
      rcases ih with hEmpty | ⟨rest, hList, hOnce⟩
      · exact absurd hEmpty hOrderly.begun
      · refine .inr ⟨rest ++ [.status c], ?_, ?_⟩
        · rw [hList]
          rfl
        · intro condition hMem
          simp [hOnce condition] at hMem

theorem Stack.Paced.undisturbed
    {s : Stack ν π}
    (api : NodeApi ν)
    (hPaced : s.Paced) :
    s.Undisturbed api where
  oneStatus :=
    hPaced.queued.trans
      (AggregatorThread.allowance_le _ _)
  noStatusInFill condition rest hThread hQueue := by
    rw [hPaced.waiting hThread hQueue]
    exact nofun
  initialFirst := hPaced.orderly.initialFirst
  emits := hPaced.emits
  framerOwns value hThread := by
    rw [hPaced.framerState, hThread]
    rfl
  aggregatorLent hThread := by
    rw [hPaced.bufferState, hThread]
    rfl
  asserts _ hStep := hPaced.aggregator_fault hStep

/-
  In every run of the stack, whatever the outcomes of
  `start` and `send` and however the two threads and the
  calls from outside interleave.
-/
theorem stack_undisturbed
    (api : NodeApi ν)
    (up : Uplink π)
    (this store frameBuffer : Nat)
    (node : ν)
    (uplink : π)
    (memory : Memory)
    (yaml : Nat → Option Text)
    (actions : List (StackAction ν))
    (s : Stack ν π)
    (hRun :
      attempt (Stack.step api up)
          (Stack.initial this store frameBuffer node uplink
            memory yaml) actions =
        .ok s) :
    s.Undisturbed api := by
  have hPaced : s.Paced := by
    apply attempt_invariant (I := Stack.Paced) ?_ ?_ hRun
    · intro s action s' hPaced hStep
      exact hPaced.step action hStep
    · apply Stack.paced_initial
  exact hPaced.undisturbed api

/-
  A value of three bytes, sent on a timeout while the rate
  group has yet to set the flag of the initial status.
-/
def threeBytes : List (StackAction NodeState) :=
  let value : AggregationData :=
    { data := { data := 1, size := 3 }, fits := by decide }
  [.timeout, .tick, .aggregator, .rateGroup, .aggregator,
    .fill value, .rateGroup, .rateGroup, .timeout,
    .rateGroup] ++
  List.replicate 6 .aggregator

theorem stack_undisturbed_threeBytes :
    ∃ s,
      attempt (Stack.step loraNodeApi noUplink)
          (Stack.initial 0 2000 4000 readyAdapter.node ()
            (fun _ => 0) readyAdapter.yaml) threeBytes =
        .ok s ∧
      s.exchanges =
        [.initialStatus .success, .frame, .status .failure] ∧
      s.Undisturbed loraNodeApi := by
  have hExchanges :
      (attempt (Stack.step loraNodeApi noUplink)
          (Stack.initial 0 2000 4000 readyAdapter.node ()
            (fun _ => 0) readyAdapter.yaml)
          threeBytes).toOption.map Stack.exchanges =
        some
          [.initialStatus .success, .frame,
            .status .failure] := by
    decide +kernel
  cases hRun : attempt (Stack.step loraNodeApi noUplink)
      (Stack.initial 0 2000 4000 readyAdapter.node ()
        (fun _ => 0) readyAdapter.yaml) threeBytes with
  | error f =>
      rw [hRun] at hExchanges
      cases hExchanges
  | ok s =>
      rw [hRun] at hExchanges
      refine ⟨s, rfl, Option.some.inj hExchanges, ?_⟩
      exact stack_undisturbed loraNodeApi noUplink 0 2000 4000
        readyAdapter.node () (fun _ => 0) readyAdapter.yaml
        threeBytes s hRun

end LoRaRadio
