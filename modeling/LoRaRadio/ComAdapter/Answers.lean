import LoRaRadio.ComAdapter.Recovery
import LoRaRadio.Node.Started

/-
  Which frames the adapter gives back and answers, with a
  radio whose hardware calls may throw or never come back.

  `start` catches what its hardware calls throw; `send` does
  not, and neither does the handler that calls it.  A wait
  for a BUSY line that stays high holds up whoever waits.

  Main declarations:
    * `AnsweredOnce`
    * `answeredOnce_iff`
    * `frames_answered_iff`
-/

------------------------------------------------------------
-- Answered Frames
------------------------------------------------------------

namespace LoRaRadio

open Faulting LoRaRadioAdapter

variable {π : Type}

namespace AdapterState

/-
  Between `s` and `s'` the transmission of a frame has been
  started, or the frame was empty.
-/
def TransmissionStarted
    (s s' : AdapterState NodeState π)
    (buffer : FwBuffer) : Prop :=
  ∃ s₁,
    exec (ensureNodeStarted loraNodeApi) s = (.ok true, s₁) ∧
      (s.payload buffer = [] ∨
        ∃ packet,
          s'.node.txDevice.chip.air =
            s₁.node.txDevice.chip.air ++ [packet])

/-
  The handler returns, its hardware calls having come back;
  it has given the buffer back once and then answered it
  once, with SUCCESS only if the transmission has been
  started.
-/
def AnsweredOnce
    (s : AdapterState NodeState π)
    (portNum : Nat)
    (buffer : FwBuffer)
    (context : FrameContext) : Prop :=
  ∃ status s',
    exec
        (dataInHandler loraNodeApi portNum buffer context)
        s = (.ok (), s') ∧
      s.node.CallsEnd s'.node ∧
      s'.calls =
        s.calls ++
          [.dataReturnOut portNum buffer context,
            .comStatusOut portNum status] ∧
      (status = .success →
        s.TransmissionStarted s' buffer)

/-
  The hardware calls of bringing the node up come back; if
  it is up, so do those of the `send` of a frame, and none
  of them throws.
-/
def SendGoesThrough
    (s : AdapterState NodeState π)
    (buffer : FwBuffer) : Prop :=
  ∀ up s₁,
    exec (ensureNodeStarted loraNodeApi) s = (.ok up, s₁) →
      s.node.CallsEnd s₁.node ∧
        (up = true →
          s₁.node.SendGoesThrough (s.payload buffer))

end AdapterState

/- `start` never throws. -/
theorem start_returns
    (n : NodeState) :
    Post start (fun _ _ => True) (fun _ _ => False) n := by
  unfold start
  rw [post_bind, post_get]
  cases hStarted : n.node.started with
  | true => exact trivial
  | false =>
      simp only [Bool.false_eq_true, if_false]
      rw [post_tryCatch]
      unfold Post
      split
      · trivial
      · trivial

/- A `start` that succeeds only uses the devices. -/
theorem later_start
    {n n' : NodeState}
    (hRun : exec start n = (.ok true, n')) :
    n.Later n' := by
  cases hStarted : n.node.started with
  | true =>
      rw [NodeState.exec_start_of_started hStarted] at hRun
      cases hRun
      exact fun side => ⟨rfl, Nat.le_refl _⟩
  | false =>
      rcases start_ok_true hStarted hRun with
        ⟨rx, rx', tx, tx', hUp⟩
      exact hUp.later

/- Bringing the node up never throws. -/
theorem ensureNodeStarted_returns
    (s : AdapterState NodeState π) :
    ∃ up s',
      exec (ensureNodeStarted loraNodeApi) s =
        (.ok up, s') ∧
      (up = true → s.node.Later s'.node) := by
  have hPost :
      Post (ensureNodeStarted loraNodeApi)
        (fun up s' => up = true → s.node.Later s'.node)
        (fun _ _ => False) s := by
    unfold ensureNodeStarted
    rw [post_bind, post_get]
    split
    · exact fun _ side => ⟨rfl, Nat.le_refl _⟩
    · rw [post_bind, post_loadConfig]
      split
      · exact nofun
      · simp only [post_bind, post_modify]
        rw [post_callNode rfl]
        -- constructing a node leaves its devices alone
        have hDevices :
            ∀ side,
              ((staticNode loraNodeApi s.loaded).onNode
                (loraNodeApi.setRxCallback
                  (staticNode loraNodeApi s.loaded).this)
                ).node.device side = s.node.device side := by
          intro side
          unfold staticNode AdapterState.onNode
            AdapterState.loaded
          dsimp only
          split <;> cases side <;> rfl
        have hStart := start_returns
          ((staticNode loraNodeApi s.loaded).onNode
            (loraNodeApi.setRxCallback
              (staticNode loraNodeApi s.loaded).this)).node
        rcases hStart.returns with ⟨up, n, hRun, -⟩
        unfold Post
        rw [show loraNodeApi.start = start from rfl, hRun]
        cases up with
        | false => exact nofun
        | true =>
            intro _ side
            have hLater := later_start hRun side
            rwa [hDevices side] at hLater
  exact hPost.returns

end LoRaRadio

------------------------------------------------------------
-- When a Frame Is Answered
------------------------------------------------------------

namespace LoRaRadio

open Faulting LoRaRadioAdapter

variable {π : Type}
variable {s : AdapterState NodeState π}

theorem calls_answered
    (portNum : Nat)
    (buffer : FwBuffer)
    (context : FrameContext)
    (status : Success) :
    (s.answered portNum buffer context status).calls =
      s.calls ++
        [.dataReturnOut portNum buffer context,
          .comStatusOut portNum status] := by
  unfold AdapterState.answered AdapterState.record
  simp

/-
  A frame is answered exactly when its hardware calls come
  back and those of its `send` do not throw.
-/
theorem answeredOnce_iff
    (hSound : s.Sound)
    (portNum : Nat)
    (buffer : FwBuffer)
    (context : FrameContext) :
    s.AnsweredOnce portNum buffer context ↔
      s.SendGoesThrough buffer := by
  rcases ensureNodeStarted_returns s with
    ⟨up, s₁, hUp, hLater⟩
  have hPost := post_ensureNodeStarted loraNodeApi hSound
  unfold Post at hPost
  rw [hUp] at hPost
  have hCalls : s₁.calls = s.calls :=
    congrArg (fun o => o.2.1) hPost.1
  have hMemory : s₁.memory = s.memory :=
    congrArg (fun o => o.1.2.2) hPost.1
  have hPayload :
      s₁.payload buffer = s.payload buffer := by
    unfold AdapterState.payload
    rw [hMemory]
  unfold AdapterState.AnsweredOnce
    AdapterState.SendGoesThrough
    AdapterState.TransmissionStarted
  rw [exec_dataInHandler hSound, hUp]
  cases up with
  | false =>
      constructor
      · rintro ⟨status, s', hReturns, hEnd, -⟩ up s₂ hSame
        cases hSame
        cases hReturns
        exact ⟨hEnd, nofun⟩
      · intro hGoes
        refine ⟨.failure, _, rfl, (hGoes false s₁ rfl).1, ?_,
          nofun⟩
        rw [calls_answered, hCalls]
  | true =>
      have hSend := post_send s₁.node (s.payload buffer)
      unfold Post at hSend
      simp only [handled, if_true, hPayload]
      rcases hRun :
          exec (loraNodeApi.send (s.payload buffer)) s₁.node
        with ⟨e | ok, n⟩
      · rw [show exec (send (s.payload buffer)) s₁.node =
          (.error e, n) from hRun] at hSend
        constructor
        · rintro ⟨_, _, hReturns, -⟩
          cases hReturns
        · intro hGoes
          have hQuiet := ((hGoes true s₁ rfl).2 rfl).2
          exact absurd hQuiet hSend
      · rw [show exec (send (s.payload buffer)) s₁.node =
          (.ok ok, n) from hRun] at hSend
        rcases hSend with
          ⟨hQuiet, hSendLater, hResponds, hPacket⟩
        -- the calls of the handler: first those of `start`,
        -- then those of `send`
        have hEnds :
            s.node.CallsEnd n ↔
              s.node.CallsEnd s₁.node ∧
                s₁.node.CallsEnd n :=
          callsEnd_trans_iff (hLater rfl) hSendLater
        constructor
        · rintro ⟨status, s', hReturns, hEnd, -⟩ up s₂ hSame
          cases hSame
          cases hReturns
          rcases hEnds.mp hEnd with ⟨hStart, hSent⟩
          exact ⟨hStart, fun _ =>
            ⟨hResponds.mp hSent, hQuiet⟩⟩
        · intro hGoes
          rcases hGoes true s₁ rfl with ⟨hStart, hSent⟩
          refine ⟨sendStatus ok, _, rfl, hEnds.mpr ⟨hStart,
            hResponds.mpr (hSent rfl).1⟩, ?_, ?_⟩
          · rw [calls_answered, ← hCalls]
          · intro hStatus
            have hOk : ok = true := by
              cases ok with
              | true => rfl
              | false => cases hStatus
            exact ⟨s₁, rfl, hPacket hOk⟩

end LoRaRadio

------------------------------------------------------------
-- Runs
------------------------------------------------------------

namespace LoRaRadio

open Faulting LoRaRadioAdapter Runs

variable {π : Type}

/-
  In every run, whatever the hardware does, a frame handed
  to the adapter is given back and answered exactly once
  just when its hardware calls come back and those of its
  `send` go through.
-/
theorem frames_answered_iff
    (up : Uplink π)
    (s : AdapterState NodeState π)
    (calls : List AdapterCall)
    (hFresh : s.Fresh) :
    Along (AdapterState.call loraNodeApi up)
      (fun s c =>
        ∀ portNum buffer context,
          c = .dataIn portNum buffer context →
            (s.AnsweredOnce portNum buffer context ↔
              s.SendGoesThrough buffer))
      s calls := by
  refine along_of_invariant
    (I := AdapterState.Sound)
    (fun _ c hSound => hSound.call loraNodeApi up c)
    (fun s c hSound portNum buffer context _ =>
      answeredOnce_iff hSound portNum buffer context)
    calls ?_
  unfold AdapterState.Sound
  rw [hFresh.1]
  exact nofun

/- The frame of the first call of a run. -/
theorem frames_answered_iff_first :
    readyAdapter.AnsweredOnce 0 { data := 1, size := 3 }
      {} := by
  have hIff :=
    (frames_answered_iff noUplink readyAdapter
      [.dataIn 0 { data := 1, size := 3 } {}]
      ⟨rfl, rfl⟩).1 0 { data := 1, size := 3 } {} rfl
  refine hIff.mpr fun up s₁ hUp => ⟨?_, fun hYes => ?_⟩
  · intro side k _ _
    cases side <;> rfl
  · rcases ensureNodeStarted_returns readyAdapter with
      ⟨up', s', hUp', hLater⟩
    rw [hUp] at hUp'
    cases hUp'
    have hHal :
        s₁.node.txDevice.hal = readyAdapter.node.txDevice.hal :=
      (hLater hYes .tx).1
    refine ⟨fun k _ => ?_, fun k _ => ?_⟩
    · rw [hHal]
      rfl
    · rw [hHal]
      rfl

/- The transfer of the payload, call number 62, throws. -/
def spiFailsAdapter : AdapterState NodeState Unit :=
  { readyAdapter with
    node :=
      { readyAdapter.node with
        txDevice := { hal := fun k => { throws := k == 62 } } } }

/-
  The exception leaves the handler: the frame is neither
  given back nor answered.
-/
theorem spiFails_unanswered :
    ¬ (spiFailsAdapter.call loraNodeApi noUplink
      .run).AnsweredOnce 0 { data := 1, size := 3 } {} := by
  rintro ⟨status, s', hReturns, -⟩
  have hThrows :
      (exec
        (dataInHandler loraNodeApi 0 { data := 1, size := 3 }
          {})
        (spiFailsAdapter.call loraNodeApi noUplink .run)).1 =
        .error
          (.systemError "failed to perform SPI transfer") := by
    decide +kernel
  rw [hReturns] at hThrows
  cases hThrows

end LoRaRadio
