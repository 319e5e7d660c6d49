import LoRaRadio.Library.Runs
import LoRaRadio.ComAdapter.AdapterLemmas

/-
  Recovery after a failure: which runs of the adapter answer
  every FAILURE with a later SUCCESS.

  The one SUCCESS the adapter emits on its own account is
  the initial one.  A FAILURE after it is never followed by
  another, unless a later frame is sent.

  Main declarations:
    * `Recovered`
    * `statuses_run_of_noFrame`
    * `failure_recovers`
-/

------------------------------------------------------------
-- Recovered Status Sequences
------------------------------------------------------------

namespace LoRaRadio

/- Every FAILURE is followed by a SUCCESS at some point. -/
def Recovered
    (emitted : List Success) : Prop :=
  ∀ before after,
    emitted = before ++ .failure :: after →
      .success ∈ after

theorem recovered_of_getLast?
    {emitted : List Success}
    (hLast : emitted.getLast? = some .success) :
    Recovered emitted := by
  rintro before after rfl
  rw [List.getLast?_append_of_ne_nil _ (List.cons_ne_nil _ _)]
    at hLast
  cases after with
  | nil => cases hLast
  | cons status after =>
      rw [List.getLast?_cons_cons] at hLast
      exact List.mem_of_getLast? hLast

end LoRaRadio

------------------------------------------------------------
-- Readiness
------------------------------------------------------------

namespace LoRaRadio

open Faulting LoRaRadioAdapter

variable {ν π : Type}
variable {api : NodeApi ν}
variable {up : Uplink π}
variable {s s' : AdapterState ν π}

namespace AdapterState

/- An adapter as it was created. -/
def Fresh
    (s : AdapterState ν π) : Prop :=
  s.adapter = {} ∧ s.calls = []

/-
  Once the initial status has been sent, the node is started
  and the last status is a SUCCESS.
-/
def Ready
    (s : AdapterState ν π) : Prop :=
  s.Sound ∧
    (s.adapter.initialStatusSent = true →
      s.adapter.started = true ∧
        (statuses s.calls).getLast? = some .success)

theorem Fresh.ready
    (hFresh : s.Fresh) :
    s.Ready := by
  unfold Ready Sound
  rw [hFresh.1]
  exact ⟨nofun, nofun⟩

/- Readiness depends on the flags and the statuses only. -/
theorem Ready.of_standing
    (hReady : s.Ready)
    (hSame : s'.standing = s.standing) :
    s'.Ready := by
  unfold standing at hSame
  simp only [Prod.mk.injEq] at hSame
  rcases hSame with ⟨⟨hNode, hStarted, hSent⟩, hStatuses⟩
  unfold Ready Sound at *
  rwa [hNode, hStarted, hSent, hStatuses]

/-
  A send that is made once the initial status has been sent
  does not return false.
-/
def SendsOnceReady
    (api : NodeApi ν)
    (s : AdapterState ν π) : AdapterCall → Prop
| .dataIn _ buffer _ =>
    s.adapter.initialStatusSent = true →
      (exec (api.send (s.payload buffer)) s.node).1 ≠
        .ok false
| _ => True

theorem ready_announced
    (hSound : s.Sound)
    (hStarted : s.adapter.started = true)
    (hReady : s.Ready) :
    s.announced.Ready ∧
      s.announced.adapter.initialStatusSent = true := by
  unfold announced
  cases hSent : s.adapter.initialStatusSent with
  | true =>
      rw [if_pos rfl]
      exact ⟨hReady, hSent⟩
  | false =>
      refine ⟨⟨hSound, fun _ => ⟨hStarted, ?_⟩⟩, rfl⟩
      simp [onAdapter, record, statuses, PortCall.status?]

/-
  A run that finds the node up leaves the initial status
  sent, whatever else goes wrong in it.
-/
theorem ready_run_of_up
    (up : Uplink π)
    (hReady : s.Ready)
    (hUp : (exec (ensureNodeStarted api) s).1 = .ok true) :
    (s.call api up .run).Ready ∧
      (s.call api up .run).adapter.initialStatusSent =
        true := by
  have hPost := post_ensureNodeStarted api hReady.1
  unfold Post at hPost
  unfold call handler
  rw [exec_runHandler hReady.1]
  rcases hRun : exec (ensureNodeStarted api) s with ⟨r, s₁⟩
  rw [hRun] at hPost hUp
  change r = .ok true at hUp
  subst hUp
  rcases hPost with ⟨hSurface, hSound, hStarted⟩
  have hCalls : s₁.calls = s.calls :=
    congrArg (fun o => o.2.1) hSurface
  have hSent :
      s₁.adapter.initialStatusSent =
        s.adapter.initialStatusSent :=
    congrArg (fun o => o.2.2.2.2) hSurface
  have hReady₁ : s₁.Ready := by
    refine ⟨hSound, fun hSent₁ => ⟨hStarted, ?_⟩⟩
    rw [hCalls]
    exact (hReady.2 (hSent ▸ hSent₁)).2
  have hAnnounced :=
    ready_announced hSound hStarted hReady₁
  have hSame := silent_serviceRadio api up s₁.announced
  refine ⟨hAnnounced.1.of_standing hSame, ?_⟩
  have hFlag := congrArg (fun o => o.1.2.2) hSame
  exact hFlag.trans hAnnounced.2

end AdapterState

end LoRaRadio

------------------------------------------------------------
-- Every Call
------------------------------------------------------------

namespace LoRaRadio

open Faulting LoRaRadioAdapter

variable {ν π : Type}
variable {api : NodeApi ν}
variable {up : Uplink π}
variable {s : AdapterState ν π}

namespace AdapterState

/- Calls that carry no frame change no flag and no status. -/
theorem silent_dataReturnIn
    (api : NodeApi ν)
    (up : Uplink π)
    (buffer : FwBuffer)
    (context : FrameContext) :
    Silent
      (handler api up (.dataReturnIn buffer context)) :=
  keeps_dataReturnInHandler up buffer context

theorem silent_otherWrites
    (api : NodeApi ν)
    (up : Uplink π)
    (memory : Memory) :
    Silent (handler api up (.otherWrites memory)) :=
  silent_modify fun _ => rfl

/- Before the initial status, an adapter is always ready. -/
theorem ready_of_unsent
    (hSound : s.Sound)
    (hSent : s.adapter.initialStatusSent = false) :
    s.Ready := by
  refine ⟨hSound, fun hYes => ?_⟩
  rw [hSent] at hYes
  cases hYes

theorem statuses_answered
    (portNum : Nat)
    (buffer : FwBuffer)
    (context : FrameContext)
    (status : Success) :
    statuses
        (s.answered portNum buffer context status).calls =
      statuses s.calls ++ [status] := by
  unfold answered record
  rw [statuses_append, statuses_append, List.append_assoc]
  rfl

theorem ready_answered
    {portNum : Nat}
    {buffer : FwBuffer}
    {context : FrameContext}
    {status : Success}
    (hReady : s.Ready)
    (hStatus :
      s.adapter.initialStatusSent = true →
        status = .success) :
    (s.answered portNum buffer context status).Ready := by
  refine ⟨hReady.1, fun hSent => ?_⟩
  refine ⟨(hReady.2 hSent).1, ?_⟩
  rw [hStatus hSent, statuses_answered]
  exact List.getLast?_concat

theorem ready_dataIn
    {portNum : Nat}
    {buffer : FwBuffer}
    {context : FrameContext}
    (hReady : s.Ready)
    (hSends :
      s.SendsOnceReady api (.dataIn portNum buffer context)) :
    (s.call api up (.dataIn portNum buffer context)).Ready := by
  have hPost := post_ensureNodeStarted api hReady.1
  unfold Post at hPost
  unfold call handler
  rw [exec_dataInHandler hReady.1]
  cases hSent : s.adapter.initialStatusSent with
  | true =>
      have hStarted := (hReady.2 hSent).1
      have hSend := hSends hSent
      rw [exec_ensureNodeStarted_of_started hStarted]
      simp only [handled, if_true]
      rcases hRun : exec (api.send (s.payload buffer)) s.node
        with ⟨e | ok, n⟩
      · exact hReady
      · rw [hRun] at hSend
        cases ok with
        | false => exact absurd rfl hSend
        | true => exact ready_answered hReady fun _ => rfl
  | false =>
      rcases hRun : exec (ensureNodeStarted api) s with
        ⟨e | up, s₁⟩
      · rw [hRun] at hPost
        have hSent₁ := congrArg (fun o => o.2.2.2.2) hPost.1
        exact ready_of_unsent hPost.2.1 (hSent₁.trans hSent)
      · rw [hRun] at hPost
        have hSent₁ :
            s₁.adapter.initialStatusSent = false :=
          (congrArg (fun o => o.2.2.2.2) hPost.1).trans hSent
        have hSound := hPost.2.1
        cases up with
        | false => exact ready_of_unsent hSound hSent₁
        | true =>
            simp only [handled, if_true]
            rcases exec (api.send (s₁.payload buffer)) s₁.node
              with ⟨e | ok, n⟩
            · exact ready_of_unsent hSound hSent₁
            · exact ready_of_unsent hSound hSent₁

theorem ready_run
    (hReady : s.Ready) :
    (s.call api up .run).Ready := by
  by_cases hUp :
      (exec (ensureNodeStarted api) s).1 = .ok true
  · exact (ready_run_of_up up hReady hUp).1
  · have hPost := post_ensureNodeStarted api hReady.1
    have hUnsent : s.adapter.initialStatusSent = false := by
      rw [← Bool.not_eq_true]
      intro hSent
      rw [exec_ensureNodeStarted_of_started
        (hReady.2 hSent).1] at hUp
      exact hUp rfl
    unfold Post at hPost
    unfold call handler
    rw [exec_runHandler hReady.1]
    rcases hRun : exec (ensureNodeStarted api) s with
      ⟨e | up, s₁⟩
    · rw [hRun] at hPost
      have hSent₁ := congrArg (fun o => o.2.2.2.2) hPost.1
      exact ready_of_unsent hPost.2.1 (hSent₁.trans hUnsent)
    · rw [hRun] at hPost hUp
      have hSent₁ := congrArg (fun o => o.2.2.2.2) hPost.1
      cases up with
      | true => exact absurd rfl hUp
      | false =>
          exact ready_of_unsent hPost.2.1
            (hSent₁.trans hUnsent)

/- Every call keeps an adapter ready. -/
theorem ready_call
    {c : AdapterCall}
    (hReady : s.Ready)
    (hSends : s.SendsOnceReady api c) :
    (s.call api up c).Ready := by
  cases c with
  | dataIn portNum buffer context =>
      exact ready_dataIn hReady hSends
  | dataReturnIn buffer context =>
      exact hReady.of_standing
        (silent_dataReturnIn api up buffer context s)
  | run => exact ready_run hReady
  | otherWrites memory =>
      exact hReady.of_standing
        (silent_otherWrites api up memory s)

end AdapterState

end LoRaRadio

------------------------------------------------------------
-- Runs
------------------------------------------------------------

namespace LoRaRadio

open Faulting LoRaRadioAdapter Runs

variable {ν π : Type}

/-
  If no send returns false once the initial status has been
  sent, a run that finds the node up leaves no FAILURE
  without a later SUCCESS, and the last status is a SUCCESS.
-/
theorem failure_recovers
    (api : NodeApi ν)
    (up : Uplink π)
    (s : AdapterState ν π)
    (calls : List AdapterCall)
    (hFresh : s.Fresh)
    (hSends :
      Along (AdapterState.call api up)
        (AdapterState.SendsOnceReady api) s calls) :
    let s' := run (AdapterState.call api up) s calls
    let s'' := s'.call api up .run
    (exec (ensureNodeStarted api) s').1 = .ok true →
      Recovered (statuses s''.calls) ∧
        (statuses s''.calls).getLast? = some .success := by
  intro s' s'' hUp
  have hReady : s'.Ready :=
    run_invariant_along
      (fun _ _ hReady hSend =>
        AdapterState.ready_call hReady hSend)
      hFresh.ready hSends
  rcases AdapterState.ready_run_of_up up hReady hUp
    with ⟨hReady', hSent⟩
  have hLast := (hReady'.2 hSent).2
  exact ⟨recovered_of_getLast? hLast, hLast⟩

/- The call hands the adapter a frame. -/
def AdapterCall.IsFrame : AdapterCall → Prop
| .dataIn _ _ _ => True
| _ => False

/-
  Once the initial status has been sent, only frames are
  answered: no other call emits a status.
-/
theorem standing_run_of_noFrame
    (api : NodeApi ν)
    (up : Uplink π)
    (s : AdapterState ν π)
    (calls : List AdapterCall)
    (hStarted : s.adapter.started = true)
    (hSound : s.Sound)
    (hSent : s.adapter.initialStatusSent = true)
    (hNoFrame : ∀ c ∈ calls, ¬ c.IsFrame) :
    (run (AdapterState.call api up) s calls).standing =
      s.standing := by
  have hStep :
      ∀ s' : AdapterState ν π, s'.standing = s.standing →
        ∀ c : AdapterCall, ¬ c.IsFrame →
          (s'.call api up c).standing = s.standing := by
    intro s' hSame c hNot
    have hFlags := congrArg Prod.fst hSame
    change (_, _, _) = (_, _, _) at hFlags
    simp only [Prod.mk.injEq] at hFlags
    rcases hFlags with ⟨hNode', hStarted', hSent'⟩
    have hSound' : s'.Sound := by
      unfold AdapterState.Sound at *
      rwa [hNode', hStarted']
    cases c with
    | dataIn portNum buffer context => exact absurd trivial hNot
    | dataReturnIn buffer context =>
        exact (AdapterState.silent_dataReturnIn api up buffer
          context s').trans hSame
    | otherWrites memory =>
        exact (AdapterState.silent_otherWrites api up memory
          s').trans hSame
    | run =>
        have hAnnounced : s'.announced = s' := by
          unfold AdapterState.announced
          rw [if_pos (hSent'.trans hSent)]
        have hRest := silent_serviceRadio api up s'.announced
        unfold AdapterState.call handler
        rw [exec_runHandler hSound',
          exec_ensureNodeStarted_of_started
            (hStarted'.trans hStarted)]
        rw [hAnnounced] at hRest
        exact (congrArg (fun t => (exec
          (serviceRadio api up) t).2.standing)
            hAnnounced).trans (hRest.trans hSame)
  have hAll :
      ∀ (calls : List AdapterCall) (s' : AdapterState ν π),
        s'.standing = s.standing →
        (∀ c ∈ calls, ¬ c.IsFrame) →
          (run (AdapterState.call api up) s' calls).standing =
            s.standing := by
    intro calls
    induction calls with
    | nil => exact fun s' hSame _ => hSame
    | cons c calls ih =>
        intro s' hSame hNone
        rw [run_cons]
        exact ih _
          (hStep s' hSame c (hNone c List.mem_cons_self))
          fun c' hMem => hNone c' (List.mem_cons_of_mem c hMem)
  exact hAll calls s rfl hNoFrame

end LoRaRadio

------------------------------------------------------------
-- A Frame the Radio Cannot Send
------------------------------------------------------------

namespace LoRaRadio

open Faulting LoRaRadioAdapter Runs

/- A file that gives the radios four different lines. -/
def pinsYaml : Text :=
  ("radios:\n  rx:\n    pins:\n      reset: 22\n" ++
    "      busy: 23\n  tx:\n    pins:\n      reset: 5\n" ++
    "      busy: 6\n").toList

/- An adapter whose node comes up. -/
def readyAdapter : AdapterState NodeState Unit where
  node := { node := { config := {} } }
  uplink := ()
  yaml := fun _ => some pinsYaml

/- An uplink without buffers. -/
def noUplink : Uplink Unit where
  allocate _ := return {}
  deallocate _ := return
  dataOut buffer _ context := return [(buffer, context)]

/- A frame one byte longer than a packet can be. -/
def longFrame : AdapterCall :=
  .dataIn 0 { data := 1, size := 256 } {}

/- The node comes up, and the frame that follows is sent. -/
theorem failure_recovers_shortFrame :
    Recovered
      (statuses
        ((run (AdapterState.call loraNodeApi noUplink)
          readyAdapter
          [.dataIn 0 { data := 1, size := 3 } {}]).call
            loraNodeApi noUplink .run).calls) :=
  (failure_recovers loraNodeApi noUplink readyAdapter
    [.dataIn 0 { data := 1, size := 3 } {}] ⟨rfl, rfl⟩
    ⟨nofun, trivial⟩ (by decide +kernel)).1

/-
  The frame is answered with FAILURE, and however often the
  adapter runs from then on, with the node up all the time,
  no SUCCESS follows.
-/
theorem longFrame_notRecovered :
    let answered :=
      run (AdapterState.call loraNodeApi noUplink)
        readyAdapter [.run, longFrame]
    statuses answered.calls = [.success, .failure] ∧
    ∀ n,
      let s :=
        run (AdapterState.call loraNodeApi noUplink)
          answered (List.replicate n .run)
      (exec (ensureNodeStarted loraNodeApi) s).1 =
          .ok true ∧
        ¬ Recovered (statuses s.calls) := by
  intro answered
  have hStanding :
      answered.standing =
        ((true, true, true), [.success, .failure]) := by
    decide +kernel
  clear_value answered
  refine ⟨congrArg Prod.snd hStanding, ?_⟩
  intro n s'
  have hSame : s'.standing = answered.standing := by
    apply standing_run_of_noFrame
    · exact congrArg (fun o => o.1.2.1) hStanding
    · exact fun _ => congrArg (fun o => o.1.1) hStanding
    · exact congrArg (fun o => o.1.2.2) hStanding
    · intro c hMem
      rw [List.eq_of_mem_replicate hMem]
      exact id
  rw [hStanding] at hSame
  have hStarted : s'.adapter.started = true :=
    congrArg (fun o => o.1.2.1) hSame
  have hStatuses :
      statuses s'.calls = [.success, .failure] :=
    congrArg Prod.snd hSame
  rw [exec_ensureNodeStarted_of_started hStarted, hStatuses]
  refine ⟨rfl, fun hRecovered => ?_⟩
  have hMem := hRecovered [.success] [] rfl
  cases hMem

end LoRaRadio
