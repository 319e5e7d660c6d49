import LoRaRadio.Library.Runs
import LoRaRadio.Node.Start

/-
  What failed bring-ups leave behind, over every sequence of
  starts and stops.

  The constructor of a radio releases nothing when it
  throws.  So a failed `start` gives everything back as long
  as no constructor fails after it has opened its device,
  and only then.

  Main declarations:
    * `ReleasesOnThrow`
    * `NodeState.accounts_call`
    * `bringUp_releases`
-/

------------------------------------------------------------
-- The Constructor
------------------------------------------------------------

namespace LoRaRadio

open Faulting

/-
  If the constructor throws, the process holds what it held
  before.
-/
def ReleasesOnThrow
    (config : LinuxSx1280RadioConfig)
    (k : Kernel)
    (d : Device) : Prop :=
  ∀ e s',
    exec (construct config) ⟨k, { config }, d⟩ =
        (.error e, s') →
      s'.kernel.held = k.held

theorem releasesOnThrow_iff_noLateFailure
    (config : LinuxSx1280RadioConfig)
    (k : Kernel)
    (d : Device) :
    ReleasesOnThrow config k d ↔
      config.NoLateFailure k d := by
  have hConstruct := post_construct config k d
  unfold ReleasesOnThrow Post at *
  rcases hRun : exec (construct config) ⟨k, { config }, d⟩
    with ⟨e | a, s'⟩
  · simp only [hRun] at hConstruct
    constructor
    · intro hReleases hValid hNext
      rw [if_pos ⟨hValid, hNext⟩] at hConstruct
      have hSame := hReleases e s' rfl
      exact absurd hSame (ne_of_gt hConstruct.2)
    · rintro hLate e' s'' hThrow
      cases hThrow
      by_cases hOpen : config.Valid ∧ k.nextFails = false
      · rw [if_pos hOpen] at hConstruct
        exact absurd (hLate hOpen.1 hOpen.2) hConstruct.1
      · rw [if_neg hOpen] at hConstruct
        exact hConstruct
  · simp only [hRun] at hConstruct
    constructor
    · exact fun _ _ _ => hConstruct.2.2.1
    · intro _ e' s'' hThrow
      cases hThrow

end LoRaRadio

------------------------------------------------------------
-- Hardware That Works
------------------------------------------------------------

namespace LoRaRadio

open Faulting

theorem LinuxSx1280RadioConfig.GoesThrough.of_goes
    {config : LinuxSx1280RadioConfig}
    {k : Kernel}
    {d : Device}
    (hValid : config.Valid)
    (hGoes :
      k.Goes (1 + config.laterCalls)
        ↑config.built.handles)
    (hWorks : d.Works) :
    config.GoesThrough k d := by
  rw [handles_built, Kernel.goes_add] at hGoes
  refine ⟨hValid, hGoes.1.1 0 Nat.one_pos, hGoes.2, ?_⟩
  intro _
  rw [Device.quiet_one]
  exact hWorks _ (Nat.le_refl _)

/-
  The hardware works from now on for a process that holds
  `held`: no call fails, both configurations are valid, and
  no line is named twice or held already.
-/
def NodeState.HardwareWorks
    (held : Multiset Handle)
    (s : NodeState) : Prop :=
  let rx := s.node.config.rx.hw
  let tx := s.node.config.tx.hw
  (rx.Valid ∧ tx.Valid) ∧
    Kernel.Grantable
      (↑rx.built.handles + ↑tx.built.handles) held ∧
    (∀ k, s.kernel.clock ≤ k → s.kernel.fails k = false) ∧
    s.rxDevice.Works ∧ s.txDevice.Works

theorem NodeState.HardwareWorks.comesUp
    {s : NodeState}
    (hWorks : s.HardwareWorks s.kernel.held) :
    s.ComesUp := by
  rcases hWorks with
    ⟨⟨hRx, hTx⟩, hGrantable, hCalls, hWorksRx, hWorksTx⟩
  have hGoes :
      ∀ {n got}, Kernel.Grantable got s.kernel.held →
        s.kernel.Goes n got :=
    fun hGrant => ⟨fun _ _ => hCalls _ (by omega), hGrant⟩
  have hBoth := (Kernel.goes_add s.kernel
    (1 + s.node.config.rx.hw.laterCalls)
    (1 + s.node.config.tx.hw.laterCalls) _ _).mp
      (hGoes hGrantable)
  exact
    ⟨.of_goes hRx hBoth.1 hWorksRx,
      .of_goes hTx hBoth.2 hWorksTx,
      hWorksRx, hWorksTx⟩

end LoRaRadio

------------------------------------------------------------
-- Runs of Starts and Stops
------------------------------------------------------------

namespace LoRaRadio

open Faulting

inductive NodeCall
  | start
  | stop
deriving DecidableEq, Repr

namespace NodeState

/- The node after a call of `start` or `stop`. -/
def call
    (s : NodeState) : NodeCall → NodeState
| .start => (exec LoRaRadio.start s).2
| .stop => (exec LoRaRadio.stop s).2

/- A call that makes radios has no late failure. -/
def NoneFailsLate
    (s : NodeState) : NodeCall → Prop
| .start => s.node.started = false → s.NoLateFailure
| .stop => True

theorem accounts_released
    {base : Multiset Handle}
    {s : NodeState}
    (hAccounts : s.Accounts base) :
    s.released.Accounts base := by
  have hIdle : s.released.Idle := by
    unfold Idle
    rw [node_released]
    exact ⟨rfl, rfl, rfl⟩
  have hBase := hIdle.accounts
  rwa [held_released hAccounts.1] at hBase

/- One call keeps the accounts. -/
theorem accounts_call
    {base : Multiset Handle}
    {s : NodeState}
    {c : NodeCall}
    (hAccounts : s.Accounts base)
    (hLate : s.NoneFailsLate c) :
    (s.call c).Accounts base := by
  cases c with
  | stop => exact accounts_released hAccounts
  | start =>
      unfold call
      by_cases hStarted : s.node.started = true
      · rw [exec_start_of_started hStarted]
        exact hAccounts
      · rw [Bool.not_eq_true] at hStarted
        have hIdle := hAccounts.2 hStarted
        have hHeld : s.kernel.held = base := by
          rw [hAccounts.1, hIdle.owned_eq, hIdle.owned_eq,
            zero_add, zero_add]
        have hPost := post_start hIdle
        unfold Post at hPost
        rcases hRun : exec LoRaRadio.start s with
          ⟨e | up, s'⟩
        · rw [hRun] at hPost
          exact hPost.elim
        · rw [hRun] at hPost
          cases up with
          | true => exact hHeld ▸ hPost.1
          | false =>
              rcases hPost with ⟨-, hSame, hNode⟩
              have hIdle' : s'.Idle := by
                unfold Idle
                rwa [hNode]
              have hAccounts' := hIdle'.accounts
              rwa [hSame (hLate hStarted), hHeld]
                at hAccounts'

/- A node whose hardware works comes up. -/
theorem start_ok
    {s : NodeState}
    (hIdle : s.Idle)
    (hUp : s.ComesUp) :
    (exec LoRaRadio.start s).1 = .ok true := by
  have hPost := post_start hIdle
  unfold Post at hPost
  rcases hRun : exec LoRaRadio.start s with ⟨e | up, s'⟩
  · rw [hRun] at hPost
    exact hPost.elim
  · rw [hRun] at hPost
    cases up with
    | true => rfl
    | false => exact absurd hUp hPost.1

end NodeState

/-
  The constructor gives everything back on a throw exactly
  when nothing fails after the device has been opened.  In
  every run of starts and stops in which that is so, a node
  that is not started holds nothing, and comes up with the
  next `start` if the hardware works.
-/
theorem bringUp_releases
    (config : LinuxSx1280RadioConfig)
    (k : Kernel)
    (d : Device)
    (s : NodeState)
    (calls : List NodeCall) :
    (ReleasesOnThrow config k d ↔
      config.NoLateFailure k d) ∧
    (s.Idle →
      Runs.Along NodeState.call NodeState.NoneFailsLate s
        calls →
      let s' := Runs.run NodeState.call s calls
      s'.node.started = false →
        s'.kernel.held = s.kernel.held ∧
        (s'.HardwareWorks s.kernel.held →
          (exec start s').1 = .ok true)) := by
  refine ⟨releasesOnThrow_iff_noLateFailure config k d, ?_⟩
  intro hIdle hAlong s' hStopped
  have hAccounts : s'.Accounts s.kernel.held :=
    Runs.run_invariant_along
      (fun _ _ => NodeState.accounts_call)
      hIdle.accounts hAlong
  have hIdle' := hAccounts.2 hStopped
  have hHeld : s'.kernel.held = s.kernel.held := by
    rw [hAccounts.1, hIdle'.owned_eq, hIdle'.owned_eq,
      zero_add, zero_add]
  refine ⟨hHeld, fun hWorks => ?_⟩
  rw [← hHeld] at hWorks
  exact NodeState.start_ok hIdle' hWorks.comesUp

end LoRaRadio

------------------------------------------------------------
-- A Line That Is Never Given Back
------------------------------------------------------------

namespace LoRaRadio

open Faulting

def pinnedRadio
    (reset busy : UInt32) : LinuxSx1280RadioConfig :=
  { pins := { resetLine := reset, busyLine := busy } }

/- A node whose radios use four different lines. -/
def pinnedNode
    (fails : Nat → Bool) : NodeState where
  node :=
    { config :=
        { rx := { hw := pinnedRadio 5 6 }
          tx := { hw := pinnedRadio 7 8 } } }
  kernel := { fails }

/- Once the first call has failed, the node comes up. -/
theorem bringUp_releases_openFails :
    (exec start
      (NodeState.call (pinnedNode (· == 0)) .start)).1 =
        .ok true := by
  have hLate :
      (pinnedNode (· == 0)).NoneFailsLate .start := by
    intro _
    refine ⟨fun _ hNext => ?_, fun hGoes => ?_⟩
    · exact absurd hNext (by decide)
    · exact absurd hGoes.2.1 (by decide)
  have hReleases :=
    (bringUp_releases (pinnedRadio 5 6) {} {}
      (pinnedNode (· == 0)) [.start]).2 ⟨rfl, rfl, rfl⟩
      ⟨hLate, trivial⟩ rfl
  refine hReleases.2
    ⟨by decide, by decide, ?_, fun _ _ => rfl,
      fun _ _ => rfl⟩
  intro k hLe
  have hPos : 1 ≤ k := hLe
  change (k == 0) = false
  simpa using Nat.pos_iff_ne_zero.mp hPos

/-
  The request of the BUSY line, call number 20, fails once.
  The constructor leaves the reset line requested, so the
  next `start` fails as well, though the hardware works.
-/
theorem busyLineFails_leaks :
    let s := pinnedNode (· == 20)
    let s' := s.call .start
    ¬ ReleasesOnThrow (pinnedRadio 5 6) s.kernel
        s.rxDevice ∧
      (exec start s).1 = .ok false ∧
      s'.kernel.held ≠ s.kernel.held ∧
      s'.HardwareWorks s.kernel.held ∧
      (exec start s').1 = .ok false := by
  intro s s'
  refine ⟨?_, by decide, by decide, ⟨by decide, by decide, ?_,
    fun _ _ => rfl, fun _ _ => rfl⟩, by decide +kernel⟩
  · rw [releasesOnThrow_iff_noLateFailure]
    intro hLate
    have hGoes := hLate (by decide) (by decide)
    exact absurd (hGoes.1.1 19 (by decide)) (by decide)
  · intro k hLe
    have hClock : s'.kernel.clock = 21 := by decide
    have hPast : k ≠ 20 := by omega
    change (k == 20) = false
    simpa using hPast

end LoRaRadio
