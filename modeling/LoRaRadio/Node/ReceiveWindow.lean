import LoRaRadio.Node.Listening
import LoRaRadio.Node.Releases

/-
  How long a started node receives.

  `start` issues the only `SET_RX`.  With the continuous
  count the chip receives until it is told otherwise; with
  any other count the first packet or timeout closes the
  window, and nothing the node does opens it again.

  Main declarations:
    * `Device.Closes`
    * `WindowKept`
    * `receives_iff`
-/

------------------------------------------------------------
-- Events That Close a Window
------------------------------------------------------------

namespace LoRaRadio

open Faulting

/- The event ends a reception that is not continuous. -/
def ChipEvent.Closes : ChipEvent → Prop
| .timeout => True
| .reception _ payload _ _ => payload.length ≤ 255
| .txDone | .raise _ => False

/-
  A window with the given count is closed by what the chip
  met between two hardware calls.
-/
def Device.Closes
    (d : Device)
    (count : UInt16)
    (first last : Nat) : Prop :=
  count ≠ 0xFFFF ∧
    ∃ k, first ≤ k ∧ k < last ∧
      ∃ event ∈ (d.hal k).chip, event.Closes

namespace Chip

variable (c : Chip)
variable {count : UInt16}

theorem react_rx
    (event : ChipEvent)
    (hMode : c.mode = .rx count) :
    (count ≠ 0xFFFF ∧ event.Closes →
        (c.react event).mode = .standby) ∧
      (¬ (count ≠ 0xFFFF ∧ event.Closes) →
        (c.react event).mode = .rx count) := by
  unfold react ChipEvent.Closes
  cases event with
  | txDone => simp [hMode]
  | timeout =>
      by_cases hCount : count = 0xFFFF
      · simp [hMode, hCount]
      · simp [hMode, hCount, raise]
  | reception start payload rssi snr =>
      by_cases hLength : payload.length ≤ 255
      · by_cases hCount : count = 0xFFFF
        · simp [hMode, hLength, hCount, raise]
        · simp [hMode, hLength, hCount, raise]
      · simp [hMode, hLength]
  | raise bits => simp [hMode]

theorem not_inRx_standby
    (hMode : c.mode = .standby) :
    ¬ c.InRx := by
  intro hRx
  rcases hRx with ⟨count, hEq⟩
  rw [hMode] at hEq
  cases hEq

/- A window over a list of events. -/
theorem reacts_rx
    (events : List ChipEvent)
    (hMode : c.mode = .rx count) :
    ((count ≠ 0xFFFF ∧ ∃ event ∈ events, event.Closes) →
        ¬ (c.reacts events).InRx) ∧
      (¬ (count ≠ 0xFFFF ∧ ∃ event ∈ events, event.Closes) →
        (c.reacts events).mode = .rx count) := by
  induction events generalizing c with
  | nil => simpa using hMode
  | cons event events ih =>
      rw [reacts_cons]
      rcases react_rx c event hMode with ⟨hEnds, hStays⟩
      by_cases hHead : count ≠ 0xFFFF ∧ event.Closes
      · have hStandby := hEnds hHead
        have hClosed :=
          (reacts_of_not_inRx _ events
            (not_inRx_standby _ hStandby)).1
        refine ⟨fun _ => hClosed, fun hOpen => ?_⟩
        exact absurd ⟨hHead.1, event, by simp, hHead.2⟩ hOpen
      · rcases ih (c.react event) (hStays hHead) with
          ⟨hTailEnds, hTailStays⟩
        constructor
        · intro hSome
          rcases hSome with ⟨hCount, other, hMem, hCloses⟩
          apply hTailEnds
          rcases List.mem_cons.mp hMem with hEq | hTail
          · rw [hEq] at hCloses
            exact absurd ⟨hCount, hCloses⟩ hHead
          · exact ⟨hCount, other, hTail, hCloses⟩
        · intro hNone
          apply hTailStays
          intro hSome
          rcases hSome with ⟨hCount, other, hMem, hCloses⟩
          exact hNone
            ⟨hCount, other, List.mem_cons_of_mem _ hMem,
              hCloses⟩

end Chip

end LoRaRadio

------------------------------------------------------------
-- Methods That Leave the Window Alone
------------------------------------------------------------

namespace LoRaRadio

open Faulting

/-
  A chip that receives with the given count goes on doing so
  until something closes its window; one that does not
  receive does not begin to.
-/
structure WindowKept
    (count : UInt16)
    (d d' : Device) : Prop where
  later : d.Later d'
  closed : ¬ d.chip.InRx → ¬ d'.chip.InRx
  opened :
    d.chip.mode = .rx count →
      (d.Closes count d.clock d'.clock →
          ¬ d'.chip.InRx) ∧
        (¬ d.Closes count d.clock d'.clock →
          d'.chip.mode = .rx count)

variable {count : UInt16}

theorem Device.closes_congr
    {d d' : Device}
    {first last : Nat}
    (hHal : d'.hal = d.hal) :
    d'.Closes count first last ↔
      d.Closes count first last := by
  unfold Device.Closes
  rw [hHal]

/- A window is closed early or late. -/
theorem Device.closes_split
    {d : Device}
    {first middle last : Nat}
    (hFirst : first ≤ middle)
    (hLast : middle ≤ last) :
    d.Closes count first last ↔
      d.Closes count first middle ∨
        d.Closes count middle last := by
  unfold Device.Closes
  constructor
  · intro hCloses
    rcases hCloses with ⟨hCount, k, hLow, hHigh, hEvent⟩
    by_cases hEarly : k < middle
    · exact .inl ⟨hCount, k, hLow, hEarly, hEvent⟩
    · exact .inr ⟨hCount, k, Nat.le_of_not_lt hEarly, hHigh,
        hEvent⟩
  · intro hCases
    rcases hCases with
      ⟨hCount, k, hLow, hHigh, hEvent⟩ |
        ⟨hCount, k, hLow, hHigh, hEvent⟩
    · exact ⟨hCount, k, hLow, hHigh.trans_le hLast, hEvent⟩
    · exact ⟨hCount, k, hFirst.trans hLow, hHigh, hEvent⟩

/- What makes no call and leaves the mode of the chip. -/
theorem windowKept_of_mode
    {d d' : Device}
    (hHal : d'.hal = d.hal)
    (hClock : d'.clock = d.clock)
    (hMode : d'.chip.mode = d.chip.mode) :
    WindowKept count d d' := by
  refine ⟨⟨hHal, hClock.ge⟩, fun hNot => ?_, fun hRx =>
    ⟨?_, ?_⟩⟩
  · intro hRx
    rcases hRx with ⟨count', hEq⟩
    exact hNot ⟨count', hMode.symm.trans hEq⟩
  · intro hCloses
    rcases hCloses with ⟨-, k, hLow, hHigh, -⟩
    omega
  · exact fun _ => hMode.trans hRx

theorem WindowKept.trans
    {d d' d'' : Device}
    (hFirst : WindowKept count d d')
    (hSecond : WindowKept count d' d'') :
    WindowKept count d d'' := by
  have hSplit :
      d.Closes count d.clock d''.clock ↔
        d.Closes count d.clock d'.clock ∨
          d'.Closes count d'.clock d''.clock := by
    rw [Device.closes_congr hFirst.later.1]
    exact Device.closes_split hFirst.later.2 hSecond.later.2
  refine ⟨hFirst.later.trans hSecond.later,
    hSecond.closed ∘ hFirst.closed, ?_⟩
  · intro hMode
    rcases hFirst.opened hMode with ⟨hEnds, hStays⟩
    rw [hSplit]
    constructor
    · intro hCloses
      by_cases hEarly : d.Closes count d.clock d'.clock
      · exact hSecond.closed (hEnds hEarly)
      · exact (hSecond.opened (hStays hEarly)).1
          (hCloses.resolve_left hEarly)
    · intro hOpen
      have hEarly := fun hCloses => hOpen (.inl hCloses)
      exact (hSecond.opened (hStays hEarly)).2
        fun hCloses => hOpen (.inr hCloses)

/- The same for the device of a radio. -/
def RadioWindowKept
    (count : UInt16)
    (r r' : RadioState) : Prop :=
  WindowKept count r.device r'.device

instance : EventProof (RadioWindowKept count) where
  refl _ := windowKept_of_mode rfl rfl rfl
  trans _ _ _ hFirst hSecond := hFirst.trans hSecond
  afterCall r := by
    have hOnly : ∀ k,
        r.device.clock ≤ k →
          k < r.afterCall.device.clock →
            k = r.device.clock :=
      fun k hLow hHigh =>
        Nat.le_antisymm (Nat.le_of_lt_succ hHigh) hLow
    refine ⟨⟨rfl, Nat.le_succ _⟩, fun hMode => ?_,
      fun hMode => ?_⟩
    · exact (Chip.reacts_of_not_inRx _ _ hMode).1
    · have hIff :
          r.device.Closes count r.device.clock
              r.afterCall.device.clock ↔
            count ≠ 0xFFFF ∧
              ∃ event ∈ r.nextEvent.chip, event.Closes := by
        constructor
        · intro hCloses
          rcases hCloses with ⟨hCount, k, hLow, hHigh, hEvent⟩
          rw [hOnly k hLow hHigh] at hEvent
          exact ⟨hCount, hEvent⟩
        · intro hEvent
          exact ⟨hEvent.1, r.device.clock, Nat.le_refl _,
            Nat.lt_succ_self _, hEvent.2⟩
      rw [hIff]
      exact Chip.reacts_rx r.device.chip _ hMode

/- The commands that change what the chip is doing. -/
def RadioCommands.switchesMode : RadioCommands → Bool
| .setSleep | .setStandby | .setTx | .setRx => true
| _ => false

theorem Chip.mode_command
    (c : Chip)
    {op : RadioCommands}
    (args : List UInt8)
    (hOp : op.switchesMode = false) :
    (c.command op args).mode = c.mode := by
  unfold Chip.command
  split <;> first | rfl | cases hOp

/- Any other transfer leaves the window alone. -/
theorem tolerates_window
    {e : Effect}
    (hReset : e ≠ .reset)
    (hIssue :
      ∀ op, e = .issue op → op.switchesMode = false) :
    Tolerates (RadioWindowKept count) e := by
  cases e with
  | reset => exact absurd rfl hReset
  | issue op =>
      intro r args
      refine windowKept_of_mode ?_ ?_ ?_
      · rfl
      · rfl
      apply Chip.transfer_cases r.device.chip
        (P := fun c => c.mode = r.device.chip.mode)
      · rfl
      · intro _ address values
        simp
      · intro _ offset bytes
        rfl
      · intro _
        exact Chip.mode_command _ args (hIssue op rfl)
  | _ => exact fun r _ => windowKept_of_mode rfl rfl rfl

/- Polling a radio leaves its window alone. -/
theorem Issues.keeps_window
    {α : Type}
    {m : RadioM α}
    (hIssues : Issues pollEffects α m) :
    Keeps (RadioWindowKept count) m := by
  refine hIssues.keeps fun e hMem => ?_
  refine tolerates_window ?_ ?_
  · intro hEq
    rw [hEq] at hMem
    exact absurd hMem (by decide)
  · intro op hEq
    rw [hEq] at hMem
    revert hMem
    cases op <;> decide

end LoRaRadio

------------------------------------------------------------
-- The Window of a Node
------------------------------------------------------------

namespace LoRaRadio

open Faulting

/- The same for the receiver of a node. -/
def NodeWindowKept
    (count : UInt16)
    (s s' : NodeState) : Prop :=
  WindowKept count s.rxDevice s'.rxDevice

variable {α : Type}
variable {count : UInt16}

instance : Std.Refl (NodeWindowKept count) :=
  ⟨fun _ => windowKept_of_mode rfl rfl rfl⟩

instance : IsTrans NodeState (NodeWindowKept count) :=
  ⟨fun _ _ _ hFirst hSecond => hFirst.trans hSecond⟩

theorem keepsWindow_tx
    (m : RadioM α) :
    Keeps (NodeWindowKept count) (onOwned .tx m) := by
  intro s
  have hSame :
      (exec (onOwned .tx m) s).2.rxDevice = s.rxDevice := by
    unfold onOwned
    rw [exec_mk]
    cases s.radio .tx <;> rfl
  unfold NodeWindowKept
  rw [hSame]
  exact windowKept_of_mode rfl rfl rfl

theorem keepsWindow_rx
    {m : RadioM α}
    (hIssues : Issues pollEffects α m) :
    Keeps (NodeWindowKept count) (onOwned .rx m) := by
  intro s
  unfold onOwned
  rw [exec_mk]
  cases hRx : s.radio .rx with
  | none => exact windowKept_of_mode rfl rfl rfl
  | some radio =>
      exact hIssues.keeps_window ⟨radio, s.rxDevice⟩

theorem keepsWindow_deliver
    (packet : LoRaNodeRxPacket)
    (s : NodeState) :
    NodeWindowKept count s (s.deliver packet) := by
  unfold NodeState.deliver
  cases s.node.rxCallback <;>
    exact windowKept_of_mode rfl rfl rfl

/- No `send` and no `poll` opens or closes the window. -/
theorem windowKept_operate
    (s : NodeState)
    (op : NodeOp) :
    NodeWindowKept count s (s.operate op) := by
  cases op with
  | send payload =>
      exact keeps_send (fun _ => keepsWindow_tx _) payload s
  | poll =>
      refine keeps_poll ?_ keepsWindow_deliver s
      intro α side m hIssues
      cases side with
      | rx => exact keepsWindow_rx hIssues
      | tx => exact keepsWindow_tx m

/-
  A `SetRx` that returns has started a reception with its
  count, and then one call was made.
-/
theorem setRx_window
    {timeout : TickTime}
    {r r' : RadioState}
    {u : Unit}
    (hRun : exec (setRx timeout) r = (.ok u, r')) :
    1 ≤ r'.device.clock ∧
      ∃ c : Chip,
        c.mode = .rx timeout.periodBaseCount ∧
          r'.device.chip =
            c.reacts
              (r'.device.hal (r'.device.clock - 1)).chip := by
  unfold setRx at hRun
  simp only [exec_bind_ok, exec_modify,
    Prod.mk.injEq] at hRun
  rcases hRun with
    ⟨_, r₁, -, _, r₂, -, _, r₃, -, _, r₄, -, _, r₅, hSetRx,
      -, rfl⟩
  rw [writeCommand_ok (by decide) (by decide) hSetRx]
  refine ⟨Nat.succ_le_succ (Nat.zero_le _),
    r₄.afterCall.afterCall.device.chip.command .setRx
      (tickBytes timeout), ?_, rfl⟩
  change ChipMode.rx (word (hiByte _) (loByte _)) = _
  rw [word_hiByte_loByte]

/-
  A receiver that has just come up: its window opened one
  call ago.
-/
theorem Started.window
    {s s' : NodeState}
    {rx rx' tx tx' : RadioState}
    (hStarted : Started s s' rx rx' tx tx') :
    let count :=
      (rxTimeout s.node.config.radio.timeouts).periodBaseCount
    let opened := s'.rxDevice.clock - 1
    (s'.rxDevice.Closes count opened s'.rxDevice.clock →
        ¬ s'.rxDevice.chip.InRx) ∧
      (¬ s'.rxDevice.Closes count opened
          s'.rxDevice.clock →
        s'.rxDevice.chip.mode = .rx count) := by
  intro count opened
  rcases exec_bind_ok.mp hStarted.rxStarted with
    ⟨_, r, -, hSetRx⟩
  rcases setRx_window hSetRx with ⟨hClock, c, hMode, hChip⟩
  rw [← hStarted.rxDevice] at hClock hChip
  have hIff :
      s'.rxDevice.Closes count opened s'.rxDevice.clock ↔
        count ≠ 0xFFFF ∧
          ∃ event ∈ (s'.rxDevice.hal opened).chip,
            event.Closes := by
    constructor
    · intro hCloses
      rcases hCloses with ⟨hCount, k, hLow, hHigh, hEvent⟩
      rw [show k = opened by omega] at hEvent
      exact ⟨hCount, hEvent⟩
    · intro hEvent
      exact ⟨hEvent.1, opened, Nat.le_refl _, by omega,
        hEvent.2⟩
  rw [hIff, hChip]
  exact Chip.reacts_rx c (s'.rxDevice.hal opened).chip hMode

/-
  After every run of `send` and `poll` calls a node that has
  come up receives exactly if its window is still open: it
  is continuous, or no packet and no timeout has come since
  it was opened.
-/
theorem receives_iff
    {s s' : NodeState}
    (hIdle : s.node.started = false)
    (hStart : exec start s = (.ok true, s'))
    (ops : List NodeOp) :
    let timeouts := s.node.config.radio.timeouts
    let last := Runs.run NodeState.operate s' ops
    (timeouts.continuousRx = true →
        last.rxDevice.chip.InRx) ∧
      (last.rxDevice.chip.InRx ↔
        ¬ s'.rxDevice.Closes
          (rxTimeout timeouts).periodBaseCount
          (s'.rxDevice.clock - 1) last.rxDevice.clock) := by
  intro timeouts last
  rcases start_ok_true hIdle hStart with
    ⟨rx, rx', tx, tx', hStarted⟩
  have hKept :
      NodeWindowKept (rxTimeout timeouts).periodBaseCount s'
        last :=
    Runs.run_rel
      (fun _ => Std.Refl.refl _)
      (fun _ _ _ => IsTrans.trans _ _ _)
      windowKept_operate s' ops
  rcases hStarted.window with ⟨hEnds, hStays⟩
  have hSplit :
      s'.rxDevice.Closes (rxTimeout timeouts).periodBaseCount
          (s'.rxDevice.clock - 1) last.rxDevice.clock ↔
        s'.rxDevice.Closes
            (rxTimeout timeouts).periodBaseCount
            (s'.rxDevice.clock - 1) s'.rxDevice.clock ∨
          s'.rxDevice.Closes
            (rxTimeout timeouts).periodBaseCount
            s'.rxDevice.clock last.rxDevice.clock :=
    Device.closes_split (Nat.sub_le _ 1) hKept.later.2
  have hIff :
      last.rxDevice.chip.InRx ↔
        ¬ s'.rxDevice.Closes
          (rxTimeout timeouts).periodBaseCount
          (s'.rxDevice.clock - 1) last.rxDevice.clock := by
    rw [hSplit]
    constructor
    · intro hRx hCases
      rcases hCases with hEarly | hLate
      · exact hKept.closed (hEnds hEarly) hRx
      · by_cases hEarly :
            s'.rxDevice.Closes
              (rxTimeout timeouts).periodBaseCount
              (s'.rxDevice.clock - 1) s'.rxDevice.clock
        · exact hKept.closed (hEnds hEarly) hRx
        · exact (hKept.opened (hStays hEarly)).1 hLate hRx
    · intro hOpen
      have hEarly := fun hCloses => hOpen (.inl hCloses)
      exact ⟨_, (hKept.opened (hStays hEarly)).2
        fun hCloses => hOpen (.inr hCloses)⟩
  refine ⟨fun hContinuous => hIff.mpr ?_, hIff⟩
  intro hCloses
  apply hCloses.1
  unfold rxTimeout
  rw [if_pos hContinuous]

/-
  The interrupt word the next `poll` reads from the RX radio
  reports a packet or a timeout.
-/
def NodeState.FindsReception
    (s : NodeState) : Prop :=
  ∃ radio packetType w,
    s.node.rxRadio = some radio ∧
      (exec processIrqsLocked (s.viewWith .rx radio)).1 =
        .ok (packetType, w) ∧
      (Irq.has w Irq.rxDone = true ∨
        Irq.has w Irq.rxTxTimeout = true)

/-
  A node that is not set to receive continuously, and whose
  receiver meets one packet, before hardware call 61.
-/
def singleWindowNode : NodeState where
  node :=
    { config :=
        { rx := { hw := pinnedRadio 5 6 }
          tx := { hw := pinnedRadio 7 8 }
          radio :=
            { timeouts := { continuousRx := false } } } }
  rxDevice :=
    { hal := fun n =>
        { chip :=
            if n = 61 then [.reception 0 [1, 2, 3] 0 0]
            else [] } }

/- The same node once it has come up, after 61 calls. -/
def singleWindowNodeUp : NodeState :=
  (exec start singleWindowNode).2

theorem start_singleWindowNode :
    exec start singleWindowNode =
      (.ok true, singleWindowNodeUp) :=
  Prod.ext (by decide +kernel) rfl

theorem singleWindowNodeUp_hal :
    singleWindowNodeUp.rxDevice.hal =
      singleWindowNode.rxDevice.hal := by
  rcases start_ok_true (by rfl) start_singleWindowNode with
    ⟨rx, rx', tx, tx', hStarted⟩
  exact hStarted.hal.1

/-
  A send leaves the window of the node open; the packet
  comes with the poll after it.
-/
def sendAndPoll : List NodeOp := [.send [1, 2, 3], .poll]

theorem receives_iff_untilPacket :
    (Runs.run NodeState.operate singleWindowNodeUp
      (sendAndPoll.take 1)).rxDevice.chip.InRx ∧
    ¬ (Runs.run NodeState.operate singleWindowNodeUp
      sendAndPoll).rxDevice.chip.InRx := by
  have hSent :
      (Runs.run NodeState.operate singleWindowNodeUp
        (sendAndPoll.take 1)).rxDevice.clock = 61 := by
    decide +kernel
  have hPolled :
      61 < (Runs.run NodeState.operate singleWindowNodeUp
        sendAndPoll).rxDevice.clock := by
    decide +kernel
  have hUp : singleWindowNodeUp.rxDevice.clock = 61 := by
    decide +kernel
  have hReceives :=
    receives_iff (by rfl) start_singleWindowNode
  constructor
  · refine (hReceives (sendAndPoll.take 1)).2.mpr
      fun hCloses => ?_
    rcases hCloses with ⟨-, k, -, hHigh, event, hMem, -⟩
    rw [hSent] at hHigh
    rw [singleWindowNodeUp_hal] at hMem
    change event ∈ (if k = 61 then _ else []) at hMem
    rw [if_neg (Nat.ne_of_lt hHigh)] at hMem
    cases hMem
  · intro hRx
    refine (hReceives sendAndPoll).2.mp hRx
      ⟨by decide, 61, ?_, hPolled, ?_⟩
    · rw [hUp]
      exact Nat.sub_le _ 1
    · rw [singleWindowNodeUp_hal]
      have hCloses :
          (ChipEvent.reception 0 [1, 2, 3] 0 0).Closes := by
        unfold ChipEvent.Closes
        decide
      exact ⟨_, List.mem_singleton_self _, hCloses⟩

/-
  The node comes up, its first poll finds the packet, and
  when that poll has returned the node no longer receives.
-/
theorem singleWindow_deaf :
    exec start singleWindowNode =
        (.ok true, singleWindowNodeUp) ∧
      singleWindowNodeUp.FindsReception ∧
      (exec poll singleWindowNodeUp).1 = .ok () ∧
      ¬ (singleWindowNodeUp.operate
        .poll).rxDevice.chip.InRx := by
  refine ⟨start_singleWindowNode,
    ⟨singleWindowNodeUp.node.rxRadio.getD {}, .lora,
      Irq.rxDone, ?_, ?_, .inl ?_⟩, ?_, ?_⟩
  · decide +kernel
  · decide +kernel
  · decide
  · decide +kernel
  · apply Chip.not_inRx_standby
    decide +kernel

end LoRaRadio
