import LoRaRadio.Node.Listening
import LoRaRadio.Node.Releases
import LoRaRadio.Radio.Transmission

/-
  The packets a node in continuous receive hands to its
  callback, for receptions that fall anywhere between the
  hardware calls of its polls.

  A reception before hardware call `k` of the receiver is an
  event of that call.  The calls of a poll are numbered from
  its first one: `GetIrqStatus` is answered at the second,
  `ClearIrqStatus` at the fifth.

  Main declarations:
    * `receptions`, `PollSpan` and `pollSpans`
    * `Separated` and `FollowedUp`
    * `heard` and `delivered_eq_heard`
    * `received_in_order_iff`
-/

------------------------------------------------------------
-- Receptions and Polls on One Time Line
------------------------------------------------------------

namespace LoRaRadio

open Faulting

namespace ChipEvent

/- The packet of a reception. -/
def received? : ChipEvent → Option (List UInt8)
| .reception _ payload _ _ => some payload
| _ => none

/- A reception of a packet the chip can hold. -/
def IsReception
    (event : ChipEvent) : Prop :=
  ∃ start payload rssi snr,
    payload.length ≤ 255 ∧
      event = .reception start payload rssi snr

end ChipEvent

/- The packets received just before a hardware call. -/
def arrivals
    (hal : Nat → HalEvent)
    (k : Nat) : List (List UInt8) :=
  (hal k).chip.filterMap ChipEvent.received?

/- The packets received before the calls `lo` to `hi - 1`. -/
def receptions
    (hal : Nat → HalEvent)
    (lo hi : Nat) : List (List UInt8) :=
  (List.range' lo (hi - lo)).flatMap (arrivals hal)

/- Nothing but receptions happens on the chip. -/
def OnlyReceptions
    (hal : Nat → HalEvent) : Prop :=
  ∀ k, ∀ event ∈ (hal k).chip, event.IsReception

/-
  A poll: the number of its first hardware call of the
  receiver and that of the first one after it.
-/
structure PollSpan where
  start : Nat
  finish : Nat
deriving DecidableEq, Repr

namespace PollSpan

/-
  The poll, from its `GetIrqStatus` to its return, takes
  place between receptions before the calls `k₁` and `k₂`.
-/
def Between
    (p : PollSpan)
    (k₁ k₂ : Nat) : Prop :=
  k₁ ≤ p.start + 1 ∧ p.finish ≤ k₂

/-
  A reception before call `k` falls between the poll's
  `GetIrqStatus` and its `ClearIrqStatus`.
-/
def Clears
    (p : PollSpan)
    (k : Nat) : Prop :=
  p.start + 2 ≤ k ∧ k ≤ p.start + 4

instance
    (p : PollSpan)
    (k : Nat) :
    Decidable (p.Clears k) :=
  inferInstanceAs (Decidable (_ ∧ _))

end PollSpan

/- The polls of a run. -/
def pollSpans : NodeState → List NodeOp → List PollSpan
| _, [] => []
| s, .send payload :: ops =>
    pollSpans (s.operate (.send payload)) ops
| s, .poll :: ops =>
    ⟨s.rxDevice.clock, (s.operate .poll).rxDevice.clock⟩ ::
      pollSpans (s.operate .poll) ops

/- The call does not throw. -/
def NodeState.Completes
    (s : NodeState) : NodeOp → Prop
| .send payload =>
    ∃ ok, (exec (LoRaRadio.send payload) s).1 = .ok ok
| .poll => (exec LoRaRadio.poll s).1 = .ok ()

/-
  One reception at a time, and a complete poll between any
  two.
-/
def Separated
    (hal : Nat → HalEvent)
    (spans : List PollSpan)
    (lo hi : Nat) : Prop :=
  (∀ k, lo ≤ k → k < hi → (hal k).chip.length ≤ 1) ∧
    ∀ k₁ k₂, lo ≤ k₁ → k₁ < k₂ → k₂ < hi →
      (hal k₁).chip ≠ [] → (hal k₂).chip ≠ [] →
        ∃ p ∈ spans, p.Between k₁ k₂

/- A complete poll follows every reception. -/
def FollowedUp
    (hal : Nat → HalEvent)
    (spans : List PollSpan)
    (lo hi : Nat) : Prop :=
  ∀ k, lo ≤ k → k < hi → (hal k).chip ≠ [] →
    ∃ p ∈ spans, p.Between k hi

/- The payloads handed to the callback so far. -/
def NodeState.payloads
    (s : NodeState) : List (List UInt8) :=
  s.delivered.map fun packet => packet.2.payload

end LoRaRadio

------------------------------------------------------------
-- The Receptions That Are Heard
------------------------------------------------------------

namespace LoRaRadio

/-
  The packets received outside the stretches in which a poll
  has read the interrupts but not yet cleared them.
-/
def heard
    (hal : Nat → HalEvent)
    (spans : List PollSpan)
    (lo hi : Nat) : List (List UInt8) :=
  (List.range' lo (hi - lo)).flatMap fun k =>
    if ∃ p ∈ spans, p.Clears k then [] else arrivals hal k

variable {hal : Nat → HalEvent}
variable {spans : List PollSpan}
variable {lo hi : Nat}

theorem mem_calls
    {k : Nat} :
    k ∈ List.range' lo (hi - lo) ↔ lo ≤ k ∧ k < hi := by
  rw [List.mem_range'_1]
  omega

theorem heard_append
    (mid : Nat)
    (hLow : lo ≤ mid)
    (hHigh : mid ≤ hi) :
    heard hal spans lo hi =
      heard hal spans lo mid ++ heard hal spans mid hi := by
  have hSplit :
      List.range' lo (hi - lo) =
        List.range' lo (mid - lo) ++
          List.range' mid (hi - mid) := by
    have hMid : mid = lo + (mid - lo) := by omega
    have hTotal : hi - lo = (mid - lo) + (hi - mid) := by
      omega
    rw [hTotal, List.range'_append_1.symm, ← hMid]
  unfold heard
  rw [hSplit, List.flatMap_append]

theorem heard_congr
    {spans' : List PollSpan}
    (hSame :
      ∀ k, lo ≤ k → k < hi →
        ((∃ p ∈ spans, p.Clears k) ↔
          ∃ p ∈ spans', p.Clears k)) :
    heard hal spans lo hi = heard hal spans' lo hi := by
  unfold heard
  apply List.flatMap_congr
  intro k hMem
  rcases mem_calls.mp hMem with ⟨hLow, hHigh⟩
  simp only [hSame k hLow hHigh]

/-
  Leaving out the lists of some indices changes the whole
  exactly when one of them is not empty.
-/
theorem flatMap_leaveOut_eq_iff
    {α β : Type}
    (left : α → Prop)
    [DecidablePred left]
    (f : α → List β)
    (xs : List α) :
    xs.flatMap (fun a => if left a then [] else f a) =
        xs.flatMap f ↔
      ∀ a ∈ xs, left a → f a = [] := by
  have hLength : ∀ xs : List α,
      (xs.flatMap
        fun a => if left a then [] else f a).length ≤
        (xs.flatMap f).length := by
    intro xs
    induction xs with
    | nil => exact Nat.le_refl _
    | cons a xs ih =>
        simp only [List.flatMap_cons, List.length_append]
        split
        · simp only [List.length_nil]
          omega
        · omega
  induction xs with
  | nil => simp
  | cons a xs ih =>
      rw [List.forall_mem_cons]
      simp only [List.flatMap_cons]
      by_cases hLeft : left a
      · simp only [hLeft, if_true, List.nil_append,
          true_imp_iff]
        constructor
        · intro hEq
          have hNil : f a = [] := by
            have hTotal := congrArg List.length hEq
            have hRest := hLength xs
            rw [List.length_append] at hTotal
            exact List.eq_nil_of_length_eq_zero (by omega)
          rw [hNil, List.nil_append] at hEq
          exact ⟨hNil, ih.mp hEq⟩
        · intro hBoth
          rw [hBoth.1, List.nil_append]
          exact ih.mpr hBoth.2
      · simp only [hLeft, if_false, false_imp_iff,
          true_and, List.append_cancel_left_eq]
        exact ih

/-
  Everything is heard just when nothing arrives while a poll
  has read the interrupts but not cleared them.
-/
theorem heard_eq_receptions_iff :
    heard hal spans lo hi = receptions hal lo hi ↔
      ∀ k, lo ≤ k → k < hi →
        (∃ p ∈ spans, p.Clears k) → arrivals hal k = [] := by
  unfold heard receptions
  rw [flatMap_leaveOut_eq_iff
    (fun k => ∃ p ∈ spans, p.Clears k)]
  constructor
  · intro hAll k hLow hHigh
    exact hAll k (mem_calls.mpr ⟨hLow, hHigh⟩)
  · intro hAll k hMem
    rcases mem_calls.mp hMem with ⟨hLow, hHigh⟩
    exact hAll k hLow hHigh

/- Nothing is heard where nothing arrives or stays. -/
theorem heard_eq_nil
    (hNone :
      ∀ k, lo ≤ k → k < hi →
        (∃ p ∈ spans, p.Clears k) ∨ (hal k).chip = []) :
    heard hal spans lo hi = [] := by
  unfold heard
  rw [List.flatMap_eq_nil_iff]
  intro k hMem
  rcases mem_calls.mp hMem with ⟨hLow, hHigh⟩
  split
  · rfl
  · next hKept =>
      rcases hNone k hLow hHigh with hCleared | hEmpty
      · exact absurd hCleared hKept
      · unfold arrivals
        rw [hEmpty]
        rfl

/- One reception that no poll clears is what is heard. -/
theorem heard_eq_single
    {k : Nat}
    {packet : List UInt8}
    (hLow : lo ≤ k)
    (hHigh : k < hi)
    (hKept : ∀ p ∈ spans, ¬ p.Clears k)
    (hArrival : arrivals hal k = [packet])
    (hOthers :
      ∀ k', lo ≤ k' → k' < hi → k' ≠ k →
        (hal k').chip = []) :
    heard hal spans lo hi = [packet] := by
  have hNever : ¬ ∃ p ∈ spans, p.Clears k := by
    intro hCleared
    rcases hCleared with ⟨p, hMem, hClears⟩
    exact hKept p hMem hClears
  have hAt : heard hal spans k (k + 1) = [packet] := by
    unfold heard
    rw [Nat.add_sub_cancel_left]
    simp [hNever, hArrival]
  rw [heard_append k hLow (Nat.le_of_lt hHigh),
    heard_append (k + 1) (Nat.le_succ k) hHigh, hAt,
    heard_eq_nil, heard_eq_nil]
  · rfl
  · intro k' hLow' hHigh'
    exact .inr (hOthers k' (by omega) hHigh' (by omega))
  · intro k' hLow' hHigh'
    exact .inr (hOthers k' hLow' (by omega) (by omega))

end LoRaRadio

------------------------------------------------------------
-- The Chip in Continuous Receive
------------------------------------------------------------

namespace LoRaRadio

namespace Chip

/- In continuous receive, with `RX_DONE` enabled. -/
def Tuned
    (c : Chip) : Prop :=
  c.mode = .rx 0xFFFF ∧
    Irq.rxDone &&& c.irqMask = Irq.rxDone

theorem Tuned.hears
    {c : Chip}
    (hTuned : c.Tuned) :
    c.Hears :=
  ⟨⟨_, hTuned.1⟩, hTuned.2⟩

theorem tuned_react
    {c : Chip}
    {event : ChipEvent}
    (hTuned : c.Tuned)
    (hEvent : event.IsReception) :
    (c.react event).Tuned := by
  rcases hEvent with
    ⟨start, payload, rssi, snr, hLength, rfl⟩
  refine ⟨?_, ?_⟩
  · unfold react
    simp only [hTuned.1, hLength, if_true]
    rfl
  · unfold irqMask
    rw [cmd_react]
    exact hTuned.2

theorem tuned_reacts
    {c : Chip}
    {events : List ChipEvent}
    (hTuned : c.Tuned)
    (hEvents : ∀ event ∈ events, event.IsReception) :
    (c.reacts events).Tuned := by
  induction events generalizing c with
  | nil => exact hTuned
  | cons event events ih =>
      rw [reacts_cons]
      apply ih
      · exact tuned_react hTuned
          (hEvents event List.mem_cons_self)
      · exact fun event' hMem =>
          hEvents event' (List.mem_cons_of_mem _ hMem)

theorem tuned_acknowledged
    {c : Chip}
    (hTuned : c.Tuned) :
    c.acknowledged.Tuned :=
  hTuned

/- Out of receive mode nothing is received. -/
theorem reacts_receptions_of_not_inRx
    {c : Chip}
    {events : List ChipEvent}
    (hMode : ¬ c.InRx)
    (hEvents : ∀ event ∈ events, event.IsReception) :
    c.reacts events = c := by
  induction events with
  | nil => rfl
  | cons event events ih =>
      rcases hEvents event List.mem_cons_self with
        ⟨start, payload, rssi, snr, -, rfl⟩
      have hDeaf :
          c.react (.reception start payload rssi snr) = c := by
        unfold react
        cases hChip : c.mode with
        | rx count => exact absurd ⟨count, hChip⟩ hMode
        | _ => rfl
      rw [reacts_cons, hDeaf]
      exact ih fun event' hMem =>
        hEvents event' (List.mem_cons_of_mem _ hMem)

end Chip

variable {hal : Nat → HalEvent}

theorem chip_ne_nil_of_arrivals
    {k : Nat}
    {packet : List UInt8}
    (hArrival : arrivals hal k = [packet]) :
    (hal k).chip ≠ [] := by
  intro hNone
  unfold arrivals at hArrival
  rw [hNone] at hArrival
  cases hArrival

theorem arrivals_eq_nil_iff
    {k : Nat}
    (hOnly : OnlyReceptions hal) :
    arrivals hal k = [] ↔ (hal k).chip = [] := by
  unfold arrivals
  constructor
  · intro hNone
    rw [List.filterMap_eq_nil_iff] at hNone
    rw [List.eq_nil_iff_forall_not_mem]
    intro event hMem
    rcases hOnly k event hMem with
      ⟨start, payload, rssi, snr, -, rfl⟩
    cases hNone _ hMem
  · intro hNone
    rw [hNone]
    rfl

/- A call with at most one reception: none, or its packet. -/
theorem arrivals_cases
    {k : Nat}
    (hOnly : OnlyReceptions hal)
    (hOne : (hal k).chip.length ≤ 1) :
    (hal k).chip = [] ∨
      ∃ start packet rssi snr,
        packet.length ≤ 255 ∧
          (hal k).chip =
            [.reception start packet rssi snr] ∧
          arrivals hal k = [packet] := by
  unfold arrivals
  have hAll := hOnly k
  rcases hEvents : (hal k).chip with _ | ⟨event, events⟩
  · exact .inl rfl
  · rw [hEvents] at hOne hAll
    have hNil : events = [] := by
      apply List.eq_nil_of_length_eq_zero
      simp only [List.length_cons] at hOne
      omega
    subst hNil
    rcases hAll event List.mem_cons_self with
      ⟨start, packet, rssi, snr, hLength, rfl⟩
    exact .inr
      ⟨start, packet, rssi, snr, hLength, rfl, rfl⟩

end LoRaRadio

------------------------------------------------------------
-- One Poll
------------------------------------------------------------

namespace LoRaRadio

open Faulting

/-
  A listening node in continuous receive, whose receiver
  meets the events `hal`.
-/
structure Receiving
    (owner : Nat)
    (hal : Nat → HalEvent)
    (s : NodeState) : Prop where
  listening : Listening owner s
  schedule : s.rxDevice.hal = hal
  continuous : s.rxDevice.chip.mode = .rx 0xFFFF

/-
  Since call `lo` nothing has arrived, and nothing is
  pending.
-/
structure AtRest
    (hal : Nat → HalEvent)
    (lo : Nat)
    (d : Device) : Prop where
  clear : d.chip.irq = 0
  started : lo ≤ d.clock
  silent :
    ∀ k, lo ≤ k → k < d.clock → (hal k).chip = []

/- The packet that came before the last call `lo` is held. -/
structure Holding
    (hal : Nat → HalEvent)
    (lo : Nat)
    (d : Device) : Prop where
  packet :
    ∃ packet,
      d.chip.Holds packet ∧ arrivals hal lo = [packet]
  last : lo + 1 = d.clock

variable {owner : Nat}
variable {hal : Nat → HalEvent}
variable {s s' : NodeState}

theorem Receiving.tuned
    (hReceiving : Receiving owner hal s) :
    s.rxDevice.chip.Tuned :=
  ⟨hReceiving.continuous, hReceiving.listening.irqMask⟩

/-
  What a poll from `lo` on does: it leaves the node
  receiving, at rest or holding a packet from the call `lo'`
  on, and has handed over what was heard before.
-/
def PollServes
    (owner : Nat)
    (hal : Nat → HalEvent)
    (lo : Nat)
    (s s' : NodeState) : Prop :=
  Receiving owner hal s' ∧
    ∃ lo', (AtRest hal lo' s'.rxDevice ∨
          Holding hal lo' s'.rxDevice) ∧
      s.rxDevice.clock + 5 ≤ lo' ∧
      lo' ≤ s'.rxDevice.clock ∧
      s'.payloads =
        s.payloads ++
          heard hal [⟨s.rxDevice.clock, s'.rxDevice.clock⟩]
            lo lo'

/-
  A packet that arrived in time for `GetIrqStatus`, and
  nothing else from call `lo` to the end of the poll.
-/
theorem poll_serves_packet
    {lo k : Nat}
    {radio : LinuxSx1280Radio}
    {packet : List UInt8}
    (hReceiving : Receiving owner hal s)
    (hRadio : s.node.rxRadio = some radio)
    (hRun : exec poll s = (.ok (), s'))
    (hHolds : (s.viewWith .rx radio).sampled.Holds packet)
    (hTuned : (s.viewWith .rx radio).sampled.Tuned)
    (hLow : lo ≤ k)
    (hHigh : k < s.rxDevice.clock + 2)
    (hArrival : arrivals hal k = [packet])
    (hAlone :
      ∀ k', lo ≤ k' → k' < s'.rxDevice.clock → k' ≠ k →
        (hal k').chip = []) :
    PollServes owner hal lo s s' := by
  have hClock :=
    clock_poll (by rw [hRadio]; rfl) hRun
  have hOperate : s' = s.operate .poll := by
    unfold NodeState.operate
    rw [hRun]
  have hListening' : Listening owner s' := by
    rw [hOperate]
    exact listening_operate s .poll hReceiving.listening
  rcases poll_delivers hReceiving.listening hRadio hRun hHolds
      (fun k' hLow' hHigh' => by
        rw [hReceiving.schedule]
        exact hAlone k' (by omega) hHigh' (by omega)) with
    ⟨⟨p, hPayload, hDelivered⟩, hChip, hHal, -⟩
  refine ⟨⟨hListening', hHal.trans hReceiving.schedule, ?_⟩,
    s'.rxDevice.clock, .inl ⟨?_, Nat.le_refl _, ?_⟩,
    by omega, Nat.le_refl _, ?_⟩
  · rw [hChip]
    exact hTuned.1
  · rw [hChip]
    exact Chip.irq_acknowledged _
  · intro k' hLow' hHigh'
    omega
  · rw [heard_eq_single hLow (by omega) ?_ hArrival hAlone]
    · unfold NodeState.payloads
      rw [hDelivered]
      simp [hPayload]
    · intro q hMem hClears
      cases List.mem_singleton.mp hMem
      have hAfter : s.rxDevice.clock + 2 ≤ k := hClears.1
      omega

/-
  Nothing had arrived when `GetIrqStatus` was answered: the
  poll delivers nothing, and clears what arrives before its
  `ClearIrqStatus`.
-/
theorem poll_serves_nothing
    {lo : Nat}
    {radio : LinuxSx1280Radio}
    (hReceiving : Receiving owner hal s)
    (hOnly : OnlyReceptions hal)
    (hRadio : s.node.rxRadio = some radio)
    (hRun : exec poll s = (.ok (), s'))
    (hClear : (s.viewWith .rx radio).sampled.irq = 0)
    (hTuned : (s.viewWith .rx radio).sampled.Tuned)
    (hLow : lo ≤ s.rxDevice.clock)
    (hSilent :
      ∀ k, lo ≤ k → k < s.rxDevice.clock + 2 →
        (hal k).chip = [])
    (hOne :
      ∀ k, lo ≤ k → k < s'.rxDevice.clock →
        (hal k).chip.length ≤ 1) :
    PollServes owner hal lo s s' := by
  have hEars :=
    (poll_ok hReceiving.listening hRadio hRun).1 hClear
  have hDevice :
      s'.rxDevice =
        (s.viewWith .rx radio).cleared.device :=
    congrArg (fun e => e.2.1) hEars
  have hDelivered : s'.delivered = s.delivered :=
    congrArg (fun e => e.2.2) hEars
  have hClock :
      s'.rxDevice.clock = s.rxDevice.clock + 6 := by
    rw [hDevice]
    rfl
  have hOperate : s' = s.operate .poll := by
    unfold NodeState.operate
    rw [hRun]
  have hListening' : Listening owner s' := by
    rw [hOperate]
    exact listening_operate s .poll hReceiving.listening
  have hSchedule' : s'.rxDevice.hal = hal := by
    rw [hDevice]
    exact hReceiving.schedule
  have hPayloads : s'.payloads = s.payloads := by
    unfold NodeState.payloads
    rw [hDelivered]
  -- Nothing is heard before the last call of the poll.
  have hUnheard : ∀ k, lo ≤ k → k < s.rxDevice.clock + 5 →
      (∃ p ∈ [(⟨s.rxDevice.clock, s'.rxDevice.clock⟩ :
          PollSpan)], p.Clears k) ∨ (hal k).chip = [] := by
    intro k hLow' hHigh'
    by_cases hEarly : k < s.rxDevice.clock + 2
    · exact .inr (hSilent k hLow' hEarly)
    · refine .inl ⟨_, List.mem_singleton_self _, ?_⟩
      change s.rxDevice.clock + 2 ≤ k ∧
        k ≤ s.rxDevice.clock + 4
      omega
  generalize hX :
    (((s.viewWith .rx radio).sampled.reacts
      (hal (s.rxDevice.clock + 2)).chip).reacts
      (hal (s.rxDevice.clock + 3)).chip).reacts
      (hal (s.rxDevice.clock + 4)).chip = c
  have hTunedX : c.Tuned := by
    rw [← hX]
    exact Chip.tuned_reacts
      (Chip.tuned_reacts
        (Chip.tuned_reacts hTuned (hOnly _)) (hOnly _))
      (hOnly _)
  have hChip :
      s'.rxDevice.chip =
        c.acknowledged.reacts
          (hal (s.rxDevice.clock + 5)).chip := by
    rw [hDevice, RadioState.chip_cleared, ← hX,
      ← hReceiving.schedule]
    rfl
  have hTunedA := Chip.tuned_acknowledged hTunedX
  rcases arrivals_cases hOnly
      (hOne (s.rxDevice.clock + 5) (by omega) (by omega))
    with hNone | ⟨start, packet, rssi, snr, hLength, hEvent,
      hArrival⟩
  · rw [hNone, Chip.reacts_nil] at hChip
    refine ⟨⟨hListening', hSchedule', ?_⟩,
      s'.rxDevice.clock, .inl ⟨?_, Nat.le_refl _, ?_⟩,
      by omega, Nat.le_refl _, ?_⟩
    · rw [hChip]
      exact hTunedA.1
    · rw [hChip]
      exact Chip.irq_acknowledged c
    · intro k hLow' hHigh'
      omega
    · rw [heard_eq_nil, List.append_nil, hPayloads]
      intro k hLow' hHigh'
      by_cases hLast : k = s.rxDevice.clock + 5
      · exact .inr (hLast ▸ hNone)
      · exact hUnheard k hLow' (by omega)
  · have hReact :
        s'.rxDevice.chip =
          c.acknowledged.react
            (.reception start packet rssi snr) := by
      rw [hChip, hEvent]
      rfl
    refine ⟨⟨hListening', hSchedule', ?_⟩,
      s.rxDevice.clock + 5,
      .inr ⟨⟨packet, ?_, hArrival⟩, hClock.symm⟩,
      Nat.le_refl _, by omega, ?_⟩
    · rw [hReact]
      exact (Chip.tuned_react hTunedA
        ⟨start, packet, rssi, snr, hLength, rfl⟩).1
    · rw [hReact]
      exact Chip.holds_reception hTunedA.hears
        (Chip.irq_acknowledged c) hLength
    · rw [heard_eq_nil, List.append_nil, hPayloads]
      exact fun k hLow' hHigh' => hUnheard k hLow' hHigh'

/-
  One poll.  Of the calls from `lo` to its end at most one
  meets a reception.
-/
theorem poll_serves
    {lo : Nat}
    (hReceiving : Receiving owner hal s)
    (hOnly : OnlyReceptions hal)
    (hPhase :
      AtRest hal lo s.rxDevice ∨
        Holding hal lo s.rxDevice)
    (hRun : exec poll s = (.ok (), s'))
    (hOne :
      ∀ k, lo ≤ k → k < s'.rxDevice.clock →
        (hal k).chip.length ≤ 1)
    (hAlone :
      ∀ k₁ k₂, lo ≤ k₁ → k₁ < k₂ →
        k₂ < s'.rxDevice.clock → (hal k₁).chip ≠ [] →
          (hal k₂).chip = []) :
    PollServes owner hal lo s s' := by
  rcases hReceiving.listening.radio with ⟨radio, hRadio, -⟩
  have hClock := clock_poll (by rw [hRadio]; rfl) hRun
  have hSampled :
      (s.viewWith .rx radio).sampled =
        (s.rxDevice.chip.reacts
          (hal s.rxDevice.clock).chip).reacts
            (hal (s.rxDevice.clock + 1)).chip := by
    rw [← hReceiving.schedule]
    rfl
  have hTuned : (s.viewWith .rx radio).sampled.Tuned := by
    rw [hSampled]
    exact Chip.tuned_reacts
      (Chip.tuned_reacts hReceiving.tuned (hOnly _))
      (hOnly _)
  -- A packet arrived at call `k`; nothing else has.
  have hServe : ∀ {k packet}, lo ≤ k →
      k < s.rxDevice.clock + 2 → arrivals hal k = [packet] →
      (∀ k', lo ≤ k' → k' < k → (hal k').chip = []) →
      (s.viewWith .rx radio).sampled.Holds packet →
      PollServes owner hal lo s s' := by
    intro k packet hLow hHigh hArrival hBefore hHolds
    have hHere := chip_ne_nil_of_arrivals hArrival
    refine poll_serves_packet hReceiving hRadio hRun hHolds
      hTuned hLow hHigh hArrival fun k' hLow' hHigh' hNe => ?_
    rcases Nat.lt_or_gt_of_ne hNe with hLt | hGt
    · exact hBefore k' hLow' hLt
    · exact hAlone k k' hLow hGt hHigh' hHere
  rcases hPhase with hRest | hHolding
  · have hStarted := hRest.started
    rcases arrivals_cases hOnly
        (hOne s.rxDevice.clock hStarted (by omega)) with
      hNone | ⟨start, packet, rssi, snr, hLength, hEvent,
        hArrival⟩
    · rcases arrivals_cases hOnly
          (hOne (s.rxDevice.clock + 1) (by omega) (by omega))
        with hNone' | ⟨start, packet, rssi, snr, hLength,
          hEvent, hArrival⟩
      · rw [hNone, hNone'] at hSampled
        have hSilent : ∀ k, lo ≤ k →
            k < s.rxDevice.clock + 2 →
            (hal k).chip = [] := by
          intro k hLow hHigh
          rcases Nat.lt_trichotomy k s.rxDevice.clock with
            hLt | hEq | hGt
          · exact hRest.silent k hLow hLt
          · rw [hEq]
            exact hNone
          · rw [show k = s.rxDevice.clock + 1 by omega]
            exact hNone'
        refine poll_serves_nothing hReceiving hOnly hRadio
          hRun ?_ hTuned hStarted hSilent hOne
        rw [hSampled]
        exact hRest.clear
      · refine hServe (by omega) (by omega) hArrival
          (fun k hLow hLt => ?_) ?_
        · rcases Nat.lt_or_ge k s.rxDevice.clock with
            hOld | hNew
          · exact hRest.silent k hLow hOld
          · rw [show k = s.rxDevice.clock by omega]
            exact hNone
        · rw [hSampled, hNone, hEvent]
          exact Chip.holds_reception hReceiving.tuned.hears
            hRest.clear hLength
    · have hAfter :
          (hal (s.rxDevice.clock + 1)).chip = [] :=
        hAlone _ _ hStarted (Nat.lt_succ_self _) (by omega)
          (by rw [hEvent]; exact List.cons_ne_nil _ _)
      refine hServe hStarted (by omega) hArrival
        hRest.silent ?_
      rw [hSampled, hEvent, hAfter]
      exact Chip.holds_reception hReceiving.tuned.hears
        hRest.clear hLength
  · rcases hHolding.packet with ⟨packet, hHolds, hArrival⟩
    have hLast := hHolding.last
    have hHere := chip_ne_nil_of_arrivals hArrival
    have hNone : (hal s.rxDevice.clock).chip = [] :=
      hAlone lo _ (Nat.le_refl _) (by omega) (by omega) hHere
    have hNone' : (hal (s.rxDevice.clock + 1)).chip = [] :=
      hAlone lo _ (Nat.le_refl _) (by omega) (by omega) hHere
    refine hServe (Nat.le_refl _) (by omega) hArrival
      (fun k hLow hLt => absurd hLow (by omega)) ?_
    rw [hSampled, hNone, hNone']
    exact hHolds

end LoRaRadio

------------------------------------------------------------
-- Runs
------------------------------------------------------------

namespace LoRaRadio

open Faulting Runs

variable {owner : Nat}
variable {hal : Nat → HalEvent}

/- A poll that completes returns. -/
theorem exec_poll_of_completes
    {s : NodeState}
    (hCompletes : s.Completes .poll) :
    exec poll s = (.ok (), s.operate .poll) :=
  Prod.ext hCompletes rfl

/- Hardware calls are counted up along a run. -/
theorem rxClock_run
    (s : NodeState)
    (ops : List NodeOp) :
    RxClockGrows s (run NodeState.operate s ops) := by
  refine run_rel (R := RxClockGrows)
    (fun s => Nat.le_refl s.rxDevice.clock)
    (fun _ _ _ => Nat.le_trans) (fun s op => ?_) s ops
  cases op with
  | send payload =>
      exact keeps_send (fun hIssues =>
        keeps_rxClock .tx hIssues) payload s
  | poll =>
      exact keeps_poll (fun side _ hIssues =>
        keeps_rxClock side hIssues) rxClock_deliver s

/- The polls of a run follow one another. -/
theorem mem_pollSpans
    {s : NodeState}
    {ops : List NodeOp}
    {p : PollSpan}
    (hListening : Listening owner s)
    (hAlong :
      Along NodeState.operate NodeState.Completes s ops)
    (hMem : p ∈ pollSpans s ops) :
    s.rxDevice.clock ≤ p.start ∧
      p.start + 6 ≤ p.finish ∧
      p.finish ≤
        (run NodeState.operate s ops).rxDevice.clock := by
  induction ops generalizing s with
  | nil => cases hMem
  | cons op ops ih =>
      have hStep := rxClock_run s [op]
      have hNext := listening_operate s op hListening
      cases op with
      | send payload =>
          have hRest := ih hNext hAlong.2 hMem
          exact ⟨Nat.le_trans hStep hRest.1, hRest.2⟩
      | poll =>
          rcases hListening.radio with ⟨radio, hRadio, -⟩
          have hClock :=
            clock_poll (by rw [hRadio]; rfl)
              (exec_poll_of_completes hAlong.1)
          rcases List.mem_cons.mp hMem with rfl | hLater
          · exact ⟨Nat.le_refl _, hClock, rxClock_run _ ops⟩
          · have hRest := ih hNext hAlong.2 hLater
            exact ⟨Nat.le_trans hStep hRest.1, hRest.2⟩

/-
  The first poll of a run and the polls after it hear what
  falls to them.
-/
theorem heard_cons
    {first : PollSpan}
    {rest : List PollSpan}
    {lo mid hi : Nat}
    (hLow : lo ≤ mid)
    (hHigh : mid ≤ hi)
    (hFirst : first.start + 5 ≤ mid)
    (hRest : ∀ p ∈ rest, mid ≤ p.start) :
    heard hal (first :: rest) lo hi =
      heard hal [first] lo mid ++ heard hal rest mid hi := by
  rw [heard_append mid hLow hHigh]
  congr 1
  · apply heard_congr
    intro k hLow' hHigh'
    constructor
    · intro hCleared
      rcases hCleared with ⟨p, hMem, hClears⟩
      rcases List.mem_cons.mp hMem with rfl | hLater
      · exact ⟨p, List.mem_singleton_self p, hClears⟩
      · have hAfter := hRest p hLater
        have hIn := hClears.1
        omega
    · intro hCleared
      rcases hCleared with ⟨p, hMem, hClears⟩
      cases List.mem_singleton.mp hMem
      exact ⟨_, List.mem_cons_self, hClears⟩
  · apply heard_congr
    intro k hLow' hHigh'
    constructor
    · intro hCleared
      rcases hCleared with ⟨p, hMem, hClears⟩
      rcases List.mem_cons.mp hMem with rfl | hLater
      · have hIn := hClears.2
        omega
      · exact ⟨p, hLater, hClears⟩
    · intro hCleared
      rcases hCleared with ⟨p, hMem, hClears⟩
      exact ⟨p, List.mem_cons_of_mem _ hMem, hClears⟩

theorem Separated.tail
    {first : PollSpan}
    {rest : List PollSpan}
    {lo mid hi : Nat}
    (hSeparated : Separated hal (first :: rest) lo hi)
    (hLow : lo ≤ mid)
    (hFirst : first.start + 5 ≤ mid) :
    Separated hal rest mid hi := by
  refine ⟨fun k hLow' => hSeparated.1 k (hLow.trans hLow'),
    fun k₁ k₂ hLow' hLt hHigh hHere hThere => ?_⟩
  rcases hSeparated.2 k₁ k₂ (hLow.trans hLow') hLt hHigh hHere
      hThere with ⟨p, hMem, hBetween⟩
  rcases List.mem_cons.mp hMem with rfl | hLater
  · have hEarly := hBetween.1
    omega
  · exact ⟨p, hLater, hBetween⟩

theorem FollowedUp.tail
    {first : PollSpan}
    {rest : List PollSpan}
    {lo mid hi : Nat}
    (hFollowed : FollowedUp hal (first :: rest) lo hi)
    (hLow : lo ≤ mid)
    (hFirst : first.start + 5 ≤ mid) :
    FollowedUp hal rest mid hi := by
  intro k hLow' hHigh hHere
  rcases hFollowed k (hLow.trans hLow') hHigh hHere with
    ⟨p, hMem, hBetween⟩
  rcases List.mem_cons.mp hMem with rfl | hLater
  · have hEarly := hBetween.1
    omega
  · exact ⟨p, hLater, hBetween⟩

/-
  A run hands over, in order, the packets that fall to no
  poll's clearing.
-/
theorem delivered_eq_heard
    {s : NodeState}
    {ops : List NodeOp}
    {lo : Nat}
    (hReceiving : Receiving owner hal s)
    (hOnly : OnlyReceptions hal)
    (hPhase :
      AtRest hal lo s.rxDevice ∨
        Holding hal lo s.rxDevice)
    (hAlong :
      Along NodeState.operate NodeState.Completes s ops)
    (hSeparated :
      Separated hal (pollSpans s ops) lo
        (run NodeState.operate s ops).rxDevice.clock)
    (hFollowed :
      FollowedUp hal (pollSpans s ops) lo
        (run NodeState.operate s ops).rxDevice.clock) :
    (run NodeState.operate s ops).payloads =
      s.payloads ++
        heard hal (pollSpans s ops) lo
          (run NodeState.operate s ops).rxDevice.clock := by
  induction ops generalizing s lo with
  | nil =>
      rcases hPhase with hRest | hHolding
      · rw [heard_eq_nil, List.append_nil]
        · rfl
        · exact fun k hLow hHigh =>
            .inr (hRest.silent k hLow hHigh)
      · rcases hHolding.packet with ⟨packet, -, hArrival⟩
        have hLast := hHolding.last
        rcases hFollowed lo (Nat.le_refl _)
            (by rw [run_nil]; omega)
            (chip_ne_nil_of_arrivals hArrival) with
          ⟨p, hMem, -⟩
        cases hMem
  | cons op ops ih =>
      have hNext :=
        listening_operate s op hReceiving.listening
      cases op with
      | send payload =>
          have hEars := ears_send payload hReceiving.listening
          have hDevice :
              (s.operate (.send payload)).rxDevice =
                s.rxDevice :=
            congrArg (fun e => e.2.1) hEars
          have hPayloads :
              (s.operate (.send payload)).payloads =
                s.payloads :=
            congrArg
              (fun e => e.2.2.map fun packet =>
                packet.2.payload) hEars
          rw [run_cons] at hSeparated hFollowed ⊢
          rw [← hPayloads]
          refine ih ⟨hNext, ?_, ?_⟩ ?_ hAlong.2 hSeparated
            hFollowed
          · rw [hDevice]
            exact hReceiving.schedule
          · rw [hDevice]
            exact hReceiving.continuous
          · rw [hDevice]
            exact hPhase
      | poll =>
          have hRun := exec_poll_of_completes hAlong.1
          have hLater : ∀ p ∈ pollSpans (s.operate .poll) ops,
              (s.operate .poll).rxDevice.clock ≤ p.start ∧
                p.start + 6 ≤ p.finish ∧ _ :=
            fun p hMem => mem_pollSpans hNext hAlong.2 hMem
          have hSpan :=
            mem_pollSpans hReceiving.listening hAlong
              (List.mem_cons_self)
          rcases poll_serves hReceiving hOnly hPhase hRun
              (fun k hLow hHigh =>
                hSeparated.1 k hLow
                  (hHigh.trans_le hSpan.2.2))
              (fun k₁ k₂ hLow hLt hHigh hHere => by
                by_contra hThere
                rcases hSeparated.2 k₁ k₂ hLow hLt
                    (hHigh.trans_le hSpan.2.2) hHere
                    hThere with ⟨p, hMem, hBetween⟩
                have hDone := hBetween.2
                rcases List.mem_cons.mp hMem with
                  rfl | hMem'
                · exact absurd hHigh (Nat.not_lt.mpr hDone)
                · have hAfter := hLater p hMem'
                  omega) with
            ⟨hReceiving', lo', hPhase', hFive, hUpto,
              hHanded⟩
          have hLow : lo ≤ lo' := by
            rcases hPhase with hRest | hHolding
            · have hStarted := hRest.started
              omega
            · have hLast := hHolding.last
              omega
          have hTail :=
            ih hReceiving' hPhase' hAlong.2
              (hSeparated.tail hLow hFive)
              (hFollowed.tail hLow hFive)
          rw [run_cons, hTail, hHanded, List.append_assoc]
          congr 1
          refine (heard_cons hLow (hUpto.trans hSpan.2.2)
            hFive fun p hMem => ?_).symm
          exact hUpto.trans (hLater p hMem).1

end LoRaRadio

------------------------------------------------------------
-- The Start of Continuous Receive
------------------------------------------------------------

namespace LoRaRadio

open Faulting

theorem Chip.irq_command
    (c : Chip)
    (op : RadioCommands)
    (args : List UInt8)
    (hClear : c.irq = 0) :
    (c.command op args).irq = 0 := by
  unfold Chip.command
  split
  · exact hClear
  · exact hClear
  · exact hClear
  · exact hClear
  · change c.irq &&& _ = 0
    rw [hClear, UInt16.zero_and]
  · exact hClear

/-
  Where only receptions happen, a chip that does not receive
  and has nothing pending stays so.
-/
def StaysClear
    (r r' : RadioState) : Prop :=
  r'.device.hal = r.device.hal ∧
    (OnlyReceptions r.device.hal →
      ¬ r.device.chip.InRx ∧ r.device.chip.irq = 0 →
        ¬ r'.device.chip.InRx ∧ r'.device.chip.irq = 0)

instance : EventProof StaysClear where
  refl _ := ⟨rfl, fun _ => id⟩
  trans _ _ _ hFirst hSecond :=
    ⟨hSecond.1.trans hFirst.1, fun hOnly hClear =>
      hSecond.2 (hFirst.1 ▸ hOnly) (hFirst.2 hOnly hClear)⟩
  afterCall r := by
    refine ⟨rfl, fun hOnly hClear => ?_⟩
    have hSame :=
      Chip.reacts_receptions_of_not_inRx hClear.1
        (hOnly r.device.clock)
    rw [RadioState.chip_afterCall]
    unfold RadioState.nextEvent
    rw [hSame]
    exact hClear

theorem tolerates_clear
    {e : Effect}
    (hIssue : e ≠ .issue .setRx) :
    Tolerates StaysClear e := by
  have hNotInRx := tolerates_notInRx hIssue
  cases e with
  | reset =>
      exact fun r =>
        ⟨rfl, fun _ hClear => ⟨hNotInRx r hClear.1, rfl⟩⟩
  | issue op =>
      intro r args
      refine ⟨rfl, fun _ hClear =>
        ⟨hNotInRx r args hClear.1, ?_⟩⟩
      change ((r.device.chip.transfer
        (op.code :: args)).1).irq = 0
      apply Chip.transfer_cases r.device.chip
        (P := fun c => c.irq = 0)
      · exact hClear.2
      · intro _ address values
        rw [Chip.irq_writeRegs]
        exact hClear.2
      · exact fun _ _ _ => hClear.2
      · exact fun _ => Chip.irq_command _ _ _ hClear.2
  | _ => exact fun _ _ => ⟨rfl, fun _ hClear => hClear⟩

/-
  `SetRx`, on a chip that did not receive: nothing is pending
  when it starts to receive, and then one call is made.
-/
theorem setRx_ok
    {timeout : TickTime}
    {r r' : RadioState}
    {u : Unit}
    (hRun : exec (setRx timeout) r = (.ok u, r'))
    (hOnly : OnlyReceptions r.device.hal)
    (hMode : ¬ r.device.chip.InRx) :
    ∃ c : Chip,
      c.irq = 0 ∧ c.mode = .rx timeout.periodBaseCount ∧
        1 ≤ r'.device.clock ∧
        r'.device.chip =
          c.reacts
            (r.device.hal (r'.device.clock - 1)).chip := by
  unfold setRx at hRun
  simp only [exec_bind_ok, exec_modify,
    Prod.mk.injEq] at hRun
  rcases hRun with
    ⟨_, r₁, hClear, _, r₂, hRole, _, r₃, hPost, _, r₄, hPre,
      _, r₅, hSetRx, -, rfl⟩
  have hKept :
      ∀ {m : RadioM Unit} {a b : RadioState},
        Issues [.issue .setRangingRole, .writeLine] Unit m →
          exec m a = (.ok (), b) → StaysClear a b := by
    intro m a b hIssues hRun
    refine (hIssues.keeps fun e hMem => ?_).of_exec hRun
    apply tolerates_clear
    intro hEq
    subst hEq
    simp at hMem
  have hCleared :
      r₁.device.hal = r.device.hal ∧
        ¬ r₁.device.chip.InRx ∧ r₁.device.chip.irq = 0 := by
    rw [writeCommand_ok (by decide) (by decide) hClear]
    have hQuiet :
        ¬ r.afterCall.afterCall.device.chip.acknowledged.InRx :=
      (bufferKept_afterCalls r hMode).1
    have hSame :=
      Chip.reacts_receptions_of_not_inRx hQuiet
        (hOnly (r.device.clock + 2))
    refine ⟨rfl, ?_, ?_⟩
    · change ¬ (Chip.reacts _ _).InRx
      exact (Chip.reacts_of_not_inRx _ _ hQuiet).1
    · change (r.afterCall.afterCall.device.chip.acknowledged
        |>.reacts (r.device.hal (r.device.clock + 2)).chip
        ).irq = 0
      rw [hSame]
      exact Chip.irq_acknowledged _
  have hRest : StaysClear r₁ r₄ :=
    Trans.trans
      (Trans.trans
        (hKept ((issues_setRoleWhenRanging _).mono
          (by decide)) hRole)
        (hKept (issues_hook _ (by decide)) hPost))
      (hKept (issues_hook _ (by decide)) hPre)
  have hCalls : StaysClear r₄ r₄.afterCall.afterCall :=
    Trans.trans (EventProof.afterCall (R := StaysClear) r₄)
      (EventProof.afterCall (R := StaysClear) r₄.afterCall)
  have hHal : r₄.device.hal = r.device.hal :=
    hRest.1.trans hCleared.1
  have hOnly₁ : OnlyReceptions r₁.device.hal := by
    rw [hCleared.1]
    exact hOnly
  have hOnly₄ : OnlyReceptions r₄.device.hal := by
    rw [hHal]
    exact hOnly
  have hReady :=
    hCalls.2 hOnly₄ (hRest.2 hOnly₁ hCleared.2)
  have hDone :=
    writeCommand_ok (by decide) (by decide) hSetRx
  refine
    ⟨r₄.afterCall.afterCall.device.chip.command .setRx
      (tickBytes timeout), ?_, ?_, ?_, ?_⟩
  · exact Chip.irq_command _ _ _ hReady.2
  · change ChipMode.rx (word _ _) = _
    rw [word_hiByte_loByte]
  · rw [hDone]
    simp
  · rw [hDone, ← hHal]
    rfl

variable {owner : Nat}
variable {s s' : NodeState}
variable {rx rx' tx tx' : RadioState}

/-
  A node that comes up in continuous receive is at rest, or
  holds what arrived before the last call of `start`.
-/
theorem Started.receiving
    (hStarted : Started s s' rx rx' tx tx')
    (hCallback : s.node.rxCallback = some owner)
    (hContinuous :
      s.node.config.radio.timeouts.continuousRx = true)
    (hOnly : OnlyReceptions s'.rxDevice.hal)
    (hOne :
      1 ≤ s'.rxDevice.clock →
        (s'.rxDevice.hal
          (s'.rxDevice.clock - 1)).chip.length ≤ 1) :
    Receiving owner s'.rxDevice.hal s' ∧
      1 ≤ s'.rxDevice.clock ∧
      (AtRest s'.rxDevice.hal (s'.rxDevice.clock - 1)
          s'.rxDevice ∨
        Holding s'.rxDevice.hal (s'.rxDevice.clock - 1)
          s'.rxDevice) := by
  have hListening := hStarted.listening hCallback
  have hMask := hListening.irqMask
  rcases hStarted.rxConfigured with ⟨d, -, hConfigure⟩
  rcases exec_bind_ok.mp hStarted.rxStarted with
    ⟨_, r, hSetMask, hSetRx⟩
  have hMode : ¬ r.device.chip.InRx :=
    ((issues_setDioIrqParams nodeIrqMask nodeIrqMask 0 0
      ).keeps_notInRx (by decide)).of_exec hSetMask
        (configureRadio_ok hConfigure).notInRx
  rw [hStarted.rxDevice] at hOnly hOne hMask ⊢
  have hSame : rx'.device.hal = r.device.hal :=
    (issues_setRx _).keeps_hal.of_exec hSetRx
  rw [hSame] at hOnly hOne ⊢
  rcases setRx_ok hSetRx hOnly hMode with
    ⟨c, hIrq, hRx, hClock, hChip⟩
  have hCount :
      (rxTimeout s.node.config.radio.timeouts
        ).periodBaseCount = 0xFFFF := by
    unfold rxTimeout
    rw [if_pos hContinuous]
  have hTuned : c.Tuned := by
    refine ⟨by rw [hRx, hCount], ?_⟩
    rw [hChip] at hMask
    unfold Chip.irqMask at hMask ⊢
    rwa [Chip.cmd_reacts] at hMask
  refine ⟨⟨hListening, ?_, ?_⟩, hClock, ?_⟩
  · rw [hStarted.rxDevice]
    exact hSame
  · rw [hStarted.rxDevice, hChip]
    exact (Chip.tuned_reacts hTuned (hOnly _)).1
  · rcases arrivals_cases hOnly (hOne hClock) with
      hNone | ⟨start, packet, rssi, snr, hLength, hEvent,
        hArrival⟩
    · rw [hNone, Chip.reacts_nil] at hChip
      refine .inl ⟨by rw [hChip, hIrq], by omega,
        fun k hLow hHigh => ?_⟩
      rw [show k = rx'.device.clock - 1 by omega]
      exact hNone
    · refine .inr ⟨⟨packet, ?_, hArrival⟩, by omega⟩
      rw [hChip, hEvent]
      exact Chip.holds_reception hTuned.hears hIrq hLength

end LoRaRadio

------------------------------------------------------------
-- Nothing Lost
------------------------------------------------------------

namespace LoRaRadio

open Faulting Runs

namespace NodeState

/-
  The first hardware call the receiver makes while it
  receives, for a node that has just come up: the wait after
  `SET_RX`.
-/
def listensFrom
    (s : NodeState) : Nat :=
  s.rxDevice.clock - 1

/- The call the receiver makes next after a run. -/
def listensTo
    (s : NodeState)
    (ops : List NodeOp) : Nat :=
  (run operate s ops).rxDevice.clock

/- The callback has been handed what has been received. -/
def DeliversAll
    (s : NodeState)
    (ops : List NodeOp) : Prop :=
  (run operate s ops).payloads =
    s.payloads ++
      receptions s.rxDevice.hal s.listensFrom
        (s.listensTo ops)

end NodeState

/-
  In a run of sends and polls in which a complete poll takes
  place between one reception and the next and after the
  last, the packets received are handed over, all of them
  and in order, exactly when none of them arrives between a
  poll's `GetIrqStatus` and its `ClearIrqStatus`.
-/
theorem received_in_order_iff
    {s₀ s₁ : NodeState}
    {owner : Nat}
    (ops : List NodeOp)
    (hIdle : s₀.node.started = false)
    (hCallback : s₀.node.rxCallback = some owner)
    (hContinuous :
      s₀.node.config.radio.timeouts.continuousRx = true)
    (hStart : exec start s₀ = (.ok true, s₁))
    (hOnly : OnlyReceptions s₁.rxDevice.hal)
    (hAlong :
      Along NodeState.operate NodeState.Completes s₁ ops)
    (hSeparated :
      Separated s₁.rxDevice.hal (pollSpans s₁ ops)
        s₁.listensFrom (s₁.listensTo ops))
    (hFollowed :
      FollowedUp s₁.rxDevice.hal (pollSpans s₁ ops)
        s₁.listensFrom (s₁.listensTo ops)) :
    s₁.DeliversAll ops ↔
      ∀ p ∈ pollSpans s₁ ops, ∀ k, p.Clears k →
        (s₁.rxDevice.hal k).chip = [] := by
  rcases start_ok_true hIdle hStart with
    ⟨rx, rx', tx, tx', hStarted⟩
  have hGrows : s₁.rxDevice.clock ≤ s₁.listensTo ops :=
    rxClock_run s₁ ops
  rcases hStarted.receiving hCallback hContinuous hOnly
      (fun hPos => hSeparated.1 _ (Nat.le_refl _)
        (by omega)) with
    ⟨hReceiving, hPos, hPhase⟩
  have hHeard :
      (run NodeState.operate s₁ ops).payloads =
        s₁.payloads ++
          heard s₁.rxDevice.hal (pollSpans s₁ ops)
            s₁.listensFrom (s₁.listensTo ops) :=
    delivered_eq_heard hReceiving hOnly hPhase hAlong
      hSeparated hFollowed
  unfold NodeState.DeliversAll
  rw [hHeard, List.append_cancel_left_eq,
    heard_eq_receptions_iff]
  constructor
  · intro hAll p hMem k hClears
    have hSpan :=
      mem_pollSpans hReceiving.listening hAlong hMem
    have hLow : s₁.rxDevice.clock - 1 ≤ k := by
      have hAfter := hClears.1
      omega
    have hHigh : k < s₁.listensTo ops := by
      have hBefore := hClears.2
      have hEnd := hSpan.2.2
      unfold NodeState.listensTo
      omega
    rw [← arrivals_eq_nil_iff hOnly]
    exact hAll k hLow hHigh ⟨p, hMem, hClears⟩
  · intro hAll k hLow hHigh hCleared
    rcases hCleared with ⟨p, hMem, hClears⟩
    rw [arrivals_eq_nil_iff hOnly]
    exact hAll p hMem k hClears

/-
  A node whose receiver meets one packet, before hardware
  call `k`.
-/
def onePacketNode
    (k : Nat) : NodeState where
  node :=
    { config :=
        { rx := { hw := pinnedRadio 5 6 }
          tx := { hw := pinnedRadio 7 8 } }
      rxCallback := some 0 }
  rxDevice :=
    { hal := fun n =>
        { chip :=
            if n = k then [.reception 0 [1, 2, 3] 0 0]
            else [] } }

/- The same node once it has come up, after 61 calls. -/
def onePacketNodeUp
    (k : Nat) : NodeState :=
  (exec start (onePacketNode k)).2

theorem onePacketNode_meets
    {k n : Nat}
    (hEvents : ((onePacketNode k).rxDevice.hal n).chip ≠ []) :
    n = k := by
  change (if n = k then _ else []) ≠ [] at hEvents
  by_contra hOther
  rw [if_neg hOther] at hEvents
  exact hEvents rfl

theorem onePacketNode_only
    (k : Nat) :
    OnlyReceptions (onePacketNode k).rxDevice.hal := by
  intro n event hMem
  cases onePacketNode_meets (List.ne_nil_of_mem hMem)
  change event ∈ (if k = k then _ else []) at hMem
  rw [if_pos rfl] at hMem
  cases List.mem_singleton.mp hMem
  exact ⟨_, _, _, _, by decide, rfl⟩

theorem onePacketNode_separated
    (k : Nat)
    (spans : List PollSpan)
    (lo hi : Nat) :
    Separated (onePacketNode k).rxDevice.hal spans lo hi := by
  refine ⟨fun n _ _ => ?_, fun k₁ k₂ _ hLt _ hHere hThere => ?_⟩
  · change (if n = k then _ else []).length ≤ 1
    split <;> decide
  · have hFirst := onePacketNode_meets hHere
    have hSecond := onePacketNode_meets hThere
    omega

theorem hal_onePacketNodeUp
    {k : Nat}
    (hStart :
      exec start (onePacketNode k) =
        (.ok true, onePacketNodeUp k)) :
    (onePacketNodeUp k).rxDevice.hal =
      (onePacketNode k).rxDevice.hal := by
  have hIdle : (onePacketNode k).node.started = false := rfl
  rcases start_ok_true hIdle hStart with
    ⟨rx, rx', tx, tx', hStarted⟩
  exact hStarted.hal.1

/- A packet that comes right before a poll. -/
theorem received_in_order_iff_prompt :
    (onePacketNodeUp 61).DeliversAll [.poll] := by
  have hIdle : (onePacketNode 61).node.started = false := rfl
  have hStart :
      exec start (onePacketNode 61) =
        (.ok true, onePacketNodeUp 61) :=
    Prod.ext (by decide +kernel) rfl
  have hPoll :
      (exec poll (onePacketNodeUp 61)).1 = .ok () := by
    decide +kernel
  have hSpans :
      pollSpans (onePacketNodeUp 61) [.poll] = [⟨61, 79⟩] := by
    decide +kernel
  have hHal := hal_onePacketNodeUp hStart
  refine (received_in_order_iff [.poll] hIdle rfl rfl hStart
    ?_ ⟨hPoll, trivial⟩ ?_ ?_).mpr ?_
  · rw [hHal]
    exact onePacketNode_only 61
  · rw [hHal]
    exact onePacketNode_separated 61 _ _ _
  · intro k _ _ hHere
    rw [hHal] at hHere
    cases onePacketNode_meets hHere
    rw [hSpans]
    refine ⟨_, List.mem_singleton_self _, by decide, ?_⟩
    decide +kernel
  · intro p hMem k hClears
    rw [hSpans] at hMem
    cases List.mem_singleton.mp hMem
    have hLow := hClears.1
    by_contra hHere
    rw [hHal] at hHere
    cases onePacketNode_meets hHere
    simp at hLow

/-
  The packet comes after the first poll has read the
  interrupts and before it clears them.  Every complete poll
  after it finds nothing: the packet is lost.
-/
theorem received_while_clearing_lost :
    let s := onePacketNodeUp 63
    (exec start (onePacketNode 63)).1 = .ok true ∧
      OnlyReceptions s.rxDevice.hal ∧
      Runs.Along NodeState.operate NodeState.Completes s
        [.poll, .poll] ∧
      Separated s.rxDevice.hal (pollSpans s [.poll, .poll])
        s.listensFrom (s.listensTo [.poll, .poll]) ∧
      FollowedUp s.rxDevice.hal (pollSpans s [.poll, .poll])
        s.listensFrom (s.listensTo [.poll, .poll]) ∧
      (Runs.run NodeState.operate s
        [.poll, .poll]).payloads = [] ∧
      ¬ s.DeliversAll [.poll, .poll] := by
  intro s
  have hStart :
      exec start (onePacketNode 63) = (.ok true, s) :=
    Prod.ext (by decide +kernel) rfl
  have hHal : s.rxDevice.hal = _ := hal_onePacketNodeUp hStart
  have hFirst : (exec poll s).1 = .ok () := by
    decide +kernel
  have hSecond : (exec poll (s.operate .poll)).1 = .ok () := by
    decide +kernel
  have hSpans :
      pollSpans s [.poll, .poll] = [⟨61, 67⟩, ⟨67, 73⟩] := by
    decide +kernel
  have hEnd : s.listensTo [.poll, .poll] = 73 := by
    decide +kernel
  have hNone :
      (Runs.run NodeState.operate s
        [.poll, .poll]).payloads = [] := by
    decide +kernel
  have hReceived :
      receptions s.rxDevice.hal s.listensFrom
        (s.listensTo [.poll, .poll]) = [[1, 2, 3]] := by
    decide +kernel
  refine ⟨congrArg Prod.fst hStart, ?_, ⟨hFirst, hSecond, trivial⟩,
    ?_, ?_, hNone, ?_⟩
  · rw [hHal]
    exact onePacketNode_only 63
  · rw [hHal]
    exact onePacketNode_separated 63 _ _ _
  · intro k _ _ hHere
    rw [hHal] at hHere
    cases onePacketNode_meets hHere
    rw [hSpans, hEnd]
    exact ⟨⟨67, 73⟩, by simp, by decide, by decide⟩
  · unfold NodeState.DeliversAll
    rw [hNone, hReceived]
    intro hAll
    have hLengths := congrArg List.length hAll
    simp at hLengths

end LoRaRadio
