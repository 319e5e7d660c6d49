import LoRaRadio.Node.TxEnable

/-
  The power amplifier of a transmitter whose line is
  asserted around transmissions only.

  While the chip transmits, the line is asserted and no
  interrupt that ends a transmission is pending: `SetTx`
  clears them all before it issues `SET_TX`.

  Main declarations:
    * `ChipEvent.Genuine` and `Chip.NoTxEnd`
    * `Transmitter` and `Issues.keeps_transmitter`
    * `powered_setTx`
    * `processIrqsLocked_ended`
-/

------------------------------------------------------------
-- Interrupts That End a Transmission
------------------------------------------------------------

namespace LoRaRadio

namespace Irq

/- The interrupts that end a transmission. -/
def txEnd : UInt16 :=
  txDone ||| rxTxTimeout

theorem or_and
    (a b mask : UInt16) :
    (a ||| b) &&& mask = (a &&& mask) ||| (b &&& mask) := by
  apply UInt16.toBitVec_inj.mp
  simp only [UInt16.toBitVec_and, UInt16.toBitVec_or]
  ext i hBit
  simp only [BitVec.getElem_and, BitVec.getElem_or]
  exact Bool.and_or_distrib_right _ _ _

/- Without a bit of `txEnd` neither interrupt is seen. -/
theorem has_of_noTxEnd
    {irqRegs : UInt16}
    (hNone : irqRegs &&& txEnd = 0) :
    ¬ (has irqRegs txDone = true ∨
      has irqRegs rxTxTimeout = true) := by
  have hPart : ∀ mask,
      txEnd &&& mask = mask → irqRegs &&& mask = 0 := by
    intro mask hMask
    rw [← hMask, ← UInt16.and_assoc, hNone, UInt16.zero_and]
  have hDone := hPart txDone (by decide)
  have hTimeout := hPart rxTxTimeout (by decide)
  unfold has
  rw [hDone, hTimeout]
  decide

end Irq

/-
  The chip reports the end of a transmission only when one
  ends: other interrupts may appear at any time.
-/
def ChipEvent.Genuine : ChipEvent → Prop
| .raise bits => bits &&& Irq.txEnd = 0
| .txDone | .timeout | .reception _ _ _ _ => True

instance
    (event : ChipEvent) :
    Decidable event.Genuine :=
  match event with
  | .raise bits =>
      inferInstanceAs (Decidable (bits &&& Irq.txEnd = 0))
  | .txDone | .timeout | .reception _ _ _ _ => .isTrue trivial

namespace Chip

/- No end of a transmission is reported. -/
def NoTxEnd
    (c : Chip) : Prop :=
  c.irq &&& Irq.txEnd = 0

/-
  The transmitter's chip does not receive; while it
  transmits, no end is reported and its amplifier is `lit`.
-/
structure Sends
    (lit : Prop)
    (c : Chip) : Prop where
  notInRx : ¬ c.InRx
  onAir : c.mode = .tx → c.NoTxEnd ∧ lit

/- The chip neither receives nor transmits. -/
structure Rests
    (c : Chip) : Prop where
  notInRx : ¬ c.InRx
  offAir : c.mode ≠ .tx

/- Such a chip after all interrupts have been cleared. -/
structure Waits
    (c : Chip) : Prop extends Rests c where
  noTxEnd : c.NoTxEnd

theorem Rests.sends
    {lit : Prop}
    {c : Chip}
    (hRests : c.Rests) :
    c.Sends lit :=
  ⟨hRests.notInRx, fun hTx => absurd hTx hRests.offAir⟩

/-
  What events and most commands do to a chip that does not
  receive: they may end a transmission, and report an end
  only then.
-/
structure Calm
    (c c' : Chip) : Prop where
  notInRx : ¬ c'.InRx
  onAir : c'.mode = .tx → c.mode = .tx
  noTxEnd :
    (c'.mode = .tx ∨ c.mode ≠ .tx) → c.NoTxEnd → c'.NoTxEnd

variable {c c' : Chip}
variable {lit : Prop}

theorem Sends.calm
    (hSends : c.Sends lit)
    (hCalm : c.Calm c') :
    c'.Sends lit := by
  refine ⟨hCalm.notInRx, fun hTx => ?_⟩
  have hBefore := hSends.onAir (hCalm.onAir hTx)
  exact ⟨hCalm.noTxEnd (.inl hTx) hBefore.1, hBefore.2⟩

theorem Rests.calm
    (hRests : c.Rests)
    (hCalm : c.Calm c') :
    c'.Rests :=
  ⟨hCalm.notInRx, fun hTx => hRests.offAir (hCalm.onAir hTx)⟩

theorem Waits.calm
    (hWaits : c.Waits)
    (hCalm : c.Calm c') :
    c'.Waits :=
  ⟨hWaits.toRests.calm hCalm,
    hCalm.noTxEnd (.inr hWaits.offAir) hWaits.noTxEnd⟩

theorem calm_react
    {event : ChipEvent}
    (hGenuine : event.Genuine)
    (hNotInRx : ¬ c.InRx) :
    c.Calm (c.react event) := by
  have hNotRx : ∀ count, c.mode ≠ .rx count :=
    fun count hRx => hNotInRx ⟨count, hRx⟩
  apply react_cases (P := Calm c) c event
  · exact ⟨hNotInRx, id, fun _ hNone => hNone⟩
  · intro bits hRaise
    rw [hRaise] at hGenuine
    refine ⟨hNotInRx, id, fun _ hNone => ?_⟩
    change (c.irq ||| bits) &&& Irq.txEnd = 0
    rw [Irq.or_and, hNone, hGenuine, UInt16.or_zero]
  · intro bits hTx
    refine ⟨?_, fun _ => hTx, fun hMode => ?_⟩
    · intro hRx
      rcases hRx with ⟨count, hRx⟩
      cases hRx
    · rcases hMode with hOn | hOff
      · cases hOn
      · exact absurd hTx hOff
  · exact fun count hRx => absurd hRx (hNotRx count)
  · intro count _ _ _ _ _ hRx
    exact absurd hRx (hNotRx count)

/- The commands that start or end an operation. -/
def modeCommands : List RadioCommands :=
  [.setSleep, .setStandby, .setTx, .setRx]

theorem calm_command
    {op : RadioCommands}
    (args : List UInt8)
    (hOp : op ∉ modeCommands)
    (hNotInRx : ¬ c.InRx) :
    c.Calm (c.command op args) := by
  unfold Chip.command
  split
  · exact absurd (by decide) hOp
  · exact absurd (by decide) hOp
  · exact absurd (by decide) hOp
  · exact absurd (by decide) hOp
  · refine ⟨hNotInRx, id, fun _ hNone => ?_⟩
    unfold NoTxEnd at *
    rw [UInt16.and_assoc, UInt16.and_comm (~~~ _),
      ← UInt16.and_assoc, hNone, UInt16.zero_and]
  · exact ⟨hNotInRx, id, fun _ hNone => hNone⟩

/- A transfer of any other command. -/
theorem calm_transfer
    {op : RadioCommands}
    (args : List UInt8)
    (hOp : op ∉ modeCommands)
    (hNotInRx : ¬ c.InRx) :
    c.Calm (c.transfer (op.code :: args)).1 := by
  apply transfer_cases c (P := Calm c)
  · exact ⟨hNotInRx, id, fun _ hNone => hNone⟩
  · intro _ address values
    refine ⟨?_, ?_, fun _ hNone => ?_⟩
    · unfold InRx
      rw [mode_writeRegs]
      exact hNotInRx
    · rw [mode_writeRegs]
      exact id
    · unfold NoTxEnd
      rw [irq_writeRegs]
      exact hNone
  · exact fun _ _ _ => ⟨hNotInRx, id, fun _ hNone => hNone⟩
  · exact fun _ => calm_command args hOp hNotInRx

end Chip

end LoRaRadio

------------------------------------------------------------
-- A Transmitter
------------------------------------------------------------

namespace LoRaRadio

open Faulting

variable {hw : LinuxSx1280RadioConfig}
variable {P : Option GpiodLineValue → Chip → Prop}

/-
  A transmitter made from `hw` on a chip without spurious
  interrupts, with the line and the chip in `P`.
-/
structure Transmitter
    (hw : LinuxSx1280RadioConfig)
    (P : Option GpiodLineValue → Chip → Prop)
    (r : RadioState) : Prop where
  isOf : r.radio.IsOf hw
  speaks : r.radio.Speaks
  genuine :
    ∀ k, ∀ event ∈ (r.device.hal k).chip, event.Genuine
  chip : P r.device.txEnable r.device.chip

/- What events and most commands keep of line and chip. -/
class CalmProof
    (P : Option GpiodLineValue → Chip → Prop) : Prop where
  notInRx : ∀ line c, P line c → ¬ c.InRx
  calm : ∀ line c c', P line c → c.Calm c' → P line c'

instance
    (lit : Option GpiodLineValue → Prop) :
    CalmProof fun line c => c.Sends (lit line) where
  notInRx _ _ hSends := hSends.notInRx
  calm _ _ _ hSends hCalm := hSends.calm hCalm

instance : CalmProof fun _ c => c.Rests where
  notInRx _ _ hRests := hRests.notInRx
  calm _ _ _ hRests hCalm := hRests.calm hCalm

instance
    (lit : Option GpiodLineValue → Prop) :
    CalmProof fun line c => lit line ∧ c.Waits where
  notInRx _ _ hWaits := hWaits.2.notInRx
  calm _ _ _ hWaits hCalm := ⟨hWaits.1, hWaits.2.calm hCalm⟩

variable [CalmProof P]

/- Events that are genuine keep it. -/
theorem calm_reacts
    {line : Option GpiodLineValue}
    {c : Chip}
    {events : List ChipEvent}
    (hGenuine : ∀ event ∈ events, event.Genuine)
    (hChip : P line c) :
    P line (c.reacts events) := by
  apply Chip.reacts_induction_of (I := P line) ?_ events
    hGenuine hChip
  intro c event hHere hBefore
  have hNotInRx := CalmProof.notInRx line c hBefore
  exact CalmProof.calm line c _ hBefore
    (Chip.calm_react hHere hNotInRx)

instance : EventProof (Stays (Transmitter hw P)) where
  afterCall _ := fun hTransmitter =>
    ⟨hTransmitter.isOf, hTransmitter.speaks,
      hTransmitter.genuine,
      calm_reacts (hTransmitter.genuine _)
        hTransmitter.chip⟩

/- The effects that may change more than `CalmProof` allows. -/
def Effect.IsCalm : Effect → Prop
| .issue op => op ∉ Chip.modeCommands
| .reset | .writeLine | .setMode | .setType => False

instance
    (e : Effect) :
    Decidable e.IsCalm :=
  match e with
  | .issue op =>
      inferInstanceAs (Decidable (op ∉ Chip.modeCommands))
  | .reset | .writeLine | .setMode | .setType => .isFalse id

theorem tolerates_transmitter
    {e : Effect}
    (hCalm : e.IsCalm) :
    Tolerates (Stays (Transmitter hw P)) e := by
  cases e with
  | issue op =>
      intro r args hTransmitter
      refine ⟨hTransmitter.isOf, hTransmitter.speaks,
        hTransmitter.genuine, ?_⟩
      have hNotInRx :=
        CalmProof.notInRx _ _ hTransmitter.chip
      exact CalmProof.calm _ _ _ hTransmitter.chip
        (Chip.calm_transfer args hCalm hNotInRx)
  | _ => exact hCalm.elim

theorem Issues.keeps_transmitter
    {effects : List Effect}
    {α : Type}
    {m : RadioM α}
    (hIssues : Issues effects α m)
    (hCalm : ∀ e ∈ effects, e.IsCalm) :
    Keeps (Stays (Transmitter hw P)) m :=
  hIssues.keeps fun e hMem =>
    tolerates_transmitter (hCalm e hMem)

end LoRaRadio

------------------------------------------------------------
-- Sending With the Amplifier On
------------------------------------------------------------

namespace LoRaRadio

open Faulting

variable {hw : LinuxSx1280RadioConfig}
variable {r : RadioState}

/- The amplifier is on while the chip transmits. -/
abbrev Powered
    (hw : LinuxSx1280RadioConfig) : RadioState → Prop :=
  Transmitter hw fun line c =>
    c.Sends (line = some (hw.txLevel true))

/- The chip neither transmits nor receives. -/
abbrev Resting
    (hw : LinuxSx1280RadioConfig) : RadioState → Prop :=
  Transmitter hw fun _ c => c.Rests

/- It waits for `SET_TX`, with the line at a level in `lit`. -/
abbrev Waiting
    (hw : LinuxSx1280RadioConfig)
    (lit : Option GpiodLineValue → Prop) :
    RadioState → Prop :=
  Transmitter hw fun line c => lit line ∧ c.Waits

theorem Transmitter.resting
    {P : Option GpiodLineValue → Chip → Prop}
    [CalmProof P]
    (hTransmitter : Transmitter hw P r)
    (hOff : r.device.chip.mode ≠ .tx) :
    Resting hw r :=
  ⟨hTransmitter.isOf, hTransmitter.speaks,
    hTransmitter.genuine,
    CalmProof.notInRx _ _ hTransmitter.chip, hOff⟩

theorem Transmitter.powered
    (hResting : Resting hw r) :
    Powered hw r :=
  ⟨hResting.isOf, hResting.speaks, hResting.genuine,
    hResting.chip.sends⟩

theorem Transmitter.waits
    {lit : Option GpiodLineValue → Prop}
    (hWaiting : Waiting hw lit r) :
    Resting hw r :=
  hWaiting.resting hWaiting.chip.2.offAir

/- Clearing all interrupts leaves none that ends anything. -/
theorem waiting_cleared
    (hResting : Resting hw r) :
    Waiting hw (fun _ => True)
      (r.commanded .clrIrqStatus
        [hiByte Irq.radioAll, loByte Irq.radioAll]) := by
  have hCall :=
    EventProof.afterCall (R := Stays (Resting hw))
  have hCalled := hCall r.afterCall (hCall r hResting)
  generalize hBefore : r.afterCall.afterCall = r₁ at hCalled
  have hCleared :
      Waiting hw (fun _ => True)
        (r₁.setChip
          (r₁.device.chip.command .clrIrqStatus
            [hiByte Irq.radioAll, loByte Irq.radioAll])) := by
    refine ⟨hCalled.isOf, hCalled.speaks, hCalled.genuine,
      trivial, ⟨hCalled.chip.notInRx, hCalled.chip.offAir⟩,
      ?_⟩
    change r₁.device.chip.irq &&&
      ~~~ word (hiByte Irq.radioAll) (loByte Irq.radioAll) &&&
        Irq.txEnd = 0
    rw [word_hiByte_loByte,
      show ~~~ Irq.radioAll = 0 by decide, UInt16.and_zero,
      UInt16.zero_and]
  unfold RadioState.commanded
  rw [hBefore]
  exact EventProof.afterCall
    (R := Stays (Waiting hw fun _ => True)) _ hCleared

/- The transfer of `SET_TX` with the line asserted. -/
theorem powered_issued
    (hWaiting :
      Waiting hw (fun line => line = some (hw.txLevel true)) r)
    (args : List UInt8) :
    Powered hw
      (r.setChip
        (r.device.chip.transfer
          (RadioCommands.setTx.code :: args)).1) := by
  refine ⟨hWaiting.isOf, hWaiting.speaks, hWaiting.genuine,
    ?_⟩
  rw [Chip.transfer_command _ _ _ rfl]
  refine ⟨?_, fun _ => ⟨hWaiting.chip.2.noTxEnd,
    hWaiting.chip.1⟩⟩
  intro hRx
  rcases hRx with ⟨count, hRx⟩
  cases hRx

/- `SET_TX` itself, whether it returns or throws. -/
theorem post_issueSetTx
    (hWaiting :
      Waiting hw (fun line => line = some (hw.txLevel true)) r)
    (args : List UInt8) :
    Post
      (do
        writeCommand .setTx args
        modify (RadioState.setOperatingMode .tx))
      (fun _ r' => Powered hw r')
      (fun _ r' => Powered hw r') r := by
  have hCall :=
    EventProof.afterCall
      (R := Stays (Waiting hw fun line =>
        line = some (hw.txLevel true)))
  have hWaited := hCall r hWaiting
  have hReady := hCall r.afterCall hWaited
  have hIssued := powered_issued hReady args
  have hLast :=
    EventProof.afterCall (R := Stays (Powered hw)) _ hIssued
  unfold writeCommand waitOnBusy halSpiTransfer
  simp only [post_bind, post_halCall, post_get, post_modify,
    post_pure, ne_eq, reduceCtorEq, not_false_eq_true,
    if_true]
  split
  · exact hWaited.waits.powered
  · split
    · exact hReady.waits.powered
    · split
      · exact hLast
      · exact ⟨hLast.isOf,
          ⟨hLast.speaks.1, .inr rfl, hLast.speaks.2.2⟩,
          hLast.genuine, hLast.chip⟩

/- The hooks and `SET_TX`. -/
theorem post_hooks_powered
    (hTxOnly : hw.TxOnly)
    (hWaiting : Waiting hw (fun _ => True) r)
    (args : List UInt8) :
    Post
      (do
        halPostRx
        halPreTx
        writeCommand .setTx args
        modify (RadioState.setOperatingMode .tx))
      (fun _ r' => Powered hw r')
      (fun _ r' => Powered hw r') r := by
  have hCall :=
    EventProof.afterCall
      (R := Stays (Waiting hw fun _ => True))
  have hWrite : ∀ level (r : RadioState),
      Waiting hw (fun _ => True) r →
        Waiting hw (fun line => line = some level)
          (r.setTxEnableLine level) :=
    fun level r hBefore =>
      ⟨hBefore.isOf, hBefore.speaks, hBefore.genuine, rfl,
        hBefore.chip.2⟩
  -- The hook that switches the line off.
  rw [post_bind]
  change Post (hook postRxState) _ _ r
  rw [post_hook_txOnly hTxOnly hWaiting.isOf rfl]
  have hCalled := hCall r hWaiting
  split
  case isTrue => exact hCalled.waits.powered
  case isFalse =>
  have hLow := hWrite (hw.txLevel false) _ hCalled
  have hAny :
      Waiting hw (fun _ => True)
        (r.afterCall.setTxEnableLine (hw.txLevel false)) :=
    ⟨hLow.isOf, hLow.speaks, hLow.genuine, trivial,
      hLow.chip.2⟩
  -- The hook that switches it on.
  rw [post_bind]
  change Post (hook preTxState) _ _ _
  rw [post_hook_txOnly hTxOnly hAny.isOf rfl]
  have hCalled' := hCall _ hAny
  split
  case isTrue => exact hCalled'.waits.powered
  case isFalse =>
  exact post_issueSetTx (hWrite (hw.txLevel true) _ hCalled')
    args

/-
  The locked section of `SetTx`, entered while the chip does
  not transmit, powers the amplifier before the transmission
  starts.
-/
theorem powered_setTx
    (hTxOnly : hw.TxOnly)
    (hResting : Resting hw r)
    (timeout : TickTime) :
    Powered hw (exec (setTx timeout) r).2 := by
  have hClear :
      Post (clearIrqStatus Irq.radioAll)
        (fun _ r' => Waiting hw (fun _ => True) r')
        (fun _ r' => Powered hw r') r := by
    have hKeeps :
        Keeps (Stays (Resting hw))
          (clearIrqStatus Irq.radioAll) :=
      (issues_clearIrqStatus Irq.radioAll).keeps_transmitter
        (by decide)
    have hKept := hKeeps r hResting
    unfold Post
    rcases hRun : exec (clearIrqStatus Irq.radioAll) r with
      ⟨e | u, r'⟩
    · rw [hRun] at hKept
      exact hKept.powered
    · rw [writeCommand_ok (by decide) (by decide) hRun]
      exact waiting_cleared hResting
  have hPost :
      Post (setTx timeout) (fun _ r' => Powered hw r')
        (fun _ r' => Powered hw r') r := by
    unfold setTx
    rw [post_bind]
    apply hClear.mono ?_ fun _ _ => id
    intro _ r₁ hWaiting
    have hRole :
        Keeps (Stays (Waiting hw fun _ => True))
          (setRoleWhenRanging .master) :=
      (issues_setRoleWhenRanging .master).keeps_transmitter
        (by decide)
    rw [post_bind]
    apply (hRole.post r₁).mono
    · exact fun _ r₂ hStays =>
        post_hooks_powered hTxOnly (hStays hWaiting) _
    · exact fun _ r₂ hStays => (hStays hWaiting).waits.powered
  unfold Post at hPost
  rcases hRun : exec (setTx timeout) r with ⟨e | u, r'⟩
  · rwa [hRun] at hPost
  · rwa [hRun] at hPost

/-
  An interrupt word that reports the end of a transmission
  is read while the chip does not transmit.
-/
theorem processIrqsLocked_ended
    {packetType : RadioPacketTypes}
    {irqRegs : UInt16}
    {r' : RadioState}
    (hPowered : Powered hw r)
    (hRun :
      exec processIrqsLocked r =
        (.ok (packetType, irqRegs), r'))
    (hEnd :
      Irq.has irqRegs Irq.txDone = true ∨
        Irq.has irqRegs Irq.rxTxTimeout = true) :
    r'.device.chip.mode ≠ .tx := by
  rcases processIrqsLocked_ok hRun with ⟨-, hWord, hState⟩
  have hCall :=
    EventProof.afterCall (R := Stays (Powered hw))
  have hSampled : Powered hw r.afterCall.afterCall :=
    hCall r.afterCall (hCall r hPowered)
  have hOff : r.afterCall.afterCall.device.chip.mode ≠ .tx := by
    intro hTx
    have hNone := (hSampled.chip.onAir hTx).1
    rw [hWord] at hEnd
    exact Irq.has_of_noTxEnd hNone hEnd
  have hResting := hSampled.resting hOff
  have hRead := EventProof.afterCall
    (R := Stays (Resting hw)) _ hResting
  have hCleared := waiting_cleared hRead
  rw [hState]
  exact hCleared.waits.chip.offAir

end LoRaRadio
