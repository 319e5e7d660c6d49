import LoRaRadio.Radio.BringUpDevice
import LoRaRadio.Radio.HalCalls
import LoRaRadio.Radio.Transmission

/-
  The TX-enable line of a radio, method by method.

  Only the constructor and the hooks write the line.  All
  hooks but `HalPreTx` drive it to the level the constructor
  left it at, if they drive it at all.

  Main declarations:
    * `LineIs` and `Issues.keeps_line`
    * `keepsLine_hook`
    * `keepsLine_construct`
    * `post_sendPayload_line`
-/

------------------------------------------------------------
-- Levels of the Line
------------------------------------------------------------

namespace LoRaRadio

namespace LinuxSx1280RadioConfig

variable (hw : LinuxSx1280RadioConfig)

/- The level of the line for a logical state. -/
def txLevel
    (asserted : Bool) : GpiodLineValue :=
  assertedLineValue hw.pins.txEnableActiveHigh asserted

/- The level the constructor leaves the line at. -/
def restLevel : GpiodLineValue :=
  hw.txLevel (initialTxState hw.pins.txEnableBehavior)

theorem txLevel_false_ne :
    hw.txLevel false ≠ hw.txLevel true := by
  unfold txLevel
  cases hw.pins.txEnableActiveHigh <;> decide

/- The line is asserted around transmissions only. -/
def TxOnly : Prop :=
  hw.pins.hasTxEnable = true ∧
    hw.pins.txEnableBehavior = .assertDuringTxOnly

instance : Decidable hw.TxOnly :=
  inferInstanceAs (Decidable (_ ∧ _))

theorem TxOnly.restLevel_eq
    {hw : LinuxSx1280RadioConfig}
    (hTxOnly : hw.TxOnly) :
    hw.restLevel = hw.txLevel false := by
  unfold restLevel
  rw [hTxOnly.2]
  rfl

/- The line is not at its asserted level. -/
def NotAsserted
    (level : Option GpiodLineValue) : Prop :=
  level ≠ some (hw.txLevel true)

theorem notAsserted_low :
    hw.NotAsserted (some (hw.txLevel false)) :=
  fun hEq => hw.txLevel_false_ne (Option.some.inj hEq)

theorem TxOnly.notAsserted_rest
    {hw : LinuxSx1280RadioConfig}
    (hTxOnly : hw.TxOnly) :
    hw.NotAsserted (some hw.restLevel) := by
  rw [hTxOnly.restLevel_eq]
  exact hw.notAsserted_low

end LinuxSx1280RadioConfig

/- A radio made from a configuration. -/
def LinuxSx1280Radio.IsOf
    (radio : LinuxSx1280Radio)
    (hw : LinuxSx1280RadioConfig) : Prop :=
  radio.config = hw ∧
    radio.hasTxEnableLine = hw.pins.hasTxEnable

theorem isOf_built
    (hw : LinuxSx1280RadioConfig) :
    hw.built.IsOf hw :=
  ⟨rfl, hasTxEnableLine_built hw⟩

/- A radio made from `hw`, with the line at a level in `P`. -/
def LineIs
    (hw : LinuxSx1280RadioConfig)
    (P : Option GpiodLineValue → Prop)
    (r : RadioState) : Prop :=
  r.radio.IsOf hw ∧ P r.device.txEnable

end LoRaRadio

------------------------------------------------------------
-- Methods and the Line
------------------------------------------------------------

namespace LoRaRadio

open Faulting

variable {hw : LinuxSx1280RadioConfig}
variable {P : Option GpiodLineValue → Prop}
variable {effects : List Effect}
variable {α : Type}
variable {m : RadioM α}

instance : EventProof (Stays (LineIs hw P)) where
  afterCall _ := id

instance :
    EventProof (Same fun r => r.device.txEnable) where
  afterCall _ := rfl

/- Methods without hooks leave the line alone. -/
theorem Issues.keeps_line
    (hIssues : Issues effects α m)
    (hLine : .writeLine ∉ effects) :
    Keeps (Stays (LineIs hw P)) m := by
  refine hIssues.keeps fun e hMem => ?_
  cases e with
  | writeLine => exact absurd hMem hLine
  | reset => exact fun _ hIs => hIs
  | _ => exact fun _ _ hIs => hIs

theorem Issues.keeps_txEnable
    (hIssues : Issues effects α m)
    (hLine : .writeLine ∉ effects) :
    Keeps (Same fun r => r.device.txEnable) m := by
  refine hIssues.keeps fun e hMem => ?_
  cases e with
  | writeLine => exact absurd hMem hLine
  | reset => exact fun _ => rfl
  | _ => exact fun _ _ => rfl

theorem keepsLine_setTxEnable
    {asserted : Bool}
    (hLevel : P (some (hw.txLevel asserted))) :
    Keeps (Stays (LineIs hw P)) (setTxEnable asserted) := by
  intro r hIs
  rw [exec_setTxEnable]
  split
  · split
    · exact hIs
    · refine ⟨hIs.1, ?_⟩
      change P (some (r.radio.txEnableLevel asserted))
      unfold LinuxSx1280Radio.txEnableLevel
      rw [hIs.1.1]
      exact hLevel
  · exact hIs

/- A hook drives the line to a level of its table. -/
theorem keepsLine_hook
    {state : TxEnableBehavior → Option Bool}
    (hLevels :
      ∀ asserted,
        state hw.pins.txEnableBehavior = some asserted →
          P (some (hw.txLevel asserted))) :
    Keeps (Stays (LineIs hw P)) (hook state) := by
  intro r hIs
  cases hState : state hw.pins.txEnableBehavior with
  | none =>
      rw [← hIs.1.1] at hState
      rw [exec_hook_none hState]
      exact hIs
  | some asserted =>
      have hKept :=
        keepsLine_setTxEnable (hLevels asserted hState) r hIs
      rw [← hIs.1.1] at hState
      rwa [exec_hook_some hState]

/- The hook drives the line to its initial state, if at all. -/
def Rests
    (state : TxEnableBehavior → Option Bool)
    (behavior : TxEnableBehavior) : Prop :=
  ∀ asserted, state behavior = some asserted →
    asserted = initialTxState behavior

theorem rests_postTxState
    (behavior : TxEnableBehavior) :
    Rests postTxState behavior := by
  intro asserted hState
  cases behavior <;> cases hState <;> rfl

theorem rests_preRxState
    (behavior : TxEnableBehavior) :
    Rests preRxState behavior := by
  intro asserted hState
  cases behavior <;> cases hState
  rfl

theorem rests_postRxState
    (behavior : TxEnableBehavior) :
    Rests postRxState behavior := by
  intro asserted hState
  cases behavior <;> cases hState <;> rfl

/- The exception is `HalPreTx` with a line of its own. -/
theorem rests_preTxState
    {behavior : TxEnableBehavior}
    (hOther : behavior ≠ .assertDuringTxOnly) :
    Rests preTxState behavior := by
  intro asserted hState
  cases behavior with
  | assertDuringTxOnly => exact absurd rfl hOther
  | _ => cases hState

theorem keepsLine_rests
    {state : TxEnableBehavior → Option Bool}
    (hRests : Rests state hw.pins.txEnableBehavior)
    (hRest : P (some hw.restLevel)) :
    Keeps (Stays (LineIs hw P)) (hook state) := by
  apply keepsLine_hook
  intro asserted hState
  rw [hRests asserted hState]
  exact hRest

theorem keepsLine_setRx
    (hRest : P (some hw.restLevel))
    (timeout : TickTime) :
    Keeps (Stays (LineIs hw P)) (setRx timeout) := by
  have hWrite :
      Issues [.issue .setRx] Unit
        (writeCommand .setRx (tickBytes timeout)) :=
    issues_writeCommand _ (by decide)
  have hMode :
      Issues [.setMode] Unit
        (modify (RadioState.setOperatingMode .rx)) :=
    .setMode _ (by decide)
  unfold setRx
  exact
    ((issues_clearIrqStatus _).keeps_line (by decide)).bind
    fun _ =>
      ((issues_setRoleWhenRanging _).keeps_line
        (by decide)).bind
    fun _ =>
      (keepsLine_rests (rests_postTxState _) hRest).bind
    fun _ =>
      (keepsLine_rests (rests_preRxState _) hRest).bind
    fun _ => (hWrite.keeps_line (by decide)).bind
    fun _ => hMode.keeps_line (by decide)

/-
  A transmission, unless the line is to be asserted around
  it.
-/
theorem keepsLine_sendPayload
    (hRest : P (some hw.restLevel))
    (hOther :
      hw.pins.txEnableBehavior ≠ .assertDuringTxOnly)
    (payload : List UInt8)
    (timeout : TickTime) :
    Keeps (Stays (LineIs hw P))
      (sendPayload payload timeout) := by
  have hBuffer :
      Issues [.issue .writeBuffer] Unit
        (writeBuffer 0 payload) :=
    issues_writeBuffer _ _ (by decide)
  have hWrite :
      Issues [.issue .setTx] Unit
        (writeCommand .setTx (tickBytes timeout)) :=
    issues_writeCommand _ (by decide)
  have hMode :
      Issues [.setMode] Unit
        (modify (RadioState.setOperatingMode .tx)) :=
    .setMode _ (by decide)
  unfold sendPayload setPayload setTx
  exact (hBuffer.keeps_line (by decide)).bind
    fun _ =>
      ((issues_clearIrqStatus _).keeps_line (by decide)).bind
    fun _ =>
      ((issues_setRoleWhenRanging _).keeps_line
        (by decide)).bind
    fun _ =>
      (keepsLine_rests (rests_postRxState _) hRest).bind
    fun _ =>
      (keepsLine_rests (rests_preTxState hOther) hRest).bind
    fun _ => (hWrite.keeps_line (by decide)).bind
    fun _ => hMode.keeps_line (by decide)

end LoRaRadio

------------------------------------------------------------
-- The Constructor
------------------------------------------------------------

namespace LoRaRadio

open Faulting

variable {hw : LinuxSx1280RadioConfig}
variable {P : Option GpiodLineValue → Prop}

/-
  A radio whose line is asserted around transmissions only
  is constructed without asserting it.
-/
theorem keepsLine_construct
    (hTxOnly : hw.TxOnly)
    (hRest : P (some hw.restLevel))
    (k : Kernel)
    {d : Device}
    (hLevel : P d.txEnable) :
    P (exec (construct hw) ⟨k, { config := hw }, d⟩
      ).2.device.txEnable := by
  have hLow : P (some (hw.txLevel false)) := by
    rw [← hTxOnly.restLevel_eq]
    exact hRest
  have hKeeps :
      Keeps (Stays fun s : OsState => P s.device.txEnable)
        (requestAll hw) := by
    apply keeps_requestAll
    · intro s s' hDevice hBefore
      rwa [hDevice]
    · exact fun _ _ => hLow
  rw [construct_eq, exec_bind]
  have hKept := hKeeps ⟨k, { config := hw }, d⟩ hLevel
  rcases hRun : exec (requestAll hw) ⟨k, { config := hw }, d⟩
    with ⟨e | u, s⟩
  · rw [hRun] at hKept
    exact hKept
  · rw [hRun] at hKept
    have hRadio := requestAll_ok hRun
    have hIs : LineIs hw P (radioPart.get s) := by
      refine ⟨?_, hKept⟩
      change s.radio.IsOf hw
      rw [hRadio]
      exact isOf_built hw
    exact (keepsLine_setTxEnable hRest _ hIs).2

end LoRaRadio

------------------------------------------------------------
-- A Transmission
------------------------------------------------------------

namespace LoRaRadio

open Faulting

/- What `SendPayload` does before it touches the line. -/
def readyTx
    (payload : List UInt8) : RadioM Unit := do
  writeBuffer 0 payload
  clearIrqStatus Irq.radioAll
  setRoleWhenRanging .master

def readyTxEffects : List Effect :=
  [.issue .writeBuffer, .issue .clrIrqStatus,
    .issue .setRangingRole]

theorem issues_readyTx
    (payload : List UInt8) :
    Issues readyTxEffects Unit (readyTx payload) := by
  unfold readyTx
  exact (issues_writeBuffer _ _ (by decide)).bind
    fun _ => ((issues_clearIrqStatus _).mono (by decide)).bind
    fun _ => (issues_setRoleWhenRanging _).mono (by decide)

theorem callsHal_readyTx
    {r : RadioState}
    (hType : r.radio.packetType = .lora)
    (payload : List UInt8) :
    CallsHal 6 (readyTx payload) r := by
  unfold readyTx
  refine (callsHal_writeBuffer _ _).bind (b := 3) ?_
  intro _ r₁ hRadio
  refine (callsHal_writeCommand _ (by decide)).bind (b := 0)
    ?_
  intro _ r₂ hRadio'
  have hCalls := callsHal_setRoleWhenRanging (s := r₂) .master
  have hSame := hRadio.trans hRadio'
  have hNone : rangingCalls r₂.radio = 0 := by
    unfold rangingCalls
    rw [hSame]
    simp [hType]
  rwa [hNone] at hCalls

theorem sendPayload_split
    (payload : List UInt8)
    (timeout : TickTime) :
    sendPayload payload timeout =
      (do
        readyTx payload
        halPostRx
        halPreTx
        writeCommand .setTx (tickBytes timeout)
        modify (RadioState.setOperatingMode .tx)) := by
  simp [sendPayload, setPayload, setTx, readyTx]

variable {hw : LinuxSx1280RadioConfig}
variable {r : RadioState}

/-
  A hook that drives the line makes one call, and the line
  changes if the call goes through.
-/
theorem post_hook_txOnly
    {state : TxEnableBehavior → Option Bool}
    {asserted : Bool}
    {Q : Unit → RadioState → Prop}
    {E : Fault → RadioState → Prop}
    (hTxOnly : hw.TxOnly)
    (hOf : r.radio.IsOf hw)
    (hState : state .assertDuringTxOnly = some asserted) :
    Post (hook state) Q E r ↔
      if r.nextEvent.throws then
        E (.systemError "failed to write GPIO line value")
          r.afterCall
      else
        Q () (r.afterCall.setTxEnableLine
          (hw.txLevel asserted)) := by
  have hLine : r.radio.hasTxEnableLine = true := by
    rw [hOf.2, hTxOnly.1]
  rw [← hTxOnly.2, ← hOf.1] at hState
  rw [post_congr (exec_hook_some hState), post_setTxEnable,
    if_pos hLine]
  unfold LinuxSx1280Radio.txEnableLevel
  rw [hOf.1]
  rfl

/-
  What a transmission leaves of the line and of the air,
  when `calls` hardware calls come before it touches the
  line: a call for each hook, the wait, and the transfer of
  `SET_TX`.
-/
structure Sent
    (hw : LinuxSx1280RadioConfig)
    (calls : Nat)
    (r r' : RadioState) : Prop where
  line :
    r'.device.txEnable =
      if r.device.Quiet (calls + 2) then
        some (hw.txLevel true)
      else if r.device.Quiet (calls + 1) then
        some (hw.txLevel false)
      else r.device.txEnable
  air :
    r'.device.chip.air.length =
      r.device.chip.air.length +
        if r.device.Quiet (calls + 4) then 1 else 0

/-
  `SET_TX` is issued when the wait before it and its
  transfer go through; the wait after it comes too late.
-/
theorem post_setTx_line
    {level : Option GpiodLineValue}
    {n : Nat}
    (hLevel : r.device.txEnable = level)
    (hAir : r.device.chip.air.length = n)
    (args : List UInt8) :
    Post
      (do
        writeCommand .setTx args
        modify (RadioState.setOperatingMode .tx))
      (fun _ r' =>
        r'.device.txEnable = level ∧
          r'.device.chip.air.length =
            n + if r.device.Quiet 2 then 1 else 0)
      (fun _ r' =>
        r'.device.txEnable = level ∧
          r'.device.chip.air.length =
            n + if r.device.Quiet 2 then 1 else 0) r := by
  have hQuiet :
      r.device.Quiet 2 ↔
        r.nextEvent.throws = false ∧
          r.afterCall.nextEvent.throws = false := by
    rw [Device.quiet_succ, Device.quiet_one]
    rfl
  unfold writeCommand waitOnBusy halSpiTransfer
  simp only [post_bind, post_halCall, post_get, post_modify,
    post_pure, ne_eq, reduceCtorEq, not_false_eq_true,
    if_true]
  by_cases hWait : r.nextEvent.throws
  · simp [hQuiet, hWait, hLevel, hAir]
  · by_cases hTransfer : r.afterCall.nextEvent.throws
    · simp [hQuiet, hWait, hTransfer, hLevel, hAir]
    · rw [Chip.transfer_command _ _ _ rfl]
      simp [hQuiet, hWait, hTransfer, hLevel, hAir,
        Chip.air_command_setTx]

/- What goes before the line is touched leaves it alone. -/
theorem post_readyTx_line
    (hOf : r.radio.IsOf hw)
    (hType : r.radio.packetType = .lora)
    (payload : List UInt8) :
    Post (readyTx payload)
      (fun _ r' =>
        r'.radio.IsOf hw ∧
          (∀ n, r.device.Quiet (6 + n) ↔
            r'.device.Quiet n) ∧
          r'.device.txEnable = r.device.txEnable ∧
          r'.device.chip.air = r.device.chip.air)
      (fun _ r' =>
        ¬ r.device.Quiet 6 ∧
          r'.device.txEnable = r.device.txEnable ∧
          r'.device.chip.air = r.device.chip.air) r := by
  have hIssues := issues_readyTx payload
  have hCalls := callsHal_readyTx hType payload
  have hLine :=
    (hIssues.keeps_txEnable (by decide)).post r
  have hAir := (hIssues.keeps_air (by decide)).post r
  apply Post.mono ((Post.and hCalls hLine).and hAir)
  · intro _ r' hAll
    rcases hAll with
      ⟨⟨⟨hQuiet, hHal, hClock, hRadio⟩, hSame⟩, hSameAir⟩
    refine ⟨?_, fun n => ?_, hSame, hSameAir⟩
    · unfold SameButMode at hRadio
      rw [hRadio]
      exact hOf
    · rw [Device.quiet_add hHal hClock]
      exact and_iff_right hQuiet
  · intro _ r' hAll
    rcases hAll with ⟨⟨⟨hNot, -⟩, hSame⟩, hSameAir⟩
    exact ⟨hNot, hSame, hSameAir⟩

theorem post_hooks_line
    (hTxOnly : hw.TxOnly)
    (hOf : r.radio.IsOf hw)
    (args : List UInt8) :
    Post
      (do
        halPostRx
        halPreTx
        writeCommand .setTx args
        modify (RadioState.setOperatingMode .tx))
      (fun _ r' => Sent hw 0 r r')
      (fun _ r' => Sent hw 0 r r') r := by
  -- The hook that switches the line off.
  rw [post_bind]
  change Post (hook postRxState) _ _ r
  rw [post_hook_txOnly hTxOnly hOf rfl]
  split
  case isTrue hThrows =>
    constructor <;> simp [r.quiet_succ, hThrows]
  case isFalse hReturns =>
  generalize hLow :
    r.afterCall.setTxEnableLine (hw.txLevel false) = r₁
  have hFirst :
      ∀ n, r.device.Quiet (n + 1) ↔ r₁.device.Quiet n := by
    intro n
    rw [r.quiet_succ, ← hLow]
    simp [hReturns, Device.Quiet]
  have hLine₁ :
      r₁.device.txEnable = some (hw.txLevel false) := by
    rw [← hLow]
    rfl
  have hAir₁ :
      r₁.device.chip.air = r.device.chip.air := by
    rw [← hLow]
    simp
  have hOf₁ : r₁.radio.IsOf hw := by
    rw [← hLow]
    exact hOf
  -- The hook that switches it on.
  rw [post_bind]
  change Post (hook preTxState) _ _ _
  rw [post_hook_txOnly hTxOnly hOf₁ rfl]
  split
  case isTrue hThrows =>
    constructor <;>
      simp [hFirst, r₁.quiet_succ, hThrows, hLine₁, hAir₁,
        Device.quiet_zero]
  case isFalse hReturns₁ =>
  have hSecond :
      ∀ n, r₁.device.Quiet (n + 1) ↔
        r₁.afterCall.device.Quiet n := by
    intro n
    rw [r₁.quiet_succ]
    exact and_iff_right (by simpa using hReturns₁)
  have hAir₂ :
      (r₁.afterCall.setTxEnableLine (hw.txLevel true)
        ).device.chip.air.length =
        r.device.chip.air.length := by
    simp [hAir₁]
  have hSent : ∀ r',
      (r'.device.txEnable = some (hw.txLevel true) ∧
        r'.device.chip.air.length =
          r.device.chip.air.length +
            if r₁.afterCall.device.Quiet 2 then 1
            else 0) →
      Sent hw 0 r r' := by
    intro r' hBoth
    constructor
    · simp [hBoth.1, hFirst, hSecond, Device.quiet_zero]
    · simp [hBoth.2, hFirst, hSecond]
  exact (post_setTx_line rfl hAir₂ args).mono
    (fun _ => hSent) (fun _ => hSent)

/-
  A transmission with the line asserted around it, whether
  it returns or throws.
-/
theorem post_sendPayload_line
    (hTxOnly : hw.TxOnly)
    (hOf : r.radio.IsOf hw)
    (hType : r.radio.packetType = .lora)
    (payload : List UInt8)
    (timeout : TickTime) :
    Post (sendPayload payload timeout)
      (fun _ r' => Sent hw 6 r r')
      (fun _ r' => Sent hw 6 r r') r := by
  rw [sendPayload_split, post_bind]
  apply Post.mono (post_readyTx_line hOf hType payload)
  · intro _ r₁ hAll
    rcases hAll with ⟨hOf₁, hQuiet, hLine, hAir⟩
    have hShift :
        ∀ r', Sent hw 0 r₁ r' → Sent hw 6 r r' := by
      intro r' hSent
      have hLine' := hSent.line
      have hAir' := hSent.air
      simp only [Nat.zero_add, ← hQuiet, hLine, hAir]
        at hLine' hAir'
      exact ⟨hLine', hAir'⟩
    exact (post_hooks_line hTxOnly hOf₁ _).mono
      (fun _ => hShift) (fun _ => hShift)
  · intro _ r' hAll
    rcases hAll with ⟨hNot, hLine, hAir⟩
    have hNot' : ∀ n, ¬ r.device.Quiet (6 + n) :=
      fun n hQuiet => hNot fun k hLt => hQuiet k (by omega)
    constructor
    · rw [if_neg (hNot' 2), if_neg (hNot' 1), hLine]
    · rw [if_neg (hNot' 4), hAir]
      rfl

end LoRaRadio
