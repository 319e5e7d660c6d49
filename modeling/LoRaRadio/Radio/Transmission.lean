import LoRaRadio.Radio.Observations

/-
  What one `SendPayload` puts on the air.

  Main declarations:
    * `tolerates_air` and `tolerates_buffer`
    * `sendPayload_ok`
-/

------------------------------------------------------------
-- The Air and the Data Buffer
------------------------------------------------------------

namespace LoRaRadio

open Faulting

@[simp] theorem Chip.trace_command
    (c : Chip)
    (op : RadioCommands)
    (args : List UInt8) :
    (c.command op args).trace =
      if op = .setTx then c.trace ++ [.setTx c.outgoing]
      else c.trace := by
  unfold Chip.command
  split <;> simp_all

theorem Chip.air_command_setTx
    (c : Chip)
    (args : List UInt8) :
    (c.command .setTx args).air = c.air ++ [c.outgoing] := by
  simp [Chip.air]

instance :
    EventProof (Same fun s => s.device.chip.air) where
  afterCall s := by simp [Same]

/- Only `SET_TX` puts a packet on the air. -/
theorem tolerates_air
    {e : Effect}
    (hIssue : e ≠ .issue .setTx) :
    Tolerates (Same fun s => s.device.chip.air) e := by
  cases e with
  | reset => exact fun _ => rfl
  | issue op =>
      have hOp : op ≠ .setTx := fun hEq => hIssue (hEq ▸ rfl)
      intro s args
      change ((s.device.chip.transfer
        (op.code :: args)).1).air = s.device.chip.air
      apply Chip.transfer_cases s.device.chip
        (P := fun c => c.air = s.device.chip.air)
      · rfl
      · intro _ address values
        simp [Chip.air]
      · intro _ offset bytes
        simp [Chip.air]
      · intro _
        simp [Chip.air, hOp]
  | _ => exact fun _ _ => rfl

/- Out of receive mode, with the data buffer as it was. -/
def BufferKept
    (s s' : RadioState) : Prop :=
  ¬ s.device.chip.InRx →
    ¬ s'.device.chip.InRx ∧
      s'.device.chip.buffer = s.device.chip.buffer

instance : EventProof BufferKept where
  refl _ := fun hMode => ⟨hMode, rfl⟩
  trans _ _ _ hFirst hSecond := fun hMode =>
    have hMiddle := hFirst hMode
    have hLast := hSecond hMiddle.1
    ⟨hLast.1, hLast.2.trans hMiddle.2⟩
  afterCall s := fun hMode =>
    Chip.reacts_of_not_inRx s.device.chip _ hMode

theorem bufferKept_afterCalls
    (s : RadioState) :
    BufferKept s s.afterCall.afterCall :=
  Trans.trans (EventProof.afterCall (R := BufferKept) s)
    (EventProof.afterCall (R := BufferKept) s.afterCall)

/-
  Outside receive mode only `WRITE_BUFFER` changes the data
  buffer.
-/
theorem tolerates_buffer
    {e : Effect}
    (hRx : e ≠ .issue .setRx)
    (hWrite : e ≠ .issue .writeBuffer) :
    Tolerates BufferKept e := by
  have hNotInRx := tolerates_notInRx hRx
  cases e with
  | reset => exact fun s hMode => ⟨hNotInRx s hMode, rfl⟩
  | issue op =>
      have hOp : op ≠ .writeBuffer :=
        fun hEq => hWrite (hEq ▸ rfl)
      intro s args hMode
      refine ⟨hNotInRx s args hMode, ?_⟩
      change ((s.device.chip.transfer
        (op.code :: args)).1).buffer = s.device.chip.buffer
      apply Chip.transfer_cases s.device.chip
        (P := fun c => c.buffer = s.device.chip.buffer)
      · rfl
      · intro _ address values
        simp
      · exact fun hEq => absurd hEq hOp
      · intro _
        simp
  | _ => exact fun _ _ hMode => ⟨hMode, rfl⟩

section Methods

variable {effects : List Effect}
variable {α : Type}
variable {m : RadioM α}

theorem Issues.keeps_air
    (hIssues : Issues effects α m)
    (hIssue : .issue .setTx ∉ effects) :
    Keeps (Same fun s => s.device.chip.air) m :=
  hIssues.keeps fun _ hMem =>
    tolerates_air fun hEq => hIssue (hEq ▸ hMem)

theorem Issues.keeps_buffer
    (hIssues : Issues effects α m)
    (hRx : .issue .setRx ∉ effects)
    (hWrite : .issue .writeBuffer ∉ effects) :
    Keeps BufferKept m :=
  hIssues.keeps fun _ hMem =>
    tolerates_buffer (fun hEq => hRx (hEq ▸ hMem))
      fun hEq => hWrite (hEq ▸ hMem)

end Methods

end LoRaRadio

------------------------------------------------------------
-- One Transmission
------------------------------------------------------------

namespace LoRaRadio

open Faulting

/- What `SetTx` does before it issues `SET_TX`. -/
def prepareTx : RadioM Unit := do
  clearIrqStatus Irq.radioAll
  setRoleWhenRanging .master
  halPostRx
  halPreTx

theorem setTx_eq
    (timeout : TickTime) :
    setTx timeout = (do
      prepareTx
      writeCommand .setTx (tickBytes timeout)
      modify (RadioState.setOperatingMode .tx)) := by
  simp [setTx, prepareTx]

def prepareTxEffects : List Effect :=
  [.issue .clrIrqStatus, .issue .setRangingRole, .writeLine]

theorem issues_prepareTx :
    Issues prepareTxEffects Unit prepareTx := by
  unfold prepareTx
  exact
    ((issues_clearIrqStatus _).mono (by decide)).bind
    fun _ =>
      ((issues_setRoleWhenRanging _).mono (by decide)).bind
    fun _ => (issues_hook _ (by decide)).bind
    fun _ => issues_hook _ (by decide)

/- The payload written and everything prepared. -/
def loadTx
    (payload : List UInt8) : RadioM Unit := do
  writeBuffer 0 payload
  prepareTx

theorem sendPayload_eq
    (payload : List UInt8)
    (timeout : TickTime) :
    sendPayload payload timeout = (do
      loadTx payload
      writeCommand .setTx (tickBytes timeout)
      modify (RadioState.setOperatingMode .tx)) := by
  simp [sendPayload, setPayload, setTx_eq, loadTx]

theorem issues_loadTx
    (payload : List UInt8) :
    Issues (.issue .writeBuffer :: prepareTxEffects) Unit
      (loadTx payload) := by
  unfold loadTx
  exact (issues_writeBuffer _ _ (by decide)).bind fun _ =>
    issues_prepareTx.mono (by decide)

/-
  Loading leaves the data buffer with the payload at address
  zero, unless the chip was receiving.
-/
theorem loadTx_ok
    {payload : List UInt8}
    {s s' : RadioState}
    {a : Unit}
    (hRun : exec (loadTx payload) s = (.ok a, s'))
    (hMode : ¬ s.device.chip.InRx) :
    ¬ s'.device.chip.InRx ∧
      s'.device.chip.buffer =
        s.device.chip.buffer.write 0 payload := by
  unfold loadTx at hRun
  rcases exec_bind_ok.mp hRun with ⟨_, s₁, hWrite, hPrepare⟩
  have hCalled := bufferKept_afterCalls s hMode
  have hWritten : ¬ s₁.device.chip.InRx ∧
      s₁.device.chip.buffer =
        s.device.chip.buffer.write 0 payload := by
    rw [writeBuffer_ok hWrite, Chip.transfer_writeBuffer,
      ← hCalled.2]
    exact Chip.reacts_of_not_inRx _ _ hCalled.1
  have hKept :=
    (issues_prepareTx.keeps_buffer (by decide) (by decide)
      ).of_exec hPrepare hWritten.1
  exact ⟨hKept.1, hKept.2.trans hWritten.2⟩

/-
  A `SendPayload` that returns has put one packet on the
  air: the one the chip `c` held when it met `SET_TX`, whose
  parameters are those of before.  Unless the chip was
  receiving, its data buffer is the one of before with the
  payload written to address zero.
-/
theorem sendPayload_ok
    {payload : List UInt8}
    {timeout : TickTime}
    {s s' : RadioState}
    {a : Unit}
    (hRun :
      exec (sendPayload payload timeout) s = (.ok a, s')) :
    ¬ s'.device.chip.InRx ∧
      ∃ c : Chip,
        s'.device.chip.air =
            s.device.chip.air ++ [c.outgoing] ∧
          c.cmd .setPacketParams =
            s.device.chip.cmd .setPacketParams ∧
          c.cmd .setBufferBaseAddress =
            s.device.chip.cmd .setBufferBaseAddress ∧
          (¬ s.device.chip.InRx →
            c.buffer =
              s.device.chip.buffer.write 0 payload) := by
  rw [sendPayload_eq] at hRun
  simp only [exec_bind_ok, exec_modify,
    Prod.mk.injEq] at hRun
  rcases hRun with ⟨_, s₁, hLoad, _, s₂, hTx, -, rfl⟩
  have hIssues := issues_loadTx payload
  have hAir := (hIssues.keeps_air (by decide)).of_exec hLoad
  have hParams :=
    (hIssues.keeps_cmd .setPacketParams (by decide)
      (by decide)).of_exec hLoad
  have hBase :=
    (hIssues.keeps_cmd .setBufferBaseAddress (by decide)
      (by decide)).of_exec hLoad
  have hCmd :
      s₁.afterCall.afterCall.device.chip.cmd =
        s₁.device.chip.cmd := by
    simp
  have hIssued :=
    writeCommand_ok (by decide) (by decide) hTx
  refine ⟨?_, s₁.afterCall.afterCall.device.chip,
    ?_, ?_, ?_, fun hMode => ?_⟩
  · rw [hIssued]
    apply (Chip.reacts_of_not_inRx _ _ _).1
    rintro ⟨count, hRx⟩
    cases hRx
  · rw [hIssued]
    simp only [RadioState.commanded,
      RadioState.device_setOperatingMode,
      RadioState.chip_afterCall, RadioState.chip_setChip,
      Chip.air_reacts, Chip.air_command_setTx]
    rw [show s₁.device.chip.air = s.device.chip.air from
      hAir]
  · rw [hCmd]
    exact hParams
  · rw [hCmd]
    exact hBase
  · have hLoaded := loadTx_ok hLoad hMode
    exact (bufferKept_afterCalls s₁ hLoaded.1).2.trans
      hLoaded.2

end LoRaRadio
