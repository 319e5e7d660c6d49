import LoRaRadio.Radio.Effects

/-
  Observations of a radio and the effects that leave them
  alone.

  Main declarations:
    * `tolerates_handles`
    * `tolerates_packetType`
    * `tolerates_cmd`
    * `tolerates_notInRx`
-/

------------------------------------------------------------
-- The Radio Object
------------------------------------------------------------

namespace LoRaRadio

open Faulting

namespace RadioState

/- The handles and the configuration of the object. -/
def identity
    (s : RadioState) :
    LinuxSx1280RadioConfig × List Handle × Bool :=
  (s.radio.config, s.radio.handles,
    s.radio.hasTxEnableLine)

end RadioState

instance : EventProof (Same RadioState.identity) where
  afterCall _ := rfl

theorem tolerates_identity
    (e : Effect) :
    Tolerates (Same RadioState.identity) e := by
  cases e with
  | reset => exact fun _ => rfl
  | _ => exact fun _ _ => rfl

/- No method changes what the object holds. -/
theorem Issues.keeps_identity
    {effects : List Effect}
    {α : Type}
    {m : RadioM α}
    (hIssues : Issues effects α m) :
    Keeps (Same RadioState.identity) m :=
  hIssues.keeps fun e _ => tolerates_identity e

instance :
    EventProof (Same fun s => s.radio.packetType) where
  afterCall _ := rfl

theorem tolerates_packetType
    {e : Effect}
    (hType : e ≠ .setType) :
    Tolerates (Same fun s => s.radio.packetType) e := by
  cases e with
  | setType => exact absurd rfl hType
  | reset => exact fun _ => rfl
  | _ => exact fun _ _ => rfl

instance :
    EventProof (Same fun s => s.radio.operatingMode) where
  afterCall _ := rfl

theorem tolerates_operatingMode
    {e : Effect}
    (hMode : e ≠ .setMode) :
    Tolerates (Same fun s => s.radio.operatingMode) e := by
  cases e with
  | setMode => exact absurd rfl hMode
  | reset => exact fun _ => rfl
  | _ => exact fun _ _ => rfl

theorem Issues.keeps_operatingMode
    {effects : List Effect}
    {α : Type}
    {m : RadioM α}
    (hIssues : Issues effects α m)
    (hMode : .setMode ∉ effects) :
    Keeps (Same fun s => s.radio.operatingMode) m :=
  hIssues.keeps fun _ hMem =>
    tolerates_operatingMode fun hEq => hMode (hEq ▸ hMem)

instance :
    EventProof (Same fun s => s.radio.rxDone) where
  afterCall _ := rfl

instance :
    EventProof (Same fun s => s.device.hal) where
  afterCall _ := rfl

/- No method changes what the environment does. -/
theorem Issues.keeps_hal
    {effects : List Effect}
    {α : Type}
    {m : RadioM α}
    (hIssues : Issues effects α m) :
    Keeps (Same fun s => s.device.hal) m := by
  refine hIssues.keeps fun e _ => ?_
  cases e with
  | reset => exact fun _ => rfl
  | _ => exact fun _ _ => rfl

/- Hardware calls are counted up. -/
def ClockGrows
    (s s' : RadioState) : Prop :=
  s.device.clock ≤ s'.device.clock

instance : EventProof ClockGrows where
  refl s := Nat.le_refl s.device.clock
  trans _ _ _ hFirst hSecond := Nat.le_trans hFirst hSecond
  afterCall s := Nat.le_succ s.device.clock

theorem Issues.keeps_clock
    {effects : List Effect}
    {α : Type}
    {m : RadioM α}
    (hIssues : Issues effects α m) :
    Keeps ClockGrows m := by
  refine hIssues.keeps fun e _ => ?_
  cases e with
  | reset => exact fun s => Nat.le_refl s.device.clock
  | _ => exact fun s _ => Nat.le_refl s.device.clock

/-
  A method throws only if one of its hardware calls does.
-/
theorem Issues.throws
    {effects : List Effect}
    {α : Type}
    {m : RadioM α}
    (hIssues : Issues effects α m)
    {s s' : RadioState}
    {e : Fault}
    (hRun : exec m s = (.error e, s')) :
    ∃ k, s.device.clock ≤ k ∧ k < s'.device.clock ∧
      (s.device.hal k).throws = true := by
  have hCall : ∀ {message : String} {s s' : RadioState} {e},
      exec (LoRaRadio.halCall message) s = (.error e, s') →
        ∃ k, s.device.clock ≤ k ∧ k < s'.device.clock ∧
          (s.device.hal k).throws = true := by
    intro message s s' e hRun
    unfold LoRaRadio.halCall at hRun
    rw [exec_mk] at hRun
    by_cases hThrows : s.nextEvent.throws = true
    · simp only [hThrows, if_true] at hRun
      cases hRun
      exact ⟨s.device.clock, Nat.le_refl _,
        Nat.lt_succ_self _, hThrows⟩
    · simp [hThrows] at hRun
  induction hIssues generalizing s with
  | @bind _ _ m f first _ ihFirst ihRest =>
      rw [exec_bind] at hRun
      rcases hFirst : exec m s with ⟨e' | a, s₁⟩
      · simp only [hFirst] at hRun
        cases hRun
        exact ihFirst hFirst
      · simp only [hFirst] at hRun
        have hHal : s₁.device.hal = s.device.hal :=
          first.keeps_hal.of_exec hFirst
        have hClock := first.keeps_clock.of_exec hFirst
        rcases ihRest a hRun with ⟨k, hLow, hHigh, hThrows⟩
        rw [hHal] at hThrows
        exact ⟨k, hClock.trans hLow, hHigh, hThrows⟩
  | halCall message => exact hCall hRun
  | transfer op args allowed =>
      unfold halSpiTransfer at hRun
      rw [exec_bind] at hRun
      rcases hFirst : exec (LoRaRadio.halCall
        "failed to perform SPI transfer") s with ⟨e' | a, s₁⟩
      · simp only [hFirst] at hRun
        cases hRun
        exact hCall hFirst
      · simp only [hFirst] at hRun
        cases hRun
  | _ => cases hRun

/- No method changes the callback of a radio. -/
theorem Issues.keeps_rxDone
    {effects : List Effect}
    {α : Type}
    {m : RadioM α}
    (hIssues : Issues effects α m) :
    Keeps (Same fun s => s.radio.rxDone) m := by
  refine hIssues.keeps fun e _ => ?_
  cases e with
  | reset => exact fun _ => rfl
  | _ => exact fun _ _ => rfl

theorem Issues.keeps_packetType
    {effects : List Effect}
    {α : Type}
    {m : RadioM α}
    (hIssues : Issues effects α m)
    (hType : .setType ∉ effects) :
    Keeps (Same fun s => s.radio.packetType) m :=
  hIssues.keeps fun _ hMem =>
    tolerates_packetType fun hEq => hType (hEq ▸ hMem)

end LoRaRadio

------------------------------------------------------------
-- The Chip
------------------------------------------------------------

namespace LoRaRadio

open Faulting

instance
    (op : RadioCommands) :
    EventProof (Same fun s => s.device.chip.cmd op) where
  afterCall s := by simp [Same]

/- Only the command itself and a reset change its bytes. -/
theorem tolerates_cmd
    {op : RadioCommands}
    {e : Effect}
    (hIssue : e ≠ .issue op)
    (hReset : e ≠ .reset) :
    Tolerates (Same fun s => s.device.chip.cmd op) e := by
  cases e with
  | reset => exact absurd rfl hReset
  | issue op' =>
      have hOther : op ≠ op' := fun hEq => hIssue (hEq ▸ rfl)
      intro s args
      change ((s.device.chip.transfer
        (op'.code :: args)).1).cmd op = s.device.chip.cmd op
      apply Chip.transfer_cases s.device.chip
        (P := fun c => c.cmd op = s.device.chip.cmd op)
      · rfl
      · intro _ address values
        simp
      · intro _ offset bytes
        rfl
      · intro _
        simp [hOther]
  | _ => exact fun _ _ => rfl

instance :
    EventProof (Stays fun s => ¬ s.device.chip.InRx) where
  afterCall s := fun hMode =>
    (Chip.reacts_of_not_inRx s.device.chip _ hMode).1

theorem Chip.command_not_inRx
    (c : Chip)
    {op : RadioCommands}
    (args : List UInt8)
    (hOp : op ≠ .setRx)
    (hMode : ¬ c.InRx) :
    ¬ (c.command op args).InRx := by
  unfold Chip.command
  rintro ⟨count, hRx⟩
  split at hRx
  · cases hRx
  · cases hRx
  · cases hRx
  · exact hOp rfl
  · exact hMode ⟨count, hRx⟩
  · exact hMode ⟨count, hRx⟩

/- Only `SET_RX` makes the chip receive. -/
theorem tolerates_notInRx
    {e : Effect}
    (hIssue : e ≠ .issue .setRx) :
    Tolerates (Stays fun s => ¬ s.device.chip.InRx) e := by
  cases e with
  | reset =>
      rintro s - ⟨count, hRx⟩
      cases hRx
  | issue op =>
      have hOp : op ≠ .setRx := fun hEq => hIssue (hEq ▸ rfl)
      intro s args hMode
      change ¬ ((s.device.chip.transfer
        (op.code :: args)).1).InRx
      apply Chip.transfer_cases s.device.chip
        (P := fun c => ¬ c.InRx)
      · exact hMode
      · intro _ address values
        rintro ⟨count, hRx⟩
        exact hMode ⟨count, by simpa using hRx⟩
      · intro _ offset bytes
        exact hMode
      · intro _
        exact Chip.command_not_inRx _ args hOp hMode
  | _ => exact fun _ _ hMode => hMode

section Methods

variable {effects : List Effect}
variable {α : Type}
variable {m : RadioM α}

theorem Issues.keeps_cmd
    (hIssues : Issues effects α m)
    (op : RadioCommands)
    (hIssue : .issue op ∉ effects)
    (hReset : .reset ∉ effects) :
    Keeps (Same fun s => s.device.chip.cmd op) m :=
  hIssues.keeps fun _ hMem =>
    tolerates_cmd (fun hEq => hIssue (hEq ▸ hMem))
      fun hEq => hReset (hEq ▸ hMem)

theorem Issues.keeps_notInRx
    (hIssues : Issues effects α m)
    (hIssue : .issue .setRx ∉ effects) :
    Keeps (Stays fun s => ¬ s.device.chip.InRx) m :=
  hIssues.keeps fun _ hMem =>
    tolerates_notInRx fun hEq => hIssue (hEq ▸ hMem)

end Methods

end LoRaRadio
