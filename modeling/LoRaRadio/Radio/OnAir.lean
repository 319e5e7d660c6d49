import LoRaRadio.Radio.Transmission

/-
  Transmissions on the record of a chip.

  The record lists the writes to the data buffer, the
  `SET_TX` commands and the ends of transmissions in order.
  A transmission is cut short if anything but its end comes
  after its `SET_TX`.

  Main declarations:
    * `Uncut` and `InFlight`
    * `Chip.Follows` and `Issues.keeps_follows`
    * `OffAir` and `Issues.keeps_offAir`
    * `Device.onWrite`
    * `sendPayload_launches` and `sendPayload_cuts`
-/

------------------------------------------------------------
-- Records
------------------------------------------------------------

namespace LoRaRadio

/- After a `SET_TX` only the end of its transmission may come. -/
def MayFollow
    (entry next : ChipTrace) : Prop :=
  ∀ packet, entry = .setTx packet → next = .txEnd

instance
    (entry next : ChipTrace) :
    Decidable (MayFollow entry next) :=
  match entry with
  | .setTx packet =>
      decidable_of_iff (next = .txEnd)
        ⟨fun hEnd _ _ => hEnd, fun hEnd => hEnd packet rfl⟩
  | .writeBuffer _ _ => .isTrue fun _ hEq => by cases hEq
  | .txEnd => .isTrue fun _ hEq => by cases hEq

/- No transmission on the record is cut short. -/
def Uncut
    (trace : List ChipTrace) : Prop :=
  trace.IsChain MayFollow

instance
    (trace : List ChipTrace) :
    Decidable (Uncut trace) :=
  inferInstanceAs (Decidable (trace.IsChain MayFollow))

/- The record ends with a `SET_TX`: the packet is on the air. -/
def InFlight
    (trace : List ChipTrace) : Prop :=
  ∃ packet, trace.getLast? = some (.setTx packet)

variable {trace : List ChipTrace}
variable {entry : ChipTrace}

theorem uncut_concat :
    Uncut (trace ++ [entry]) ↔
      Uncut trace ∧ (InFlight trace → entry = .txEnd) := by
  unfold Uncut
  rw [List.isChain_append]
  constructor
  · intro hChain
    refine ⟨hChain.1, fun hFlying => ?_⟩
    rcases hFlying with ⟨packet, hLast⟩
    exact hChain.2.2 _ hLast entry rfl packet rfl
  · intro hBoth
    refine ⟨hBoth.1, List.isChain_singleton _, ?_⟩
    intro last hLast next hNext packet hPacket
    rw [hPacket] at hLast
    cases hNext
    exact hBoth.2 ⟨packet, hLast⟩

theorem inFlight_concat :
    InFlight (trace ++ [entry]) ↔
      ∃ packet, entry = .setTx packet := by
  unfold InFlight
  simp only [List.getLast?_append, List.getLast?_singleton,
    Option.some_or, Option.some.injEq]

namespace Chip

/- What has been recorded after the first `n` entries. -/
def since
    (n : Nat)
    (c : Chip) : List ChipTrace :=
  c.trace.drop n

/-
  From the first `n` entries on, the record cuts nothing
  short, and the chip transmits just when a packet is on the
  air.
-/
structure Follows
    (n : Nat)
    (c : Chip) : Prop where
  known : n ≤ c.trace.length
  uncut : Uncut (c.since n)
  mode : c.mode = .tx ↔ InFlight (c.since n)

variable {n : Nat}
variable {c c' : Chip}

/- A chip that does not transmit may be followed from here. -/
theorem follows_start
    (hMode : c.mode ≠ .tx) :
    c.Follows c.trace.length := by
  have hNone : c.since c.trace.length = [] :=
    List.drop_length
  refine ⟨Nat.le_refl _, ?_, ?_⟩
  · rw [hNone]
    exact List.isChain_nil
  · rw [hNone]
    refine iff_of_false hMode fun hFlying => ?_
    rcases hFlying with ⟨packet, hLast⟩
    cases hLast

theorem Follows.same
    (hFollows : c.Follows n)
    (hTrace : c'.trace = c.trace)
    (hMode : c'.mode = .tx ↔ c.mode = .tx) :
    c'.Follows n := by
  have hSince : c'.since n = c.since n := by
    unfold since
    rw [hTrace]
  refine ⟨?_, ?_, ?_⟩
  · rw [hTrace]
    exact hFollows.known
  · rw [hSince]
    exact hFollows.uncut
  · rw [hSince, hMode]
    exact hFollows.mode

theorem since_concat
    (hKnown : n ≤ c.trace.length)
    (hTrace : c'.trace = c.trace ++ [entry]) :
    c'.since n = c.since n ++ [entry] := by
  unfold since
  rw [hTrace, List.drop_append_of_le_length hKnown]

/- One more entry that cuts nothing short. -/
theorem Follows.next
    (hFollows : c.Follows n)
    (hTrace : c'.trace = c.trace ++ [entry])
    (hEntry : c.mode = .tx → entry = .txEnd)
    (hMode : c'.mode = .tx ↔ ∃ packet, entry = .setTx packet) :
    c'.Follows n := by
  have hSince := since_concat hFollows.known hTrace
  refine ⟨?_, ?_, ?_⟩
  · rw [hTrace, List.length_append]
    exact Nat.le_add_right_of_le hFollows.known
  · rw [hSince, uncut_concat, ← hFollows.mode]
    exact ⟨hFollows.uncut, hEntry⟩
  · rw [hSince, inFlight_concat]
    exact hMode

/- The chip records the end of its transmissions itself. -/
theorem follows_react
    (c : Chip)
    (event : ChipEvent)
    (hFollows : c.Follows n) :
    (c.react event).Follows n := by
  apply react_cases (P := Follows n) c event hFollows
  · exact fun _ _ => hFollows.same rfl Iff.rfl
  · intro bits _
    apply hFollows.next rfl (fun _ => rfl)
    refine iff_of_false (fun hEq => by cases hEq) ?_
    intro hSetTx
    rcases hSetTx with ⟨packet, hEq⟩
    cases hEq
  · intro count hMode
    refine hFollows.same rfl ?_
    rw [hMode]
    exact iff_of_false (fun hEq => by cases hEq)
      fun hEq => by cases hEq
  · intro count _ _ _ _ _ hMode
    refine hFollows.same rfl ?_
    rw [hMode]
    change (if count = 0xFFFF then _ else _) = _ ↔ _
    split
    · exact Iff.rfl
    · exact iff_of_false (fun hEq => by cases hEq)
        fun hEq => by cases hEq

end Chip

end LoRaRadio

------------------------------------------------------------
-- Methods and the Record
------------------------------------------------------------

namespace LoRaRadio

open Faulting

variable {n : Nat}
variable {effects : List Effect}
variable {α : Type}
variable {m : RadioM α}

/- The effects that change the mode or write to the buffer. -/
def modeEffects : List Effect :=
  [.reset, .issue .setSleep, .issue .setStandby,
    .issue .setTx, .issue .setRx, .issue .writeBuffer]

instance :
    EventProof (Stays fun s => s.device.chip.Follows n) where
  afterCall _ := fun hFollows =>
    Chip.reacts_induction (I := Chip.Follows n)
      Chip.follows_react _ hFollows

theorem Chip.command_same
    (c : Chip)
    {op : RadioCommands}
    (args : List UInt8)
    (hMode : Effect.issue op ∉ modeEffects) :
    (c.command op args).mode = c.mode ∧
      (c.command op args).trace = c.trace := by
  unfold Chip.command
  split
  · exact absurd (by decide) hMode
  · exact absurd (by decide) hMode
  · exact absurd (by decide) hMode
  · exact absurd (by decide) hMode
  · exact ⟨rfl, rfl⟩
  · exact ⟨rfl, rfl⟩

theorem tolerates_follows
    {e : Effect}
    (hMode : e ∉ modeEffects) :
    Tolerates (Stays fun s => s.device.chip.Follows n) e := by
  cases e with
  | reset => exact absurd (by decide) hMode
  | issue op =>
      intro s args hFollows
      change ((s.device.chip.transfer
        (op.code :: args)).1).Follows n
      apply Chip.transfer_cases s.device.chip
        (P := Chip.Follows n)
      · exact hFollows
      · intro _ address values
        exact hFollows.same (by simp) (by simp)
      · intro hWrite
        subst hWrite
        exact absurd (by decide) hMode
      · intro _
        have hSame :=
          s.device.chip.command_same args hMode
        exact hFollows.same hSame.2 (by rw [hSame.1])
  | _ => exact fun _ _ hFollows => hFollows

/- Most methods cut nothing short. -/
theorem Issues.keeps_follows
    (hIssues : Issues effects α m)
    (hMode : ∀ e ∈ effects, e ∉ modeEffects) :
    Keeps (Stays fun s => s.device.chip.Follows n) m :=
  hIssues.keeps fun e hMem => tolerates_follows (hMode e hMem)

/- A chip that does not transmit, with the record as it was. -/
def OffAir
    (s s' : RadioState) : Prop :=
  s.device.chip.mode ≠ .tx →
    s'.device.chip.mode ≠ .tx ∧
      s'.device.chip.trace = s.device.chip.trace

theorem ChipMode.standby_ne_tx :
    ChipMode.standby ≠ .tx := by
  decide

theorem Chip.react_offAir
    (c : Chip)
    (event : ChipEvent)
    (hMode : c.mode ≠ .tx) :
    (c.react event).mode ≠ .tx ∧
      (c.react event).trace = c.trace := by
  apply react_cases
    (P := fun c' => c'.mode ≠ .tx ∧ c'.trace = c.trace) c event
  · exact ⟨hMode, rfl⟩
  · exact fun _ _ => ⟨hMode, rfl⟩
  · exact fun _ hTx => absurd hTx hMode
  · exact fun _ _ => ⟨ChipMode.standby_ne_tx, rfl⟩
  · intro count _ _ _ _ _ _
    refine ⟨?_, rfl⟩
    change (if count = 0xFFFF then _ else _) ≠ _
    split
    · intro hEq
      cases hEq
    · exact ChipMode.standby_ne_tx

instance : EventProof OffAir where
  refl _ := fun hMode => ⟨hMode, rfl⟩
  trans _ _ _ hFirst hSecond := fun hMode =>
    have hMiddle := hFirst hMode
    have hLast := hSecond hMiddle.1
    ⟨hLast.1, hLast.2.trans hMiddle.2⟩
  afterCall s := fun hMode =>
    Chip.reacts_induction
      (I := fun c => c.mode ≠ .tx ∧
        c.trace = s.device.chip.trace)
      (fun c event hBefore =>
        have hAfter := c.react_offAir event hBefore.1
        ⟨hAfter.1, hAfter.2.trans hBefore.2⟩)
      _ ⟨hMode, rfl⟩

theorem Chip.command_offAir
    (c : Chip)
    {op : RadioCommands}
    (args : List UInt8)
    (hOp : op ≠ .setTx)
    (hMode : c.mode ≠ .tx) :
    (c.command op args).mode ≠ .tx := by
  unfold Chip.command
  split
  · intro hEq
    cases hEq
  · exact ChipMode.standby_ne_tx
  · exact absurd rfl hOp
  · intro hEq
    cases hEq
  · exact hMode
  · exact hMode

/- Only `SET_TX` puts a chip on the air. -/
theorem tolerates_offAir
    {e : Effect}
    (hTx : e ≠ .issue .setTx)
    (hWrite : e ≠ .issue .writeBuffer) :
    Tolerates OffAir e := by
  cases e with
  | reset => exact fun _ _ => ⟨ChipMode.standby_ne_tx, rfl⟩
  | issue op =>
      have hOp : op ≠ .setTx := fun hEq => hTx (hEq ▸ rfl)
      have hOther : op ≠ .writeBuffer :=
        fun hEq => hWrite (hEq ▸ rfl)
      intro s args hMode
      change
        ((s.device.chip.transfer (op.code :: args)).1
          ).mode ≠ .tx ∧
        ((s.device.chip.transfer (op.code :: args)).1
          ).trace = s.device.chip.trace
      apply Chip.transfer_cases s.device.chip
        (P := fun c => c.mode ≠ .tx ∧
          c.trace = s.device.chip.trace)
      · exact ⟨hMode, rfl⟩
      · intro _ address values
        simpa using hMode
      · exact fun hEq => absurd hEq hOther
      · intro _
        refine ⟨Chip.command_offAir _ args hOp hMode, ?_⟩
        rw [Chip.trace_command, if_neg hOp]
  | _ => exact fun _ _ hMode => ⟨hMode, rfl⟩

theorem Issues.keeps_offAir
    (hIssues : Issues effects α m)
    (hTx : .issue .setTx ∉ effects)
    (hWrite : .issue .writeBuffer ∉ effects) :
    Keeps OffAir m :=
  hIssues.keeps fun _ hMem =>
    tolerates_offAir (fun hEq => hTx (hEq ▸ hMem))
      fun hEq => hWrite (hEq ▸ hMem)

/- The record is only added to. -/
def Records
    (s s' : RadioState) : Prop :=
  s.device.chip.trace <+: s'.device.chip.trace

theorem Chip.react_records
    (c : Chip)
    (event : ChipEvent) :
    c.trace <+: (c.react event).trace := by
  apply react_cases (P := fun c' => c.trace <+: c'.trace)
    c event
  · exact List.prefix_rfl
  · exact fun _ _ => List.prefix_rfl
  · exact fun _ _ => List.prefix_append _ _
  · exact fun _ _ => List.prefix_rfl
  · exact fun _ _ _ _ _ _ _ => List.prefix_rfl

instance : EventProof Records where
  refl _ := List.prefix_rfl
  trans _ _ _ hFirst hSecond := hFirst.trans hSecond
  afterCall s :=
    Chip.reacts_induction
      (I := fun c => s.device.chip.trace <+: c.trace)
      (fun c event hBefore =>
        hBefore.trans (c.react_records event))
      _ List.prefix_rfl

theorem tolerates_records
    (e : Effect) :
    Tolerates Records e := by
  cases e with
  | reset => exact fun _ => List.prefix_rfl
  | issue op =>
      intro s args
      change s.device.chip.trace <+:
        ((s.device.chip.transfer (op.code :: args)).1).trace
      apply Chip.transfer_cases s.device.chip
        (P := fun c => s.device.chip.trace <+: c.trace)
      · exact List.prefix_rfl
      · intro _ address values
        simp
      · exact fun _ _ _ => List.prefix_append _ _
      · intro _
        rw [Chip.trace_command]
        split
        · exact List.prefix_append _ _
        · exact List.prefix_rfl
  | _ => exact fun _ _ => List.prefix_rfl

theorem Issues.keeps_records
    (hIssues : Issues effects α m) :
    Keeps Records m :=
  hIssues.keeps fun e _ => tolerates_records e

end LoRaRadio

------------------------------------------------------------
-- One Transmission on the Record
------------------------------------------------------------

namespace LoRaRadio

open Faulting

/-
  The chip when a payload that is sent now reaches its data
  buffer: a wait and the transfer come first.
-/
def Device.onWrite
    (d : Device) : Chip :=
  (RadioState.afterCall
    (RadioState.afterCall ⟨{}, d⟩)).device.chip

variable {n : Nat}
variable {payload : List UInt8}
variable {timeout : TickTime}
variable {s s' : RadioState}
variable {a : Unit}

theorem follows_onWrite
    (hFollows : s.device.chip.Follows n) :
    s.device.onWrite.Follows n := by
  have hCall : ∀ r : RadioState,
      r.device.chip.Follows n →
        r.afterCall.device.chip.Follows n :=
    EventProof.afterCall
      (R := Stays fun s => s.device.chip.Follows n)
  exact hCall s.afterCall (hCall s hFollows)

theorem records_onWrite
    (s : RadioState) :
    s.device.chip.trace <+: s.device.onWrite.trace := by
  have hCall := EventProof.afterCall (R := Records)
  exact (hCall s).trans (hCall s.afterCall)

/- The payload is written to the chip as it is then. -/
theorem loadTx_written
    (hRun : exec (loadTx payload) s = (.ok a, s')) :
    ∃ s₁ : RadioState,
      s₁.device.chip.trace =
          s.device.onWrite.trace ++
            [.writeBuffer 0 payload] ∧
        s₁.device.chip.mode = s.device.onWrite.mode ∧
        exec prepareTx s₁.afterCall = (.ok (), s') := by
  unfold loadTx at hRun
  rcases exec_bind_ok.mp hRun with
    ⟨_, s₁, hWrite, hPrepare⟩
  rw [writeBuffer_ok hWrite] at hPrepare
  exact ⟨s.afterCall.afterCall.setChip
    (s.afterCall.afterCall.device.chip.transfer
      (RadioCommands.writeBuffer.code :: 0 :: payload)).1,
    rfl, rfl, hPrepare⟩

/-
  A payload written while the chip does not transmit is sent
  at once: its `SET_TX` comes next on the record, and what
  comes after it is up to the chip.
-/
theorem sendPayload_launches
    (hRun :
      exec (sendPayload payload timeout) s = (.ok a, s'))
    (hOff : s.device.onWrite.mode ≠ .tx) :
    ∃ (packet : List UInt8) (c : Chip)
        (events : List ChipEvent),
      c.trace =
          s.device.onWrite.trace ++
            [.writeBuffer 0 payload] ++ [.setTx packet] ∧
        c.mode = .tx ∧
        s'.device.chip = c.reacts events := by
  rw [sendPayload_eq] at hRun
  simp only [exec_bind_ok, exec_modify,
    Prod.mk.injEq] at hRun
  rcases hRun with ⟨_, s₂, hLoad, _, s₃, hTx, -, rfl⟩
  rcases loadTx_written hLoad with
    ⟨s₁, hTrace, hMode, hPrepare⟩
  have hCall := EventProof.afterCall (R := OffAir)
  rw [← hMode] at hOff
  have hWritten := hCall s₁ hOff
  have hPrepared :=
    (issues_prepareTx.keeps_offAir (by decide) (by decide)
      ).of_exec hPrepare hWritten.1
  have hWaited := hCall s₂ hPrepared.1
  have hReady := hCall s₂.afterCall hWaited.1
  generalize hChip :
    s₂.afterCall.afterCall.device.chip = c at hReady
  have hSame : c.trace = s₁.device.chip.trace :=
    hReady.2.trans
      (hWaited.2.trans (hPrepared.2.trans hWritten.2))
  have hIssued :
      ∃ events,
        s₃.device.chip =
          (c.command .setTx (tickBytes timeout)).reacts
            events := by
    rw [writeCommand_ok (by decide) (by decide) hTx, ← hChip]
    exact ⟨_, rfl⟩
  rcases hIssued with ⟨events, hEvents⟩
  refine ⟨c.outgoing, c.command .setTx (tickBytes timeout),
    events, ?_, rfl, hEvents⟩
  rw [Chip.trace_command, if_pos rfl, hSame, hTrace]

/- Such a transmission cuts nothing short. -/
theorem sendPayload_follows
    (hRun :
      exec (sendPayload payload timeout) s = (.ok a, s'))
    (hOff : s.device.onWrite.mode ≠ .tx)
    (hFollows : s.device.chip.Follows n) :
    s'.device.chip.Follows n := by
  rcases sendPayload_launches hRun hOff with
    ⟨packet, c, events, hTrace, hMode, hChip⟩
  have hWritten :
      Chip.Follows n
        { s.device.onWrite with
          trace := s.device.onWrite.trace ++
            [ChipTrace.writeBuffer 0 payload] } := by
    apply (follows_onWrite hFollows).next rfl
    · exact fun hTx => absurd hTx hOff
    · refine iff_of_false hOff fun hSetTx => ?_
      rcases hSetTx with ⟨packet, hEq⟩
      cases hEq
  have hSent : c.Follows n := by
    apply hWritten.next hTrace
    · exact fun hTx => absurd hTx hOff
    · exact iff_of_true hMode ⟨packet, rfl⟩
  rw [hChip]
  exact Chip.reacts_induction (I := Chip.Follows n)
    Chip.follows_react events hSent

/- A payload written while it transmits cuts that short. -/
theorem sendPayload_cuts
    (hRun :
      exec (sendPayload payload timeout) s = (.ok a, s'))
    (hOn : s.device.onWrite.mode = .tx)
    (hFollows : s.device.chip.Follows n) :
    ¬ Uncut (s'.device.chip.since n) := by
  rw [sendPayload_eq] at hRun
  rcases exec_bind_ok.mp hRun with ⟨_, s₂, hLoad, hRest⟩
  rcases loadTx_written hLoad with
    ⟨s₁, hTrace, hMode, hPrepare⟩
  have hBefore := follows_onWrite hFollows
  have hSince : s₁.device.chip.since n =
      s.device.onWrite.since n ++ [.writeBuffer 0 payload] :=
    Chip.since_concat hBefore.known hTrace
  have hCalled := EventProof.afterCall (R := Records) s₁
  have hPrepared :=
    issues_prepareTx.keeps_records.of_exec hPrepare
  have hIssue :
      Issues [.issue .setTx, .setMode] Unit
        (do
          writeCommand .setTx (tickBytes timeout)
          modify (RadioState.setOperatingMode .tx)) :=
    (issues_writeCommand _ (by decide)).bind
      fun _ => .setMode _ (by decide)
  have hIssued := hIssue.keeps_records.of_exec hRest
  have hGrown :
      s₁.device.chip.trace <+: s'.device.chip.trace :=
    hCalled.trans (hPrepared.trans hIssued)
  intro hUncut
  have hWritten := List.IsChain.prefix hUncut (hGrown.drop n)
  change Uncut (s₁.device.chip.since n) at hWritten
  rw [hSince, uncut_concat] at hWritten
  cases hWritten.2 (hBefore.mode.mp hOn)

end LoRaRadio
