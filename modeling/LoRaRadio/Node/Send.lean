import LoRaRadio.Node.NodeLemmas
import LoRaRadio.Radio.HalCalls
import LoRaRadio.Radio.Transmission

/-
  One `send` of the node: when it returns, with what answer,
  and what it puts on the air.

  Main declarations:
    * `NodeState.Transmits`
    * `exec_send_of_transmits`
    * `NodeState.callsOfSend` and `NodeState.CallsEnd`
    * `post_send`
-/

------------------------------------------------------------
-- The Answer of a Send
------------------------------------------------------------

namespace LoRaRadio

open Faulting

namespace NodeState

/- `send` hands the payload to the TX radio. -/
def Transmits
    (s : NodeState)
    (payload : List UInt8) : Prop :=
  (s.node.started = true ∧ s.node.txRadio.isSome = true) ∧
    payload ≠ [] ∧ payload.length ≤ 255

instance
    (s : NodeState)
    (payload : List UInt8) :
    Decidable (s.Transmits payload) :=
  inferInstanceAs (Decidable (_ ∧ _))

/- The answer of a `send` that makes no hardware call. -/
def idleAnswer
    (s : NodeState)
    (payload : List UInt8) : Bool :=
  s.node.started && s.node.txRadio.isSome &&
    payload.isEmpty

end NodeState

variable {s : NodeState}
variable {payload : List UInt8}

theorem exec_send_of_not_transmits
    (hNot : ¬ s.Transmits payload) :
    exec (send payload) s =
      (.ok (s.idleAnswer payload), s) := by
  unfold NodeState.Transmits at hNot
  unfold send NodeState.idleAnswer
  rw [exec_bind, exec_get]
  cases hStarted : s.node.started with
  | false => simp [hStarted]
  | true =>
      cases hRadio : s.node.txRadio with
      | none => simp [hStarted, hRadio]
      | some radio =>
          cases payload with
          | nil => simp [hStarted, hRadio]
          | cons b bytes =>
              have hLong : 255 < bytes.length + 1 := by
                simp [hStarted, hRadio] at hNot
                omega
              simp [hStarted, hRadio, hLong]

theorem exec_send_of_transmits
    (hTransmits : s.Transmits payload) :
    exec (send payload) s =
      exec
        (do
          onOwned .tx
            (sendPayload payload
              s.node.config.radio.timeouts.txTimeout)
          return true) s := by
  rcases hTransmits with
    ⟨⟨hStarted, hRadio⟩, hNonempty, hLength⟩
  have hSome : s.node.txRadio.isNone = false := by
    simpa using hRadio
  have hShort : ¬ payload.length > 0xFF := by omega
  unfold send
  rw [exec_bind, exec_get]
  simp only [hStarted, hSome, hShort,
    List.isEmpty_iff, hNonempty, Bool.not_true,
    Bool.or_self, Bool.false_eq_true, if_false]

end LoRaRadio

------------------------------------------------------------
-- The Hardware Calls of a Send
------------------------------------------------------------

namespace LoRaRadio

open Faulting

namespace NodeState

/- The number of hardware calls a `send` from `s` makes. -/
def callsOfSend
    (s : NodeState)
    (payload : List UInt8) : Nat :=
  if s.Transmits payload then
    (s.node.txRadio.map sendCalls).getD 0
  else 0

/-
  The hardware calls of a `send` from `s` all come back, and
  none of them throws.
-/
def SendGoesThrough
    (s : NodeState)
    (payload : List UInt8) : Prop :=
  s.txDevice.Responds (s.callsOfSend payload) ∧
    s.txDevice.Quiet (s.callsOfSend payload)

/- The devices of `s'` are those of `s` after more calls. -/
def Later
    (s s' : NodeState) : Prop :=
  ∀ side, (s.device side).Later (s'.device side)

/- Each hardware call between `s` and `s'` comes back. -/
def CallsEnd
    (s s' : NodeState) : Prop :=
  ∀ side k,
    (s.device side).clock ≤ k →
      k < (s'.device side).clock →
        ((s.device side).hal k).ComesBack

end NodeState

variable {s s₁ s' : NodeState}
variable {payload : List UInt8}

theorem callsEnd_trans_iff
    (hFirst : s.Later s₁)
    (hSecond : s₁.Later s') :
    s.CallsEnd s' ↔ s.CallsEnd s₁ ∧ s₁.CallsEnd s' := by
  constructor
  · intro hEnd
    refine ⟨fun side k hLow hHigh => ?_,
      fun side k hLow hHigh => ?_⟩
    · have hMore := (hSecond side).2
      exact hEnd side k hLow (hHigh.trans_le hMore)
    · have hMore := (hFirst side).2
      rw [(hFirst side).1]
      exact hEnd side k (hMore.trans hLow) hHigh
  · rintro ⟨hEnd₁, hEnd⟩ side k hLow hHigh
    by_cases hEarly : k < (s₁.device side).clock
    · exact hEnd₁ side k hLow hEarly
    · rw [← (hFirst side).1]
      exact hEnd side k (Nat.not_lt.mp hEarly) hHigh

/- Calls of the TX radio alone. -/
theorem callsEnd_tx_iff
    {n : Nat}
    (hRx : s'.rxDevice = s.rxDevice)
    (hTx : s'.txDevice.clock = s.txDevice.clock + n) :
    s.CallsEnd s' ↔ s.txDevice.Responds n := by
  constructor
  · intro hEnd k hLt
    refine hEnd .tx (s.txDevice.clock + k)
      (Nat.le_add_right _ _) ?_
    change s.txDevice.clock + k < s'.txDevice.clock
    omega
  · intro hResponds side k hLow hHigh
    cases side with
    | rx =>
        change k < s'.rxDevice.clock at hHigh
        rw [hRx] at hHigh
        exact absurd hHigh (Nat.not_lt.mpr hLow)
    | tx =>
        change s.txDevice.clock ≤ k at hLow
        change k < s'.txDevice.clock at hHigh
        have hCall :=
          hResponds (k - s.txDevice.clock) (by omega)
        rwa [Nat.add_sub_cancel' hLow] at hCall

/-
  A `send` whose calls come back returns exactly when none
  of them throws.  If the answer is true, the payload was
  empty or a packet has been put on the air.
-/
theorem post_send
    (s : NodeState)
    (payload : List UInt8) :
    Post (send payload)
      (fun ok s' =>
        s.txDevice.Quiet (s.callsOfSend payload) ∧
          s.Later s' ∧
          (s.CallsEnd s' ↔
            s.txDevice.Responds (s.callsOfSend payload)) ∧
          (ok = true →
            payload = [] ∨
              ∃ packet,
                s'.txDevice.chip.air =
                  s.txDevice.chip.air ++ [packet]))
      (fun _ _ =>
        ¬ s.txDevice.Quiet (s.callsOfSend payload)) s := by
  unfold NodeState.callsOfSend
  by_cases hTransmits : s.Transmits payload
  · rw [if_pos hTransmits]
    rcases Option.isSome_iff_exists.mp hTransmits.1.2 with
      ⟨radio, hRadio⟩
    have hTx : s.radio .tx = some radio := hRadio
    have hCount :
        (s.node.txRadio.map sendCalls).getD 0 =
          sendCalls radio := by
      rw [hRadio]
      rfl
    rw [hCount]
    have hCalls :=
      callsHal_sendPayload (s := ⟨radio, s.txDevice⟩)
        payload s.node.config.radio.timeouts.txTimeout
    have hAir :
        Post
          (sendPayload payload
            s.node.config.radio.timeouts.txTimeout)
          (fun _ r => ∃ packet, r.device.chip.air =
            s.txDevice.chip.air ++ [packet])
          (fun _ _ => True) ⟨radio, s.txDevice⟩ := by
      apply post_of_ok
      intro a r hRun
      rcases sendPayload_ok hRun with ⟨-, c, hAir, -⟩
      exact ⟨c.outgoing, hAir⟩
    rw [post_congr (exec_send_of_transmits hTransmits),
      post_bind, post_onOwned hTx]
    apply Post.mono (hCalls.and hAir)
    · rintro _ r ⟨⟨hQuiet, hHal, hClock, -⟩, hPacket⟩
      refine ⟨hQuiet, fun side => ?_,
        callsEnd_tx_iff rfl hClock, fun _ => .inr hPacket⟩
      cases side with
      | rx => exact ⟨rfl, Nat.le_refl _⟩
      | tx =>
          refine ⟨hHal, ?_⟩
          change s.txDevice.clock ≤ r.device.clock
          rw [hClock]
          exact Nat.le_add_right _ _
    · rintro e r ⟨⟨hLoud, -⟩, -⟩
      exact hLoud
  · rw [if_neg hTransmits]
    unfold Post
    rw [exec_send_of_not_transmits hTransmits]
    refine ⟨s.txDevice.quiet_zero,
      fun side => ⟨rfl, Nat.le_refl _⟩,
      callsEnd_tx_iff rfl rfl, ?_⟩
    unfold NodeState.idleAnswer
    intro hOk
    simp only [Bool.and_eq_true, List.isEmpty_iff] at hOk
    exact .inl hOk.2

end LoRaRadio
