import LoRaRadio.Radio.DriverLemmas

/-
  The number of hardware calls a method makes.  A method
  that makes `n` calls returns exactly when each of the next
  `n` calls comes back and none throws, so this is decided
  by the environment and the number alone.

  Main declarations:
    * `CallsHal`
    * `sendCalls`
    * `callsHal_sendPayload`
-/

------------------------------------------------------------
-- Counting Calls
------------------------------------------------------------

namespace LoRaRadio

open Faulting

namespace Device

/- None of the next `n` hardware calls throws. -/
def Quiet
    (d : Device)
    (n : Nat) : Prop :=
  ∀ k < n, (d.hal (d.clock + k)).throws = false

instance
    (d : Device)
    (n : Nat) :
    Decidable (d.Quiet n) :=
  inferInstanceAs
    (Decidable
      (∀ k < n, (d.hal (d.clock + k)).throws = false))

/- Each of the next `n` hardware calls comes back. -/
def Responds
    (d : Device)
    (n : Nat) : Prop :=
  ∀ k < n, (d.hal (d.clock + k)).ComesBack

theorem quiet_zero
    (d : Device) :
    d.Quiet 0 :=
  fun _ hLt => absurd hLt (Nat.not_lt_zero _)

theorem quiet_one
    (d : Device) :
    d.Quiet 1 ↔ (d.hal d.clock).throws = false := by
  constructor
  · intro hQuiet
    exact hQuiet 0 Nat.one_pos
  · intro hNext k hLt
    obtain rfl : k = 0 := by omega
    exact hNext

theorem quiet_succ
    (d : Device)
    (n : Nat) :
    d.Quiet (n + 1) ↔
      d.Quiet n ∧ (d.hal (d.clock + n)).throws = false := by
  constructor
  · intro hQuiet
    exact ⟨fun k hLt => hQuiet k (by omega),
      hQuiet n (by omega)⟩
  · intro hBoth k hLt
    rcases Nat.lt_succ_iff_lt_or_eq.mp hLt with hLess | rfl
    · exact hBoth.1 k hLess
    · exact hBoth.2

theorem quiet_add
    {d d' : Device}
    {a b : Nat}
    (hHal : d'.hal = d.hal)
    (hClock : d'.clock = d.clock + a) :
    d.Quiet (a + b) ↔ d.Quiet a ∧ d'.Quiet b := by
  constructor
  · intro hQuiet
    refine ⟨fun k hLt => hQuiet k (by omega), ?_⟩
    intro k hLt
    rw [hHal, hClock, Nat.add_assoc]
    exact hQuiet (a + k) (by omega)
  · rintro ⟨hFirst, hSecond⟩ k hLt
    by_cases hEarly : k < a
    · exact hFirst k hEarly
    · have hLate := hSecond (k - a) (by omega)
      rw [hHal, hClock, Nat.add_assoc] at hLate
      rwa [show a + (k - a) = k by omega] at hLate

end Device

/- The next call and those after it. -/
theorem RadioState.quiet_succ
    (s : RadioState)
    (n : Nat) :
    s.device.Quiet (n + 1) ↔
      s.nextEvent.throws = false ∧
        s.afterCall.device.Quiet n := by
  have hSplit :
      s.device.Quiet (1 + n) ↔
        s.device.Quiet 1 ∧ s.afterCall.device.Quiet n :=
    Device.quiet_add rfl rfl
  rw [Nat.add_comm, hSplit, Device.quiet_one]
  rfl

/- The same radio object up to its operating mode. -/
def SameButMode
    (radio radio' : LinuxSx1280Radio) : Prop :=
  radio' =
    { radio with operatingMode := radio'.operatingMode }

theorem SameButMode.trans
    {r r' r'' : LinuxSx1280Radio}
    (hFirst : SameButMode r r')
    (hSecond : SameButMode r' r'') :
    SameButMode r r'' := by
  unfold SameButMode at *
  rw [hSecond, hFirst]

/-
  From the state `s`, the method `m` makes `n` hardware
  calls unless one of them throws, and throws only then.
-/
def CallsHal
    {α : Type}
    (n : Nat)
    (m : RadioM α)
    (s : RadioState) : Prop :=
  Post m
    (fun _ s' =>
      s.device.Quiet n ∧
        s'.device.hal = s.device.hal ∧
        s'.device.clock = s.device.clock + n ∧
        SameButMode s.radio s'.radio)
    (fun _ s' =>
      ¬ s.device.Quiet n ∧
        s'.device.hal = s.device.hal)
    s

variable {α β : Type}
variable {s : RadioState}

theorem CallsHal.bind
    {a b : Nat}
    {m : RadioM α}
    {f : α → RadioM β}
    (hFirst : CallsHal a m s)
    (hSecond :
      ∀ x s', SameButMode s.radio s'.radio →
        CallsHal b (f x) s') :
    CallsHal (a + b) (m >>= f) s := by
  unfold CallsHal
  rw [post_bind]
  apply Post.mono hFirst
  · rintro x s' ⟨hQuiet, hHal, hClock, hRadio⟩
    have hSplit :=
      Device.quiet_add (b := b) hHal hClock
    apply Post.mono (hSecond x s' hRadio)
    · rintro y s'' ⟨hQuiet', hHal', hClock', hRadio'⟩
      exact ⟨hSplit.mpr ⟨hQuiet, hQuiet'⟩,
        hHal'.trans hHal, by omega, hRadio.trans hRadio'⟩
    · rintro e s'' ⟨hNot, hHal'⟩
      exact ⟨fun hAll => hNot (hSplit.mp hAll).2,
        hHal'.trans hHal⟩
  · rintro e s' ⟨hNot, hHal⟩
    exact ⟨fun hAll => hNot fun k hLt =>
      hAll k (by omega), hHal⟩

theorem callsHal_pure
    (a : α) :
    CallsHal 0 (pure a : RadioM α) s :=
  ⟨s.device.quiet_zero, rfl, rfl, rfl⟩

theorem callsHal_halCall
    (message : String) :
    CallsHal 1 (halCall message) s := by
  have hQuiet :
      s.device.Quiet 1 ↔ s.nextEvent.throws = false :=
    s.device.quiet_one
  unfold CallsHal Post halCall
  rw [exec_mk, hQuiet]
  by_cases hThrows : s.nextEvent.throws
  · simp [hThrows]
  · simp [hThrows, SameButMode]

end LoRaRadio

------------------------------------------------------------
-- Calls of a Transmission
------------------------------------------------------------

namespace LoRaRadio

open Faulting

variable {s : RadioState}

theorem callsHal_halSpiTransfer
    (out : List UInt8) :
    CallsHal 1 (halSpiTransfer out) s := by
  unfold halSpiTransfer
  refine (callsHal_halCall _).bind (b := 0) fun _ s' _ => ?_
  exact ⟨s'.device.quiet_zero, rfl, rfl, rfl⟩

theorem callsHal_writeCommand
    {op : RadioCommands}
    (args : List UInt8)
    (hSleep : op ≠ .setSleep) :
    CallsHal 3 (writeCommand op args) s := by
  unfold writeCommand
  refine (callsHal_halCall _).bind (b := 2) fun _ _ _ => ?_
  refine (callsHal_halSpiTransfer _).bind (b := 1)
    fun _ _ _ => ?_
  rw [if_pos hSleep]
  exact callsHal_halCall _

theorem callsHal_readCommand
    {op : RadioCommands}
    (size : Nat)
    (hStatus : op ≠ .getStatus) :
    CallsHal 3 (readCommand op size) s := by
  unfold readCommand
  refine (callsHal_halCall _).bind (b := 2) fun _ _ _ => ?_
  rw [if_neg hStatus]
  refine (callsHal_halSpiTransfer _).bind (b := 1)
    fun _ _ _ => ?_
  exact (callsHal_halCall _).bind (b := 0)
    fun _ _ _ => callsHal_pure _

/- The calls of the locked half of a poll. -/
theorem callsHal_processIrqsLocked :
    CallsHal 6 processIrqsLocked s := by
  unfold processIrqsLocked
  have hGet :
      CallsHal 0 (get : RadioM RadioState) s :=
    ⟨s.device.quiet_zero, rfl, rfl, rfl⟩
  refine hGet.bind (b := 6) fun s₀ s₁ _ => ?_
  refine CallsHal.bind (a := 3) (b := 3) ?_ fun w s₂ _ => ?_
  · unfold getIrqStatus
    exact (callsHal_readCommand _ (by decide)).bind (b := 0)
      fun _ _ _ => callsHal_pure _
  · exact (callsHal_writeCommand _ (by decide)).bind (b := 0)
      fun _ _ _ => callsHal_pure _

theorem callsHal_writeBuffer
    (offset : UInt8)
    (bytes : List UInt8) :
    CallsHal 3 (writeBuffer offset bytes) s := by
  unfold writeBuffer
  refine (callsHal_halCall _).bind (b := 2) fun _ _ _ => ?_
  exact (callsHal_halSpiTransfer _).bind (b := 1)
    fun _ _ _ => callsHal_halCall _

/- The calls of a hook: one if it drives the line. -/
def hookCalls
    (state : TxEnableBehavior → Option Bool)
    (radio : LinuxSx1280Radio) : Nat :=
  match state radio.config.pins.txEnableBehavior with
  | some _ => if radio.hasTxEnableLine then 1 else 0
  | none => 0

theorem callsHal_setTxEnable
    (asserted : Bool) :
    CallsHal (if s.radio.hasTxEnableLine then 1 else 0)
      (setTxEnable asserted) s := by
  have hCall :=
    callsHal_halCall (s := s) "failed to write GPIO line value"
  unfold CallsHal Post at *
  rw [exec_setTxEnable]
  unfold halCall at hCall
  rw [exec_mk] at hCall
  by_cases hLine : s.radio.hasTxEnableLine
  · by_cases hThrows : s.nextEvent.throws
    · simpa [hLine, hThrows] using hCall
    · simpa [hLine, hThrows] using hCall
  · simp only [hLine, Bool.false_eq_true, if_false]
    exact ⟨s.device.quiet_zero, trivial, rfl, rfl⟩

theorem callsHal_hook
    (state : TxEnableBehavior → Option Bool) :
    CallsHal (hookCalls state s.radio) (hook state) s := by
  unfold hookCalls CallsHal
  cases hState :
      state s.radio.config.pins.txEnableBehavior with
  | none =>
      rw [post_congr (exec_hook_none hState)]
      exact callsHal_pure ()
  | some asserted =>
      rw [post_congr (exec_hook_some hState)]
      exact callsHal_setTxEnable asserted

/- The calls `SetTx` makes for the ranging role. -/
def rangingCalls
    (radio : LinuxSx1280Radio) : Nat :=
  if radio.packetType = .ranging then 3 else 0

theorem callsHal_setRoleWhenRanging
    (role : RadioRangingRoles) :
    CallsHal (rangingCalls s.radio) (setRoleWhenRanging role)
      s := by
  change CallsHal _
    (if s.radio.packetType = .ranging then
      setRangingRole role
    else pure ()) s
  unfold rangingCalls
  split
  · exact callsHal_writeCommand _ (by decide)
  · exact callsHal_pure ()

/- The calls `SetTx` makes. -/
def setTxCalls
    (radio : LinuxSx1280Radio) : Nat :=
  3 + (rangingCalls radio +
    (hookCalls postRxState radio +
      (hookCalls preTxState radio + 3)))

/- The calls `SendPayload` makes. -/
def sendCalls
    (radio : LinuxSx1280Radio) : Nat :=
  3 + setTxCalls radio

theorem callsHal_setTx
    (timeout : TickTime) :
    CallsHal (setTxCalls s.radio) (setTx timeout) s := by
  unfold setTx setTxCalls
  refine (callsHal_writeCommand _ (by decide)).bind ?_
  intro _ s₁ hRadio
  rw [show rangingCalls s.radio = rangingCalls s₁.radio by
    rw [hRadio]; rfl]
  refine (callsHal_setRoleWhenRanging _).bind ?_
  intro _ s₂ hRadio₂
  replace hRadio := hRadio.trans hRadio₂
  rw [show hookCalls postRxState s.radio =
    hookCalls postRxState s₂.radio by rw [hRadio]; rfl]
  refine (callsHal_hook _).bind ?_
  intro _ s₃ hRadio₃
  replace hRadio := hRadio.trans hRadio₃
  rw [show hookCalls preTxState s.radio =
    hookCalls preTxState s₃.radio by rw [hRadio]; rfl]
  refine (callsHal_hook _).bind ?_
  intro _ s₄ _
  refine (callsHal_writeCommand _ (by decide)).bind (b := 0)
    ?_
  intro _ s₅ _
  exact ⟨s₅.device.quiet_zero, rfl, rfl, rfl⟩

theorem callsHal_sendPayload
    (payload : List UInt8)
    (timeout : TickTime) :
    CallsHal (sendCalls s.radio) (sendPayload payload timeout)
      s := by
  unfold sendPayload setPayload sendCalls
  refine (callsHal_writeBuffer _ _).bind ?_
  intro _ s₁ hRadio
  rw [show setTxCalls s.radio = setTxCalls s₁.radio by
    rw [hRadio]; rfl]
  exact callsHal_setTx timeout

end LoRaRadio
