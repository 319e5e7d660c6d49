import Mathlib.Algebra.Order.Group.Multiset
import Mathlib.Tactic.Abel
import LoRaRadio.Radio.BringUp
import LoRaRadio.Radio.HalCalls

/-
  How a radio object comes up and goes down.

  A part of the constructor is described by the number of
  kernel calls it makes and the handles it acquires.  It
  returns exactly when these calls go through and its lines
  are free; when it throws, what it had acquired by then
  stays with the process.

  Main declarations:
    * `Kernel.Goes`
    * `Acquires` and its rules
    * `acquires_requestLine`
-/

------------------------------------------------------------
-- Calls That Go Through
------------------------------------------------------------

namespace LoRaRadio

def Handle.isLine : Handle → Bool
| .line _ _ => true
| _ => false

namespace Kernel

/- None of the next `n` calls fails. -/
def Clear
    (n : Nat)
    (k : Kernel) : Prop :=
  ∀ j < n, k.fails (k.clock + j) = false

/-
  The kernel can grant all of `got` to a process that holds
  `held`: no line is requested twice.
-/
def Grantable
    (got held : Multiset Handle) : Prop :=
  ∀ h ∈ got, h.isLine = true → (got + held).count h = 1

instance
    (got held : Multiset Handle) :
    Decidable (Grantable got held) :=
  inferInstanceAs (Decidable (∀ h ∈ got, _ → _ = _))

/- The next `n` calls acquire all of `got`. -/
def Goes
    (n : Nat)
    (got : Multiset Handle)
    (k : Kernel) : Prop :=
  k.Clear n ∧ Grantable got k.held

/- The kernel after `n` calls that acquired `got`. -/
def advance
    (n : Nat)
    (got : Multiset Handle)
    (k : Kernel) : Kernel :=
  { k with held := got + k.held, clock := k.clock + n }

variable (k : Kernel)

@[simp] theorem clear_zero :
    k.Clear 0 :=
  fun _ hLt => absurd hLt (Nat.not_lt_zero _)

theorem clear_succ
    (n : Nat) :
    k.Clear (n + 1) ↔
      k.nextFails = false ∧ k.afterCall.Clear n := by
  constructor
  · intro hClear
    refine ⟨hClear 0 (Nat.succ_pos n), ?_⟩
    intro j hLt
    have hNext := hClear (j + 1) (Nat.succ_lt_succ hLt)
    rwa [show k.clock + (j + 1) = k.clock + 1 + j by omega]
      at hNext
  · rintro ⟨hNext, hClear⟩ j hLt
    cases j with
    | zero => exact hNext
    | succ j =>
        have hLater := hClear j (Nat.lt_of_succ_lt_succ hLt)
        rwa [show k.clock + (j + 1) = k.clock + 1 + j by
          omega]

theorem clear_add
    (a b : Nat)
    (got : Multiset Handle) :
    k.Clear (a + b) ↔
      k.Clear a ∧ (k.advance a got).Clear b := by
  constructor
  · intro hClear
    refine ⟨fun j hLt => hClear j (by omega), ?_⟩
    intro j hLt
    have hLater := hClear (a + j) (by omega)
    rwa [← Nat.add_assoc] at hLater
  · rintro ⟨hFirst, hSecond⟩ j hLt
    by_cases hEarly : j < a
    · exact hFirst j hEarly
    · have hLater := hSecond (j - a) (by omega)
      change k.fails (k.clock + a + (j - a)) = false at hLater
      rwa [show k.clock + a + (j - a) = k.clock + j by omega]
        at hLater

theorem grantable_zero
    (held : Multiset Handle) :
    Grantable 0 held :=
  fun h hMem => absurd hMem (Multiset.notMem_zero h)

theorem grantable_add
    (g g' held : Multiset Handle) :
    Grantable (g + g') held ↔
      Grantable g held ∧ Grantable g' (g + held) := by
  have hCount :
      ∀ h, (g + g' + held).count h =
        g.count h + g'.count h + held.count h := by
    intro h
    simp
  constructor
  · intro hAll
    refine ⟨fun h hMem hLine => ?_, fun h hMem hLine => ?_⟩
    · have hOne :=
        hAll h (Multiset.mem_add.mpr (.inl hMem)) hLine
      have hPos := Multiset.count_pos.mpr hMem
      rw [hCount] at hOne
      rw [Multiset.count_add]
      omega
    · have hOne :=
        hAll h (Multiset.mem_add.mpr (.inr hMem)) hLine
      rw [hCount] at hOne
      simp only [Multiset.count_add]
      omega
  · rintro ⟨hFirst, hSecond⟩ h hMem hLine
    rw [hCount]
    by_cases hLater : h ∈ g'
    · have hOne := hSecond h hLater hLine
      simp only [Multiset.count_add] at hOne
      omega
    · have hEarly : h ∈ g :=
        (Multiset.mem_add.mp hMem).resolve_right hLater
      have hOne := hFirst h hEarly hLine
      rw [Multiset.count_add] at hOne
      rw [Multiset.count_eq_zero.mpr hLater]
      omega

theorem goes_add
    (a b : Nat)
    (g g' : Multiset Handle) :
    k.Goes (a + b) (g + g') ↔
      k.Goes a g ∧ (k.advance a g).Goes b g' := by
  unfold Goes
  rw [clear_add k a b g, grantable_add]
  constructor
  · rintro ⟨⟨hClear, hClear'⟩, hGrant, hGrant'⟩
    exact ⟨⟨hClear, hGrant⟩, hClear', hGrant'⟩
  · rintro ⟨⟨hClear, hGrant⟩, hClear', hGrant'⟩
    exact ⟨⟨hClear, hClear'⟩, hGrant, hGrant'⟩

theorem advance_advance
    (a b : Nat)
    (g g' : Multiset Handle) :
    (k.advance a g).advance b g' =
      k.advance (a + b) (g + g') := by
  unfold advance
  simp only [Nat.add_assoc, Kernel.mk.injEq, and_self,
    and_true]
  exact (add_left_comm g' g k.held).trans
    (add_assoc g g' k.held).symm

end Kernel

end LoRaRadio

------------------------------------------------------------
-- Acquiring Handles
------------------------------------------------------------

namespace LoRaRadio

open Faulting

variable {α β : Type}
variable {s : OsState}

/-
  From `s`, the part `m` of the constructor makes `n` calls
  and acquires `got`, and changes the object and its device
  by `upd`; or it throws, because one of the calls did not
  go through, with some handles acquired already.
-/
def Acquires
    (n : Nat)
    (got : Multiset Handle)
    (upd : RadioState → RadioState)
    (m : OsM α)
    (s : OsState) : Prop :=
  Post m
    (fun _ s' =>
      s.kernel.Goes n got ∧
        s'.kernel = s.kernel.advance n got ∧
        radioPart.get s' = upd (radioPart.get s))
    (fun _ s' =>
      ¬ s.kernel.Goes n got ∧
        ∃ part, s'.kernel.held = part + s.kernel.held)
    s

theorem Acquires.bind
    {a b : Nat}
    {g g' : Multiset Handle}
    {upd upd' : RadioState → RadioState}
    {m : OsM α}
    {f : α → OsM β}
    (hFirst : Acquires a g upd m s)
    (hSecond : ∀ x s', Acquires b g' upd' (f x) s') :
    Acquires (a + b) (g + g') (upd' ∘ upd) (m >>= f) s := by
  unfold Acquires
  rw [post_bind, Kernel.goes_add]
  apply Post.mono hFirst
  · rintro x s' ⟨hGoes, hKernel, hRadio⟩
    apply Post.mono (hSecond x s')
    · rintro y s'' ⟨hGoes', hKernel', hRadio'⟩
      rw [hKernel] at hGoes' hKernel'
      refine ⟨⟨hGoes, hGoes'⟩, ?_, ?_⟩
      · rw [hKernel', Kernel.advance_advance]
      · rw [hRadio', hRadio]
        rfl
    · rintro e s'' ⟨hNot, part, hHeld⟩
      rw [hKernel] at hNot hHeld
      refine ⟨fun hBoth => hNot hBoth.2, part + g, ?_⟩
      rw [hHeld, add_assoc part]
      rfl
  · rintro e s' ⟨hNot, hHeld⟩
    exact ⟨fun hBoth => hNot hBoth.1, hHeld⟩

/- The description of a part, put in another form. -/
theorem Acquires.congr
    {n n' : Nat}
    {got got' : Multiset Handle}
    {upd upd' : RadioState → RadioState}
    {m : OsM α}
    (hAcquires : Acquires n got upd m s)
    (hCalls : n = n')
    (hGot : got = got')
    (hUpd : ∀ r, upd r = upd' r) :
    Acquires n' got' upd' m s := by
  subst hCalls hGot
  obtain rfl : upd = upd' := funext hUpd
  exact hAcquires

theorem acquires_update
    (f : LinuxSx1280Radio → LinuxSx1280Radio) :
    Acquires 0 0 (fun r => { r with radio := f r.radio })
      (modify (OsState.onRadio f)) s := by
  refine ⟨⟨Kernel.clear_zero _, Kernel.grantable_zero _⟩,
    ?_, rfl⟩
  unfold Kernel.advance OsState.onRadio
  simp

@[simp] theorem post_osCall
    (fault : Fault)
    (Q : Unit → OsState → Prop)
    (E : Fault → OsState → Prop) :
    Post (osCall fault) Q E s ↔
      if s.kernel.nextFails then
        E fault (s.onKernel Kernel.afterCall)
      else
        Q () (s.onKernel Kernel.afterCall) := by
  unfold Post osCall
  rw [exec_mk]
  cases s.kernel.nextFails <;> simp

end LoRaRadio

------------------------------------------------------------
-- Requesting a Line
------------------------------------------------------------

namespace LoRaRadio

open Faulting

variable {s : OsState}

/- A part that acquires all of `got` or nothing. -/
def AllOrNothing
    (n : Nat)
    (got : Multiset Handle)
    (m : OsM Unit) : Prop :=
  ∀ s : OsState,
    Post m
      (fun _ s' =>
        s.kernel.Goes n got ∧
          s' = s.onKernel (Kernel.advance n got))
      (fun _ s' =>
        ¬ s.kernel.Goes n got ∧
          s'.kernel.held = s.kernel.held)
      s

theorem AllOrNothing.acquires
    {n : Nat}
    {got : Multiset Handle}
    {m : OsM Unit}
    (hAll : AllOrNothing n got m) :
    Acquires n got id m s := by
  apply Post.mono (hAll s)
  · rintro _ s' ⟨hGoes, rfl⟩
    exact ⟨hGoes, rfl, rfl⟩
  · rintro e s' ⟨hNot, hHeld⟩
    refine ⟨hNot, 0, ?_⟩
    rw [hHeld, zero_add]

/- A call that acquires nothing may come first. -/
theorem AllOrNothing.bind
    {a b : Nat}
    {got : Multiset Handle}
    {m : OsM Unit}
    {f : Unit → OsM Unit}
    (hFirst : AllOrNothing a 0 m)
    (hSecond : ∀ x, AllOrNothing b got (f x)) :
    AllOrNothing (a + b) got (m >>= f) := by
  intro s
  have hGoes := Kernel.goes_add s.kernel a b 0 got
  rw [zero_add] at hGoes
  rw [post_bind, hGoes]
  apply Post.mono (hFirst s)
  · rintro x s' ⟨hGoes₁, rfl⟩
    apply Post.mono (hSecond x _)
    · rintro y s'' ⟨hGoes₂, rfl⟩
      refine ⟨⟨hGoes₁, hGoes₂⟩, ?_⟩
      unfold OsState.onKernel
      rw [Kernel.advance_advance, zero_add]
    · rintro e s'' ⟨hNot, hHeld⟩
      refine ⟨fun hBoth => hNot hBoth.2, ?_⟩
      rw [hHeld]
      exact zero_add s.kernel.held
  · rintro e s' ⟨hNot, hHeld⟩
    exact ⟨fun hBoth => hNot hBoth.1, hHeld⟩

theorem Kernel.goes_one
    (k : Kernel)
    (got : Multiset Handle) :
    k.Goes 1 got ↔
      k.nextFails = false ∧ Grantable got k.held := by
  unfold Goes
  rw [clear_succ]
  simp

theorem allOrNothing_osCall
    (fault : Fault) :
    AllOrNothing 1 0 (osCall fault) := by
  intro s
  rw [post_osCall, Kernel.goes_one]
  cases hFails : s.kernel.nextFails with
  | true => exact ⟨by simp, rfl⟩
  | false =>
      refine ⟨⟨rfl, Kernel.grantable_zero _⟩, ?_⟩
      simp [OsState.onKernel, Kernel.afterCall,
        Kernel.advance]

/- Anything but a line can be granted at any time. -/
theorem Kernel.grantable_singleton
    {h : Handle}
    (held : Multiset Handle) :
    Grantable {h} held ↔ (h.isLine = true → h ∉ held) := by
  constructor
  · intro hGrant hLine hMem
    have hOne := hGrant h (Multiset.mem_singleton_self h) hLine
    have hPos := Multiset.count_pos.mpr hMem
    rw [Multiset.count_add,
      Multiset.count_singleton_self] at hOne
    omega
  · intro hFree h' hMem hLine
    rw [Multiset.mem_singleton.mp hMem] at hLine ⊢
    rw [Multiset.count_add, Multiset.count_singleton_self,
      Multiset.count_eq_zero.mpr (hFree hLine)]

theorem allOrNothing_acquire
    {h : Handle}
    (fault : Fault)
    (hLine : h.isLine = false) :
    AllOrNothing 1 {h} (acquire h fault) := by
  intro s
  unfold acquire
  rw [post_bind, post_osCall, Kernel.goes_one]
  cases hFails : s.kernel.nextFails with
  | true => exact ⟨by simp, rfl⟩
  | false =>
      refine ⟨⟨rfl, ?_⟩, rfl⟩
      rw [Kernel.grantable_singleton]
      simp [hLine]

theorem allOrNothing_gpiodChipRequestLines
    {line : Handle}
    (fault : Fault)
    (hLine : line.isLine = true) :
    AllOrNothing 1 {line}
      (gpiodChipRequestLines line fault) := by
  intro s
  rw [Kernel.goes_one, Kernel.grantable_singleton]
  unfold Post gpiodChipRequestLines
  rw [exec_mk]
  by_cases hFails : s.kernel.nextFails
  · simp [hFails, OsState.onKernel, Kernel.afterCall]
  · by_cases hHeld : line ∈ s.kernel.held
    · simp [hFails, hHeld, hLine, OsState.onKernel,
        Kernel.afterCall]
    · simp only [hFails, hHeld, decide_false, Bool.or_self,
        Bool.false_eq_true, if_false, not_false_eq_true,
        implies_true, and_self, true_and]
      rfl

/-
  A handle that is no line, held meanwhile, makes no
  difference to what can be granted.
-/
theorem Kernel.grantable_cons
    {object : Handle}
    {got held : Multiset Handle}
    (hObject : object.isLine = false) :
    Grantable got (object ::ₘ held) ↔
      Grantable got held := by
  have hCount :
      ∀ h : Handle, h.isLine = true →
        (got + object ::ₘ held).count h =
          (got + held).count h := by
    intro h hLine
    have hNe : h ≠ object := by
      rintro rfl
      rw [hLine] at hObject
      cases hObject
    simp [Multiset.count_cons_of_ne hNe]
  unfold Grantable
  constructor
  · intro hGrant h hMem hLine
    rw [← hCount h hLine]
    exact hGrant h hMem hLine
  · intro hGrant h hMem hLine
    rw [hCount h hLine]
    exact hGrant h hMem hLine

/- The object of a `withObject` is gone when it ends. -/
theorem allOrNothing_withObject
    (object : Handle)
    {n : Nat}
    {got : Multiset Handle}
    {body : OsM Unit}
    (fault : Fault)
    (hObject : object.isLine = false)
    (hBody : AllOrNothing n got body) :
    AllOrNothing (1 + n) got
      (withObject object fault body) := by
  intro s
  unfold withObject acquire
  simp only [post_bind, post_onThrow, post_osCall]
  have hGoes :
      s.kernel.Goes (1 + n) got ↔
        s.kernel.nextFails = false ∧
          ((s.kernel.afterCall).hold object).Goes n got := by
    rw [Nat.add_comm]
    unfold Kernel.Goes
    rw [Kernel.clear_succ, and_assoc]
    exact and_congr_right fun _ => and_congr_right fun _ =>
      (Kernel.grantable_cons hObject).symm
  rw [hGoes]
  cases hFails : s.kernel.nextFails with
  | true => exact ⟨by simp, rfl⟩
  | false =>
      apply Post.mono (hBody _)
      · rintro _ s' ⟨hGoes', rfl⟩
        refine ⟨⟨rfl, hGoes'⟩, ?_⟩
        unfold OsState.onKernel Kernel.release Kernel.advance
          Kernel.hold Kernel.afterCall
        simp [Nat.add_comm, Nat.add_left_comm]
      · rintro e s' ⟨hNot, hHeld⟩
        refine ⟨fun hBoth => hNot hBoth.2, ?_⟩
        change s'.kernel.held.erase object = s.kernel.held
        rw [hHeld]
        exact Multiset.erase_cons_head object s.kernel.held

end LoRaRadio

------------------------------------------------------------
-- The Constructor's Parts
------------------------------------------------------------

namespace LoRaRadio

open Faulting

variable {s : OsState}

/- The kernel calls of one line request. -/
def lineCalls : Option GpiodLineValue → Nat
| some _ => 7
| none => 6

theorem allOrNothing_requestLineObjects
    (direction : String)
    (initialValue : Option GpiodLineValue)
    (line : Handle)
    (hLine : line.isLine = true) :
    AllOrNothing (lineCalls initialValue) {line}
      (requestLineObjects direction initialValue line) := by
  have hRequest :=
    allOrNothing_withObject .requestConfig
      (.runtimeError "failed to allocate GPIO request config")
      rfl
      (allOrNothing_gpiodChipRequestLines
        (.systemError
          s!"failed to request GPIO {direction} line") hLine)
  have hConfig :=
    allOrNothing_withObject .lineConfig
      (.runtimeError "failed to allocate GPIO line config")
      rfl
      ((allOrNothing_osCall
        (.systemError
          s!"failed to add GPIO {direction} line settings")
        ).bind fun _ => hRequest)
  unfold requestLineObjects
  cases initialValue with
  | none =>
      exact allOrNothing_withObject _ _ rfl
        ((allOrNothing_osCall _).bind fun _ => hConfig)
  | some value =>
      exact allOrNothing_withObject _ _ rfl
        ((allOrNothing_osCall _).bind fun _ =>
          (allOrNothing_osCall _).bind fun _ => hConfig)

/- Requesting a line and storing its handle. -/
theorem acquires_requestInto
    (direction : String)
    (initialValue : Option GpiodLineValue)
    (chip : Text)
    (offset : UInt32)
    (store :
      Handle → LinuxSx1280Radio → LinuxSx1280Radio) :
    Acquires (lineCalls initialValue) {.line chip offset}
      (fun r =>
        { r with radio := store (.line chip offset) r.radio })
      (requestInto
        (requestLine direction initialValue chip offset)
        store) s := by
  have hObjects :=
    (allOrNothing_requestLineObjects direction initialValue
      (.line chip offset) rfl).acquires (s := s)
  have hBoth :=
    hObjects.bind
      (f := fun _ =>
        modify (OsState.onRadio (store (.line chip offset))))
      fun _ s' => acquires_update _
  unfold requestInto requestLine
  unfold Acquires at hBoth ⊢
  simpa only [post_bind, post_pure, Nat.add_zero, add_zero,
    Function.comp_id] using hBoth

theorem acquires_requestIf
    (configured : Bool)
    (direction : String)
    (initialValue : Option GpiodLineValue)
    (chip : Text)
    (offset : UInt32)
    (store :
      Handle → LinuxSx1280Radio → LinuxSx1280Radio) :
    Acquires (if configured then lineCalls initialValue else 0)
      (if configured then {.line chip offset} else 0)
      (fun r =>
        if configured then
          { r with
            radio := store (.line chip offset) r.radio }
        else
          r)
      (requestIf configured
        (requestLine direction initialValue chip offset)
        store) s := by
  unfold requestIf
  cases configured with
  | true =>
      exact acquires_requestInto direction initialValue chip
        offset store
  | false =>
      refine ⟨⟨Kernel.clear_zero _, Kernel.grantable_zero _⟩,
        ?_, rfl⟩
      simp [Kernel.advance]

end LoRaRadio

------------------------------------------------------------
-- The Whole Constructor
------------------------------------------------------------

namespace LoRaRadio

open Faulting

variable {s : OsState}

namespace LinuxSx1280RadioConfig

variable (config : LinuxSx1280RadioConfig)

/- A line of the configured chip. -/
def line
    (offset : UInt32) : Handle :=
  .line config.gpio.chipPath offset

/- The configurations `validateConfig` accepts. -/
def Valid : Prop :=
  config.spi.devicePath ≠ [] ∧ config.gpio.chipPath ≠ [] ∧
    (config.pins.hasTxEnable = true ∨
      config.pins.txEnableBehavior = .none)

instance : Decidable config.Valid :=
  inferInstanceAs (Decidable (_ ∧ _ ∧ _))

/- The object the constructor leaves when it returns. -/
def built : LinuxSx1280Radio where
  config := config
  spiFd := some (.spi config.spi.devicePath)
  gpioChip := some (.gpioChip config.gpio.chipPath)
  resetRequest := some (config.line config.pins.resetLine)
  busyRequest := some (config.line config.pins.busyLine)
  dio1Request :=
    if config.pins.hasDio1 then
      some (config.line config.pins.dio1Line)
    else none
  dio2Request :=
    if config.pins.hasDio2 then
      some (config.line config.pins.dio2Line)
    else none
  dio3Request :=
    if config.pins.hasDio3 then
      some (config.line config.pins.dio3Line)
    else none
  txEnableRequest :=
    if config.pins.hasTxEnable then
      some (config.line config.pins.txEnableLine)
    else none

/- The kernel calls after the one that opens the device. -/
def laterCalls : Nat :=
  20 + ((if config.pins.hasDio1 then 6 else 0) +
    (if config.pins.hasDio2 then 6 else 0) +
    (if config.pins.hasDio3 then 6 else 0) +
    (if config.pins.hasTxEnable then 7 else 0))

/- The handles those calls acquire. -/
def laterHandles : Multiset Handle :=
  {.gpioChip config.gpio.chipPath,
    config.line config.pins.resetLine,
    config.line config.pins.busyLine} +
  ((if config.pins.hasDio1 then
    {config.line config.pins.dio1Line} else 0) +
  (if config.pins.hasDio2 then
    {config.line config.pins.dio2Line} else 0) +
  (if config.pins.hasDio3 then
    {config.line config.pins.dio3Line} else 0) +
  (if config.pins.hasTxEnable then
    {config.line config.pins.txEnableLine} else 0))

/-
  Everything after the device has been opened goes through:
  the kernel calls, and the write to the TX-enable line.
-/
def LaterGoes
    (k : Kernel)
    (d : Device) : Prop :=
  (k.advance 1 {.spi config.spi.devicePath}).Goes
      config.laterCalls config.laterHandles ∧
    (config.pins.hasTxEnable = true → d.Quiet 1)

end LinuxSx1280RadioConfig

theorem post_validateConfig
    (config : LinuxSx1280RadioConfig)
    (Q : Unit → OsState → Prop)
    (E : Fault → OsState → Prop)
    (hValid : config.Valid → Q () s)
    (hInvalid : ¬ config.Valid → ∀ e, E e s) :
    Post (validateConfig config) Q E s := by
  unfold LinuxSx1280RadioConfig.Valid at *
  unfold validateConfig
  by_cases hSpi : config.spi.devicePath = []
  · simpa [hSpi] using hInvalid (by simp [hSpi]) _
  · by_cases hChip : config.gpio.chipPath = []
    · simpa [hSpi, hChip] using hInvalid (by simp [hChip]) _
    · by_cases hTx : config.pins.hasTxEnable = true ∨
          config.pins.txEnableBehavior = .none
      · rcases hTx with hTx | hTx
        · simpa [hSpi, hChip, hTx] using
            hValid ⟨hSpi, hChip, .inl hTx⟩
        · simpa [hSpi, hChip, hTx] using
            hValid ⟨hSpi, hChip, .inr hTx⟩
      · rw [not_or] at hTx
        simpa [hSpi, hChip, hTx.1, hTx.2] using
          hInvalid (by simp [hTx.1, hTx.2]) _

/- What the constructor does once the device is open. -/
def afterOpen
    (config : LinuxSx1280RadioConfig) : OsM Unit := do
  modify (OsState.onRadio
    ({ · with spiFd := some (.spi config.spi.devicePath) }))
  setSpiParameters
  openGpioChip config
  requestGpioLines config

theorem acquires_setSpiParameters :
    Acquires 6 0 id setSpiParameters s := by
  have hCall := fun fault => allOrNothing_osCall fault
  exact
    ((hCall _).bind fun _ => (hCall _).bind fun _ =>
      (hCall _).bind fun _ => (hCall _).bind fun _ =>
      (hCall _).bind fun _ => hCall _).acquires

theorem acquires_openGpioChip
    (config : LinuxSx1280RadioConfig) :
    Acquires 1 {.gpioChip config.gpio.chipPath}
      (fun r =>
        { r with
          radio :=
            { r.radio with
              gpioChip :=
                some (.gpioChip config.gpio.chipPath) } })
      (openGpioChip config) s := by
  have hBoth :=
    (allOrNothing_acquire
      (h := .gpioChip config.gpio.chipPath)
      (.systemError ("failed to open GPIO chip: " ++
        String.ofList config.gpio.chipPath)) rfl
      ).acquires (s := s) |>.bind
        (f := fun _ => modify (OsState.onRadio
          ({ · with
            gpioChip :=
              some (.gpioChip config.gpio.chipPath) })))
        fun _ s' => acquires_update _
  unfold openGpioChip
  simpa only [Nat.add_zero, add_zero, Function.comp_id]
    using hBoth

/- The change `requestGpioLines` makes. -/
def linesRequested
    (config : LinuxSx1280RadioConfig)
    (r : RadioState) : RadioState :=
  let pins := config.pins
  let request (configured : Bool) (offset : UInt32)
      (old : Option Handle) : Option Handle :=
    if configured then some (config.line offset) else old
  { radio :=
      { r.radio with
        resetRequest := some (config.line pins.resetLine)
        busyRequest := some (config.line pins.busyLine)
        dio1Request :=
          request pins.hasDio1 pins.dio1Line
            r.radio.dio1Request
        dio2Request :=
          request pins.hasDio2 pins.dio2Line
            r.radio.dio2Request
        dio3Request :=
          request pins.hasDio3 pins.dio3Line
            r.radio.dio3Request
        txEnableRequest :=
          request pins.hasTxEnable pins.txEnableLine
            r.radio.txEnableRequest }
    device :=
      { r.device with
        txEnable :=
          if pins.hasTxEnable then
            some (assertedLineValue pins.txEnableActiveHigh
              false)
          else r.device.txEnable } }

theorem acquires_driveTxEnable
    (configured : Bool)
    (value : GpiodLineValue) :
    Acquires 0 0
      (fun r =>
        if configured then r.setTxEnableLine value else r)
      (if configured then
        zoom radioPart
          (modify (RadioState.setTxEnableLine value))
      else
        pure ())
      s := by
  have hKernel : s.kernel = s.kernel.advance 0 0 := by
    simp [Kernel.advance]
  have hGoes : s.kernel.Goes 0 0 :=
    ⟨Kernel.clear_zero _, Kernel.grantable_zero _⟩
  cases configured with
  | true => exact ⟨hGoes, hKernel, rfl⟩
  | false => exact ⟨hGoes, hKernel, rfl⟩

theorem acquires_afterOpen
    (config : LinuxSx1280RadioConfig) :
    Acquires config.laterCalls config.laterHandles
      (fun r =>
        linesRequested config
          { r with
            radio :=
              { r.radio with
                spiFd :=
                  some (.spi config.spi.devicePath)
                gpioChip :=
                  some (.gpioChip config.gpio.chipPath) } })
      (afterOpen config) s := by
  unfold afterOpen requestGpioLines
  refine Acquires.congr
    ((acquires_update _).bind
    fun _ _ => acquires_setSpiParameters.bind
    fun _ _ => (acquires_openGpioChip config).bind
    fun _ _ => (acquires_requestInto _ _ _ _ _).bind
    fun _ _ => (acquires_requestInto _ _ _ _ _).bind
    fun _ _ => (acquires_requestIf _ _ _ _ _ _).bind
    fun _ _ => (acquires_requestIf _ _ _ _ _ _).bind
    fun _ _ => (acquires_requestIf _ _ _ _ _ _).bind
    fun _ _ => (acquires_requestIf _ _ _ _ _ _).bind
    fun _ _ => acquires_driveTxEnable _ _) ?_ ?_ ?_
  · simp only [lineCalls,
      LinuxSx1280RadioConfig.laterCalls]
    omega
  · simp only [LinuxSx1280RadioConfig.laterHandles,
      LinuxSx1280RadioConfig.line, zero_add, add_zero,
      add_assoc, Multiset.insert_eq_cons,
      ← Multiset.singleton_add]
  · intro r
    simp only [linesRequested]
    cases config.pins.hasDio1 <;>
      cases config.pins.hasDio2 <;>
      cases config.pins.hasDio3 <;>
      cases config.pins.hasTxEnable <;> rfl

theorem handles_built
    (config : LinuxSx1280RadioConfig) :
    (↑config.built.handles : Multiset Handle) =
      {.spi config.spi.devicePath} +
        config.laterHandles := by
  have hIf :
      ∀ (configured : Bool) (h : Handle),
        (↑(if configured then some h else none).toList :
          Multiset Handle) =
        if configured then {h} else 0 := by
    intro configured h
    cases configured <;> rfl
  simp only [LinuxSx1280Radio.handles,
    LinuxSx1280RadioConfig.built,
    LinuxSx1280RadioConfig.laterHandles,
    ← Multiset.coe_add, hIf, Option.toList_some,
    Multiset.coe_singleton, Multiset.insert_eq_cons,
    ← Multiset.singleton_add]
  abel

theorem hasTxEnableLine_built
    (config : LinuxSx1280RadioConfig) :
    config.built.hasTxEnableLine = config.pins.hasTxEnable := by
  unfold LinuxSx1280Radio.hasTxEnableLine
    LinuxSx1280RadioConfig.built
  cases config.pins.hasTxEnable <;> rfl

/- The TX-enable write at the end of the constructor. -/
theorem post_applyInitialTxEnableState
    {config : LinuxSx1280RadioConfig}
    (hRadio : s.radio = config.built) :
    Post (applyInitialTxEnableState config)
      (fun _ s' =>
        (config.pins.hasTxEnable = true →
          s.device.Quiet 1) ∧
        s'.kernel = s.kernel ∧ s'.radio = s.radio ∧
        s'.device.hal = s.device.hal ∧
        s.device.clock ≤ s'.device.clock)
      (fun _ s' =>
        ¬ (config.pins.hasTxEnable = true →
          s.device.Quiet 1) ∧
        s'.kernel = s.kernel)
      s := by
  have hLine :
      s.radio.hasTxEnableLine = config.pins.hasTxEnable := by
    rw [hRadio]
    exact hasTxEnableLine_built config
  have hQuiet := s.device.quiet_one
  unfold applyInitialTxEnableState
  rw [post_zoom, post_setTxEnable, hQuiet]
  change if s.radio.hasTxEnableLine then
    if (s.device.hal s.device.clock).throws then _ else _
    else _
  rw [hLine]
  by_cases hConfigured : config.pins.hasTxEnable
  · by_cases hThrows : (s.device.hal s.device.clock).throws
    · simp [hConfigured, hThrows, radioPart]
    · simp [hConfigured, hThrows, radioPart]
  · simp [hConfigured, radioPart]

/-
  How the constructor ends.  With an invalid configuration,
  or if the device cannot be opened, it throws and nothing
  has changed hands; if anything goes wrong later, it throws
  and the process holds more than before; otherwise it
  returns.
-/
theorem post_construct
    (config : LinuxSx1280RadioConfig)
    (k : Kernel)
    (d : Device) :
    Post (construct config)
      (fun _ s' =>
        config.Valid ∧ k.nextFails = false ∧
          config.LaterGoes k d ∧
          s'.kernel =
            k.advance (1 + config.laterCalls)
              ↑config.built.handles ∧
          s'.radio = config.built ∧
          s'.device.hal = d.hal ∧
          d.clock ≤ s'.device.clock)
      (fun _ s' =>
        if config.Valid ∧ k.nextFails = false then
          ¬ config.LaterGoes k d ∧
            k.held < s'.kernel.held
        else
          s'.kernel.held = k.held)
      ⟨k, { config }, d⟩ := by
  have hSplit :
      construct config = (do
        validateConfig config
        acquire (.spi config.spi.devicePath)
          (.systemError ("failed to open SPI device: " ++
            String.ofList config.spi.devicePath))
        afterOpen config
        applyInitialTxEnableState config) := by
    simp [construct, openSpi, afterOpen]
  rw [hSplit, post_bind]
  apply post_validateConfig
  · intro hValid
    simp only [acquire, post_bind, post_osCall, post_modify,
      hValid, true_and]
    cases hOpen : k.nextFails with
    | true =>
        simp
        rfl
    | false =>
        simp only [if_true, Bool.false_eq_true, if_false]
        apply Post.mono (acquires_afterOpen config)
        · rintro _ s₁ ⟨hGoes, hKernel, hPart⟩
          have hRadio : s₁.radio = config.built :=
            congrArg RadioState.radio hPart
          have hHal : s₁.device.hal = d.hal :=
            congrArg (fun r => r.device.hal) hPart
          have hClock : s₁.device.clock = d.clock :=
            congrArg (fun r => r.device.clock) hPart
          have hQuiet :
              s₁.device.Quiet 1 ↔ d.Quiet 1 := by
            rw [Device.quiet_one, Device.quiet_one, hHal,
              hClock]
          apply Post.mono
            (post_applyInitialTxEnableState hRadio)
          · rintro _ s₂ ⟨hWrite, hKernel₂, hRadio₂, hHal₂,
              hClock₂⟩
            rw [hQuiet] at hWrite
            refine ⟨trivial, ⟨hGoes, hWrite⟩, ?_, ?_, ?_,
              ?_⟩
            · rw [hKernel₂, hKernel, handles_built]
              exact k.advance_advance 1 config.laterCalls
                {.spi config.spi.devicePath}
                config.laterHandles
            · rw [hRadio₂, hRadio]
            · rw [hHal₂, hHal]
            · rw [← hClock]
              exact hClock₂
          · rintro e s₂ ⟨hNot, hKernel₂⟩
            rw [hQuiet] at hNot
            refine ⟨fun hLater => hNot hLater.2, ?_⟩
            rw [hKernel₂, hKernel]
            exact Multiset.lt_iff_cons_le.mpr
              ⟨.spi config.spi.devicePath,
                Multiset.le_add_left _ _⟩
        · rintro e s₁ ⟨hNot, part, hHeld⟩
          refine ⟨fun hLater => hNot hLater.1, ?_⟩
          rw [hHeld]
          exact Multiset.lt_iff_cons_le.mpr
            ⟨.spi config.spi.devicePath,
              Multiset.le_add_left _ _⟩
  · intro hInvalid e
    simp [hInvalid]

end LoRaRadio
