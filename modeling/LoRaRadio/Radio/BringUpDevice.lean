import LoRaRadio.Radio.BringUpLemmas
import LoRaRadio.Radio.Observations

/-
  What the constructor of a radio does to its device: it
  writes the TX-enable line and makes no transfer.

  Main declarations:
    * `requestAll` and `keeps_requestAll`
    * `keeps_construct`
    * `construct_txEnable`
-/

------------------------------------------------------------
-- Calls That Leave the Device Alone
------------------------------------------------------------

namespace LoRaRadio

open Faulting

variable {τ : Type}
variable {f : Device → τ}

/- The observation `f` of the device is the same. -/
def SameDevice
    (f : Device → τ) :
    OsState → OsState → Prop :=
  Same fun s => f s.device

theorem keepsDevice_osCall
    (fault : Fault) :
    Keeps (SameDevice f) (osCall fault) :=
  fun _ => rfl

theorem keepsDevice_onKernel
    (g : Kernel → Kernel) :
    Keeps (SameDevice f)
      (modify (OsState.onKernel g) : OsM Unit) :=
  fun _ => rfl

theorem keepsDevice_onRadio
    (g : LinuxSx1280Radio → LinuxSx1280Radio) :
    Keeps (SameDevice f)
      (modify (OsState.onRadio g) : OsM Unit) :=
  fun _ => rfl

instance : Std.Refl (SameDevice f) :=
  ⟨fun _ => rfl⟩

instance : IsTrans OsState (SameDevice f) :=
  ⟨fun _ _ _ hFirst hSecond => hSecond.trans hFirst⟩

theorem keepsDevice_acquire
    (h : Handle)
    (fault : Fault) :
    Keeps (SameDevice f) (acquire h fault) :=
  (keepsDevice_osCall fault).bind fun _ =>
    keepsDevice_onKernel _

theorem keepsDevice_withObject
    (object : Handle)
    (fault : Fault)
    {body : OsM Unit}
    (hBody : Keeps (SameDevice f) body) :
    Keeps (SameDevice f) (withObject object fault body) := by
  have hFree : Keeps (SameDevice f) (free object) :=
    keepsDevice_onKernel _
  unfold withObject
  refine (keepsDevice_acquire object fault).bind fun _ => ?_
  refine Keeps.bind ?_ fun _ => hFree
  exact hBody.tryCatch fun e =>
    hFree.bind fun _ => keeps_throw e

theorem keepsDevice_requestLine
    (direction : String)
    (initialValue : Option GpiodLineValue)
    (chip : Text)
    (offset : UInt32) :
    Keeps (SameDevice f)
      (requestLine direction initialValue chip offset) := by
  have hLines : ∀ line fault,
      Keeps (SameDevice f)
        (gpiodChipRequestLines line fault) := by
    intro line fault s
    unfold gpiodChipRequestLines
    rw [exec_mk]
    dsimp only
    split <;> rfl
  unfold requestLine requestLineObjects
  refine Keeps.bind ?_ fun _ => keeps_pure _
  apply keepsDevice_withObject
  refine (keepsDevice_osCall _).bind fun _ => ?_
  cases initialValue with
  | none =>
      apply keepsDevice_withObject
      exact (keepsDevice_osCall _).bind fun _ =>
        keepsDevice_withObject _ _ (hLines _ _)
  | some value =>
      refine (keepsDevice_osCall _).bind fun _ => ?_
      apply keepsDevice_withObject
      exact (keepsDevice_osCall _).bind fun _ =>
        keepsDevice_withObject _ _ (hLines _ _)

theorem keepsDevice_requestInto
    {request : OsM Handle}
    (store :
      Handle → LinuxSx1280Radio → LinuxSx1280Radio)
    (hRequest : Keeps (SameDevice f) request) :
    Keeps (SameDevice f) (requestInto request store) :=
  hRequest.bind fun _ => keepsDevice_onRadio _

theorem keepsDevice_requestIf
    (configured : Bool)
    {request : OsM Handle}
    (store :
      Handle → LinuxSx1280Radio → LinuxSx1280Radio)
    (hRequest : Keeps (SameDevice f) request) :
    Keeps (SameDevice f)
      (requestIf configured request store) := by
  unfold requestIf
  split
  · exact keepsDevice_requestInto store hRequest
  · exact keeps_pure _

/- A method of the radio, called in the constructor. -/
theorem keepsDevice_zoom
    {m : RadioM Unit}
    (hKeeps : Keeps (Same fun r => f r.device) m) :
    Keeps (SameDevice f) (zoom radioPart m) := by
  intro s
  rw [exec_zoom]
  exact hKeeps ⟨s.radio, s.device⟩

end LoRaRadio

------------------------------------------------------------
-- The Constructor
------------------------------------------------------------

namespace LoRaRadio

open Faulting

variable {τ : Type}
variable {f : Device → τ}

/- The constructor up to the initial state of the line. -/
def requestAll
    (config : LinuxSx1280RadioConfig) : OsM Unit := do
  validateConfig config
  openSpi config
  openGpioChip config
  requestGpioLines config

theorem construct_eq
    (config : LinuxSx1280RadioConfig) :
    construct config =
      (do
        requestAll config
        applyInitialTxEnableState config) := by
  simp [construct, requestAll]

/- Once everything is requested the object is complete. -/
theorem requestAll_ok
    {config : LinuxSx1280RadioConfig}
    {k : Kernel}
    {d : Device}
    {u : Unit}
    {s : OsState}
    (hRun :
      exec (requestAll config) ⟨k, { config }, d⟩ =
        (.ok u, s)) :
    s.radio = config.built := by
  have hSplit :
      requestAll config = (do
        validateConfig config
        acquire (.spi config.spi.devicePath)
          (.systemError ("failed to open SPI device: " ++
            String.ofList config.spi.devicePath))
        afterOpen config) := by
    simp [requestAll, openSpi, afterOpen]
  have hPost :
      Post (requestAll config)
        (fun _ s => s.radio = config.built)
        (fun _ _ => True) ⟨k, { config }, d⟩ := by
    rw [hSplit, post_bind]
    apply post_validateConfig
    · intro _
      simp only [acquire, post_bind, post_osCall, post_modify]
      split
      · trivial
      · apply Post.mono (acquires_afterOpen config)
        · intro _ s₁ hAcquired
          exact congrArg RadioState.radio hAcquired.2.2
        · exact fun _ _ _ => trivial
    · exact fun _ _ => trivial
  exact hPost.of_ok hRun

/-
  A relation between states that depends on the device only
  is kept up to there if the request of the TX-enable line
  keeps it.
-/
theorem keeps_requestAll
    {R : OsState → OsState → Prop}
    [Std.Refl R]
    [IsTrans OsState R]
    (config : LinuxSx1280RadioConfig)
    (hSame : ∀ s s' : OsState, s'.device = s.device → R s s')
    (hRequested :
      Keeps R
        (zoom radioPart
          (modify (RadioState.setTxEnableLine
            (assertedLineValue config.pins.txEnableActiveHigh
              false))) : OsM Unit)) :
    Keeps R (requestAll config) := by
  have hDevice : ∀ {α : Type} {m : OsM α},
      Keeps (SameDevice id) m → Keeps R m :=
    fun hKeeps => hKeeps.mono hSame
  have hLines : Keeps R (requestGpioLines config) := by
    unfold requestGpioLines requestOutputLine requestInputLine
    refine (hDevice (keepsDevice_requestInto _
      (keepsDevice_requestLine _ _ _ _))).bind fun _ => ?_
    refine (hDevice (keepsDevice_requestInto _
      (keepsDevice_requestLine _ _ _ _))).bind fun _ => ?_
    iterate 4
      refine (hDevice (keepsDevice_requestIf _ _
        (keepsDevice_requestLine _ _ _ _))).bind fun _ => ?_
    exact keeps_ite (fun _ => hRequested) fun _ =>
      keeps_pure _
  have hValidate :
      Keeps (SameDevice id) (validateConfig config) := by
    refine keeps_of_post fun s => ?_
    exact post_validateConfig config _ _ (fun _ => rfl)
      fun _ _ => rfl
  have hSpi : Keeps (SameDevice id) (openSpi config) := by
    unfold openSpi setSpiParameters
    refine (keepsDevice_acquire _ _).bind fun _ => ?_
    refine (keepsDevice_onRadio _).bind fun _ => ?_
    iterate 5
      refine (keepsDevice_osCall _).bind fun _ => ?_
    exact keepsDevice_osCall _
  have hChip :
      Keeps (SameDevice id) (openGpioChip config) := by
    unfold openGpioChip
    exact (keepsDevice_acquire _ _).bind fun _ =>
      keepsDevice_onRadio _
  unfold requestAll
  exact (hDevice hValidate).bind fun _ =>
    (hDevice hSpi).bind fun _ =>
    (hDevice hChip).bind fun _ => hLines

/-
  What hardware calls and writes of the TX-enable line do
  not change, the constructor does not change.
-/
theorem keeps_construct
    [EventProof (Same fun r : RadioState => f r.device)]
    (hLine :
      Tolerates (Same fun r => f r.device) .writeLine)
    (config : LinuxSx1280RadioConfig) :
    Keeps (SameDevice f) (construct config) := by
  have hInitial :
      Keeps (SameDevice f)
        (applyInitialTxEnableState config) := by
    apply keepsDevice_zoom
    have hIssues :
        Issues [.writeLine] Unit
          (setTxEnable
            (initialTxState config.pins.txEnableBehavior)) :=
      issues_setTxEnable _ (by decide)
    refine hIssues.keeps fun e hMem => ?_
    cases List.mem_singleton.mp hMem
    exact hLine
  rw [construct_eq]
  refine Keeps.bind ?_ fun _ => hInitial
  refine keeps_requestAll (R := SameDevice f) config ?_ ?_
  · intro s s' hDevice
    exact congrArg f hDevice
  · apply keepsDevice_zoom
    exact keeps_modify fun r => hLine r _

/-
  A constructor that returns has written the initial state
  to the TX-enable line.
-/
theorem construct_txEnable
    {config : LinuxSx1280RadioConfig}
    {k k' : Kernel}
    {d d' : Device}
    (hRun :
      exec (construct config) ⟨k, { config }, d⟩ =
        (.ok (), ⟨k', config.built, d'⟩))
    (hConfigured : config.pins.hasTxEnable = true) :
    d'.txEnable =
      some (assertedLineValue config.pins.txEnableActiveHigh
        (initialTxState config.pins.txEnableBehavior)) := by
  unfold construct at hRun
  simp only [exec_bind_ok] at hRun
  rcases hRun with
    ⟨_, _, -, _, _, -, _, _, -, _, s, -, hInitial⟩
  unfold applyInitialTxEnableState at hInitial
  rw [exec_zoom] at hInitial
  have hIssues :
      Issues [.writeLine] Unit
        (setTxEnable
          (initialTxState config.pins.txEnableBehavior)) :=
    issues_setTxEnable _ (by decide)
  have hIdentity :=
    hIssues.keeps_identity (radioPart.get s)
  have hOutcome := congrArg Prod.fst hInitial
  have hState := congrArg Prod.snd hInitial
  have hRadio : (exec (setTxEnable
      (initialTxState config.pins.txEnableBehavior))
        (radioPart.get s)).2.radio = config.built :=
    congrArg OsState.radio hState
  have hDevice : (exec (setTxEnable
      (initialTxState config.pins.txEnableBehavior))
        (radioPart.get s)).2.device = d' :=
    congrArg OsState.device hState
  have hSame :
      (exec (setTxEnable
        (initialTxState config.pins.txEnableBehavior))
          (radioPart.get s)).2.identity =
        (radioPart.get s).identity := hIdentity
  have hLine :
      (radioPart.get s).radio.hasTxEnableLine = true := by
    have hLines := congrArg (fun i => i.2.2) hSame
    change _ = (radioPart.get s).radio.hasTxEnableLine at hLines
    rw [← hLines]
    change LinuxSx1280Radio.hasTxEnableLine _ = true
    rw [hRadio, hasTxEnableLine_built, hConfigured]
  have hConfig :
      (radioPart.get s).radio.config = config := by
    have hConfigs := congrArg (fun i => i.1) hSame
    change _ = (radioPart.get s).radio.config at hConfigs
    rw [← hConfigs]
    change LinuxSx1280Radio.config _ = config
    rw [hRadio]
    rfl
  rw [← hDevice]
  rw [exec_setTxEnable, if_pos hLine] at hOutcome ⊢
  split at hOutcome
  · cases hOutcome
  · next hGoes =>
      rw [if_neg hGoes]
      change some (LinuxSx1280Radio.txEnableLevel _ _) = _
      unfold LinuxSx1280Radio.txEnableLevel
      rw [hConfig]

end LoRaRadio
