import LoRaRadio.Node.NodeLemmas

/-
  One `start` of the node: what it leaves when it fails,
  and what it accounts for when it succeeds.

  A `start` that fails gives everything back as long as no
  constructor fails after it has opened its device.

  Main declarations:
    * `NodeState.ComesUp`
    * `post_bringUp`
    * `post_start`
-/

------------------------------------------------------------
-- One Start
------------------------------------------------------------

namespace LoRaRadio

open Faulting

namespace NodeState

/- Not started, and without radios. -/
def Idle
    (s : NodeState) : Prop :=
  s.node.started = false ∧ s.node.rxRadio = none ∧
    s.node.txRadio = none

/- No constructor that runs now fails late. -/
def NoLateFailure
    (s : NodeState) : Prop :=
  let rx := s.node.config.rx.hw
  let tx := s.node.config.tx.hw
  rx.NoLateFailure s.kernel s.rxDevice ∧
    (rx.GoesThrough s.kernel s.rxDevice →
      tx.NoLateFailure (rx.broughtUp s.kernel) s.txDevice)

/- Both constructors return, and the hardware works. -/
def ComesUp
    (s : NodeState) : Prop :=
  let rx := s.node.config.rx.hw
  let tx := s.node.config.tx.hw
  rx.GoesThrough s.kernel s.rxDevice ∧
    tx.GoesThrough (rx.broughtUp s.kernel) s.txDevice ∧
    s.rxDevice.Works ∧ s.txDevice.Works

end NodeState

/-
  What `start` owes if it fails from `s` in `s'`: something
  did not work, and nothing more is held than before unless
  a constructor failed late.
-/
def FailedFrom
    (s s' : NodeState) : Prop :=
  ¬ s.ComesUp ∧
    (s.NoLateFailure → s'.kernel.held = s.kernel.held) ∧
    s'.node = s.node

theorem post_configure
    {s : NodeState}
    (side : Side)
    (radio : LinuxSx1280Radio)
    (config : Sx1280Config) :
    Post (onLocal side radio (configureRadio config))
      (fun radio' s' =>
        radio'.handles = radio.handles ∧
          s'.kernel = s.kernel ∧ s'.node = s.node ∧
          ∀ side', (s.device side').Works →
            (s'.device side').Works)
      (fun _ s' =>
        s'.kernel = s.kernel ∧ s'.node = s.node ∧
          ¬ (s.device side).Works)
      s := by
  rw [post_onLocal]
  apply Post.mono ((issues_configureRadio config).post _)
  · rintro _ r ⟨hIdentity, hWorks⟩
    have hHandles : r.radio.handles = radio.handles :=
      congrArg (fun i => i.2.1) hIdentity
    refine ⟨hHandles, by simp, by simp, ?_⟩
    intro side' hBefore
    by_cases hSide : side' = side
    · subst hSide
      simpa using hWorks hBefore
    · simpa [hSide] using hBefore
  · rintro e r ⟨-, hNot⟩
    exact ⟨by simp, by simp, hNot⟩

theorem post_bringUp
    (s : NodeState) :
    Post (bringUp s.node.config)
      (fun radios s' =>
        s'.kernel.held =
            ↑radios.2.handles +
              (↑radios.1.handles + s.kernel.held) ∧
          s'.node = s.node ∧
          (s.ComesUp →
            s'.rxDevice.Works ∧ s'.txDevice.Works))
      (fun _ s' => FailedFrom s s')
      s := by
  unfold bringUp
  rw [post_bind]
  apply Post.mono (post_makeRadio .rx _)
  · rintro rx s₁ ⟨hGoesRx, rfl, hKernel₁, hNode₁, hOther₁,
      hLater₁⟩
    have hTxDevice : s₁.txDevice = s.txDevice :=
      hOther₁ .tx (by decide)
    have hHeld₁ :
        s₁.kernel.held =
          ↑s.node.config.rx.hw.built.handles +
            s.kernel.held := by
      rw [hKernel₁]
      rfl
    rw [post_onThrow, post_bind]
    apply Post.mono (post_makeRadio .tx _)
    · rintro tx s₂ ⟨hGoesTx, rfl, hKernel₂, hNode₂, hOther₂,
        hLater₂⟩
      have hHeld₂ :
          s₂.kernel.held =
            ↑s.node.config.tx.hw.built.handles +
              (↑s.node.config.rx.hw.built.handles +
                s.kernel.held) := by
        rw [hKernel₂, ← hHeld₁]
        rfl
      have hDestroyed :
          ∀ s' : NodeState,
            s'.kernel = s₂.kernel → s'.node = s₂.node →
              ¬ s.ComesUp →
                FailedFrom s
                  ((s'.setKernel (destroy
                    s.node.config.tx.hw.built
                    s'.kernel)).setKernel (destroy
                      s.node.config.rx.hw.built
                      (destroy s.node.config.tx.hw.built
                        s'.kernel))) := by
        intro s' hKernel hNode hNot
        refine ⟨hNot, fun _ => ?_, ?_⟩
        · rw [hKernel]
          exact held_destroy_of_eq (held_destroy_of_eq hHeld₂)
        · exact hNode.trans (hNode₂.trans hNode₁)
      have hWorksRx :
          s.ComesUp → (s₂.device .rx).Works := by
        intro hUp
        rw [hOther₂ .rx (by decide)]
        exact Device.Works.later hUp.2.2.1 hLater₁
      have hWorksTx :
          s.ComesUp → (s₂.device .tx).Works := by
        intro hUp
        refine Device.Works.later ?_ hLater₂
        rw [hOther₁ .tx (by decide)]
        exact hUp.2.2.2
      rw [post_onThrow, post_bind]
      apply Post.mono (post_configure .rx _ _)
      · rintro rx s₃ ⟨hHandles₃, hKernel₃, hNode₃, hWorks₃⟩
        rw [post_bind]
        apply Post.mono (post_configure .tx _ _)
        · rintro tx s₄ ⟨hHandles₄, hKernel₄, hNode₄,
            hWorks₄⟩
          refine ⟨?_, ?_, fun hUp => ⟨?_, ?_⟩⟩
          · change s₄.kernel.held = ↑tx.handles +
              (↑rx.handles + s.kernel.held)
            rw [hKernel₄, hKernel₃, hHeld₂, hHandles₄,
              hHandles₃]
          · rw [hNode₄, hNode₃, hNode₂, hNode₁]
          · exact hWorks₄ .rx (hWorks₃ .rx (hWorksRx hUp))
          · exact hWorks₄ .tx (hWorks₃ .tx (hWorksTx hUp))
        · rintro e s₄ ⟨hKernel₄, hNode₄, hNot⟩
          exact hDestroyed s₄ (hKernel₄.trans hKernel₃)
            (hNode₄.trans hNode₃)
            fun hUp => hNot (hWorks₃ .tx (hWorksTx hUp))
      · rintro e s₃ ⟨hKernel₃, hNode₃, hNot⟩
        exact hDestroyed s₃ hKernel₃ hNode₃
          fun hUp => hNot (hWorksRx hUp)
    · rintro e s₂ ⟨hNotTx, hHeld₂, hNode₂⟩
      rw [hKernel₁] at hNotTx hHeld₂
      rw [show s₁.device .tx = s.txDevice from hTxDevice]
        at hNotTx hHeld₂
      refine ⟨fun hUp => hNotTx hUp.2.1, fun hLate => ?_,
        hNode₂.trans hNode₁⟩
      apply held_destroy_of_eq
      rw [hHeld₂ (hLate.2 hGoesRx)]
      rfl
  · rintro e s₁ ⟨hNot, hHeld, hNode⟩
    refine ⟨fun hUp => hNot hUp.1, fun hLate => ?_, hNode⟩
    exact hHeld hLate.1

end LoRaRadio

------------------------------------------------------------
-- What the Node Owns
------------------------------------------------------------

namespace LoRaRadio

open Faulting

namespace NodeState

/- The handles of one of the node's radios. -/
def owned
    (side : Side)
    (s : NodeState) : Multiset Handle :=
  match s.radio side with
  | some radio => ↑radio.handles
  | none => 0

/-
  The process holds the handles of the node's radios and
  `base`; a node that is not started has no radios.
-/
def Accounts
    (base : Multiset Handle)
    (s : NodeState) : Prop :=
  s.kernel.held = s.owned .rx + (s.owned .tx + base) ∧
    (s.node.started = false → s.Idle)

@[simp] theorem owned_setStarted
    (started : Bool)
    (s : NodeState)
    (side : Side) :
    (s.setStarted started).owned side = s.owned side := by
  cases side <;> rfl

variable {s : NodeState}

theorem owned_of_radio
    {side : Side}
    {radio : LinuxSx1280Radio}
    (hRadio : s.radio side = some radio) :
    s.owned side = ↑radio.handles := by
  unfold owned
  rw [hRadio]

theorem Idle.owned_eq
    (hIdle : s.Idle)
    (side : Side) :
    s.owned side = 0 := by
  unfold owned
  cases side with
  | rx => rw [show s.radio .rx = none from hIdle.2.1]
  | tx => rw [show s.radio .tx = none from hIdle.2.2]

theorem Idle.accounts
    (hIdle : s.Idle) :
    s.Accounts s.kernel.held := by
  refine ⟨?_, fun _ => hIdle⟩
  rw [hIdle.owned_eq, hIdle.owned_eq, zero_add, zero_add]

theorem radio_resetRadio
    (side side' : Side)
    (s : NodeState) :
    (s.resetRadio side).radio side' =
      if side' = side then none else s.radio side' := by
  unfold resetRadio
  cases hRadio : s.radio side with
  | some radio => simp
  | none => by_cases hSide : side' = side <;> simp [*]

/- Resetting a radio gives back what it owned. -/
theorem held_resetRadio
    {side : Side}
    {base : Multiset Handle}
    (hHeld : s.kernel.held = s.owned side + base) :
    (s.resetRadio side).kernel.held = base := by
  unfold resetRadio owned at *
  cases hRadio : s.radio side with
  | some radio =>
      rw [hRadio] at hHeld
      simpa using held_destroy_of_eq hHeld
  | none =>
      rw [hRadio] at hHeld
      simpa using hHeld

theorem config_resetRadio
    (side : Side)
    (s : NodeState) :
    (s.resetRadio side).node.config = s.node.config := by
  unfold resetRadio
  cases s.radio side <;> simp

theorem rxCallback_resetRadio
    (side : Side)
    (s : NodeState) :
    (s.resetRadio side).node.rxCallback =
      s.node.rxCallback := by
  unfold resetRadio
  cases s.radio side <;> simp

/- The node is as it was created, with the same callback. -/
theorem node_released
    (s : NodeState) :
    s.released.node =
      { config := s.node.config
        rxCallback := s.node.rxCallback } := by
  have hRx : s.released.radio .rx = none := by
    simp [released, radio_resetRadio]
  have hTx : s.released.radio .tx = none := by
    simp [released, radio_resetRadio]
  have hConfig :
      s.released.node.config = s.node.config := by
    simp only [released, setStarted, config_resetRadio]
  have hCallback :
      s.released.node.rxCallback = s.node.rxCallback := by
    simp only [released, setStarted, rxCallback_resetRadio]
  have hStarted : s.released.node.started = false := rfl
  change s.released.node.rxRadio = none at hRx
  change s.released.node.txRadio = none at hTx
  rw [← hConfig, ← hCallback]
  cases hNode : s.released.node
  simp_all

theorem held_released
    {base : Multiset Handle}
    (hHeld :
      s.kernel.held = s.owned .rx + (s.owned .tx + base)) :
    s.released.kernel.held = base := by
  apply held_resetRadio
  rw [held_resetRadio hHeld]
  simp [owned, radio_resetRadio]

end NodeState

end LoRaRadio

------------------------------------------------------------
-- Starting the Radios
------------------------------------------------------------

namespace LoRaRadio

open Faulting

variable {α : Type}
variable {s : NodeState}

/- What a method of a radio leaves as it is. -/
def NodeState.ledger
    (s : NodeState) :
    Kernel × (Side → Multiset Handle) × (Side → Bool) ×
      NodeConfig × Option Nat × Bool :=
  (s.kernel, s.owned, fun side => (s.radio side).isSome,
    s.node.config, s.node.rxCallback, s.node.started)

theorem ledger_same
    {s' : NodeState}
    (hSame : s'.ledger = s.ledger) :
    s'.kernel = s.kernel ∧
      (∀ side, s'.owned side = s.owned side) ∧
      (∀ side,
        (s'.radio side).isSome = (s.radio side).isSome) ∧
      s'.node.config = s.node.config ∧
      s'.node.rxCallback = s.node.rxCallback ∧
      s'.node.started = s.node.started := by
  unfold NodeState.ledger at hSame
  simp only [Prod.mk.injEq] at hSame
  rcases hSame with ⟨hKernel, hOwned, hSome, hNode⟩
  exact ⟨hKernel, congrFun hOwned, congrFun hSome, hNode⟩

theorem ledger_afterMethod
    {side : Side}
    {radio : LinuxSx1280Radio}
    {r : RadioState}
    (hRadio : s.radio side = some radio)
    (hHandles : r.radio.handles = radio.handles) :
    (s.afterMethod side r).ledger = s.ledger := by
  unfold NodeState.afterMethod NodeState.ledger
  simp only [NodeState.kernel_setRadio,
    NodeState.kernel_setDevice, NodeState.radio_setRadio,
    NodeState.radio_setDevice, NodeState.config_setRadio,
    NodeState.node_setDevice, NodeState.rxCallback_setRadio,
    NodeState.started_setRadio, Prod.mk.injEq, true_and,
    and_true]
  constructor
  · funext side'
    unfold NodeState.owned
    rw [NodeState.radio_setRadio]
    by_cases hSide : side' = side
    · subst hSide
      rw [if_pos rfl, hRadio]
      exact congrArg _ hHandles
    · rw [if_neg hSide, NodeState.radio_setDevice]
  · funext side'
    by_cases hSide : side' = side
    · subst hSide
      simp [hRadio]
    · simp [hSide]

/- Calling a method of known effects on a radio. -/
theorem Issues.post_onOwned
    {effects : List Effect}
    {side : Side}
    {m : RadioM α}
    (hIssues : Issues effects α m)
    (hSome : (s.radio side).isSome = true) :
    Post (onOwned side m)
      (fun _ s' =>
        s'.ledger = s.ledger ∧
          ∀ side', (s.device side').Works →
            (s'.device side').Works)
      (fun _ s' =>
        s'.ledger = s.ledger ∧ ¬ (s.device side).Works)
      s := by
  rcases Option.isSome_iff_exists.mp hSome with
    ⟨radio, hRadio⟩
  rw [LoRaRadio.post_onOwned hRadio]
  apply Post.mono (hIssues.post _)
  · rintro a r ⟨hIdentity, hWorks⟩
    have hHandles : r.radio.handles = radio.handles :=
      congrArg (fun i => i.2.1) hIdentity
    refine ⟨ledger_afterMethod hRadio hHandles, ?_⟩
    intro side' hBefore
    unfold NodeState.afterMethod
    rw [NodeState.device_setRadio,
      NodeState.device_setDevice]
    by_cases hSide : side' = side
    · subst hSide
      simpa using hWorks hBefore
    · simpa [hSide] using hBefore
  · rintro e r ⟨hIdentity, hNot⟩
    have hHandles : r.radio.handles = radio.handles :=
      congrArg (fun i => i.2.1) hIdentity
    exact ⟨ledger_afterMethod hRadio hHandles, hNot⟩

theorem post_startRadios
    {config : NodeConfig}
    (hSome : ∀ side, (s.radio side).isSome = true) :
    Post (startRadios config)
      (fun _ s' => s'.ledger = s.ledger)
      (fun _ s' =>
        s'.ledger = s.ledger ∧
          ¬ (s.rxDevice.Works ∧ s.txDevice.Works))
      s := by
  have hLater :
      ∀ {s' : NodeState}, s'.ledger = s.ledger →
        ∀ side, (s'.radio side).isSome = true := by
    intro s' hSame side
    rw [(ledger_same hSame).2.2.1, hSome]
  unfold startRadios
  rw [post_bind]
  apply Post.mono
    ((issues_setDioIrqParams _ _ _ _).post_onOwned
      (hSome .rx))
  · rintro _ s₁ ⟨hSame₁, hWorks₁⟩
    rw [post_bind]
    apply Post.mono
      ((issues_setDioIrqParams _ _ _ _).post_onOwned
        (hLater hSame₁ .tx))
    · rintro _ s₂ ⟨hSame₂, hWorks₂⟩
      apply Post.mono
        ((issues_setRx _).post_onOwned
          (hLater (hSame₂.trans hSame₁) .rx))
      · rintro _ s₃ ⟨hSame₃, -⟩
        exact hSame₃.trans (hSame₂.trans hSame₁)
      · rintro e s₃ ⟨hSame₃, hNot⟩
        refine ⟨hSame₃.trans (hSame₂.trans hSame₁), ?_⟩
        exact fun hWorks =>
          hNot (hWorks₂ .rx (hWorks₁ .rx hWorks.1))
    · rintro e s₂ ⟨hSame₂, hNot⟩
      exact ⟨hSame₂.trans hSame₁,
        fun hWorks => hNot (hWorks₁ .tx hWorks.2)⟩
  · rintro e s₁ ⟨hSame₁, hNot⟩
    exact ⟨hSame₁, fun hWorks => hNot hWorks.1⟩

/- A node that is started answers `start` at once. -/
theorem NodeState.exec_start_of_started
    {s : NodeState}
    (hStarted : s.node.started = true) :
    exec LoRaRadio.start s = (.ok true, s) := by
  unfold LoRaRadio.start
  rw [exec_bind, exec_get]
  simp [hStarted]

/- A node that is idle is as it was created. -/
theorem NodeState.Idle.node_eq
    (hIdle : s.Idle) :
    s.node =
      { config := s.node.config
        rxCallback := s.node.rxCallback } := by
  rcases hIdle with ⟨hStarted, hRx, hTx⟩
  cases hNode : s.node
  simp_all

/- The node with the radios moved in. -/
theorem accounts_setRadios
    {rx tx : LinuxSx1280Radio}
    {base : Multiset Handle}
    (hHeld :
      s.kernel.held = ↑tx.handles + (↑rx.handles + base)) :
    let s' := (s.setRadio .rx (some rx)).setRadio .tx
      (some tx)
    s'.kernel.held = s'.owned .rx + (s'.owned .tx + base) := by
  intro s'
  have hRx : s'.owned .rx = ↑rx.handles :=
    NodeState.owned_of_radio (by simp [s'])
  have hTx : s'.owned .tx = ↑tx.handles :=
    NodeState.owned_of_radio (by simp [s'])
  rw [hRx, hTx, add_left_comm, ← hHeld]
  simp [s']

/-
  A `start` that fails leaves the node as it was, and gives
  everything back unless a constructor failed late; one that
  succeeds accounts for what it took.
-/
theorem post_start
    (hIdle : s.Idle) :
    Post start
      (fun up s' =>
        if up then
          s'.Accounts s.kernel.held ∧
            s'.node.started = true ∧
            s'.node.config = s.node.config
        else
          FailedFrom s s')
      (fun _ _ => False) s := by
  unfold start
  rw [post_bind, post_get]
  simp only [hIdle.1, Bool.false_eq_true, if_false]
  rw [post_tryCatch, post_bind]
  apply Post.mono (post_bringUp s)
  · rintro ⟨rx, tx⟩ s₁ ⟨hHeld₁, hNode₁, hWorks₁⟩
    have hAccounts := accounts_setRadios hHeld₁
    have hConfig₁ : s₁.node.config = s.node.config := by
      rw [hNode₁]
    have hCallback₁ :
        s₁.node.rxCallback = s.node.rxCallback := by
      rw [hNode₁]
    simp only [post_bind, post_modify]
    generalize hMoved :
      (s₁.setRadio .rx (some rx)).setRadio .tx (some tx) =
        s₂ at *
    have hSome : ∀ side, (s₂.radio side).isSome = true := by
      intro side
      subst hMoved
      cases side <;> simp
    have hConfig₂ : s₂.node.config = s.node.config := by
      subst hMoved
      simpa using hConfig₁
    have hCallback₂ :
        s₂.node.rxCallback = s.node.rxCallback := by
      subst hMoved
      simpa using hCallback₁
    have hDevices :
        s₂.rxDevice = s₁.rxDevice ∧
          s₂.txDevice = s₁.txDevice := by
      subst hMoved
      exact ⟨rfl, rfl⟩
    apply Post.mono (post_startRadios hSome)
    · intro _ s₃ hSame
      rcases ledger_same hSame with
        ⟨hKernel₃, hOwned₃, -, hConfig₃, -, -⟩
      simp only [post_pure, if_true]
      refine ⟨⟨?_, fun hStopped => ?_⟩, rfl,
        hConfig₃.trans hConfig₂⟩
      · rw [NodeState.owned_setStarted,
          NodeState.owned_setStarted, hOwned₃, hOwned₃,
          ← hAccounts, ← hKernel₃]
        rfl
      · cases hStopped
    · rintro e s₃ ⟨hSame, hNot⟩
      rcases ledger_same hSame with
        ⟨hKernel₃, hOwned₃, -, hConfig₃, hCallback₃, -⟩
      simp only [post_pure, Bool.false_eq_true, if_false]
      refine ⟨fun hUp => hNot ?_, fun _ => ?_, ?_⟩
      · rw [hDevices.1, hDevices.2]
        exact hWorks₁ hUp
      · apply NodeState.held_released
        rw [hKernel₃, hOwned₃, hOwned₃]
        exact hAccounts
      · rw [NodeState.node_released, hIdle.node_eq,
          hConfig₃, hConfig₂, hCallback₃, hCallback₂]
  · rintro e s₁ ⟨hNot, hHeld, hNode⟩
    simp only [post_bind, post_modify, post_pure,
      Bool.false_eq_true, if_false]
    have hIdle₁ : s₁.Idle := by
      unfold NodeState.Idle
      rwa [hNode]
    refine ⟨hNot, fun hLate => ?_, ?_⟩
    · apply NodeState.held_released
      rw [hIdle₁.owned_eq, hIdle₁.owned_eq, zero_add,
        zero_add]
      exact hHeld hLate
    · rw [NodeState.node_released, hIdle.node_eq, hNode]

end LoRaRadio
