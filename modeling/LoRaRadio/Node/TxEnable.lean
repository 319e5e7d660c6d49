import LoRaRadio.Node.Lifecycle
import LoRaRadio.Radio.TxEnableLine

/-
  The TX-enable lines of a node over every sequence of its
  calls.

  A line that is not asserted around transmissions stays at
  the level its radio was constructed with.  The line of a
  TX radio that is asserted around them goes back to rest
  only when nothing fails on the way.

  Main declarations:
    * `SideIs` and `keepsSide_poll`
    * `start_line`
    * `poll_line`
    * `Tracked` and `Tracked.Right`
    * `right_iff_safe`
-/

------------------------------------------------------------
-- The Line of One Side
------------------------------------------------------------

namespace LoRaRadio

open Faulting

def NodeConfig.hw
    (config : NodeConfig) : Side → LinuxSx1280RadioConfig
| .rx => config.rx.hw
| .tx => config.tx.hw

/-
  The radio of a side, if there is one, was made from `hw`,
  and the line of that side is at a level in `P`.
-/
def SideIs
    (hw : LinuxSx1280RadioConfig)
    (side : Side)
    (P : Option GpiodLineValue → Prop)
    (s : NodeState) : Prop :=
  (∀ radio, s.radio side = some radio → radio.IsOf hw) ∧
    P (s.device side).txEnable

variable {hw : LinuxSx1280RadioConfig}
variable {side : Side}
variable {P : Option GpiodLineValue → Prop}
variable {effects : List Effect}
variable {α : Type}

/- A method concerns the side of its radio only. -/
theorem keepsSide_onOwned
    {side' : Side}
    {m : RadioM α}
    (hMethod :
      side' = side → Keeps (Stays (LineIs hw P)) m) :
    Keeps (Stays (SideIs hw side P)) (onOwned side' m) := by
  intro s hIs
  unfold onOwned
  rw [exec_mk]
  cases hRadio : s.radio side' with
  | none => exact hIs
  | some radio =>
      by_cases hSide : side' = side
      · subst hSide
        have hKept :=
          hMethod rfl ⟨radio, s.device side'⟩
            ⟨hIs.1 radio hRadio, hIs.2⟩
        constructor
        · intro radio' hRadio'
          simp only [NodeState.radio_setRadio,
            if_true, Option.some.injEq] at hRadio'
          rw [← hRadio']
          exact hKept.1
        · simpa using hKept.2
      · have hOther : side ≠ side' := fun hEq => hSide hEq.symm
        constructor
        · intro radio' hRadio'
          apply hIs.1
          simpa [hOther] using hRadio'
        · simpa [hOther] using hIs.2

theorem keepsSide_issues
    {side' : Side}
    {m : RadioM α}
    (hIssues : Issues effects α m)
    (hLine : .writeLine ∉ effects) :
    Keeps (Stays (SideIs hw side P)) (onOwned side' m) :=
  keepsSide_onOwned fun _ => hIssues.keeps_line hLine

theorem keepsSide_deliver
    (packet : LoRaNodeRxPacket) :
    Keeps (Stays (SideIs hw side P))
      (modify (NodeState.deliver packet) : NodeM Unit) := by
  apply keeps_modify
  intro s hIs
  unfold NodeState.deliver
  cases s.node.rxCallback with
  | none => exact hIs
  | some owner => cases side <;> exact hIs

/- Polling drives a line to rest, if it drives it at all. -/
theorem keepsSide_perform
    (hRest : P (some hw.restLevel))
    (side' : Side)
    (action : IrqAction) :
    Keeps (Stays (SideIs hw side P))
      (perform side' action) := by
  cases action with
  | halPostTx =>
      exact keepsSide_onOwned fun _ =>
        keepsLine_rests (rests_postTxState _) hRest
  | halPostRx =>
      exact keepsSide_onOwned fun _ =>
        keepsLine_rests (rests_postRxState _) hRest
  | rxDone =>
      have hRxDone :
          Keeps (Stays (SideIs hw side P)) rxDone := by
        unfold rxDone
        refine keeps_get.bind fun s => ?_
        refine keeps_ite (fun _ => keeps_pure _) fun _ => ?_
        exact (keepsSide_issues services_readPacket
          (by decide)).bind keepsSide_deliver
      unfold perform
      refine keeps_get.bind fun s => ?_
      split
      · exact keeps_ite (fun _ => hRxDone)
          fun _ => keeps_pure _
      · exact keeps_pure _
  | _ => exact keeps_pure _

theorem keepsSide_pollRadio
    (hRest : P (some hw.restLevel))
    (side' : Side) :
    Keeps (Stays (SideIs hw side P)) (pollRadio side') :=
  keeps_pollRadio
    (keepsSide_issues services_processIrqsLocked (by decide))
    (keepsSide_perform hRest side')

theorem keepsSide_poll
    (hRest : P (some hw.restLevel)) :
    Keeps (Stays (SideIs hw side P)) poll := by
  unfold poll
  exact (keepsSide_pollRadio hRest .rx).bind
    fun _ => keepsSide_pollRadio hRest .tx

/-
  A `send` keeps what the resting level keeps, except on the
  TX side with the line asserted around transmissions.
-/
theorem keepsSide_send
    (hMethod :
      side = .tx → ∀ payload timeout,
        Keeps (Stays (LineIs hw P))
          (sendPayload payload timeout))
    (payload : List UInt8) :
    Keeps (Stays (SideIs hw side P)) (send payload) := by
  intro s
  by_cases hTransmits : s.Transmits payload
  · have hKeeps : Keeps (Stays (SideIs hw side P))
        (do
          onOwned .tx
            (sendPayload payload
              s.node.config.radio.timeouts.txTimeout)
          return true) := by
      refine (keepsSide_onOwned fun hSide => ?_).bind
        fun _ => keeps_pure _
      exact hMethod hSide.symm payload _
    rw [exec_send_of_transmits hTransmits]
    exact hKeeps s
  · rw [exec_send_of_not_transmits hTransmits]
    exact Std.Refl.refl s

end LoRaRadio

------------------------------------------------------------
-- Starting and Stopping
------------------------------------------------------------

namespace LoRaRadio

open Faulting

variable {hw : LinuxSx1280RadioConfig}
variable {side : Side}
variable {P : Option GpiodLineValue → Prop}
variable {s s' : NodeState}

/- The predicate on the line of a side, whatever its radio. -/
def LevelIs
    (side : Side)
    (P : Option GpiodLineValue → Prop)
    (s : NodeState) : Prop :=
  P (s.device side).txEnable

theorem levelIs_setDevice
    {side' : Side}
    {d : Device}
    (hBefore : LevelIs side P s)
    (hDevice : side' = side → P d.txEnable) :
    LevelIs side P (s.setDevice side' d) := by
  unfold LevelIs at *
  by_cases hSide : side' = side
  · subst hSide
    simpa using hDevice rfl
  · have hOther : side ≠ side' := fun hEq => hSide hEq.symm
    simpa [hOther] using hBefore

theorem keepsLevel_makeRadio
    (hw' : LinuxSx1280RadioConfig)
    {side' : Side}
    (hTxOnly : hw.TxOnly)
    (hRest : P (some hw.restLevel))
    (hSame : side' = side → hw' = hw) :
    Keeps (Stays (LevelIs side P)) (makeRadio side' hw') := by
  intro s hBefore
  unfold makeRadio
  rw [exec_mk]
  apply levelIs_setDevice
  · unfold LevelIs at *
    simpa using hBefore
  · intro hSide
    subst hSide
    rw [hSame rfl]
    exact keepsLine_construct hTxOnly hRest _ hBefore

theorem keepsLevel_onLocal
    {side' : Side}
    (radio : LinuxSx1280Radio)
    (config : Sx1280Config) :
    Keeps (Stays (LevelIs side P))
      (onLocal side' radio (configureRadio config)) := by
  intro s hBefore
  unfold onLocal
  rw [exec_mk]
  apply levelIs_setDevice hBefore
  intro hSide
  subst hSide
  have hKeeps :=
    (issues_configureRadio config).keeps_txEnable (by decide)
  exact hKeeps.stays (P := P) ⟨radio, s.device side'⟩ hBefore

theorem keepsLevel_onThrow
    {α : Type}
    {m : NodeM α}
    (radio : LinuxSx1280Radio)
    (hBody : Keeps (Stays (LevelIs side P)) m) :
    Keeps (Stays (LevelIs side P))
      (onThrow m (destroyLocal radio)) := by
  have hDestroy :
      Keeps (Stays (LevelIs side P)) (destroyLocal radio) := by
    apply keeps_modify
    intro s hBefore
    cases side <;> exact hBefore
  exact hBody.tryCatch fun e =>
    hDestroy.bind fun _ => keeps_throw e

/-
  Bringing the radios up does not assert a line that is
  asserted around transmissions only.
-/
theorem keepsLevel_bringUp
    {config : NodeConfig}
    (hTxOnly : (config.hw side).TxOnly)
    (hRest : P (some (config.hw side).restLevel)) :
    Keeps (Stays (LevelIs side P)) (bringUp config) := by
  unfold bringUp
  refine (keepsLevel_makeRadio (config.hw .rx) hTxOnly
    hRest fun hSide => by rw [hSide]).bind
    fun rx => ?_
  refine keepsLevel_onThrow rx ?_
  refine (keepsLevel_makeRadio (config.hw .tx) hTxOnly
    hRest fun hSide => by rw [hSide]).bind
    fun tx => ?_
  refine keepsLevel_onThrow tx ?_
  refine (keepsLevel_onLocal rx _).bind fun _ => ?_
  refine (keepsLevel_onLocal tx _).bind fun _ => ?_
  exact keeps_pure _

/- Releasing the radios does not touch the lines. -/
theorem device_released
    (s : NodeState)
    (side : Side) :
    s.released.device side = s.device side := by
  have hReset : ∀ side' (t : NodeState),
      (t.resetRadio side').device side = t.device side := by
    intro side' t
    unfold NodeState.resetRadio
    cases t.radio side' <;> simp
  unfold NodeState.released
  rw [NodeState.device_setStarted, hReset, hReset]

/- The line, if there is one, is as the constructor left it. -/
def LinuxSx1280RadioConfig.AtRest
    (hw : LinuxSx1280RadioConfig)
    (level : Option GpiodLineValue) : Prop :=
  hw.pins.hasTxEnable = true → level = some hw.restLevel

theorem LinuxSx1280RadioConfig.Makes.lineIs
    {d d' : Device}
    (hMakes : hw.Makes d d') :
    LineIs hw hw.AtRest ⟨hw.built, d'⟩ := by
  rcases hMakes with ⟨k, k', hRun⟩
  refine ⟨isOf_built hw, fun hConfigured => ?_⟩
  exact construct_txEnable hRun hConfigured

/- The lines of a node that came up are at rest. -/
theorem Started.sideIs
    {rx rx' tx tx' : RadioState}
    (hStarted : Started s s' rx rx' tx tx')
    (side : Side) :
    SideIs (s.node.config.hw side) side
      (s.node.config.hw side).AtRest s' := by
  have hIssues := issues_configureRadio s.node.config.radio
  cases side with
  | rx =>
      rcases hStarted.rxConfigured with ⟨d, hMakes, hConfig⟩
      rcases exec_bind_ok.mp hStarted.rxStarted with
        ⟨_, r, hMask, hSetRx⟩
      have hConfigured :=
        (hIssues.keeps_line (by decide)).of_exec hConfig
          hMakes.lineIs
      have hHooked :
          LineIs s.node.config.rx.hw
            s.node.config.rx.hw.AtRest
            { rx with
              radio := { rx.radio with rxDone := true } } :=
        hConfigured
      have hMasked :=
        ((issues_setDioIrqParams _ _ _ _).keeps_line
          (by decide)).of_exec hMask hHooked
      have hListening :=
        (keepsLine_setRx (fun _ => rfl) _).of_exec hSetRx
          hMasked
      constructor
      · intro radio hRadio
        change s'.node.rxRadio = some radio at hRadio
        rw [hStarted.node] at hRadio
        cases hRadio
        exact hListening.1
      · change _ → s'.rxDevice.txEnable = _
        rw [hStarted.rxDevice]
        exact hListening.2
  | tx =>
      rcases hStarted.txConfigured with ⟨d, hMakes, hConfig⟩
      have hConfigured :=
        (hIssues.keeps_line (by decide)).of_exec hConfig
          hMakes.lineIs
      have hMasked :=
        ((issues_setDioIrqParams _ _ _ _).keeps_line
          (by decide)).of_exec hStarted.txStarted hConfigured
      constructor
      · intro radio hRadio
        change s'.node.txRadio = some radio at hRadio
        rw [hStarted.node] at hRadio
        cases hRadio
        exact hMasked.1
      · change _ → s'.txDevice.txEnable = _
        rw [hStarted.txDevice]
        exact hMasked.2

/- The radios of a node that is brought up. -/
theorem bringUp_isOf
    {radios : LinuxSx1280Radio × LinuxSx1280Radio}
    (hRun :
      exec (bringUp s.node.config) s = (.ok radios, s')) :
    radios.1.IsOf s.node.config.rx.hw ∧
      radios.2.IsOf s.node.config.tx.hw := by
  rcases bringUp_ok hRun with
    ⟨rx, tx, ⟨d, hMakes, hRx⟩, ⟨d', hMakes', hTx⟩, hRadios,
      -⟩
  have hIssues := issues_configureRadio s.node.config.radio
  have hRxIs :=
    (hIssues.keeps_line (by decide)).of_exec hRx hMakes.lineIs
  have hTxIs :=
    (hIssues.keeps_line (by decide)).of_exec hTx
      hMakes'.lineIs
  rw [hRadios]
  exact ⟨hRxIs.1, hTxIs.1⟩

theorem keepsSide_startRadios
    (hRest : P (some hw.restLevel))
    (config : NodeConfig) :
    Keeps (Stays (SideIs hw side P)) (startRadios config) := by
  unfold startRadios
  exact
    (keepsSide_issues (issues_setDioIrqParams _ _ _ _)
      (by decide)).bind fun _ =>
    (keepsSide_issues (issues_setDioIrqParams _ _ _ _)
      (by decide)).bind fun _ =>
    keepsSide_onOwned fun _ => keepsLine_setRx hRest _

/-
  A `start`, whatever comes of it, does not assert a line
  that is asserted around transmissions only.
-/
theorem level_start
    (hStopped : s.node.started = false)
    (hTxOnly : (s.node.config.hw side).TxOnly)
    (hRest : P (some (s.node.config.hw side).restLevel))
    (hLevel : LevelIs side P s) :
    LevelIs side P (exec start s).2 := by
  have hBringUp :=
    (keepsLevel_bringUp hTxOnly hRest).post s
  have hHandler : ∀ t : NodeState,
      LevelIs side P t → LevelIs side P t.released := by
    intro t hKept
    unfold LevelIs at *
    rwa [device_released]
  have hPost :
      Post start (fun _ s' => LevelIs side P s')
        (fun _ s' => LevelIs side P s') s := by
    unfold start
    simp only [post_bind, post_get, hStopped,
      Bool.false_eq_true, if_false, post_tryCatch, post_modify,
      post_pure]
    apply Post.mono
      (hBringUp.and (post_of_ok fun radios s₁ => bringUp_isOf))
    · intro radios s₁ hBoth
      rcases hBoth with ⟨hKept, hRx, hTx⟩
      generalize hMoved :
        (s₁.setRadio .rx (some radios.1)).setRadio .tx
          (some radios.2) = s₂
      have hSide :
          SideIs (s.node.config.hw side) side P s₂ := by
        rw [← hMoved]
        constructor
        · intro radio hRadio
          cases side <;> cases hRadio
          · exact hRx
          · exact hTx
        · cases side <;> exact hKept hLevel
      apply Post.mono
        ((keepsSide_startRadios hRest _).post s₂)
      · intro _ s₃ hStays
        have hLast := (hStays hSide).2
        cases side <;> exact hLast
      · exact fun _ s₃ hStays => hHandler s₃ (hStays hSide).2
    · exact fun _ s₁ hKept => hHandler s₁ (hKept.1 hLevel)
  unfold Post at hPost
  rcases hRun : exec start s with ⟨e | up, s'⟩ <;>
    · rw [hRun] at hPost
      exact hPost

end LoRaRadio

------------------------------------------------------------
-- The End of a Transmission
------------------------------------------------------------

namespace LoRaRadio

open Faulting

/-
  The next poll of this device reads and clears a `TX_DONE`
  or a timeout: it gets as far as the transfer that clears
  the interrupts, its fifth call.
-/
def Device.TakesTxEnd
    (d : Device) : Prop :=
  let irqRegs := (RadioState.sampled ⟨{}, d⟩).irq
  d.Quiet 5 ∧
    (Irq.has irqRegs Irq.txDone = true ∨
      Irq.has irqRegs Irq.rxTxTimeout = true)

instance
    (d : Device) :
    Decidable d.TakesTxEnd :=
  inferInstanceAs (Decidable (_ ∧ (_ ∨ _)))

/-
  `poll` gets to the TX radio, and takes the interrupt that
  ends its transmission.
-/
def NodeState.TakesTxEnd
    (s : NodeState) : Prop :=
  (exec (pollRadio .rx) s).1 = .ok () ∧
    s.node.txRadio.isSome = true ∧ s.txDevice.TakesTxEnd

instance
    (s : NodeState) :
    Decidable s.TakesTxEnd :=
  inferInstanceAs (Decidable (_ ∧ _))

/- The transmitting half of a node. -/
def NodeState.voice
    (s : NodeState) : Option LinuxSx1280Radio × Device :=
  (s.node.txRadio, s.txDevice)

theorem keepsVoice_onOwned
    {α : Type}
    (m : RadioM α) :
    Keeps (Same NodeState.voice) (onOwned .rx m) := by
  intro s
  unfold onOwned
  rw [exec_mk]
  cases s.radio .rx <;> rfl

/- Polling the receiver does not touch the transmitter. -/
theorem keepsVoice_pollRx :
    Keeps (Same NodeState.voice) (pollRadio .rx) := by
  refine keeps_pollRadio (keepsVoice_onOwned _) fun action =>
    keeps_perform (fun _ => keepsVoice_onOwned _)
      (keepsVoice_onOwned _) ?_ action
  intro packet s
  unfold NodeState.deliver
  cases s.node.rxCallback <;> rfl

/- `TX_DONE` and the timeout restore the line first. -/
theorem dispatch_txEnd
    {irqRegs : UInt16}
    (hEnd :
      Irq.has irqRegs Irq.txDone = true ∨
        Irq.has irqRegs Irq.rxTxTimeout = true) :
    ∃ rest,
      processIrqsDispatch .lora .tx irqRegs =
        .halPostTx :: rest := by
  have hSplit :
      processIrqsDispatch .lora .tx irqRegs =
        onIrq irqRegs Irq.txDone [.halPostTx, .txDone] ++
          onIrq irqRegs Irq.rxTxTimeout
            [.halPostTx, .txTimeout] := rfl
  rw [hSplit]
  unfold onIrq
  by_cases hDone : Irq.has irqRegs Irq.txDone = true
  · rw [if_pos hDone]
    exact ⟨_, rfl⟩
  · rw [if_neg hDone, if_pos (hEnd.resolve_left hDone)]
    exact ⟨_, rfl⟩

variable {hw : LinuxSx1280RadioConfig}
variable {radio : LinuxSx1280Radio}
variable {s s' : NodeState}

/- The dispatch restores the line if its first call goes
  through; what follows does not assert it again. -/
theorem level_dispatchTx
    {irqRegs : UInt16}
    (hTxOnly : hw.TxOnly)
    (hTx : s.radio .tx = some radio)
    (hOf : radio.IsOf hw)
    (hEnd :
      Irq.has irqRegs Irq.txDone = true ∨
        Irq.has irqRegs Irq.rxTxTimeout = true)
    (hLevel : s.txDevice.txEnable = some (hw.txLevel true)) :
    Post
      ((processIrqsDispatch .lora .tx irqRegs).forM
        (perform .tx))
      (fun _ s' =>
        s'.txDevice.txEnable = some (hw.txLevel true) ↔
          ¬ s.txDevice.Quiet 1)
      (fun _ s' =>
        s'.txDevice.txEnable = some (hw.txLevel true) ↔
          ¬ s.txDevice.Quiet 1) s := by
  rcases dispatch_txEnd hEnd with ⟨rest, hDispatch⟩
  have hNext :
      s.txDevice.Quiet 1 ↔
        (RadioState.nextEvent ⟨radio, s.txDevice⟩).throws =
          false :=
    s.txDevice.quiet_one
  rw [hDispatch]
  change Post
    (onOwned .tx (hook postTxState) >>= fun _ =>
      rest.forM (perform .tx)) _ _ s
  rw [post_bind, post_onOwned hTx,
    post_hook_txOnly hTxOnly hOf rfl, hNext]
  split
  case isTrue hThrows =>
    exact iff_of_true hLevel fun hFalse =>
      absurd (hThrows.symm.trans hFalse) (by decide)
  case isFalse hReturns =>
  generalize hLow :
    s.afterMethod .tx
      ((RadioState.afterCall ⟨radio, s.device .tx⟩
        ).setTxEnableLine (hw.txLevel false)) = s₁
  have hIs : SideIs hw .tx hw.NotAsserted s₁ := by
    rw [← hLow]
    constructor
    · intro radio' hRadio'
      cases hRadio'
      exact hOf
    · exact hw.notAsserted_low
  have hPerform : ∀ action,
      Keeps (Stays (SideIs hw .tx hw.NotAsserted))
        (perform .tx action) :=
    keepsSide_perform hTxOnly.notAsserted_rest .tx
  have hKeeps := (keeps_forM hPerform rest).post s₁
  have hReturns' :
      ¬ ¬ (RadioState.nextEvent ⟨radio, s.txDevice⟩
        ).throws = false :=
    not_not_intro (Bool.eq_false_iff.mpr hReturns)
  apply Post.mono hKeeps
  · exact fun _ s₂ hStays =>
      iff_of_false (hStays hIs).2 hReturns'
  · exact fun _ s₂ hStays =>
      iff_of_false (hStays hIs).2 hReturns'

/-
  A poll of the TX radio that takes the end of a
  transmission restores the line unless the driver does not
  know of the transmission, or one of the next two calls
  throws: the wait after the interrupts are cleared, or the
  write of the line.
-/
theorem level_pollTx
    (hTxOnly : hw.TxOnly)
    (hTx : s.radio .tx = some radio)
    (hOf : radio.IsOf hw)
    (hSpeaks : radio.Speaks)
    (hTakes : s.txDevice.TakesTxEnd)
    (hLevel : s.txDevice.txEnable = some (hw.txLevel true)) :
    (exec (pollRadio .tx) s).2.txDevice.txEnable =
        some (hw.txLevel true) ↔
      ¬ (radio.operatingMode = .tx ∧
        s.txDevice.Quiet 7) := by
  have hIssues := services_processIrqsLocked
  have hCalls :=
    callsHal_processIrqsLocked (s := ⟨radio, s.txDevice⟩)
  have hLine :=
    (hIssues.keeps_txEnable (by decide)).post
      ⟨radio, s.txDevice⟩
  have hRead :
      Post processIrqsLocked
        (fun out r =>
          out = (.lora,
            (RadioState.sampled ⟨radio, s.txDevice⟩).irq) ∧
          r.radio = radio)
        (fun _ _ => True) ⟨radio, s.txDevice⟩ := by
    apply post_of_ok
    intro out r hRun
    rcases processIrqsLocked_ok hRun with
      ⟨hType, hWord, hState⟩
    rw [hSpeaks.1] at hType
    exact ⟨Prod.ext hType hWord, by rw [hState]; rfl⟩
  have hPost :
      Post (pollRadio .tx)
        (fun _ s' =>
          s'.txDevice.txEnable = some (hw.txLevel true) ↔
            ¬ (radio.operatingMode = .tx ∧
              s.txDevice.Quiet 7))
        (fun _ s' =>
          s'.txDevice.txEnable = some (hw.txLevel true) ↔
            ¬ (radio.operatingMode = .tx ∧
              s.txDevice.Quiet 7)) s := by
    unfold pollRadio processIrqs
    simp only [post_bind, post_get, hTx, Option.isSome_some,
      if_true]
    rw [post_onOwned hTx]
    apply Post.mono ((hCalls.and hLine).and hRead)
    · intro out r hAll
      rcases hAll with
        ⟨⟨⟨hQuiet, hHal, hClock, -⟩, hSame⟩, rfl, hRadio⟩
      generalize hMethod : s.afterMethod .tx r = s₁
      have hDevice : s₁.txDevice = r.device := by
        rw [← hMethod]
        rfl
      have hTx₁ : s₁.radio .tx = some radio := by
        rw [← hMethod, ← hRadio]
        rfl
      have hLevel₁ :
          s₁.txDevice.txEnable = some (hw.txLevel true) := by
        rw [hDevice]
        exact hSame.trans hLevel
      have hSeven :
          s.txDevice.Quiet 7 ↔ s₁.txDevice.Quiet 1 := by
        rw [hDevice]
        have hSplit : s.txDevice.Quiet (6 + 1) ↔
            s.txDevice.Quiet 6 ∧ r.device.Quiet 1 :=
          Device.quiet_add hHal hClock
        exact hSplit.trans (and_iff_right hQuiet)
      simp only [hTx₁]
      rcases hSpeaks.2.1 with hMode | hMode
      · -- The driver is in standby: nothing is dispatched.
        rw [hMode]
        exact iff_of_true hLevel₁ fun hBoth =>
          absurd hBoth.1 (by decide)
      · rw [hMode, hSeven]
        simp only [true_and]
        exact level_dispatchTx hTxOnly hTx₁ hOf hTakes.2
          hLevel₁
    · intro _ r hAll
      rcases hAll with ⟨⟨⟨hNot, -⟩, hSame⟩, -⟩
      constructor
      · intro _ hBoth
        exact hNot fun k hLt => hBoth.2 k (by omega)
      · intro _
        exact hSame.trans hLevel
  unfold Post at hPost
  rcases hRun : exec (pollRadio .tx) s with ⟨e | u, s'⟩ <;>
    · rw [hRun] at hPost
      exact hPost

/- A poll that gets to the TX radio does just that. -/
theorem level_poll
    (hTxOnly : hw.TxOnly)
    (hTx : s.node.txRadio = some radio)
    (hOf : radio.IsOf hw)
    (hSpeaks : radio.Speaks)
    (hTakes : s.TakesTxEnd)
    (hLevel : s.txDevice.txEnable = some (hw.txLevel true)) :
    (exec poll s).2.txDevice.txEnable =
        some (hw.txLevel true) ↔
      ¬ (radio.operatingMode = .tx ∧
        s.txDevice.Quiet 7) := by
  have hRun := exec_of_fst hTakes.1
  have hVoice : (exec (pollRadio .rx) s).2.voice = s.voice :=
    keepsVoice_pollRx s
  generalize (exec (pollRadio .rx) s).2 = s₁ at hRun hVoice
  have hRadio : s₁.radio .tx = some radio :=
    (congrArg Prod.fst hVoice).trans hTx
  have hDevice : s₁.txDevice = s.txDevice :=
    congrArg Prod.snd hVoice
  have hPoll : exec poll s = exec (pollRadio .tx) s₁ := by
    unfold poll
    rw [exec_bind, hRun]
  rw [hPoll, ← hDevice]
  apply level_pollTx hTxOnly hRadio hOf hSpeaks
  · rw [hDevice]
    exact hTakes.2.2
  · rw [hDevice]
    exact hLevel

/- What a `send` that reaches the radio leaves of the line. -/
theorem sent_send
    {payload : List UInt8}
    (hTxOnly : hw.TxOnly)
    (hTransmits : s.Transmits payload)
    (hTx : s.node.txRadio = some radio)
    (hOf : radio.IsOf hw)
    (hType : radio.packetType = .lora) :
    ∃ r, (exec (send payload) s).2.txDevice = r.device ∧
      Sent hw 6 ⟨radio, s.txDevice⟩ r := by
  have hRadio : s.radio .tx = some radio := hTx
  have hPost :
      Post (send payload)
        (fun _ s' => ∃ r, s'.txDevice = r.device ∧
          Sent hw 6 ⟨radio, s.txDevice⟩ r)
        (fun _ s' => ∃ r, s'.txDevice = r.device ∧
          Sent hw 6 ⟨radio, s.txDevice⟩ r) s := by
    rw [post_congr (exec_send_of_transmits hTransmits),
      post_bind, post_onOwned hRadio]
    have hSent :=
      post_sendPayload_line (r := ⟨radio, s.txDevice⟩)
        hTxOnly hOf hType payload
        s.node.config.radio.timeouts.txTimeout
    apply Post.mono hSent
    · exact fun _ r hLine => ⟨r, rfl, hLine⟩
    · exact fun _ r hLine => ⟨r, rfl, hLine⟩
  unfold Post at hPost
  rcases hRun : exec (send payload) s with ⟨e | ok, s'⟩ <;>
    · rw [hRun] at hPost
      exact hPost

end LoRaRadio

------------------------------------------------------------
-- Lines That Stay at Rest
------------------------------------------------------------

namespace LoRaRadio

open Faulting

namespace LinuxSx1280RadioConfig

variable (hw : LinuxSx1280RadioConfig)

/-
  A line that rests: at its resting level once the radio is
  `up`, and never asserted if it is to be asserted around
  transmissions only.
-/
def Steady
    (up : Bool)
    (level : Option GpiodLineValue) : Prop :=
  (up = true → hw.AtRest level) ∧
    (hw.TxOnly → hw.NotAsserted level)

theorem steady_rest
    (up : Bool) :
    hw.Steady up (some hw.restLevel) :=
  ⟨fun _ _ => rfl, fun hTxOnly => hTxOnly.notAsserted_rest⟩

/- A line at rest is steady. -/
theorem AtRest.steady
    {hw : LinuxSx1280RadioConfig}
    {level : Option GpiodLineValue}
    (hRest : hw.AtRest level)
    (up : Bool) :
    hw.Steady up level := by
  refine ⟨fun _ => hRest, fun hTxOnly => ?_⟩
  rw [hRest hTxOnly.1]
  exact hTxOnly.notAsserted_rest

end LinuxSx1280RadioConfig

/-
  The sides whose line stays at rest: the RX side, and the
  TX side unless its line is asserted around transmissions.
-/
def NodeConfig.LineRests
    (config : NodeConfig)
    (side : Side) : Prop :=
  side = .tx → ¬ (config.hw side).TxOnly

/-
  The radios were made from the configuration, and the lines
  that rest are at rest.
-/
structure Wired
    (s : NodeState) : Prop where
  lifecycle : Lifecycle s
  isOf :
    ∀ side radio, s.radio side = some radio →
      radio.IsOf (s.node.config.hw side)
  steady :
    ∀ side, s.node.config.LineRests side →
      (s.node.config.hw side).Steady s.node.started
        (s.device side).txEnable

variable {s : NodeState}

theorem config_act
    (s : NodeState)
    (action : NodeAction) :
    (s.act action).node.config = s.node.config := by
  have hOwned : ∀ {α : Type} side (m : RadioM α),
      Keeps (Same fun s : NodeState => s.node.config)
        (onOwned side m) := by
    intro α side m s
    unfold onOwned
    rw [exec_mk]
    cases hRadio : s.radio side with
    | none => rfl
    | some radio => cases side <;> rfl
  cases action with
  | start =>
      have hKept := keepsCallbacks_start s
      exact congrArg (fun c => c.2.2) hKept
  | stop =>
      change s.released.node.config = _
      rw [NodeState.node_released]
  | send payload =>
      exact keeps_send (fun _ => hOwned .tx _) payload s
  | poll =>
      refine keeps_poll (fun side _ _ => hOwned side _) ?_ s
      intro packet s
      unfold NodeState.deliver
      cases s.node.rxCallback <;> rfl
  | setRxCallback owner => rfl

/- Sending and polling leave a node started or stopped. -/
theorem Lifecycle.started_act
    {action : NodeAction}
    (hLifecycle : Lifecycle s)
    (hStart : action ≠ .start)
    (hStop : action ≠ .stop) :
    (s.act action).node.started = s.node.started := by
  cases action with
  | start => exact absurd rfl hStart
  | stop => exact absurd rfl hStop
  | send payload =>
      exact (keepsQuietly_send payload s hLifecycle).2.2.2
  | poll =>
      have hPolled := polled_poll hLifecycle
      change (exec poll s).2.node.started = _
      rcases hRun : exec poll s with ⟨e | a, s'⟩
      · exact (hPolled.of_error hRun).started
      · exact (hPolled.of_ok hRun).started
  | setRxCallback owner => rfl

end LoRaRadio

------------------------------------------------------------
-- Every Call Keeps the Wiring
------------------------------------------------------------

namespace LoRaRadio

open Faulting

variable {s : NodeState}

/- What one side of a wired node is known to be. -/
theorem Wired.sideIs
    (hWired : Wired s)
    (side : Side) :
    SideIs (s.node.config.hw side) side
      (fun level => s.node.config.LineRests side →
        (s.node.config.hw side).Steady s.node.started level)
      s :=
  ⟨hWired.isOf side, hWired.steady side⟩

/- The wiring is known side by side. -/
theorem wired_of_sideIs
    {s' : NodeState}
    (hLifecycle : Lifecycle s')
    (hConfig : s'.node.config = s.node.config)
    (hSide :
      ∀ side,
        SideIs (s.node.config.hw side) side
          (fun level => s.node.config.LineRests side →
            (s.node.config.hw side).Steady s'.node.started
              level) s') :
    Wired s' := by
  refine ⟨hLifecycle, ?_, ?_⟩
  · rw [hConfig]
    exact fun side => (hSide side).1
  · rw [hConfig]
    exact fun side => (hSide side).2

theorem NodeState.Idle.wired
    (hIdle : s.Idle)
    (hFresh : ∀ side, (s.device side).txEnable = none) :
    Wired s := by
  refine ⟨hIdle.lifecycle, ?_, ?_⟩
  · intro side radio hRadio
    cases side
    · cases hIdle.2.1.symm.trans hRadio
    · cases hIdle.2.2.symm.trans hRadio
  · intro side _
    rw [hFresh side, hIdle.1]
    exact ⟨nofun, fun _ => nofun⟩

/- A transmission and a line that rests. -/
theorem keepsLine_sendPayload_steady
    {hw : LinuxSx1280RadioConfig}
    {up : Bool}
    (payload : List UInt8)
    (timeout : TickTime) :
    Keeps
      (Stays (LineIs hw fun level =>
        ¬ hw.TxOnly → hw.Steady up level))
      (sendPayload payload timeout) := by
  by_cases hOther :
      hw.pins.txEnableBehavior = .assertDuringTxOnly
  · -- Without a line of its own the radio has none to rest.
    have hAny : ∀ level,
        ¬ hw.TxOnly → hw.Steady up level := by
      intro level hNot
      have hNone : ¬ hw.pins.hasTxEnable = true :=
        fun hLine => hNot ⟨hLine, hOther⟩
      exact ⟨fun _ hLine => absurd hLine hNone,
        fun hTxOnly => absurd hTxOnly hNot⟩
    have hIssues := issues_sendPayload payload timeout
    refine hIssues.keeps_identity.mono ?_
    intro r r' hSame hIs
    refine ⟨?_, hAny _⟩
    have hConfig : r'.radio.config = r.radio.config :=
      congrArg Prod.fst hSame
    have hLine :
        r'.radio.hasTxEnableLine = r.radio.hasTxEnableLine :=
      congrArg (fun i => i.2.2) hSame
    exact ⟨hConfig.trans hIs.1.1, hLine.trans hIs.1.2⟩
  · exact keepsLine_sendPayload
      (fun _ => hw.steady_rest up) hOther _ _

/- Of a node that is not started little is asked. -/
theorem sideIs_of_stopped
    {s' : NodeState}
    {hw : LinuxSx1280RadioConfig}
    {side : Side}
    {Asked : Prop}
    (hLifecycle : Lifecycle s')
    (hStopped : s'.node.started = false)
    (hLevel :
      Asked → hw.TxOnly →
        hw.NotAsserted (s'.device side).txEnable) :
    SideIs hw side
      (fun level => Asked → hw.Steady s'.node.started level)
      s' := by
  constructor
  · intro radio hRadio
    have hNone := hLifecycle.stopped hStopped
    cases side
    · cases hNone.1.symm.trans hRadio
    · cases hNone.2.symm.trans hRadio
  · rw [hStopped]
    exact fun hAsked => ⟨nofun, hLevel hAsked⟩

/- What a `start` leaves of one side. -/
theorem Wired.sideIs_start
    (hWired : Wired s)
    (side : Side) :
    SideIs (s.node.config.hw side) side
      (fun level => s.node.config.LineRests side →
        (s.node.config.hw side).Steady
          (exec start s).2.node.started level)
      (exec start s).2 := by
  by_cases hStarted : s.node.started = true
  · rw [NodeState.exec_start_of_started hStarted]
    exact hWired.sideIs side
  · have hStopped := Bool.eq_false_iff.mpr hStarted
    rcases start_ok hWired.lifecycle with
      ⟨up, hRun, hLifecycle, hUp⟩
    cases up with
    | false =>
        apply sideIs_of_stopped hLifecycle hUp
        intro hRests hTxOnly
        exact level_start hStopped hTxOnly
          hTxOnly.notAsserted_rest
          ((hWired.steady side hRests).2 hTxOnly)
    | true =>
        rcases start_ok_true hStopped hRun with
          ⟨rx, rx', tx, tx', hCameUp⟩
        have hSide := hCameUp.sideIs side
        exact ⟨hSide.1, fun _ => hSide.2.steady _⟩

theorem wired_act
    (s : NodeState)
    (action : NodeAction)
    (hWired : Wired s) :
    Wired (s.act action) := by
  have hLifecycle := lifecycle_act s action hWired.lifecycle
  apply wired_of_sideIs hLifecycle (config_act s action)
  intro side
  cases action with
  | start => exact hWired.sideIs_start side
  | stop =>
      apply sideIs_of_stopped hLifecycle rfl
      intro hRests
      have hSteady := (hWired.steady side hRests).2
      have hSame :
          (s.act .stop).device side = s.device side :=
        device_released s side
      rwa [hSame]
  | send payload =>
      have hStarted :
          (s.act (.send payload)).node.started =
            s.node.started :=
        hWired.lifecycle.started_act nofun nofun
      rw [hStarted]
      apply keepsSide_send _ payload s (hWired.sideIs side)
      intro hTx payload timeout
      subst hTx
      have hRests :
          s.node.config.LineRests .tx ↔
            ¬ (s.node.config.hw .tx).TxOnly :=
        ⟨fun hRests => hRests rfl, fun hNot _ => hNot⟩
      simp only [hRests]
      exact keepsLine_sendPayload_steady payload timeout
  | poll =>
      have hStarted :
          (s.act .poll).node.started = s.node.started :=
        hWired.lifecycle.started_act nofun nofun
      rw [hStarted]
      apply keepsSide_poll _ s (hWired.sideIs side)
      exact fun _ =>
        LinuxSx1280RadioConfig.steady_rest _ _
  | setRxCallback owner => exact hWired.sideIs side

end LoRaRadio

------------------------------------------------------------
-- Runs
------------------------------------------------------------

namespace LoRaRadio

open Faulting Runs

/-
  A node, and whether `SET_TX` of its most recent `send` was
  issued and no `poll` has taken a `TX_DONE` or a timeout
  since.
-/
structure Tracked where
  node : NodeState
  awaited : Bool

namespace Tracked

/- A node before its first call. -/
def fresh
    (s : NodeState) : Tracked :=
  { node := s, awaited := false }

/- The number of times `SET_TX` was issued to the TX radio. -/
def issued
    (s : NodeState) : Nat :=
  s.txDevice.chip.air.length

def step
    (t : Tracked)
    (action : NodeAction) : Tracked where
  node := t.node.act action
  awaited :=
    match action with
    | .send _ =>
        decide (issued t.node < issued (t.node.act action))
    | .poll => t.awaited && !decide t.node.TakesTxEnd
    | .start | .stop | .setRxCallback _ => t.awaited

/- The level of a side's line is the one it should have. -/
def LineRight
    (t : Tracked)
    (side : Side) : Prop :=
  let hw := t.node.node.config.hw side
  let level := (t.node.device side).txEnable
  hw.pins.hasTxEnable = true →
    match hw.pins.txEnableBehavior with
    | .assertDuringTxOnly =>
        level = some (hw.txLevel true) →
          t.node.node.started = true ∧ t.awaited = true
    | .staticAsserted =>
        (t.node.radio side).isSome = true →
          level = some (hw.txLevel true)
    | .none | .staticDeasserted =>
        (t.node.radio side).isSome = true →
          level = some (hw.txLevel false)

def Right
    (t : Tracked) : Prop :=
  ∀ side, t.LineRight side

/- The line of the TX radio is at its asserted level. -/
def Asserted
    (t : Tracked) : Prop :=
  t.node.txDevice.txEnable =
    some ((t.node.node.config.hw .tx).txLevel true)

/-
  What a call must not meet.  Of the hardware calls of a
  transmission, number 7 and 8 write the line and number 10
  transfers `SET_TX`; of those of a poll, number 5 clears
  the interrupts and number 7 writes the line.
-/
def Safe
    (t : Tracked)
    (action : NodeAction) : Prop :=
  (t.node.node.config.hw .tx).TxOnly →
    match action with
    | .start | .setRxCallback _ => True
    | .stop => ¬ t.Asserted
    | .send payload =>
        if t.node.Transmits payload then
          (t.Asserted → t.node.txDevice.Quiet 7) ∧
            (t.node.txDevice.Quiet 8 →
              t.node.txDevice.Quiet 10)
        else
          ¬ t.Asserted
    | .poll =>
        t.Asserted → t.node.TakesTxEnd →
          t.node.txDevice.Quiet 7 ∧
            ∀ radio, t.node.node.txRadio = some radio →
              radio.operatingMode = .tx

end Tracked

variable {t : Tracked}

/- A line that rests is right. -/
theorem Wired.lineRight
    (hWired : Wired t.node)
    {side : Side}
    (hRests : t.node.node.config.LineRests side) :
    t.LineRight side := by
  have hSteady := hWired.steady side hRests
  intro hLine
  have hUp :
      (t.node.radio side).isSome = true →
        (t.node.device side).txEnable =
          some (t.node.node.config.hw side).restLevel := by
    intro hSome
    refine hSteady.1 ?_ hLine
    by_contra hStopped
    have hNone :=
      hWired.lifecycle.stopped (Bool.eq_false_iff.mpr hStopped)
    cases side
    · rw [show t.node.radio .rx = none from hNone.1] at hSome
      cases hSome
    · rw [show t.node.radio .tx = none from hNone.2] at hSome
      cases hSome
  unfold LinuxSx1280RadioConfig.restLevel at hUp
  cases hBehavior :
      (t.node.node.config.hw side).pins.txEnableBehavior with
  | assertDuringTxOnly =>
      intro hHigh
      exact absurd hHigh (hSteady.2 ⟨hLine, hBehavior⟩)
  | _ =>
      rw [hBehavior] at hUp
      exact hUp

/- Only a line that is asserted around transmissions errs. -/
theorem Wired.right_iff
    (hWired : Wired t.node) :
    t.Right ↔
      ((t.node.node.config.hw .tx).TxOnly → t.Asserted →
        t.node.node.started = true ∧ t.awaited = true) := by
  constructor
  · intro hRight hTxOnly
    have hLine := hRight .tx hTxOnly.1
    rw [hTxOnly.2] at hLine
    exact hLine
  · intro hTracked side
    by_cases hRests : t.node.node.config.LineRests side
    · exact hWired.lineRight hRests
    · unfold NodeConfig.LineRests at hRests
      push Not at hRests
      rcases hRests with ⟨rfl, hTxOnly⟩
      intro _
      rw [hTxOnly.2]
      exact hTracked hTxOnly

/-
  A transmission that leaves the line asserted has issued
  `SET_TX`, unless it could not restore the line first or
  failed between asserting it and the command.
-/
theorem high_send
    {s : NodeState}
    {hw : LinuxSx1280RadioConfig}
    {radio : LinuxSx1280Radio}
    {payload : List UInt8}
    (hTxOnly : hw.TxOnly)
    (hTransmits : s.Transmits payload)
    (hTx : s.node.txRadio = some radio)
    (hOf : radio.IsOf hw)
    (hType : radio.packetType = .lora) :
    ((s.act (.send payload)).txDevice.txEnable =
          some (hw.txLevel true) →
        Tracked.issued s <
          Tracked.issued (s.act (.send payload))) ↔
      (s.txDevice.txEnable = some (hw.txLevel true) →
        s.txDevice.Quiet 7) ∧
      (s.txDevice.Quiet 8 → s.txDevice.Quiet 10) := by
  rcases sent_send hTxOnly hTransmits hTx hOf hType with
    ⟨r, hDevice, hSent⟩
  have hAct : (s.act (.send payload)).txDevice = r.device :=
    hDevice
  have hFewer : ∀ {m n : Nat}, m ≤ n →
      s.txDevice.Quiet n → s.txDevice.Quiet m :=
    fun hLe hQuiet k hLt => hQuiet k (by omega)
  unfold Tracked.issued
  rw [hAct, hSent.line, hSent.air]
  by_cases hIssued : s.txDevice.Quiet 10
  · have hRestored : s.txDevice.Quiet 7 :=
      hFewer (by decide) hIssued
    simp [hIssued, hRestored]
  · by_cases hAsserted : s.txDevice.Quiet 8
    · simp [hIssued, hAsserted]
    · by_cases hRestored : s.txDevice.Quiet 7
      · have hLow := hw.txLevel_false_ne
        simp [hIssued, hAsserted, hRestored, hLow]
      · simp [hIssued, hAsserted, hRestored]

/-
  One call leaves the lines right exactly if it is safe: the
  line of a TX radio that is asserted around transmissions,
  call by call.
-/
theorem right_step
    (hWired : Wired t.node)
    (hRight : t.Right)
    (action : NodeAction) :
    (t.step action).Right ↔ t.Safe action := by
  have hWired' := wired_act t.node action hWired
  have hConfig := config_act t.node action
  have hNow := hWired.right_iff.mp hRight
  rw [Wired.right_iff (t := t.step action) hWired']
  unfold Tracked.Safe
  change
    (((t.node.act action).node.config.hw .tx).TxOnly → _) ↔ _
  unfold Tracked.Asserted at *
  change
    (_ → (t.node.act action).txDevice.txEnable =
      some (((t.node.act action).node.config.hw .tx).txLevel
        true) →
      (t.node.act action).node.started = true ∧ _) ↔ _
  rw [hConfig]
  generalize hHw : t.node.node.config.hw .tx = hw at *
  refine forall_congr' fun hTxOnly => ?_
  replace hNow := hNow hTxOnly
  cases action with
  | start =>
      refine iff_of_true ?_ trivial
      by_cases hStarted : t.node.node.started = true
      · have hSame : t.node.act .start = t.node :=
          congrArg Prod.snd
            (NodeState.exec_start_of_started hStarted)
        rw [hSame]
        exact hNow
      · have hLow : LevelIs .tx hw.NotAsserted
            (t.node.act .start) := by
          subst hHw
          exact level_start (Bool.eq_false_iff.mpr hStarted)
            hTxOnly hTxOnly.notAsserted_rest
            fun hHigh => hStarted (hNow hHigh).1
        exact fun hHigh => absurd hHigh hLow
  | stop =>
      have hSame :
          (t.node.act .stop).txDevice = t.node.txDevice :=
        device_released t.node .tx
      rw [hSame]
      constructor
      · exact fun hAfter hHigh => nomatch (hAfter hHigh).1
      · exact fun hNot hHigh => absurd hHigh hNot
  | send payload =>
      have hStarted :
          (t.node.act (.send payload)).node.started =
            t.node.node.started :=
        hWired.lifecycle.started_act nofun nofun
      dsimp only
      split
      case isTrue hTransmits =>
        rcases hWired.lifecycle.started hTransmits.1.1 with
          ⟨rx, tx, -, -, hTx, hSpeaks⟩
        have hOf := hWired.isOf .tx tx hTx
        rw [hHw] at hOf
        have hHigh :=
          high_send hTxOnly hTransmits hTx hOf hSpeaks.1
        rw [← hHigh, hStarted]
        simp [Tracked.step, hTransmits.1.1]
      case isFalse hNot =>
        have hSame : t.node.act (.send payload) = t.node :=
          congrArg Prod.snd (exec_send_of_not_transmits hNot)
        simp [Tracked.step, hSame]
  | poll =>
      have hStarted :
          (t.node.act .poll).node.started =
            t.node.node.started :=
        hWired.lifecycle.started_act nofun nofun
      rw [hStarted]
      by_cases hHigh :
          t.node.txDevice.txEnable = some (hw.txLevel true)
      case neg =>
        have hIs : SideIs hw .tx hw.NotAsserted t.node := by
          refine ⟨?_, hHigh⟩
          rw [← hHw]
          exact hWired.isOf .tx
        have hLow :=
          (keepsSide_poll hTxOnly.notAsserted_rest t.node
            hIs).2
        exact iff_of_true (fun hAfter => absurd hAfter hLow)
          fun hBefore => absurd hBefore hHigh
      rcases hNow hHigh with ⟨hUp, hAwaited⟩
      rcases hWired.lifecycle.started hUp with
        ⟨rx, tx, -, -, hTx, hSpeaks⟩
      have hOf := hWired.isOf .tx tx hTx
      rw [hHw] at hOf
      by_cases hTakes : t.node.TakesTxEnd
      · have hAfter :=
          level_poll hTxOnly hTx hOf hSpeaks hTakes hHigh
        change (t.node.act .poll).txDevice.txEnable = _ ↔ _
          at hAfter
        have hTaken : (t.step .poll).awaited = false := by
          simp [Tracked.step, hTakes]
        rw [hTaken, hAfter]
        constructor
        · intro hRestores _ _
          by_contra hNot
          refine absurd (hRestores fun hBoth => hNot ?_).2
            (by decide)
          refine ⟨hBoth.2, fun radio hRadio => ?_⟩
          cases hTx.symm.trans hRadio
          exact hBoth.1
        · intro hSafe hNot
          rcases hSafe hHigh hTakes with ⟨hQuiet, hMode⟩
          exact absurd ⟨hMode tx hTx, hQuiet⟩ hNot
      · simp [Tracked.step, hUp, hAwaited, hTakes]
  | setRxCallback owner => exact iff_of_true hNow trivial

/-
  In every run, the lines are right after every call exactly
  when every call is safe.
-/
theorem right_iff_safe
    {s : NodeState}
    (hIdle : s.Idle)
    (hFresh : ∀ side, (s.device side).txEnable = none)
    (actions : List NodeAction) :
    Along Tracked.step (fun t action => (t.step action).Right)
        (Tracked.fresh s) actions ↔
      Along Tracked.step Tracked.Safe (Tracked.fresh s)
        actions := by
  have hWired := hIdle.wired hFresh
  have hStart : (Tracked.fresh s).Right := by
    apply (Wired.right_iff hWired).mpr
    intro _ hHigh
    have hNone : s.txDevice.txEnable = none := hFresh .tx
    unfold Tracked.Asserted Tracked.fresh at hHigh
    rw [hNone] at hHigh
    cases hHigh
  apply along_iff
    (I := fun t : Tracked => Wired t.node ∧ t.Right)
  · intro t action hBoth hRight
    exact ⟨wired_act t.node action hBoth.1, hRight⟩
  · intro t action hBoth
    exact right_step hBoth.1 hBoth.2 action
  · exact ⟨hWired, hStart⟩

/- A TX radio with a line for its power amplifier. -/
def amplifiedPins : LinuxSx1280PinConfig where
  resetLine := 7
  busyLine := 8
  hasTxEnable := true
  txEnableLine := 9
  txEnableBehavior := .assertDuringTxOnly

/-
  Its call number 67, the first of the first poll, meets the
  end of the transmission of the first `send`.
-/
def amplifiedNode
    (fails : Nat → Bool) : NodeState where
  node :=
    { config :=
        { rx := { hw := { pins :=
            { resetLine := 5, busyLine := 6 } } }
          tx := { hw := { pins := amplifiedPins } } } }
  txDevice :=
    { hal := fun k =>
        { chip := if k = 67 then [.txDone] else []
          throws := fails k } }

/- A transmission whose end is polled before the stop. -/
theorem right_iff_safe_polled :
    Along Tracked.step
      (fun t action => (t.step action).Right)
      (Tracked.fresh (amplifiedNode fun _ => false))
      [.start, .send [1], .poll, .stop] := by
  have hFresh : ∀ side,
      ((amplifiedNode fun _ => false).device side).txEnable =
        none := by
    intro side
    cases side <;> rfl
  apply (right_iff_safe ⟨rfl, rfl, rfl⟩ hFresh _).mpr
  refine ⟨fun _ => trivial, fun _ => ?_, fun _ => ?_,
    fun _ => ?_, trivial⟩
  · change ite _ _ _
    rw [if_pos (by decide +kernel)]
    exact ⟨fun _ => by decide +kernel,
      fun _ => by decide +kernel⟩
  · intro _ _
    refine ⟨by decide +kernel, fun radio hRadio => ?_⟩
    have hMode := congrArg
      (Option.map LinuxSx1280Radio.operatingMode) hRadio
    have hTx : some RadioOperatingModes.tx =
        some radio.operatingMode :=
      Eq.trans (by decide +kernel) hMode
    exact (Option.some.inj hTx).symm
  · unfold Tracked.Asserted
    decide +kernel

/-
  The transfer of `SET_TX`, call number 65, throws after the
  line has been asserted: nothing is transmitted, and the
  line stays as it is.
-/
theorem commandFails_asserted :
    ¬ Along Tracked.step
      (fun t action => (t.step action).Right)
      (Tracked.fresh (amplifiedNode (· == 65)))
      [.start, .send [1]] := by
  intro hAlong
  have hLine := hAlong.2.1 .tx rfl
  exact absurd (hLine (by decide +kernel)).2
    (by decide +kernel)

end LoRaRadio
