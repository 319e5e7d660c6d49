import LoRaRadio.Fprime.FrameAccumulator

/-
  The frame accumulator on a pool of buffers.

  Frames go in buffers out of a pool that others use as well.
  A consumer gives every frame back when it is done, perhaps
  as a smaller part of the buffer, and may keep other buffers
  of the pool.  Then the accumulator neither keeps a buffer
  nor gives one back twice, whatever arrives and whatever the
  detector finds.

  Main declarations:
    * `Pooled`, `onPool` and `Accounted`
    * `GivesBack`
    * `FrameAccumulator.accounted_dataIn`
-/

------------------------------------------------------------
-- A Pool and a Consumer
------------------------------------------------------------

namespace LoRaRadio

open Faulting BufferManager

/-
  A pool, what the consumer of the frames works on, and the
  buffers at which `bufferSendIn` failed an assertion.
-/
structure Pooled (σ : Type) where
  pool : BufferManager
  consumer : σ
  rejected : List FwBuffer := []

namespace Pooled

variable {σ : Type}

def poolPart : Lens (Pooled σ) BufferManager where
  get p := p.pool
  set m p := { p with pool := m }
  get_set _ _ := rfl

def getCallee
    (size : Nat) : Faulting Fault (Pooled σ) FwBuffer :=
  zoom poolPart (bufferGetCallee size)

/- `bufferSendIn`, with a note of what it is given in vain. -/
def sendIn
    (buffer : FwBuffer) : Faulting Fault (Pooled σ) Unit :=
  onThrow (zoom poolPart (bufferSendIn buffer))
    (modify fun p =>
      { p with rejected := p.rejected ++ [buffer] })

end Pooled

/-
  A consumer of frames: from a buffer with its bytes and its
  context, the address and the size of what it gives back.
-/
abbrev FrameConsumer (σ : Type) :=
  FwBuffer → List UInt8 → FrameContext →
    Faulting Fault (Pooled σ) (Nat × Nat)

/-
  `bufferAllocate` and `bufferDeallocate` wired to a pool,
  and `dataOut` to a consumer.
-/
def onPool
    {σ : Type}
    (consume : FrameConsumer σ) : FramePorts (Pooled σ) where
  bufferAllocate := Pooled.getCallee
  bufferDeallocate := Pooled.sendIn
  dataOut buffer bytes context := do
    let part ← consume buffer bytes context
    let narrowed :=
      { buffer with data := part.1, size := part.2 }
    return [(narrowed, context)]

/-
  Every slot that is taken is with a user in `held`, or with
  the consumer, and nothing was given back in vain.
-/
structure Accounted
    {σ : Type}
    (keeps : σ → List FwBuffer)
    (held : List FwBuffer)
    (p : Pooled σ) : Prop where
  balanced :
    Lending.Balanced
      { manager := p.pool, held := held ++ keeps p.consumer }
  rejected : p.rejected = []

/-
  A consumer gives back a part of the buffer it is handed,
  and puts the other buffers it takes where they are known.
-/
def GivesBack
    {σ : Type}
    (keeps : σ → List FwBuffer)
    (consume : FrameConsumer σ) : Prop :=
  ∀ buffer bytes context held p,
    Accounted keeps (buffer :: held) p →
    Post (consume buffer bytes context)
      (fun part p' =>
        buffer.Narrows part.1 part.2 ∧
          Accounted keeps (buffer :: held) p')
      (fun _ p' => p'.rejected = []) p

namespace Accounted

variable {σ : Type}
variable {keeps : σ → List FwBuffer}
variable {held : List FwBuffer}
variable {p : Pooled σ}

/- A request is answered if there is a slot, or else refused. -/
theorem post_getCallee
    (hAccounted : Accounted keeps held p)
    (size : Nat) :
    Post (Pooled.getCallee size)
      (fun b p' =>
        (b = {} ∧ p.pool.findSlot size = none ∧
          Accounted keeps held p') ∨
        (b.data ≠ 0 ∧ b.size = size ∧
          p.pool.findSlot size ≠ none ∧
          Accounted keeps (b :: held) p'))
      (fun _ _ => False) p := by
  have hAnswer := hAccounted.balanced.post_get size
  unfold Pooled.getCallee
  rw [post_zoom]
  change Post (bufferGetCallee size) _ _ p.pool
  by_cases hFind : p.pool.findSlot size = none
  · unfold Post at *
    rw [exec_bufferGetCallee_none hFind] at hAnswer ⊢
    rcases hAnswer with ⟨hNone, -, hSame⟩ | ⟨hData, -⟩
    · exact .inl ⟨hNone, hFind, hSame, hAccounted.rejected⟩
    · exact absurd rfl hData
  · apply hAnswer.mono
    · rintro b m (⟨-, hNone, -⟩ | ⟨hData, hSize, hMore⟩)
      · exact absurd hNone hFind
      · exact .inr
          ⟨hData, hSize, hFind, hMore, hAccounted.rejected⟩
    · exact fun _ _ hNever => hNever

theorem post_sendIn
    {b : FwBuffer}
    (hAccounted : Accounted keeps (b :: held) p) :
    Post (Pooled.sendIn b)
      (fun _ p' => Accounted keeps held p')
      (fun _ _ => False) p := by
  unfold Pooled.sendIn
  rw [post_onThrow, post_zoom]
  apply (Lending.Balanced.post_send hAccounted.balanced).mono
  · exact fun _ m hLess => ⟨hLess, hAccounted.rejected⟩
  · exact fun _ _ hNever => hNever.elim

theorem narrow
    {b : FwBuffer}
    (hAccounted : Accounted keeps (b :: held) p)
    {data size : Nat}
    (hNarrows : b.Narrows data size) :
    Accounted keeps
      ({ b with data := data, size := size } :: held) p :=
  ⟨hAccounted.balanced.narrow hNarrows, hAccounted.rejected⟩

end Accounted

end LoRaRadio

------------------------------------------------------------
-- One Buffer
------------------------------------------------------------

namespace LoRaRadio

open Faulting

namespace FrameAccumulator

variable {n : Nat}
variable {σ : Type}
variable {detect : FrameDetector n}
variable {keeps : σ → List FwBuffer}
variable {consume : FrameConsumer σ}
variable {held : List FwBuffer}
variable {s : AccumulatorState n (Pooled σ)}

/- A frame is given back, and nothing else changes hands. -/
theorem accounted_dataOut
    (hGives : GivesBack keeps consume)
    {buffer : FwBuffer}
    (hAccounted : Accounted keeps (buffer :: held) s.down)
    (bytes : List UInt8)
    (context : FrameContext) :
    Post (dataOut (onPool consume) buffer bytes context)
      (fun _ s' => Accounted keeps held s'.down)
      (fun _ s' => s'.down.rejected = []) s := by
  unfold dataOut onPool
  dsimp only
  rw [post_bind, post_modify, post_bind, post_zoom, post_bind]
  apply (hGives buffer bytes context held _ hAccounted).mono
  case hE => exact fun _ _ hRejected => hRejected
  rintro part p ⟨hNarrows, hStill⟩
  rw [post_pure]
  change
    Post
      (dataReturnIn (onPool consume)
          { buffer with data := part.1, size := part.2 }
          context >>= fun _ => pure ()) _ _ _
  unfold dataReturnIn bufferDeallocateOut
  rw [post_bind, post_bind, post_modify, post_zoom]
  apply (hStill.narrow hNarrows).post_sendIn.mono
  · exact fun _ p' hLess => hLess
  · exact fun _ _ hNever => hNever.elim

variable [NeZero n]

/- Work on the ring leaves the pool alone. -/
theorem post_rotateRing_down
    (amount remaining : Nat) :
    Post (rotateRing amount remaining)
      (fun _ s' => s'.down = s.down)
      (fun _ s' => s'.down = s.down) s := by
  unfold rotateRing
  rw [post_bind, post_modify, post_bind, post_get]
  apply post_fwAssert_of
  · exact fun _ => rfl
  · exact fun _ => rfl

theorem post_takeFrame_down
    (size remaining : Nat) :
    Post (takeFrame size remaining)
      (fun _ s' => s'.down = s.down)
      (fun _ s' => s'.down = s.down) s := by
  unfold takeFrame
  rw [post_bind, post_get, post_bind]
  apply post_fwAssert_of
  case hFails => exact fun _ => rfl
  intro _
  rw [post_bind, post_get, post_bind]
  apply post_fwAssert_of
  case hFails => exact fun _ => rfl
  intro _
  rw [post_bind]
  apply (post_rotateRing_down size remaining).mono
  · exact fun _ _ hDown => hDown
  · exact fun _ _ hDown => hDown

/-
  Looking for frames takes a buffer for each and gives it
  back, by induction on the rounds of the loop.
-/
theorem accounted_processRing
    (hGives : GivesBack keeps consume)
    (rounds : Nat)
    (hAccounted : Accounted keeps held s.down) :
    Post (processRing detect (onPool consume) rounds)
      (fun _ s' => Accounted keeps held s'.down)
      (fun _ s' => s'.down.rejected = []) s := by
  induction rounds generalizing s with
  | zero => exact hAccounted
  | succ rounds ih =>
      have hDropped :
          ∀ (remaining : Nat)
            (s₁ : AccumulatorState n (Pooled σ)),
            s₁.down = s.down →
            Post
              (do
                rotateRing 1 remaining
                processRing detect (onPool consume) rounds)
              (fun _ s' => Accounted keeps held s'.down)
              (fun _ s' => s'.down.rejected = []) s₁ := by
        intro remaining s₁ hDown
        rw [post_bind]
        apply (post_rotateRing_down 1 remaining).mono
        · intro _ s₂ hSame
          apply ih
          rw [hSame, hDown]
          exact hAccounted
        · intro _ s₂ hSame
          rw [hSame, hDown]
          exact hAccounted.rejected
      unfold processRing
      rw [post_bind, post_get]
      dsimp only
      split
      case isTrue hEmpty => exact hAccounted
      case isFalse hSome =>
      rw [post_bind]
      apply post_detectFrame
      case hThrows => exact fun _ _ => hAccounted.rejected
      intro found _
      split
      case isTrue hLarge =>
        rw [post_bind, post_modify]
        exact hDropped _ _ rfl
      case isFalse hFits =>
      cases hStatus : found.1 with
      | noFrameDetected => exact hDropped _ _ rfl
      | moreDataNeeded =>
          dsimp only
          apply post_fwAssert_of
          · exact fun _ => hAccounted
          · exact fun _ => hAccounted.rejected
      | frameDetected =>
          dsimp only
          rw [post_bind]
          apply post_fwAssert_of
          case hFails => exact fun _ => hAccounted.rejected
          intro hSize
          rw [post_bind]
          apply post_fwAssert_of
          case hFails => exact fun _ => hAccounted.rejected
          intro _
          unfold bufferAllocateOut
          rw [post_bind, post_bind, post_zoom]
          apply (hAccounted.post_getCallee found.2).mono
          case hE => exact fun _ _ hNever => hNever.elim
          intro buffer p hEither
          rw [post_bind, post_modify, post_pure]
          rcases hEither with
            ⟨rfl, -, hSame⟩ | ⟨hData, hLength, -, hMore⟩
          · exact hSame
          · have hValid : buffer.isValid = true := by
              unfold FwBuffer.isValid
              rw [Bool.and_eq_true, bne_iff_ne,
                decide_eq_true_eq]
              exact ⟨hData, by omega⟩
            have hWhole : buffer.setSize found.2 = buffer := by
              rw [← hLength]
              rfl
            rw [if_pos hValid, post_bind, hWhole]
            apply (post_takeFrame_down found.2 _).mono
            · intro bytes s₂ hDown
              rw [post_bind]
              apply (accounted_dataOut hGives _ bytes {}).mono
              · exact fun _ s₃ hLess => ih hLess
              · exact fun _ _ hRejected => hRejected
              · rw [hDown]
                exact hMore
            · intro _ s₂ hDown
              rw [hDown]
              exact hMore.rejected

theorem accounted_processBuffer
    (hGives : GivesBack keeps consume)
    (rounds : Nat)
    (rest : List UInt8)
    (hAccounted : Accounted keeps held s.down) :
    Post (processBuffer detect (onPool consume) rounds rest)
      (fun _ s' => Accounted keeps held s'.down)
      (fun _ s' => s'.down.rejected = []) s := by
  induction rounds generalizing s rest with
  | zero => exact hAccounted
  | succ rounds ih =>
      unfold processBuffer
      rw [post_bind, post_get]
      dsimp only
      split
      case isTrue hDone => exact hAccounted
      case isFalse hMore =>
      rw [post_bind, post_get, post_bind]
      apply post_fwAssert_of
      case hFails => exact fun _ => hAccounted.rejected
      intro _
      rw [post_bind, post_modify, post_bind]
      apply (accounted_processRing hGives n _).mono
      · exact fun _ s₁ hStill => ih _ hStill
      · exact fun _ _ hRejected => hRejected
      · exact hAccounted

/- A buffer that arrives, whatever its bytes are. -/
theorem accounted_dataIn
    (hGives : GivesBack keeps consume)
    (buffer : FwBuffer)
    (bytes : List UInt8)
    (context : FrameContext)
    (hAccounted : Accounted keeps held s.down) :
    Post (dataIn detect (onPool consume) buffer bytes context)
      (fun _ s' => Accounted keeps held s'.down)
      (fun _ s' => s'.down.rejected = []) s := by
  unfold dataIn
  split
  case isFalse hInvalid =>
    rw [post_modify]
    exact hAccounted
  case isTrue hValid =>
  rw [post_bind]
  apply (accounted_processBuffer hGives _ bytes hAccounted).mono
  case hE => exact fun _ _ hRejected => hRejected
  intro rest s₁ hStill
  rw [post_bind, post_get, post_bind]
  apply post_fwAssert_of
  · exact fun _ => hStill
  · exact fun _ => hStill.rejected

end FrameAccumulator

end LoRaRadio
