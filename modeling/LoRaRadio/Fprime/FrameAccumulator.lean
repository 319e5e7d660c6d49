import LoRaRadio.Fprime.BufferManager
import LoRaRadio.Fprime.CircularBuffer
import LoRaRadio.Library.Faulting
import LoRaRadio.Library.Runs
import LoRaRadio.Library.Scanning

/-
  `Svc::FrameAccumulator`: frames cut out of the bytes that
  arrive.

  The bytes of the buffers handed in wait in a ring.  A
  detector looks at what waits; a frame it finds goes, in a
  buffer of its own, to what is wired to `dataOut`.

  The ring and the detector implement a scan of the stream
  of bytes, so what is found does not depend on the buffers
  the stream arrived in.

  Main declarations:
    * `AccumulatorState` and `FrameDetector`
    * `FrameAccumulator.dataIn`
    * `Detects`
    * `post_processRing` and `post_dataIn`
    * `post_run` and `frames_of_accepted`
-/

------------------------------------------------------------
-- Surroundings
------------------------------------------------------------

namespace LoRaRadio

/- `FrameDetector::Status` -/
inductive DetectStatus
  | frameDetected
  | noFrameDetected
  | moreDataNeeded
deriving DecidableEq, Repr

/-
  `FrameDetector::detect`: a status and `size_out`, which is
  zero unless the detector sets it.
-/
abbrev FrameDetector (n : Nat) :=
  CircularBuffer n → Except Fault (DetectStatus × Nat)

/-
  What is wired to `bufferAllocate`, `bufferDeallocate` and
  `dataOut`.  The buffers `dataOut` gives back are those its
  consumer returns on `dataReturnIn` before it returns.
-/
structure FramePorts (π : Type) where
  bufferAllocate : Nat → Faulting Fault π FwBuffer
  bufferDeallocate : FwBuffer → Faulting Fault π Unit
  dataOut :
    FwBuffer → List UInt8 → FrameContext →
      Faulting Fault π (List (FwBuffer × FrameContext))

/- A call of an output port, or a warning. -/
inductive AccumulatorCall
  | bufferAllocate (size : Nat) (answer : FwBuffer)
  | bufferDeallocate (buffer : FwBuffer)
  | dataOut
      (buffer : FwBuffer)
      (bytes : List UInt8)
      (context : FrameContext)
  | dataReturnOut (buffer : FwBuffer) (context : FrameContext)
  | frameDetectionSizeError (size : Nat)
  | noBufferAvailable
deriving DecidableEq, Repr

/-
  The accumulator's ring, what it is wired to, and the calls
  it has made.
-/
structure AccumulatorState (n : Nat) (π : Type) where
  inRing : CircularBuffer n
  down : π
  calls : List AccumulatorCall := []

abbrev AccumulatorM (n : Nat) (π : Type) :=
  Faulting Fault (AccumulatorState n π)

namespace AccumulatorState

variable {n : Nat}
variable {π : Type}

def record
    (c : AccumulatorCall)
    (s : AccumulatorState n π) : AccumulatorState n π :=
  { s with calls := s.calls ++ [c] }

def downPart : Lens (AccumulatorState n π) π where
  get s := s.down
  set d s := { s with down := d }
  get_set _ _ := rfl

end AccumulatorState

end LoRaRadio

------------------------------------------------------------
-- The Component
------------------------------------------------------------

namespace LoRaRadio

open Faulting

namespace FrameAccumulator

variable {n : Nat} [NeZero n]
variable {π : Type}

def bufferDeallocateOut
    (ports : FramePorts π)
    (buffer : FwBuffer) : AccumulatorM n π Unit := do
  modify (AccumulatorState.record (.bufferDeallocate buffer))
  zoom AccumulatorState.downPart
    (ports.bufferDeallocate buffer)

/- `dataReturnIn_handler` -/
def dataReturnIn
    (ports : FramePorts π)
    (buffer : FwBuffer)
    (_ : FrameContext) : AccumulatorM n π Unit :=
  bufferDeallocateOut ports buffer

def bufferAllocateOut
    (ports : FramePorts π)
    (size : Nat) : AccumulatorM n π FwBuffer := do
  let buffer ←
    zoom AccumulatorState.downPart (ports.bufferAllocate size)
  modify
    (AccumulatorState.record (.bufferAllocate size buffer))
  return buffer

/- Send a frame on; its consumer may give it back at once. -/
def dataOut
    (ports : FramePorts π)
    (buffer : FwBuffer)
    (bytes : List UInt8)
    (context : FrameContext) : AccumulatorM n π Unit := do
  modify
    (AccumulatorState.record (.dataOut buffer bytes context))
  let returned ←
    zoom AccumulatorState.downPart
      (ports.dataOut buffer bytes context)
  returned.forM fun r => dataReturnIn ports r.1 r.2

/- `m_detector->detect`, which cannot change the ring. -/
def detectFrame
    (detect : FrameDetector n) :
    AccumulatorM n π (DetectStatus × Nat) :=
  Faulting.mk fun s => (detect s.inRing, s)

/- `rotate`, and the assertion that follows it. -/
def rotateRing
    (amount remaining : Nat) : AccumulatorM n π Unit := do
  modify fun s =>
    { s with inRing := (s.inRing.rotate amount).2 }
  fwAssert
    ((← get).inRing.allocatedSize = remaining - amount)
    "m_inRing.get_allocated_size()"

/- Copy a detected frame into its buffer, and drop it. -/
def takeFrame
    (size remaining : Nat) :
    AccumulatorM n π (List UInt8) := do
  let copy := (← get).inRing.peek size 0
  fwAssert (copy.1 = .ok) "serialize_status"
  fwAssert (((← get).inRing.rotate size).1 = .ok)
    "serialize_status"
  rotateRing size remaining
  return copy.2

/- The loop of `processRing`, with `rounds` rounds to go. -/
def processRing
    (detect : FrameDetector n)
    (ports : FramePorts π) : Nat → AccumulatorM n π Unit
| 0 => return
| rounds + 1 => do
    let remaining := (← get).inRing.allocatedSize
    if remaining = 0 then
      return
    let found ← detectFrame detect
    if found.2 > n then
      modify
        (AccumulatorState.record
          (.frameDetectionSizeError found.2))
      rotateRing 1 remaining
      processRing detect ports rounds
    else
      match found.1 with
      | .frameDetected =>
          fwAssert (found.2 ≠ 0) "size_out != 0"
          fwAssert (found.2 ≤ remaining)
            "size_out <= remaining"
          let buffer ← bufferAllocateOut ports found.2
          if buffer.isValid then
            let bytes ← takeFrame found.2 remaining
            dataOut ports (buffer.setSize found.2) bytes {}
            processRing detect ports rounds
          else
            modify
              (AccumulatorState.record .noBufferAvailable)
      | .moreDataNeeded =>
          fwAssert (found.2 > remaining)
            "size_out > remaining"
      | .noFrameDetected =>
          rotateRing 1 remaining
          processRing detect ports rounds

/-
  The loop of `processBuffer`, with `rounds` rounds to go.
  The bytes that no longer fit in the ring are left over.
-/
def processBuffer
    (detect : FrameDetector n)
    (ports : FramePorts π) :
    Nat → List UInt8 → AccumulatorM n π (List UInt8)
| 0, rest => return rest
| rounds + 1, rest => do
    let free := (← get).inRing.getFreeSize
    if rest.length = 0 ∨ free = 0 then
      return rest
    let serSize := if free ≤ rest.length then free
      else rest.length
    let status :=
      (← get).inRing.serialize (rest.take serSize)
    fwAssert (status.1 = .ok) "status == FW_SERIALIZE_OK"
    modify fun s => { s with inRing := status.2 }
    processRing detect ports n
    processBuffer detect ports rounds (rest.drop serSize)

/-
  `dataIn_handler`, for a buffer that points to `bytes`
-/
def dataIn
    (detect : FrameDetector n)
    (ports : FramePorts π)
    (buffer : FwBuffer)
    (bytes : List UInt8)
    (context : FrameContext) : AccumulatorM n π Unit := do
  if buffer.isValid then
    let rest ← processBuffer detect ports bytes.length bytes
    fwAssert
      (rest.length = 0 ∨ (← get).inRing.getFreeSize = 0)
      "remaining == 0"
  modify
    (AccumulatorState.record (.dataReturnOut buffer context))

end FrameAccumulator

end LoRaRadio

------------------------------------------------------------
-- What a Call Records
------------------------------------------------------------

namespace LoRaRadio

open Faulting Scanning

/- The frames that have been sent on. -/
def framesSent
    (calls : List AccumulatorCall) : List (List UInt8) :=
  calls.filterMap fun
    | .dataOut _ bytes _ => some bytes
    | _ => none

theorem framesSent_append
    (first second : List AccumulatorCall) :
    framesSent (first ++ second) =
      framesSent first ++ framesSent second :=
  List.filterMap_append

/- An allocation was answered with no buffer. -/
def Refused
    (calls : List AccumulatorCall) : Prop :=
  ∃ size answer,
    .bufferAllocate size answer ∈ calls ∧
      answer.isValid = false

/- The call is an allocation that was answered so. -/
def AccumulatorCall.refused : AccumulatorCall → Bool
| .bufferAllocate _ answer => !answer.isValid
| _ => false

theorem any_refused_iff
    {calls : List AccumulatorCall} :
    calls.any AccumulatorCall.refused = true ↔
      Refused calls := by
  rw [List.any_eq_true]
  constructor
  · rintro ⟨c, hMem, hRefused⟩
    cases c with
    | bufferAllocate size answer =>
        exact ⟨size, answer, hMem,
          (Bool.not_eq_true' _).mp hRefused⟩
    | _ => cases hRefused
  · rintro ⟨size, answer, hMem, hInvalid⟩
    exact ⟨_, hMem, (Bool.not_eq_true' _).mpr hInvalid⟩

instance
    (calls : List AccumulatorCall) :
    Decidable (Refused calls) :=
  decidable_of_iff _ any_refused_iff

theorem refused_append
    {first second : List AccumulatorCall} :
    Refused (first ++ second) ↔
      Refused first ∨ Refused second := by
  unfold Refused
  simp only [List.mem_append, or_and_right, exists_or]

namespace FrameAccumulator

variable {n : Nat}
variable {π : Type}

/- Calls are only added to those made before. -/
def CallsGrow
    (s s' : AccumulatorState n π) : Prop :=
  s.calls <+: s'.calls

instance : Std.Refl (@CallsGrow n π) where
  refl _ := List.prefix_rfl

instance : IsTrans (AccumulatorState n π) CallsGrow where
  trans _ _ _ := List.IsPrefix.trans

theorem CallsGrow.served
    {s s' : AccumulatorState n π}
    (hGrow : CallsGrow s s')
    (hServed : ¬ Refused s'.calls) :
    ¬ Refused s.calls := by
  rcases hGrow with ⟨cs, hCalls⟩
  rw [← hCalls, refused_append, not_or] at hServed
  exact hServed.1

/- A fault of what is wired to the output ports. -/
def PortsFault
    (ports : FramePorts π)
    (e : Fault) : Prop :=
  (∃ size p p',
    exec (ports.bufferAllocate size) p = (.error e, p')) ∨
  (∃ buffer p p',
    exec (ports.bufferDeallocate buffer) p =
      (.error e, p')) ∨
  ∃ buffer bytes context p p',
    exec (ports.dataOut buffer bytes context) p =
      (.error e, p')

/-
  The ring is left alone, and no frame is sent on and no
  allocation refused.
-/
structure Silent
    (s s' : AccumulatorState n π) : Prop where
  inRing : s'.inRing = s.inRing
  calls :
    ∃ cs, s'.calls = s.calls ++ cs ∧ framesSent cs = [] ∧
      ¬ Refused cs

variable {detect : FrameDetector n}
variable {ports : FramePorts π}
variable {s s' s'' : AccumulatorState n π}

theorem silent_refl
    (s : AccumulatorState n π) :
    Silent s s := by
  refine ⟨rfl, [], (List.append_nil _).symm, rfl, ?_⟩
  rintro ⟨_, _, hMem, -⟩
  cases hMem

theorem Silent.trans
    (hFirst : Silent s s')
    (hSecond : Silent s' s'') :
    Silent s s'' := by
  rcases hFirst.calls with ⟨cs, hCalls, hNone, hNot⟩
  rcases hSecond.calls with ⟨ds, hCalls', hNone', hNot'⟩
  refine ⟨hSecond.inRing.trans hFirst.inRing, cs ++ ds, ?_,
    ?_, ?_⟩
  · rw [hCalls', hCalls, List.append_assoc]
  · rw [framesSent_append, hNone, hNone']
    rfl
  · rw [refused_append]
    exact fun hEither => hEither.elim hNot hNot'

/- A call downstream does not touch the ring. -/
theorem post_down
    {α : Type}
    {m : Faulting Fault π α}
    {Q : α → AccumulatorState n π → Prop}
    {E : Fault → AccumulatorState n π → Prop}
    (hReturns : ∀ a d, Q a { s with down := d })
    (hThrows :
      ∀ e p p', exec m p = (.error e, p') →
        E e { s with down := p' }) :
    Post (zoom AccumulatorState.downPart m) Q E s := by
  unfold Post
  rw [exec_zoom]
  rcases hRun : exec m (AccumulatorState.downPart.get s) with
    ⟨e | a, p⟩
  · exact hThrows e _ p hRun
  · exact hReturns a p

theorem post_dataReturnIn
    (buffer : FwBuffer)
    (context : FrameContext) :
    Post (dataReturnIn ports buffer context)
      (fun _ s' => Silent s s')
      (fun e _ => PortsFault ports e) s := by
  unfold dataReturnIn bufferDeallocateOut
  rw [post_bind, post_modify]
  apply post_down
  · intro _ d
    refine ⟨rfl, [.bufferDeallocate buffer], rfl, rfl, ?_⟩
    rintro ⟨_, _, hMem, -⟩
    cases List.mem_singleton.mp hMem
  · exact fun e p p' hRun => .inr (.inl ⟨buffer, p, p', hRun⟩)

theorem post_returned
    (returned : List (FwBuffer × FrameContext)) :
    Post
      (returned.forM fun r => dataReturnIn ports r.1 r.2)
      (fun _ s' => Silent s s')
      (fun e _ => PortsFault ports e) s := by
  induction returned generalizing s with
  | nil => exact silent_refl s
  | cons r rest ih =>
      change Post
        (dataReturnIn ports r.1 r.2 >>= fun _ =>
          rest.forM fun r => dataReturnIn ports r.1 r.2) _ _ s
      rw [post_bind]
      apply (post_dataReturnIn r.1 r.2).mono
      · intro _ s₁ hFirst
        apply ih.mono
        · exact fun _ s₂ hRest => hFirst.trans hRest
        · exact fun _ _ hFault => hFault
      · exact fun _ _ hFault => hFault

/- Sending a frame on. -/
theorem post_dataOut
    (buffer : FwBuffer)
    (bytes : List UInt8)
    (context : FrameContext) :
    Post (dataOut ports buffer bytes context)
      (fun _ s' => s'.inRing = s.inRing ∧
        ∃ cs, s'.calls = s.calls ++ cs ∧
          framesSent cs = [bytes] ∧ ¬ Refused cs)
      (fun e _ => PortsFault ports e) s := by
  unfold dataOut
  rw [post_bind, post_modify, post_bind]
  apply post_down
  · intro returned d
    apply (post_returned returned).mono
    · intro _ s' hSilent
      rcases hSilent.calls with ⟨cs, hCalls, hNone, hNot⟩
      refine ⟨hSilent.inRing,
        .dataOut buffer bytes context :: cs, ?_, ?_, ?_⟩
      · rw [hCalls]
        exact List.append_assoc _ _ _
      · change bytes :: framesSent cs = [bytes]
        rw [hNone]
      · rintro ⟨size, answer, hMem, hInvalid⟩
        rcases List.mem_cons.mp hMem with hHead | hTail
        · cases hHead
        · exact hNot ⟨size, answer, hTail, hInvalid⟩
    · exact fun _ _ hFault => hFault
  · exact fun e p p' hRun =>
      .inr (.inr ⟨buffer, bytes, context, p, p', hRun⟩)

theorem post_bufferAllocateOut
    (size : Nat) :
    Post (bufferAllocateOut ports size)
      (fun buffer s' => s'.inRing = s.inRing ∧
        s'.calls =
          s.calls ++ [.bufferAllocate size buffer])
      (fun e _ => PortsFault ports e) s := by
  unfold bufferAllocateOut
  rw [post_bind]
  apply post_down
  · exact fun buffer d => ⟨rfl, rfl⟩
  · exact fun e p p' hRun => .inl ⟨size, p, p', hRun⟩

/- Detection leaves the accumulator as it is. -/
theorem post_detectFrame
    {Q : DetectStatus × Nat → AccumulatorState n π → Prop}
    {E : Fault → AccumulatorState n π → Prop}
    (hFound : ∀ found, detect s.inRing = .ok found → Q found s)
    (hThrows : ∀ e, detect s.inRing = .error e → E e s) :
    Post (detectFrame detect) Q E s := by
  unfold Post detectFrame
  rw [exec_mk]
  cases hDetect : detect s.inRing with
  | ok found => exact hFound found hDetect
  | error e => exact hThrows e hDetect

variable [NeZero n]

/- Dropping bytes that wait meets its assertion. -/
theorem post_rotateRing
    {amount : Nat}
    (hHeld : amount ≤ s.inRing.allocatedSize) :
    Post (rotateRing amount s.inRing.allocatedSize)
      (fun _ s' => s'.calls = s.calls ∧
        s'.inRing.contents = s.inRing.contents.drop amount)
      (fun _ _ => False) s := by
  rcases CircularBuffer.rotate_of_held hHeld with ⟨b, hRun⟩
  rcases CircularBuffer.rotate_ok hRun with ⟨-, hContents⟩
  have hSize := congrArg List.length hContents
  rw [List.length_drop, CircularBuffer.length_contents,
    CircularBuffer.length_contents] at hSize
  unfold rotateRing
  simp only [post_bind, post_modify, post_get]
  rw [hRun, post_fwAssert hSize]
  exact ⟨rfl, hContents⟩

theorem post_takeFrame
    {size : Nat}
    (hHeld : size ≤ s.inRing.allocatedSize) :
    Post (takeFrame size s.inRing.allocatedSize)
      (fun bytes s' =>
        bytes = s.inRing.contents.take size ∧
          s'.calls = s.calls ∧
          s'.inRing.contents = s.inRing.contents.drop size)
      (fun _ _ => False) s := by
  have hPeek :
      s.inRing.peek size 0 =
        (.ok, s.inRing.contents.take size) := by
    rw [CircularBuffer.peek_eq (by omega), List.drop_zero]
  rcases CircularBuffer.rotate_of_held hHeld with ⟨b, hRotate⟩
  unfold takeFrame
  simp only [post_bind, post_get, post_pure]
  rw [hPeek, post_fwAssert rfl, post_fwAssert (by rw [hRotate])]
  apply (post_rotateRing hHeld).mono
  · exact fun _ s' hDropped => ⟨rfl, hDropped⟩
  · exact fun _ _ hFalse => hFalse

end FrameAccumulator

end LoRaRadio

------------------------------------------------------------
-- Calls Are Only Added
------------------------------------------------------------

namespace LoRaRadio

open Faulting

namespace FrameAccumulator

variable {n : Nat}
variable {π : Type}
variable {detect : FrameDetector n}
variable {ports : FramePorts π}

theorem grow_modify
    {f : AccumulatorState n π → AccumulatorState n π}
    (hSame : ∀ s, (f s).calls = s.calls) :
    Keeps CallsGrow (modify f : AccumulatorM n π Unit) :=
  keeps_modify fun s => ⟨[], by rw [List.append_nil, hSame]⟩

theorem grow_record
    (c : AccumulatorCall) :
    Keeps CallsGrow
      (modify (AccumulatorState.record c) :
        AccumulatorM n π Unit) :=
  keeps_modify fun _ => List.prefix_append _ _

theorem grow_down
    {α : Type}
    (m : Faulting Fault π α) :
    Keeps (@CallsGrow n π)
      (zoom AccumulatorState.downPart m) :=
  keeps_zoom fun _ _ => List.prefix_rfl

theorem grow_fwAssert
    (c : Prop)
    [Decidable c]
    (condition : String) :
    Keeps (@CallsGrow n π) (fwAssert c condition) :=
  keeps_ite (fun _ => keeps_pure _) fun _ => keeps_throw _

theorem grow_dataReturnIn
    (buffer : FwBuffer)
    (context : FrameContext) :
    Keeps (@CallsGrow n π) (dataReturnIn ports buffer context) :=
  (grow_record _).bind fun _ => grow_down _

theorem grow_dataOut
    (buffer : FwBuffer)
    (bytes : List UInt8)
    (context : FrameContext) :
    Keeps (@CallsGrow n π)
      (dataOut ports buffer bytes context) := by
  unfold dataOut
  refine (grow_record _).bind fun _ => ?_
  refine (grow_down _).bind fun returned => ?_
  apply keeps_forM
  exact fun r => grow_dataReturnIn r.1 r.2

variable [NeZero n]

theorem grow_rotateRing
    (amount remaining : Nat) :
    Keeps (@CallsGrow n π) (rotateRing amount remaining) := by
  unfold rotateRing
  refine Keeps.bind (grow_modify ?_) fun _ => ?_
  · exact fun _ => rfl
  exact keeps_get.bind fun _ => grow_fwAssert _ _

theorem grow_takeFrame
    (size remaining : Nat) :
    Keeps (@CallsGrow n π) (takeFrame size remaining) := by
  unfold takeFrame
  refine keeps_get.bind fun _ => ?_
  refine (grow_fwAssert _ _).bind fun _ => ?_
  refine keeps_get.bind fun _ => ?_
  refine (grow_fwAssert _ _).bind fun _ => ?_
  exact (grow_rotateRing _ _).bind fun _ => keeps_pure _

theorem grow_processRing
    (rounds : Nat) :
    Keeps (@CallsGrow n π) (processRing detect ports rounds) := by
  induction rounds with
  | zero => exact keeps_pure _
  | succ rounds ih =>
      have hDrop :
          ∀ remaining,
            Keeps (@CallsGrow n π)
              (rotateRing 1 remaining >>= fun _ =>
                processRing detect ports rounds) :=
        fun remaining => (grow_rotateRing 1 remaining).bind
          fun _ => ih
      unfold processRing
      refine keeps_get.bind fun s => ?_
      dsimp only
      refine keeps_ite (fun _ => keeps_pure _) fun _ => ?_
      refine Keeps.bind (fun _ => List.prefix_rfl)
        fun found => ?_
      refine keeps_ite (fun _ => ?_) fun _ => ?_
      · exact (grow_record _).bind fun _ => hDrop _
      cases found.1 with
      | frameDetected =>
          refine (grow_fwAssert _ _).bind fun _ => ?_
          refine (grow_fwAssert _ _).bind fun _ => ?_
          refine Keeps.bind ?_ fun buffer => ?_
          · exact (grow_down _).bind fun _ =>
              (grow_record _).bind fun _ => keeps_pure _
          refine keeps_ite (fun _ => ?_) fun _ => grow_record _
          exact (grow_takeFrame _ _).bind fun _ =>
            (grow_dataOut _ _ _).bind fun _ => ih
      | moreDataNeeded => exact grow_fwAssert _ _
      | noFrameDetected => exact hDrop _

theorem grow_processBuffer
    (rounds : Nat)
    (rest : List UInt8) :
    Keeps (@CallsGrow n π)
      (processBuffer detect ports rounds rest) := by
  induction rounds generalizing rest with
  | zero => exact keeps_pure _
  | succ rounds ih =>
      unfold processBuffer
      refine keeps_get.bind fun s => ?_
      refine keeps_ite (fun _ => keeps_pure _) fun _ => ?_
      refine keeps_get.bind fun s' => ?_
      refine (grow_fwAssert _ _).bind fun _ => ?_
      refine Keeps.bind (grow_modify ?_) fun _ => ?_
      · exact fun _ => rfl
      exact (grow_processRing _).bind fun _ => ih _

theorem grow_dataIn
    (buffer : FwBuffer)
    (bytes : List UInt8)
    (context : FrameContext) :
    Keeps (@CallsGrow n π)
      (dataIn detect ports buffer bytes context) := by
  unfold dataIn
  refine keeps_ite (fun _ => ?_) fun _ => grow_record _
  refine (grow_processBuffer _ _).bind fun rest => ?_
  refine keeps_get.bind fun _ => ?_
  exact (grow_fwAssert _ _).bind fun _ => grow_record _

end FrameAccumulator

end LoRaRadio

------------------------------------------------------------
-- One Buffer
------------------------------------------------------------

namespace LoRaRadio

open Faulting Scanning

namespace FrameAccumulator

/- What the accumulator makes of a detector's answer. -/
def verdictOf
    (n : Nat)
    (found : DetectStatus × Nat) : Verdict :=
  if found.2 > n then .skip
  else
    match found.1 with
    | .frameDetected => .frame found.2
    | .noFrameDetected => .skip
    | .moreDataNeeded => .more

/-
  The detector's answer depends on the bytes that wait only,
  as a stable recognizer's does.  A detector that needs more
  says that it needs more than waits.
-/
structure Detects
    {n : Nat} [NeZero n]
    (detect : FrameDetector n)
    (r : Recognizer UInt8) : Prop where
  stable : Stable r
  verdict :
    ∀ b found,
      0 < b.allocatedSize →
      detect b = .ok found →
      r b.contents = verdictOf n found
  more :
    ∀ b size,
      detect b = .ok (.moreDataNeeded, size) →
      b.allocatedSize < size

variable {n : Nat} [NeZero n]
variable {π : Type}

/-
  A fault that is not the accumulator's own: the detector's
  on what is left of the bytes `xs`, or one of the
  surroundings.
-/
def Foreign
    (detect : FrameDetector n)
    (ports : FramePorts π)
    (r : Recognizer UInt8)
    (xs : List UInt8)
    (e : Fault)
    (s : AccumulatorState n π) : Prop :=
  (detect s.inRing = .error e ∧
    ∃ found, Resumes r xs found s.inRing.contents) ∨
  PortsFault ports e

/- No frame waits, and there is room for more bytes. -/
def Settled
    (r : Recognizer UInt8)
    (s : AccumulatorState n π) : Prop :=
  r s.inRing.contents = .more ∧ s.inRing.allocatedSize < n

/-
  From `s` to `s'` the bytes `accepted` were put behind those
  that waited, and the frames found in front were sent on.
  Unless a buffer was refused, no frame waits then, if any
  bytes were accepted or none waited before.
-/
def Accumulates
    (r : Recognizer UInt8)
    (s : AccumulatorState n π)
    (accepted : List UInt8)
    (s' : AccumulatorState n π) : Prop :=
  ∃ cs,
    s'.calls = s.calls ++ cs ∧
      Resumes r (s.inRing.contents ++ accepted)
        (framesSent cs) s'.inRing.contents ∧
      (Settled r s ∨ accepted ≠ [] → ¬ Refused cs →
        Settled r s')

variable {detect : FrameDetector n}
variable {ports : FramePorts π}
variable {r : Recognizer UInt8}
variable {s s' s'' : AccumulatorState n π}

theorem accumulates_refl
    (s : AccumulatorState n π) :
    Accumulates r s [] s := by
  refine ⟨[], (List.append_nil _).symm, ?_, ?_⟩
  · rw [List.append_nil]
    exact .refl _
  · exact fun hEither _ => hEither.resolve_right (absurd rfl)

theorem Accumulates.trans
    {first second : List UInt8}
    (hStable : Stable r)
    (hFirst : Accumulates r s first s')
    (hSecond : Accumulates r s' second s'') :
    Accumulates r s (first ++ second) s'' := by
  rcases hFirst with ⟨cs, hCalls, hResumes, hSettles⟩
  rcases hSecond with ⟨ds, hCalls', hResumes', hSettles'⟩
  refine ⟨cs ++ ds, ?_, ?_, ?_⟩
  · rw [hCalls', hCalls, List.append_assoc]
  · rw [framesSent_append, ← List.append_assoc]
    exact (hResumes.append hStable second).trans hResumes'
  · intro hEither hServed
    rw [refused_append, not_or] at hServed
    apply hSettles' _ hServed.2
    by_cases hNone : second = []
    · rw [hNone, List.append_nil] at hEither
      exact .inl (hSettles hEither hServed.1)
    · exact .inr hNone

/-
  From `s` to `s'` the frames found in front of the waiting
  bytes were sent on, and if no buffer was refused, none is
  left.
-/
def Processed
    (r : Recognizer UInt8)
    (s s' : AccumulatorState n π) : Prop :=
  ∃ cs,
    s'.calls = s.calls ++ cs ∧
      Resumes r s.inRing.contents (framesSent cs)
        s'.inRing.contents ∧
      (¬ Refused cs → Settled r s')

/- What goes wrong later goes wrong. -/
theorem Foreign.after
    {xs ys : List UInt8}
    {found : List (List UInt8)}
    {e : Fault}
    (hResumes : Resumes r xs found ys)
    (hForeign : Foreign detect ports r ys e s) :
    Foreign detect ports r xs e s := by
  rcases hForeign with ⟨hDetect, found', hLater⟩ | hPorts
  · exact .inl ⟨hDetect, _, hResumes.trans hLater⟩
  · exact .inr hPorts

/- Processing that has begun is finished later. -/
theorem Processed.after
    (hRest : Processed r s' s'')
    {cs : List AccumulatorCall}
    (hCalls : s'.calls = s.calls ++ cs)
    (hResumes :
      Resumes r s.inRing.contents (framesSent cs)
        s'.inRing.contents) :
    Processed r s s'' := by
  rcases hRest with ⟨ds, hCalls', hResumes', hSettles⟩
  refine ⟨cs ++ ds, ?_, ?_, ?_⟩
  · rw [hCalls', hCalls, List.append_assoc]
  · rw [framesSent_append]
    exact hResumes.trans hResumes'
  · intro hServed
    rw [refused_append] at hServed
    exact hSettles fun hRefused => hServed (.inr hRefused)

/- Dropping a byte where no frame starts. -/
theorem post_skip
    (hDetects : Detects detect r)
    (hVerdict : r s.inRing.contents = .skip)
    {rest : AccumulatorM n π Unit}
    (hRest :
      ∀ s₁ : AccumulatorState n π,
        s₁.inRing.allocatedSize < s.inRing.allocatedSize →
        Post rest (fun _ s' => Processed r s₁ s')
          (Foreign detect ports r s₁.inRing.contents) s₁) :
    Post
      (do
        rotateRing 1 s.inRing.allocatedSize
        rest)
      (fun _ s' => Processed r s s')
      (Foreign detect ports r s.inRing.contents) s := by
  have hSome :=
    List.length_pos_iff.mpr (hDetects.stable.skip_fits _ hVerdict)
  rw [CircularBuffer.length_contents] at hSome
  rw [post_bind]
  apply (post_rotateRing hSome).mono
  · rintro _ s₁ ⟨hCalls, hContents⟩
    have hLength := congrArg List.length hContents
    rw [List.length_drop, CircularBuffer.length_contents,
      CircularBuffer.length_contents] at hLength
    have hResumes :
        Resumes r s.inRing.contents [] s₁.inRing.contents := by
      rw [hContents, List.drop_one]
      exact resumes_skip hVerdict
    have hSame : s₁.calls = s.calls ++ [] := by
      rw [hCalls, List.append_nil]
    apply (hRest s₁ (by omega)).mono
    · exact fun _ s' hProcessed => hProcessed.after hSame hResumes
    · exact fun e s' hForeign => hForeign.after hResumes
  · exact fun _ _ hFalse => hFalse.elim

/- Sending on a frame that has been found. -/
theorem post_sendFrame
    (hDetects : Detects detect r)
    {size : Nat}
    (hVerdict : r s.inRing.contents = .frame size)
    (buffer : FwBuffer)
    {rest : AccumulatorM n π Unit}
    (hRest :
      ∀ s₁ : AccumulatorState n π,
        s₁.inRing.allocatedSize < s.inRing.allocatedSize →
        Post rest (fun _ s' => Processed r s₁ s')
          (Foreign detect ports r s₁.inRing.contents) s₁) :
    Post
      (do
        let bytes ← takeFrame size s.inRing.allocatedSize
        dataOut ports (buffer.setSize size) bytes {}
        rest)
      (fun _ s' => Processed r s s')
      (Foreign detect ports r s.inRing.contents) s := by
  have hFits := hDetects.stable.frame_fits _ _ hVerdict
  rw [CircularBuffer.length_contents] at hFits
  rw [post_bind]
  apply (post_takeFrame hFits.2).mono
  · rintro bytes s₁ ⟨rfl, hCalls₁, hContents₁⟩
    have hLength := congrArg List.length hContents₁
    rw [List.length_drop, CircularBuffer.length_contents,
      CircularBuffer.length_contents] at hLength
    rw [post_bind]
    apply (post_dataOut _ _ _).mono
    · rintro _ s₂ ⟨hRing₂, cs, hCalls₂, hFrames, -⟩
      have hResumes :
          Resumes r s.inRing.contents (framesSent cs)
            s₂.inRing.contents := by
        rw [hFrames, hRing₂, hContents₁]
        exact resumes_frame hVerdict
      apply (hRest s₂ (by rw [hRing₂]; omega)).mono
      · intro _ s' hProcessed
        have hCalls : s₂.calls = s.calls ++ cs := by
          rw [hCalls₂, hCalls₁]
        exact hProcessed.after hCalls hResumes
      · exact fun e s' hForeign => hForeign.after hResumes
    · exact fun e s hFault => .inr hFault
  · exact fun _ _ hFalse => hFalse.elim

/- A frame that could never fit costs a byte and a warning. -/
theorem post_oversized
    (hDetects : Detects detect r)
    (hVerdict : r s.inRing.contents = .skip)
    {size : Nat}
    {rest : AccumulatorM n π Unit}
    (hRest :
      ∀ s₁ : AccumulatorState n π,
        s₁.inRing.allocatedSize < s.inRing.allocatedSize →
        Post rest (fun _ s' => Processed r s₁ s')
          (Foreign detect ports r s₁.inRing.contents) s₁) :
    Post
      (do
        modify
          (AccumulatorState.record
            (.frameDetectionSizeError size))
        rotateRing 1 s.inRing.allocatedSize
        rest)
      (fun _ s' => Processed r s s')
      (Foreign detect ports r s.inRing.contents) s := by
  rw [post_bind, post_modify]
  let warned :=
    s.record (.frameDetectionSizeError size)
  have hSkip :
      Post
        (do
          rotateRing 1 warned.inRing.allocatedSize
          rest)
        (fun _ s' => Processed r warned s')
        (Foreign detect ports r warned.inRing.contents) warned :=
    post_skip (s := warned) hDetects hVerdict hRest
  apply hSkip.mono
  · intro _ s' hProcessed
    exact hProcessed.after rfl (.refl _)
  · exact fun _ _ hForeign => hForeign

/-
  A frame that has been found goes on if there is a buffer
  for it, and waits otherwise.
-/
theorem post_detected
    (hDetects : Detects detect r)
    {size : Nat}
    (hVerdict : r s.inRing.contents = .frame size)
    {rest : AccumulatorM n π Unit}
    (hRest :
      ∀ s₁ : AccumulatorState n π,
        s₁.inRing.allocatedSize < s.inRing.allocatedSize →
        Post rest (fun _ s' => Processed r s₁ s')
          (Foreign detect ports r s₁.inRing.contents) s₁) :
    Post
      (do
        fwAssert (size ≠ 0) "size_out != 0"
        fwAssert (size ≤ s.inRing.allocatedSize)
          "size_out <= remaining"
        let buffer ← bufferAllocateOut ports size
        if buffer.isValid then
          let bytes ← takeFrame size s.inRing.allocatedSize
          dataOut ports (buffer.setSize size) bytes {}
          rest
        else
          modify
            (AccumulatorState.record .noBufferAvailable))
      (fun _ s' => Processed r s s')
      (Foreign detect ports r s.inRing.contents) s := by
  have hFits := hDetects.stable.frame_fits _ _ hVerdict
  rw [CircularBuffer.length_contents] at hFits
  rw [post_bind, post_fwAssert (Nat.ne_of_gt hFits.1),
    post_bind, post_fwAssert hFits.2, post_bind]
  apply (post_bufferAllocateOut size).mono
  · rintro buffer s₁ ⟨hRing, hCalls⟩
    have hFrames :
        framesSent [.bufferAllocate size buffer] = [] := rfl
    rw [← hRing] at hVerdict hRest ⊢
    split
    case isTrue hValid =>
      apply (post_sendFrame hDetects hVerdict buffer hRest).mono
      · intro _ s' hProcessed
        apply hProcessed.after hCalls
        rw [hFrames, hRing]
        exact .refl _
      · exact fun _ _ hForeign => hForeign
    case isFalse hInvalid =>
      rw [post_modify]
      refine ⟨[.bufferAllocate size buffer, .noBufferAvailable],
        ?_, ?_, ?_⟩
      · change s₁.calls ++ [_] = _
        rw [hCalls, List.append_assoc]
        rfl
      · change Resumes r s.inRing.contents [] s₁.inRing.contents
        rw [hRing]
        exact .refl _
      · intro hServed
        refine absurd ⟨size, buffer, ?_, ?_⟩ hServed
        · exact List.mem_cons_self
        · exact Bool.eq_false_iff.mpr hInvalid
  · exact fun e s hFault => .inr hFault

/-
  The loop over what waits.  By induction on the rounds to
  go: every round drops a byte or a frame, so there are
  enough of them to look at every byte.
-/
theorem post_processRing
    (hDetects : Detects detect r)
    {rounds : Nat}
    (hEnough : s.inRing.allocatedSize ≤ rounds) :
    Post (processRing detect ports rounds)
      (fun _ s' => Processed r s s')
      (Foreign detect ports r s.inRing.contents) s := by
  have hEmpty :
      ∀ s : AccumulatorState n π,
        s.inRing.allocatedSize = 0 → Processed r s s := by
    intro s hNone
    refine ⟨[], (List.append_nil _).symm, Resumes.refl _, ?_⟩
    intro _
    have hNil : s.inRing.contents = [] := by
      apply List.length_eq_zero_iff.mp
      rw [CircularBuffer.length_contents, hNone]
    refine ⟨?_, ?_⟩
    · rw [hNil]
      exact hDetects.stable.nil
    · rw [hNone]
      exact Nat.pos_of_neZero n
  induction rounds generalizing s with
  | zero => exact hEmpty s (Nat.le_zero.mp hEnough)
  | succ rounds ih =>
      have hRest :
          ∀ s₁ : AccumulatorState n π,
            s₁.inRing.allocatedSize < s.inRing.allocatedSize →
            Post (processRing detect ports rounds)
              (fun _ s' => Processed r s₁ s')
              (Foreign detect ports r s₁.inRing.contents) s₁ :=
        fun s₁ hLess => ih (by omega)
      unfold processRing
      rw [post_bind, post_get]
      dsimp only
      split
      case isTrue hNone =>
        exact hEmpty s hNone
      case isFalse hSome =>
      rw [post_bind]
      apply post_detectFrame
      case hThrows =>
        exact fun e hDetect => .inl ⟨hDetect, [], .refl _⟩
      intro found hDetect
      have hVerdict :=
        hDetects.verdict _ _ (Nat.pos_of_ne_zero hSome) hDetect
      unfold verdictOf at hVerdict
      split
      case isTrue hLarge =>
        rw [if_pos hLarge] at hVerdict
        exact post_oversized hDetects hVerdict hRest
      case isFalse hSmall =>
      rw [if_neg hSmall] at hVerdict
      rcases found with ⟨status, size⟩
      cases status with
      | frameDetected =>
          exact post_detected hDetects hVerdict hRest
      | noFrameDetected =>
          exact post_skip hDetects hVerdict hRest
      | moreDataNeeded =>
          have hNeeds := hDetects.more _ _ hDetect
          dsimp only at hVerdict hSmall ⊢
          rw [post_fwAssert hNeeds]
          refine ⟨[], (List.append_nil _).symm,
            Resumes.refl _, ?_⟩
          exact fun _ => ⟨hVerdict, by omega⟩

/-
  The loop over one buffer.  By induction on the rounds to
  go: every round takes a byte at least, so the bytes that
  are left over do not fit in the ring.
-/
theorem post_processBuffer
    (hDetects : Detects detect r)
    {rounds : Nat}
    {bytes : List UInt8}
    (hEnough : bytes.length ≤ rounds) :
    Post (processBuffer detect ports rounds bytes)
      (fun rest s' =>
        (∃ accepted, bytes = accepted ++ rest ∧
          Accumulates r s accepted s' ∧
          (accepted = [] →
            bytes = [] ∨ s.inRing.getFreeSize = 0)) ∧
        (rest.length = 0 ∨ s'.inRing.getFreeSize = 0))
      (fun e s' => ∃ accepted, accepted <+: bytes ∧
        Foreign detect ports r (s.inRing.contents ++ accepted)
          e s') s := by
  induction rounds generalizing s bytes with
  | zero =>
      have hNone := Nat.le_zero.mp hEnough
      exact ⟨⟨[], rfl, accumulates_refl s,
        fun _ => .inl (List.length_eq_zero_iff.mp hNone)⟩,
        .inl hNone⟩
  | succ rounds ih =>
      unfold processBuffer
      rw [post_bind, post_get]
      dsimp only
      split
      case isTrue hDone =>
        exact ⟨⟨[], rfl, accumulates_refl s,
          fun _ => hDone.imp_left List.length_eq_zero_iff.mp⟩,
          hDone⟩
      case isFalse hGoesOn =>
      rw [post_bind, post_get]
      generalize hSize :
        (if s.inRing.getFreeSize ≤ bytes.length then
          s.inRing.getFreeSize else bytes.length) = size
      have hTaken :
          0 < size ∧ size ≤ s.inRing.getFreeSize ∧
            size ≤ bytes.length := by
        split at hSize <;> omega
      have hRoom :
          (bytes.take size).length ≤ s.inRing.getFreeSize := by
        rw [List.length_take]
        omega
      rcases CircularBuffer.serialize_of_room hRoom with ⟨b, hRun⟩
      rcases CircularBuffer.serialize_ok hRun with ⟨-, hContents⟩
      rw [hRun, post_bind, post_fwAssert rfl, post_bind,
        post_modify, post_bind]
      apply (post_processRing hDetects b.allocated_le).mono
      case hE =>
        intro e s' hForeign
        refine ⟨bytes.take size, List.take_prefix _ _, ?_⟩
        rw [← hContents]
        exact hForeign
      intro _ s₁ hProcessed
      have hFirst : Accumulates r s (bytes.take size) s₁ := by
        rcases hProcessed with ⟨cs, hCalls, hResumes, hSettles⟩
        refine ⟨cs, hCalls, ?_, fun _ => hSettles⟩
        rw [← hContents]
        exact hResumes
      have hLess : (bytes.drop size).length ≤ rounds := by
        rw [List.length_drop]
        omega
      apply (ih hLess).mono
      case hE =>
        rintro e s' ⟨accepted, hPrefix, hForeign⟩
        rcases hFirst with ⟨cs, -, hResumes, -⟩
        refine ⟨bytes.take size ++ accepted, ?_, ?_⟩
        · have hFront :=
            (List.prefix_append_right_inj
              (bytes.take size)).mpr hPrefix
          rwa [List.take_append_drop] at hFront
        · rw [← List.append_assoc]
          exact hForeign.after
            (hResumes.append hDetects.stable accepted)
      rintro rest s' ⟨⟨accepted, hBytes, hSecond, -⟩, hLeft⟩
      refine ⟨⟨bytes.take size ++ accepted, ?_, ?_, ?_⟩, hLeft⟩
      · rw [List.append_assoc, ← hBytes, List.take_append_drop]
      · exact hFirst.trans hDetects.stable hSecond
      · intro hNone
        have hLength :=
          congrArg List.length (List.append_eq_nil_iff.mp hNone).1
        rw [List.length_take, List.length_nil] at hLength
        omega

/- The bytes a buffer brings. -/
def payloadOf
    (buffer : FwBuffer)
    (bytes : List UInt8) : List UInt8 :=
  if buffer.isValid then bytes else []

/-
  One buffer.  Its own assertions never fail; a front part
  of the bytes is accepted, and all of them if the
  accumulator is settled afterwards.
-/
theorem post_dataIn
    (hDetects : Detects detect r)
    (buffer : FwBuffer)
    (bytes : List UInt8)
    (context : FrameContext) :
    Post (dataIn detect ports buffer bytes context)
      (fun _ s' =>
        ∃ accepted rest,
          payloadOf buffer bytes = accepted ++ rest ∧
            Accumulates r s accepted s' ∧
            (accepted = [] →
              payloadOf buffer bytes = [] ∨
                s.inRing.getFreeSize = 0) ∧
            (Settled r s' → rest = []))
      (fun e s' =>
        ∃ accepted, accepted <+: payloadOf buffer bytes ∧
          Foreign detect ports r (s.inRing.contents ++ accepted)
            e s') s := by
  let returned : AccumulatorState n π → AccumulatorState n π :=
    AccumulatorState.record (.dataReturnOut buffer context)
  have hReturned :
      ∀ s₁ : AccumulatorState n π,
        Accumulates r s₁ [] (returned s₁) := by
    intro s₁
    refine ⟨[.dataReturnOut buffer context], rfl, ?_, ?_⟩
    · rw [List.append_nil]
      exact .refl _
    · exact fun hEither _ =>
        hEither.resolve_right (absurd rfl)
  unfold dataIn payloadOf
  split
  case isFalse hInvalid =>
    rw [post_modify]
    exact ⟨[], [], rfl, hReturned s, fun _ => .inl rfl,
      fun _ => rfl⟩
  case isTrue hValid =>
  rw [post_bind]
  apply (post_processBuffer hDetects (Nat.le_refl _)).mono
  case hE => exact fun _ _ hForeign => hForeign
  rintro rest s₁ ⟨⟨accepted, hBytes, hAccumulates, hNone⟩, hLeft⟩
  rw [post_bind, post_get, post_bind, post_fwAssert hLeft,
    post_modify]
  refine ⟨accepted, rest, hBytes, ?_, hNone, ?_⟩
  · have hBoth :=
      hAccumulates.trans hDetects.stable (hReturned s₁)
    rwa [List.append_nil] at hBoth
  · intro hSettled
    have hRoom : s₁.inRing.allocatedSize < n := hSettled.2
    unfold CircularBuffer.getFreeSize at hLeft
    exact List.length_eq_zero_iff.mp (by omega)

end FrameAccumulator

end LoRaRadio

------------------------------------------------------------
-- Runs
------------------------------------------------------------

namespace LoRaRadio

open Faulting Scanning Runs

/- An invocation of one of the input ports. -/
inductive AccumulatorAction
  | dataIn
      (buffer : FwBuffer)
      (bytes : List UInt8)
      (context : FrameContext)
  | dataReturnIn (buffer : FwBuffer) (context : FrameContext)
deriving DecidableEq, Repr

namespace FrameAccumulator

variable {n : Nat} [NeZero n]
variable {π : Type}

/- The accumulator after `configure`. -/
def configured
    (store : CircularMemory n UInt8)
    (down : π) : AccumulatorState n π where
  inRing := CircularBuffer.setup store
  down := down

def act
    (detect : FrameDetector n)
    (ports : FramePorts π) :
    AccumulatorAction → AccumulatorM n π Unit
| .dataIn buffer bytes context =>
    dataIn detect ports buffer bytes context
| .dataReturnIn buffer context =>
    dataReturnIn ports buffer context

def step
    (detect : FrameDetector n)
    (ports : FramePorts π) :
    AccumulatorState n π → AccumulatorAction →
      Except Fault (AccumulatorState n π) :=
  fun s a => outcome (act detect ports a) s

/- The bytes an invocation brings. -/
def arrivals : AccumulatorAction → List UInt8
| .dataIn buffer bytes _ => payloadOf buffer bytes
| .dataReturnIn _ _ => []

/- All bytes of a run, in the order they arrive in. -/
def streamOf
    (actions : List AccumulatorAction) : List UInt8 :=
  actions.flatMap arrivals

variable {detect : FrameDetector n}
variable {ports : FramePorts π}
variable {r : Recognizer UInt8}
variable {s s' : AccumulatorState n π}

/- What one invocation does with the bytes it brings. -/
theorem post_act
    (hDetects : Detects detect r)
    (a : AccumulatorAction) :
    Post (act detect ports a)
      (fun _ s' =>
        ∃ accepted rest,
          arrivals a = accepted ++ rest ∧
            Accumulates r s accepted s' ∧
            (Settled r s' → rest = []))
      (fun e s' =>
        ∃ accepted, accepted <+: arrivals a ∧
          Foreign detect ports r (s.inRing.contents ++ accepted)
            e s') s := by
  cases a with
  | dataIn buffer bytes context =>
      apply (post_dataIn hDetects buffer bytes context).mono
      · rintro _ s' ⟨accepted, rest, hBytes, hDone, -, hAll⟩
        exact ⟨accepted, rest, hBytes, hDone, hAll⟩
      · exact fun _ _ hForeign => hForeign
  | dataReturnIn buffer context =>
      apply (post_dataReturnIn buffer context).mono
      · intro _ s₁ hSilent
        rcases hSilent.calls with ⟨cs, hCalls, hNone, hNot⟩
        refine ⟨[], [], rfl, ⟨cs, hCalls, ?_, ?_⟩,
          fun _ => rfl⟩
        · rw [List.append_nil, hNone, hSilent.inRing]
          exact .refl _
        · intro hEither _
          unfold Settled
          rw [hSilent.inRing]
          exact hEither.resolve_right (absurd rfl)
      · exact fun e _ hFault => ⟨[], List.nil_prefix, .inr hFault⟩

theorem grow_act
    (a : AccumulatorAction) :
    Keeps CallsGrow (act detect ports a) := by
  cases a with
  | dataIn buffer bytes context =>
      exact grow_dataIn buffer bytes context
  | dataReturnIn buffer context =>
      exact grow_dataReturnIn buffer context

/-
  A run accepts a part of the stream, and as long as no
  buffer is refused everything that has arrived.  It fails
  only where its surroundings do, or at bytes the detector
  itself fails at.
-/
theorem post_run
    (hDetects : Detects detect r)
    (actions : List AccumulatorAction)
    (s : AccumulatorState n π) :
    Post (actions.forM (act detect ports))
      (fun _ s' =>
        ∃ accepted,
          accepted.Sublist (streamOf actions) ∧
            Accumulates r s accepted s' ∧
            (Settled r s → ¬ Refused s'.calls →
              accepted = streamOf actions))
      (fun e s' =>
        ∃ accepted,
          accepted.Sublist (streamOf actions) ∧
            Foreign detect ports r
              (s.inRing.contents ++ accepted) e s' ∧
            (Settled r s → ¬ Refused s'.calls →
              accepted <+: streamOf actions)) s := by
  induction actions generalizing s with
  | nil => exact ⟨[], .slnil, accumulates_refl _, fun _ _ => rfl⟩
  | cons a actions ih =>
      have hRest :
          ∀ s₁, Post (actions.forM (act detect ports)) _ _ s₁ :=
        fun s₁ => (ih s₁).and
          ((keeps_forM grow_act actions).post s₁)
      change Post
        (act detect ports a >>= fun _ =>
          actions.forM (act detect ports)) _ _ s
      rw [post_bind]
      apply (post_act hDetects a).mono
      · rintro _ s₁ ⟨accepted, rest, hBrings, hFirst, hAll⟩
        have hSub : accepted.Sublist (arrivals a) := by
          rw [hBrings]
          exact List.sublist_append_left _ _
        -- with every buffer served, all of this one is taken
        have hTaken :
            Settled r s → ¬ Refused s₁.calls →
              Settled r s₁ ∧ accepted = arrivals a := by
          rcases hFirst with ⟨cs, hCalls, -, hSettles⟩
          intro hSettled hServed
          rw [hCalls, refused_append, not_or] at hServed
          have hSettled₁ :=
            hSettles (.inl hSettled) hServed.2
          refine ⟨hSettled₁, ?_⟩
          rw [hBrings, hAll hSettled₁, List.append_nil]
        apply (hRest s₁).mono
        · rintro _ s' ⟨⟨later, hSub', hRest, hWhole⟩, hGrow⟩
          refine ⟨accepted ++ later, hSub.append hSub',
            hFirst.trans hDetects.stable hRest, ?_⟩
          intro hSettled hServed
          rcases hTaken hSettled (hGrow.served hServed) with
            ⟨hSettled₁, hEq⟩
          rw [hEq, hWhole hSettled₁ hServed]
          rfl
        · rintro e s' ⟨⟨later, hSub', hForeign, hWhole⟩, hGrow⟩
          refine ⟨accepted ++ later, hSub.append hSub', ?_, ?_⟩
          · rcases hFirst with ⟨cs, -, hEarlier, -⟩
            rw [← List.append_assoc]
            exact hForeign.after
              (hEarlier.append hDetects.stable later)
          · intro hSettled hServed
            rcases hTaken hSettled (hGrow.served hServed) with
              ⟨hSettled₁, hEq⟩
            rw [hEq]
            exact (List.prefix_append_right_inj _).mpr
              (hWhole hSettled₁ hServed)
      · rintro e s' ⟨accepted, hPrefix, hForeign⟩
        have hFront : accepted <+: streamOf (a :: actions) :=
          hPrefix.trans (List.prefix_append _ _)
        exact ⟨accepted, hFront.sublist, hForeign,
          fun _ _ => hFront⟩

/- A run of steps is a run of the invocations. -/
theorem attempt_eq_outcome
    (actions : List AccumulatorAction)
    (s : AccumulatorState n π) :
    attempt (step detect ports) s actions =
      outcome (actions.forM (act detect ports)) s := by
  induction actions generalizing s with
  | nil => rfl
  | cons a actions ih =>
      change _ =
        outcome
          (act detect ports a >>= fun _ =>
            actions.forM (act detect ports)) s
      unfold attempt step outcome
      rw [exec_bind]
      rcases exec (act detect ports a) s with ⟨e | _, s₁⟩
      · rfl
      · exact ih s₁

theorem accumulates_run
    (hDetects : Detects detect r)
    {actions : List AccumulatorAction}
    (hRun : attempt (step detect ports) s actions = .ok s') :
    ∃ accepted,
      accepted.Sublist (streamOf actions) ∧
        Accumulates r s accepted s' ∧
        (Settled r s → ¬ Refused s'.calls →
          accepted = streamOf actions) := by
  rw [attempt_eq_outcome] at hRun
  rcases (post_run hDetects actions s).of_outcome_ok hRun with
    ⟨_, hAccepted⟩
  exact hAccepted

theorem settled_configured
    (hDetects : Detects detect r)
    (store : CircularMemory n UInt8)
    (down : π) :
    Settled r (configured store down) :=
  ⟨hDetects.stable.nil, Nat.pos_of_neZero n⟩

/-
  As long as no buffer is refused, the frames sent on are
  those of the stream, and the bytes that wait are its rest,
  whatever buffers the stream arrived in.  Whatever goes
  wrong, the bytes that wait are what scanning a part of the
  stream has led to.
-/
theorem frames_of_stream
    (hDetects : Detects detect r)
    (store : CircularMemory n UInt8)
    (down : π)
    (actions : List AccumulatorAction) :
    Post (actions.forM (act detect ports))
      (fun _ s' =>
        ¬ Refused s'.calls →
          scan r (streamOf actions) =
            (framesSent s'.calls, s'.inRing.contents))
      (fun e s' =>
        PortsFault ports e ∨
          detect s'.inRing = .error e ∧
            ∃ accepted found,
              accepted.Sublist (streamOf actions) ∧
                Resumes r accepted found s'.inRing.contents ∧
                (¬ Refused s'.calls →
                  accepted <+: streamOf actions))
      (configured store down) := by
  have hSettled := settled_configured hDetects store down
  apply (post_run hDetects actions _).mono
  · rintro _ s' ⟨accepted, -, hAccumulates, hWhole⟩ hServed
    rcases hAccumulates with ⟨cs, hCalls, hResumes, hSettles⟩
    have hCalls' : s'.calls = cs := hCalls
    rw [hWhole hSettled hServed] at hResumes
    rw [hCalls'] at hServed ⊢
    exact hResumes.finished hDetects.stable
      (hSettles (.inl hSettled) hServed).1
  · rintro e s' ⟨accepted, hSub, hForeign, hPrefix⟩
    rcases hForeign with ⟨hDetect, found, hResumes⟩ | hPorts
    · exact .inr ⟨hDetect, accepted, found, hSub, hResumes,
        hPrefix hSettled⟩
    · exact .inl hPorts

/-
  Whether or not buffers are refused, nothing is sent on
  that is not found in bytes that arrived, in their order.
-/
theorem frames_of_accepted
    (hDetects : Detects detect r)
    {store : CircularMemory n UInt8}
    {down : π}
    {actions : List AccumulatorAction}
    (hRun :
      attempt (step detect ports) (configured store down)
        actions = .ok s') :
    ∃ accepted,
      accepted.Sublist (streamOf actions) ∧
        scan r accepted =
          (framesSent s'.calls ++
              (scan r s'.inRing.contents).1,
            (scan r s'.inRing.contents).2) := by
  rcases accumulates_run hDetects hRun with
    ⟨accepted, hSub, ⟨cs, hCalls, hResumes, -⟩, -⟩
  have hCalls' : s'.calls = cs := hCalls
  rw [hCalls']
  exact ⟨accepted, hSub, hResumes.scan_eq hDetects.stable⟩

/- A full ring takes nothing, and no frame is looked for. -/
theorem post_act_full
    (hFull : s.inRing.getFreeSize = 0)
    (a : AccumulatorAction) :
    Post (act detect ports a)
      (fun _ s' => Silent s s')
      (fun e _ => PortsFault ports e) s := by
  cases a with
  | dataReturnIn buffer context =>
      exact post_dataReturnIn buffer context
  | dataIn buffer bytes context =>
      have hReturned :
          Silent s
            (s.record (.dataReturnOut buffer context)) := by
        refine ⟨rfl, [.dataReturnOut buffer context], rfl, rfl,
          ?_⟩
        rintro ⟨_, _, hMem, -⟩
        cases List.mem_singleton.mp hMem
      have hRest :
          ∀ rounds,
            exec (processBuffer detect ports rounds bytes) s =
              (.ok bytes, s) := by
        intro rounds
        cases rounds with
        | zero => rfl
        | succ rounds =>
            unfold processBuffer
            rw [exec_bind, exec_get]
            dsimp only
            rw [if_pos (.inr hFull)]
            rfl
      change Post (dataIn detect ports buffer bytes context) _ _ s
      unfold dataIn
      split
      case isFalse hInvalid =>
        exact hReturned
      case isTrue hValid =>
      rw [post_bind, Post, hRest]
      dsimp only
      rw [post_bind, post_get, post_bind,
        post_fwAssert (.inr hFull), post_modify]
      exact hReturned

/-
  Once the ring is full no frame is sent on any more, and
  nothing in the ring changes, whatever arrives and however
  many buffers there are by then.
-/
theorem full_forever
    (hFull : s.inRing.getFreeSize = 0)
    {actions : List AccumulatorAction}
    (hRun : attempt (step detect ports) s actions = .ok s') :
    s'.inRing = s.inRing ∧
      framesSent s'.calls = framesSent s.calls := by
  apply attempt_invariant (I := fun s' =>
    s'.inRing = s.inRing ∧
      framesSent s'.calls = framesSent s.calls) ?_ ⟨rfl, rfl⟩ hRun
  rintro s₁ a s₂ ⟨hRing, hFrames⟩ hStep
  have hFull₁ : s₁.inRing.getFreeSize = 0 := by
    rw [hRing, hFull]
  rcases (post_act_full hFull₁ a).of_outcome_ok hStep with
    ⟨_, hSilent⟩
  rcases hSilent.calls with ⟨cs, hCalls, hNone, -⟩
  refine ⟨hSilent.inRing.trans hRing, ?_⟩
  rw [hCalls, framesSent_append, hNone, List.append_nil, hFrames]

/-
  When there are buffers again, the next bytes that arrive
  bring the accumulator back to where no frame waits, unless
  its ring has become full.
-/
theorem settles_iff_room
    (hDetects : Detects detect r)
    {buffer : FwBuffer}
    {bytes : List UInt8}
    {context : FrameContext}
    (hBrings : payloadOf buffer bytes ≠ [])
    (hRun :
      step detect ports s (.dataIn buffer bytes context) =
        .ok s')
    {cs : List AccumulatorCall}
    (hCalls : s'.calls = s.calls ++ cs)
    (hServed : ¬ Refused cs) :
    Settled r s' ↔ s.inRing.getFreeSize ≠ 0 := by
  constructor
  · intro hSettled hFull
    rcases (post_act_full hFull _).of_outcome_ok hRun with
      ⟨_, hSilent⟩
    have hRoom : s'.inRing.allocatedSize < n := hSettled.2
    rw [hSilent.inRing] at hRoom
    unfold CircularBuffer.getFreeSize at hFull
    omega
  · intro hRoom
    rcases
        (post_dataIn hDetects buffer bytes context).of_outcome_ok
          hRun with
      ⟨_, accepted, rest, -, ⟨ds, hCalls', -, hSettles⟩, hNone,
        -⟩
    have hSame : ds = cs :=
      List.append_cancel_left (hCalls'.symm.trans hCalls)
    rw [hSame] at hSettles
    apply hSettles (.inr _) hServed
    exact fun hNil => (hNone hNil).elim hBrings hRoom

end FrameAccumulator

end LoRaRadio
