import LoRaRadio.ComAdapter.Answers
import LoRaRadio.Fprime.TmFramer

/-
  The framer wired to the radio, as in the deployment:
  `framer.dataOut -> loraRadio.dataIn`.

  A telemetry frame has 1024 bytes, and a LoRa packet takes
  at most 255, so no frame is ever sent.

  Main declarations:
    * `FrameTransmitted`
    * `frame_refused`
    * `frame_never_transmitted`
-/

------------------------------------------------------------
-- One Frame
------------------------------------------------------------

namespace LoRaRadio

open Faulting LoRaRadioAdapter

variable {π : Type}

/-
  The framer turns the data into a frame; the adapter
  answers it with SUCCESS, and the packets put on the air
  make up the frame.
-/
def FrameTransmitted
    (f : TmFramer)
    (s : AdapterState NodeState π)
    (data : FwBuffer)
    (context : FrameContext) : Prop :=
  ∃ f' memory frame s',
    f.dataIn s.memory data context =
        .ok (f', memory, frame) ∧
      exec (dataInHandler loraNodeApi 0 frame context)
          { s with memory := memory } = (.ok (), s') ∧
      (∃ buffer context',
        s'.calls =
          s.calls ++
            [.dataReturnOut 0 buffer context',
              .comStatusOut 0 .success]) ∧
      ∃ packets,
        s'.node.txDevice.chip.air =
            s.node.txDevice.chip.air ++ packets ∧
          packets.flatten =
            readBytes memory frame.data frame.size

/-
  A frame above 255 bytes is answered with FAILURE, and the
  node is not touched.
-/
theorem frame_refused
    {s : AdapterState NodeState π}
    {buffer : FwBuffer}
    (hStarted : s.adapter.started = true)
    (hSound : s.Sound)
    (hLong : 255 < buffer.size)
    (portNum : Nat)
    (context : FrameContext) :
    exec (dataInHandler loraNodeApi portNum buffer context)
        s =
      (.ok (), s.answered portNum buffer context
        .failure) := by
  have hNot :
      ¬ s.node.Transmits (s.payload buffer) := by
    rintro ⟨-, -, hShort⟩
    unfold AdapterState.payload at hShort
    rw [length_readBytes] at hShort
    omega
  have hNonempty : (s.payload buffer).isEmpty = false := by
    rw [List.isEmpty_eq_false_iff]
    intro hEmpty
    have hLength := congrArg List.length hEmpty
    unfold AdapterState.payload at hLength
    rw [length_readBytes, List.length_nil] at hLength
    omega
  have hSend :
      exec (loraNodeApi.send (s.payload buffer)) s.node =
        (.ok false, s.node) := by
    refine (exec_send_of_not_transmits hNot).trans ?_
    unfold NodeState.idleAnswer
    rw [hNonempty, Bool.and_false]
  rw [exec_dataInHandler hSound,
    exec_ensureNodeStarted_of_started hStarted]
  unfold handled
  simp only [if_true, hSend]
  rfl

/- Every frame the framer hands out is refused. -/
theorem tmFrame_refused
    {f f' : TmFramer}
    {s : AdapterState NodeState π}
    {data frame : FwBuffer}
    {context : FrameContext}
    {memory : Memory}
    (hStarted : s.adapter.started = true)
    (hSound : s.Sound)
    (hOut :
      f.dataIn s.memory data context =
        .ok (f', memory, frame)) :
    exec (dataInHandler loraNodeApi 0 frame context)
        { s with memory := memory } =
      (.ok (),
        ({ s with memory := memory }).answered 0 frame
          context .failure) := by
  have hSize := (TmFramer.dataIn_ok hOut).1
  apply frame_refused
  · exact hStarted
  · exact hSound
  · rw [hSize]
    decide

theorem not_frameTransmitted
    {f : TmFramer}
    {s : AdapterState NodeState π}
    {data : FwBuffer}
    {context : FrameContext}
    (hStarted : s.adapter.started = true)
    (hSound : s.Sound) :
    ¬ FrameTransmitted f s data context := by
  rintro ⟨f', memory, frame, s', hOut, hRun,
    ⟨buffer, context', hCalls⟩, -⟩
  rw [tmFrame_refused hStarted hSound hOut] at hRun
  cases hRun
  rw [calls_answered] at hCalls
  have hLast := List.append_cancel_left hCalls
  simp at hLast

/-
  With the node up no data and no context give a frame that
  is transmitted.  If the framer hands out a frame at all,
  it is answered with FAILURE and the node is not touched.
-/
theorem frame_never_transmitted
    (f : TmFramer)
    (s : AdapterState NodeState π)
    (data : FwBuffer)
    (context : FrameContext)
    (hStarted : s.adapter.started = true)
    (hSound : s.Sound) :
    ¬ FrameTransmitted f s data context ∧
      ∀ f' memory frame,
        f.dataIn s.memory data context =
            .ok (f', memory, frame) →
          exec (dataInHandler loraNodeApi 0 frame context)
              { s with memory := memory } =
            (.ok (),
              ({ s with memory := memory }).answered 0 frame
                context .failure) :=
  ⟨not_frameTransmitted hStarted hSound,
    fun _ _ _ hOut =>
      tmFrame_refused hStarted hSound hOut⟩

end LoRaRadio

------------------------------------------------------------
-- Three Bytes of Data
------------------------------------------------------------

namespace LoRaRadio

open Faulting LoRaRadioAdapter

def freshFramer : TmFramer where
  frameBuffer := 4096

/- Replace what the TX hardware will do. -/
def AdapterState.withTxHal
    (hal : Nat → HalEvent)
    (s : AdapterState NodeState Unit) :
    AdapterState NodeState Unit :=
  s.onNode fun n =>
    { n with txDevice := { n.txDevice with hal := hal } }

/- An adapter whose node is up, on hardware that works. -/
def startedAdapter : AdapterState NodeState Unit :=
  (readyAdapter.call loraNodeApi noUplink .run).withTxHal
    fun _ => {}

theorem frame_never_transmitted_shortData :
    ¬ FrameTransmitted freshFramer startedAdapter
      { data := 1, size := 3 } {} :=
  (frame_never_transmitted freshFramer startedAdapter
    { data := 1, size := 3 } {} (by decide +kernel)
    fun _ => by decide +kernel).1

/-
  The framer accepts three bytes and the hardware works, but
  the frame is not transmitted.
-/
theorem shortData_refused :
    startedAdapter.adapter.started = true ∧
      startedAdapter.node.txDevice.Works ∧
      (freshFramer.dataIn startedAdapter.memory
        { data := 1, size := 3 } {}).isOk = true ∧
      ¬ FrameTransmitted freshFramer startedAdapter
        { data := 1, size := 3 } {} := by
  have hStarted : startedAdapter.adapter.started = true := by
    decide +kernel
  refine ⟨hStarted, fun _ _ => rfl, by decide +kernel, ?_⟩
  exact not_frameTransmitted hStarted
    fun _ => by decide +kernel

end LoRaRadio
