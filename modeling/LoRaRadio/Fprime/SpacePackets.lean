import LoRaRadio.Fprime.ApidManager
import LoRaRadio.Fprime.TcDeframer

/-
  Space packets: `Svc::Ccsds::SpacePacketFramer` and
  `Svc::Ccsds::SpacePacketDeframer`.

  A packet is a header of six bytes and the data.  Its length
  field is one less than the length of the data, so the value
  0xFFFF of the field makes the deframer's length wrap around
  to zero.

  Main declarations:
    * `SpacePacketFramer.dataIn`
    * `SpacePacketDeframer.dataIn`
    * `handed_on_iff`
    * `deframes_framed`
    * `link_silent_iff`
-/

------------------------------------------------------------
-- Headers
------------------------------------------------------------

namespace LoRaRadio

/- `SpacePacketHeader` -/
structure SpacePacketHeader where
  packetIdentification : UInt16
  packetSequenceControl : UInt16
  packetDataLength : UInt16
deriving DecidableEq, Repr

namespace SpacePacketHeader

def serialize
    (h : SpacePacketHeader) : List UInt8 :=
  bigEndian h.packetIdentification ++
    bigEndian h.packetSequenceControl ++
    bigEndian h.packetDataLength

/- The header at the front of some bytes. -/
def deserialize : List UInt8 → Option SpacePacketHeader
| a :: b :: c :: d :: e :: f :: _ =>
    some
      { packetIdentification := word a b
        packetSequenceControl := word c d
        packetDataLength := word e f }
| _ => none

@[simp] theorem length_serialize
    (h : SpacePacketHeader) :
    h.serialize.length = spacePacketHeaderSize := rfl

theorem deserialize_serialize
    (h : SpacePacketHeader)
    (rest : List UInt8) :
    deserialize (h.serialize ++ rest) = some h := by
  change
    some
      { packetIdentification :=
          word (hiByte h.packetIdentification)
            (loByte h.packetIdentification)
        packetSequenceControl :=
          word (hiByte h.packetSequenceControl)
            (loByte h.packetSequenceControl)
        packetDataLength :=
          word (hiByte h.packetDataLength)
            (loByte h.packetDataLength) } = some h
  rw [word_hiByte_loByte, word_hiByte_loByte,
    word_hiByte_loByte]

theorem deserialize_of_length
    {xs : List UInt8}
    (hLength : spacePacketHeaderSize ≤ xs.length) :
    ∃ h, deserialize xs = some h := by
  unfold spacePacketHeaderSize at hLength
  rcases xs with
    _ | ⟨a, _ | ⟨b, _ | ⟨c, _ | ⟨d, _ | ⟨e, _ | ⟨f, rest⟩⟩⟩⟩⟩⟩
  case cons.cons.cons.cons.cons.cons => exact ⟨_, rfl⟩
  all_goals
    simp only [List.length_cons, List.length_nil] at hLength
    omega

end SpacePacketHeader

/- The value of an `Apid`. -/
def Apid.value : Apid → UInt16
| .fwPacketCommand => 0x0000
| .fwPacketTelem => 0x0001
| .fwPacketLog => 0x0002
| .fwPacketFile => 0x0003
| .fwPacketPacketizedTlm => 0x0004
| .fwPacketDp => 0x0005
| .fwPacketIdle => 0x0006
| .fwPacketHand => 0x00FE
| .fwPacketUnknown => 0x00FF
| .sppIdlePacket => 0x07FF
| .invalidUninitialized => apidInvalidUninitialized

/-
  A frame context with the APID of a packet that was
  received, which can be any value of eleven bits.
-/
structure PacketContext where
  comQueueIndex : Nat
  apid : UInt16
  sequenceCount : UInt16
  vcId : UInt8
deriving DecidableEq, Repr

end LoRaRadio

------------------------------------------------------------
-- The Framer
------------------------------------------------------------

namespace LoRaRadio

open Faulting

/- What the framer works on: memory, buffers and counts. -/
structure FramerState where
  memory : Memory
  pool : BufferManager
  apids : ApidManager := {}

namespace FramerState

def poolPart : Lens FramerState BufferManager where
  get s := s.pool
  set p s := { s with pool := p }
  get_set _ _ := rfl

def apidsPart : Lens FramerState ApidManager where
  get s := s.apids
  set a s := { s with apids := a }
  get_set _ _ := rfl

end FramerState

/- The packet around some data. -/
def spacePacketHeader
    (apid sequenceCount : UInt16)
    (size : Nat) : SpacePacketHeader where
  packetIdentification := apid &&& 0x07FF
  packetSequenceControl :=
    ((0x3 : UInt16) <<< 14) ||| (sequenceCount &&& 0x3FFF)
  packetDataLength := UInt16.ofNat (size - 1)

def spacePacket
    (apid sequenceCount : UInt16)
    (data : List UInt8) : List UInt8 :=
  (spacePacketHeader apid sequenceCount data.length).serialize ++
    data

namespace SpacePacketFramer

/-
  `dataIn_handler`: the frame buffer that goes out on
  `dataOut`; the data goes back after it.  Nothing can be
  serialized into a buffer that is not valid.
-/
def dataIn
    (data : FwBuffer)
    (context : FrameContext) :
    Faulting Fault FramerState FwBuffer := do
  let frameSize := spacePacketHeaderSize + data.size
  fwAssert
    (data.size ≤ 0xFFFFFFFFFFFFFFFF - spacePacketHeaderSize)
    "data.getSize() <= max() - SERIALIZED_SIZE"
  fwAssert (data.size > 0) "data.getSize() > 0"
  let frameBuffer ←
    zoom FramerState.poolPart
      (BufferManager.bufferGetCallee frameSize)
  fwAssert (context.apid.value >>> 11 = 0)
    "(apid >> ApidWidth) == 0"
  let sequenceCount ←
    zoom FramerState.apidsPart
      (ApidManager.getApidSeqCountIn context.apid.value)
  fwAssert (data.size ≤ 0xFFFF) "data.getSize() <= max()"
  fwAssert (frameBuffer.isValid = true)
    "status == Fw::FW_SERIALIZE_OK"
  modify fun s =>
    { s with
      memory :=
        writeBytes s.memory frameBuffer.data
          (spacePacket context.apid.value sequenceCount
            (readBytes s.memory data.data data.size)) }
  return frameBuffer

end SpacePacketFramer

end LoRaRadio

------------------------------------------------------------
-- The Deframer
------------------------------------------------------------

namespace LoRaRadio

open Faulting

/- `InvalidLength` -/
structure InvalidLength where
  transmitted : UInt16
  actual : Nat
deriving DecidableEq, Repr

/- What becomes of a packet. -/
inductive Depacketized
  | dataOut (data : FwBuffer) (context : PacketContext)
  | dataReturnOut
      (event : InvalidLength)
      (error : FrameError)
      (data : FwBuffer)
      (context : FrameContext)
deriving DecidableEq, Repr

namespace SpacePacketDeframer

/- The length of the data, as a `U16`. -/
def packetLength
    (header : SpacePacketHeader) : UInt16 :=
  header.packetDataLength + 1

def apidValue
    (header : SpacePacketHeader) : UInt16 :=
  header.packetIdentification &&& 0x07FF

def receivedSequenceCount
    (header : SpacePacketHeader) : UInt16 :=
  header.packetSequenceControl &&& 0x3FFF

/- The buffer and the context that go on. -/
def packetData
    (data : FwBuffer)
    (header : SpacePacketHeader) : FwBuffer :=
  { data with
    data := data.data + spacePacketHeaderSize
    size := (packetLength header).toNat }

def packetContext
    (context : FrameContext)
    (header : SpacePacketHeader) : PacketContext where
  comQueueIndex := context.comQueueIndex
  apid := apidValue header
  sequenceCount := receivedSequenceCount header
  vcId := context.vcId

/- `dataIn_handler` -/
def dataIn
    (memory : Memory)
    (data : FwBuffer)
    (context : FrameContext) :
    Faulting Fault ApidManager Depacketized := do
  fwAssert (data.size > spacePacketHeaderSize) "data.getSize()"
  match SpacePacketHeader.deserialize (data.content memory) with
  | none => throw (.assertion "status == Fw::FW_SERIALIZE_OK")
  | some header =>
      let length := packetLength header
      if length.toNat > data.size - spacePacketHeaderSize then
        return .dataReturnOut
          { transmitted := length
            actual := data.size - spacePacketHeaderSize }
          .spInvalidLength data context
      else
        let _ ←
          ApidManager.validateApidSeqCountIn (apidValue header)
            (receivedSequenceCount header)
        return .dataOut (packetData data header)
          (packetContext context header)

variable {memory : Memory}
variable {data : FwBuffer}
variable {context : FrameContext}
variable {header : SpacePacketHeader}
variable {m : ApidManager}

/- What becomes of a packet whose header has been read. -/
theorem exec_dataIn
    (hSize : spacePacketHeaderSize < data.size)
    (hHeader :
      SpacePacketHeader.deserialize (data.content memory) =
        some header)
    (context : FrameContext)
    (m : ApidManager) :
    exec (dataIn memory data context) m =
      if (packetLength header).toNat >
          data.size - spacePacketHeaderSize then
        (.ok (.dataReturnOut
          { transmitted := packetLength header
            actual := data.size - spacePacketHeaderSize }
          .spInvalidLength data context), m)
      else
        ((exec
            (ApidManager.validateApidSeqCountIn
              (apidValue header)
              (receivedSequenceCount header)) m).1.map
          fun _ =>
            .dataOut (packetData data header)
              (packetContext context header),
        (exec
          (ApidManager.validateApidSeqCountIn (apidValue header)
            (receivedSequenceCount header)) m).2) := by
  unfold dataIn fwAssert
  rw [if_pos hSize, exec_bind, exec_pure]
  dsimp only
  rw [hHeader]
  dsimp only
  split
  · rfl
  · rw [exec_bind]
    generalize
      exec
        (ApidManager.validateApidSeqCountIn (apidValue header)
          (receivedSequenceCount header)) m = r
    rcases r with ⟨e | n, m'⟩
    · rfl
    · rfl

/- A packet with more than a header has one to be read. -/
theorem header_of_size
    (hPointer : data.data ≠ 0)
    (hSize : spacePacketHeaderSize < data.size) :
    data.content memory =
        readBytes memory data.data data.size ∧
      ∃ header,
        SpacePacketHeader.deserialize (data.content memory) =
          some header := by
  have hContent :
      data.content memory =
        readBytes memory data.data data.size := by
    unfold FwBuffer.content FwBuffer.isValid
    rw [if_pos]
    rw [Bool.and_eq_true, bne_iff_ne, decide_eq_true_eq]
    exact ⟨hPointer, by omega⟩
  refine ⟨hContent, ?_⟩
  rw [hContent]
  apply SpacePacketHeader.deserialize_of_length
  rw [length_readBytes]
  exact Nat.le_of_lt hSize

/- The length wraps around at the last value of its field. -/
theorem toNat_packetLength
    (header : SpacePacketHeader) :
    (packetLength header).toNat =
      if header.packetDataLength = 0xFFFF then 0
      else header.packetDataLength.toNat + 1 := by
  have hLt := header.packetDataLength.toNat_lt
  have hLength :
      (packetLength header).toNat =
        (header.packetDataLength.toNat + 1) % 2 ^ 16 :=
    UInt16.toNat_add _ _
  have hLast :
      header.packetDataLength = 0xFFFF ↔
        header.packetDataLength.toNat = 0xFFFF :=
    UInt16.toNat_inj.symm
  rw [hLength]
  split
  case isTrue hEq =>
    rw [hLast.mp hEq]
    rfl
  case isFalse hNe =>
    have hOther := mt hLast.mpr hNe
    omega

theorem packetLength_le_iff
    {room : Nat} :
    (packetLength header).toNat ≤ room ↔
      header.packetDataLength.toNat + 1 ≤ room ∨
        header.packetDataLength = 0xFFFF := by
  rw [toNat_packetLength]
  split
  case isTrue hLast =>
    exact iff_of_true (Nat.zero_le _) (.inr hLast)
  case isFalse hOther =>
    exact (or_iff_left hOther).symm

/- What goes on is a part of the packet, after its header. -/
theorem narrows_packetData
    (hSize : spacePacketHeaderSize < data.size)
    (hFits :
      (packetLength header).toNat ≤
        data.size - spacePacketHeaderSize) :
    data.Narrows (packetData data header).data
      (packetData data header).size := by
  unfold FwBuffer.Narrows packetData spacePacketHeaderSize at *
  dsimp only
  omega

end SpacePacketDeframer

end LoRaRadio

------------------------------------------------------------
-- Round Trips
------------------------------------------------------------

namespace LoRaRadio

open Faulting Runs SequenceCounts

variable {memory : Memory}
variable {data frame : FwBuffer}
variable {context : FrameContext}
variable {header : SpacePacketHeader}
variable {m : ApidManager}
variable {c : SequenceCounts}

/-
  A packet whose count is validated is handed on exactly if
  its data is there, or if its length field has the last
  value.  Then nothing of its data goes on, and otherwise
  all of it does.  A packet that is not handed on goes back
  to its sender, and its count is not validated.
-/
theorem handed_on_iff
    (hPointer : data.data ≠ 0)
    (hSize : spacePacketHeaderSize < data.size)
    (hHeader :
      SpacePacketHeader.deserialize
          (readBytes memory data.data data.size) =
        some header)
    {n : UInt16}
    {m' : ApidManager}
    (hValidated :
      exec
          (ApidManager.validateApidSeqCountIn
            (SpacePacketDeframer.apidValue header)
            (SpacePacketDeframer.receivedSequenceCount header))
          m =
        (.ok n, m')) :
    ((∃ out packet,
      exec (SpacePacketDeframer.dataIn memory data context) m =
          (.ok (.dataOut out packet), m') ∧
        readBytes memory out.data out.size =
          ((readBytes memory data.data data.size).drop
              spacePacketHeaderSize).take
            (if header.packetDataLength = 0xFFFF then 0
              else header.packetDataLength.toNat + 1)) ↔
      header.packetDataLength.toNat + 1 ≤
          data.size - spacePacketHeaderSize ∨
        header.packetDataLength = 0xFFFF) ∧
    (¬ (header.packetDataLength.toNat + 1 ≤
          data.size - spacePacketHeaderSize ∨
        header.packetDataLength = 0xFFFF) →
      exec (SpacePacketDeframer.dataIn memory data context) m =
        (.ok (.dataReturnOut
          { transmitted := header.packetDataLength + 1
            actual := data.size - spacePacketHeaderSize }
          .spInvalidLength data context), m)) := by
  have hContent :=
    (@SpacePacketDeframer.header_of_size memory data hPointer
      hSize).1
  have hRun :=
    SpacePacketDeframer.exec_dataIn hSize
      (hContent ▸ hHeader) context m
  rw [← SpacePacketDeframer.packetLength_le_iff, hRun,
    hValidated]
  by_cases hFits :
      (SpacePacketDeframer.packetLength header).toNat ≤
        data.size - spacePacketHeaderSize
  · rw [if_neg (Nat.not_lt.mpr hFits)]
    refine ⟨iff_of_true ⟨_, _, rfl, ?_⟩ hFits,
      fun hNot => absurd hFits hNot⟩
    rw [← SpacePacketDeframer.toNat_packetLength]
    apply readBytes_part
    change
      spacePacketHeaderSize +
          (SpacePacketDeframer.packetLength header).toNat ≤
        data.size
    omega
  · rw [if_pos (Nat.not_le.mp hFits)]
    refine ⟨iff_of_false ?_ hFits, fun _ => rfl⟩
    rintro ⟨_, _, hOut, -⟩
    cases hOut

/- A length field with the last value, and two bytes. -/
theorem handed_on_iff_wraps :
    ∃ m' out packet,
      exec
          (SpacePacketDeframer.dataIn
            (writeBytes (fun _ => 0) 16
              [0, 0, 0xC0, 0, 0xFF, 0xFF, 1, 2])
            { data := 16, size := 8 } {})
          {} =
        (.ok (.dataOut out packet), m') ∧
      out.size = 0 := by
  have hHeader :
      SpacePacketHeader.deserialize
          (readBytes
            (writeBytes (fun _ => 0) 16
              [0, 0, 0xC0, 0, 0xFF, 0xFF, 1, 2]) 16 8) =
        some
          { packetIdentification := 0
            packetSequenceControl := 0xC000
            packetDataLength := 0xFFFF } := by
    decide
  have hValidated :
      ∃ n m',
        exec (ApidManager.validateApidSeqCountIn 0 0) {} =
          (.ok n, m') :=
    ⟨_, _, rfl⟩
  rcases hValidated with ⟨n, m', hValidated⟩
  rcases
      (@handed_on_iff _ { data := 16, size := 8 } {} _ {}
        (by decide) (by decide) hHeader n m' hValidated).1.mpr
        (.inr rfl) with
    ⟨out, packet, hOut, hRead⟩
  refine ⟨m', out, packet, hOut, ?_⟩
  have hLength := congrArg List.length hRead
  rw [length_readBytes, if_pos rfl, List.take_zero] at hLength
  exact hLength

/- The header of a packet that is sent, read back. -/
theorem packetIdentification_value
    {apid : UInt16}
    (hApid : apid >>> 11 = 0)
    (sequenceCount : UInt16)
    (size : Nat) :
    SpacePacketDeframer.apidValue
        (spacePacketHeader apid sequenceCount size) =
      apid := by
  have hZero := congrArg UInt16.toNat hApid
  rw [UInt16.toNat_shiftRight] at hZero
  change apid.toNat >>> 11 = 0 at hZero
  rw [Nat.shiftRight_eq_div_pow] at hZero
  apply UInt16.toNat_inj.mp
  unfold SpacePacketDeframer.apidValue spacePacketHeader
  dsimp only
  rw [UInt16.toNat_and, UInt16.toNat_and]
  change apid.toNat &&& (2 ^ 11 - 1) &&& (2 ^ 11 - 1) = _
  rw [Nat.and_two_pow_sub_one_eq_mod,
    Nat.and_two_pow_sub_one_eq_mod]
  omega

theorem packetSequenceControl_value
    (apid sequenceCount : UInt16)
    (size : Nat) :
    SpacePacketDeframer.receivedSequenceCount
        (spacePacketHeader apid sequenceCount size) =
      sequenceCount &&& 0x3FFF := by
  unfold SpacePacketDeframer.receivedSequenceCount
    spacePacketHeader
  dsimp only
  have hFlags :
      ((0x3 : UInt16) <<< 14).toNat &&& (0x3FFF : UInt16).toNat =
        0 := by
    decide
  apply UInt16.toNat_inj.mp
  rw [UInt16.toNat_and, UInt16.toNat_or, UInt16.toNat_and,
    Nat.and_or_distrib_right, hFlags, Nat.zero_or,
    Nat.and_assoc, Nat.and_self]

theorem packetDataLength_value
    {size : Nat}
    (hPos : 0 < size)
    (hLess : size ≤ 0xFFFF)
    (apid sequenceCount : UInt16) :
    (SpacePacketDeframer.packetLength
      (spacePacketHeader apid sequenceCount size)).toNat =
      size := by
  change (UInt16.ofNat (size - 1) + 1).toNat = size
  rw [UInt16.toNat_add, UInt16.toNat_ofNat']
  change ((size - 1) % 2 ^ 16 + 1) % 2 ^ 16 = size
  omega

/- The frame buffer holds a packet around the data. -/
theorem post_framer
    {s : FramerState}
    {held : List FwBuffer}
    (hBalanced :
      Lending.Balanced { manager := s.pool, held := held })
    (data : FwBuffer)
    (context : FrameContext) :
    Post (SpacePacketFramer.dataIn data context)
      (fun frame s' =>
        Lending.Balanced
          { manager := s'.pool, held := frame :: held } ∧
        (0 < data.size ∧ data.size ≤ 0xFFFF ∧
          context.apid.value >>> 11 = 0) ∧
        frame.data ≠ 0 ∧
        frame.size = spacePacketHeaderSize + data.size ∧
        ∃ count,
          exec
              (ApidManager.getApidSeqCountIn context.apid.value)
              s.apids =
            (.ok count, s'.apids) ∧
          s'.memory =
            writeBytes s.memory frame.data
              (spacePacket context.apid.value count
                (readBytes s.memory data.data data.size)))
      (fun _ _ => True) s := by
  unfold SpacePacketFramer.dataIn
  dsimp only
  rw [post_bind]
  apply post_fwAssert_of
  case hFails => exact fun _ => trivial
  intro _
  rw [post_bind]
  apply post_fwAssert_of
  case hFails => exact fun _ => trivial
  intro hPos
  rw [post_bind, post_zoom]
  apply (hBalanced.post_get _).mono
  case hE => exact fun _ _ hNever => hNever.elim
  intro frame pool hEither
  rw [post_bind]
  apply post_fwAssert_of
  case hFails => exact fun _ => trivial
  intro hApid
  rw [post_bind, post_zoom]
  apply post_of_ok
  intro count apids hCount
  rw [post_bind]
  apply post_fwAssert_of
  case hFails => exact fun _ => trivial
  intro hLess
  rw [post_bind]
  apply post_fwAssert_of
  case hFails => exact fun _ => trivial
  intro hFrame
  rw [post_bind, post_modify, post_pure]
  rcases hEither with ⟨rfl, -, -⟩ | ⟨hData, hSize, hAfter⟩
  · cases hFrame
  · exact ⟨hAfter, ⟨hPos, hLess, hApid⟩, hData, hSize, count,
      hCount, rfl⟩

/- The count of a tracked APID is validated. -/
theorem exec_validate
    (hTracks : Tracks m c)
    {apid received : UInt16}
    (hWire : ApidRequest.OnWire (.validate apid received))
    (hTracked : apid ∈ track c.tracked apid) :
    ∃ n m' c',
      exec (ApidManager.validateApidSeqCountIn apid received) m =
          (.ok n, m') ∧
        Tracks m' c' ∧
        c.step (.validate apid received) = some c' := by
  have hSome :
      ∃ c', c.step (.validate apid received) = some c' := by
    rw [← Option.isSome_iff_exists, Option.isSome_iff_ne_none]
    intro hNone
    rcases (step_eq_none_iff hWire).mp hNone with
      ⟨_, _, hEq, hLeft⟩
    cases hEq
    exact hLeft hTracked
  rcases hSome with ⟨c', hStep⟩
  have hValid :
      (ApidRequest.validate apid received).apid ≠
        apidInvalidUninitialized := hWire.1
  have hRefines := ApidManager.step_refines hTracks hValid
  rw [hStep] at hRefines
  rcases hRefines with ⟨m', hOk, hAfter⟩
  rcases exec_of_outcome_ok hOk with ⟨n, hRun⟩
  exact ⟨n, m', c', hRun, hAfter, hStep⟩

/- A received count has fourteen bits. -/
theorem onWire_of_mask
    {apid : UInt16}
    (hValid : apid ≠ apidInvalidUninitialized)
    (w : UInt16) :
    ApidRequest.OnWire (.validate apid (w &&& 0x3FFF)) := by
  refine ⟨hValid, fun hError => ?_⟩
  have hValue := congrArg UInt16.toNat hError
  rw [UInt16.toNat_and] at hValue
  change w.toNat &&& (2 ^ 14 - 1) = 0xFFFF at hValue
  rw [Nat.and_two_pow_sub_one_eq_mod] at hValue
  omega

/-
  Whatever data is framed, a deframer hands it on as it was,
  under its APID and its count, if its own table has an entry
  for the APID.
-/
theorem deframes_framed
    {s s' : FramerState}
    {held : List FwBuffer}
    (hBalanced :
      Lending.Balanced { manager := s.pool, held := held })
    (hFramed :
      exec (SpacePacketFramer.dataIn data context) s =
        (.ok frame, s'))
    (hTracks : Tracks m c)
    (hTracked :
      context.apid.value ∈ track c.tracked context.apid.value)
    (received : FrameContext) :
    ∃ out packet m' count,
      exec (SpacePacketDeframer.dataIn s'.memory frame received)
          m =
        (.ok (.dataOut out packet), m') ∧
      readBytes s'.memory out.data out.size =
        readBytes s.memory data.data data.size ∧
      frame.Narrows out.data out.size ∧
      packet.apid = context.apid.value ∧
      exec (ApidManager.getApidSeqCountIn context.apid.value)
          s.apids =
        (.ok count, s'.apids) ∧
      packet.sequenceCount = count &&& 0x3FFF := by
  rcases (post_framer hBalanced data context).of_ok hFramed with
    ⟨-, ⟨hPos, hLess, hApid⟩, hPointer, hSize, count, hCount,
      hMemory⟩
  generalize hContent :
    readBytes s.memory data.data data.size = content at hMemory
  have hLength : content.length = data.size := by
    rw [← hContent, length_readBytes]
  let header :=
    spacePacketHeader context.apid.value count content.length
  have hPacket :
      readBytes s'.memory frame.data frame.size =
        header.serialize ++ content := by
    have hAll :
        (header.serialize ++ content).length = frame.size := by
      rw [List.length_append, SpacePacketHeader.length_serialize,
        hLength, hSize]
    rw [hMemory, ← hAll]
    exact readBytes_writeBytes _ _ _
  have hMore : spacePacketHeaderSize < frame.size := by
    omega
  have hHeader :
      SpacePacketHeader.deserialize (frame.content s'.memory) =
        some header := by
    rw [(SpacePacketDeframer.header_of_size hPointer hMore).1,
      hPacket, SpacePacketHeader.deserialize_serialize]
  have hData :
      (SpacePacketDeframer.packetLength header).toNat =
        data.size := by
    rw [← hLength] at hPos hLess ⊢
    exact packetDataLength_value hPos hLess _ _
  have hValue :
      SpacePacketDeframer.apidValue header =
        context.apid.value :=
    packetIdentification_value hApid _ _
  have hNumber :
      SpacePacketDeframer.receivedSequenceCount header =
        count &&& 0x3FFF :=
    packetSequenceControl_value _ _ _
  have hFits :
      (SpacePacketDeframer.packetLength header).toNat ≤
        frame.size - spacePacketHeaderSize := by
    omega
  have hValid : context.apid.value ≠ apidInvalidUninitialized := by
    intro hInvalid
    rw [hInvalid] at hApid
    exact absurd hApid (by decide)
  rcases exec_validate hTracks (onWire_of_mask hValid count)
      hTracked with ⟨n, m', c', hValidated, -, -⟩
  refine ⟨SpacePacketDeframer.packetData frame header,
    SpacePacketDeframer.packetContext received header, m', count,
    ?_, ?_, ?_, hValue, hCount, hNumber⟩
  · rw [SpacePacketDeframer.exec_dataIn hMore hHeader,
      if_neg (Nat.not_lt.mpr hFits), hValue, hNumber, hValidated]
    rfl
  · change
      readBytes s'.memory (frame.data + spacePacketHeaderSize)
          (SpacePacketDeframer.packetLength header).toNat = _
    rw [readBytes_part s'.memory frame.data frame.size _ _
        (by omega), hPacket, hData, ← hLength]
    change (List.drop header.serialize.length _).take _ = content
    rw [List.drop_left, List.take_length]
  · exact SpacePacketDeframer.narrows_packetData hMore hFits

/- Three bytes of telemetry. -/
theorem deframes_framed_telemetry :
    ∃ frame s' out packet m',
      exec
          (SpacePacketFramer.dataIn { data := 256, size := 3 }
            { apid := .fwPacketTelem })
          { memory := writeBytes (fun _ => 0) 256 [1, 2, 3]
            pool := commsBufferManager } =
        (.ok frame, s') ∧
      exec (SpacePacketDeframer.dataIn s'.memory frame {}) {} =
        (.ok (.dataOut out packet), m') ∧
      readBytes s'.memory out.data out.size = [1, 2, 3] := by
  rcases sound_comms with ⟨hSound, hFree, hCount⟩
  have hFramed :
      ∃ frame s',
        exec
            (SpacePacketFramer.dataIn { data := 256, size := 3 }
              { apid := .fwPacketTelem })
            { memory := writeBytes (fun _ => 0) 256 [1, 2, 3]
              pool := commsBufferManager } =
          (.ok frame, s') :=
    ⟨_, _, rfl⟩
  rcases hFramed with ⟨frame, s', hFramed⟩
  rcases deframes_framed
      (Lending.balanced_start hSound hFree hCount) hFramed
      ApidManager.tracks_start (by decide) {} with
    ⟨out, packet, m', count, hOut, hRead, -⟩
  refine ⟨frame, s', out, packet, m', hFramed, hOut, ?_⟩
  rw [hRead]
  exact readBytes_writeBytes _ 256 [1, 2, 3]

end LoRaRadio

------------------------------------------------------------
-- Two Ends of a Link
------------------------------------------------------------

namespace LoRaRadio

open Faulting Runs SequenceCounts

/- The managers of a framer and of the deframer it sends to. -/
structure Link where
  sender : ApidManager := {}
  receiver : ApidManager := {}

/- A packet of an APID is sent and received. -/
def Link.step
    (l : Link)
    (apid : UInt16) : Except Fault Link :=
  match exec (ApidManager.getApidSeqCountIn apid) l.sender with
  | (.ok count, sender) =>
      match
        l.receiver.step (.validate apid (count &&& 0x3FFF)) with
      | .ok receiver =>
          .ok { sender := sender, receiver := receiver }
      | .error e => .error e
  | (.error e, _) => .error e

/-
  The counts of the two ends agree, have fourteen bits, and
  nothing has been reported.
-/
structure Link.InStep
    (l : Link)
    (c : SequenceCounts) : Prop where
  sender : Tracks l.sender c
  receiver : Tracks l.receiver c
  lt : ∀ apid, (c.next apid).toNat < 0x4000
  silent : l.receiver.events = []

namespace Link

variable {l : Link}
variable {c : SequenceCounts}
variable {apid : UInt16}

theorem lt_advance
    (hLt : ∀ other, (c.next other).toNat < 0x4000)
    (other : UInt16) :
    ((c.advance apid).next other).toNat < 0x4000 := by
  unfold advance
  dsimp only
  split
  case isFalse hLeft => exact hLt other
  case isTrue hThere =>
  by_cases hSame : other = apid
  · rw [hSame, Function.update_self]
    unfold ApidManager.increment
    rw [UInt16.toNat_mod]
    exact Nat.mod_lt _ (by decide)
  · rw [Function.update_of_ne hSame]
    exact hLt other

/- A count that is in the table passes through its field. -/
theorem mask_of_lt
    {count : UInt16}
    (hLt : count.toNat < 0x4000) :
    count &&& 0x3FFF = count := by
  apply UInt16.toNat_inj.mp
  rw [UInt16.toNat_and]
  change count.toNat &&& (2 ^ 14 - 1) = _
  rw [Nat.and_two_pow_sub_one_eq_mod]
  exact Nat.mod_eq_of_lt hLt

theorem step_inStep
    (hInStep : l.InStep c)
    (hValid : apid ≠ apidInvalidUninitialized)
    (hTracked : apid ∈ track c.tracked apid) :
    ∃ l', l.step apid = .ok l' ∧ l'.InStep (c.advance apid) := by
  have hNumber : c.number apid = c.next apid := if_pos hTracked
  have hMask : c.next apid &&& 0x3FFF = c.next apid :=
    mask_of_lt (hInStep.lt apid)
  rcases ApidManager.exec_getAndIncrementSeqCount hInStep.sender
      hValid with ⟨sender, hGet, hSender, -⟩
  rcases ApidManager.step_expected hInStep.receiver hValid
      (.inl hNumber.symm) with
    ⟨receiver, hStep, hReceiver, hEvents⟩
  refine ⟨{ sender := sender, receiver := receiver }, ?_, ?_⟩
  · unfold Link.step ApidManager.getApidSeqCountIn
    rw [hGet]
    dsimp only
    rw [hNumber, hMask, hStep]
  · exact
      { sender := hSender
        receiver := hReceiver
        lt := lt_advance hInStep.lt
        silent := (hEvents hTracked).trans hInStep.silent }

/- The packet of an APID without an entry is not expected. -/
theorem step_fails
    (hInStep : l.InStep c)
    (hValid : apid ≠ apidInvalidUninitialized)
    (hLeft : apid ∉ track c.tracked apid) :
    l.step apid = .error (.assertion "false") := by
  have hNumber : c.number apid = 0xFFFF := if_neg hLeft
  rcases ApidManager.exec_getAndIncrementSeqCount hInStep.sender
      hValid with ⟨sender, hGet, -, -⟩
  have hOther : (0x3FFF : UInt16) ≠ c.number apid := by
    rw [hNumber]
    decide
  have hLost :
      l.receiver.step (.validate apid 0x3FFF) =
        .error (.assertion "false") :=
    ApidManager.step_lost hInStep.receiver hValid hOther
      (by decide) hLeft
  have hMask : (0xFFFF : UInt16) &&& 0x3FFF = 0x3FFF := by
    decide
  unfold Link.step ApidManager.getApidSeqCountIn
  rw [hGet]
  dsimp only
  rw [hNumber, hMask, hLost]

/- The APIDs that are tracked after packets of some APIDs. -/
theorem attempt_iff
    {apids : List UInt16}
    (hInStep : l.InStep c)
    (hValid : ∀ apid ∈ apids, apid ≠ apidInvalidUninitialized) :
    (∃ l', attempt Link.step l apids = .ok l' ∧
      l'.receiver.events = []) ↔
      ∀ apid ∈ apids, apid ∈ apids.foldl track c.tracked := by
  induction apids generalizing l c with
  | nil =>
      exact iff_of_true ⟨l, rfl, hInStep.silent⟩
        fun _ hMem => absurd hMem List.not_mem_nil
  | cons apid apids ih =>
      rcases List.forall_mem_cons.mp hValid with ⟨hHere, hRest⟩
      rw [List.forall_mem_cons, List.foldl_cons]
      unfold attempt
      by_cases hTracked : apid ∈ track c.tracked apid
      · rcases step_inStep hInStep hHere hTracked with
          ⟨l', hStep, hAfter⟩
        have hStill :
            apid ∈ apids.foldl track (track c.tracked apid) :=
          mem_foldl_track hTracked
        rw [hStep]
        dsimp only
        rw [ih hAfter hRest]
        exact (and_iff_right hStill).symm
      · have hFull := full_of_not_mem_track hTracked
        rw [step_fails hInStep hHere hTracked]
        dsimp only
        apply iff_of_false
        · rintro ⟨_, hOk, -⟩
          cases hOk
        · rintro ⟨hThere, -⟩
          rw [track_of_full hFull.1,
            foldl_track_full hFull.1] at hThere
          exact hFull.2 hThere

end Link

/-
  What one manager numbers another finds in step, packet for
  packet, exactly if there are no more APIDs than entries.
-/
theorem link_silent_iff
    {apids : List UInt16}
    (hValid : ∀ apid ∈ apids, apid ≠ apidInvalidUninitialized) :
    (∃ l, attempt Link.step {} apids = .ok l ∧
      l.receiver.events = []) ↔
      apids.eraseDups.length ≤ maxTrackedApids := by
  have hStart : Link.InStep {} {} :=
    { sender := ApidManager.tracks_start
      receiver := ApidManager.tracks_start
      lt := fun _ => Nat.zero_lt_succ 0x3FFF
      silent := rfl }
  rw [Link.attempt_iff hStart hValid]
  exact all_tracked_iff

/- Two APIDs that take turns. -/
theorem link_silent_iff_twoApids :
    ∃ l, attempt Link.step {} [0, 3, 0] = .ok l ∧
      l.receiver.events = [] := by
  have hValid :
      ∀ apid ∈ [(0 : UInt16), 3, 0],
        apid ≠ apidInvalidUninitialized := by
    intro apid hMem
    simp only [List.mem_cons, List.not_mem_nil, or_false] at hMem
    rcases hMem with rfl | rfl | rfl
    · exact UInt16.toNat_inj.not.mp (by decide)
    · exact UInt16.toNat_inj.not.mp (by decide)
    · exact UInt16.toNat_inj.not.mp (by decide)
  have hFew :
      [(0 : UInt16), 3, 0].eraseDups.length ≤ maxTrackedApids := by
    decide
  exact (link_silent_iff hValid).mpr hFew

end LoRaRadio
