import LoRaRadio.Fprime.Buffer
import LoRaRadio.Radio.Hal

/-
  `Svc::Ccsds::TmFramer`: fixed-size telemetry frames.

  A frame is a header, the data handed in, an idle packet
  that fills the data field, and a checksum over all of it.

  Main declarations:
    * `TmFramer`
    * `TmFramer.dataIn`
    * `TmFramer.length_frame`
    * `TmFramer.dataIn_ok`
    * `TmFramer.dataIn_of_room`
-/

------------------------------------------------------------
-- Checksum
------------------------------------------------------------

namespace LoRaRadio

/- Two bytes of a word, most significant first. -/
def bigEndian
    (w : UInt16) : List UInt8 :=
  [hiByte w, loByte w]

namespace Crc16

/- One round of `init_crcccitt_tab`. -/
def tableRound
    (crc c : UInt16) : UInt16 × UInt16 :=
  let shifted :=
    if (crc ^^^ c) &&& 0x8000 ≠ 0 then
      (crc <<< 1) ^^^ 0x1021
    else
      crc <<< 1
  (shifted, c <<< 1)

/- An entry of `crc_tabccitt`. -/
def table
    (i : UInt8) : UInt16 :=
  ((List.range 8).foldl (fun r _ => tableRound r.1 r.2)
    (0, i.toUInt16 <<< 8)).1

/- `update_crc_ccitt` -/
def update
    (crc : UInt16)
    (c : UInt8) : UInt16 :=
  (crc <<< 8) ^^^ table ((crc >>> 8).toUInt8 ^^^ c)

/- `CRC16::compute` -/
def compute
    (buffer : List UInt8) : UInt16 :=
  buffer.foldl update 0xFFFF

end Crc16

end LoRaRadio

------------------------------------------------------------
-- Frames
------------------------------------------------------------

namespace LoRaRadio

/- `ComCfg::TmFrameFixedSize` -/
def tmFrameFixedSize : Nat := 1024

/- `TMHeader::SERIALIZED_SIZE` -/
def tmHeaderSize : Nat := 6

/- `TMTrailer::SERIALIZED_SIZE` -/
def tmTrailerSize : Nat := 2

/- `SpacePacketHeader::SERIALIZED_SIZE` -/
def spacePacketHeaderSize : Nat := 6

/- `ComCfg::SpacecraftId` -/
def spacecraftId : UInt16 := 0x0044

/- `BufferOwnershipState` -/
inductive BufferOwnershipState
  | notOwned
  | owned
deriving DecidableEq, Repr

/-
  The members of `TmFramer`.  The frame buffer is the memory
  from `frameBuffer` on.
-/
structure TmFramer where
  frameBuffer : Nat
  bufferState : BufferOwnershipState := .owned
  masterFrameCount : UInt8 := 0
  virtualFrameCount : UInt8 := 0
deriving DecidableEq, Repr

namespace TmFramer

variable (f : TmFramer)

/- The serialized `TMHeader`. -/
def header
    (context : FrameContext) : List UInt8 :=
  let globalVcId :=
    (context.vcId.toUInt16 <<< 1) ||| (spacecraftId <<< 4)
  let dataFieldStatus := (0x3 : UInt16) <<< 11
  bigEndian globalVcId ++
    [f.masterFrameCount, f.virtualFrameCount] ++
    bigEndian dataFieldStatus

/- The size of the idle packet after `content` bytes. -/
def idlePacketSize
    (content : Nat) : Nat :=
  tmFrameFixedSize - tmTrailerSize - (tmHeaderSize + content)

/- `fill_with_idle_packet` -/
def idlePacket
    (content : Nat) : List UInt8 :=
  let size := idlePacketSize content
  let lengthToken :=
    UInt16.ofNat (size - spacePacketHeaderSize - 1)
  let packetSequenceControl := (0x3 : UInt16) <<< 14
  bigEndian 0x07FF ++ bigEndian packetSequenceControl ++
    bigEndian lengthToken ++
    List.replicate (size - spacePacketHeaderSize) 0x44

/- A frame up to its checksum. -/
def body
    (context : FrameContext)
    (data : List UInt8) : List UInt8 :=
  f.header context ++ data ++ idlePacket data.length

def frame
    (context : FrameContext)
    (data : List UInt8) : List UInt8 :=
  f.body context data ++
    bigEndian (Crc16.compute (f.body context data))

/-
  A frame has the fixed size if its data leaves room for an
  idle packet.
-/
theorem length_frame
    (context : FrameContext)
    (data : List UInt8)
    (hRoom : 7 ≤ idlePacketSize data.length) :
    (f.frame context data).length = tmFrameFixedSize := by
  have hSize : idlePacketSize data.length =
      1016 - data.length := by
    unfold idlePacketSize tmFrameFixedSize tmTrailerSize
      tmHeaderSize
    omega
  rw [hSize] at hRoom
  simp only [frame, body, header, idlePacket, bigEndian,
    List.length_append, List.length_cons, List.length_nil,
    List.length_replicate, hSize, spacePacketHeaderSize,
    tmFrameFixedSize]
  omega

end TmFramer

end LoRaRadio

------------------------------------------------------------
-- Handlers
------------------------------------------------------------

namespace LoRaRadio

namespace TmFramer

/-
  `dataIn_handler` up to its call of `dataOut`: the framer,
  the memory with the frame in it and the frame's buffer.
-/
def dataIn
    (f : TmFramer)
    (memory : Memory)
    (data : FwBuffer)
    (context : FrameContext) :
    Except Fault (TmFramer × Memory × FwBuffer) :=
  let content := readBytes memory data.data data.size
  if data.size >
      tmFrameFixedSize - tmHeaderSize - tmTrailerSize then
    .error (.assertion "data.getSize()")
  else if f.bufferState ≠ .owned then
    .error (.assertion "this->m_bufferState")
  else if idlePacketSize data.size < 7 then
    .error (.assertion "idlePacketSize >= 7")
  else
    .ok
      ({ f with
          bufferState := .notOwned
          masterFrameCount := f.masterFrameCount + 1
          virtualFrameCount := f.virtualFrameCount + 1 },
        writeBytes memory f.frameBuffer
          (f.frame context content),
        { data := f.frameBuffer
          size := tmFrameFixedSize })

/- `dataReturnIn_handler` -/
def dataReturnIn
    (f : TmFramer)
    (frameBuffer : FwBuffer) : Except Fault TmFramer :=
  if f.frameBuffer ≤ frameBuffer.data ∧
      frameBuffer.data < f.frameBuffer + tmFrameFixedSize then
    .ok { f with bufferState := .owned }
  else
    .error (.assertion "frameBuffer.getData()")

/-
  The buffer handed out holds a frame around the data, and
  the frame fills the frame buffer.
-/
theorem dataIn_ok
    {f f' : TmFramer}
    {memory memory' : Memory}
    {data frame : FwBuffer}
    {context : FrameContext}
    (hOut :
      f.dataIn memory data context =
        .ok (f', memory', frame)) :
    frame.size = tmFrameFixedSize ∧
      readBytes memory' frame.data frame.size =
        f.frame context
          (readBytes memory data.data data.size) := by
  unfold dataIn at hOut
  dsimp only at hOut
  split at hOut
  · cases hOut
  · split at hOut
    · cases hOut
    · split at hOut
      · cases hOut
      · next hRoom =>
          cases hOut
          refine ⟨rfl, ?_⟩
          have hLength :=
            f.length_frame context
              (readBytes memory data.data data.size)
              (by rw [length_readBytes]; omega)
          have hRead :=
            readBytes_writeBytes memory f.frameBuffer
              (f.frame context
                (readBytes memory data.data data.size))
          rwa [hLength] at hRead

/-
  A framer that owns its frame buffer frames any data that
  leaves room for an idle packet, and lends the buffer.
-/
theorem dataIn_of_room
    {f : TmFramer}
    {memory : Memory}
    {data : FwBuffer}
    {context : FrameContext}
    (hOwned : f.bufferState = .owned)
    (hRoom : 7 ≤ idlePacketSize data.size) :
    ∃ f' memory' frame,
      f.dataIn memory data context =
          .ok (f', memory', frame) ∧
        f'.bufferState = .notOwned ∧
        f'.frameBuffer = f.frameBuffer ∧
        frame.data = f.frameBuffer := by
  have hSize :
      ¬ data.size >
        tmFrameFixedSize - tmHeaderSize - tmTrailerSize := by
    unfold idlePacketSize at hRoom
    omega
  have hIdle : ¬ idlePacketSize data.size < 7 := by
    omega
  unfold dataIn
  simp only [hSize, hOwned, hIdle, ne_eq, not_true_eq_false,
    if_false]
  exact ⟨_, _, _, rfl, rfl, rfl, rfl⟩

end TmFramer

end LoRaRadio
