import LoRaRadio.Fprime.BufferManager
import LoRaRadio.Fprime.TcFrames

/-
  `Svc::Ccsds::TcDeframer`: the data of telecommand frames.

  Main declarations:
    * `TcDeframer.dataIn`
    * `deframes_tcFrame` and `deframer_fails`
    * `deframed_iff`
-/

------------------------------------------------------------
-- The Component
------------------------------------------------------------

namespace LoRaRadio

/- `FrameError` -/
inductive FrameError
  | spInvalidLength
  | tcInvalidScid
  | tcInvalidLength
  | tcInvalidVcid
  | tcInvalidCrc
deriving DecidableEq, Repr

/- The events of `TcDeframer`, with their arguments. -/
inductive TcDeframerEvent
  | invalidSpacecraftId (transmitted configured : UInt16)
  | invalidFrameLength (transmitted : UInt16) (actual : Nat)
  | invalidVcId (transmitted configured : UInt16)
  | invalidCrc (transmitted computed : UInt16)
deriving DecidableEq, Repr

/-
  What becomes of a frame: its data goes on, or the frame
  goes back with an event and an error.
-/
inductive Deframed (ε : Type)
  | dataOut (data : FwBuffer) (context : FrameContext)
  | dataReturnOut
      (event : ε)
      (error : FrameError)
      (data : FwBuffer)
      (context : FrameContext)
deriving DecidableEq, Repr

/- What the deserializer of a buffer reads. -/
def FwBuffer.content
    (b : FwBuffer)
    (memory : Memory) : List UInt8 :=
  if b.isValid then readBytes memory b.data b.size else []

/- The members of `TcDeframer`. -/
structure TcDeframer where
  vcId : UInt16
  spacecraftId : UInt16 := LoRaRadio.spacecraftId
  acceptAllVcid : Bool := true
deriving DecidableEq, Repr

namespace TcDeframer

variable (d : TcDeframer)

/- `configure` -/
def configure
    (vcId spacecraftId : UInt16)
    (acceptAllVcid : Bool) : TcDeframer where
  vcId := vcId
  spacecraftId := spacecraftId
  acceptAllVcid := acceptAllVcid

/-
  The check of the frame error control field, of a frame
  with a length of `total`.  For a length of one the number
  of bytes the checksum is taken of wraps around, and the
  bytes of the buffer are not enough.  The event reports the
  two checksums in each other's place.
-/
def checkCrc
    (memory : Memory)
    (data : FwBuffer)
    (context : FrameContext)
    (total : UInt16) :
    Except Fault (Deframed TcDeframerEvent) :=
  let length := (total.toUInt32 - 2).toNat
  let offset := (total.toUInt64 - 2).toNat
  let content := data.content memory
  let rest :=
    if offset ≤ content.length then content.drop offset
    else content
  if data.size < length then
    .error (.outOfBounds "CRC16::compute")
  else
    let computed :=
      Crc16.compute (readBytes memory data.data length)
    match deserializeFecf rest with
    | none =>
        .error (.assertion "status == Fw::FW_SERIALIZE_OK")
    | some transmitted =>
        if transmitted ≠ computed then
          .ok (.dataReturnOut (.invalidCrc computed transmitted)
            .tcInvalidCrc data context)
        else
          .ok (.dataOut
            { data with
              data := data.data + tcHeaderSize
              size := (total.toUInt64 - 5 - 2).toNat }
            context)

/- `dataIn_handler` -/
def dataIn
    (memory : Memory)
    (data : FwBuffer)
    (context : FrameContext) :
    Except Fault (Deframed TcDeframerEvent) :=
  if data.size ≤ tcHeaderSize + tcTrailerSize then
    .error (.assertion "data.getSize()")
  else
    match TCHeader.deserialize (data.content memory) with
    | none =>
        .error (.assertion "status == Fw::FW_SERIALIZE_OK")
    | some header =>
        let total := header.lengthField + 1
        let vcId :=
          ((header.vcIdAndLength &&& 0xFC00) >>> 10).toUInt8
        let scid := header.flagsAndScId &&& 0x03FF
        if scid ≠ d.spacecraftId then
          .ok (.dataReturnOut
            (.invalidSpacecraftId scid d.spacecraftId)
            .tcInvalidScid data context)
        else if data.size < total.toNat then
          .ok (.dataReturnOut
            (.invalidFrameLength total data.size)
            .tcInvalidLength data context)
        else if !d.acceptAllVcid ∧ vcId.toUInt16 ≠ d.vcId then
          .ok (.dataReturnOut
            (.invalidVcId vcId.toUInt16 d.vcId)
            .tcInvalidVcid data context)
        else
          checkCrc memory data context total

end TcDeframer

variable {vcId : UInt16}
variable {sequence : UInt8}
variable {payload : List UInt8}
variable {memory : Memory}
variable {data : FwBuffer}

/- Part of what a buffer points to. -/
theorem readBytes_part
    (memory : Memory)
    (address size offset part : Nat)
    (hFits : offset + part ≤ size) :
    readBytes memory (address + offset) part =
      ((readBytes memory address size).drop offset).take
        part := by
  apply List.ext_getElem
  · rw [List.length_take, List.length_drop, length_readBytes,
      length_readBytes]
    omega
  · intro i _ _
    simp only [readBytes, List.getElem_map, List.getElem_range,
      List.getElem_take, List.getElem_drop]
    congr 1
    omega

/- The lengths computed of the length of a frame. -/
theorem lengths_of_total
    {total : UInt16}
    {size : Nat}
    (hTotal : total.toNat = size + 7) :
    (total.toUInt32 - 2).toNat = size + 5 ∧
      (total.toUInt64 - 2).toNat = size + 5 ∧
      (total.toUInt64 - 5 - 2).toNat = size := by
  have hLess : (2 : UInt32) ≤ total.toUInt32 := by
    rw [UInt32.le_iff_toNat_le, UInt16.toNat_toUInt32, hTotal]
    exact Nat.le_add_left _ _
  have hLess' : (2 : UInt64) ≤ total.toUInt64 := by
    rw [UInt64.le_iff_toNat_le, UInt16.toNat_toUInt64, hTotal]
    exact Nat.le_add_left _ _
  have hFive : (5 : UInt64) ≤ total.toUInt64 := by
    rw [UInt64.le_iff_toNat_le, UInt16.toNat_toUInt64, hTotal]
    change 5 ≤ size + 7
    omega
  have hRest : (total.toUInt64 - 5).toNat = size + 2 := by
    rw [UInt64.toNat_sub_of_le _ _ hFive,
      UInt16.toNat_toUInt64, hTotal]
    rfl
  have hTwo : (2 : UInt64) ≤ total.toUInt64 - 5 := by
    rw [UInt64.le_iff_toNat_le, hRest]
    exact Nat.le_add_left _ _
  refine ⟨?_, ?_, ?_⟩
  · rw [UInt32.toNat_sub_of_le _ _ hLess,
      UInt16.toNat_toUInt32, hTotal]
    rfl
  · rw [UInt64.toNat_sub_of_le _ _ hLess',
      UInt16.toNat_toUInt64, hTotal]
    rfl
  · rw [UInt64.toNat_sub_of_le _ _ hTwo, hRest]
    rfl

theorem deserializeFecf_bigEndian
    (w : UInt16) :
    deserializeFecf (bigEndian w) = some w :=
  congrArg some (word_hiByte_loByte w)

/- The checksum of a frame that was sent is found right. -/
theorem checkCrc_tcFrame
    (hRead : data.content memory = tcFrame vcId sequence payload)
    (hContent :
      readBytes memory data.data data.size =
        tcFrame vcId sequence payload)
    {total : UInt16}
    (hTotal : total.toNat = payload.length + 7)
    (context : FrameContext) :
    TcDeframer.checkCrc memory data context total =
      .ok (.dataOut
        { data with
          data := data.data + tcHeaderSize
          size := payload.length }
        context) := by
  rcases lengths_of_total hTotal with ⟨hLength, hOffset, hSize⟩
  let body :=
    (tcFrameHeader vcId sequence payload.length).serialize ++
      payload
  have hBody : body.length = payload.length + 5 := by
    rw [List.length_append, TCHeader.length_serialize]
    exact Nat.add_comm _ _
  have hFrame :
      tcFrame vcId sequence payload =
        body ++ bigEndian (Crc16.compute body) := rfl
  have hAll : data.size = payload.length + 7 := by
    have hLengths := congrArg List.length hContent
    rwa [length_readBytes, length_tcFrame] at hLengths
  have hComputed :
      readBytes memory data.data (payload.length + 5) = body := by
    have hPart :=
      readBytes_part memory data.data data.size 0
        (payload.length + 5) (by omega)
    rw [Nat.add_zero] at hPart
    rw [hPart, hContent, List.drop_zero, hFrame, ← hBody,
      List.take_left]
  have hThere :
      payload.length + 5 ≤
        (tcFrame vcId sequence payload).length := by
    rw [length_tcFrame]
    omega
  have hTrailer :
      (tcFrame vcId sequence payload).drop
          (payload.length + 5) =
        bigEndian (Crc16.compute body) := by
    rw [hFrame, ← hBody, List.drop_left]
  have hInside : ¬ data.size < payload.length + 5 := by omega
  unfold TcDeframer.checkCrc
  rw [hLength, hOffset, hSize]
  dsimp only
  rw [if_neg hInside, hComputed, hRead, if_pos hThere,
    hTrailer, deserializeFecf_bigEndian]
  exact if_neg fun hNe => hNe rfl

/- The channel field of a header has six bits. -/
theorem vcIdField_tcFrameHeader
    {size : Nat}
    (hSize : size ≤ tcDataMax) :
    (((tcFrameHeader vcId sequence size).vcIdAndLength &&&
        0xFC00) >>> 10).toUInt8.toUInt16 =
      vcId &&& 0x3F := by
  unfold tcDataMax at hSize
  have hLow : (UInt16.ofNat (size + 6)).toNat >>> 10 = 0 := by
    rw [UInt16.toNat_ofNat', Nat.shiftRight_eq_div_pow]
    omega
  have hHigh :
      (vcId <<< 10).toNat >>> 10 = vcId.toNat % 2 ^ 6 := by
    have hBound := vcId.toNat_lt
    rw [UInt16.toNat_shiftLeft]
    change (vcId.toNat <<< 10 % 2 ^ 16) >>> 10 = _
    rw [Nat.shiftLeft_eq, Nat.shiftRight_eq_div_pow]
    omega
  have hField :
      (((vcId <<< 10 ||| UInt16.ofNat (size + 6)) &&& 0xFC00) >>>
          10).toNat =
        vcId.toNat % 2 ^ 6 := by
    rw [UInt16.toNat_shiftRight, UInt16.toNat_and, UInt16.toNat_or]
    change ((_ ||| _) &&& 0xFC00) >>> 10 = _
    rw [Nat.shiftRight_and_distrib, Nat.shiftRight_or_distrib,
      hLow, hHigh, Nat.or_zero]
    change _ &&& (2 ^ 6 - 1) = _
    rw [Nat.and_two_pow_sub_one_eq_mod, Nat.mod_mod]
  apply UInt16.toNat_inj.mp
  unfold tcFrameHeader
  rw [UInt8.toNat_toUInt16, UInt16.toNat_toUInt8, hField,
    UInt16.toNat_and]
  change _ = _ &&& (2 ^ 6 - 1)
  rw [Nat.and_two_pow_sub_one_eq_mod]
  omega

/-
  The data of a frame that holds some goes on, by any
  deframer that accepts the frame's channel.
-/
theorem deframes_tcFrame
    {d : TcDeframer}
    (hScid : d.spacecraftId = spacecraftId)
    (hVcid :
      d.acceptAllVcid = true ∨ d.vcId = vcId &&& 0x3F)
    (hPointer : data.data ≠ 0)
    (hLength : payload.length ≤ tcDataMax)
    (hContent :
      readBytes memory data.data data.size =
        tcFrame vcId sequence payload)
    (hData : payload ≠ [])
    (context : FrameContext) :
    ∃ out,
      d.dataIn memory data context = .ok (.dataOut out context) ∧
        out.context = data.context ∧
        data.Narrows out.data out.size ∧
        readBytes memory out.data out.size = payload := by
  have hSize : data.size = payload.length + 7 := by
    have hLengths := congrArg List.length hContent
    rwa [length_readBytes, length_tcFrame] at hLengths
  have hSome := List.length_pos_iff.mpr hData
  have hRead :
      data.content memory = tcFrame vcId sequence payload := by
    unfold FwBuffer.content FwBuffer.isValid
    rw [if_pos, hContent]
    rw [Bool.and_eq_true, bne_iff_ne, decide_eq_true_eq]
    exact ⟨hPointer, by omega⟩
  let header := tcFrameHeader vcId sequence payload.length
  have hField :
      header.lengthField.toNat = payload.length + 6 :=
    lengthField_tcFrameHeader hLength
  have hTotal :
      (header.lengthField + 1).toNat = payload.length + 7 := by
    unfold tcDataMax at hLength
    rw [UInt16.toNat_add, hField]
    change (payload.length + 6 + 1) % 2 ^ 16 = _
    omega
  have hNotShort :
      ¬ data.size ≤ tcHeaderSize + tcTrailerSize := by
    unfold tcHeaderSize tcTrailerSize
    omega
  have hThere : ¬ data.size < (header.lengthField + 1).toNat := by
    omega
  have hOurs :
      ¬ header.flagsAndScId &&& 0x03FF ≠ d.spacecraftId := by
    have hToken :
        header.flagsAndScId &&& 0x03FF = spacecraftId := by
      change
        CcsdsTcFrameDetector.expectedFlagsAndScIdToken &&&
          0x03FF = spacecraftId
      decide
    rw [hScid]
    exact fun hNe => hNe hToken
  have hAccepted :
      ¬ (!d.acceptAllVcid ∧
        ((header.vcIdAndLength &&& 0xFC00) >>>
            10).toUInt8.toUInt16 ≠ d.vcId) := by
    rintro ⟨hSome, hOther⟩
    rcases hVcid with hAll | hSame
    · rw [hAll] at hSome
      cases hSome
    · exact hOther
        ((vcIdField_tcFrameHeader hLength).trans hSame.symm)
  refine ⟨{ data with
      data := data.data + tcHeaderSize
      size := payload.length }, ?_, rfl, ?_, ?_⟩
  · unfold TcDeframer.dataIn
    rw [if_neg hNotShort, hRead, deserialize_tcFrame]
    dsimp only
    rw [if_neg hOurs, if_neg hThere, if_neg hAccepted]
    exact checkCrc_tcFrame hRead hContent hTotal context
  · refine ⟨Nat.le_add_right _ _, ?_, .inr ?_⟩
    · change data.data + 5 + payload.length ≤ _
      omega
    · change data.data + 5 < _
      omega
  · change readBytes memory (data.data + 5) payload.length = _
    rw [readBytes_part memory data.data data.size 5 _ (by omega),
      hContent]
    change ((header.serialize ++ payload ++ _).drop 5).take _ = _
    rw [List.append_assoc]
    exact List.take_left

/- A frame without data fails the deframer's assertion. -/
theorem deframer_fails
    {d : TcDeframer}
    (hContent :
      readBytes memory data.data data.size =
        tcFrame vcId sequence [])
    (context : FrameContext) :
    d.dataIn memory data context =
      .error (.assertion "data.getSize()") := by
  have hSize : data.size = 7 := by
    have hLengths := congrArg List.length hContent
    rwa [length_readBytes, length_tcFrame] at hLengths
  unfold TcDeframer.dataIn
  exact if_pos (Nat.le_of_eq hSize)

/-
  A frame is deframed to what it was put together around,
  exactly if that is not empty.
-/
theorem deframed_iff
    {d : TcDeframer}
    (hScid : d.spacecraftId = spacecraftId)
    (hVcid :
      d.acceptAllVcid = true ∨ d.vcId = vcId &&& 0x3F)
    (hPointer : data.data ≠ 0)
    (hLength : payload.length ≤ tcDataMax)
    (hContent :
      readBytes memory data.data data.size =
        tcFrame vcId sequence payload)
    (context : FrameContext) :
    (∃ out,
      d.dataIn memory data context = .ok (.dataOut out context) ∧
        out.context = data.context ∧
        data.Narrows out.data out.size ∧
        readBytes memory out.data out.size = payload) ↔
      payload ≠ [] := by
  constructor
  · rintro ⟨out, hOut, -⟩ rfl
    rw [deframer_fails hContent] at hOut
    cases hOut
  · exact fun hData =>
      deframes_tcFrame hScid hVcid hPointer hLength hContent
        hData context

/- A frame around one byte, of the one channel accepted. -/
theorem deframed_iff_byte :
    ∃ out,
      ({ vcId := 1
         acceptAllVcid := false } : TcDeframer).dataIn
          (writeBytes (fun _ => 0) 16 (tcFrame 1 0 [5]))
          { data := 16, size := 8 } {} =
        .ok (.dataOut out {}) ∧
      readBytes (writeBytes (fun _ => 0) 16 (tcFrame 1 0 [5]))
          out.data out.size =
        [5] := by
  have hContent :
      readBytes (writeBytes (fun _ => 0) 16 (tcFrame 1 0 [5])) 16
          8 =
        tcFrame 1 0 [5] :=
    readBytes_writeBytes _ 16 (tcFrame 1 0 [5])
  rcases
      (@deframed_iff 1 0 [5] _ { data := 16, size := 8 }
        { vcId := 1, acceptAllVcid := false } rfl
        (.inr (by decide)) (by decide) (by decide) hContent
        {}).mpr (by decide) with
    ⟨out, hOut, -, -, hRead⟩
  exact ⟨out, hOut, hRead⟩

end LoRaRadio
