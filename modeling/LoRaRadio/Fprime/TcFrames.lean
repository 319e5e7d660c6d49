import LoRaRadio.Fprime.Crc16
import LoRaRadio.Fprime.FrameAccumulator

/-
  Telecommand transfer frames, and how they are found.

  `CcsdsTcFrameDetector` looks at the bytes that wait in the
  accumulator's ring.  It finds the frames a ground station
  sends and no others, and fails an assertion at a header
  that tells of a frame of one byte.

  Main declarations:
    * `CcsdsTcFrameDetector.detect` and `tcVerdict`
    * `CcsdsTcFrameDetector.detects_tcVerdict`
    * `CcsdsTcFrameDetector.detect_fails_iff`
    * `tcVerdict_tcFrame` and `recognized_iff_tcFrame`
    * `burst_detected`
    * `tcFrames_found` and `fails_malformed`
-/

------------------------------------------------------------
-- Headers and Trailers
------------------------------------------------------------

namespace LoRaRadio

/- `TCHeader::SERIALIZED_SIZE` -/
def tcHeaderSize : Nat := 5

/- `TCTrailer::SERIALIZED_SIZE` -/
def tcTrailerSize : Nat := 2

/- `TCHeader` -/
structure TCHeader where
  flagsAndScId : UInt16
  vcIdAndLength : UInt16
  frameSequenceNum : UInt8
deriving DecidableEq, Repr

namespace TCHeader

def serialize
    (h : TCHeader) : List UInt8 :=
  bigEndian h.flagsAndScId ++ bigEndian h.vcIdAndLength ++
    [h.frameSequenceNum]

/- The header at the front of some bytes. -/
def deserialize : List UInt8 → Option TCHeader
| a :: b :: c :: d :: e :: _ =>
    some
      { flagsAndScId := word a b
        vcIdAndLength := word c d
        frameSequenceNum := e }
| _ => none

/- The length field, which is one less than the length. -/
def lengthField
    (h : TCHeader) : UInt16 :=
  h.vcIdAndLength &&& 0x03FF

/- The length of the frame: the field and one. -/
def frameLength
    (h : TCHeader) : Nat :=
  h.lengthField.toNat + 1

end TCHeader

/- The field of a `TCTrailer` at the front of some bytes. -/
def deserializeFecf : List UInt8 → Option UInt16
| a :: b :: _ => some (word a b)
| _ => none

namespace TCHeader

variable {xs ys : List UInt8}
variable {h : TCHeader}

theorem frameLength_le
    (h : TCHeader) :
    h.frameLength ≤ 1024 := by
  have hMask :
      h.lengthField.toNat = h.vcIdAndLength.toNat % 2 ^ 10 := by
    unfold lengthField
    rw [UInt16.toNat_and]
    exact Nat.and_two_pow_sub_one_eq_mod _ 10
  unfold frameLength
  omega

theorem deserialize_of_length
    (hLength : tcHeaderSize ≤ xs.length) :
    ∃ h, deserialize xs = some h := by
  unfold tcHeaderSize at hLength
  rcases xs with _ | ⟨a, _ | ⟨b, _ | ⟨c, _ | ⟨d, _ | ⟨e, rest⟩⟩⟩⟩⟩
  case cons.cons.cons.cons.cons => exact ⟨_, rfl⟩
  all_goals
    simp only [List.length_cons, List.length_nil] at hLength
    omega

/-
  The bytes a header was read from are those it is written
  as.
-/
theorem deserialize_some :
    deserialize xs = some h ↔
      ∃ rest, xs = h.serialize ++ rest := by
  constructor
  · intro hSome
    rcases xs with
      _ | ⟨a, _ | ⟨b, _ | ⟨c, _ | ⟨d, _ | ⟨e, rest⟩⟩⟩⟩⟩
    case cons.cons.cons.cons.cons =>
      cases hSome
      unfold serialize
      rw [bigEndian_word, bigEndian_word]
      exact ⟨rest, rfl⟩
    all_goals cases hSome
  · rintro ⟨rest, rfl⟩
    change
      some
        { flagsAndScId :=
            word (hiByte h.flagsAndScId) (loByte h.flagsAndScId)
          vcIdAndLength :=
            word (hiByte h.vcIdAndLength)
              (loByte h.vcIdAndLength)
          frameSequenceNum := h.frameSequenceNum } = some h
    rw [word_hiByte_loByte, word_hiByte_loByte]

@[simp] theorem length_serialize
    (h : TCHeader) :
    h.serialize.length = tcHeaderSize := rfl

theorem deserialize_append
    (hSome : deserialize xs = some h)
    (ys : List UInt8) :
    deserialize (xs ++ ys) = some h := by
  rcases deserialize_some.mp hSome with ⟨rest, rfl⟩
  rw [List.append_assoc]
  exact deserialize_some.mpr ⟨_, rfl⟩

theorem deserialize_take
    (hSome : deserialize xs = some h)
    {size : Nat}
    (hSize : tcHeaderSize ≤ size) :
    deserialize (xs.take size) = some h := by
  rcases deserialize_some.mp hSome with ⟨rest, rfl⟩
  have hFront : h.serialize.take size = h.serialize :=
    List.take_of_length_le hSize
  rw [List.take_append, hFront]
  exact deserialize_some.mpr ⟨_, rfl⟩

end TCHeader

end LoRaRadio

------------------------------------------------------------
-- Detection
------------------------------------------------------------

namespace LoRaRadio

open Scanning

namespace CcsdsTcFrameDetector

variable {n : Nat} [NeZero n]

/- `m_expectedFlagsAndScIdToken` -/
def expectedFlagsAndScIdToken : UInt16 :=
  ((0x1 : UInt16) <<< 13) ||| spacecraftId

/- The loop that computes the checksum, from byte `i` on. -/
def crcLoop
    (data : CircularBuffer n) :
    Nat → Nat → UInt16 → Except Fault UInt16
| 0, _, crc => .ok crc
| rounds + 1, i, crc =>
    let byte := data.peek 1 i
    if byte.1 = .ok then
      crcLoop data rounds (i + 1)
        (Crc16.update crc (byte.2.headD 0))
    else
      .error (.assertion "status == Fw::FW_SERIALIZE_OK")

/-
  `detect`, from the computation of the checksum on.  The
  number of bytes it is computed of has 16 bits.
-/
def checkFrame
    (data : CircularBuffer n)
    (expectedFrameLength : Nat) :
    Except Fault (DetectStatus × Nat) := do
  let dataToCrcLength :=
    (UInt64.ofNat expectedFrameLength - 2).toUInt16.toNat
  let computedFecf ← crcLoop data dataToCrcLength 0 0xFFFF
  let trailerData := data.peek tcTrailerSize dataToCrcLength
  if trailerData.1 ≠ .ok then
    return (.noFrameDetected, 0)
  match deserializeFecf trailerData.2 with
  | none => .error (.assertion "status == Fw::FW_SERIALIZE_OK")
  | some transmittedFecf =>
      if transmittedFecf ≠ computedFecf then
        return (.noFrameDetected, 0)
      return (.frameDetected, expectedFrameLength)

def detect : FrameDetector n := fun data => do
  if data.allocatedSize < tcHeaderSize + tcTrailerSize then
    return (.moreDataNeeded, tcHeaderSize + tcTrailerSize)
  let headerData := data.peek tcHeaderSize 0
  if headerData.1 ≠ .ok then
    return (.noFrameDetected, 0)
  match TCHeader.deserialize headerData.2 with
  | none => .error (.assertion "status == Fw::FW_SERIALIZE_OK")
  | some header =>
      if header.flagsAndScId ≠ expectedFlagsAndScIdToken then
        return (.noFrameDetected, 0)
      if data.allocatedSize < header.frameLength then
        return (.moreDataNeeded, header.frameLength)
      checkFrame data header.frameLength

end CcsdsTcFrameDetector

/- Bytes with the checksum of those before them at the end. -/
def Checked
    (frame : List UInt8) : Prop :=
  2 ≤ frame.length ∧ Crc16.compute frame = 0

instance decidableChecked
    (frame : List UInt8) :
    Decidable (Checked frame) :=
  inferInstanceAs (Decidable (_ ∧ _))

/-
  What starts at the front of a stream: a frame is a header
  with the token, of the length it tells, and checked.
-/
def tcVerdict : Recognizer UInt8 := fun xs =>
  if xs.length < tcHeaderSize + tcTrailerSize then .more
  else
    match TCHeader.deserialize xs with
    | none => .skip
    | some header =>
        if header.flagsAndScId ≠
            CcsdsTcFrameDetector.expectedFlagsAndScIdToken then
          .skip
        else if xs.length < header.frameLength then .more
        else if Checked (xs.take header.frameLength) then
          .frame header.frameLength
        else .skip

end LoRaRadio

------------------------------------------------------------
-- What the Detector Recognizes
------------------------------------------------------------

namespace LoRaRadio

open Scanning CcsdsTcFrameDetector

variable {xs : List UInt8}

/- Bytes that begin with the header of a frame. -/
structure BeginsFrame
    (xs : List UInt8)
    (header : TCHeader) : Prop where
  length_le : tcHeaderSize + tcTrailerSize ≤ xs.length
  read : TCHeader.deserialize xs = some header
  token : header.flagsAndScId = expectedFlagsAndScIdToken

theorem BeginsFrame.append
    {header : TCHeader}
    (hBegins : BeginsFrame xs header)
    (ys : List UInt8) :
    BeginsFrame (xs ++ ys) header where
  length_le := by
    rw [List.length_append]
    exact Nat.le_add_right_of_le hBegins.length_le
  read := TCHeader.deserialize_append hBegins.read ys
  token := hBegins.token

theorem BeginsFrame.unique
    {header header' : TCHeader}
    (hBegins : BeginsFrame xs header)
    (hBegins' : BeginsFrame xs header') :
    header = header' :=
  Option.some.inj (hBegins.read.symm.trans hBegins'.read)

theorem tcVerdict_short
    (hShort : xs.length < tcHeaderSize + tcTrailerSize) :
    tcVerdict xs = .more :=
  if_pos hShort

/- No frame begins here, whatever comes later. -/
theorem tcVerdict_other
    (hLength : tcHeaderSize + tcTrailerSize ≤ xs.length)
    (hNone : ∀ header, ¬ BeginsFrame xs header) :
    tcVerdict xs = .skip := by
  rcases TCHeader.deserialize_of_length
    (Nat.le_trans (Nat.le_add_right _ _) hLength) with
    ⟨header, hHeader⟩
  have hToken :
      header.flagsAndScId ≠ expectedFlagsAndScIdToken :=
    fun hToken => hNone header ⟨hLength, hHeader, hToken⟩
  unfold tcVerdict
  rw [if_neg (Nat.not_lt.mpr hLength), hHeader]
  exact if_pos hToken

theorem tcVerdict_begins
    {header : TCHeader}
    (hBegins : BeginsFrame xs header) :
    tcVerdict xs =
      if xs.length < header.frameLength then .more
      else if Checked (xs.take header.frameLength) then
        .frame header.frameLength
      else .skip := by
  unfold tcVerdict
  rw [if_neg (Nat.not_lt.mpr hBegins.length_le),
    hBegins.read]
  exact if_neg fun hOther => hOther hBegins.token

/- Where a frame is. -/
theorem tcVerdict_frame
    {size : Nat} :
    tcVerdict xs = .frame size ↔
      ∃ header,
        BeginsFrame xs header ∧
          size = header.frameLength ∧
          size ≤ xs.length ∧
          Checked (xs.take size) := by
  constructor
  · intro hFrame
    by_cases hLength :
        tcHeaderSize + tcTrailerSize ≤ xs.length
    case neg =>
      rw [tcVerdict_short (Nat.lt_of_not_le hLength)] at hFrame
      cases hFrame
    by_cases hBegins : ∃ header, BeginsFrame xs header
    case neg =>
      rw [tcVerdict_other hLength
        fun header hHere => hBegins ⟨header, hHere⟩] at hFrame
      cases hFrame
    rcases hBegins with ⟨header, hBegins⟩
    rw [tcVerdict_begins hBegins] at hFrame
    split at hFrame
    case isTrue hMore => cases hFrame
    case isFalse hAll =>
    split at hFrame
    case isFalse hNot => cases hFrame
    case isTrue hChecked =>
    cases hFrame
    exact ⟨header, hBegins, rfl, Nat.le_of_not_lt hAll, hChecked⟩
  · rintro ⟨header, hBegins, rfl, hAll, hChecked⟩
    rw [tcVerdict_begins hBegins, if_neg (Nat.not_lt.mpr hAll),
      if_pos hChecked]

/- Where there is none. -/
theorem tcVerdict_skip :
    tcVerdict xs = .skip ↔
      tcHeaderSize + tcTrailerSize ≤ xs.length ∧
        ∀ header,
          BeginsFrame xs header →
          header.frameLength ≤ xs.length ∧
            ¬ Checked (xs.take header.frameLength) := by
  by_cases hLength : tcHeaderSize + tcTrailerSize ≤ xs.length
  case neg =>
    rw [tcVerdict_short (Nat.lt_of_not_le hLength)]
    constructor
    · intro hSkip
      cases hSkip
    · exact fun hBoth => absurd hBoth.1 hLength
  by_cases hBegins : ∃ header, BeginsFrame xs header
  case neg =>
    rw [tcVerdict_other hLength
      fun header hHere => hBegins ⟨header, hHere⟩]
    refine ⟨fun _ => ⟨hLength, ?_⟩, fun _ => rfl⟩
    exact fun header hHere => absurd ⟨header, hHere⟩ hBegins
  rcases hBegins with ⟨header, hBegins⟩
  rw [tcVerdict_begins hBegins]
  constructor
  · intro hSkip
    refine ⟨hLength, fun header' hBegins' => ?_⟩
    rw [hBegins'.unique hBegins]
    split at hSkip
    case isTrue hMore => cases hSkip
    case isFalse hAll =>
    split at hSkip
    case isTrue hChecked => cases hSkip
    case isFalse hNot =>
    exact ⟨Nat.le_of_not_lt hAll, hNot⟩
  · rintro ⟨-, hAll⟩
    rcases hAll header hBegins with ⟨hThere, hNot⟩
    rw [if_neg (Nat.not_lt.mpr hThere), if_neg hNot]

theorem stable_tcVerdict :
    Stable tcVerdict := by
  constructor
  case frame_fits =>
    intro xs size hFrame
    rcases tcVerdict_frame.mp hFrame with
      ⟨header, -, hSize, hFits, -⟩
    refine ⟨?_, hFits⟩
    rw [hSize]
    exact Nat.succ_pos _
  case skip_fits =>
    intro xs hSkip hNil
    rw [hNil] at hSkip
    cases hSkip
  case frame_append =>
    intro xs ys size hFrame
    rcases tcVerdict_frame.mp hFrame with
      ⟨header, hBegins, hSize, hFits, hChecked⟩
    apply tcVerdict_frame.mpr
    refine ⟨header, hBegins.append ys, hSize, ?_, ?_⟩
    · rw [List.length_append]
      exact Nat.le_add_right_of_le hFits
    · rwa [List.take_append_of_le_length hFits]
  case skip_append =>
    intro xs ys hSkip
    rcases tcVerdict_skip.mp hSkip with ⟨hLength, hAll⟩
    apply tcVerdict_skip.mpr
    have hLonger : xs.length ≤ (xs ++ ys).length := by
      rw [List.length_append]
      exact Nat.le_add_right _ _
    refine ⟨Nat.le_trans hLength hLonger, ?_⟩
    intro header hBegins
    rcases TCHeader.deserialize_of_length
      (Nat.le_trans (Nat.le_add_right _ _) hLength) with
      ⟨header', hHeader⟩
    have hSame : header' = header :=
      Option.some.inj
        ((TCHeader.deserialize_append hHeader ys).symm.trans
          hBegins.read)
    subst hSame
    rcases hAll header' ⟨hLength, hHeader, hBegins.token⟩ with
      ⟨hFits, hNot⟩
    rw [List.take_append_of_le_length hFits]
    exact ⟨Nat.le_trans hFits hLonger, hNot⟩

end LoRaRadio

------------------------------------------------------------
-- What the Detector Does
------------------------------------------------------------

namespace LoRaRadio

open Scanning FrameAccumulator

/- A header that tells of a frame of one byte. -/
def Malformed
    (xs : List UInt8) : Prop :=
  ∃ header, BeginsFrame xs header ∧ header.lengthField = 0

namespace CcsdsTcFrameDetector

variable {n : Nat} [NeZero n]
variable {b : CircularBuffer n}

/- The checksum of the bytes that wait, from one on. -/
theorem crcLoop_eq
    {rounds i : Nat}
    {crc : UInt16}
    (hHeld : i + rounds ≤ b.allocatedSize) :
    crcLoop b rounds i crc =
      .ok
        (((b.contents.drop i).take rounds).foldl
          Crc16.update crc) := by
  induction rounds generalizing i crc with
  | zero => rfl
  | succ rounds ih =>
      have hIndex : i < b.contents.length := by
        rw [CircularBuffer.length_contents]
        omega
      have hPeek :
          b.peek 1 i = (.ok, [b.contents[i]]) := by
        rw [CircularBuffer.peek_eq (by omega),
          List.drop_eq_getElem_cons hIndex]
        rfl
      unfold crcLoop
      dsimp only
      rw [hPeek, if_pos rfl, ih (by omega),
        List.drop_eq_getElem_cons hIndex]
      rfl

/- Beyond them an assertion fails. -/
theorem crcLoop_fails
    {rounds i : Nat}
    {crc : UInt16}
    (hStart : i ≤ b.allocatedSize)
    (hBeyond : b.allocatedSize < i + rounds) :
    ∃ e, crcLoop b rounds i crc = .error e := by
  induction rounds generalizing i crc with
  | zero => omega
  | succ rounds ih =>
      unfold crcLoop
      dsimp only
      split
      case isFalse hNot => exact ⟨_, rfl⟩
      case isTrue hOk =>
      have hHeld : i < b.allocatedSize := by
        by_contra hNot
        unfold CircularBuffer.peek at hOk
        rw [if_pos (by omega)] at hOk
        cases hOk
      exact ih (by omega) (by omega)

/- The number of bytes the checksum is computed of. -/
theorem dataToCrcLength_eq
    {size : Nat}
    (hSize : 2 ≤ size)
    (hBound : size ≤ 1024) :
    (UInt64.ofNat size - 2).toUInt16.toNat = size - 2 := by
  have hLess : (2 : UInt64) ≤ UInt64.ofNat size := by
    rw [UInt64.le_iff_toNat_le, UInt64.toNat_ofNat']
    change 2 ≤ size % 2 ^ 64
    omega
  have hDiff :
      (UInt64.ofNat size - 2).toNat = size % 2 ^ 64 - 2 := by
    rw [UInt64.toNat_sub_of_le _ _ hLess, UInt64.toNat_ofNat']
    rfl
  rw [UInt64.toNat_toUInt16, hDiff]
  omega

theorem checked_iff
    {body : List UInt8}
    {hi lo : UInt8} :
    Checked (body ++ [hi, lo]) ↔
      word hi lo = Crc16.compute body := by
  unfold Checked
  rw [Crc16.compute_append_eq_zero rfl, word_eq_iff]
  apply and_iff_right
  rw [List.length_append]
  exact Nat.le_add_left _ _

/- The rest of detection, once all of a frame has arrived. -/
theorem checkFrame_eq
    {size : Nat}
    (hSize : 2 ≤ size)
    (hBound : size ≤ 1024)
    (hHeld : size ≤ b.allocatedSize) :
    checkFrame b size =
      .ok
        (if Checked (b.contents.take size) then
          (.frameDetected, size)
        else (.noFrameDetected, 0)) := by
  have hLength : (b.contents.drop (size - 2)).length ≥ 2 := by
    rw [List.length_drop, CircularBuffer.length_contents]
    omega
  rcases List.length_eq_two.mp
    (List.length_take_of_le hLength) with ⟨hi, lo, hTrailer⟩
  have hPeek :
      b.peek tcTrailerSize (size - 2) = (.ok, [hi, lo]) := by
    unfold tcTrailerSize
    rw [CircularBuffer.peek_eq (by omega), hTrailer]
  have hSplit :
      b.contents.take size =
        b.contents.take (size - 2) ++ [hi, lo] := by
    rw [← hTrailer, ← List.take_add, Nat.sub_add_cancel hSize]
  have hCrc :
      crcLoop b (size - 2) 0 0xFFFF =
        .ok (Crc16.compute (b.contents.take (size - 2))) := by
    rw [crcLoop_eq (by omega), List.drop_zero]
    rfl
  unfold checkFrame
  dsimp only
  rw [dataToCrcLength_eq hSize hBound, hCrc, hPeek, hSplit]
  change
    (if word hi lo ≠ Crc16.compute (b.contents.take (size - 2))
      then Except.ok (DetectStatus.noFrameDetected, 0)
      else .ok (.frameDetected, size)) = _
  by_cases hMatch :
      word hi lo = Crc16.compute (b.contents.take (size - 2))
  · rw [if_neg fun hNe => hNe hMatch,
      if_pos (checked_iff.mpr hMatch)]
  · rw [if_pos hMatch,
      if_neg fun hChecked => hMatch (checked_iff.mp hChecked)]

/-
  For a frame of one byte the number of bytes wraps around,
  and the loop leaves the ring.
-/
theorem checkFrame_fails
    (hSmall : n < 0xFFFF) :
    ∃ e, checkFrame b 1 = .error e := by
  have hFits := b.allocated_le
  have hBeyond :
      ∃ e, crcLoop b 0xFFFF 0 0xFFFF = .error e :=
    crcLoop_fails (Nat.zero_le _) (by omega)
  rcases hBeyond with ⟨e, hLoop⟩
  refine ⟨e, ?_⟩
  unfold checkFrame
  change (crcLoop b 0xFFFF 0 0xFFFF >>= _) = _
  rw [hLoop]
  rfl

theorem detect_short
    (hShort : b.contents.length < tcHeaderSize + tcTrailerSize) :
    detect b = .ok (.moreDataNeeded, 7) := by
  rw [CircularBuffer.length_contents] at hShort
  unfold detect
  rw [if_pos hShort]
  rfl

/- The header the detector reads is the one in front. -/
theorem peek_header
    (hLength : tcHeaderSize + tcTrailerSize ≤ b.contents.length) :
    b.peek tcHeaderSize 0 =
      (.ok, b.contents.take tcHeaderSize) := by
  rw [CircularBuffer.length_contents] at hLength
  unfold tcHeaderSize tcTrailerSize at *
  rw [CircularBuffer.peek_eq (by omega), List.drop_zero]

theorem detect_other
    (hLength : tcHeaderSize + tcTrailerSize ≤ b.contents.length)
    (hNone : ∀ header, ¬ BeginsFrame b.contents header) :
    detect b = .ok (.noFrameDetected, 0) := by
  rcases TCHeader.deserialize_of_length
    (Nat.le_trans (Nat.le_add_right _ _) hLength) with
    ⟨header, hHeader⟩
  have hToken :
      header.flagsAndScId ≠ expectedFlagsAndScIdToken :=
    fun hToken => hNone header ⟨hLength, hHeader, hToken⟩
  have hPeek := peek_header hLength
  rw [CircularBuffer.length_contents] at hLength
  unfold detect
  rw [if_neg (Nat.not_lt.mpr hLength), hPeek]
  dsimp only
  rw [if_neg fun hNe => hNe rfl,
    TCHeader.deserialize_take hHeader (Nat.le_refl _)]
  change (if _ then _ else _) = _
  rw [if_pos hToken]
  rfl

theorem detect_begins
    {header : TCHeader}
    (hBegins : BeginsFrame b.contents header) :
    detect b =
      if b.contents.length < header.frameLength then
        .ok (.moreDataNeeded, header.frameLength)
      else checkFrame b header.frameLength := by
  have hLength := hBegins.length_le
  have hPeek := peek_header hLength
  rw [CircularBuffer.length_contents] at hLength ⊢
  unfold detect
  rw [if_neg (Nat.not_lt.mpr hLength), hPeek]
  dsimp only
  rw [if_neg fun hNe => hNe rfl,
    TCHeader.deserialize_take hBegins.read (Nat.le_refl _)]
  change (if _ then _ else _) = _
  rw [if_neg fun hOther => hOther hBegins.token]
  rfl

/- The three things there may be in front. -/
theorem front_cases
    (xs : List UInt8) :
    xs.length < tcHeaderSize + tcTrailerSize ∨
      (tcHeaderSize + tcTrailerSize ≤ xs.length ∧
        ∀ header, ¬ BeginsFrame xs header) ∨
      ∃ header, BeginsFrame xs header := by
  by_cases hBegins : ∃ header, BeginsFrame xs header
  · exact .inr (.inr hBegins)
  · rcases Nat.lt_or_ge xs.length
      (tcHeaderSize + tcTrailerSize) with hShort | hLength
    · exact .inl hShort
    · exact .inr (.inl ⟨hLength,
        fun header hHere => hBegins ⟨header, hHere⟩⟩)

/- A frame length that is not one can be checked. -/
theorem two_le_frameLength
    {header : TCHeader}
    (hField : header.lengthField ≠ 0) :
    2 ≤ header.frameLength := by
  have hPos : header.lengthField.toNat ≠ 0 := by
    intro hZero
    apply hField
    exact UInt16.toNat_inj.mp hZero
  unfold TCHeader.frameLength
  omega

/-
  The detector fails an assertion exactly at a header that
  tells of a frame of one byte.
-/
theorem detect_fails_iff
    (hSmall : n < 0xFFFF) :
    (∃ e, detect b = .error e) ↔ Malformed b.contents := by
  rcases front_cases b.contents with
    hShort | ⟨hLength, hNone⟩ | ⟨header, hBegins⟩
  · rw [detect_short hShort]
    constructor
    · rintro ⟨e, hError⟩
      cases hError
    · rintro ⟨header, hBegins, -⟩
      exact absurd hBegins.length_le (Nat.not_le.mpr hShort)
  · rw [detect_other hLength hNone]
    constructor
    · rintro ⟨e, hError⟩
      cases hError
    · rintro ⟨header, hBegins, -⟩
      exact absurd hBegins (hNone header)
  · rw [detect_begins hBegins]
    constructor
    · rintro ⟨e, hError⟩
      split at hError
      case isTrue hMore => cases hError
      case isFalse hAll =>
      refine ⟨header, hBegins, ?_⟩
      by_contra hField
      rw [CircularBuffer.length_contents, Nat.not_lt] at hAll
      rw [checkFrame_eq (two_le_frameLength hField)
        header.frameLength_le hAll] at hError
      cases hError
    · rintro ⟨header', hBegins', hField⟩
      rw [hBegins'.unique hBegins] at hField
      have hOne : header.frameLength = 1 := by
        unfold TCHeader.frameLength
        rw [hField]
        rfl
      have hThere := hBegins.length_le
      unfold tcHeaderSize tcTrailerSize at hThere
      rw [hOne, if_neg (by omega)]
      exact checkFrame_fails hSmall

/- Such a header is skipped by whoever does not fail. -/
theorem tcVerdict_malformed
    {xs : List UInt8}
    (hMalformed : Malformed xs) :
    tcVerdict xs = .skip := by
  rcases hMalformed with ⟨header, hBegins, hField⟩
  have hOne : header.frameLength = 1 := by
    unfold TCHeader.frameLength
    rw [hField]
    rfl
  have hThere := hBegins.length_le
  unfold tcHeaderSize tcTrailerSize at hThere
  have hAll : ¬ xs.length < 1 := by omega
  rw [tcVerdict_begins hBegins, hOne, if_neg hAll, if_neg]
  rintro ⟨hTwo, -⟩
  rw [List.length_take] at hTwo
  omega

/- Anywhere else the detector finds what there is to find. -/
theorem detect_cases
    (hSound : ¬ Malformed b.contents) :
    (∃ size,
      tcVerdict b.contents = .more ∧
        detect b = .ok (.moreDataNeeded, size) ∧
        b.allocatedSize < size ∧ size ≤ 1024) ∨
      (tcVerdict b.contents = .skip ∧
        detect b = .ok (.noFrameDetected, 0)) ∨
      ∃ size,
        tcVerdict b.contents = .frame size ∧
          detect b = .ok (.frameDetected, size) := by
  rcases front_cases b.contents with
    hShort | ⟨hLength, hNone⟩ | ⟨header, hBegins⟩
  · refine .inl ⟨7, tcVerdict_short hShort, detect_short hShort,
      ?_, by decide⟩
    rwa [CircularBuffer.length_contents] at hShort
  · exact .inr (.inl ⟨tcVerdict_other hLength hNone,
      detect_other hLength hNone⟩)
  · have hField : header.lengthField ≠ 0 :=
      fun hZero => hSound ⟨header, hBegins, hZero⟩
    have hBound := header.frameLength_le
    rw [detect_begins hBegins, tcVerdict_begins hBegins]
    by_cases hMore : b.contents.length < header.frameLength
    · rw [if_pos hMore, if_pos hMore]
      rw [CircularBuffer.length_contents] at hMore
      exact .inl ⟨_, rfl, rfl, hMore, hBound⟩
    · rw [if_neg hMore, if_neg hMore]
      rw [CircularBuffer.length_contents, Nat.not_lt] at hMore
      rw [checkFrame_eq (two_le_frameLength hField) hBound hMore]
      split
      case isTrue hChecked => exact .inr (.inr ⟨_, rfl, rfl⟩)
      case isFalse hNot => exact .inr (.inl ⟨rfl, rfl⟩)

theorem detect_frame_iff
    (hSmall : n < 0xFFFF)
    {size : Nat} :
    detect b = .ok (.frameDetected, size) ↔
      tcVerdict b.contents = .frame size := by
  constructor
  · intro hDetect
    have hSound : ¬ Malformed b.contents := by
      rw [← detect_fails_iff hSmall, hDetect]
      exact nofun
    rcases detect_cases hSound with
      ⟨_, -, hOther, -⟩ | ⟨-, hOther⟩ | ⟨size', hFrame, hSame⟩
    · cases hDetect.symm.trans hOther
    · cases hDetect.symm.trans hOther
    · cases hDetect.symm.trans hSame
      exact hFrame
  · intro hFrame
    have hSound : ¬ Malformed b.contents := by
      intro hMalformed
      cases (tcVerdict_malformed hMalformed).symm.trans hFrame
    rcases detect_cases hSound with
      ⟨_, hOther, -⟩ | ⟨hOther, -⟩ | ⟨size', hSame, hDetect⟩
    · cases hFrame.symm.trans hOther
    · cases hFrame.symm.trans hOther
    · cases hFrame.symm.trans hSame
      exact hDetect

theorem detect_skip
    (hSound : ¬ Malformed b.contents)
    (hSkip : tcVerdict b.contents = .skip) :
    detect b = .ok (.noFrameDetected, 0) := by
  rcases detect_cases hSound with
    ⟨_, hOther, -⟩ | ⟨-, hDetect⟩ | ⟨_, hOther, -⟩
  · cases hSkip.symm.trans hOther
  · exact hDetect
  · cases hSkip.symm.trans hOther

/-
  In a ring that has room for the longest frame, the detector
  and the accumulator agree on what has been found.
-/
theorem detects_tcVerdict
    (hRoom : 1024 ≤ n)
    (hSmall : n < 0xFFFF) :
    Detects (n := n) detect tcVerdict := by
  have hSound :
      ∀ (b : CircularBuffer n) found,
        detect b = .ok found → ¬ Malformed b.contents := by
    intro b found hDetect
    rw [← detect_fails_iff hSmall, hDetect]
    exact nofun
  refine ⟨stable_tcVerdict, ?_, ?_⟩
  · intro b found _ hDetect
    have hFits := b.allocated_le
    rcases detect_cases (hSound b found hDetect) with
      ⟨size, hMore, hFound, -, hBound⟩ | ⟨hSkip, hFound⟩ |
        ⟨size, hFrame, hFound⟩
    · cases hDetect.symm.trans hFound
      rw [hMore]
      exact (if_neg (by omega)).symm
    · cases hDetect.symm.trans hFound
      rw [hSkip]
      exact (if_neg (Nat.not_lt_zero n)).symm
    · cases hDetect.symm.trans hFound
      have hThere := (stable_tcVerdict.frame_fits _ _ hFrame).2
      rw [CircularBuffer.length_contents] at hThere
      rw [hFrame]
      exact (if_neg (by omega)).symm
  · intro b size hDetect
    rcases detect_cases (hSound b _ hDetect) with
      ⟨size', -, hFound, hMore, -⟩ | ⟨-, hFound⟩ |
        ⟨size', -, hFound⟩
    · cases hDetect.symm.trans hFound
      exact hMore
    · cases hDetect.symm.trans hFound
    · cases hDetect.symm.trans hFound

end CcsdsTcFrameDetector

end LoRaRadio

------------------------------------------------------------
-- Frames That Are Sent
------------------------------------------------------------

namespace LoRaRadio

open Scanning CcsdsTcFrameDetector

/- The header of a frame with `size` bytes of data. -/
def tcFrameHeader
    (vcId : UInt16)
    (sequence : UInt8)
    (size : Nat) : TCHeader where
  flagsAndScId := expectedFlagsAndScIdToken
  vcIdAndLength := (vcId <<< 10) ||| UInt16.ofNat (size + 6)
  frameSequenceNum := sequence

/-
  A Type-BD frame of a virtual channel, as a ground station
  puts it together around its data.
-/
def tcFrame
    (vcId : UInt16)
    (sequence : UInt8)
    (data : List UInt8) : List UInt8 :=
  let header := tcFrameHeader vcId sequence data.length
  let body := header.serialize ++ data
  body ++ bigEndian (Crc16.compute body)

/- The longest data field of a frame. -/
def tcDataMax : Nat := 1017

variable {vcId : UInt16}
variable {sequence : UInt8}
variable {data : List UInt8}

@[simp] theorem length_tcFrame :
    (tcFrame vcId sequence data).length = data.length + 7 := by
  unfold tcFrame bigEndian
  simp only [List.length_append, TCHeader.length_serialize,
    List.length_cons, List.length_nil, tcHeaderSize]
  omega

/- The two fields of a word with six and ten bits. -/
theorem and_fields
    (high : UInt16)
    {low : UInt16}
    (hLow : low < 0x400) :
    ((high <<< 10) ||| low) &&& 0x03FF = low := by
  have hBound : low.toNat < 2 ^ 10 := hLow
  have hHigh :
      (high <<< 10).toNat % 2 ^ 10 = 0 := by
    rw [UInt16.toNat_shiftLeft]
    change (high.toNat <<< 10 % 2 ^ 16) % 2 ^ 10 = 0
    rw [Nat.mod_mod_of_dvd _ (by decide), Nat.shiftLeft_eq,
      Nat.mul_mod_left]
  apply UInt16.toNat_inj.mp
  rw [UInt16.toNat_and]
  change _ &&& (2 ^ 10 - 1) = _
  rw [Nat.and_two_pow_sub_one_eq_mod, UInt16.toNat_or,
    Nat.or_mod_two_pow, hHigh, Nat.mod_eq_of_lt hBound,
    Nat.zero_or]

theorem or_fields
    (w : UInt16) :
    ((w >>> 10) <<< 10) ||| (w &&& 0x03FF) = w := by
  have hBound : w.toNat < 2 ^ 16 := w.toNat_lt
  have hLow : (w &&& 0x03FF).toNat = w.toNat % 2 ^ 10 := by
    rw [UInt16.toNat_and]
    exact Nat.and_two_pow_sub_one_eq_mod _ 10
  have hHigh :
      ((w >>> 10) <<< 10).toNat = (w.toNat / 2 ^ 10) <<< 10 := by
    rw [UInt16.toNat_shiftLeft, UInt16.toNat_shiftRight]
    change (w.toNat >>> 10) <<< 10 % 2 ^ 16 = _
    rw [Nat.shiftRight_eq_div_pow, Nat.shiftLeft_eq]
    omega
  apply UInt16.toNat_inj.mp
  rw [UInt16.toNat_or, hHigh, hLow,
    ← Nat.shiftLeft_add_eq_or_of_lt (Nat.mod_lt _ (by decide)),
    Nat.shiftLeft_eq]
  omega

theorem lengthField_tcFrameHeader
    {size : Nat}
    (hSize : size ≤ tcDataMax) :
    (tcFrameHeader vcId sequence size).lengthField.toNat =
      size + 6 := by
  unfold tcDataMax at hSize
  have hSmall : (UInt16.ofNat (size + 6)).toNat = size + 6 := by
    rw [UInt16.toNat_ofNat']
    omega
  have hLow : UInt16.ofNat (size + 6) < 0x400 := by
    rw [UInt16.lt_iff_toNat_lt, hSmall]
    change size + 6 < 1024
    omega
  unfold TCHeader.lengthField tcFrameHeader
  rw [and_fields _ hLow, hSmall]

theorem deserialize_tcFrame :
    TCHeader.deserialize (tcFrame vcId sequence data) =
      some (tcFrameHeader vcId sequence data.length) :=
  TCHeader.deserialize_some.mpr ⟨_, List.append_assoc _ _ _⟩

/- A frame that is sent is recognized, and as a whole. -/
theorem tcVerdict_tcFrame
    (hData : data.length ≤ tcDataMax) :
    tcVerdict (tcFrame vcId sequence data) =
      .frame (data.length + 7) := by
  apply tcVerdict_frame.mpr
  refine ⟨tcFrameHeader vcId sequence data.length,
    ⟨?_, ?_, rfl⟩, ?_, ?_, ?_⟩
  · rw [length_tcFrame]
    exact Nat.le_add_left _ _
  · exact deserialize_tcFrame
  · unfold TCHeader.frameLength
    rw [lengthField_tcFrameHeader hData]
  · rw [length_tcFrame]
  · rw [List.take_of_length_le (Nat.le_of_eq length_tcFrame)]
    exact checked_iff.mpr (word_hiByte_loByte _)

/- What is recognized as a whole is a frame that was sent. -/
theorem tcFrame_of_tcVerdict
    {frame : List UInt8}
    (hLength : 7 ≤ frame.length)
    (hFrame : tcVerdict frame = .frame frame.length) :
    ∃ vcId sequence data,
      data.length ≤ tcDataMax ∧
        frame = tcFrame vcId sequence data := by
  rcases tcVerdict_frame.mp hFrame with
    ⟨header, hBegins, hSize, -, hChecked⟩
  rcases TCHeader.deserialize_some.mp hBegins.read with
    ⟨rest, rfl⟩
  rw [List.take_length] at hChecked
  rw [List.length_append, TCHeader.length_serialize] at hLength hSize
  unfold tcHeaderSize at hLength hSize
  have hBound := header.frameLength_le
  let data := rest.take (rest.length - 2)
  have hDrop : (rest.drop (rest.length - 2)).length = 2 := by
    rw [List.length_drop]
    omega
  have hData : data.length = rest.length - 2 :=
    List.length_take_of_le (Nat.sub_le _ _)
  rcases List.length_eq_two.mp hDrop with ⟨hi, lo, hTrailer⟩
  have hRest : rest = data ++ [hi, lo] := by
    rw [← hTrailer, List.take_append_drop]
  rw [hRest, ← List.append_assoc, checked_iff,
    word_eq_iff] at hChecked
  have hField :
      header.lengthField = UInt16.ofNat (data.length + 6) := by
    apply UInt16.toNat_inj.mp
    unfold TCHeader.frameLength at hSize hBound
    rw [UInt16.toNat_ofNat']
    omega
  have hHeader :
      header =
        tcFrameHeader (header.vcIdAndLength >>> 10)
          header.frameSequenceNum data.length := by
    unfold tcFrameHeader
    rw [← hField]
    unfold TCHeader.lengthField
    rw [or_fields, ← hBegins.token]
  refine ⟨header.vcIdAndLength >>> 10, header.frameSequenceNum,
    data, ?_, ?_⟩
  · unfold tcDataMax
    omega
  · unfold tcFrame
    dsimp only
    rw [← hHeader, ← hChecked, hRest, List.append_assoc]

/-
  Damage to two adjacent bytes at most, outside the length
  field, is noticed, whatever ring the frame waits in.
-/
theorem burst_detected
    {first a b last : List UInt8}
    (hFrame :
      tcVerdict (first ++ a ++ last) =
        .frame (first ++ a ++ last).length)
    (hLength : a.length = b.length)
    (hShort : a.length ≤ 2)
    (hDamaged : a ≠ b)
    (hField :
      (TCHeader.deserialize (first ++ b ++ last)).map
          TCHeader.lengthField =
        (TCHeader.deserialize (first ++ a ++ last)).map
          TCHeader.lengthField) :
    tcVerdict (first ++ b ++ last) = .skip ∧
      ∀ (n : Nat) [NeZero n] (ring : CircularBuffer n),
        ring.contents = first ++ b ++ last →
          CcsdsTcFrameDetector.detect ring =
            .ok (.noFrameDetected, 0) := by
  rcases tcVerdict_frame.mp hFrame with
    ⟨header, hBegins, hSize, -, hChecked⟩
  rw [List.take_length] at hChecked
  have hSame :
      (first ++ b ++ last).length =
        (first ++ a ++ last).length := by
    simp only [List.length_append, hLength]
  have hWhole :
      ∀ header', BeginsFrame (first ++ b ++ last) header' →
        header'.frameLength = (first ++ b ++ last).length := by
    intro header' hBegins'
    rw [hBegins'.read, hBegins.read, Option.map_some,
      Option.map_some, Option.some.injEq] at hField
    rw [hSame, hSize]
    unfold TCHeader.frameLength
    rw [hField]
  have hSkip : tcVerdict (first ++ b ++ last) = .skip := by
    apply tcVerdict_skip.mpr
    refine ⟨hSame ▸ hBegins.length_le, fun header' hBegins' => ?_⟩
    refine ⟨Nat.le_of_eq (hWhole header' hBegins'), ?_⟩
    rw [hWhole header' hBegins', List.take_length]
    -- Both frames would leave the same remainder.
    rintro ⟨-, hZero⟩
    apply Crc16.compute_burst hLength hShort hDamaged
    rw [hZero, hChecked.2]
  refine ⟨hSkip, fun n _ ring hRing => ?_⟩
  apply CcsdsTcFrameDetector.detect_skip
  · rintro ⟨header', hBegins', hZero⟩
    rw [hRing] at hBegins'
    have hLong := hBegins'.length_le
    rw [← hWhole header' hBegins'] at hLong
    unfold TCHeader.frameLength at hLong
    rw [hZero] at hLong
    change 7 ≤ 1 at hLong
    omega
  · rw [hRing, hSkip]

/- A byte of data that is damaged. -/
theorem burst_detected_byte :
    tcVerdict
        ((tcFrame 1 0 [5]).take 5 ++ [6] ++
          (tcFrame 1 0 [5]).drop 6) =
      .skip := by
  have hWhole :
      (tcFrame 1 0 [5]).take 5 ++ [5] ++ (tcFrame 1 0 [5]).drop 6 =
        tcFrame 1 0 [5] := rfl
  have hFrame :
      tcVerdict
          ((tcFrame 1 0 [5]).take 5 ++ [5] ++
            (tcFrame 1 0 [5]).drop 6) =
        .frame
          ((tcFrame 1 0 [5]).take 5 ++ [5] ++
            (tcFrame 1 0 [5]).drop 6).length := by
    rw [hWhole]
    exact tcVerdict_tcFrame (by decide)
  exact
    (@burst_detected _ _ [6] _ hFrame rfl (by decide) (by decide)
      rfl).1

/-
  What is recognized as a whole, and holds a header and a
  checksum, is what a ground station puts together.  In the
  ring the detector recognizes the same.
-/
theorem recognized_iff_tcFrame
    {frame : List UInt8}
    (hLength : 7 ≤ frame.length) :
    (tcVerdict frame = .frame frame.length ↔
      ∃ vcId sequence data,
        data.length ≤ tcDataMax ∧
          frame = tcFrame vcId sequence data) ∧
      ∀ (n : Nat) [NeZero n] (ring : CircularBuffer n),
        n < 0xFFFF →
          ring.contents = frame →
            (CcsdsTcFrameDetector.detect ring =
                .ok (.frameDetected, frame.length) ↔
              ∃ vcId sequence data,
                data.length ≤ tcDataMax ∧
                  frame = tcFrame vcId sequence data) := by
  have hIff :
      tcVerdict frame = .frame frame.length ↔
        ∃ vcId sequence data,
          data.length ≤ tcDataMax ∧
            frame = tcFrame vcId sequence data := by
    constructor
    · exact tcFrame_of_tcVerdict hLength
    · rintro ⟨vcId, sequence, data, hData, rfl⟩
      rw [length_tcFrame]
      exact tcVerdict_tcFrame hData
  refine ⟨hIff, fun n _ ring hSmall hRing => ?_⟩
  rw [CcsdsTcFrameDetector.detect_frame_iff hSmall, hRing]
  exact hIff

theorem recognized_iff_tcFrame_byte :
    tcVerdict (tcFrame 1 0 [5]) =
      .frame (tcFrame 1 0 [5]).length :=
  (recognized_iff_tcFrame (by decide)).1.mpr
    ⟨1, 0, [5], by decide, rfl⟩

end LoRaRadio

------------------------------------------------------------
-- Frames in the Accumulator
------------------------------------------------------------

namespace LoRaRadio

open Faulting Scanning Runs FrameAccumulator

variable {n : Nat} [NeZero n]
variable {π : Type}
variable {ports : FramePorts π}
variable {store : CircularMemory n UInt8}
variable {down : π}
variable {actions : List AccumulatorAction}

/-
  The frames of a ground station come out of the accumulator
  as they were sent, in whatever pieces they arrive, as long
  as there are buffers for them and nothing goes wrong in
  what the ports are wired to.
-/
theorem tcFrames_found
    (hRoom : 1024 ≤ n)
    (hSmall : n < 0xFFFF)
    {frames : List (List UInt8)}
    {rest : List UInt8}
    (hFrames :
      ∀ f ∈ frames, ∃ vcId sequence data,
        data.length ≤ tcDataMax ∧ f = tcFrame vcId sequence data)
    (hRest : rest.length < 7)
    (hStream : streamOf actions = frames.flatten ++ rest) :
    Post (actions.forM (act CcsdsTcFrameDetector.detect ports))
      (fun _ s' =>
        ¬ Refused s'.calls →
          framesSent s'.calls = frames ∧
            s'.inRing.contents = rest)
      (fun e s' => ¬ Refused s'.calls → PortsFault ports e)
      (configured store down) := by
  have hDetects :=
    CcsdsTcFrameDetector.detects_tcVerdict hRoom hSmall
  have hWhole : ∀ f ∈ frames, tcVerdict f = .frame f.length := by
    intro f hMem
    rcases hFrames f hMem with
      ⟨vcId, sequence, data, hData, rfl⟩
    rw [length_tcFrame]
    exact tcVerdict_tcFrame hData
  have hShort : ∀ zs, zs <+: rest → tcVerdict zs = .more :=
    fun zs hPrefix =>
      tcVerdict_short (hPrefix.length_le.trans_lt hRest)
  have hMore : scan tcVerdict rest = ([], rest) :=
    scan_more (hShort rest List.prefix_rfl)
  apply (frames_of_stream hDetects store down actions).mono
  · intro _ s' hScan hServed
    have hFound := hScan hServed
    rw [hStream, scan_frames stable_tcVerdict hWhole, hMore,
      List.append_nil, Prod.mk.injEq] at hFound
    exact ⟨hFound.1.symm, hFound.2.symm⟩
  · rintro e s' hFault hServed
    rcases hFault with
      hPorts | ⟨hDetect, accepted, found, -, hResumes, hPrefix⟩
    · exact hPorts
    · have hArrived := hPrefix hServed
      rw [hStream] at hArrived
      have hMalformed :=
        (CcsdsTcFrameDetector.detect_fails_iff hSmall).mp
          ⟨e, hDetect⟩
      -- nothing is skipped in front of a frame that was sent
      have hFront :=
        hResumes.of_frames stable_tcVerdict hWhole hShort hArrived
      exact absurd
        (CcsdsTcFrameDetector.tcVerdict_malformed hMalformed)
        hFront

/- A consumer that gives every frame back at once. -/
def returning : FramePorts BufferManager where
  bufferAllocate := BufferManager.bufferGetCallee
  bufferDeallocate := BufferManager.bufferSendIn
  dataOut buffer _ context := pure [(buffer, context)]

/- The accumulator of the deployment, with such a consumer. -/
def frameAccumulator : AccumulatorState 2048 BufferManager :=
  configured (fun _ => 0) commsBufferManager

/- Two frames and a part of a header, in three buffers. -/
def twoFrames : List (List UInt8) :=
  [tcFrame 1 0 [5], tcFrame 2 1 [6, 7]]

def frameStream : List UInt8 :=
  twoFrames.flatten ++ [0x20, 0x44, 4]

def framesArrive : List AccumulatorAction :=
  [.dataIn { data := 16, size := 5 } (frameStream.take 5) {},
    .dataIn { data := 32, size := 9 }
      ((frameStream.drop 5).take 9) {},
    .dataIn { data := 48, size := 6 } (frameStream.drop 14) {}]

theorem tcFrames_found_byte :
    ∃ s',
      exec
          (framesArrive.forM
            (act CcsdsTcFrameDetector.detect returning))
          frameAccumulator =
        (.ok (), s') ∧
      framesSent s'.calls = twoFrames ∧
      s'.inRing.contents = [0x20, 0x44, 4] := by
  have hReturns :
      (exec
        (framesArrive.forM
          (act CcsdsTcFrameDetector.detect returning))
        frameAccumulator).1.toBool = true := by
    decide +kernel
  have hServed :
      ¬ Refused
        (exec
          (framesArrive.forM
            (act CcsdsTcFrameDetector.detect returning))
          frameAccumulator).2.calls := by
    decide +kernel
  have hFrames :
      ∀ f ∈ twoFrames,
        ∃ vcId sequence data,
          data.length ≤ tcDataMax ∧
            f = tcFrame vcId sequence data := by
    intro f hMem
    unfold twoFrames at hMem
    simp only [List.mem_cons, List.not_mem_nil, or_false] at hMem
    rcases hMem with rfl | rfl
    · exact ⟨1, 0, [5], by decide, rfl⟩
    · exact ⟨2, 1, [6, 7], by decide, rfl⟩
  have hStream : streamOf framesArrive = frameStream := by
    change
      frameStream.take 5 ++
          ((frameStream.drop 5).take 9 ++
            (frameStream.drop 14 ++ [])) = _
    have hRest :
        frameStream.drop 14 = (frameStream.drop 5).drop 9 := by
      rw [List.drop_drop]
    rw [List.append_nil, hRest, List.take_append_drop,
      List.take_append_drop]
  -- the run itself is not to be looked at again
  generalize framesArrive = actions at *
  have hFound :
      Post
        (actions.forM
          (act CcsdsTcFrameDetector.detect returning))
        _ _ frameAccumulator :=
    tcFrames_found (by decide) (by decide) hFrames (by decide)
      hStream
  rcases hRun :
      exec
        (actions.forM
          (act CcsdsTcFrameDetector.detect returning))
        frameAccumulator with
    ⟨e | _, s'⟩
  · rw [hRun] at hReturns
    cases hReturns
  · rw [hRun] at hServed
    exact ⟨s', rfl, hFound.of_ok hRun hServed⟩

/- Ports that refuse so many buffers before they give one. -/
def refusing : FramePorts Nat where
  bufferAllocate size := do
    let refusals ← get
    if refusals = 0 then
      return { data := 7296, size := size }
    else do
      set (refusals - 1)
      return {}
  bufferDeallocate _ := pure ()
  dataOut buffer _ context := pure [(buffer, context)]

/- The accumulator with no buffer for the first frame. -/
def unservedAccumulator : AccumulatorState 2048 Nat where
  inRing := frameAccumulator.inRing
  down := 1

/- A buffer with a frame around one byte. -/
def frameArrives : AccumulatorAction :=
  .dataIn { data := 16, size := 8 } (tcFrame 1 0 [5]) {}

theorem frames_of_accepted_byte :
    ∃ s' accepted,
      attempt (step CcsdsTcFrameDetector.detect refusing)
          unservedAccumulator [frameArrives, frameArrives] =
        .ok s' ∧
      Refused s'.calls ∧
      accepted.Sublist (streamOf [frameArrives, frameArrives]) ∧
      scan tcVerdict accepted =
        (framesSent s'.calls ++
            (scan tcVerdict s'.inRing.contents).1,
          (scan tcVerdict s'.inRing.contents).2) := by
  have hRefused :
      (attempt (step CcsdsTcFrameDetector.detect refusing)
          unservedAccumulator
          [frameArrives, frameArrives]).toOption.map
          (fun s' => decide (Refused s'.calls)) =
        some true := by
    decide +kernel
  cases hRun :
      attempt (step CcsdsTcFrameDetector.detect refusing)
        unservedAccumulator [frameArrives, frameArrives] with
  | error e =>
      rw [hRun] at hRefused
      cases hRefused
  | ok s' =>
      rw [hRun] at hRefused
      rcases frames_of_accepted
          (CcsdsTcFrameDetector.detects_tcVerdict (by decide)
            (by decide)) hRun with ⟨accepted, hSub, hScan⟩
      exact ⟨s', accepted, rfl,
        of_decide_eq_true (Option.some.inj hRefused), hSub,
        hScan⟩

/- The frame that waits is sent on with the next byte. -/
theorem settles_iff_room_byte :
    ∃ s s',
      step CcsdsTcFrameDetector.detect refusing
          unservedAccumulator frameArrives =
        .ok s ∧
      ¬ Settled tcVerdict s ∧
      step CcsdsTcFrameDetector.detect refusing s
          (.dataIn { data := 16, size := 1 } [0x20] {}) =
        .ok s' ∧
      Settled tcVerdict s' := by
  have hSteps :
      ((step CcsdsTcFrameDetector.detect refusing
          unservedAccumulator frameArrives).toOption.bind
        fun s =>
          (step CcsdsTcFrameDetector.detect refusing s
            (.dataIn { data := 16, size := 1 } [0x20]
              {})).toOption.map
            fun s' =>
              decide
                (tcVerdict s.inRing.contents = .frame 8 ∧
                  s.inRing.getFreeSize ≠ 0 ∧
                  s.calls <+: s'.calls ∧
                  ¬ Refused (s'.calls.drop s.calls.length))) =
        some true := by
    decide +kernel
  cases hFirst :
      step CcsdsTcFrameDetector.detect refusing
        unservedAccumulator frameArrives with
  | error e =>
      rw [hFirst] at hSteps
      cases hSteps
  | ok s =>
      rw [hFirst] at hSteps
      change
        (step CcsdsTcFrameDetector.detect refusing s _
          ).toOption.map _ = _ at hSteps
      cases hSecond :
          step CcsdsTcFrameDetector.detect refusing s
            (.dataIn { data := 16, size := 1 } [0x20] {}) with
      | error e =>
          rw [hSecond] at hSteps
          cases hSteps
      | ok s' =>
          rw [hSecond] at hSteps
          rcases of_decide_eq_true (Option.some.inj hSteps) with
            ⟨hWaits, hRoom, ⟨cs, hCalls⟩, hServed⟩
          rw [← hCalls, List.drop_left] at hServed
          refine ⟨s, s', rfl, ?_, hSecond, ?_⟩
          · rintro ⟨hMore, -⟩
            cases hWaits.symm.trans hMore
          · exact (settles_iff_room
              (CcsdsTcFrameDetector.detects_tcVerdict (by decide)
                (by decide))
              (by decide) hSecond hCalls.symm hServed).mpr hRoom

/- An accumulator whose ring is full. -/
def fullAccumulator : AccumulatorState 2048 BufferManager where
  inRing :=
    { store := fun _ => 0
      headIdx := 0
      allocatedSize := 2048
      highWaterMark := 2048
      allocated_le := Nat.le_refl 2048 }
  down := commsBufferManager

theorem full_forever_byte :
    ∃ s',
      attempt (step CcsdsTcFrameDetector.detect returning)
          fullAccumulator [frameArrives] =
        .ok s' ∧
      framesSent s'.calls = [] := by
  have hRun :
      ∃ s',
        attempt (step CcsdsTcFrameDetector.detect returning)
            fullAccumulator [frameArrives] =
          .ok s' := by
    have hOk :
        (attempt (step CcsdsTcFrameDetector.detect returning)
          fullAccumulator [frameArrives]).toBool = true := by
      decide +kernel
    cases hAttempt :
        attempt (step CcsdsTcFrameDetector.detect returning)
          fullAccumulator [frameArrives] with
    | error e =>
        rw [hAttempt] at hOk
        cases hOk
    | ok s' => exact ⟨s', rfl⟩
  rcases hRun with ⟨s', hRun⟩
  exact ⟨s', hRun, (full_forever (by decide) hRun).2⟩

/-
  A run of the accumulator fails only where its surroundings
  do, or where the detector does, at a header in front of the
  ring that tells of a frame of one byte.
-/
theorem fails_malformed
    (hRoom : 1024 ≤ n)
    (hSmall : n < 0xFFFF)
    {e : Fault}
    {s' : AccumulatorState n π}
    (hRun :
      exec
          (actions.forM (act CcsdsTcFrameDetector.detect ports))
          (configured store down) =
        (.error e, s')) :
    PortsFault ports e ∨
      CcsdsTcFrameDetector.detect s'.inRing = .error e ∧
        Malformed s'.inRing.contents ∧
        ∃ accepted found,
          accepted.Sublist (streamOf actions) ∧
            Resumes tcVerdict accepted found
              s'.inRing.contents := by
  have hDetects :=
    CcsdsTcFrameDetector.detects_tcVerdict hRoom hSmall
  rcases (frames_of_stream hDetects store down
      actions).of_error hRun with
    hPorts | ⟨hDetect, accepted, found, hSub, hResumes, -⟩
  · exact .inl hPorts
  · exact .inr ⟨hDetect,
      (CcsdsTcFrameDetector.detect_fails_iff hSmall).mp
        ⟨e, hDetect⟩,
      accepted, found, hSub, hResumes⟩

/- Such a header, from a sender with the right token. -/
def headerArrives : AccumulatorAction :=
  .dataIn { data := 16, size := 7 } [0x20, 0x44, 0, 0, 0, 0, 0]
    {}

/- It stops the accumulator behind a frame. -/
theorem fails_malformed_header :
    ∃ e s',
      exec
          ([frameArrives, headerArrives].forM
            (act CcsdsTcFrameDetector.detect returning))
          frameAccumulator =
        (.error e, s') ∧
      (PortsFault returning e ∨
        CcsdsTcFrameDetector.detect s'.inRing = .error e ∧
          Malformed s'.inRing.contents) := by
  have hFails :
      (exec
        ([frameArrives, headerArrives].forM
          (act CcsdsTcFrameDetector.detect returning))
        frameAccumulator).1.toBool = false := by
    decide +kernel
  rcases hRun :
      exec
        ([frameArrives, headerArrives].forM
          (act CcsdsTcFrameDetector.detect returning))
        frameAccumulator with
    ⟨e | _, s'⟩
  · refine ⟨e, s', rfl, ?_⟩
    exact (fails_malformed (by decide) (by decide) hRun).imp_right
      fun hFault => ⟨hFault.1, hFault.2.1⟩
  · rw [hRun] at hFails
    cases hFails

end LoRaRadio
