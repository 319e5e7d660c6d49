import LoRaRadio.Fprime.TmFramer
import LoRaRadio.Library.Crc

/-
  The checksum of transfer frames.

  `CRC16` looks the remainder of a division up in a table,
  byte by byte.  It is the remainder the bits give, so a
  frame with its checksum leaves no remainder, and damage to
  two adjacent bytes always leaves one.

  Main declarations:
    * `Crc16.remainder_compute`
    * `Crc16.compute_append_eq_zero`
    * `Crc16.compute_burst`
    * `tmFrame_burst`
-/

------------------------------------------------------------
-- The Checksum
------------------------------------------------------------

namespace LoRaRadio

namespace Crc16

/- The generator polynomial of CRC-CCITT. -/
def poly : BitVec 16 :=
  0x1021#16

theorem and_top_eq_zero
    (x : UInt16) :
    x &&& 0x8000 = 0 ↔ x.toBitVec.msb = false := by
  have hTop : (0x8000 : UInt16).toBitVec = BitVec.twoPow 16 15 :=
    rfl
  rw [← UInt16.toBitVec_inj, UInt16.toBitVec_and, hTop,
    BitVec.and_twoPow, BitVec.msb_eq_getLsbD_last]
  change
    (if x.toBitVec.getLsbD 15 then _ else _) = 0#16 ↔
      x.toBitVec.getLsbD 15 = false
  cases x.toBitVec.getLsbD 15
  · exact ⟨fun _ => rfl, fun _ => rfl⟩
  · constructor
    · intro hPow
      exact absurd hPow (by decide)
    · intro hFalse
      cases hFalse

/-
  A round of the table's construction divides the sum of its
  two words.
-/
theorem tableRound_eq
    (crc c : UInt16) :
    (tableRound crc c).1.toBitVec ^^^
        (tableRound crc c).2.toBitVec =
      Crc.bitStep poly (crc.toBitVec ^^^ c.toBitVec) := by
  have hShift :
      ∀ x : UInt16, (x <<< 1).toBitVec = x.toBitVec <<< 1 :=
    fun x => rfl
  have hSum :
      (crc ^^^ c).toBitVec = crc.toBitVec ^^^ c.toBitVec := rfl
  unfold tableRound Crc.bitStep
  dsimp only
  cases hMsb : (crc.toBitVec ^^^ c.toBitVec).msb with
  | false =>
      rw [← hSum] at hMsb
      rw [if_neg fun hNe => hNe ((and_top_eq_zero _).mpr hMsb),
        hShift, hShift, BitVec.shiftLeft_xor_distrib]
      rfl
  | true =>
      rw [← hSum] at hMsb
      rw [if_pos, if_pos rfl, UInt16.toBitVec_xor, hShift, hShift,
        BitVec.shiftLeft_xor_distrib]
      · change _ ^^^ poly ^^^ _ = _
        ac_rfl
      · rw [ne_eq, and_top_eq_zero, hMsb]
        decide

/-
  All rounds of an entry.  The second word only moves up, and
  is gone in the end.
-/
theorem rounds_eq
    (n : Nat)
    (crc c : UInt16) :
    let r :=
      (List.range n).foldl (fun r _ => tableRound r.1 r.2)
        (crc, c)
    r.1.toBitVec ^^^ r.2.toBitVec =
        Crc.bitSteps poly n (crc.toBitVec ^^^ c.toBitVec) ∧
      r.2.toBitVec = c.toBitVec <<< n := by
  induction n with
  | zero => exact ⟨rfl, (BitVec.shiftLeft_zero _).symm⟩
  | succ n ih =>
      dsimp only at ih ⊢
      rw [List.range_succ, List.foldl_append]
      generalize
        (List.range n).foldl (fun r _ => tableRound r.1 r.2)
          (crc, c) = r at ih
      constructor
      · change
          (tableRound r.1 r.2).1.toBitVec ^^^
            (tableRound r.1 r.2).2.toBitVec = _
        rw [tableRound_eq, ih.1]
        exact (Function.iterate_succ_apply' _ _ _).symm
      · change r.2.toBitVec <<< 1 = _
        rw [ih.2, ← BitVec.shiftLeft_add]

/- An entry of the table is the remainder of its number. -/
theorem table_eq
    (i : UInt8) :
    (table i).toBitVec = Crc.tableEntry poly i.toBitVec := by
  rcases rounds_eq 8 0 (i.toUInt16 <<< 8) with ⟨hSum, hGone⟩
  have hTop :
      (i.toUInt16 <<< 8).toBitVec = Crc.atTop i.toBitVec := rfl
  rw [hTop, Crc.shiftLeft_atTop _ (by decide)] at hGone
  rw [hGone, BitVec.xor_zero, hTop] at hSum
  exact hSum.trans (congrArg _ (BitVec.zero_xor))

/- A look-up in the table divides by the polynomial. -/
theorem update_eq
    (crc : UInt16)
    (c : UInt8) :
    (update crc c).toBitVec =
      Crc.byteStep poly crc.toBitVec c.toBitVec := by
  rw [← Crc.tableStep_eq poly (by decide)]
  unfold update Crc.tableStep
  rw [UInt16.toBitVec_xor, table_eq]
  rfl

/- The checksum of some bytes is their remainder. -/
theorem remainder_compute
    (bytes : List UInt8) :
    (compute bytes).toBitVec =
      Crc.remainder poly 0xFFFF#16
        (bytes.map UInt8.toBitVec) := by
  have hFrom :
      ∀ crc : UInt16,
        (bytes.foldl update crc).toBitVec =
          Crc.remainder poly crc.toBitVec
            (bytes.map UInt8.toBitVec) := by
    induction bytes with
    | nil => exact fun crc => rfl
    | cons byte bytes ih =>
        intro crc
        rw [List.foldl_cons, ih, List.map_cons,
          Crc.remainder_cons, update_eq]
  exact hFrom 0xFFFF

/- The bytes of a word are those of its remainder. -/
theorem bigEndian_eq
    (w : UInt16) :
    (bigEndian w).map UInt8.toBitVec =
      Crc.topBytes 2 w.toBitVec := by
  have hLow :
      Crc.topByte (w.toBitVec <<< 8) =
        w.toBitVec.setWidth 8 := by
    apply BitVec.eq_of_getLsbD_eq
    intro i hByte
    unfold Crc.topByte
    rw [BitVec.getLsbD_setWidth, BitVec.getLsbD_setWidth,
      BitVec.getLsbD_ushiftRight, BitVec.getLsbD_shiftLeft]
    have hWord : 16 - 8 + i < 16 := by omega
    have hPlace : ¬ 16 - 8 + i < 8 := by omega
    have hBack : 16 - 8 + i - 8 = i := by omega
    rw [hBack, decide_eq_true hWord, decide_eq_false hPlace]
    rfl
  unfold bigEndian Crc.topBytes Crc.topBytes Crc.topBytes
  rw [hLow]
  rfl

/-
  A checksum stands behind the bytes it is of exactly if
  nothing is left when it is divided along with them.
-/
theorem compute_append_eq_zero
    {body trailer : List UInt8}
    (hLength : trailer.length = 2) :
    compute (body ++ trailer) = 0 ↔
      trailer = bigEndian (compute body) := by
  have hInjective : Function.Injective UInt8.toBitVec :=
    fun _ _ hEq => UInt8.toBitVec_inj.mp hEq
  rw [← UInt16.toBitVec_inj, remainder_compute, List.map_append,
    Crc.remainder_append, ← remainder_compute]
  change Crc.remainder poly _ _ = 0#16 ↔ _
  rw [Crc.remainder_eq_zero_iff (n := 2) rfl rfl (by decide)
    (by rw [List.length_map, hLength]), ← bigEndian_eq]
  exact (List.map_injective_iff.mpr hInjective).eq_iff

/-
  Damage to two adjacent bytes at most changes what is left.
-/
theorem compute_burst
    {first a b last : List UInt8}
    (hLength : a.length = b.length)
    (hShort : a.length ≤ 2)
    (hDamaged : a ≠ b) :
    compute (first ++ a ++ last) ≠
      compute (first ++ b ++ last) := by
  have hInjective : Function.Injective UInt8.toBitVec :=
    fun _ _ hEq => UInt8.toBitVec_inj.mp hEq
  rw [ne_eq, ← UInt16.toBitVec_inj, remainder_compute,
    remainder_compute]
  simp only [List.map_append]
  apply Crc.remainder_burst rfl (by decide)
  · rw [List.length_map, List.length_map, hLength]
  · rw [List.length_map]
    omega
  · exact fun hEq =>
      hDamaged (List.map_injective_iff.mpr hInjective hEq)

end Crc16

/-
  A telemetry frame leaves no remainder, and one that was
  damaged in two adjacent bytes at most leaves some.
-/
theorem tmFrame_burst
    {f : TmFramer}
    {context : FrameContext}
    {data : List UInt8}
    {first a b last : List UInt8}
    (hFrame : f.frame context data = first ++ a ++ last)
    (hLength : a.length = b.length)
    (hShort : a.length ≤ 2)
    (hDamaged : a ≠ b) :
    Crc16.compute (f.frame context data) = 0 ∧
      Crc16.compute (first ++ b ++ last) ≠ 0 := by
  have hWhole : Crc16.compute (f.frame context data) = 0 :=
    (Crc16.compute_append_eq_zero rfl).mpr rfl
  refine ⟨hWhole, fun hZero => ?_⟩
  apply Crc16.compute_burst hLength hShort hDamaged
  rw [← hFrame, hWhole, hZero]

/- The first byte of a frame without data. -/
theorem tmFrame_burst_byte :
    Crc16.compute
        ([0xFF] ++
          (({ frameBuffer := 0 } : TmFramer).frame {} []).drop
            1) ≠
      0 := by
  let f : TmFramer := { frameBuffer := 0 }
  have hDamaged : (f.frame {} []).take 1 ≠ [0xFF] := by
    change [hiByte (((1 : UInt16) <<< 1) ||| (spacecraftId <<< 4))] ≠
      [0xFF]
    decide
  exact
    (@tmFrame_burst f {} [] [] _ [0xFF] _
      (List.take_append_drop 1 (f.frame {} [])).symm rfl
      (by decide) hDamaged).2

end LoRaRadio

------------------------------------------------------------
-- Words and Their Bytes
------------------------------------------------------------

namespace LoRaRadio

theorem hiByte_word
    (hi lo : UInt8) :
    hiByte (word hi lo) = hi := by
  apply UInt8.toBitVec_inj.mp
  simp only [word, hiByte, UInt16.toBitVec_or,
    UInt16.toBitVec_shiftLeft, UInt8.toBitVec_toUInt16,
    UInt16.toBitVec_toUInt8, UInt16.toBitVec_shiftRight]
  ext i hBit
  have hByte : 8 + i < 16 := by omega
  simp [hByte, BitVec.getLsbD_eq_getElem hBit]

theorem loByte_word
    (hi lo : UInt8) :
    loByte (word hi lo) = lo := by
  apply UInt8.toBitVec_inj.mp
  simp only [word, loByte, UInt16.toBitVec_or,
    UInt16.toBitVec_shiftLeft, UInt8.toBitVec_toUInt16,
    UInt16.toBitVec_toUInt8]
  ext i hBit
  simp

/- The bytes of a word that was put together from bytes. -/
theorem bigEndian_word
    (hi lo : UInt8) :
    bigEndian (word hi lo) = [hi, lo] := by
  unfold bigEndian
  rw [hiByte_word, loByte_word]

theorem word_eq_iff
    {hi lo : UInt8}
    {w : UInt16} :
    word hi lo = w ↔ [hi, lo] = bigEndian w := by
  constructor
  · rintro rfl
    exact (bigEndian_word hi lo).symm
  · intro hBytes
    rcases List.cons_eq_cons.mp hBytes with ⟨hHigh, hRest⟩
    rcases List.cons_eq_cons.mp hRest with ⟨hLow, -⟩
    rw [hHigh, hLow, word_hiByte_loByte]

end LoRaRadio
