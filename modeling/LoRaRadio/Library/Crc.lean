import Mathlib.Logic.Function.Iterate

/-
  Cyclic redundancy checks, most significant bit first.

  A remainder of `w` bits is a polynomial over two elements.
  Adding a byte is eight steps of a division by a fixed
  polynomial.  The steps are linear, so what an error does to
  a remainder does not depend on the data it befell.

  Main declarations:
    * `Crc.bitStep`, `Crc.byteStep` and `Crc.remainder`
    * `Crc.tableStep_eq`
    * `Crc.remainder_burst`
    * `Crc.remainder_eq_zero_iff`
-/

------------------------------------------------------------
-- Division
------------------------------------------------------------

namespace LoRaRadio

namespace Crc

variable {w : Nat}
variable (poly : BitVec w)

/-
  One step of the division: the remainder moves up by a bit,
  and the polynomial is subtracted if a bit falls out.
-/
def bitStep
    (s : BitVec w) : BitVec w :=
  if s.msb then (s <<< 1) ^^^ poly else s <<< 1

def bitSteps
    (n : Nat)
    (s : BitVec w) : BitVec w :=
  (bitStep poly)^[n] s

/- A byte at the top of a remainder. -/
def atTop
    (b : BitVec 8) : BitVec w :=
  b.setWidth w <<< (w - 8)

/- The remainder after one more byte. -/
def byteStep
    (s : BitVec w)
    (b : BitVec 8) : BitVec w :=
  bitSteps poly 8 (s ^^^ atTop b)

def remainder
    (s : BitVec w)
    (bytes : List (BitVec 8)) : BitVec w :=
  bytes.foldl (byteStep poly) s

@[simp] theorem remainder_nil
    (s : BitVec w) :
    remainder poly s [] = s := rfl

@[simp] theorem remainder_cons
    (s : BitVec w)
    (b : BitVec 8)
    (bytes : List (BitVec 8)) :
    remainder poly s (b :: bytes) =
      remainder poly (byteStep poly s b) bytes := rfl

theorem remainder_append
    (s : BitVec w)
    (first second : List (BitVec 8)) :
    remainder poly s (first ++ second) =
      remainder poly (remainder poly s first) second :=
  List.foldl_append

theorem bitSteps_succ
    (n : Nat)
    (s : BitVec w) :
    bitSteps poly (n + 1) s =
      bitSteps poly n (bitStep poly s) :=
  Function.iterate_succ_apply _ _ _

end Crc

end LoRaRadio

------------------------------------------------------------
-- Linearity
------------------------------------------------------------

namespace LoRaRadio

namespace Crc

variable {w : Nat}
variable (poly : BitVec w)

theorem xor_cancel_right
    (a b c : BitVec w) :
    (a ^^^ c) ^^^ (b ^^^ c) = a ^^^ b := by
  rw [BitVec.xor_assoc, BitVec.xor_comm b, ← BitVec.xor_assoc c,
    BitVec.xor_self, BitVec.zero_xor]

theorem bitStep_xor
    (a b : BitVec w) :
    bitStep poly (a ^^^ b) =
      bitStep poly a ^^^ bitStep poly b := by
  unfold bitStep
  rw [BitVec.msb_xor, BitVec.shiftLeft_xor_distrib]
  cases a.msb
  · cases b.msb
    · rfl
    · exact BitVec.xor_assoc _ _ _
  · cases b.msb
    · simp only [Bool.xor_false, if_true, Bool.false_eq_true,
        if_false]
      ac_rfl
    · exact (xor_cancel_right _ _ poly).symm

theorem bitSteps_xor
    (n : Nat)
    (a b : BitVec w) :
    bitSteps poly n (a ^^^ b) =
      bitSteps poly n a ^^^ bitSteps poly n b := by
  induction n generalizing a b with
  | zero => rfl
  | succ n ih =>
      simp only [bitSteps_succ, bitStep_xor]
      exact ih _ _

@[simp] theorem bitSteps_zero
    (n : Nat) :
    bitSteps poly n 0#w = 0#w := by
  have hSelf := bitSteps_xor poly n 0#w 0#w
  rw [BitVec.xor_self, BitVec.xor_self] at hSelf
  exact hSelf

/-
  The remainders of two words of one length differ by the
  remainder of their difference.
-/
theorem remainder_xor
    (s t : BitVec w)
    {a b : List (BitVec 8)}
    (hLength : a.length = b.length) :
    remainder poly s a ^^^ remainder poly t b =
      remainder poly (s ^^^ t)
        (List.zipWith (· ^^^ ·) a b) := by
  induction a generalizing b s t with
  | nil =>
      rw [List.length_eq_zero_iff.mp hLength.symm]
      rfl
  | cons x a ih =>
      cases b with
      | nil => cases hLength
      | cons y b =>
          have hTop :
              (atTop x ^^^ atTop y : BitVec w) =
                atTop (x ^^^ y) := by
            unfold atTop
            rw [BitVec.setWidth_xor,
              BitVec.shiftLeft_xor_distrib]
          have hStep :
              byteStep poly s x ^^^ byteStep poly t y =
                byteStep poly (s ^^^ t) (x ^^^ y) := by
            unfold byteStep
            rw [← bitSteps_xor, ← hTop]
            congr 1
            ac_rfl
          rw [remainder_cons, remainder_cons,
            List.zipWith_cons_cons, remainder_cons, ← hStep]
          exact ih _ _ (Nat.succ.inj hLength)

end Crc

end LoRaRadio

------------------------------------------------------------
-- A Byte at a Time
------------------------------------------------------------

namespace LoRaRadio

namespace Crc

variable {w : Nat}
variable (poly : BitVec w)

/- The bits of `s` from place `from` on are zero. -/
def ZeroFrom
    (place : Nat)
    (s : BitVec w) : Prop :=
  ∀ i, place ≤ i → s.getLsbD i = false

/- Steps that lose no bit are a shift. -/
theorem bitSteps_eq_shiftLeft
    {n : Nat}
    {s : BitVec w}
    (hZero : ZeroFrom (w - n) s)
    (hWidth : n ≤ w) :
    bitSteps poly n s = s <<< n := by
  induction n generalizing s with
  | zero => exact (BitVec.shiftLeft_zero s).symm
  | succ n ih =>
      have hMsb : s.msb = false := by
        rw [BitVec.msb_eq_getLsbD_last]
        exact hZero (w - 1) (by omega)
      have hStep : bitStep poly s = s <<< 1 := by
        unfold bitStep
        rw [hMsb]
        rfl
      rw [bitSteps_succ, hStep, ih ?_ (by omega),
        ← BitVec.shiftLeft_add, Nat.add_comm]
      intro i hPlace
      rw [BitVec.getLsbD_shiftLeft]
      by_cases hBit : i < 1
      · simp [hBit]
      · rw [hZero (i - 1) (by omega), Bool.and_false]

/- An entry of the table of a byte-wise implementation. -/
def tableEntry
    (i : BitVec 8) : BitVec w :=
  bitSteps poly 8 (atTop i)

/- The byte at the top of a remainder. -/
def topByte
    (s : BitVec w) : BitVec 8 :=
  (s >>> (w - 8)).setWidth 8

/- A step of that implementation. -/
def tableStep
    (s : BitVec w)
    (b : BitVec 8) : BitVec w :=
  (s <<< 8) ^^^ tableEntry poly (topByte s ^^^ b)

/- The top byte of a remainder and the rest of it. -/
theorem zeroFrom_withoutTop
    (hWidth : 8 ≤ w)
    (s : BitVec w) :
    ZeroFrom (w - 8) (s ^^^ atTop (topByte s)) := by
  intro i hPlace
  unfold atTop topByte
  by_cases hBit : i < w
  · simp only [BitVec.getLsbD_xor, BitVec.getLsbD_shiftLeft,
      BitVec.getLsbD_setWidth, BitVec.getLsbD_ushiftRight]
    have hSub : w - 8 + (i - (w - 8)) = i := by omega
    have hByte : i - (w - 8) < 8 := by omega
    have hWord : i - (w - 8) < w := by omega
    have hNot : ¬ i < w - 8 := by omega
    simp [hSub, hByte, hWord, hNot, hBit]
  · exact BitVec.getLsbD_of_ge _ _ (by omega)

theorem shiftLeft_atTop
    (b : BitVec 8)
    (hWidth : 8 ≤ w) :
    (atTop b : BitVec w) <<< 8 = 0#w := by
  unfold atTop
  rw [← BitVec.shiftLeft_add,
    BitVec.shiftLeft_eq_zero (by omega)]

/- The table gives the remainder the bits give. -/
theorem tableStep_eq
    (hWidth : 8 ≤ w)
    (s : BitVec w)
    (b : BitVec 8) :
    tableStep poly s b = byteStep poly s b := by
  have hSplit :
      s ^^^ atTop b =
        (s ^^^ atTop (topByte s)) ^^^
          atTop (topByte s ^^^ b) := by
    unfold atTop
    rw [BitVec.setWidth_xor, BitVec.shiftLeft_xor_distrib,
      ← BitVec.xor_assoc, BitVec.xor_assoc s, BitVec.xor_self,
      BitVec.xor_zero]
  unfold byteStep tableStep tableEntry
  rw [hSplit, bitSteps_xor poly,
    bitSteps_eq_shiftLeft poly (zeroFrom_withoutTop hWidth s)
      hWidth,
    BitVec.shiftLeft_xor_distrib, shiftLeft_atTop _ hWidth,
    BitVec.xor_zero]

end Crc

end LoRaRadio

------------------------------------------------------------
-- Errors
------------------------------------------------------------

namespace LoRaRadio

namespace Crc

variable {w : Nat}
variable {poly : BitVec w}
variable {s : BitVec w}

/- The bits of `s` below a place are zero. -/
def ZeroBelow
    (place : Nat)
    (s : BitVec w) : Prop :=
  ∀ i, i < place → s.getLsbD i = false

theorem eq_zero_of_zero
    {place : Nat}
    (hBelow : ZeroBelow place s)
    (hFrom : ZeroFrom place s) :
    s = 0#w := by
  apply BitVec.eq_of_getLsbD_eq
  intro i _
  rw [BitVec.getLsbD_zero]
  by_cases hPlace : i < place
  · exact hBelow i hPlace
  · exact hFrom i (by omega)

/-
  A step back from zeros at the bottom: with an odd
  polynomial no bit fell out, and the zeros move down.
-/
theorem zero_of_bitStep
    {place : Nat}
    (hOdd : poly.getLsbD 0 = true)
    (hPlace : place + 1 ≤ w)
    (hZero : ZeroBelow (place + 1) (bitStep poly s)) :
    s.msb = false ∧ bitStep poly s = s <<< 1 ∧
      ZeroBelow place s := by
  have hMsb : s.msb = false := by
    by_contra hSet
    have hBit := hZero 0 (by omega)
    unfold bitStep at hBit
    rw [if_pos (by simpa using hSet),
      BitVec.getLsbD_xor, BitVec.getLsbD_shiftLeft, hOdd]
      at hBit
    simp at hBit
  have hStep : bitStep poly s = s <<< 1 := by
    unfold bitStep
    rw [hMsb]
    rfl
  refine ⟨hMsb, hStep, fun i hBelow => ?_⟩
  have hBit := hZero (i + 1) (by omega)
  rw [hStep, BitVec.getLsbD_shiftLeft] at hBit
  have hWord : i + 1 < w := by omega
  simpa [hWord] using hBit

theorem zero_of_bitSteps
    {n place : Nat}
    (hOdd : poly.getLsbD 0 = true)
    (hPlace : place + n ≤ w)
    (hZero : ZeroBelow (place + n) (bitSteps poly n s)) :
    ZeroBelow place s ∧ ZeroFrom (w - n) s := by
  induction n generalizing s place with
  | zero =>
      exact ⟨hZero, fun i hBit =>
        BitVec.getLsbD_of_ge _ _ hBit⟩
  | succ n ih =>
      have hSum : place + (n + 1) = place + 1 + n := by omega
      rw [bitSteps_succ, hSum] at hZero
      rcases ih (by omega) hZero with ⟨hBelow, hFrom⟩
      rcases zero_of_bitStep hOdd (by omega) hBelow with
        ⟨hMsb, hStep, hLow⟩
      refine ⟨hLow, fun i hBit => ?_⟩
      by_cases hWord : i + 1 < w
      · have hNext := hFrom (i + 1) (by omega)
        rw [hStep, BitVec.getLsbD_shiftLeft] at hNext
        simpa [hWord] using hNext
      · rw [BitVec.msb_eq_getLsbD_last] at hMsb
        by_cases hLast : i = w - 1
        · rwa [hLast]
        · exact BitVec.getLsbD_of_ge _ _ (by omega)

theorem zeroBelow_atTop
    (b : BitVec 8) :
    ZeroBelow (w - 8) (atTop b : BitVec w) := by
  intro i hPlace
  unfold atTop
  rw [BitVec.getLsbD_shiftLeft]
  simp [hPlace]

theorem eq_zero_of_atTop
    {b : BitVec 8}
    (hWidth : 8 ≤ w)
    (hZero : ZeroFrom (w - 8) (atTop b : BitVec w)) :
    b = 0#8 := by
  apply BitVec.eq_of_getLsbD_eq
  intro i hByte
  have hBit := hZero (w - 8 + i) (by omega)
  unfold atTop at hBit
  rw [BitVec.getLsbD_shiftLeft] at hBit
  have hWord : w - 8 + i < w := by omega
  have hSmall : i < w := by omega
  simpa [hWord, hSmall] using hBit

/- A byte back from zeros at the bottom. -/
theorem zero_of_byteStep
    {b : BitVec 8}
    {place : Nat}
    (hOdd : poly.getLsbD 0 = true)
    (hPlace : place + 8 ≤ w)
    (hZero : ZeroBelow (place + 8) (byteStep poly s b)) :
    ZeroBelow place s ∧ (s = 0#w → b = 0#8) := by
  rcases zero_of_bitSteps hOdd hPlace hZero with
    ⟨hBelow, hFrom⟩
  constructor
  · intro i hBit
    have hHere := hBelow i hBit
    rw [BitVec.getLsbD_xor,
      zeroBelow_atTop b i (by omega), Bool.xor_false] at hHere
    exact hHere
  · intro hState
    rw [hState, BitVec.zero_xor] at hFrom
    exact eq_zero_of_atTop (by omega) hFrom

theorem zero_of_remainder
    {bytes : List (BitVec 8)}
    {place : Nat}
    (hOdd : poly.getLsbD 0 = true)
    (hPlace : place + 8 * bytes.length ≤ w)
    (hZero :
      ZeroBelow (place + 8 * bytes.length)
        (remainder poly s bytes)) :
    ZeroBelow place s := by
  induction bytes generalizing s place with
  | nil => exact hZero
  | cons b bytes ih =>
      have hSum :
          place + 8 * (b :: bytes).length =
            place + 8 + 8 * bytes.length := by
        rw [List.length_cons]
        omega
      rw [hSum] at hPlace hZero
      have hNext := ih (by omega) hZero
      exact (zero_of_byteStep hOdd (by omega) hNext).1

/- A short error that leaves no trace is none. -/
theorem zeros_of_remainder
    {bytes : List (BitVec 8)}
    (hOdd : poly.getLsbD 0 = true)
    (hShort : 8 * bytes.length ≤ w)
    (hZero : remainder poly 0#w bytes = 0#w) :
    ∀ b ∈ bytes, b = 0#8 := by
  induction bytes with
  | nil => exact fun b hMem => absurd hMem List.not_mem_nil
  | cons b bytes ih =>
      rw [List.length_cons] at hShort
      rw [remainder_cons] at hZero
      have hEnd :
          ZeroBelow (8 + 8 * bytes.length)
            (remainder poly (byteStep poly 0#w b) bytes) := by
        rw [hZero]
        exact fun i _ => BitVec.getLsbD_zero
      have hNext : ZeroBelow 8 (byteStep poly 0#w b) :=
        zero_of_remainder hOdd (by omega) hEnd
      have hBack :
          ZeroBelow 0 0#w ∧ (0#w = 0#w → b = 0#8) :=
        zero_of_byteStep hOdd (by omega) hNext
      have hFirst : b = 0#8 := hBack.2 rfl
      have hStep : byteStep poly 0#w b = 0#w := by
        rw [hFirst]
        unfold byteStep atTop
        simp
      rw [hStep] at hZero
      intro b' hMem
      rcases List.mem_cons.mp hMem with hHead | hTail
      · exact hHead.trans hFirst
      · exact ih (by omega) hZero b' hTail

theorem byteStep_inj
    {t : BitVec w}
    (b : BitVec 8)
    (hOdd : poly.getLsbD 0 = true)
    (hWidth : 8 ≤ w)
    (hEq : byteStep poly s b = byteStep poly t b) :
    s = t := by
  have hDiff : bitSteps poly 8 (s ^^^ t) = 0#w := by
    unfold byteStep at hEq
    rw [← xor_cancel_right s t (atTop b), bitSteps_xor, hEq,
      BitVec.xor_self]
  have hZero :
      ZeroBelow (w - 8 + 8) (bitSteps poly 8 (s ^^^ t)) := by
    rw [hDiff]
    exact fun i _ => BitVec.getLsbD_zero
  rcases zero_of_bitSteps hOdd (by omega) hZero with
    ⟨hBelow, hFrom⟩
  exact BitVec.xor_eq_zero_iff.mp
    (eq_zero_of_zero hBelow hFrom)

theorem remainder_inj
    {t : BitVec w}
    {bytes : List (BitVec 8)}
    (hOdd : poly.getLsbD 0 = true)
    (hWidth : 8 ≤ w)
    (hEq : remainder poly s bytes = remainder poly t bytes) :
    s = t := by
  induction bytes generalizing s t with
  | nil => exact hEq
  | cons b bytes ih =>
      exact byteStep_inj b hOdd hWidth (ih hEq)

theorem eq_of_zipWith_xor
    {a b : List (BitVec 8)}
    (hLength : a.length = b.length)
    (hZero : ∀ x ∈ List.zipWith (· ^^^ ·) a b, x = 0#8) :
    a = b := by
  induction a generalizing b with
  | nil => exact (List.length_eq_zero_iff.mp hLength.symm).symm
  | cons x a ih =>
      cases b with
      | nil => cases hLength
      | cons y b =>
          rw [List.zipWith_cons_cons] at hZero
          have hHead := hZero _ List.mem_cons_self
          have hTail := ih (Nat.succ.inj hLength)
            fun z hMem => hZero z (List.mem_cons_of_mem _ hMem)
          rw [BitVec.xor_eq_zero_iff.mp hHead, hTail]

/-
  Words that differ in one burst of at most `w` bits, here
  within whole bytes, have different remainders.
-/
theorem remainder_burst
    {first last a b : List (BitVec 8)}
    (hOdd : poly.getLsbD 0 = true)
    (hWidth : 8 ≤ w)
    (hLength : a.length = b.length)
    (hShort : 8 * a.length ≤ w)
    (hNe : a ≠ b) :
    remainder poly s (first ++ a ++ last) ≠
      remainder poly s (first ++ b ++ last) := by
  intro hEq
  simp only [remainder_append] at hEq
  have hBurst := remainder_inj hOdd hWidth hEq
  have hDiff :
      remainder poly 0#w (List.zipWith (· ^^^ ·) a b) =
        0#w := by
    have hXor :=
      remainder_xor poly (remainder poly s first)
        (remainder poly s first) hLength
    rwa [hBurst, BitVec.xor_self, BitVec.xor_self,
      eq_comm] at hXor
  have hSize :
      (List.zipWith (· ^^^ ·) a b).length = a.length := by
    rw [List.length_zipWith, hLength, Nat.min_self]
  have hZero := zeros_of_remainder hOdd
    (by rwa [hSize]) hDiff
  exact hNe (eq_of_zipWith_xor hLength hZero)

end Crc

end LoRaRadio

------------------------------------------------------------
-- Checksums
------------------------------------------------------------

namespace LoRaRadio

namespace Crc

variable {w : Nat}
variable {poly : BitVec w}
variable {s : BitVec w}

/- The first bytes of a remainder, most significant first. -/
def topBytes :
    Nat → BitVec w → List (BitVec 8)
| 0, _ => []
| n + 1, s => topByte s :: topBytes n (s <<< 8)

@[simp] theorem length_topBytes
    (n : Nat)
    (s : BitVec w) :
    (topBytes n s).length = n := by
  induction n generalizing s with
  | zero => rfl
  | succ n ih => rw [topBytes, List.length_cons, ih]

/- A remainder followed by its own bytes moves out. -/
theorem remainder_topBytes
    (hWidth : 8 ≤ w)
    (n : Nat) :
    remainder poly s (topBytes n s) = s <<< (8 * n) := by
  induction n generalizing s with
  | zero => exact (BitVec.shiftLeft_zero s).symm
  | succ n ih =>
      have hStep : byteStep poly s (topByte s) = s <<< 8 := by
        unfold byteStep
        rw [bitSteps_eq_shiftLeft poly
          (zeroFrom_withoutTop hWidth s) hWidth,
          BitVec.shiftLeft_xor_distrib,
          shiftLeft_atTop _ hWidth, BitVec.xor_zero]
      rw [topBytes, remainder_cons, hStep, ih,
        ← BitVec.shiftLeft_add, Nat.mul_add_one, Nat.add_comm]

/-
  A word and a checksum leave no remainder exactly if the
  checksum is the remainder of the word.
-/
theorem remainder_eq_zero_iff
    {n : Nat}
    {checksum : List (BitVec 8)}
    (hOdd : poly.getLsbD 0 = true)
    (hWidth : 8 * n = w)
    (hPos : 0 < n)
    (hLength : checksum.length = n) :
    remainder poly s checksum = 0#w ↔
      checksum = topBytes n s := by
  have hSelf : remainder poly s (topBytes n s) = 0#w := by
    rw [remainder_topBytes (by omega),
      BitVec.shiftLeft_eq_zero (by omega)]
  constructor
  · intro hZero
    by_contra hNe
    have hBurst :
        remainder poly s ([] ++ checksum ++ []) ≠
          remainder poly s ([] ++ topBytes n s ++ []) :=
      remainder_burst hOdd (by omega)
        (hLength.trans (length_topBytes n s).symm) (by omega)
        hNe
    simp only [List.nil_append, List.append_nil] at hBurst
    exact hBurst (hZero.trans hSelf.symm)
  · exact fun hEq => hEq ▸ hSelf

end Crc

end LoRaRadio
