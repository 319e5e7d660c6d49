import LoRaRadio.Config.WrittenValues

/-
  Which texts the number parsers read exactly.

  A text that is a numeral in range is stored as it is.  Any
  other text should be turned away; the parsers turn away
  only those the conversions of the standard library throw
  on, and those the narrowing that follows rejects.

  Main declarations:
    * `Exact`
    * `exact_iff`
    * `parse_exact_iff`
-/

------------------------------------------------------------
-- Numerals
------------------------------------------------------------

namespace LoRaRadio

open CStrings

/-
  The number a text denotes if all of it is a decimal
  numeral, after a minus sign if there may be one.
-/
def numeral?
    (signed : Bool)
    (v : Text) : Option Int :=
  if signed then
    signedDecimal? v
  else
    (decimal? v).map fun (n : Nat) => (n : Int)

namespace CStrings.NumberText

/- The number of a text, by its sign and its digits. -/
def value
    (t : NumberText) : Int :=
  if t.negative then
    -(digitsValue t.digits : Int)
  else
    digitsValue t.digits

/- Nothing but digits, and a minus sign if there may be one. -/
def Bare
    (t : NumberText)
    (signed : Bool) : Prop :=
  t.blank = [] ∧ t.rest = [] ∧
    (t.sign = [] ∨ signed = true ∧ t.sign = ['-'])

end CStrings.NumberText

theorem decimal?_eq_some
    {v : Text}
    {n : Nat} :
    decimal? v = some n ↔ Decimal v n := by
  constructor
  · exact decimal_of_decimal?
  · intro hDecimal
    unfold decimal?
    rw [if_pos ⟨hDecimal.1, hDecimal.2.1⟩, hDecimal.2.2]

theorem not_decimal_minus
    {w : Text}
    {n : Nat} :
    ¬ Decimal ('-' :: w) n := by
  intro hDecimal
  have hDigit :=
    isDigit_of_decimal hDecimal '-' List.mem_cons_self
  exact absurd hDigit (by decide)

theorem signedDecimal?_eq_some
    {v : Text}
    {n : Int} :
    signedDecimal? v = some n ↔
      (∃ m : Nat, Decimal v m ∧ (m : Int) = n) ∨
        ∃ (w : Text) (m : Nat),
          v = '-' :: w ∧ Decimal w m ∧ -(m : Int) = n := by
  unfold signedDecimal?
  split
  · next w =>
      simp only [Option.map_eq_some_iff, decimal?_eq_some,
        List.cons.injEq, true_and]
      constructor
      · intro hDigits
        rcases hDigits with ⟨m, hDecimal, hValue⟩
        exact .inr ⟨w, m, rfl, hDecimal, hValue⟩
      · intro hEither
        rcases hEither with ⟨m, hDecimal, -⟩ |
          ⟨w', m, rfl, hDecimal, hValue⟩
        · exact absurd hDecimal not_decimal_minus
        · exact ⟨m, hDecimal, hValue⟩
  · next hMinus =>
      simp only [Option.map_eq_some_iff, decimal?_eq_some]
      constructor
      · exact .inl
      · intro hEither
        rcases hEither with hPlain | ⟨w, m, rfl, -⟩
        · exact hPlain
        · exact absurd rfl (hMinus w)

theorem decimal_digits
    {v : Text}
    (hSome : (splitNumber v).digits ≠ []) :
    Decimal (splitNumber v).digits
      (digitsValue (splitNumber v).digits) :=
  ⟨hSome, List.all_eq_true.mpr fun _ hMem =>
    isDigit_of_mem_digits hMem, rfl⟩

/- The text and the number of a text of digits. -/
theorem decimal_of_parts
    {v : Text}
    (hBlank : (splitNumber v).blank = [])
    (hRest : (splitNumber v).rest = [])
    (hSign : (splitNumber v).sign = [])
    (hSome : (splitNumber v).digits ≠ []) :
    ∃ m : Nat, Decimal v m ∧
      (m : Int) = (splitNumber v).value := by
  have hText := text_splitNumber v
  unfold NumberText.text at hText
  rw [hBlank, hRest, hSign, List.append_nil] at hText
  have hDigits := decimal_digits hSome
  refine ⟨digitsValue (splitNumber v).digits, ?_, ?_⟩
  · conv_lhs => rw [← hText]
    exact hDigits
  · simp [NumberText.value, NumberText.negative, hSign]

/- And of one that begins with a minus sign. -/
theorem minus_of_parts
    {v : Text}
    (hBlank : (splitNumber v).blank = [])
    (hRest : (splitNumber v).rest = [])
    (hSign : (splitNumber v).sign = ['-'])
    (hSome : (splitNumber v).digits ≠ []) :
    ∃ (w : Text) (m : Nat),
      v = '-' :: w ∧ Decimal w m ∧
        -(m : Int) = (splitNumber v).value := by
  have hText := text_splitNumber v
  unfold NumberText.text at hText
  rw [hBlank, hRest, hSign, List.append_nil] at hText
  refine ⟨(splitNumber v).digits,
    digitsValue (splitNumber v).digits, hText.symm,
    decimal_digits hSome, ?_⟩
  simp [NumberText.value, NumberText.negative, hSign]

/- A numeral is a text that consists of sign and digits. -/
theorem numeral?_iff
    (signed : Bool)
    (v : Text)
    (n : Int) :
    numeral? signed v = some n ↔
      (splitNumber v).Bare signed ∧
        (splitNumber v).digits ≠ [] ∧
        (splitNumber v).value = n := by
  have hPlain : ∀ m : Nat, Decimal v m →
      (splitNumber v).Bare signed ∧
        (splitNumber v).digits ≠ [] ∧
        (splitNumber v).value = m := by
    intro m hDecimal
    rw [splitNumber_digits (isDigit_of_decimal hDecimal)]
    exact ⟨⟨rfl, rfl, .inl rfl⟩, hDecimal.1,
      congrArg Int.ofNat hDecimal.2.2⟩
  unfold numeral?
  cases signed with
  | false =>
      simp only [Bool.false_eq_true, if_false,
        Option.map_eq_some_iff, decimal?_eq_some]
      constructor
      · intro hNumeral
        rcases hNumeral with ⟨m, hDecimal, rfl⟩
        exact hPlain m hDecimal
      · intro hParts
        rcases hParts with
          ⟨⟨hBlank, hRest, hSign | ⟨hSigned, -⟩⟩, hSome, rfl⟩
        · exact decimal_of_parts hBlank hRest hSign hSome
        · cases hSigned
  | true =>
      simp only [if_true, signedDecimal?_eq_some]
      constructor
      · intro hNumeral
        rcases hNumeral with ⟨m, hDecimal, rfl⟩ |
          ⟨w, m, rfl, hDecimal, rfl⟩
        · exact hPlain m hDecimal
        · rw [splitNumber_minus (isDigit_of_decimal hDecimal)]
          exact ⟨⟨rfl, rfl, .inr ⟨rfl, rfl⟩⟩, hDecimal.1,
            congrArg (fun k : Nat => -(k : Int))
              hDecimal.2.2⟩
      · intro hParts
        rcases hParts with
          ⟨⟨hBlank, hRest, hSign | ⟨-, hSign⟩⟩, hSome, rfl⟩
        · exact .inl
            (decimal_of_parts hBlank hRest hSign hSome)
        · exact .inr
            (minus_of_parts hBlank hRest hSign hSome)

end LoRaRadio

------------------------------------------------------------
-- Exact Parsing
------------------------------------------------------------

namespace LoRaRadio

open CStrings

/-
  The interface of the parsers: whether `v` is accepted, and
  what `out` holds afterwards.
-/
def storeInto
    {α : Type}
    (parse : Text → Option α)
    (v : Text)
    (out : α) : Bool × α :=
  match parse v with
  | some a => (true, a)
  | none => (false, out)

/- The values of an integer type, and their numbers. -/
structure Target
    (α : Type) where
  toInt : α → Int
  signed : Bool
  least : Int
  greatest : Int

namespace Target

def uint32 : Target UInt32 where
  toInt n := n.toNat
  signed := false
  least := 0
  greatest := 2 ^ 32 - 1

def uint8 : Target UInt8 where
  toInt n := n.toNat
  signed := false
  least := 0
  greatest := 2 ^ 8 - 1

def int8 : Target Int8 where
  toInt n := n.toInt
  signed := true
  least := -128
  greatest := 127

variable {α : Type}

/- All of `v` is a numeral of the number `n`, in range. -/
def Denotes
    (target : Target α)
    (v : Text)
    (n : Int) : Prop :=
  numeral? target.signed v = some n ∧
    target.least ≤ n ∧ n ≤ target.greatest

end Target

/-
  The parser accepts `v` if and only if it is a numeral in
  range, and stores its number; otherwise `out` is as it
  was.
-/
structure Exact
    {α : Type}
    (target : Target α)
    (parse : Text → Option α)
    (v : Text)
    (out : α) : Prop where
  answer :
    (storeInto parse v out).1 = true ↔
      ∃ n, target.Denotes v n
  stored :
    ∀ n, target.Denotes v n →
      target.toInt (storeInto parse v out).2 = n
  unchanged :
    (storeInto parse v out).1 = false →
      (storeInto parse v out).2 = out

/-
  A parser that converts the sign and the digits of a text,
  whatever stands around them, and gets numbers in range
  right.
-/
structure Converts
    {α : Type}
    (target : Target α)
    (convert : Bool → Nat → Option α)
    (parse : Text → Option α) : Prop where
  parse_eq :
    ∀ v, parse v =
      if (splitNumber v).digits = [] then
        none
      else
        convert (splitNumber v).negative
          (digitsValue (splitNumber v).digits)
  inRange :
    ∀ t : NumberText,
      target.least ≤ t.value → t.value ≤ target.greatest →
        ∃ a, convert t.negative (digitsValue t.digits) =
          some a ∧ target.toInt a = t.value

variable {α : Type}
variable {target : Target α}
variable {convert : Bool → Nat → Option α}
variable {parse : Text → Option α}

/-
  Such a parser is exact where it converts nothing, where
  the conversion is turned away, and where there is nothing
  but a numeral in range.
-/
theorem Converts.exact_iff
    (hConverts : Converts target convert parse)
    (v : Text)
    (out : α) :
    Exact target parse v out ↔
      (splitNumber v).digits = [] ∨
        convert (splitNumber v).negative
          (digitsValue (splitNumber v).digits) = none ∨
        (splitNumber v).Bare target.signed ∧
          target.least ≤ (splitNumber v).value ∧
          (splitNumber v).value ≤ target.greatest := by
  have hParse := hConverts.parse_eq v
  have hInRange := hConverts.inRange (splitNumber v)
  have hDenotes : ∀ n, target.Denotes v n ↔
      ((splitNumber v).Bare target.signed ∧
        (splitNumber v).digits ≠ [] ∧
        (splitNumber v).value = n) ∧
      target.least ≤ n ∧ n ≤ target.greatest := by
    intro n
    unfold Target.Denotes
    rw [numeral?_iff]
  have hNone :
      parse v = none → (∀ n, ¬ target.Denotes v n) →
        Exact target parse v out := by
    intro hFails hNot
    constructor
    · simp [storeInto, hFails, hNot]
    · exact fun n hNumeral => absurd hNumeral (hNot n)
    · simp [storeInto, hFails]
  by_cases hDigits : (splitNumber v).digits = []
  case pos =>
    rw [if_pos hDigits] at hParse
    refine iff_of_true (hNone hParse fun n hNumeral => ?_)
      (.inl hDigits)
    exact ((hDenotes n).mp hNumeral).1.2.1 hDigits
  rw [if_neg hDigits] at hParse
  constructor
  · intro hExact
    right
    cases hConvert :
        convert (splitNumber v).negative
          (digitsValue (splitNumber v).digits) with
    | none => exact .inl rfl
    | some a =>
        have hAccepted : (storeInto parse v out).1 = true := by
          simp [storeInto, hParse, hConvert]
        rcases hExact.answer.mp hAccepted with ⟨n, hNumeral⟩
        rcases (hDenotes n).mp hNumeral with
          ⟨⟨hBare, -, rfl⟩, hRange⟩
        exact .inr ⟨hBare, hRange⟩
  · intro hShape
    rcases hShape with hNoDigits | hFails | ⟨hBare, hRange⟩
    · exact absurd hNoDigits hDigits
    · apply hNone (hParse.trans hFails)
      intro n hNumeral
      rcases (hDenotes n).mp hNumeral with
        ⟨⟨hBare, -, rfl⟩, hLow, hHigh⟩
      rcases hInRange hLow hHigh with ⟨a, hSome, -⟩
      cases hFails.symm.trans hSome
    · rcases hInRange hRange.1 hRange.2 with
        ⟨a, hSome, hValue⟩
      have hStored : storeInto parse v out = (true, a) := by
        simp [storeInto, hParse, hSome]
      have hNumeral :
          target.Denotes v (splitNumber v).value :=
        (hDenotes _).mpr ⟨⟨hBare, hDigits, rfl⟩, hRange⟩
      constructor
      · rw [hStored]
        exact iff_of_true rfl ⟨_, hNumeral⟩
      · intro n hOther
        rcases (hDenotes n).mp hOther with ⟨⟨-, -, rfl⟩, -⟩
        rw [hStored]
        exact hValue
      · rw [hStored]
        exact nofun

end LoRaRadio

------------------------------------------------------------
-- The Three Parsers
------------------------------------------------------------

namespace LoRaRadio

open CStrings

/- What `std::stoul` makes of a sign and digits. -/
def stoulOf
    (negative : Bool)
    (n : Nat) : Option Nat :=
  if n < 2 ^ 64 then
    some (if negative then (2 ^ 64 - n) % 2 ^ 64 else n)
  else
    none

/- A number of 64 bits is converted exactly. -/
theorem stoulOf_of_range
    {t : NumberText}
    (hLow : 0 ≤ t.value)
    (hHigh : t.value < 2 ^ 64) :
    stoulOf t.negative (digitsValue t.digits) =
      some t.value.toNat := by
  unfold NumberText.value at *
  unfold stoulOf
  cases hSign : t.negative with
  | true =>
      simp only [hSign, if_true] at hLow hHigh ⊢
      have hZero : digitsValue t.digits = 0 := by omega
      rw [hZero]
      rfl
  | false =>
      simp only [hSign, Bool.false_eq_true, if_false]
        at hLow hHigh ⊢
      rw [if_pos (by omega), Int.toNat_natCast]

theorem stoul_eq
    (v : Text) :
    stoul v =
      if (splitNumber v).digits = [] then
        none
      else
        stoulOf (splitNumber v).negative
          (digitsValue (splitNumber v).digits) := by
  unfold stoul
  rw [scanNumber_eq]
  split
  · next hSome =>
      split at hSome
      · cases hSome
      · next hDigits =>
          cases hSome
          rw [if_neg hDigits]
          rfl
  · next hNone =>
      split at hNone
      · next hDigits => rw [if_pos hDigits]
      · cases hNone

/- What `std::stol` makes of them. -/
def stolOf
    (negative : Bool)
    (n : Nat) : Option Int :=
  match negative with
  | true => if n ≤ 2 ^ 63 then some (-n) else none
  | false => if n < 2 ^ 63 then some n else none

theorem stol_eq
    (v : Text) :
    stol v =
      if (splitNumber v).digits = [] then
        none
      else
        stolOf (splitNumber v).negative
          (digitsValue (splitNumber v).digits) := by
  unfold stol
  rw [scanNumber_eq]
  by_cases hDigits : (splitNumber v).digits = []
  · rw [if_pos hDigits, if_pos hDigits]
  · rw [if_neg hDigits, if_neg hDigits]
    cases (splitNumber v).negative <;> rfl

/- Without a sign the number is that of the digits. -/
theorem bare_unsigned
    {t : NumberText}
    (hBare : t.Bare false) :
    t.negative = false ∧ t.value = digitsValue t.digits := by
  have hSign : t.sign = [] := by
    rcases hBare.2.2 with hNone | ⟨hSigned, -⟩
    · exact hNone
    · cases hSigned
  have hNegative : t.negative = false := by
    unfold NumberText.negative
    rw [hSign]
    rfl
  refine ⟨hNegative, ?_⟩
  unfold NumberText.value
  rw [hNegative]
  rfl

theorem converts_uint32 :
    Converts .uint32
      (fun negative n =>
        (stoulOf negative n).map UInt32.ofNat)
      parseUint32 := by
  constructor
  · intro v
    unfold parseUint32
    rw [stoul_eq]
    split <;> rfl
  · intro t hLow hHigh
    change 0 ≤ t.value at hLow
    change t.value ≤ 2 ^ 32 - 1 at hHigh
    have hRange : t.value.toNat < 2 ^ 32 := by omega
    refine ⟨UInt32.ofNat t.value.toNat, ?_, ?_⟩
    · rw [stoulOf_of_range hLow (by omega)]
      rfl
    · change ((UInt32.ofNat t.value.toNat).toNat : Int) =
        t.value
      rw [UInt32.toNat_ofNat_of_lt' hRange]
      omega

/- The narrowing of `parse_uint8`. -/
def uint8Of
    (n : Nat) : Option UInt8 :=
  if n ≤ 0xFF then some (UInt8.ofNat n) else none

theorem converts_uint8 :
    Converts .uint8
      (fun negative n => (stoulOf negative n).bind uint8Of)
      parseUint8 := by
  constructor
  · intro v
    unfold parseUint8
    rw [stoul_eq]
    split
    · next n hSome =>
        split at hSome
        · cases hSome
        · next hDigits =>
            rw [if_neg hDigits, hSome]
            rfl
    · next hNone =>
        split at hNone
        · next hDigits => rw [if_pos hDigits]
        · next hDigits => rw [if_neg hDigits, hNone]; rfl
  · intro t hLow hHigh
    change 0 ≤ t.value at hLow
    change t.value ≤ 2 ^ 8 - 1 at hHigh
    have hRange : t.value.toNat < 2 ^ 8 := by omega
    refine ⟨UInt8.ofNat t.value.toNat, ?_, ?_⟩
    · rw [stoulOf_of_range hLow (by omega)]
      exact if_pos (by omega)
    · change ((UInt8.ofNat t.value.toNat).toNat : Int) =
        t.value
      rw [UInt8.toNat_ofNat_of_lt' hRange]
      omega

/- The narrowing of `parse_int8`. -/
def int8Of
    (n : Int) : Option Int8 :=
  if n < -128 ∨ 127 < n then none else some (Int8.ofInt n)

/- In the range of the narrowing the conversion is exact. -/
theorem stolOf_of_range
    {negative : Bool}
    {n : Nat}
    {value : Int}
    (hValue : value = if negative then -(n : Int) else n)
    (hRange : -128 ≤ value ∧ value ≤ 127) :
    stolOf negative n = some value := by
  cases negative with
  | true =>
      simp only [if_true] at hValue
      have hFits : n ≤ 2 ^ 63 := by omega
      rw [hValue]
      exact if_pos hFits
  | false =>
      simp only [Bool.false_eq_true, if_false] at hValue
      have hFits : n < 2 ^ 63 := by omega
      rw [hValue]
      exact if_pos hFits

theorem converts_int8 :
    Converts .int8
      (fun negative n => (stolOf negative n).bind int8Of)
      parseInt8 := by
  constructor
  · intro v
    unfold parseInt8
    rw [stol_eq]
    split
    · next n hSome =>
        split at hSome
        · cases hSome
        · next hDigits =>
            rw [if_neg hDigits, hSome]
            rfl
    · next hNone =>
        split at hNone
        · next hDigits => rw [if_pos hDigits]
        · next hDigits => rw [if_neg hDigits, hNone]; rfl
  · intro t hLow hHigh
    have hRange : -128 ≤ t.value ∧ t.value ≤ 127 :=
      ⟨hLow, hHigh⟩
    have hStol :
        stolOf t.negative (digitsValue t.digits) =
          some t.value :=
      stolOf_of_range rfl hRange
    refine ⟨Int8.ofInt t.value, ?_, ?_⟩
    · rw [hStol]
      exact if_neg (by omega)
    · exact Int8.toInt_ofInt_of_le (by omega) (by omega)

end LoRaRadio

------------------------------------------------------------
-- Where the Parsers Are Exact
------------------------------------------------------------

namespace LoRaRadio

open CStrings

namespace CStrings.NumberText

/- The number the digits of a text denote. -/
def count
    (t : NumberText) : Nat :=
  digitsValue t.digits

/-
  `parse_uint32` turns the text away, or it is a numeral in
  range.
-/
def ReadAsUint32
    (t : NumberText) : Prop :=
  t.digits = [] ∨ 2 ^ 64 ≤ t.count ∨
    t.Bare false ∧ t.count < 2 ^ 32

/-
  The same for `parse_uint8`, which also turns away what is
  too large for a byte, after a minus sign modulo `2^64`.
-/
def ReadAsUint8
    (t : NumberText) : Prop :=
  t.digits = [] ∨ 2 ^ 64 ≤ t.count ∨
    (t.negative = false ∧ 2 ^ 8 ≤ t.count) ∨
    (t.negative = true ∧ 0 < t.count ∧
      t.count ≤ 2 ^ 64 - 2 ^ 8) ∨
    t.Bare false

/- And for `parse_int8`. -/
def ReadAsInt8
    (t : NumberText) : Prop :=
  t.digits = [] ∨ t.value < -128 ∨ 127 < t.value ∨
    t.Bare true

end CStrings.NumberText

theorem stoulOf_eq_none
    {negative : Bool}
    {n : Nat} :
    stoulOf negative n = none ↔ 2 ^ 64 ≤ n := by
  unfold stoulOf
  split
  · next hFits => exact iff_of_false nofun (by omega)
  · next hLarge => exact iff_of_true rfl (by omega)

/- What `parse_uint8` turns away of what has digits. -/
theorem uint8Of_stoulOf_eq_none
    {negative : Bool}
    {n : Nat} :
    (stoulOf negative n).bind uint8Of = none ↔
      2 ^ 64 ≤ n ∨ (negative = false ∧ 2 ^ 8 ≤ n) ∨
        (negative = true ∧ 0 < n ∧ n ≤ 2 ^ 64 - 2 ^ 8) := by
  by_cases hFits : n < 2 ^ 64
  · have hUint8 : ∀ m, uint8Of m = none ↔ 255 < m := by
      intro m
      unfold uint8Of
      split
      · next hSmall => exact iff_of_false nofun (by omega)
      · next hLarge => exact iff_of_true rfl (by omega)
    unfold stoulOf
    rw [if_pos hFits, Option.bind_some, hUint8]
    cases negative with
    | false =>
        simp only [Bool.false_eq_true, if_false, true_and,
          false_and, or_false]
        omega
    | true =>
        simp only [if_true, true_and, Bool.true_eq_false,
          false_and, false_or]
        omega
  · rw [stoulOf_eq_none.mpr (by omega)]
    exact iff_of_true rfl (.inl (by omega))

/- What `parse_int8` turns away of what has digits. -/
theorem int8Of_stolOf_eq_none
    {t : NumberText} :
    (stolOf t.negative (digitsValue t.digits)).bind int8Of =
        none ↔
      t.value < -128 ∨ 127 < t.value := by
  have hInt8 : ∀ n,
      int8Of n = none ↔ n < -128 ∨ 127 < n := by
    intro n
    unfold int8Of
    split
    · next hOut => exact iff_of_true rfl hOut
    · next hIn => exact iff_of_false nofun hIn
  by_cases hRange : -128 ≤ t.value ∧ t.value ≤ 127
  · rw [stolOf_of_range rfl hRange]
    exact hInt8 t.value
  · have hOut : t.value < -128 ∨ 127 < t.value := by omega
    refine iff_of_true ?_ hOut
    rw [Option.bind_eq_none_iff]
    intro n hSome
    have hSame : n = t.value := by
      unfold NumberText.value
      unfold stolOf at hSome
      cases hSign : t.negative <;>
        rw [hSign] at hSome <;>
        dsimp only at hSome <;>
        split at hSome <;>
        cases hSome <;>
        rfl
    rw [hSame]
    exact (hInt8 t.value).mpr hOut

theorem exact_uint32_iff
    (v : Text)
    (out : UInt32) :
    Exact .uint32 parseUint32 v out ↔
      (splitNumber v).ReadAsUint32 := by
  rw [converts_uint32.exact_iff]
  unfold NumberText.ReadAsUint32 NumberText.count
  rw [Option.map_eq_none_iff, stoulOf_eq_none]
  refine or_congr_right (or_congr_right
    (and_congr_right fun hBare => ?_))
  have hValue := (bare_unsigned hBare).2
  change 0 ≤ (splitNumber v).value ∧
    (splitNumber v).value ≤ 2 ^ 32 - 1 ↔ _
  omega

theorem exact_uint8_iff
    (v : Text)
    (out : UInt8) :
    Exact .uint8 parseUint8 v out ↔
      (splitNumber v).ReadAsUint8 := by
  rw [converts_uint8.exact_iff]
  unfold NumberText.ReadAsUint8 NumberText.count
  rw [uint8Of_stoulOf_eq_none]
  simp only [or_assoc]
  refine or_congr_right ?_
  constructor
  · intro hShape
    rcases hShape with hLarge | hByte | hMinus | ⟨hBare, -⟩
    · exact .inl hLarge
    · exact .inr (.inl hByte)
    · exact .inr (.inr (.inl hMinus))
    · exact .inr (.inr (.inr hBare))
  · intro hShape
    rcases hShape with hLarge | hByte | hMinus | hBare
    · exact .inl hLarge
    · exact .inr (.inl hByte)
    · exact .inr (.inr (.inl hMinus))
    · rcases bare_unsigned hBare with ⟨hNegative, hValue⟩
      by_cases hByte :
          2 ^ 8 ≤ digitsValue (splitNumber v).digits
      · exact .inr (.inl ⟨hNegative, hByte⟩)
      · refine .inr (.inr (.inr ⟨hBare, ?_⟩))
        change 0 ≤ (splitNumber v).value ∧
          (splitNumber v).value ≤ 2 ^ 8 - 1
        omega

theorem exact_int8_iff
    (v : Text)
    (out : Int8) :
    Exact .int8 parseInt8 v out ↔
      (splitNumber v).ReadAsInt8 := by
  rw [converts_int8.exact_iff]
  unfold NumberText.ReadAsInt8
  rw [int8Of_stolOf_eq_none]
  simp only [or_assoc]
  refine or_congr_right ?_
  constructor
  · intro hShape
    rcases hShape with hSmall | hLarge | ⟨hBare, -⟩
    · exact .inl hSmall
    · exact .inr (.inl hLarge)
    · exact .inr (.inr hBare)
  · intro hShape
    rcases hShape with hSmall | hLarge | hBare
    · exact .inl hSmall
    · exact .inr (.inl hLarge)
    · by_cases hRange :
          -128 ≤ (splitNumber v).value ∧
            (splitNumber v).value ≤ 127
      · exact .inr (.inr ⟨hBare, hRange⟩)
      · have hOut : (splitNumber v).value < -128 ∨
            127 < (splitNumber v).value := by omega
        rcases hOut with hSmall | hLarge
        · exact .inl hSmall
        · exact .inr (.inl hLarge)

/- Where each of the three parsers is exact. -/
theorem parse_exact_iff
    (v : Text)
    (out32 : UInt32)
    (out8 : UInt8)
    (outInt8 : Int8) :
    (Exact .uint32 parseUint32 v out32 ↔
        (splitNumber v).ReadAsUint32) ∧
      (Exact .uint8 parseUint8 v out8 ↔
        (splitNumber v).ReadAsUint8) ∧
      (Exact .int8 parseInt8 v outInt8 ↔
        (splitNumber v).ReadAsInt8) :=
  ⟨exact_uint32_iff v out32, exact_uint8_iff v out8,
    exact_int8_iff v outInt8⟩

/-
  A line number with one digit too many is stored modulo
  `2^32`, and with a unit after it without the unit.
-/
theorem lineNumber_inexact :
    ¬ Exact .uint32 parseUint32 "4294967296".toList 7 ∧
      ¬ Exact .uint8 parseUint8 "8bits".toList 0 ∧
      ¬ Exact .int8 parseInt8 "10dBm".toList 0 := by
  refine ⟨?_, ?_, ?_⟩
  · intro hExact
    rcases hExact.answer.mp (by decide) with
      ⟨n, hNumeral, -, hHigh⟩
    have hValue : numeral? false "4294967296".toList =
        some 4294967296 := by decide
    cases hValue.symm.trans hNumeral
    exact absurd hHigh (by decide)
  · intro hExact
    rcases hExact.answer.mp (by decide) with ⟨n, hNumeral, -⟩
    have hNone : numeral? false "8bits".toList = none := by
      decide
    cases hNone.symm.trans hNumeral
  · intro hExact
    rcases hExact.answer.mp (by decide) with ⟨n, hNumeral, -⟩
    have hNone : numeral? true "10dBm".toList = none := by
      decide
    cases hNone.symm.trans hNumeral

end LoRaRadio
