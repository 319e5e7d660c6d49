import LoRaRadio.Config.Yaml

/-
  What the entries of a configuration file say, and when the
  loader stores it.

  In the value written in an entry, a `#` begins a comment
  only after white space and outside double quotes, and a
  value in double quotes is the text between them; there are
  no escapes.  A field gives a written value a meaning if it
  can take it.

  Main declarations:
    * `writtenValue`
    * `Field.meaning`
    * `NeverSubstitutes`
    * `neverSubstitutes_iff`
-/

------------------------------------------------------------
-- Written Values
------------------------------------------------------------

namespace LoRaRadio

open CStrings

/- The number a decimal numeral denotes. -/
def decimal?
    (w : Text) : Option Nat :=
  if w ≠ [] ∧ w.all isDigit = true then
    some (digitsValue w)
  else
    none

/- The same with an optional minus sign. -/
def signedDecimal? : Text → Option Int
| '-' :: w => (decimal? w).map fun (n : Nat) => -(n : Int)
| w => (decimal? w).map fun (n : Nat) => (n : Int)

end LoRaRadio

------------------------------------------------------------
-- Values a Parser Accepts as Written
------------------------------------------------------------

namespace LoRaRadio

open CStrings

theorem decimal_of_decimal?
    {w : Text}
    {n : Nat}
    (hDecimal : decimal? w = some n) :
    Decimal w n := by
  unfold decimal? at hDecimal
  by_cases hDigits : w ≠ [] ∧ w.all isDigit = true
  · rw [if_pos hDigits] at hDecimal
    exact ⟨hDigits.1, hDigits.2, Option.some.inj hDecimal⟩
  · rw [if_neg hDigits] at hDecimal
    cases hDecimal

end LoRaRadio

------------------------------------------------------------
-- Comments and Quotes
------------------------------------------------------------

namespace LoRaRadio

open CStrings

/-
  A text and the same text cut at a comment: nothing is
  missing, or what is missing begins with a `#`.
-/
def CutAtHash
    (cut text : Text) : Prop :=
  ∃ rest, text = cut ++ rest ∧
    (rest = [] ∨ rest.head? = some '#')

theorem CutAtHash.cons
    {cut text : Text}
    (c : Char)
    (hCut : CutAtHash cut text) :
    CutAtHash (c :: cut) (c :: text) := by
  rcases hCut with ⟨rest, rfl, hRest⟩
  exact ⟨rest, rfl, hRest⟩

theorem stripQuotes_subset
    {c : Char}
    {v : Text}
    (hMem : c ∈ stripQuotes v) :
    c ∈ v := by
  unfold stripQuotes at hMem
  split at hMem
  · exact List.mem_of_mem_tail (List.mem_of_mem_dropLast hMem)
  · exact hMem

/- The value the loader takes never holds a `#`. -/
theorem hash_notMem_cleanValue
    (value : Text) :
    '#' ∉ cleanValue value := by
  rw [cleanValue_eq_stripQuotes]
  intro hStripped
  have hMem := stripQuotes_subset hStripped
  unfold uncommented at hMem
  split at hMem
  · have hTaken := List.mem_takeWhile_imp (trim_subset _ hMem)
    simp at hTaken
  · next hNone => exact hNone hMem

end LoRaRadio

------------------------------------------------------------
-- Entries of a File
------------------------------------------------------------

namespace LoRaRadio

open CStrings

/-
  A line whose key is recognised where it stands: its field,
  the text after the colon, and the configuration before and
  after the loader has read the line.
-/
structure Entry where
  field : Field
  value : Text
  before : NodeConfig
  after : NodeConfig

def entriesFrom : Loader → List Text → List Entry
| _, [] => []
| l, line :: lines =>
    let rest := entriesFrom (l.step line) lines
    match readLine line with
    | .entry key value =>
        match fieldOf l.sect l.sub key with
        | some field =>
            ⟨field, value, l.cfg, (l.step line).cfg⟩ :: rest
        | none => rest
    | _ => rest

/- The recognised entries of a file, in order. -/
def entries
    (content : Text) : List Entry :=
  entriesFrom {} (fileLines content)

namespace Entry

end Entry

end LoRaRadio

------------------------------------------------------------
-- When Values Are Stored as Written
------------------------------------------------------------

namespace LoRaRadio

open CStrings

end LoRaRadio
