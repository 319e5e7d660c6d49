import LoRaRadio.Config.LastAccepted
import LoRaRadio.Config.Numbers

/-
  Which numbers of a configuration file are loaded as they
  are written.

  A line gives a number to the field it addresses if its
  value begins with one.  The last number given to a field
  is loaded as it is written if it is in the range of the
  field.  Otherwise the loader narrows it, clamps it or
  leaves it out.

  Main declarations:
    * `writtenNumber`
    * `Field.target` and `Field.converts`
    * `LoadedAsWritten`
    * `loadedAsWritten_iff`
-/

------------------------------------------------------------
-- Numbers in Values
------------------------------------------------------------

namespace LoRaRadio

open CStrings

/- The number a value begins with, if it begins with one. -/
def writtenNumber
    (v : Text) : Option Int :=
  if (splitNumber v).digits = [] then
    none
  else
    some (splitNumber v).value

namespace Converts

variable {α : Type}
variable {target : Target α}
variable {convert : Bool → Nat → Option α}
variable {parse : Text → Option α}
variable {v : Text}
variable {n : Int}

theorem parse_eq_none
    (hConverts : Converts target convert parse)
    (hNone : writtenNumber v = none) :
    parse v = none := by
  rw [hConverts.parse_eq]
  unfold writtenNumber at hNone
  split at hNone
  · next hDigits => exact if_pos hDigits
  · cases hNone

/- A number in range is accepted, whatever comes after it. -/
theorem parse_inRange
    (hConverts : Converts target convert parse)
    (hNumber : writtenNumber v = some n)
    (hRange : target.least ≤ n ∧ n ≤ target.greatest) :
    ∃ a, parse v = some a ∧ target.toInt a = n := by
  rw [hConverts.parse_eq]
  unfold writtenNumber at hNumber
  split at hNumber
  · cases hNumber
  · next hDigits =>
      cases hNumber
      rw [if_neg hDigits]
      exact hConverts.inRange _ hRange.1 hRange.2

end Converts

end LoRaRadio

------------------------------------------------------------
-- Fields That Hold Numbers
------------------------------------------------------------

namespace LoRaRadio

/- The clamped count, with the clamp at the special value. -/
theorem clampMillis_count
    (v : UInt32) :
    (clampMillis v).periodBaseCount.toNat =
      min v.toNat 0xFFFF := by
  unfold clampMillis
  dsimp only
  by_cases hLarge : v ≥ 0xFFFF
  · rw [if_pos hLarge]
    have hLe : 0xFFFF ≤ v.toNat :=
      UInt32.le_iff_toNat_le.mp hLarge
    rw [Nat.min_eq_right hLe]
    rfl
  · rw [if_neg hLarge]
    have hLt : v.toNat < 0xFFFF :=
      Nat.lt_of_not_le fun hLe =>
        hLarge (UInt32.le_iff_toNat_le.mpr hLe)
    rw [UInt32.toNat_toUInt16]
    omega

/- A number of milliseconds is the count of its periods. -/
def Target.millis : Target TickTime where
  toInt t := t.periodBaseCount.toNat
  signed := false
  least := 0
  greatest := 0xFFFF

theorem converts_millis :
    Converts .millis
      (fun negative n =>
        ((stoulOf negative n).map UInt32.ofNat).map clampMillis)
      (fun v => (parseUint32 v).map clampMillis) := by
  constructor
  · intro v
    rw [converts_uint32.parse_eq]
    split <;> rfl
  · intro t hLow hHigh
    change 0 ≤ t.value at hLow
    change t.value ≤ 0xFFFF at hHigh
    have hWord : t.value ≤ 2 ^ 32 - 1 := by omega
    rcases converts_uint32.inRange t hLow hWord with
      ⟨v, hSome, hValue⟩
    change (v.toNat : Int) = t.value at hValue
    refine ⟨clampMillis v, ?_, ?_⟩
    · rw [hSome]
      rfl
    · change ((clampMillis v).periodBaseCount.toNat : Int) =
        t.value
      rw [clampMillis_count]
      omega

namespace Field

/- The numbers a field holds, if it holds numbers. -/
def target : (field : Field) → Option (Target field.Value)
| .uint32 _ => some .uint32
| .uint8 _ => some .uint8
| .int8 _ => some .int8
| .millis _ => some .millis
| .text _ | .bool _ | .word _ _ _ _ => none

variable {field : Field}
variable {target : Target field.Value}

theorem converts
    (hTarget : field.target = some target) :
    ∃ convert, Converts target convert field.parse := by
  cases field with
  | uint32 place =>
      cases hTarget
      exact ⟨_, converts_uint32⟩
  | uint8 place =>
      cases hTarget
      exact ⟨_, converts_uint8⟩
  | int8 place =>
      cases hTarget
      exact ⟨_, converts_int8⟩
  | millis place =>
      cases hTarget
      exact ⟨_, converts_millis⟩
  | _ => cases hTarget

/- What a field holds is in its range. -/
theorem target_range
    (hTarget : field.target = some target)
    (v : field.Value) :
    target.least ≤ target.toInt v ∧
      target.toInt v ≤ target.greatest := by
  cases field with
  | uint32 place =>
      cases hTarget
      have hLt := UInt32.toNat_lt v
      change (0 : Int) ≤ (UInt32.toNat v : Int) ∧
        (UInt32.toNat v : Int) ≤ 2 ^ 32 - 1
      omega
  | uint8 place =>
      cases hTarget
      have hLt := UInt8.toNat_lt v
      change (0 : Int) ≤ (UInt8.toNat v : Int) ∧
        (UInt8.toNat v : Int) ≤ 2 ^ 8 - 1
      omega
  | int8 place =>
      cases hTarget
      exact ⟨Int8.le_toInt v, Int8.toInt_le v⟩
  | millis place =>
      cases hTarget
      have hLt := UInt16.toNat_lt v.periodBaseCount
      change (0 : Int) ≤ (v.periodBaseCount.toNat : Int) ∧
        (v.periodBaseCount.toNat : Int) ≤ 0xFFFF
      omega
  | _ => cases hTarget

end Field

end LoRaRadio

------------------------------------------------------------
-- The Last Number
------------------------------------------------------------

namespace LoRaRadio

/-
  The last value the file gives to a key, among those the
  parser accepts.
-/
def lastIn
    {α : Type}
    (content : Text)
    (c : Context)
    (key : String)
    (parse : Text → Option α) : Option α :=
  lastAccepted c key.toList parse (linesUpward content)

namespace Context

/- The last numbers are in the ranges of their fields. -/
def NumbersFit
    (content : Text)
    (c : Context) : Prop :=
  ∀ entry ∈ c.fields,
    ∀ n ∈ lastIn content c entry.1 writtenNumber,
      ∀ target ∈ entry.2.target,
        target.least ≤ n ∧ n ≤ target.greatest

instance
    (content : Text)
    (c : Context) :
    Decidable (c.NumbersFit content) := by
  unfold NumbersFit
  infer_instance

def all : List Context :=
  [.outside, .lora, .timeouts, .runtime] ++
    [true, false].flatMap fun isRx =>
      [SubSection.none, .spi, .gpio, .pins].map (.radio isRx)

theorem mem_all
    (c : Context) :
    c ∈ all := by
  rcases c with _ | ⟨_ | _, _ | _ | _ | _⟩ | _ | _ | _ <;>
    decide

end Context

/- The same in all contexts. -/
def NumbersFit
    (content : Text) : Prop :=
  ∀ c : Context, c.NumbersFit content

instance
    (content : Text) :
    Decidable (NumbersFit content) :=
  decidable_of_iff (∀ c ∈ Context.all, c.NumbersFit content)
    ⟨fun hAll c => hAll c c.mem_all, fun hAll c _ => hAll c⟩

/- The last numbers are what their fields hold. -/
def LoadedAsWritten
    (content : Text)
    (cfg : NodeConfig) : Prop :=
  ∀ c : Context, ∀ entry ∈ c.fields,
    ∀ n ∈ lastIn content c entry.1 writtenNumber,
      ∀ target ∈ entry.2.target,
        target.toInt (entry.2.place.get cfg) = n

section Readings

variable {α β : Type}
variable {c : Context}
variable {key : Text}
variable {read : Text → Option β}
variable {parse : Text → Option α}
variable {earlier : List Text}
variable {b : β}

/- A line with nothing to read has nothing to accept. -/
theorem acceptedFrom_eq_none
    {line : Text}
    (hNone : ∀ v, read v = none → parse v = none)
    (hLine : acceptedFrom c key read earlier line = none) :
    acceptedFrom c key parse earlier line = none := by
  rw [acceptedFrom_eq] at *
  cases hGiven : givenBy c key earlier line with
  | none => rfl
  | some v =>
      rw [hGiven] at hLine
      exact hNone v hLine

theorem lastAccepted_eq_none
    (hNone : ∀ v, read v = none → parse v = none)
    (hLast : lastAccepted c key read earlier = none) :
    lastAccepted c key parse earlier = none := by
  induction earlier with
  | nil => rfl
  | cons line earlier ih =>
      simp only [lastAccepted, Option.or_eq_none_iff]
        at hLast ⊢
      exact ⟨acceptedFrom_eq_none hNone hLast.1, ih hLast.2⟩

/- The last line with something to read is accepted. -/
theorem lastAccepted_of_read
    {P : α → Prop}
    (hNone : ∀ v, read v = none → parse v = none)
    (hSome :
      ∀ v, read v = some b → ∃ a, parse v = some a ∧ P a)
    (hLast : lastAccepted c key read earlier = some b) :
    ∃ a, lastAccepted c key parse earlier = some a ∧ P a := by
  induction earlier with
  | nil => cases hLast
  | cons line earlier ih =>
      simp only [lastAccepted] at hLast ⊢
      cases hLine : acceptedFrom c key read earlier line with
      | none =>
          rw [hLine] at hLast
          rw [acceptedFrom_eq_none hNone hLine]
          exact ih hLast
      | some b' =>
          rw [hLine] at hLast
          cases hLast
          have hAccepted :
              ∃ a, acceptedFrom c key parse earlier line =
                some a ∧ P a := by
            rw [acceptedFrom_eq] at *
            rcases Option.bind_eq_some_iff.mp hLine with
              ⟨v, hGiven, hRead⟩
            rw [hGiven]
            exact hSome v hRead
          rcases hAccepted with ⟨a, hParsed, hHolds⟩
          rw [hParsed]
          exact ⟨a, rfl, hHolds⟩

end Readings

section Files

variable {path content text : Text}
variable {out cfg : NodeConfig}

/- What a loaded configuration has in a field. -/
theorem loaded_value
    (c : Context)
    (key : String)
    {field : Field}
    (hLoad :
      loadNodeConfigFromYaml path (some content) out =
        (.none, cfg, text))
    (hField : c.fieldAt key.toList = some field) :
    field.place.get cfg =
      (lastIn content c key field.parse).getD
        (field.place.get {}) :=
  loaded_field hLoad hField

variable {c : Context}
variable {entry : String × Field}
variable {target : Target entry.2.Value}

/- A field that is given no number has its default. -/
theorem loaded_default
    (hLoad :
      loadNodeConfigFromYaml path (some content) out =
        (.none, cfg, text))
    (hMem : entry ∈ c.fields)
    (hTarget : entry.2.target = some target)
    (hNone : lastIn content c entry.1 writtenNumber = none) :
    entry.2.place.get cfg = entry.2.place.get {} := by
  rcases Field.converts hTarget with ⟨convert, hConverts⟩
  have hLast :
      lastIn content c entry.1 entry.2.parse = none :=
    lastAccepted_eq_none (fun v => hConverts.parse_eq_none)
      hNone
  rw [loaded_value c entry.1 hLoad (c.fieldAt_of_mem hMem),
    hLast]
  rfl

/- A field has the number it is given if that is in range. -/
theorem loaded_number
    {n : Int}
    (hLoad :
      loadNodeConfigFromYaml path (some content) out =
        (.none, cfg, text))
    (hMem : entry ∈ c.fields)
    (hTarget : entry.2.target = some target)
    (hNumber :
      lastIn content c entry.1 writtenNumber = some n) :
    target.toInt (entry.2.place.get cfg) = n ↔
      target.least ≤ n ∧ n ≤ target.greatest := by
  constructor
  · rintro rfl
    exact Field.target_range hTarget _
  · intro hRange
    rcases Field.converts hTarget with ⟨convert, hConverts⟩
    have hLast :
        ∃ a, lastIn content c entry.1 entry.2.parse =
            some a ∧ target.toInt a = n :=
      lastAccepted_of_read (fun v => hConverts.parse_eq_none)
        (fun v hSome => hConverts.parse_inRange hSome hRange)
        hNumber
    rcases hLast with ⟨a, hAccepted, hValue⟩
    rw [loaded_value c entry.1 hLoad (c.fieldAt_of_mem hMem),
      hAccepted]
    exact hValue

theorem loadedAsWritten_iff
    (hLoad :
      loadNodeConfigFromYaml path (some content) out =
        (.none, cfg, text)) :
    LoadedAsWritten content cfg ↔ NumbersFit content := by
  constructor
  · intro hLoaded c entry hMem n hNumber target hTarget
    exact (loaded_number hLoad hMem hTarget hNumber).mp
      (hLoaded c entry hMem n hNumber target hTarget)
  · intro hFit c entry hMem n hNumber target hTarget
    exact (loaded_number hLoad hMem hTarget hNumber).mpr
      (hFit c entry hMem n hNumber target hTarget)

/-
  What holds of the default of a field holds of the number
  in it exactly if it holds of the number it is given.
-/
theorem number_iff
    {P : Int → Prop}
    (c : Context)
    (key : String)
    {field : Field}
    {target : Target field.Value}
    (hLoad :
      loadNodeConfigFromYaml path (some content) out =
        (.none, cfg, text))
    (hLoaded : LoadedAsWritten content cfg)
    (hField : c.fieldAt key.toList = some field)
    (hTarget : field.target = some target)
    (hDefault : P (target.toInt (field.place.get {}))) :
    P (target.toInt (field.place.get cfg)) ↔
      ∀ n ∈ lastIn content c key writtenNumber, P n := by
  rcases Context.fieldAt_mem hField with
    ⟨entry, hMem, hKey, rfl⟩
  obtain rfl := String.toList_inj.mp hKey
  cases hNumber :
      lastIn content c entry.1 writtenNumber with
  | none =>
      rw [loaded_default hLoad hMem hTarget hNumber]
      exact iff_of_true hDefault (fun _ hSome => nomatch hSome)
  | some n =>
      rw [hLoaded c entry hMem n hNumber target hTarget]
      simp

end Files

end LoRaRadio
