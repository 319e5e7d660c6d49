import Mathlib.Data.List.Pairwise
import LoRaRadio.Config.Yaml

/-
  What the loader computes: each field of the configuration
  has the value of the last line that addresses the field
  and that its parser accepts.

  A line addresses a field by its context and its key.  The
  context is what the headers above the line say; the lines
  above a line are listed nearest first.  The key and the
  value are what is written before and after its first colon.

  Main declarations:
    * `Context` and `contextOf`
    * `lineEntry` and `lastAccepted`
    * `lineEntry_eq`
    * `fields_apart`
    * `loadedBy_eq`
    * `loader_lastAccepted`
-/

------------------------------------------------------------
-- Fields
------------------------------------------------------------

namespace LoRaRadio

namespace Field

/- The values a field can hold. -/
def Value : Field → Type
| .text _ => Text
| .bool _ => Bool
| .uint32 _ => UInt32
| .uint8 _ => UInt8
| .int8 _ => Int8
| .millis _ => TickTime
| .word (α := α) _ _ _ _ => α

/- Where the field is in the configuration. -/
def place : (field : Field) → Lens NodeConfig field.Value
| .text place => place
| .bool place => place
| .uint32 place => place
| .uint8 place => place
| .int8 place => place
| .millis place => place
| .word place _ _ _ => place

/- The value the parser of the field makes of a text. -/
def parse : (field : Field) → Text → Option field.Value
| .text _ => some
| .bool _ => parseBool
| .uint32 _ => parseUint32
| .uint8 _ => parseUint8
| .int8 _ => parseInt8
| .millis _ => fun v => (parseUint32 v).map clampMillis
| .word _ parse _ _ => fun v => some (parse v)

variable (field : Field)

/- An accepted value is stored, any other changes nothing. -/
theorem assign_eq
    (value : Text)
    (cfg : NodeConfig) :
    field.assign value cfg =
      match field.parse value with
      | some v => field.place.set v cfg
      | none => cfg := by
  cases field with
  | text place => rfl
  | bool place =>
      simp only [assign, parse, Field.place]
      cases parseBool value <;> rfl
  | uint32 place =>
      simp only [assign, parse, Field.place]
      cases parseUint32 value <;> rfl
  | uint8 place =>
      simp only [assign, parse, Field.place]
      cases parseUint8 value <;> rfl
  | int8 place =>
      simp only [assign, parse, Field.place]
      cases parseInt8 value <;> rfl
  | millis place =>
      simp only [assign, parse, Field.place]
      cases parseUint32 value <;> rfl
  | word place parse words agree => rfl

/- Neither field stores anything in the other. -/
def Apart
    (other : Field) : Prop :=
  field.place.Independent other.place ∧
    other.place.Independent field.place

end Field

end LoRaRadio

------------------------------------------------------------
-- Contexts
------------------------------------------------------------

namespace LoRaRadio

open CStrings

/- Where a line stands: outside the sections, or in one. -/
inductive Context
  | outside
  | radio (isRx : Bool) (sub : SubSection)
  | lora
  | timeouts
  | runtime
deriving DecidableEq, Repr

namespace Context

def of
    (sub : SubSection) : Section → Context
| .none => .outside
| .radiosRx => .radio true sub
| .radiosTx => .radio false sub
| .lora => .lora
| .timeouts => .timeouts
| .runtime => .runtime

/- The keys a context knows. -/
def fields : Context → List (String × Field)
| .outside => []
| .radio isRx sub => hwFields isRx sub
| .lora => loraFields
| .timeouts => timeoutFields
| .runtime => runtimeFields

/- The field a key addresses in a context. -/
def fieldAt
    (c : Context)
    (key : Text) : Option Field :=
  (c.fields.find? fun f => f.1.toList == key).map Prod.snd

end Context

theorem fieldOf_eq
    (sect : Section)
    (sub : SubSection)
    (key : Text) :
    fieldOf sect sub key =
      (Context.of sub sect).fieldAt key := by
  cases sect <;> rfl

/- The value a header line has in a table of headers. -/
def headerIn
    {α : Type}
    (table : List (String × α))
    (line : Text) : Option α :=
  (table.find? fun h => h.1.toList == trim line).map Prod.snd

def sectionHeader : Text → Option Section :=
  headerIn
    [("radios:", .none), ("rx:", .radiosRx),
      ("tx:", .radiosTx), ("lora:", .lora),
      ("timeouts:", .timeouts), ("runtime:", .runtime)]

def subHeader : Text → Option SubSection :=
  headerIn [("spi:", .spi), ("gpio:", .gpio), ("pins:", .pins)]

/- The section set by the nearest section header. -/
def sectionOf
    (earlier : List Text) : Section :=
  (earlier.findSome? sectionHeader).getD .none

/- The nearest sub-section header since that header. -/
def subSectionOf
    (earlier : List Text) : SubSection :=
  let since :=
    earlier.takeWhile fun line => (sectionHeader line).isNone
  (since.findSome? subHeader).getD .none

/- The context of a line with these lines above it. -/
def contextOf
    (earlier : List Text) : Context :=
  Context.of (subSectionOf earlier) (sectionOf earlier)

/- What is written in quotes is the text between them. -/
def unquoted : Text → Text
| '"' :: rest =>
    if rest.getLast? = some '"' then rest.dropLast
    else '"' :: rest
| v => v

/- The value after a colon: what there is before a `#`. -/
def plainValue
    (rest : Text) : Text :=
  unquoted (trim (rest.takeWhile (· != '#')))

/- A line with no entry: a comment or a header. -/
def HasNoEntry
    (line : Text) : Prop :=
  (trim line).head? = some '#' ∨
    (sectionHeader line).isSome ∨ (subHeader line).isSome

instance
    (line : Text) :
    Decidable (HasNoEntry line) := by
  unfold HasNoEntry
  infer_instance

/-
  The key and the value in a line: what is written before
  and after its first colon.
-/
def lineEntry
    (line : Text) : Option (Text × Text) :=
  if ':' ∈ line ∧ ¬ HasNoEntry line then
    some (trim (line.takeWhile (· != ':')),
      plainValue (line.dropWhile (· != ':')).tail)
  else
    none

/-
  The value a line with these lines above it gives to the
  field with the given address, if it addresses the field
  and the parser accepts its value.
-/
def acceptedFrom
    {α : Type}
    (c : Context)
    (key : Text)
    (parse : Text → Option α)
    (earlier : List Text)
    (line : Text) : Option α :=
  match lineEntry line with
  | some (key', value) =>
      if contextOf earlier = c ∧ key' = key then
        parse value
      else
        none
  | none => none

/- The same for the last such line of a file. -/
def lastAccepted
    {α : Type}
    (c : Context)
    (key : Text)
    (parse : Text → Option α) :
    List Text → Option α
| [] => none
| line :: earlier =>
    (acceptedFrom c key parse earlier line).or
      (lastAccepted c key parse earlier)

end LoRaRadio

------------------------------------------------------------
-- Different Addresses, Different Fields
------------------------------------------------------------

namespace LoRaRadio

namespace Context

/- The part of the configuration a context is about. -/
def Part : Context → Type
| .outside => Unit
| .radio _ .none => NodeRadioRole
| .radio _ .spi => LinuxSpiConfig
| .radio _ .gpio => LinuxGpioChipConfig
| .radio _ .pins => LinuxSx1280PinConfig
| .lora => Sx1280RfConfig × Sx1280LoRaConfig
| .timeouts => Sx1280TimeoutConfig
| .runtime => Sx1280RuntimeConfig

def part : (c : Context) → Lens NodeConfig c.Part
| .outside => ⟨fun _ => (), fun _ cfg => cfg, fun _ _ => rfl⟩
| .radio isRx .none =>
    (hwPart isRx).comp
      ⟨(·.role),
        fun v c => { c with role := v },
        fun _ _ => rfl⟩
| .radio isRx .spi => spiPart isRx
| .radio isRx .gpio => gpioPart isRx
| .radio isRx .pins => pinsPart isRx
| .lora =>
    ⟨fun cfg => (rfPart.get cfg, loraPart.get cfg),
      fun v cfg => rfPart.set v.1 (loraPart.set v.2 cfg),
      fun _ _ => rfl⟩
| .timeouts => timeoutsPart
| .runtime => runtimePart

theorem part_independent
    {c c' : Context}
    (hOther : c ≠ c') :
    c.part.Independent c'.part := by
  intro v cfg
  rcases c with _ | ⟨_ | _, _ | _ | _ | _⟩ | _ | _ | _ <;>
    rcases c' with _ | ⟨_ | _, _ | _ | _ | _⟩ | _ | _ | _ <;>
    first
    | rfl
    | exact absurd rfl hOther

/- The `lora` section is about two records. -/
theorem lora_within_rf
    {α : Type}
    (l : Lens Sx1280RfConfig α) :
    Context.lora.part.Within (rfPart.comp l) := by
  refine ⟨fun v cfg =>
    ⟨(l.set v (rfPart.get cfg), loraPart.get cfg), rfl⟩,
    fun cfg cfg' hSame => ?_⟩
  exact congrArg (fun p => l.get p.1) hSame

theorem lora_within_lora
    {α : Type}
    (l : Lens Sx1280LoRaConfig α) :
    Context.lora.part.Within (loraPart.comp l) := by
  refine ⟨fun v cfg =>
    ⟨(rfPart.get cfg, l.set v (loraPart.get cfg)), rfl⟩,
    fun cfg cfg' hSame => ?_⟩
  exact congrArg (fun p => l.get p.2) hSame

/- The fields of a context are in its part. -/
theorem part_within
    {c : Context}
    {entry : String × Field}
    (hEntry : entry ∈ c.fields) :
    c.part.Within entry.2.place := by
  rcases c with _ | ⟨isRx, _ | _ | _ | _⟩ | _ | _ | _
  · cases hEntry
  · cases List.mem_singleton.mp hEntry
    exact Lens.within_self _
  all_goals
    simp only [fields, hwFields, spiFields, gpioFields,
      pinFields, loraFields, timeoutFields, runtimeFields,
      List.mem_cons, List.not_mem_nil, or_false] at hEntry
  · rcases hEntry with rfl | rfl | rfl | rfl <;>
      exact Lens.within_comp _ _
  · cases hEntry
    exact Lens.within_comp _ _
  · rcases hEntry with rfl | rfl | rfl | rfl | rfl | rfl |
        rfl | rfl | rfl | rfl | rfl | rfl <;>
      exact Lens.within_comp _ _
  · rcases hEntry with rfl | rfl | rfl | rfl | rfl | rfl |
        rfl | rfl | rfl | rfl | rfl | rfl
    iterate 4 exact lora_within_rf _
    iterate 8 exact lora_within_lora _
  · rcases hEntry with rfl | rfl | rfl <;>
      exact Lens.within_comp _ _
  · rcases hEntry with rfl | rfl | rfl | rfl | rfl <;>
      exact Lens.within_comp _ _

/- The fields of one table are apart from each other. -/
theorem fields_pairwise
    (c : Context) :
    c.fields.Pairwise fun a b => a.2.Apart b.2 := by
  rcases c with _ | ⟨_ | _, _ | _ | _ | _⟩ | _ | _ | _ <;>
    simp only [fields, hwFields, roleFields, spiFields,
      gpioFields, pinFields, loraFields, timeoutFields,
      runtimeFields, List.pairwise_cons, List.mem_cons,
      List.not_mem_nil, or_false, forall_eq_or_imp,
      forall_eq, false_implies, implies_true, and_true,
      List.Pairwise.nil]
  all_goals
    repeat' apply And.intro
  all_goals exact fun _ _ => rfl

end Context

end LoRaRadio

------------------------------------------------------------
-- Addresses
------------------------------------------------------------

namespace LoRaRadio

open CStrings

namespace Context

variable {c c' : Context}
variable {key key' : Text}
variable {field field' : Field}

theorem fieldAt_mem
    (hField : c.fieldAt key = some field) :
    ∃ entry ∈ c.fields,
      entry.1.toList = key ∧ entry.2 = field := by
  unfold fieldAt at hField
  rcases Option.map_eq_some_iff.mp hField with
    ⟨entry, hFind, hEntry⟩
  have hKey : entry.1.toList = key := by
    simpa using List.find?_some hFind
  exact ⟨entry, List.mem_of_find?_eq_some hFind, hKey, hEntry⟩

/- Different addresses are addresses of different fields. -/
theorem fields_apart
    (hField : c.fieldAt key = some field)
    (hField' : c'.fieldAt key' = some field')
    (hOther : ¬ (c = c' ∧ key = key')) :
    field.place.Independent field'.place := by
  rcases fieldAt_mem hField with ⟨entry, hMem, rfl, rfl⟩
  rcases fieldAt_mem hField' with ⟨entry', hMem', rfl, rfl⟩
  by_cases hContext : c = c'
  · subst hContext
    have hNe : entry ≠ entry' :=
      fun hEq => hOther ⟨rfl, by rw [hEq]⟩
    have hSymm : Std.Symm
        fun a b : String × Field => a.2.Apart b.2 :=
      ⟨fun _ _ hApart => ⟨hApart.2, hApart.1⟩⟩
    exact ((fields_pairwise c).forall hMem hMem' hNe).1
  · exact (part_independent hContext).within
      (part_within hMem) (part_within hMem')

end Context

/- A text that is no header is in neither table. -/
theorem headerIn_none
    {α : Type}
    {table : List (String × α)}
    {line : Text}
    (hSub :
      table.map (·.1) ⊆ headers.map fun h => h.1)
    (hNone :
      headers.find? (fun h => h.1.toList == trim line) =
        none) :
    headerIn table line = none := by
  unfold headerIn
  rw [Option.map_eq_none_iff, List.find?_eq_none] at *
  intro entry hMem hName
  rcases List.mem_map.mp (hSub (List.mem_map_of_mem hMem))
    with ⟨h, hHeader, hEq⟩
  apply hNone h hHeader
  rw [hEq]
  exact hName

theorem readLine_header
    {line : Text}
    {h : String × (Loader → Loader)}
    (hHeader :
      headers.find? (fun h => h.1.toList == trim line) =
        some h) :
    readLine line = .header h.2 := by
  have hName : h.1.toList = trim line := by
    simpa using List.find?_some hHeader
  have hText :
      ¬ (trim line = [] ∨ (trim line).head? = some '#') := by
    rw [← hName]
    have hAll :
        ∀ h ∈ headers.map fun h => h.1,
          ¬ (h.toList = [] ∨ h.toList.head? = some '#') := by
      decide
    exact hAll h.1 (List.mem_map_of_mem
      (List.mem_of_find?_eq_some hHeader))
  unfold readLine
  simp only [hText, if_false, hHeader]

theorem readLine_not_header
    {line : Text}
    (hNone :
      headers.find? (fun h => h.1.toList == trim line) =
        none)
    (enter : Loader → Loader) :
    readLine line ≠ .header enter := by
  intro hEq
  unfold readLine at hEq
  simp only [hNone] at hEq
  split at hEq
  · cases hEq
  · split at hEq <;> cases hEq

/- A header line does not touch the configuration. -/
theorem cfg_header
    {line : Text}
    {enter : Loader → Loader}
    (hLine : readLine line = .header enter)
    (l : Loader) :
    (enter l).cfg = l.cfg := by
  cases hHeader :
      headers.find? fun h => h.1.toList == trim line with
  | none => exact absurd hLine (readLine_not_header hHeader _)
  | some h =>
      cases (readLine_header hHeader).symm.trans hLine
      have hMem := List.mem_of_find?_eq_some hHeader
      simp only [headers, List.mem_cons, List.not_mem_nil,
        or_false] at hMem
      rcases hMem with rfl | rfl | rfl | rfl | rfl | rfl |
          rfl | rfl | rfl <;>
        rfl

/- A line that is no header leaves the state. -/
theorem step_of_not_header
    (l : Loader)
    {line : Text}
    (hNone :
      headers.find? (fun h => h.1.toList == trim line) =
        none) :
    (l.step line).sect = l.sect ∧
      (l.step line).sub = l.sub := by
  unfold Loader.step
  cases hLine : readLine line with
  | skipped => exact ⟨rfl, rfl⟩
  | header enter =>
      exact absurd hLine (readLine_not_header hNone enter)
  | entry key value =>
      cases hField : fieldOf l.sect l.sub key <;>
        simp [hField]

/- What a line does to the loader's state as a header. -/
theorem step_header
    (l : Loader)
    (line : Text) :
    (l.step line).sect =
        (sectionHeader line).getD l.sect ∧
      (l.step line).sub =
        (if (sectionHeader line).isSome then .none
        else (subHeader line).getD l.sub) := by
  cases hHeader :
      headers.find? fun h => h.1.toList == trim line with
  | none =>
      have hSection : sectionHeader line = none :=
        headerIn_none (by decide) hHeader
      have hSub : subHeader line = none :=
        headerIn_none (by decide) hHeader
      rw [hSection, hSub]
      exact step_of_not_header l hHeader
  | some h =>
      have hName : h.1.toList = trim line := by
        simpa using List.find?_some hHeader
      have hMem := List.mem_of_find?_eq_some hHeader
      unfold sectionHeader subHeader headerIn Loader.step
      rw [readLine_header hHeader, ← hName]
      simp only [headers, List.mem_cons, List.not_mem_nil,
        or_false] at hMem
      rcases hMem with rfl | rfl | rfl | rfl | rfl | rfl |
          rfl | rfl | rfl <;>
        exact ⟨rfl, rfl⟩

/- The loader takes the quotes off where they are quotes. -/
theorem stripQuotes_eq
    (v : Text) :
    stripQuotes v = unquoted v := by
  unfold stripQuotes
  cases v with
  | nil => rfl
  | cons c rest =>
      by_cases hQuote : c = '"'
      · subst hQuote
        have hEnds :
            (2 ≤ ('"' :: rest).length ∧
                ('"' :: rest).head? = some '"' ∧
                ('"' :: rest).getLast? = some '"') ↔
              rest.getLast? = some '"' := by
          cases rest with
          | nil => simp
          | cons d rest => simp [List.getLast?_cons_cons]
        simp only [ge_iff_le, hEnds, unquoted, List.tail_cons]
      · have hPlain : unquoted (c :: rest) = c :: rest := by
          unfold unquoted
          split
          · next hEq => cases hEq; exact absurd rfl hQuote
          · rfl
        rw [hPlain]
        exact if_neg fun hQuoted =>
          hQuote (Option.some.inj hQuoted.2.1)

theorem cleanValue_plain
    (rest : Text) :
    cleanValue (trim rest) = plainValue rest := by
  rw [cleanValue_trim, stripQuotes_eq]
  rfl

/- A header of the loader selects something. -/
theorem header_of_find
    {line : Text}
    {h : String × (Loader → Loader)}
    (hHeader :
      headers.find? (fun h => h.1.toList == trim line) =
        some h) :
    (sectionHeader line).isSome ∨ (subHeader line).isSome := by
  have hName : h.1.toList = trim line := by
    simpa using List.find?_some hHeader
  have hMem := List.mem_of_find?_eq_some hHeader
  unfold sectionHeader subHeader headerIn
  rw [← hName]
  simp only [headers, List.mem_cons, List.not_mem_nil,
    or_false] at hMem
  rcases hMem with rfl | rfl | rfl | rfl | rfl | rfl | rfl |
      rfl | rfl <;>
    decide

/- The loader reads of a line just the entry that is in it. -/
theorem lineEntry_eq
    (line : Text) :
    lineEntry line =
      match readLine line with
      | .entry key value => some (key, cleanValue value)
      | _ => none := by
  unfold lineEntry
  cases hHeader :
      headers.find? fun h => h.1.toList == trim line with
  | some h =>
      rw [readLine_header hHeader]
      exact if_neg fun hEntry =>
        hEntry.2 (.inr (header_of_find hHeader))
  | none =>
      have hSection : sectionHeader line = none :=
        headerIn_none (by decide) hHeader
      have hSub : subHeader line = none :=
        headerIn_none (by decide) hHeader
      unfold readLine HasNoEntry
      simp only [hHeader, hSection, hSub, splitKey_trim,
        Option.isSome_none, Bool.false_eq_true, or_false]
      by_cases hColon : ':' ∈ line
      · have hText : trim line ≠ [] := List.ne_nil_of_mem
          ((mem_trim_iff (by decide)).mpr hColon)
        by_cases hComment : (trim line).head? = some '#'
        · simp [hComment]
        · simp [hColon, hText, hComment, cleanValue_plain]
      · simp only [hColon, false_and, if_false, ite_self]

theorem sectionOf_cons
    (line : Text)
    (earlier : List Text) :
    sectionOf (line :: earlier) =
      (sectionHeader line).getD (sectionOf earlier) := by
  unfold sectionOf
  rw [List.findSome?_cons]
  cases sectionHeader line <;> rfl

theorem subSectionOf_cons
    (line : Text)
    (earlier : List Text) :
    subSectionOf (line :: earlier) =
      if (sectionHeader line).isSome then .none
      else (subHeader line).getD (subSectionOf earlier) := by
  unfold subSectionOf
  cases hSection : sectionHeader line with
  | some sect => simp [hSection]
  | none =>
      simp only [List.takeWhile_cons, hSection,
        Option.isNone_none, if_true, List.findSome?_cons]
      cases subHeader line <;> rfl

/- The loader after the lines listed, the nearest first. -/
def loadedBy
    (earlier : List Text) : Loader :=
  earlier.foldr (fun line l => l.step line) {}

/- The loader's state is the context of the next line. -/
theorem context_loadedBy
    (earlier : List Text) :
    (loadedBy earlier).sect = sectionOf earlier ∧
      (loadedBy earlier).sub = subSectionOf earlier := by
  induction earlier with
  | nil => exact ⟨rfl, rfl⟩
  | cons line earlier ih =>
      have hStep := step_header (loadedBy earlier) line
      rw [ih.1, ih.2] at hStep
      rw [sectionOf_cons, subSectionOf_cons]
      exact hStep

end LoRaRadio

------------------------------------------------------------
-- The Last Accepted Value
------------------------------------------------------------

namespace LoRaRadio

open CStrings

/- What a line does to the configuration. -/
theorem cfg_step
    (l : Loader)
    (line : Text) :
    (l.step line).cfg =
      match readLine line with
      | .entry key value =>
          match (Context.of l.sub l.sect).fieldAt key with
          | some field =>
              field.assign (cleanValue value) l.cfg
          | none => l.cfg
      | _ => l.cfg := by
  unfold Loader.step
  cases hLine : readLine line with
  | skipped => rfl
  | header enter => exact cfg_header hLine l
  | entry key value =>
      dsimp only
      rw [fieldOf_eq]
      cases hField : (Context.of l.sub l.sect).fieldAt key <;>
        rfl

variable {c : Context}
variable {key : Text}
variable {field : Field}

/-
  The entry a line is to the loader: where it stands, its
  key, and the value the loader takes.
-/
def entryRead
    (l : Loader)
    (line : Text) : Option (Context × Text × Text) :=
  match readLine line with
  | .entry key value =>
      some (Context.of l.sub l.sect, key, cleanValue value)
  | _ => none

/- The value an entry gives to the field with an address. -/
def valueFor
    {α : Type}
    (c : Context)
    (key : Text)
    (parse : Text → Option α)
    (entry : Context × Text × Text) : Option α :=
  if entry.1 = c ∧ entry.2.1 = key then parse entry.2.2
  else none

/-
  A line changes a field to the value it gives to it, if it
  gives it one, and otherwise not at all.
-/
theorem place_step
    (hField : c.fieldAt key = some field)
    (l : Loader)
    (line : Text) :
    field.place.get (l.step line).cfg =
      ((entryRead l line).bind
        (valueFor c key field.parse)).getD
          (field.place.get l.cfg) := by
  rw [cfg_step]
  unfold entryRead valueFor
  cases hLine : readLine line with
  | skipped => rfl
  | header enter => rfl
  | entry key' value =>
      simp only [Option.bind_some]
      by_cases hHere : Context.of l.sub l.sect = c ∧ key' = key
      · rw [if_pos hHere, hHere.1, hHere.2, hField]
        simp only [Field.assign_eq]
        cases field.parse (cleanValue value) with
        | none => rfl
        | some v => exact field.place.get_set v _
      · rw [if_neg hHere]
        cases hOther :
            (Context.of l.sub l.sect).fieldAt key' with
        | none => rfl
        | some other =>
            have hApart :=
              Context.fields_apart hOther hField hHere
            simp only [Field.assign_eq]
            cases other.parse (cleanValue value) with
            | none => rfl
            | some v => exact hApart v _

/- The same for a line with these lines above it. -/
theorem field_step
    (hField : c.fieldAt key = some field)
    (earlier : List Text)
    (line : Text) :
    field.place.get ((loadedBy earlier).step line).cfg =
      (acceptedFrom c key field.parse earlier line).getD
        (field.place.get (loadedBy earlier).cfg) := by
  rw [place_step hField]
  unfold acceptedFrom contextOf entryRead valueFor
  rw [lineEntry_eq, (context_loadedBy earlier).1,
    (context_loadedBy earlier).2]
  cases readLine line <;> rfl

/- Every field has the last value accepted for it. -/
theorem loadedBy_eq
    (hField : c.fieldAt key = some field)
    (earlier : List Text) :
    field.place.get (loadedBy earlier).cfg =
      (lastAccepted c key field.parse earlier).getD
        (field.place.get {}) := by
  induction earlier with
  | nil => rfl
  | cons line earlier ih =>
      change field.place.get
        ((loadedBy earlier).step line).cfg = _
      rw [field_step hField, ih]
      simp only [lastAccepted]
      cases acceptedFrom c key field.parse earlier line <;> rfl

/- The value a line gives to an address. -/
def givenBy
    (c : Context)
    (key : Text)
    (earlier : List Text)
    (line : Text) : Option Text :=
  match lineEntry line with
  | some (key', value) =>
      if contextOf earlier = c ∧ key' = key then some value
      else none
  | none => none

theorem acceptedFrom_eq
    {α : Type}
    (parse : Text → Option α)
    (earlier : List Text)
    (line : Text) :
    acceptedFrom c key parse earlier line =
      (givenBy c key earlier line).bind parse := by
  unfold acceptedFrom givenBy
  cases lineEntry line with
  | none => rfl
  | some entry =>
      dsimp only
      split <;> rfl

/- A parser that goes on with what another one accepts. -/
theorem lastAccepted_map
    {α β : Type}
    (parse : Text → Option α)
    (f : α → β)
    (earlier : List Text) :
    lastAccepted c key (fun v => (parse v).map f) earlier =
      (lastAccepted c key parse earlier).map f := by
  induction earlier with
  | nil => rfl
  | cons line earlier ih =>
      have hLine :
          acceptedFrom c key (fun v => (parse v).map f)
              earlier line =
            (acceptedFrom c key parse earlier line).map f := by
        rw [acceptedFrom_eq, acceptedFrom_eq,
          Option.map_bind]
        rfl
      simp only [lastAccepted, hLine, ih]
      cases acceptedFrom c key parse earlier line <;> rfl

/- The lines of a file, the last first. -/
def linesUpward
    (content : Text) : List Text :=
  (content.splitOn '\n').reverse

theorem loadNodeConfigFromYaml_eq
    (path content : Text)
    (out : NodeConfig) :
    loadNodeConfigFromYaml path (some content) out =
      (.none, (loadedBy (linesUpward content)).cfg, []) := by
  unfold loadNodeConfigFromYaml loadedBy linesUpward
  rw [List.foldr_reverse]
  rfl

/- The loaded configuration, field by field. -/
theorem loaded_field
    {path content text : Text}
    {out cfg : NodeConfig}
    (hLoad :
      loadNodeConfigFromYaml path (some content) out =
        (.none, cfg, text))
    (hField : c.fieldAt key = some field) :
    field.place.get cfg =
      (lastAccepted c key field.parse
        (linesUpward content)).getD (field.place.get {}) := by
  rw [loadNodeConfigFromYaml_eq] at hLoad
  have hCfg : (loadedBy (linesUpward content)).cfg = cfg :=
    congrArg (fun r => r.2.1) hLoad
  rw [← hCfg]
  exact loadedBy_eq hField _

end LoRaRadio

------------------------------------------------------------
-- Every Field Has an Address
------------------------------------------------------------

namespace LoRaRadio

attribute [ext] LinuxSpiConfig LinuxGpioChipConfig
attribute [ext] LinuxSx1280PinConfig LinuxSx1280RadioConfig
attribute [ext] RadioHwConfig NodeConfig Sx1280Config
attribute [ext] Sx1280RfConfig Sx1280LoRaConfig
attribute [ext] Sx1280TimeoutConfig Sx1280RuntimeConfig

namespace Context

theorem keys_nodup
    (c : Context) :
    (c.fields.map Prod.fst).Nodup := by
  rcases c with _ | ⟨_ | _, _ | _ | _ | _⟩ | _ | _ | _ <;>
    decide

/- Every field of a table is at its own key. -/
theorem fieldAt_of_mem
    {c : Context}
    {entry : String × Field}
    (hMem : entry ∈ c.fields) :
    c.fieldAt entry.1.toList = some entry.2 := by
  unfold fieldAt
  cases hFind :
      c.fields.find? fun f => f.1.toList == entry.1.toList with
  | none =>
      have hNot := List.find?_eq_none.mp hFind entry hMem
      simp at hNot
  | some entry' =>
      have hMem' := List.mem_of_find?_eq_some hFind
      have hKey : entry'.1 = entry.1 := by
        have hText : entry'.1.toList = entry.1.toList := by
          simpa using List.find?_some hFind
        exact String.toList_inj.mp hText
      have hSame : entry' = entry :=
        List.inj_on_of_nodup_map (keys_nodup c) hMem' hMem
          hKey
      rw [hSame]
      rfl

/- The fields of a context make up its part. -/
theorem part_ext
    (c : Context)
    {cfg cfg' : NodeConfig}
    (hAll :
      ∀ entry ∈ c.fields,
        entry.2.place.get cfg = entry.2.place.get cfg') :
    c.part.get cfg = c.part.get cfg' := by
  rcases c with _ | ⟨isRx, _ | _ | _ | _⟩ | _ | _ | _ <;>
    simp only [fields, hwFields, roleFields, spiFields,
      gpioFields, pinFields, loraFields, timeoutFields,
      runtimeFields, List.mem_cons, List.not_mem_nil,
      or_false, forall_eq_or_imp, forall_eq] at hAll
  · rfl
  · exact hAll
  · exact LinuxSpiConfig.ext hAll.1 hAll.2.1 hAll.2.2.1
      hAll.2.2.2
  · exact LinuxGpioChipConfig.ext hAll
  · rcases hAll with
      ⟨h₁, h₂, h₃, h₄, h₅, h₆, h₇, h₈, h₉, h₁₀, h₁₁, h₁₂⟩
    exact LinuxSx1280PinConfig.ext h₁ h₂ h₃ h₄ h₅ h₆ h₇ h₈
      h₉ h₁₀ h₁₁ h₁₂
  · rcases hAll with
      ⟨h₁, h₂, h₃, h₄, h₅, h₆, h₇, h₈, h₉, h₁₀, h₁₁, h₁₂⟩
    exact Prod.ext (Sx1280RfConfig.ext h₁ h₂ h₃ h₄)
      (Sx1280LoRaConfig.ext h₅ h₆ h₇ h₈ h₉ h₁₀ h₁₁ h₁₂)
  · exact Sx1280TimeoutConfig.ext hAll.1 hAll.2.1 hAll.2.2
  · rcases hAll with ⟨h₁, h₂, h₃, h₄, h₅⟩
    exact Sx1280RuntimeConfig.ext h₁ h₂ h₃ h₄ h₅

end Context

/- A configuration is determined by its addressed fields. -/
theorem config_ext
    {cfg cfg' : NodeConfig}
    (hAll :
      ∀ (c : Context) key field,
        c.fieldAt key = some field →
          field.place.get cfg = field.place.get cfg') :
    cfg = cfg' := by
  have hPart : ∀ c : Context,
      c.part.get cfg = c.part.get cfg' :=
    fun c => c.part_ext fun entry hMem =>
      hAll c _ _ (Context.fieldAt_of_mem hMem)
  have hLora := hPart .lora
  refine NodeConfig.ext ?_ ?_ ?_
  · exact RadioHwConfig.ext
      (LinuxSx1280RadioConfig.ext (hPart (.radio true .spi))
        (hPart (.radio true .gpio))
        (hPart (.radio true .pins)))
      (hPart (.radio true .none))
  · exact RadioHwConfig.ext
      (LinuxSx1280RadioConfig.ext (hPart (.radio false .spi))
        (hPart (.radio false .gpio))
        (hPart (.radio false .pins)))
      (hPart (.radio false .none))
  · exact Sx1280Config.ext (congrArg Prod.fst hLora)
      (congrArg Prod.snd hLora) (hPart .timeouts)
      (hPart .runtime)

end LoRaRadio

------------------------------------------------------------
-- What One Line Leaves Alone
------------------------------------------------------------

namespace LoRaRadio

open CStrings

/- The line addresses the field with this address. -/
def Addresses
    (earlier : List Text)
    (line : Text)
    (c : Context)
    (key : Text) : Prop :=
  contextOf earlier = c ∧
    ∃ value, lineEntry line = some (key, value)

/-
  What a line with these lines above it does not touch: any
  field but the one it addresses, any part of the
  configuration its context is not about, and anything at
  all if there is no section or the key is not known.
-/
structure TouchesOnlyItsField
    (earlier : List Text)
    (line : Text) : Prop where
  others :
    ∀ (c : Context) key field,
      c.fieldAt key = some field →
        ¬ Addresses earlier line c key →
          field.place.get (loadedBy (line :: earlier)).cfg =
            field.place.get (loadedBy earlier).cfg
  rxOnly :
    ∀ sub, contextOf earlier = .radio true sub →
      (loadedBy (line :: earlier)).cfg.tx =
          (loadedBy earlier).cfg.tx ∧
        (loadedBy (line :: earlier)).cfg.radio =
          (loadedBy earlier).cfg.radio
  txOnly :
    ∀ sub, contextOf earlier = .radio false sub →
      (loadedBy (line :: earlier)).cfg.rx =
          (loadedBy earlier).cfg.rx ∧
        (loadedBy (line :: earlier)).cfg.radio =
          (loadedBy earlier).cfg.radio
  sharedOnly :
    (∀ isRx sub, contextOf earlier ≠ .radio isRx sub) →
      (loadedBy (line :: earlier)).cfg.rx =
          (loadedBy earlier).cfg.rx ∧
        (loadedBy (line :: earlier)).cfg.tx =
          (loadedBy earlier).cfg.tx
  unknown :
    (∀ c key, Addresses earlier line c key →
        c.fieldAt key = none) →
      (loadedBy (line :: earlier)).cfg =
        (loadedBy earlier).cfg
  outside :
    contextOf earlier = .outside →
      (loadedBy (line :: earlier)).cfg =
        (loadedBy earlier).cfg

/-
  A line stores something in the part of its context, or
  nothing at all.
-/
theorem cfg_cons
    (earlier : List Text)
    (line : Text) :
    (loadedBy (line :: earlier)).cfg =
        (loadedBy earlier).cfg ∨
      ∃ v, (loadedBy (line :: earlier)).cfg =
        (contextOf earlier).part.set v
          (loadedBy earlier).cfg := by
  rcases context_loadedBy earlier with ⟨hSect, hSub⟩
  change ((loadedBy earlier).step line).cfg = _ ∨
    ∃ v, ((loadedBy earlier).step line).cfg = _
  rw [cfg_step, hSect, hSub]
  cases hLine : readLine line with
  | skipped => exact .inl rfl
  | header enter => exact .inl rfl
  | entry key value =>
      change
        (match (contextOf earlier).fieldAt key with
          | some field =>
              field.assign (cleanValue value)
                (loadedBy earlier).cfg
          | none => (loadedBy earlier).cfg) = _ ∨
        ∃ v,
          (match (contextOf earlier).fieldAt key with
          | some field =>
              field.assign (cleanValue value)
                (loadedBy earlier).cfg
          | none => (loadedBy earlier).cfg) = _
      cases hField : (contextOf earlier).fieldAt key with
      | none => exact .inl rfl
      | some field =>
          rcases Context.fieldAt_mem hField with
            ⟨entry, hMem, -, rfl⟩
          simp only [Field.assign_eq]
          cases entry.2.parse (cleanValue value) with
          | none => exact .inl rfl
          | some v =>
              exact .inr ((Context.part_within hMem).set v _)

theorem touchesOnlyItsField
    (earlier : List Text)
    (line : Text) :
    TouchesOnlyItsField earlier line := by
  have hOthers : ∀ (c : Context) key field,
      c.fieldAt key = some field →
        ¬ Addresses earlier line c key →
          field.place.get (loadedBy (line :: earlier)).cfg =
            field.place.get (loadedBy earlier).cfg := by
    intro c key field hField hNot
    have hNone :
        acceptedFrom c key field.parse earlier line =
          none := by
      unfold acceptedFrom
      cases hLine : lineEntry line with
      | none => rfl
      | some entry =>
          refine if_neg fun hHere =>
            hNot ⟨hHere.1, entry.2, ?_⟩
          rw [hLine, ← hHere.2]
    have hStep := field_step hField earlier line
    rw [hNone] at hStep
    exact hStep
  refine ⟨hOthers, ?_, ?_, ?_, ?_, ?_⟩
  · intro sub hContext
    rcases cfg_cons earlier line with hSame | ⟨v, hSet⟩
    · rw [hSame]
      exact ⟨rfl, rfl⟩
    · rw [hSet]
      clear hSet
      revert v
      rw [hContext]
      intro v
      cases sub <;> exact ⟨rfl, rfl⟩
  · intro sub hContext
    rcases cfg_cons earlier line with hSame | ⟨v, hSet⟩
    · rw [hSame]
      exact ⟨rfl, rfl⟩
    · rw [hSet]
      clear hSet
      revert v
      rw [hContext]
      intro v
      cases sub <;> exact ⟨rfl, rfl⟩
  · intro hContext
    rcases cfg_cons earlier line with hSame | ⟨v, hSet⟩
    · rw [hSame]
      exact ⟨rfl, rfl⟩
    · rw [hSet]
      clear hSet
      revert v
      cases hHere : contextOf earlier with
      | radio isRx sub =>
          exact absurd hHere (hContext isRx sub)
      | _ => exact fun v => ⟨rfl, rfl⟩
  · intro hUnknown
    apply config_ext
    intro c key field hField
    refine hOthers c key field hField fun hAddress => ?_
    rw [hUnknown c key hAddress] at hField
    cases hField
  · intro hOutside
    apply config_ext
    intro c key field hField
    refine hOthers c key field hField fun hAddress => ?_
    rw [← hAddress.1, hOutside] at hField
    cases hField

/-
  Loading a file that can be read gives the configuration in
  which every field has the value of the last line that
  addresses it and whose value its parser accepts, or its
  default; these are all the fields there are, and no line
  touches any other.
-/
theorem loader_lastAccepted
    (path content : Text)
    (out : NodeConfig) :
    ∃ cfg,
      loadNodeConfigFromYaml path (some content) out =
          (.none, cfg, []) ∧
        (∀ (c : Context) key field,
          c.fieldAt key = some field →
            field.place.get cfg =
              (lastAccepted c key field.parse
                (linesUpward content)).getD
                  (field.place.get {})) ∧
        (∀ cfg' : NodeConfig,
          (∀ (c : Context) key field,
            c.fieldAt key = some field →
              field.place.get cfg' = field.place.get cfg) →
            cfg' = cfg) ∧
        ∀ later line earlier,
          linesUpward content = later ++ line :: earlier →
            TouchesOnlyItsField earlier line := by
  refine ⟨_, loadNodeConfigFromYaml_eq path content out, ?_,
    fun cfg' hAll => config_ext hAll, ?_⟩
  · exact fun c key field hField => loadedBy_eq hField _
  · exact fun _ line earlier _ =>
      touchesOnlyItsField earlier line

end LoRaRadio
