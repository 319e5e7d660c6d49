import Mathlib.Logic.Relation
import LoRaRadio.Config.LastAccepted
import LoRaRadio.Config.WrittenValues

/-
  Edits of a configuration file that change only its layout:
  lines without content, white space around a line, and
  comments after a line.

  Main declarations:
    * `LayoutEdit`
    * `step_respaced` and `step_commented`
    * `StoredBetweenQuotes`
    * `layout_iff`
-/

------------------------------------------------------------
-- Edits
------------------------------------------------------------

namespace LoRaRadio

open CStrings

/- A line that is empty or a comment. -/
def IsNoise
    (line : Text) : Prop :=
  trim line = [] ∨ (trim line).head? = some '#'

/- A line that selects a section or a sub-section. -/
def IsHeader
    (line : Text) : Prop :=
  ∃ h ∈ headers, h.1.toList = trim line

/-
  One edit of the lines of a file that changes only the
  layout.  Comments are appended to lines of the given kind.
-/
inductive LayoutEdit
    (commentable : Text → Prop) :
    List Text → List Text → Prop
  | insert
      {before after : List Text}
      {line : Text}
      (hNoise : IsNoise line) :
      LayoutEdit commentable (before ++ after)
        (before ++ line :: after)
  | respace
      {before after : List Text}
      {core a b a' b' : Text}
      (hOld : Blank a ∧ Blank b)
      (hNew : Blank a' ∧ Blank b') :
      LayoutEdit commentable
        (before ++ (a ++ core ++ b) :: after)
        (before ++ (a' ++ core ++ b') :: after)
  | comment
      {before after : List Text}
      {line blank text : Text}
      (hKind : commentable line)
      (hLine : '\n' ∉ line)
      (hBlank : Blank blank ∧ blank ≠ []) :
      LayoutEdit commentable (before ++ line :: after)
        (before ++ (line ++ blank ++ '#' :: text) :: after)

/-
  Any number of layout edits leaves the result of loading as
  it is.
-/
def IgnoresLayout
    (commentable : Text → Prop) : Prop :=
  ∀ path out content content',
    Relation.ReflTransGen (LayoutEdit commentable)
        (fileLines content) (fileLines content') →
      loadNodeConfigFromYaml path (some content) out =
        loadNodeConfigFromYaml path (some content') out

end LoRaRadio

------------------------------------------------------------
-- Edited Lines
------------------------------------------------------------

namespace LoRaRadio

open CStrings

variable {line line' : Text}

/- The loader sees of a line what is left when trimmed. -/
theorem readLine_of_trim
    (hTrim : trim line = trim line') :
    readLine line = readLine line' := by
  unfold readLine
  rw [hTrim]

theorem readLine_noise
    (hNoise : IsNoise line) :
    readLine line = .skipped := by
  unfold readLine
  exact if_pos hNoise

theorem step_noise
    (hNoise : IsNoise line)
    (l : Loader) :
    l.step line = l := by
  unfold Loader.step
  rw [readLine_noise hNoise]

/- White space around a line makes no difference. -/
theorem step_respaced
    {core a b a' b' : Text}
    (hOld : Blank a ∧ Blank b)
    (hNew : Blank a' ∧ Blank b')
    (l : Loader) :
    l.step (a ++ core ++ b) = l.step (a' ++ core ++ b') := by
  have hTrim :
      trim (a ++ core ++ b) = trim (a' ++ core ++ b') :=
    (trim_append core hOld.1 hOld.2).trans
      (trim_append core hNew.1 hNew.2).symm
  unfold Loader.step
  rw [readLine_of_trim hTrim]

/- A line that is no header is an entry or nothing. -/
theorem readLine_plain
    (hHeader : ¬ IsHeader line)
    (hNoise : ¬ IsNoise line) :
    readLine line =
      if ':' ∈ line then
        .entry (trim (line.takeWhile (· != ':')))
          (trim (line.dropWhile (· != ':')).tail)
      else .skipped := by
  have hNone :
      (headers.find? fun h => h.1.toList == trim line) =
        none := by
    rw [List.find?_eq_none]
    intro h hMem hEq
    exact hHeader ⟨h, hMem, by simpa using hEq⟩
  have hVisible :
      ¬ (trim line = [] ∨ (trim line).head? = some '#') :=
    hNoise
  unfold readLine
  simp only [hVisible, if_false, hNone, splitKey_trim]
  by_cases hColon : ':' ∈ line
  · rw [if_pos hColon, if_pos hColon]
  · rw [if_neg hColon, if_neg hColon]

/- What a line that is no header does. -/
theorem step_entry
    (hHeader : ¬ IsHeader line)
    (hNoise : ¬ IsNoise line)
    (l : Loader) :
    l.step line =
      if ':' ∈ line then
        match fieldOf l.sect l.sub
          (trim (line.takeWhile (· != ':'))) with
        | some field =>
            { l with
              cfg :=
                field.assign
                  (cleanValue
                    (trim (line.dropWhile (· != ':')).tail))
                  l.cfg }
        | none => l
      else l := by
  unfold Loader.step
  rw [readLine_plain hHeader hNoise]
  by_cases hColon : ':' ∈ line
  · rw [if_pos hColon]
    exact (if_pos hColon).symm
  · rw [if_neg hColon]
    exact (if_neg hColon).symm

/- The names of all fields. -/
def fieldNames : List String :=
  (roleFields true ++ spiFields true ++ gpioFields true ++
    pinFields true ++ loraFields ++ timeoutFields ++
    runtimeFields).map Prod.fst

theorem name_mem_fieldNames
    {c : Context}
    {entry : String × Field}
    (hMem : entry ∈ c.fields) :
    entry.1 ∈ fieldNames := by
  have hName := List.mem_map_of_mem (f := Prod.fst) hMem
  unfold fieldNames
  simp only [List.map_append, List.mem_append]
  rcases c with _ | ⟨_ | _, _ | _ | _ | _⟩ | _ | _ | _
  · cases hMem
  · exact .inl (.inl (.inl (.inl (.inl (.inl hName)))))
  · exact .inl (.inl (.inl (.inl (.inl (.inr hName)))))
  · exact .inl (.inl (.inl (.inl (.inr hName))))
  · exact .inl (.inl (.inl (.inr hName)))
  · exact .inl (.inl (.inl (.inl (.inl (.inl hName)))))
  · exact .inl (.inl (.inl (.inl (.inl (.inr hName)))))
  · exact .inl (.inl (.inl (.inl (.inr hName))))
  · exact .inl (.inl (.inl (.inr hName)))
  · exact .inl (.inl (.inr hName))
  · exact .inl (.inr hName)
  · exact .inr hName

theorem fieldAt_name
    {c : Context}
    {key : Text}
    {field : Field}
    (hField : c.fieldAt key = some field) :
    ∃ name ∈ fieldNames, name.toList = key := by
  unfold Context.fieldAt at hField
  rcases Option.map_eq_some_iff.mp hField with
    ⟨entry, hFind, -⟩
  have hMem := List.mem_of_find?_eq_some hFind
  exact ⟨entry.1, name_mem_fieldNames hMem,
    by simpa using List.find?_some hFind⟩

theorem fieldOf_none
    {key : Text}
    (sect : Section)
    (sub : SubSection)
    (hOther : ∀ name ∈ fieldNames, name.toList ≠ key) :
    fieldOf sect sub key = none := by
  rw [fieldOf_eq]
  cases hField : (Context.of sub sect).fieldAt key with
  | none => rfl
  | some field =>
      rcases fieldAt_name hField with ⟨name, hMem, hKey⟩
      exact absurd hKey (hOther name hMem)

/- A `#` occurs in no name of a field. -/
theorem fieldOf_hash
    {key : Text}
    (sect : Section)
    (sub : SubSection)
    (hHash : '#' ∈ key) :
    fieldOf sect sub key = none := by
  have hNames : ∀ name ∈ fieldNames, '#' ∉ name.toList := by
    decide +kernel
  exact fieldOf_none sect sub fun name hMem hKey =>
    hNames name hMem (hKey ▸ hHash)

/- What a comment after a text leaves of its value. -/
theorem cleanValue_commented
    (rest : Text)
    {blank : Text}
    (text : Text)
    (hBlank : Blank blank) :
    cleanValue (trim (rest ++ blank ++ '#' :: text)) =
      cleanValue (trim rest) := by
  rw [cleanValue_trim, cleanValue_trim]
  congr 1
  by_cases hHash : '#' ∈ rest
  · rcases List.eq_append_cons_of_mem hHash with
      ⟨before, after, rfl, hNot⟩
    rw [List.append_assoc, List.append_assoc,
      List.cons_append, takeWhile_split hNot,
      takeWhile_split hNot]
  · have hHidden : '#' ∉ blank :=
      not_mem_of_blank (by decide) hBlank
    have hNot : '#' ∉ rest ++ blank := by
      simp [hHash, hHidden]
    rw [takeWhile_split hNot, takeWhile_of_not_mem hHash]
    exact trim_append (a := []) rest
      (fun _ hNil => nomatch hNil) hBlank

/- A line with a comment or a quote in it is no header. -/
theorem not_isHeader_of_mem
    {d : Char}
    (hSign : d = '#' ∨ d = '"')
    (hMem : d ∈ line) :
    ¬ IsHeader line := by
  rintro ⟨h, hHeader, hEq⟩
  have hVisible : isSpace d = false := by
    rcases hSign with rfl | rfl <;> decide
  have hNames :
      ∀ name ∈ headers.map (fun h => h.1),
        '#' ∉ name.toList ∧ '"' ∉ name.toList := by
    decide
  rcases hNames h.1 (List.mem_map_of_mem hHeader) with
    ⟨hHash, hQuote⟩
  have hIn : d ∈ h.1.toList :=
    hEq ▸ (mem_trim_iff hVisible).mpr hMem
  rcases hSign with rfl | rfl
  · exact hHash hIn
  · exact hQuote hIn

/- The first visible character is left by trimming. -/
theorem head?_trim
    (s : Text) :
    (trim s).head? = (s.dropWhile isSpace).head? := by
  unfold trim
  have hFirst := List.head?_dropWhile_not isSpace s
  cases hRest : s.dropWhile isSpace with
  | nil => rfl
  | cons c cs =>
      rw [hRest] at hFirst
      have hVisible : isSpace c = false := by
        simpa using hFirst
      rcases List.rdropWhile_prefix isSpace (c :: cs) with
        ⟨tail, hTail⟩
      cases hKept : (c :: cs).rdropWhile isSpace with
      | nil =>
          have hBlank :=
            List.rdropWhile_eq_nil_iff.mp hKept c
              List.mem_cons_self
          rw [hVisible] at hBlank
          cases hBlank
      | cons c' cs' =>
          rw [hKept] at hTail
          cases hTail
          rfl

theorem isNoise_iff :
    IsNoise line ↔
      ∀ c, (line.dropWhile isSpace).head? = some c →
        c = '#' := by
  unfold IsNoise
  rw [← head?_trim]
  cases trim line with
  | nil => simp
  | cons c cs => simp

/- What is before a comment decides whether it is noise. -/
theorem isNoise_commented
    {blank : Text}
    (text : Text)
    (hBlank : Blank blank) :
    IsNoise (line ++ blank ++ '#' :: text) ↔
      IsNoise line := by
  rw [isNoise_iff, isNoise_iff, List.append_assoc,
    List.dropWhile_append]
  split
  · next hNothing =>
      have hNil : line.dropWhile isSpace = [] := by
        simpa using hNothing
      rw [hNil, List.dropWhile_append_of_pos hBlank]
      simp [show isSpace '#' = false by decide]
  · next hSomething =>
      cases hRest : line.dropWhile isSpace with
      | nil =>
          rw [hRest] at hSomething
          exact absurd rfl hSomething
      | cons c cs => simp

/- A comment after a line that is no header changes nothing. -/
theorem step_commented
    {blank : Text}
    (text : Text)
    (hHeader : ¬ IsHeader line)
    (hBlank : Blank blank)
    (l : Loader) :
    l.step (line ++ blank ++ '#' :: text) = l.step line := by
  by_cases hNoise : IsNoise line
  · rw [step_noise hNoise,
      step_noise ((isNoise_commented text hBlank).mpr hNoise)]
  · have hNoise' : ¬ IsNoise (line ++ blank ++ '#' :: text) :=
      fun h => hNoise ((isNoise_commented text hBlank).mp h)
    have hHeader' :
        ¬ IsHeader (line ++ blank ++ '#' :: text) :=
      not_isHeader_of_mem (.inl rfl) (by simp)
    rw [step_entry hHeader hNoise, step_entry hHeader' hNoise']
    by_cases hColon : ':' ∈ line
    · rcases List.eq_append_cons_of_mem hColon with
        ⟨before, after, rfl, hNot⟩
      have hText :
          before ++ ':' :: after ++ blank ++ '#' :: text =
            before ++ ':' :: (after ++ blank ++ '#' :: text) := by
        simp
      rw [hText, takeWhile_split hNot, takeWhile_split hNot,
        tail_dropWhile_split hNot, tail_dropWhile_split hNot,
        cleanValue_commented after text hBlank]
      simp
    · rw [if_neg hColon]
      split
      · have hNot : ':' ∉ line ++ blank ++ ['#'] := by
          have hHidden : ':' ∉ blank :=
            not_mem_of_blank (by decide) hBlank
          simp [hColon, hHidden]
        have hText :
            line ++ blank ++ '#' :: text =
              line ++ blank ++ ['#'] ++ text := by
          simp
        have hHash :
            '#' ∈ trim ((line ++ blank ++ '#' :: text).takeWhile
              (· != ':')) := by
          rw [hText, takeWhile_append_of_not_mem hNot]
          exact (mem_trim_iff (by decide)).mpr (by simp)
        rw [fieldOf_hash _ _ hHash]
      · rfl

end LoRaRadio

------------------------------------------------------------
-- Edited Files
------------------------------------------------------------

namespace LoRaRadio

open CStrings

variable {commentable : Text → Prop}
variable {lines lines' : List Text}

/- An edit does not change what the lines do. -/
theorem foldl_layoutEdit
    (hHeader :
      ∀ line, '\n' ∉ line → commentable line →
        ¬ IsHeader line)
    (hEdit : LayoutEdit commentable lines lines')
    (l : Loader) :
    lines.foldl Loader.step l = lines'.foldl Loader.step l := by
  cases hEdit with
  | insert hNoise =>
      simp only [List.foldl_append, List.foldl_cons,
        step_noise hNoise]
  | respace hOld hNew =>
      simp only [List.foldl_append, List.foldl_cons,
        step_respaced hOld hNew]
  | comment hKind hLine hBlank =>
      simp only [List.foldl_append, List.foldl_cons,
        step_commented _ (hHeader _ hLine hKind) hBlank.1]

theorem foldl_layoutEdits
    (hHeader :
      ∀ line, '\n' ∉ line → commentable line →
        ¬ IsHeader line)
    (hEdits :
      Relation.ReflTransGen (LayoutEdit commentable) lines
        lines')
    (l : Loader) :
    lines.foldl Loader.step l = lines'.foldl Loader.step l := by
  induction hEdits with
  | refl => rfl
  | tail _ hEdit ih =>
      exact ih.trans (foldl_layoutEdit hHeader hEdit l)

/- The lines of a file written from them. -/
theorem fileLines_intercalate
    (hLines : ∀ line ∈ lines, '\n' ∉ line)
    (hNonempty : lines ≠ []) :
    fileLines (['\n'].intercalate lines) = lines :=
  List.splitOn_intercalate '\n' hLines hNonempty

/- The configuration after a list of lines. -/
def configAfter
    (l : Loader)
    (lines : List Text) : NodeConfig :=
  (lines.foldl Loader.step l).cfg

/- For every header there is a file in which it matters. -/
theorem header_matters
    {h : String × (Loader → Loader)}
    (hMem : h ∈ headers) :
    ∃ before after : List Text,
      (∀ line ∈ before ++ after, '\n' ∉ line) ∧
        configAfter (h.2 (before.foldl Loader.step {})) after ≠
          configAfter (before.foldl Loader.step {}) after := by
  simp only [headers, List.mem_cons, List.not_mem_nil,
    or_false] at hMem
  rcases hMem with rfl | rfl | rfl | rfl | rfl | rfl | rfl |
      rfl | rfl
  · exact ⟨["rx:".toList], ["role: tx".toList], by decide,
      by decide +kernel⟩
  · exact ⟨[], ["role: tx".toList], by decide,
      by decide +kernel⟩
  · exact ⟨[], ["role: rx".toList], by decide,
      by decide +kernel⟩
  · exact ⟨["rx:".toList], ["mode: 3".toList], by decide,
      by decide +kernel⟩
  · exact ⟨["rx:".toList], ["chip: x".toList], by decide,
      by decide +kernel⟩
  · exact ⟨["rx:".toList], ["reset: 9".toList], by decide,
      by decide +kernel⟩
  · exact ⟨[], ["payload_length: 9".toList], by decide,
      by decide +kernel⟩
  · exact ⟨[], ["continuous_rx: false".toList], by decide,
      by decide +kernel⟩
  · exact ⟨[], ["auto_fs: false".toList], by decide,
      by decide +kernel⟩

theorem readLine_of_header
    {line : Text}
    {h : String × (Loader → Loader)}
    (hMem : h ∈ headers)
    (hName : h.1.toList = trim line) :
    readLine line = .header h.2 := by
  have hFind :
      headers.find? (fun h => h.1.toList == trim line) =
        some h := by
    rw [← hName]
    simp only [headers, List.mem_cons, List.not_mem_nil,
      or_false] at hMem
    rcases hMem with rfl | rfl | rfl | rfl | rfl | rfl | rfl |
        rfl | rfl <;>
      rfl
  exact readLine_header hFind

theorem step_header_eq
    {line : Text}
    {h : String × (Loader → Loader)}
    (hMem : h ∈ headers)
    (hName : h.1.toList = trim line)
    (l : Loader) :
    l.step line = h.2 l := by
  unfold Loader.step
  rw [readLine_of_header hMem hName]

/- The name of a header is no name of a field. -/
theorem name_ne_header
    {h : String × (Loader → Loader)}
    (hMem : h ∈ headers) :
    ∀ name ∈ fieldNames,
      name.toList ≠
        trim (h.1.toList.takeWhile (· != ':')) := by
  have hNames :
      ∀ header ∈ headers.map (fun h => h.1),
        ∀ name ∈ fieldNames,
          name.toList ≠
            trim (header.toList.takeWhile (· != ':')) := by
    decide +kernel
  exact hNames h.1 (List.mem_map_of_mem hMem)

/- A header that gets a comment is missed. -/
theorem step_commented_header
    {line : Text}
    (hHeader : IsHeader line)
    (l : Loader) :
    l.step (line ++ [' '] ++ ['#']) = l := by
  rcases hHeader with ⟨h, hMem, hName⟩
  have hShape :
      ∀ name ∈ headers.map (fun h => h.1),
        ':' ∈ name.toList ∧
          ¬ (name.toList = [] ∨
            name.toList.head? = some '#') := by decide
  rcases hShape h.1 (List.mem_map_of_mem hMem) with
    ⟨hColon, hVisible⟩
  have hColon' : ':' ∈ line := by
    rw [hName] at hColon
    exact (mem_trim_iff (by decide)).mp hColon
  have hNoise : ¬ IsNoise line := by
    unfold IsNoise
    rwa [← hName]
  have hNoise' : ¬ IsNoise (line ++ [' '] ++ ['#']) :=
    fun hBoth =>
      hNoise ((isNoise_commented [] blank_space).mp hBoth)
  have hHeader' : ¬ IsHeader (line ++ [' '] ++ ['#']) :=
    not_isHeader_of_mem (.inl rfl) (by simp)
  have hKey :
      trim ((line ++ [' '] ++ ['#']).takeWhile (· != ':')) =
        trim (h.1.toList.takeWhile (· != ':')) := by
    rw [hName, trim_takeWhile_trim (by decide)]
    rcases List.eq_append_cons_of_mem hColon' with
      ⟨before, after, rfl, hNot⟩
    rw [takeWhile_split hNot, List.append_assoc,
      List.append_assoc, List.cons_append,
      takeWhile_split hNot]
  rw [step_entry hHeader' hNoise', hKey,
    fieldOf_none _ _ (name_ne_header hMem)]
  simp

theorem ignoresLayout_iff
    (commentable : Text → Prop) :
    IgnoresLayout commentable ↔
      ∀ line, '\n' ∉ line → commentable line →
        ¬ IsHeader line := by
  constructor
  · intro hIgnores line hLine hKind hHeader
    rcases hHeader with ⟨h, hMem, hName⟩
    rcases header_matters hMem with
      ⟨before, after, hLines, hMatters⟩
    have hOther : ∀ l ∈ before ++ line :: after, '\n' ∉ l := by
      intro l hIn
      simp only [List.mem_append, List.mem_cons] at hIn
      rcases hIn with hIn | rfl | hIn
      · exact hLines l (List.mem_append_left _ hIn)
      · exact hLine
      · exact hLines l (List.mem_append_right _ hIn)
    have hOther' :
        ∀ l ∈ before ++ (line ++ [' '] ++ ['#']) :: after,
          '\n' ∉ l := by
      intro l hIn
      simp only [List.mem_append, List.mem_cons] at hIn
      rcases hIn with hIn | rfl | hIn
      · exact hLines l (List.mem_append_left _ hIn)
      · simp [hLine]
      · exact hLines l (List.mem_append_right _ hIn)
    have hEdit :
        LayoutEdit commentable (before ++ line :: after)
          (before ++ (line ++ [' '] ++ ['#']) :: after) :=
      .comment hKind hLine ⟨by simp [Blank]; decide, by simp⟩
    have hSame :=
      hIgnores []  {}
        (['\n'].intercalate (before ++ line :: after))
        (['\n'].intercalate
          (before ++ (line ++ [' '] ++ ['#']) :: after))
        (by
          rw [fileLines_intercalate hOther (by simp),
            fileLines_intercalate hOther' (by simp)]
          exact .single hEdit)
    have hCfg := congrArg (fun r => r.2.1) hSame
    simp only [loadNodeConfigFromYaml] at hCfg
    rw [fileLines_intercalate hOther (by simp),
      fileLines_intercalate hOther' (by simp)] at hCfg
    simp only [List.foldl_append, List.foldl_cons,
      step_header_eq hMem hName,
      step_commented_header ⟨h, hMem, hName⟩] at hCfg
    exact hMatters hCfg
  · intro hHeader path out content content' hEdits
    unfold loadNodeConfigFromYaml
    simp only [foldl_layoutEdits hHeader hEdits]

end LoRaRadio

------------------------------------------------------------
-- Quoted Values
------------------------------------------------------------

namespace LoRaRadio

open CStrings

/- A line that gives a quoted value to a key. -/
def QuotedEntry
    (key inner line : Text) : Prop :=
  ∃ a a' b c,
    (Blank a ∧ Blank a' ∧ Blank b ∧ Blank c) ∧
      line =
        a ++ key ++ a' ++
          ':' :: (b ++ ('"' :: inner ++ ['"']) ++ c)

/-
  Wherever a text is the quoted value of an entry of a text
  field, the field has this text after the line.
-/
def StoredBetweenQuotes
    (inner : Text) : Prop :=
  ∀ (c : Context) key place earlier line,
    c.fieldAt key = some (.text place) →
      contextOf earlier = c →
        QuotedEntry key inner line →
          place.get (loadedBy (line :: earlier)).cfg = inner

/- The names of fields are visible texts without signs. -/
theorem fieldAt_visible
    {c : Context}
    {key : Text}
    {field : Field}
    (hField : c.fieldAt key = some field) :
    ':' ∉ key ∧ trim key = key ∧ ¬ IsNoise key := by
  have hNames :
      ∀ name ∈ fieldNames,
        ':' ∉ name.toList ∧ trim name.toList = name.toList ∧
          ¬ (trim name.toList = [] ∨
            (trim name.toList).head? = some '#') := by
    decide +kernel
  rcases fieldAt_name hField with ⟨name, hMem, rfl⟩
  exact hNames name hMem

theorem cleanValue_quoted
    (inner : Text) :
    cleanValue ('"' :: inner ++ ['"']) = inner ↔
      '#' ∉ inner := by
  constructor
  · intro hSame
    rw [← hSame]
    exact hash_notMem_cleanValue _
  · intro hHash
    have hNone : '#' ∉ '"' :: inner ++ ['"'] := by
      simp [hHash]
    rw [cleanValue_eq_stripQuotes]
    unfold uncommented stripQuotes
    have hLast :
        ('"' :: inner ++ ['"']).getLast? = some '"' :=
      List.getLast?_concat
    rw [if_neg hNone, if_pos ⟨by simp, rfl, hLast⟩]
    simp

theorem not_isNoise_append
    {s a : Text}
    (hVisible : ¬ IsNoise s)
    (hBlank : Blank a)
    (t : Text) :
    ¬ IsNoise (a ++ s ++ t) := by
  rw [isNoise_iff] at hVisible ⊢
  push Not at hVisible ⊢
  rcases hVisible with ⟨c, hFirst, hOther⟩
  refine ⟨c, ?_, hOther⟩
  rw [List.append_assoc, List.dropWhile_append_of_pos hBlank,
    List.dropWhile_append]
  cases hRest : s.dropWhile isSpace with
  | nil =>
      rw [hRest] at hFirst
      cases hFirst
  | cons d rest =>
      rw [hRest] at hFirst
      exact hFirst

theorem trim_quoted
    (inner : Text) :
    trim ('"' :: inner ++ ['"']) = '"' :: inner ++ ['"'] := by
  have hQuote : isSpace '"' = false := by decide
  unfold trim
  rw [List.cons_append, List.dropWhile_cons_of_neg
    (by simp [hQuote]), ← List.cons_append]
  exact List.rdropWhile_concat_neg isSpace _ _
    (by simp [hQuote])

/- What the loader reads of a line with the key of a field. -/
theorem readLine_keyed
    {c : Context}
    {key a a' b d : Text}
    {field : Field}
    (hField : c.fieldAt key = some field)
    (hBefore : Blank a ∧ Blank a')
    (hAfter : Blank b ∧ Blank d)
    (value : Text) :
    readLine (a ++ key ++ a' ++ ':' :: (b ++ value ++ d)) =
      .entry key (trim value) := by
  rcases fieldAt_visible hField with ⟨hNoColon, hTrim, hVisible⟩
  have hNot : ':' ∉ a ++ key ++ a' := by
    have hHidden : ':' ∉ a :=
      not_mem_of_blank (by decide) hBefore.1
    have hHidden' : ':' ∉ a' :=
      not_mem_of_blank (by decide) hBefore.2
    simp [hHidden, hHidden', hNoColon]
  have hKey :
      trim ((a ++ key ++ a' ++ ':' :: (b ++ value ++ d)
        ).takeWhile (· != ':')) = key := by
    rw [takeWhile_split hNot,
      trim_append key hBefore.1 hBefore.2, hTrim]
  have hHeader :
      ¬ IsHeader
        (a ++ key ++ a' ++ ':' :: (b ++ value ++ d)) := by
    rintro ⟨h, hMem, hName⟩
    rcases fieldAt_name hField with ⟨name, hIn, hSame⟩
    apply name_ne_header hMem name hIn
    rw [hName, trim_takeWhile_trim (by decide), hKey, hSame]
  have hNoise :
      ¬ IsNoise
        (a ++ key ++ a' ++ ':' :: (b ++ value ++ d)) := by
    rw [List.append_assoc]
    exact not_isNoise_append hVisible hBefore.1 _
  rw [readLine_plain hHeader hNoise, if_pos (by simp), hKey,
    tail_dropWhile_split hNot,
    trim_append _ hAfter.1 hAfter.2]

theorem readLine_quoted
    {c : Context}
    {key inner line : Text}
    {field : Field}
    (hField : c.fieldAt key = some field)
    (hLine : QuotedEntry key inner line) :
    readLine line = .entry key ('"' :: inner ++ ['"']) := by
  rcases hLine with
    ⟨a, a', b, d, ⟨hBlank, hBlank', hBlankB, hBlankD⟩, rfl⟩
  rw [readLine_keyed hField ⟨hBlank, hBlank'⟩
    ⟨hBlankB, hBlankD⟩, trim_quoted]

/- A text field gets what the loader makes of the value. -/
theorem stored_quoted
    {c : Context}
    {key inner line : Text}
    {place : Lens NodeConfig Text}
    {earlier : List Text}
    (hField : c.fieldAt key = some (.text place))
    (hContext : contextOf earlier = c)
    (hLine : QuotedEntry key inner line) :
    place.get (loadedBy (line :: earlier)).cfg =
      cleanValue ('"' :: inner ++ ['"']) := by
  have hStep := field_step hField earlier line
  unfold acceptedFrom at hStep
  rw [lineEntry_eq, readLine_quoted hField hLine] at hStep
  simp only [hContext, and_self, if_true] at hStep
  exact hStep

theorem storedBetweenQuotes_iff
    (inner : Text) :
    StoredBetweenQuotes inner ↔ '#' ∉ inner := by
  rw [← cleanValue_quoted]
  constructor
  · intro hStored
    have hNil : Blank [] := fun _ hMem => nomatch hMem
    have hLine :
        QuotedEntry "chip".toList inner
          ([] ++ "chip".toList ++ [] ++
            ':' :: ([] ++ ('"' :: inner ++ ['"']) ++ [])) :=
      ⟨[], [], [], [], ⟨hNil, hNil, hNil, hNil⟩, rfl⟩
    have hField :
        (Context.radio true .gpio).fieldAt "chip".toList =
          some (.text _) := rfl
    have hContext :
        contextOf ["gpio:".toList, "rx:".toList] =
          .radio true .gpio := rfl
    rw [← stored_quoted hField hContext hLine]
    exact hStored _ _ _ _ _ hField hContext hLine
  · intro hClean c key place earlier line hField hContext
      hLine
    rw [stored_quoted hField hContext hLine, hClean]

/-
  Layout is ignored exactly if no comment is appended to a
  header, and a quoted value is stored as the text between
  its quotes exactly if there is no `#` in it.
-/
theorem layout_iff
    (commentable : Text → Prop)
    (inner : Text) :
    (IgnoresLayout commentable ↔
        ∀ line, '\n' ∉ line → commentable line →
          ¬ IsHeader line) ∧
      (StoredBetweenQuotes inner ↔ '#' ∉ inner) :=
  ⟨ignoresLayout_iff commentable,
    storedBetweenQuotes_iff inner⟩

/- A file with a comment after a header, and without. -/
def commentedHeader : Text :=
  "tx: # second radio\n  role: rx".toList

def plainHeader : Text := "tx:\n  role: rx".toList

theorem commentedHeader_missed :
    LayoutEdit (fun _ => True) (fileLines plainHeader)
        (fileLines commentedHeader) ∧
      (loadNodeConfigFromYaml [] (some plainHeader) {}).2.1 ≠
        (loadNodeConfigFromYaml [] (some commentedHeader)
          {}).2.1 := by
  refine ⟨?_, by decide +kernel⟩
  have hLines :
      fileLines plainHeader =
        [] ++ "tx:".toList :: ["  role: rx".toList] := by
    decide +kernel
  have hLines' :
      fileLines commentedHeader =
        [] ++ ("tx:".toList ++ [' '] ++
          '#' :: " second radio".toList) ::
            ["  role: rx".toList] := by
    decide +kernel
  rw [hLines, hLines']
  exact .comment trivial (by decide)
    ⟨blank_space, by decide⟩

end LoRaRadio
