import LoRaRadio.Fprime.BufferManager
import Mathlib.Logic.Function.Basic

/-
  `Svc::Ccsds::ApidManager`: sequence counts by APID.

  A table of eleven entries gives every APID a count of its
  own.  An APID gets an entry when it is first seen, as long
  as there are entries left.  Uplink and downlink share the
  table.

  Main declarations:
    * `ApidManager`
    * `SequenceCounts` and `Tracks`
    * `apidManager_survives_iff`
    * `numbers_in_step`
    * `resynchronized_iff`
-/

------------------------------------------------------------
-- The Component
------------------------------------------------------------

namespace LoRaRadio

open Faulting

/- `Apid::INVALID_UNINITIALIZED` -/
def apidInvalidUninitialized : UInt16 := 0x0800

/- `ApidSequenceEntry` -/
structure ApidSequenceEntry where
  apid : UInt16 := apidInvalidUninitialized
  sequenceCount : UInt16 := 0
deriving DecidableEq, Repr

def freeEntry : ApidSequenceEntry := {}

inductive ApidManagerEvent
  | unexpectedSequenceCount (transmitted expected : UInt16)
  | apidTableFull (apid : UInt16)
deriving DecidableEq, Repr

/- `MAX_TRACKED_APIDS` -/
def maxTrackedApids : Nat := 11

/- The table, and the events that have been reported. -/
structure ApidManager where
  apidSequences : List ApidSequenceEntry :=
    List.replicate maxTrackedApids freeEntry
  events : List ApidManagerEvent := []
deriving DecidableEq, Repr

namespace ApidManager

/- `SEQUENCE_COUNT_ERROR` -/
def sequenceCountError : UInt16 := 0xFFFF

/- The count after a count. -/
def increment
    (count : UInt16) : UInt16 :=
  (count + 1) % 0x4000

/-
  One of the two loops of `getAndIncrementSeqCount`: the
  first entry of the APID `wanted` gives its count, and is
  the entry of `apid` from then on.
-/
def takeCount
    (wanted apid : UInt16) :
    List ApidSequenceEntry →
      Option (UInt16 × List ApidSequenceEntry)
| [] => none
| entry :: entries =>
    if entry.apid = wanted then
      some
        (entry.sequenceCount,
          { apid := apid
            sequenceCount := increment entry.sequenceCount } ::
          entries)
    else
      (takeCount wanted apid entries).map fun found =>
        (found.1, entry :: found.2)

/- The loop of `setNextSeqCount`. -/
def setCount
    (apid count : UInt16) :
    List ApidSequenceEntry → Option (List ApidSequenceEntry)
| [] => none
| entry :: entries =>
    if entry.apid = apid then
      some ({ entry with sequenceCount := count } :: entries)
    else
      (setCount apid count entries).map (entry :: ·)

def report
    (event : ApidManagerEvent) :
    Faulting Fault ApidManager Unit :=
  modify fun m => { m with events := m.events ++ [event] }

def getAndIncrementSeqCount
    (apid : UInt16) : Faulting Fault ApidManager UInt16 := do
  let entries := (← get).apidSequences
  match takeCount apid apid entries with
  | some (count, entries) =>
      modify ({ · with apidSequences := entries })
      return count
  | none =>
      match takeCount apidInvalidUninitialized apid entries with
      | some (count, entries) =>
          modify ({ · with apidSequences := entries })
          return count
      | none =>
          report (.apidTableFull apid)
          return sequenceCountError

def setNextSeqCount
    (apid count : UInt16) :
    Faulting Fault ApidManager Unit := do
  match setCount apid count (← get).apidSequences with
  | some entries =>
      modify ({ · with apidSequences := entries })
  | none => throw (.assertion "false")

/- `validateApidSeqCountIn_handler` -/
def validateApidSeqCountIn
    (apid received : UInt16) :
    Faulting Fault ApidManager UInt16 := do
  let expected ← getAndIncrementSeqCount apid
  if received ≠ expected ∧ received ≠ sequenceCountError then
    report (.unexpectedSequenceCount received expected)
    setNextSeqCount apid (received + 1)
  return received

/- `getApidSeqCountIn_handler` -/
def getApidSeqCountIn
    (apid : UInt16) : Faulting Fault ApidManager UInt16 :=
  getAndIncrementSeqCount apid

end ApidManager

/- A call of one of the two input ports. -/
inductive ApidRequest
  | validate (apid received : UInt16)
  | count (apid : UInt16)
deriving DecidableEq, Repr

def ApidRequest.apid : ApidRequest → UInt16
| .validate apid _ => apid
| .count apid => apid

namespace ApidManager

def handle : ApidRequest → Faulting Fault ApidManager UInt16
| .validate apid received => validateApidSeqCountIn apid received
| .count apid => getApidSeqCountIn apid

def step
    (m : ApidManager)
    (request : ApidRequest) : Except Fault ApidManager :=
  outcome (handle request) m

end ApidManager

end LoRaRadio

------------------------------------------------------------
-- Counts Without a Table
------------------------------------------------------------

namespace LoRaRadio

open Faulting

/-
  What the table stands for: a count for every APID, of
  which only the tracked ones move.
-/
structure SequenceCounts where
  tracked : List UInt16 := []
  next : UInt16 → UInt16 := fun _ => 0

namespace SequenceCounts

/- An APID is tracked from the first time on, if it can be. -/
def track
    (tracked : List UInt16)
    (apid : UInt16) : List UInt16 :=
  if apid ∈ tracked ∨ tracked.length = maxTrackedApids then
    tracked
  else
    tracked ++ [apid]

/- The count an APID is given. -/
def number
    (c : SequenceCounts)
    (apid : UInt16) : UInt16 :=
  if apid ∈ track c.tracked apid then c.next apid
  else ApidManager.sequenceCountError

/- The counts after an APID has been given one. -/
def advance
    (c : SequenceCounts)
    (apid : UInt16) : SequenceCounts where
  tracked := track c.tracked apid
  next :=
    if apid ∈ track c.tracked apid then
      Function.update c.next apid
        (ApidManager.increment (c.next apid))
    else
      c.next

/- The counts after one has been set. -/
def set
    (c : SequenceCounts)
    (apid count : UInt16) : SequenceCounts :=
  { c with next := Function.update c.next apid count }

end SequenceCounts

/- The entry of a tracked APID. -/
def entryOf
    (next : UInt16 → UInt16)
    (apid : UInt16) : ApidSequenceEntry where
  apid := apid
  sequenceCount := next apid

/-
  The entries of a table: those of the tracked APIDs, and
  free ones.
-/
def entriesOf
    (next : UInt16 → UInt16)
    (tracked : List UInt16)
    (free : Nat) : List ApidSequenceEntry :=
  tracked.map (entryOf next) ++
    List.replicate free freeEntry

/- The table of a manager stands for the counts. -/
structure Tracks
    (m : ApidManager)
    (c : SequenceCounts) : Prop where
  entries :
    m.apidSequences =
      entriesOf c.next c.tracked
        (maxTrackedApids - c.tracked.length)
  length_le : c.tracked.length ≤ maxTrackedApids
  nodup : c.tracked.Nodup
  valid : apidInvalidUninitialized ∉ c.tracked
  fresh : ∀ apid, apid ∉ c.tracked → c.next apid = 0

namespace ApidManager

variable {next : UInt16 → UInt16}
variable {tracked : List UInt16}
variable {free : Nat}
variable {apid : UInt16}

@[simp] theorem entriesOf_cons
    (first : UInt16) :
    entriesOf next (first :: tracked) free =
      entryOf next first :: entriesOf next tracked free := rfl

/- A count is changed for its APID only. -/
theorem entriesOf_update
    (hOther : apid ∉ tracked)
    (count : UInt16) :
    entriesOf (Function.update next apid count) tracked free =
      entriesOf next tracked free := by
  unfold entriesOf
  congr 1
  apply List.map_congr_left
  intro other hMem
  unfold entryOf
  rw [Function.update_of_ne]
  rintro rfl
  exact hOther hMem

/- The count of a tracked APID, which is then one higher. -/
theorem takeCount_tracked
    (hNodup : tracked.Nodup)
    (hMem : apid ∈ tracked) :
    takeCount apid apid (entriesOf next tracked free) =
      some
        (next apid,
          entriesOf
            (Function.update next apid (increment (next apid)))
            tracked free) := by
  induction tracked with
  | nil => exact absurd hMem List.not_mem_nil
  | cons first tracked ih =>
      rcases List.nodup_cons.mp hNodup with ⟨hNew, hRest⟩
      rw [entriesOf_cons, entriesOf_cons]
      unfold takeCount
      change (if first = apid then _ else _) = _
      by_cases hFirst : first = apid
      · subst hFirst
        rw [if_pos rfl, entriesOf_update hNew]
        unfold entryOf
        rw [Function.update_self]
      · have hLater :=
          (List.mem_cons.mp hMem).resolve_left (Ne.symm hFirst)
        have hEntry :
            entryOf
                (Function.update next apid
                  (increment (next apid))) first =
              entryOf next first := by
          unfold entryOf
          rw [Function.update_of_ne hFirst]
        rw [if_neg hFirst, ih hRest hLater, hEntry]
        rfl

/- No entry of an APID that is neither tracked nor free. -/
theorem takeCount_none
    {wanted : UInt16}
    (hMem : wanted ∉ tracked)
    (hFree : free = 0 ∨ wanted ≠ apidInvalidUninitialized) :
    takeCount wanted apid (entriesOf next tracked free) =
      none := by
  induction tracked with
  | nil =>
      induction free with
      | zero => rfl
      | succ free ih =>
          have hOther := hFree.resolve_left (Nat.succ_ne_zero free)
          change takeCount wanted apid
            (freeEntry :: entriesOf next [] free) = none
          unfold takeCount
          change
            (if apidInvalidUninitialized = wanted then _ else _) =
              _
          rw [if_neg (Ne.symm hOther), ih (.inr hOther)]
          rfl
  | cons first tracked ih =>
      rw [List.mem_cons, not_or] at hMem
      rw [entriesOf_cons]
      unfold takeCount
      change (if first = wanted then _ else _) = _
      rw [if_neg (Ne.symm hMem.1), ih hMem.2]
      rfl

/- The first free entry is the next APID's. -/
theorem takeCount_new
    (hValid : apidInvalidUninitialized ∉ tracked)
    (hMem : apid ∉ tracked) :
    takeCount apidInvalidUninitialized apid
        (entriesOf next tracked (free + 1)) =
      some
        (0,
          entriesOf (Function.update next apid (increment 0))
            (tracked ++ [apid]) free) := by
  induction tracked with
  | nil =>
      change
        takeCount apidInvalidUninitialized apid
          (freeEntry :: entriesOf next [] free) = _
      unfold takeCount
      change
        (if apidInvalidUninitialized = apidInvalidUninitialized
          then _ else _) = _
      rw [if_pos rfl, List.nil_append, entriesOf_cons,
        entriesOf_update List.not_mem_nil]
      unfold entryOf
      rw [Function.update_self]
      rfl
  | cons first tracked ih =>
      rw [List.mem_cons, not_or] at hValid hMem
      have hEntry :
          entryOf (Function.update next apid (increment 0)) first =
            entryOf next first := by
        unfold entryOf
        rw [Function.update_of_ne (Ne.symm hMem.1)]
      rw [entriesOf_cons, List.cons_append, entriesOf_cons,
        hEntry]
      unfold takeCount
      change
        (if first = apidInvalidUninitialized then _ else _) = _
      rw [if_neg (Ne.symm hValid.1), ih hValid.2 hMem.2]
      rfl

theorem setCount_tracked
    (hNodup : tracked.Nodup)
    (hMem : apid ∈ tracked)
    (count : UInt16) :
    setCount apid count (entriesOf next tracked free) =
      some
        (entriesOf (Function.update next apid count) tracked
          free) := by
  induction tracked with
  | nil => exact absurd hMem List.not_mem_nil
  | cons first tracked ih =>
      rcases List.nodup_cons.mp hNodup with ⟨hNew, hRest⟩
      rw [entriesOf_cons, entriesOf_cons]
      unfold setCount
      change (if first = apid then _ else _) = _
      by_cases hFirst : first = apid
      · subst hFirst
        rw [if_pos rfl, entriesOf_update hNew]
        unfold entryOf
        rw [Function.update_self]
      · have hLater :=
          (List.mem_cons.mp hMem).resolve_left (Ne.symm hFirst)
        have hEntry :
            entryOf (Function.update next apid count) first =
              entryOf next first := by
          unfold entryOf
          rw [Function.update_of_ne hFirst]
        rw [if_neg hFirst, ih hRest hLater, hEntry]
        rfl

theorem setCount_untracked
    (hOther : apid ≠ apidInvalidUninitialized)
    (hMem : apid ∉ tracked)
    (count : UInt16) :
    setCount apid count (entriesOf next tracked free) =
      none := by
  induction tracked with
  | nil =>
      induction free with
      | zero => rfl
      | succ free ih =>
          change setCount apid count
            (freeEntry :: entriesOf next [] free) = none
          unfold setCount
          change
            (if apidInvalidUninitialized = apid then _ else _) = _
          rw [if_neg (Ne.symm hOther), ih]
          rfl
  | cons first tracked ih =>
      rw [List.mem_cons, not_or] at hMem
      rw [entriesOf_cons]
      unfold setCount
      change (if first = apid then _ else _) = _
      rw [if_neg (Ne.symm hMem.1), ih hMem.2]
      rfl

end ApidManager

end LoRaRadio

------------------------------------------------------------
-- The Table Keeps the Counts
------------------------------------------------------------

namespace LoRaRadio

open Faulting Runs

namespace SequenceCounts

variable {tracked : List UInt16}
variable {apid other : UInt16}

theorem track_of_mem
    (hMem : apid ∈ tracked) :
    track tracked apid = tracked :=
  if_pos (.inl hMem)

theorem track_of_full
    (hFull : tracked.length = maxTrackedApids) :
    track tracked apid = tracked :=
  if_pos (.inr hFull)

theorem track_of_new
    (hMem : apid ∉ tracked)
    (hRoom : tracked.length ≠ maxTrackedApids) :
    track tracked apid = tracked ++ [apid] :=
  if_neg (not_or.mpr ⟨hMem, hRoom⟩)

/- An APID is left out only when the table is full. -/
theorem full_of_not_mem_track
    (hMem : apid ∉ track tracked apid) :
    tracked.length = maxTrackedApids ∧ apid ∉ tracked := by
  by_cases hTracked : apid ∈ tracked
  · rw [track_of_mem hTracked] at hMem
    exact absurd hTracked hMem
  · refine ⟨?_, hTracked⟩
    by_contra hRoom
    rw [track_of_new hTracked hRoom] at hMem
    exact hMem (List.mem_append_right _ List.mem_cons_self)

theorem subset_track
    (hMem : other ∈ tracked) :
    other ∈ track tracked apid := by
  unfold track
  split
  · exact hMem
  · exact List.mem_append_left _ hMem

end SequenceCounts

namespace ApidManager

open SequenceCounts

variable {m : ApidManager}
variable {c : SequenceCounts}
variable {apid : UInt16}

theorem tracks_start :
    Tracks {} {} where
  entries := rfl
  length_le := Nat.zero_le _
  nodup := List.nodup_nil
  valid := List.not_mem_nil
  fresh _ _ := rfl

/- The two loops of `getAndIncrementSeqCount`. -/
theorem exec_of_take
    {count : UInt16}
    {entries : List ApidSequenceEntry}
    (hTake :
      takeCount apid apid m.apidSequences =
          some (count, entries) ∨
        (takeCount apid apid m.apidSequences = none ∧
          takeCount apidInvalidUninitialized apid
              m.apidSequences =
            some (count, entries))) :
    exec (getAndIncrementSeqCount apid) m =
      (.ok count, { m with apidSequences := entries }) := by
  unfold getAndIncrementSeqCount
  rw [exec_bind, exec_get]
  dsimp only
  rcases hTake with hOld | ⟨hNone, hNew⟩
  · rw [hOld]
    rfl
  · rw [hNone]
    dsimp only
    rw [hNew]
    rfl

section

variable (hTracks : Tracks m c)
variable (hValid : apid ≠ apidInvalidUninitialized)
include hTracks

/- An APID that has an entry. -/
theorem exec_get_tracked
    (hMem : apid ∈ c.tracked) :
    ∃ m',
      exec (getAndIncrementSeqCount apid) m =
          (.ok (c.number apid), m') ∧
        Tracks m' (c.advance apid) ∧
        m'.events = m.events := by
  have hThere : apid ∈ track c.tracked apid :=
    subset_track hMem
  have hTake :
      takeCount apid apid m.apidSequences =
        some
          (c.next apid,
            entriesOf
              (Function.update c.next apid
                (increment (c.next apid)))
              c.tracked
              (maxTrackedApids - c.tracked.length)) := by
    rw [hTracks.entries, takeCount_tracked hTracks.nodup hMem]
  have hNumber : c.number apid = c.next apid := if_pos hThere
  rw [hNumber]
  refine ⟨_, exec_of_take (.inl hTake), ?_, rfl⟩
  · unfold advance
    rw [if_pos hThere, track_of_mem hMem]
    constructor
    case entries => rfl
    case length_le => exact hTracks.length_le
    case nodup => exact hTracks.nodup
    case valid => exact hTracks.valid
    case fresh =>
      intro other hOther
      have hNe : other ≠ apid := by
        rintro rfl
        exact hOther hMem
      change Function.update c.next apid _ other = 0
      rw [Function.update_of_ne hNe]
      exact hTracks.fresh other hOther

include hValid

/- One that is given the next free entry. -/
theorem exec_get_new
    (hMem : apid ∉ c.tracked)
    (hRoom : c.tracked.length ≠ maxTrackedApids) :
    ∃ m',
      exec (getAndIncrementSeqCount apid) m =
          (.ok (c.number apid), m') ∧
        Tracks m' (c.advance apid) ∧
        m'.events = m.events := by
  have hFits := hTracks.length_le
  have hThere : apid ∈ track c.tracked apid := by
    rw [track_of_new hMem hRoom]
    exact List.mem_append_right _ List.mem_cons_self
  have hZero := hTracks.fresh apid hMem
  have hFree :
      maxTrackedApids - c.tracked.length =
        maxTrackedApids - (c.tracked.length + 1) + 1 := by
    omega
  have hNone :
      takeCount apid apid m.apidSequences = none := by
    rw [hTracks.entries]
    exact takeCount_none hMem (.inr hValid)
  have hTake :
      takeCount apidInvalidUninitialized apid m.apidSequences =
        some
          (0,
            entriesOf (Function.update c.next apid (increment 0))
              (c.tracked ++ [apid])
              (maxTrackedApids - (c.tracked.length + 1))) := by
    rw [hTracks.entries, hFree,
      takeCount_new hTracks.valid hMem]
  have hNumber : c.number apid = 0 :=
    (if_pos hThere).trans hZero
  rw [hNumber]
  refine ⟨_, exec_of_take (.inr ⟨hNone, hTake⟩), ?_, rfl⟩
  · unfold advance
    rw [if_pos hThere, track_of_new hMem hRoom, hZero]
    constructor
    case entries =>
      rw [List.length_append]
      rfl
    case length_le =>
      rw [List.length_append, List.length_singleton]
      omega
    case nodup =>
      exact hTracks.nodup.append (List.nodup_singleton apid)
        (List.disjoint_singleton.mpr hMem)
    case valid =>
      intro hInvalid
      rcases List.mem_append.mp hInvalid with hOld | hNew
      · exact hTracks.valid hOld
      · exact hValid (List.mem_singleton.mp hNew).symm
    case fresh =>
      intro other hOther
      rw [List.mem_append, not_or, List.mem_singleton] at hOther
      change Function.update c.next apid _ other = 0
      rw [Function.update_of_ne hOther.2]
      exact hTracks.fresh other hOther.1

/- One for which there is no entry left. -/
theorem exec_get_full
    (hMem : apid ∉ c.tracked)
    (hFull : c.tracked.length = maxTrackedApids) :
    ∃ m',
      exec (getAndIncrementSeqCount apid) m =
          (.ok (c.number apid), m') ∧
        Tracks m' (c.advance apid) := by
  have hLeft : apid ∉ track c.tracked apid := by
    rw [track_of_full hFull]
    exact hMem
  have hFree : maxTrackedApids - c.tracked.length = 0 := by
    omega
  have hNone :
      takeCount apid apid m.apidSequences = none := by
    rw [hTracks.entries]
    exact takeCount_none hMem (.inr hValid)
  have hNone' :
      takeCount apidInvalidUninitialized apid
        m.apidSequences = none := by
    rw [hTracks.entries]
    exact takeCount_none hTracks.valid (.inl hFree)
  refine ⟨{ m with
      events := m.events ++ [.apidTableFull apid] }, ?_, ?_⟩
  · unfold getAndIncrementSeqCount number
    rw [exec_bind, exec_get, if_neg hLeft]
    dsimp only
    rw [hNone]
    dsimp only
    rw [hNone']
    rfl
  · unfold advance
    rw [if_neg hLeft, track_of_full hFull]
    exact
      { entries := hTracks.entries
        length_le := hTracks.length_le
        nodup := hTracks.nodup
        valid := hTracks.valid
        fresh := hTracks.fresh }

/-
  The count an APID is given.  An event is reported only if
  the table is full.
-/
theorem exec_getAndIncrementSeqCount :
    ∃ m',
      exec (getAndIncrementSeqCount apid) m =
          (.ok (c.number apid), m') ∧
        Tracks m' (c.advance apid) ∧
        (apid ∈ track c.tracked apid → m'.events = m.events) := by
  by_cases hMem : apid ∈ c.tracked
  · rcases exec_get_tracked hTracks hMem with
      ⟨m', hRun, hAfter, hEvents⟩
    exact ⟨m', hRun, hAfter, fun _ => hEvents⟩
  by_cases hFull : c.tracked.length = maxTrackedApids
  · rcases exec_get_full hTracks hValid hMem hFull with
      ⟨m', hRun, hAfter⟩
    refine ⟨m', hRun, hAfter, fun hThere => ?_⟩
    rw [track_of_full hFull] at hThere
    exact absurd hThere hMem
  · rcases exec_get_new hTracks hValid hMem hFull with
      ⟨m', hRun, hAfter, hEvents⟩
    exact ⟨m', hRun, hAfter, fun _ => hEvents⟩

/- Setting a count that is in the table. -/
theorem exec_setNextSeqCount
    (count : UInt16) :
    (apid ∈ c.tracked →
      ∃ m',
        exec (setNextSeqCount apid count) m = (.ok (), m') ∧
          Tracks m' (c.set apid count) ∧
          m'.events = m.events) ∧
    (apid ∉ c.tracked →
      exec (setNextSeqCount apid count) m =
        (.error (.assertion "false"), m)) := by
  constructor
  · intro hMem
    have hSet :
        setCount apid count m.apidSequences =
          some
            (entriesOf (Function.update c.next apid count)
              c.tracked
              (maxTrackedApids - c.tracked.length)) := by
      rw [hTracks.entries, setCount_tracked hTracks.nodup hMem]
    refine ⟨{ m with
        apidSequences :=
          entriesOf (Function.update c.next apid count)
            c.tracked
            (maxTrackedApids - c.tracked.length) },
      ?_, ?_, rfl⟩
    · unfold setNextSeqCount
      rw [exec_bind, exec_get]
      dsimp only
      rw [hSet]
      rfl
    · constructor
      case entries => rfl
      case length_le => exact hTracks.length_le
      case nodup => exact hTracks.nodup
      case valid => exact hTracks.valid
      case fresh =>
        intro other hOther
        have hNe : other ≠ apid := by
          rintro rfl
          exact hOther hMem
        change Function.update c.next apid _ other = 0
        rw [Function.update_of_ne hNe]
        exact hTracks.fresh other hOther
  · intro hMem
    unfold setNextSeqCount
    rw [exec_bind, exec_get]
    dsimp only
    rw [hTracks.entries, setCount_untracked hValid hMem]
    rfl

end

end ApidManager

end LoRaRadio

------------------------------------------------------------
-- Requests
------------------------------------------------------------

namespace LoRaRadio

open Faulting Runs SequenceCounts

/-
  The counts after a request, or none where the table fails
  an assertion: a packet of an APID that has no entry, when
  it does not carry the error value itself.
-/
def SequenceCounts.step
    (c : SequenceCounts) :
    ApidRequest → Option SequenceCounts
| .count apid => some (c.advance apid)
| .validate apid received =>
    if received = c.number apid ∨
        received = ApidManager.sequenceCountError then
      some (c.advance apid)
    else if apid ∈ track c.tracked apid then
      some ((c.advance apid).set apid (received + 1))
    else
      none

namespace ApidManager

variable {m m' : ApidManager}
variable {c : SequenceCounts}
variable {apid received : UInt16}

/- A packet that comes with the count that is expected. -/
theorem step_expected
    (hTracks : Tracks m c)
    (hValid : apid ≠ apidInvalidUninitialized)
    (hCount :
      received = c.number apid ∨ received = sequenceCountError) :
    ∃ m',
      m.step (.validate apid received) = .ok m' ∧
        Tracks m' (c.advance apid) ∧
        (apid ∈ track c.tracked apid → m'.events = m.events) := by
  rcases exec_getAndIncrementSeqCount hTracks hValid with
    ⟨m', hRun, hAfter, hEvents⟩
  refine ⟨m', ?_, hAfter, hEvents⟩
  have hNot :
      ¬ (received ≠ c.number apid ∧
        received ≠ sequenceCountError) := by
    rintro ⟨hNe, hNe'⟩
    exact hCount.elim hNe hNe'
  unfold step outcome handle validateApidSeqCountIn
  dsimp only
  rw [exec_bind, hRun]
  dsimp only
  rw [if_neg hNot]
  rfl

/- One that does not: it is reported, and the count is set. -/
theorem step_reported
    (hTracks : Tracks m c)
    (hValid : apid ≠ apidInvalidUninitialized)
    (hNe : received ≠ c.number apid)
    (hNe' : received ≠ sequenceCountError) :
    ∃ m₁,
      Tracks m₁ (c.advance apid) ∧
        (apid ∈ track c.tracked apid →
          m₁.events =
            m.events ++
              [.unexpectedSequenceCount received
                (c.number apid)]) ∧
        m.step (.validate apid received) =
          outcome (setNextSeqCount apid (received + 1)) m₁ := by
  rcases exec_getAndIncrementSeqCount hTracks hValid with
    ⟨m', hRun, hAfter, hEvents⟩
  let reported : ApidManager :=
    { m' with
      events :=
        m'.events ++
          [.unexpectedSequenceCount received (c.number apid)] }
  have hReport :
      exec
          (report
            (.unexpectedSequenceCount received (c.number apid)))
          m' = (.ok (), reported) := rfl
  refine ⟨reported, ?_, ?_, ?_⟩
  · exact
      { entries := hAfter.entries
        length_le := hAfter.length_le
        nodup := hAfter.nodup
        valid := hAfter.valid
        fresh := hAfter.fresh }
  · intro hThere
    change m'.events ++ _ = _
    rw [hEvents hThere]
  · unfold step outcome handle validateApidSeqCountIn
    dsimp only
    rw [exec_bind, hRun]
    dsimp only
    rw [if_pos ⟨hNe, hNe'⟩, exec_bind, hReport]
    dsimp only
    rw [exec_bind]
    rcases exec (setNextSeqCount apid (received + 1)) reported
      with ⟨e | _, m''⟩
    · rfl
    · rfl

/- The count that is set is that of an entry. -/
theorem step_unexpected
    (hTracks : Tracks m c)
    (hValid : apid ≠ apidInvalidUninitialized)
    (hNe : received ≠ c.number apid)
    (hNe' : received ≠ sequenceCountError)
    (hThere : apid ∈ track c.tracked apid) :
    ∃ m',
      m.step (.validate apid received) = .ok m' ∧
        Tracks m' ((c.advance apid).set apid (received + 1)) ∧
        m'.events =
          m.events ++
            [.unexpectedSequenceCount received
              (c.number apid)] := by
  rcases step_reported hTracks hValid hNe hNe' with
    ⟨m₁, hReported, hEvents, hStep⟩
  rcases (exec_setNextSeqCount hReported hValid
      (received + 1)).1 hThere with ⟨m', hSet, hEnd, hSame⟩
  refine ⟨m', ?_, hEnd, ?_⟩
  · rw [hStep]
    unfold outcome
    rw [hSet]
  · rw [hSame, hEvents hThere]

/- Where there is none, the assertion fails. -/
theorem step_lost
    (hTracks : Tracks m c)
    (hValid : apid ≠ apidInvalidUninitialized)
    (hNe : received ≠ c.number apid)
    (hNe' : received ≠ sequenceCountError)
    (hLeft : apid ∉ track c.tracked apid) :
    m.step (.validate apid received) =
      .error (.assertion "false") := by
  rcases step_reported hTracks hValid hNe hNe' with
    ⟨m₁, hReported, -, hStep⟩
  rw [hStep]
  unfold outcome
  rw [(exec_setNextSeqCount hReported hValid _).2 hLeft]

theorem step_count
    (hTracks : Tracks m c)
    (hValid : apid ≠ apidInvalidUninitialized) :
    ∃ m',
      m.step (.count apid) = .ok m' ∧
        Tracks m' (c.advance apid) := by
  rcases exec_getAndIncrementSeqCount hTracks hValid with
    ⟨m', hRun, hAfter, -⟩
  refine ⟨m', ?_, hAfter⟩
  unfold step outcome handle getApidSeqCountIn
  dsimp only
  rw [hRun]

/- A request is answered as the counts say. -/
theorem step_refines
    (hTracks : Tracks m c)
    {request : ApidRequest}
    (hValid : request.apid ≠ apidInvalidUninitialized) :
    match c.step request with
    | some c' => ∃ m', m.step request = .ok m' ∧ Tracks m' c'
    | none => m.step request = .error (.assertion "false") := by
  cases request with
  | count apid => exact step_count hTracks hValid
  | validate apid received =>
      unfold SequenceCounts.step
      dsimp only
      by_cases hCount :
          received = c.number apid ∨
            received = sequenceCountError
      · rw [if_pos hCount]
        rcases step_expected hTracks hValid hCount with
          ⟨m', hStep, hAfter, -⟩
        exact ⟨m', hStep, hAfter⟩
      rw [if_neg hCount]
      rw [not_or] at hCount
      by_cases hThere : apid ∈ track c.tracked apid
      · rw [if_pos hThere]
        rcases step_unexpected hTracks hValid hCount.1 hCount.2
          hThere with ⟨m', hStep, hAfter, -⟩
        exact ⟨m', hStep, hAfter⟩
      · rw [if_neg hThere]
        exact step_lost hTracks hValid hCount.1 hCount.2 hThere

end ApidManager

end LoRaRadio

------------------------------------------------------------
-- Runs
------------------------------------------------------------

namespace LoRaRadio

open Faulting Runs SequenceCounts

/-
  What the framer and the deframer ask: an APID has eleven
  bits and a received count fourteen.
-/
def ApidRequest.OnWire : ApidRequest → Prop
| .validate apid received =>
    apid ≠ apidInvalidUninitialized ∧
      received ≠ ApidManager.sequenceCountError
| .count apid => apid ≠ apidInvalidUninitialized

/- The APIDs that get an entry: the first ones to be seen. -/
def firstApids
    (requests : List ApidRequest) : List UInt16 :=
  (requests.map ApidRequest.apid).eraseDups.take
    maxTrackedApids

namespace SequenceCounts

/- The APIDs that are tracked after some requests. -/
def trackedBy
    (tracked : List UInt16)
    (requests : List ApidRequest) : List UInt16 :=
  (requests.map ApidRequest.apid).foldl track tracked

theorem trackedBy_cons
    (tracked : List UInt16)
    (q : ApidRequest)
    (requests : List ApidRequest) :
    trackedBy tracked (q :: requests) =
      trackedBy (track tracked q.apid) requests := rfl

theorem foldl_track
    {tracked : List UInt16}
    (hLength : tracked.length ≤ maxTrackedApids)
    (apids : List UInt16) :
    apids.foldl track tracked =
      tracked ++
        (apids.filter fun a => decide (a ∉ tracked)).eraseDups.take
          (maxTrackedApids - tracked.length) := by
  induction apids generalizing tracked with
  | nil =>
      rw [List.foldl_nil, List.filter_nil, List.eraseDups_nil,
        List.take_nil, List.append_nil]
  | cons apid apids ih =>
      rw [List.foldl_cons]
      by_cases hMem : apid ∈ tracked
      · rw [track_of_mem hMem, ih hLength, List.filter_cons_of_neg
          (by simpa using hMem)]
      by_cases hFull : tracked.length = maxTrackedApids
      · rw [track_of_full hFull, ih hLength, hFull, Nat.sub_self,
          List.take_zero, List.take_zero]
      · have hRoom :
            maxTrackedApids - tracked.length =
              maxTrackedApids - (tracked ++ [apid]).length + 1 := by
          rw [List.length_append, List.length_singleton]
          omega
        have hLength' :
            (tracked ++ [apid]).length ≤ maxTrackedApids := by
          rw [List.length_append, List.length_singleton]
          omega
        have hOthers :
            (apids.filter fun a =>
                decide (a ∉ tracked ++ [apid])) =
              (apids.filter fun a => decide (a ∉ tracked)).filter
                fun a => !a == apid := by
          rw [List.filter_filter]
          apply List.filter_congr
          intro a _
          rw [Bool.eq_iff_iff]
          simp [and_comm]
        rw [track_of_new hMem hFull, ih hLength',
          List.filter_cons_of_pos (by simpa using hMem),
          List.eraseDups_cons, hRoom, List.take_succ_cons,
          hOthers, List.append_assoc]
        rfl

theorem foldl_track_nil
    (apids : List UInt16) :
    apids.foldl track [] =
      apids.eraseDups.take maxTrackedApids := by
  have hAll :
      (apids.filter fun a => decide (a ∉ [])) = apids :=
    List.filter_eq_self.mpr fun _ _ =>
      decide_eq_true List.not_mem_nil
  rw [foldl_track (Nat.zero_le _), hAll]
  rfl

theorem mem_foldl_track
    {apid : UInt16}
    {tracked apids : List UInt16}
    (hMem : apid ∈ tracked) :
    apid ∈ apids.foldl track tracked := by
  induction apids generalizing tracked with
  | nil => exact hMem
  | cons first apids ih => exact ih (subset_track hMem)

/- A full table stays as it is. -/
theorem foldl_track_full
    {tracked : List UInt16}
    (hFull : tracked.length = maxTrackedApids)
    (apids : List UInt16) :
    apids.foldl track tracked = tracked := by
  induction apids with
  | nil => rfl
  | cons first apids ih =>
      rw [List.foldl_cons, track_of_full hFull, ih]

theorem nodup_eraseDups
    (apids : List UInt16) :
    apids.eraseDups.Nodup := by
  induction hLength : apids.length using Nat.strong_induction_on
    generalizing apids with
  | _ length ih =>
      cases apids with
      | nil => exact List.nodup_nil
      | cons first apids =>
          have hFewer :
              (apids.filter fun a => !a == first).length <
                length := by
            rw [← hLength]
            exact Nat.lt_succ_of_le (List.length_filter_le _ _)
          rw [List.eraseDups_cons, List.nodup_cons]
          refine ⟨fun hMem => ?_, ih _ hFewer _ rfl⟩
          rw [List.mem_eraseDups, List.mem_filter] at hMem
          simp at hMem

/- As many are tracked as there are, if all of them are. -/
theorem all_tracked_iff
    {apids : List UInt16} :
    (∀ apid ∈ apids, apid ∈ apids.foldl track []) ↔
      apids.eraseDups.length ≤ maxTrackedApids := by
  rw [foldl_track_nil]
  constructor
  · intro hAll
    have hSub :
        apids.eraseDups ⊆ apids.eraseDups.take maxTrackedApids :=
      fun apid hMem => hAll apid (List.mem_eraseDups.mp hMem)
    have hLength :=
      ((nodup_eraseDups apids).subperm hSub).length_le
    rw [List.length_take] at hLength
    omega
  · intro hFew apid hMem
    rw [List.take_of_length_le hFew]
    exact List.mem_eraseDups.mpr hMem

theorem trackedBy_nil
    (requests : List ApidRequest) :
    trackedBy [] requests = firstApids requests :=
  foldl_track_nil _

variable {c c' : SequenceCounts}
variable {q : ApidRequest}

theorem tracked_of_step
    (hStep : c.step q = some c') :
    c'.tracked = track c.tracked q.apid := by
  cases q with
  | count apid =>
      cases hStep
      rfl
  | validate apid received =>
      unfold SequenceCounts.step at hStep
      dsimp only at hStep
      split at hStep
      · cases hStep
        rfl
      split at hStep
      · cases hStep
        rfl
      · cases hStep

/- Only a packet of an APID without an entry fails. -/
theorem step_eq_none_iff
    (hWire : q.OnWire) :
    c.step q = none ↔
      ∃ apid received,
        q = .validate apid received ∧
          apid ∉ track c.tracked apid := by
  cases q with
  | count apid =>
      apply iff_of_false
      · intro hNone
        cases hNone
      · rintro ⟨_, _, hEq, -⟩
        cases hEq
  | validate apid received =>
      have hWire' : received ≠ ApidManager.sequenceCountError :=
        hWire.2
      unfold SequenceCounts.step
      dsimp only
      by_cases hThere : apid ∈ track c.tracked apid
      · rw [if_pos hThere]
        apply iff_of_false
        · split
          · intro hNone
            cases hNone
          · intro hNone
            cases hNone
        · rintro ⟨_, _, hEq, hLeft⟩
          cases hEq
          exact hLeft hThere
      · have hNumber :
            c.number apid = ApidManager.sequenceCountError :=
          if_neg hThere
        rw [hNumber, if_neg (not_or.mpr ⟨hWire', hWire'⟩),
          if_neg hThere]
        exact iff_of_true rfl ⟨apid, received, rfl, hThere⟩

end SequenceCounts

namespace ApidManager

variable {m m' : ApidManager}
variable {c : SequenceCounts}
variable {requests : List ApidRequest}

/- A step that succeeds is one of the counts. -/
theorem tracks_of_step
    (hTracks : Tracks m c)
    {q : ApidRequest}
    (hWire : q.OnWire)
    (hStep : m.step q = .ok m') :
    ∃ c', c.step q = some c' ∧ Tracks m' c' := by
  have hValid : q.apid ≠ apidInvalidUninitialized := by
    cases q with
    | count apid => exact hWire
    | validate apid received => exact hWire.1
  have hRefines := step_refines hTracks hValid
  cases hNext : c.step q with
  | none =>
      rw [hNext] at hRefines
      rw [hRefines] at hStep
      cases hStep
  | some c' =>
      rw [hNext] at hRefines
      rcases hRefines with ⟨m₁, hOk, hAfter⟩
      rw [hOk] at hStep
      cases hStep
      exact ⟨c', rfl, hAfter⟩

/- Which APIDs have an entry after a run. -/
theorem tracks_of_attempt
    (hTracks : Tracks m c)
    (hWire : ∀ q ∈ requests, q.OnWire)
    (hRun : attempt ApidManager.step m requests = .ok m') :
    ∃ c',
      Tracks m' c' ∧
        c'.tracked =
          trackedBy c.tracked requests := by
  induction requests generalizing m c with
  | nil =>
      cases hRun
      exact ⟨c, hTracks, rfl⟩
  | cons q requests ih =>
      unfold attempt at hRun
      cases hNext : m.step q with
      | error e =>
          rw [hNext] at hRun
          cases hRun
      | ok m₁ =>
          rw [hNext] at hRun
          rcases List.forall_mem_cons.mp hWire with ⟨hHere, hRest⟩
          rcases tracks_of_step hTracks hHere hNext with
            ⟨c₁, hStep, hTracks₁⟩
          rcases ih hTracks₁ hRest hRun with
            ⟨c', hTracks', hTracked⟩
          refine ⟨c', hTracks', ?_⟩
          rw [hTracked, tracked_of_step hStep, trackedBy_cons]

/- A packet of an APID that has no entry fails the assertion. -/
theorem attempt_ok_iff
    (hTracks : Tracks m c)
    (hWire : ∀ q ∈ requests, q.OnWire) :
    (∃ m', attempt ApidManager.step m requests = .ok m') ↔
      ∀ apid received,
        .validate apid received ∈ requests →
          apid ∈
            trackedBy c.tracked requests := by
  induction requests generalizing m c with
  | nil =>
      exact iff_of_true ⟨m, rfl⟩
        fun _ _ hMem => absurd hMem List.not_mem_nil
  | cons q requests ih =>
      rcases List.forall_mem_cons.mp hWire with ⟨hHere, hRest⟩
      have hValid : q.apid ≠ apidInvalidUninitialized := by
        cases q with
        | count apid => exact hHere
        | validate apid received => exact hHere.1
      have hRefines := step_refines hTracks hValid
      unfold attempt
      cases hNext : c.step q with
      | some c₁ =>
          rw [hNext] at hRefines
          rcases hRefines with ⟨m₁, hOk, hTracks₁⟩
          rw [hOk]
          dsimp only
          rw [ih hTracks₁ hRest, tracked_of_step hNext,
            trackedBy_cons]
          constructor
          · intro hAll apid received hMem
            rcases List.mem_cons.mp hMem with rfl | hLater
            · apply mem_foldl_track
              by_contra hLeft
              have hNone :=
                (step_eq_none_iff hHere).mpr
                  ⟨apid, received, rfl, hLeft⟩
              rw [hNone] at hNext
              cases hNext
            · exact hAll apid received hLater
          · exact fun hAll apid received hMem =>
              hAll apid received (List.mem_cons_of_mem _ hMem)
      | none =>
          rw [hNext] at hRefines
          rw [hRefines]
          dsimp only
          apply iff_of_false
          · rintro ⟨_, hOk⟩
            cases hOk
          · intro hAll
            rcases (step_eq_none_iff hHere).mp hNext with
              ⟨apid, received, rfl, hLeft⟩
            have hThere := hAll apid received List.mem_cons_self
            have hFull := full_of_not_mem_track hLeft
            have hSame :
                track c.tracked
                    (ApidRequest.validate apid received).apid =
                  c.tracked :=
              track_of_full hFull.1
            unfold trackedBy at hThere
            rw [List.map_cons, List.foldl_cons, hSame,
              foldl_track_full hFull.1] at hThere
            exact hFull.2 hThere

/- A run that fails fails at the last assertion of the code. -/
theorem attempt_cases
    (hTracks : Tracks m c)
    (hWire : ∀ q ∈ requests, q.OnWire) :
    (∃ m', attempt ApidManager.step m requests = .ok m') ∨
      attempt ApidManager.step m requests =
        .error (.assertion "false") := by
  induction requests generalizing m c with
  | nil => exact .inl ⟨m, rfl⟩
  | cons q requests ih =>
      rcases List.forall_mem_cons.mp hWire with ⟨hHere, hRest⟩
      have hValid : q.apid ≠ apidInvalidUninitialized := by
        cases q with
        | count apid => exact hHere
        | validate apid received => exact hHere.1
      have hRefines := step_refines hTracks hValid
      unfold attempt
      cases hNext : c.step q with
      | some c₁ =>
          rw [hNext] at hRefines
          rcases hRefines with ⟨m₁, hOk, hTracks₁⟩
          rw [hOk]
          exact ih hTracks₁ hRest
      | none =>
          rw [hNext] at hRefines
          rw [hRefines]
          exact .inr rfl

/-
  Every packet that is deframed has to be of one of the first
  eleven APIDs that are asked for, for the manager to survive.
  Otherwise the assertion in `setNextSeqCount` fails.
-/
theorem apidManager_survives_iff
    (hWire : ∀ q ∈ requests, q.OnWire) :
    ((∃ m, attempt ApidManager.step {} requests = .ok m) ↔
      ∀ apid received,
        .validate apid received ∈ requests →
          apid ∈ firstApids requests) ∧
      (¬ (∀ apid received,
          .validate apid received ∈ requests →
            apid ∈ firstApids requests) →
        attempt ApidManager.step {} requests =
          .error (.assertion "false")) := by
  have hIff :
      (∃ m, attempt ApidManager.step {} requests = .ok m) ↔
        ∀ apid received,
          .validate apid received ∈ requests →
            apid ∈ firstApids requests := by
    rw [attempt_ok_iff tracks_start hWire]
    change (∀ apid received, _ →
      apid ∈ trackedBy [] requests) ↔ _
    rw [trackedBy_nil]
  refine ⟨hIff, fun hNot => ?_⟩
  rw [← hIff] at hNot
  exact (attempt_cases tracks_start hWire).resolve_left hNot

/- Twelve APIDs, one packet each. -/
theorem apidManager_survives_not :
    attempt ApidManager.step {}
        ((List.range 12).map fun k =>
          .validate (UInt16.ofNat k) 0) =
      .error (.assertion "false") := by
  have hWire :
      ∀ q ∈ (List.range 12).map fun k =>
        ApidRequest.validate (UInt16.ofNat k) 0, q.OnWire := by
    intro q hMem
    rcases List.mem_map.mp hMem with ⟨k, hRange, rfl⟩
    have hFew := List.mem_range.mp hRange
    refine ⟨?_, by decide⟩
    intro hInvalid
    have hValue := congrArg UInt16.toNat hInvalid
    have hSmall : k < 0x10000 := by omega
    rw [UInt16.toNat_ofNat_of_lt' hSmall] at hValue
    change k = 0x800 at hValue
    omega
  apply (apidManager_survives_iff hWire).2
  intro hAll
  have hLast :=
    hAll 11 0
      (List.mem_map.mpr ⟨11, List.mem_range.mpr (by decide), rfl⟩)
  revert hLast
  decide

end ApidManager

end LoRaRadio

------------------------------------------------------------
-- Counts Over a Run
------------------------------------------------------------

namespace LoRaRadio

open Faulting Runs SequenceCounts

/- The sequence count of packet number `k` of an APID. -/
def numberAt
    (k : Nat) : UInt16 :=
  UInt16.ofNat (k % 0x4000)

/- How often an APID is asked for. -/
def timesOf
    (apid : UInt16)
    (requests : List ApidRequest) : Nat :=
  (requests.map ApidRequest.apid).count apid

/-
  The packets of an APID that are received carry the numbers
  that are next, counting those that are sent as well.
-/
def InStep
    (apid : UInt16)
    (requests : List ApidRequest) : Prop :=
  ∀ before received after,
    requests = before ++ .validate apid received :: after →
    received = numberAt (timesOf apid before)

theorem increment_numberAt
    (k : Nat) :
    ApidManager.increment (numberAt k) = numberAt (k + 1) := by
  apply UInt16.toNat_inj.mp
  unfold ApidManager.increment numberAt
  rw [UInt16.toNat_mod, UInt16.toNat_add, UInt16.toNat_ofNat',
    UInt16.toNat_ofNat']
  change (k % 0x4000 % 0x10000 + 1) % 0x10000 % 0x4000 =
    (k + 1) % 0x4000 % 0x10000
  omega

namespace SequenceCounts

variable {c c' : SequenceCounts}
variable {q : ApidRequest}
variable {apid received : UInt16}

/- A request moves the count of its own APID only. -/
theorem next_of_step_ne
    (hStep : c.step q = some c')
    (hOther : apid ≠ q.apid) :
    c'.next apid = c.next apid := by
  have hAdvance :
      (c.advance q.apid).next apid = c.next apid := by
    unfold advance
    dsimp only
    split
    · exact Function.update_of_ne hOther _ _
    · rfl
  cases q with
  | count other =>
      cases hStep
      exact hAdvance
  | validate other received =>
      unfold SequenceCounts.step at hStep
      dsimp only at hStep
      split at hStep
      · cases hStep
        exact hAdvance
      split at hStep
      · cases hStep
        exact (Function.update_of_ne hOther _ _).trans hAdvance
      · cases hStep

theorem next_advance
    (hThere : apid ∈ track c.tracked apid) :
    (c.advance apid).next apid =
      ApidManager.increment (c.next apid) := by
  unfold advance
  rw [if_pos hThere]
  exact Function.update_self _ _ _

/- One that is in step moves it on by one. -/
theorem next_of_step_eq
    (hStep : c.step q = some c')
    (hThere : q.apid ∈ track c.tracked q.apid)
    (hNext :
      ∀ received,
        q = .validate q.apid received →
        received = c.next q.apid) :
    c'.next q.apid = ApidManager.increment (c.next q.apid) := by
  have hNumber : c.number q.apid = c.next q.apid :=
    if_pos hThere
  cases q with
  | count apid =>
      cases hStep
      exact next_advance hThere
  | validate apid received =>
      have hCount : received = c.number apid :=
        (hNext received rfl).trans hNumber.symm
      unfold SequenceCounts.step at hStep
      dsimp only at hStep
      rw [if_pos (.inl hCount)] at hStep
      cases hStep
      exact next_advance hThere

/- An APID that gets an entry has one from its first time on. -/
theorem mem_track_of_trackedBy
    {requests : List ApidRequest}
    (hTracked :
      apid ∈
        trackedBy c.tracked requests) :
    apid ∈ track c.tracked apid := by
  by_contra hLeft
  have hFull := full_of_not_mem_track hLeft
  unfold trackedBy at hTracked
  rw [foldl_track_full hFull.1] at hTracked
  exact hFull.2 hTracked

end SequenceCounts

namespace ApidManager

variable {m m' m₁ m₂ : ApidManager}
variable {c : SequenceCounts}
variable {apid received : UInt16}
variable {requests : List ApidRequest}

/- The count of an APID moves on once for each request. -/
theorem next_of_attempt
    (hTracks : Tracks m c)
    (hWire : ∀ q ∈ requests, q.OnWire)
    (hRun : attempt ApidManager.step m requests = .ok m')
    (hTracked :
      apid ∈
        trackedBy c.tracked (requests ++ [.count apid]))
    {k : Nat}
    (hHere : c.next apid = numberAt k)
    (hSteps :
      ∀ before received after,
        requests =
          before ++ .validate apid received :: after →
        received = numberAt (k + timesOf apid before)) :
    ∃ c',
      Tracks m' c' ∧
        c'.next apid = numberAt (k + timesOf apid requests) ∧
        apid ∈ track c'.tracked apid := by
  induction requests generalizing m c k with
  | nil =>
      cases hRun
      exact ⟨c, hTracks, hHere, hTracked⟩
  | cons q requests ih =>
      have hThere := mem_track_of_trackedBy hTracked
      unfold attempt at hRun
      cases hNext : m.step q with
      | error e =>
          rw [hNext] at hRun
          cases hRun
      | ok m₁ =>
          rw [hNext] at hRun
          rcases List.forall_mem_cons.mp hWire with ⟨hWire₁, hRest⟩
          rcases tracks_of_step hTracks hWire₁ hNext with
            ⟨c₁, hStep, hTracks₁⟩
          have hTracked₁ :
              apid ∈
                trackedBy c₁.tracked (requests ++ [.count apid]) := by
            rw [tracked_of_step hStep]
            exact hTracked
          have hLater :
              ∀ k' before received after,
                timesOf apid (q :: before) + k =
                    timesOf apid before + k' →
                requests =
                  before ++ .validate apid received :: after →
                received = numberAt (k' + timesOf apid before) := by
            intro k' before received after hTimes hEq
            have hNumber :=
              hSteps (q :: before) received after (by rw [hEq]; rfl)
            rw [Nat.add_comm, hTimes, Nat.add_comm] at hNumber
            exact hNumber
          by_cases hSame : q.apid = apid
          · have hTimes :
                ∀ before,
                  timesOf apid (q :: before) =
                    timesOf apid before + 1 := by
              intro before
              unfold timesOf
              rw [List.map_cons, hSame, List.count_cons_self]
            have hNow :
                ∀ received,
                  q = .validate q.apid received →
                  received = c.next q.apid := by
              intro received hValidate
              rw [hSame] at hValidate ⊢
              rw [hHere]
              exact hSteps [] received requests
                (by rw [hValidate]; rfl)
            have hThere' : q.apid ∈ track c.tracked q.apid := by
              rw [hSame]
              exact hThere
            have hAfter := next_of_step_eq hStep hThere' hNow
            rw [hSame, hHere, increment_numberAt] at hAfter
            rcases ih hTracks₁ hRest hRun hTracked₁ hAfter
                (fun before received after =>
                  hLater (k + 1) before received after (by
                    rw [hTimes]
                    omega)) with
              ⟨c', hTracks', hEnd, hStill⟩
            refine ⟨c', hTracks', ?_, hStill⟩
            rw [hEnd, hTimes]
            congr 1
            omega
          · have hTimes :
                ∀ before,
                  timesOf apid (q :: before) =
                    timesOf apid before := by
              intro before
              unfold timesOf
              rw [List.map_cons, List.count_cons_of_ne hSame]
            have hAfter :=
              (next_of_step_ne hStep (Ne.symm hSame)).trans hHere
            rcases ih hTracks₁ hRest hRun hTracked₁ hAfter
                (fun before received after =>
                  hLater k before received after (by
                    rw [hTimes])) with
              ⟨c', hTracks', hEnd, hStill⟩
            refine ⟨c', hTracks', ?_, hStill⟩
            rw [hEnd, hTimes]

/-
  As long as the packets received of an APID are in step, its
  counts are consecutive over what is sent and received
  together, whatever is asked for other APIDs in between.
-/
theorem numbers_in_step
    (hWire : ∀ q ∈ requests, q.OnWire)
    (hValid : apid ≠ apidInvalidUninitialized)
    (hRun : attempt ApidManager.step {} requests = .ok m)
    (hSteps : InStep apid requests)
    (hTracked : apid ∈ firstApids (requests ++ [.count apid])) :
    ∃ m',
      exec (getApidSeqCountIn apid) m =
        (.ok (numberAt (timesOf apid requests)), m') := by
  rw [← trackedBy_nil] at hTracked
  have hSteps' :
      ∀ before received after,
        requests =
          before ++ .validate apid received :: after →
        received = numberAt (0 + timesOf apid before) := by
    intro before received after hEq
    rw [Nat.zero_add]
    exact hSteps before received after hEq
  rcases next_of_attempt tracks_start hWire hRun hTracked rfl
      hSteps' with ⟨c, hTracks, hNext, hThere⟩
  rcases exec_getAndIncrementSeqCount hTracks hValid with
    ⟨m', hGet, -⟩
  refine ⟨m', ?_⟩
  unfold getApidSeqCountIn
  rw [hGet]
  unfold number
  rw [if_pos hThere, hNext, Nat.zero_add]

/- Two APIDs, one of them used in both directions. -/
theorem numbers_in_step_shared :
    ∃ m m',
      attempt ApidManager.step {}
          [.count 3, .validate 0 0, .validate 3 1] = .ok m ∧
        exec (getApidSeqCountIn 3) m =
          (.ok (numberAt 2), m') := by
  have hRun :
      ∃ m,
        attempt ApidManager.step {}
          [.count 3, .validate 0 0, .validate 3 1] = .ok m :=
    ⟨_, rfl⟩
  rcases hRun with ⟨m, hRun⟩
  have hSteps :
      InStep 3 [.count 3, .validate 0 0, .validate 3 1] := by
    intro before received after hEq
    rcases before with _ | ⟨_, _ | ⟨_, _ | ⟨_, before⟩⟩⟩
    · cases hEq
    · cases hEq
    · cases hEq
      rfl
    · have hLength := congrArg List.length hEq
      rw [List.length_append] at hLength
      simp only [List.length_cons, List.length_nil] at hLength
      omega
  have hWire :
      ∀ q ∈ [ApidRequest.count 3, .validate 0 0, .validate 3 1],
        q.OnWire := by
    intro q hMem
    simp only [List.mem_cons, List.not_mem_nil, or_false] at hMem
    rcases hMem with rfl | rfl | rfl
    · change (3 : UInt16) ≠ 0x0800
      decide
    · exact ⟨by decide, by decide⟩
    · exact ⟨by decide, by decide⟩
  rcases numbers_in_step hWire (by decide) hRun hSteps (by decide)
    with ⟨m', hGet⟩
  exact ⟨m, m', hRun, hGet⟩

/- What a packet with the expected count leaves. -/
theorem step_of_expected
    (hTracks : Tracks m c)
    (hWire : ApidRequest.OnWire (.validate apid received))
    (hThere : apid ∈ track c.tracked apid)
    (hNext : received = c.next apid) :
    ∃ m',
      m.step (.validate apid received) = .ok m' ∧
        m'.events = m.events ∧ Tracks m' (c.advance apid) := by
  have hNumber : received = c.number apid :=
    hNext.trans (if_pos hThere).symm
  rcases step_expected hTracks hWire.1 (.inl hNumber) with
    ⟨m', hStep, hAfter, hEvents⟩
  exact ⟨m', hStep, hEvents hThere, hAfter⟩

/- What one with another count leaves. -/
theorem step_of_unexpected
    (hTracks : Tracks m c)
    (hWire : ApidRequest.OnWire (.validate apid received))
    (hThere : apid ∈ track c.tracked apid)
    (hNe : received ≠ c.next apid) :
    ∃ m',
      m.step (.validate apid received) = .ok m' ∧
        m'.events ≠ m.events ∧
        Tracks m'
          ((c.advance apid).set apid (received + 1)) := by
  have hNe' : received ≠ c.number apid := fun hNumber =>
    hNe (hNumber.trans (if_pos hThere))
  rcases step_unexpected hTracks hWire.1 hNe' hWire.2 hThere with
    ⟨m', hStep, hAfter, hEvents⟩
  refine ⟨m', hStep, ?_, hAfter⟩
  rw [hEvents]
  intro hSame
  have hNone := List.append_right_eq_self.mp hSame
  cases hNone

/- The count after one, when it does not wrap around. -/
theorem increment_eq_iff
    (hCount : received < 0x4000) :
    increment received = received + 1 ↔ received ≠ 0x3FFF := by
  have hLt : received.toNat < 0x4000 := hCount
  have hNext : (received + 1).toNat = received.toNat + 1 := by
    rw [UInt16.toNat_add]
    change (received.toNat + 1) % 0x10000 = received.toNat + 1
    omega
  have hMod :
      (increment received).toNat =
        (received.toNat + 1) % 0x4000 := by
    unfold increment
    rw [UInt16.toNat_mod, hNext]
    rfl
  rw [← UInt16.toNat_inj, hMod, hNext, Ne, ← UInt16.toNat_inj]
  change _ ↔ ¬ received.toNat = 0x3FFF
  omega

/-
  After a packet the counts are in step with its sender, so
  that the packet that follows it is accepted, and without a
  report, unless the count that was taken over is the last
  before it wraps around.
-/
theorem resynchronized_iff
    (hWire : ∀ q ∈ requests, q.OnWire)
    (hReached : attempt ApidManager.step {} requests = .ok m)
    (hValid : apid ≠ apidInvalidUninitialized)
    (hCount : received < 0x4000)
    (hFirst : m.step (.validate apid received) = .ok m₁) :
    ∃ m₂,
      m₁.step (.validate apid (increment received)) = .ok m₂ ∧
        (m₂.events = m₁.events ↔
          ¬ (received = 0x3FFF ∧ m₁.events ≠ m.events)) := by
  rcases tracks_of_attempt tracks_start hWire hReached with
    ⟨c, hTracks, -⟩
  have hSmall : received.toNat < 0x4000 := hCount
  have hWire₁ : ApidRequest.OnWire (.validate apid received) := by
    refine ⟨hValid, ?_⟩
    rintro rfl
    exact absurd hSmall (by decide)
  have hWire₂ :
      ApidRequest.OnWire
        (.validate apid (increment received)) := by
    refine ⟨hValid, ?_⟩
    intro hError
    have hValue := congrArg UInt16.toNat hError
    unfold increment at hValue
    rw [UInt16.toNat_mod] at hValue
    change _ % 0x4000 = 0xFFFF at hValue
    omega
  rcases tracks_of_step hTracks hWire₁ hFirst with
    ⟨c₁, hStep₁, -⟩
  have hThere : apid ∈ track c.tracked apid := by
    by_contra hLeft
    have hNone :=
      (step_eq_none_iff hWire₁).mpr ⟨apid, received, rfl, hLeft⟩
    rw [hNone] at hStep₁
    cases hStep₁
  have hThere' :
      apid ∈ track (track c.tracked apid) apid :=
    subset_track hThere
  by_cases hExpected : received = c.next apid
  · rcases step_of_expected hTracks hWire₁ hThere hExpected with
      ⟨_, hSame, hEvents₁, hTracks₁⟩
    cases hFirst.symm.trans hSame
    have hNext :
        increment received = (c.advance apid).next apid := by
      rw [next_advance hThere, hExpected]
    rcases step_of_expected hTracks₁ hWire₂ hThere' hNext with
      ⟨m₂, hSecond, hEvents₂, -⟩
    exact ⟨m₂, hSecond,
      iff_of_true hEvents₂ fun hBoth => hBoth.2 hEvents₁⟩
  · rcases step_of_unexpected hTracks hWire₁ hThere hExpected with
      ⟨_, hSame, hEvents₁, hTracks₁⟩
    cases hFirst.symm.trans hSame
    have hSet :
        ((c.advance apid).set apid (received + 1)).next apid =
          received + 1 :=
      Function.update_self _ _ _
    by_cases hWraps : received = 0x3FFF
    · have hNext :
          increment received ≠
            ((c.advance apid).set apid (received + 1)).next
              apid := by
        rw [hSet]
        exact fun hSame =>
          (increment_eq_iff hCount).mp hSame hWraps
      rcases step_of_unexpected hTracks₁ hWire₂ hThere' hNext with
        ⟨m₂, hSecond, hEvents₂, -⟩
      exact ⟨m₂, hSecond, iff_of_false hEvents₂
        (not_not_intro ⟨hWraps, hEvents₁⟩)⟩
    · have hNext :
          increment received =
            ((c.advance apid).set apid (received + 1)).next
              apid := by
        rw [hSet]
        exact (increment_eq_iff hCount).mpr hWraps
      rcases step_of_expected hTracks₁ hWire₂ hThere' hNext with
        ⟨m₂, hSecond, hEvents₂, -⟩
      exact ⟨m₂, hSecond,
        iff_of_true hEvents₂ fun hBoth => hWraps hBoth.1⟩

/- The packet after a gap that ends at the last count. -/
theorem resynchronized_wraps :
    ∃ m₁ m₂ : ApidManager,
      ApidManager.step {} (.validate 0 0x3FFF) = .ok m₁ ∧
        m₁.step (.validate 0 0) = .ok m₂ ∧
        m₂.events ≠ m₁.events := by
  have hFirst :
      ∃ m₁ : ApidManager,
        ApidManager.step {} (.validate 0 0x3FFF) = .ok m₁ ∧
          m₁.events ≠ [] :=
    ⟨_, rfl, by decide⟩
  rcases hFirst with ⟨m₁, hFirst, hReported⟩
  rcases resynchronized_iff
      (fun _ hMem => absurd hMem List.not_mem_nil) rfl
      (by decide) (by decide) hFirst with ⟨m₂, hSecond, hIff⟩
  exact ⟨m₁, m₂, hFirst, hSecond,
    fun hSilent => hIff.mp hSilent ⟨rfl, hReported⟩⟩

end ApidManager

end LoRaRadio
