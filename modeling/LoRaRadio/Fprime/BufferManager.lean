import LoRaRadio.Fprime.Buffer
import LoRaRadio.Library.Faulting
import LoRaRadio.Library.Runs
import LoRaRadio.Radio.Hal
import Mathlib.Data.List.Pairwise

/-
  `Svc::BufferManager`: a pool of buffers in bins of fixed
  sizes.

  A buffer is lent out of the first slot that is free and
  large enough, and is found again by the number in its
  context.  Users may make a buffer smaller, and move it
  inside its slot, before they give it back.

  Main declarations:
    * `BufferManager.setup`
    * `BufferManager.bufferGetCallee`
    * `BufferManager.bufferSendIn`
    * `BufferManager.Sound`
    * `Lending` and `lending_run`
-/

------------------------------------------------------------
-- Assertions
------------------------------------------------------------

namespace LoRaRadio

open Faulting

/- `FW_ASSERT` -/
def fwAssert
    {σ : Type}
    (condition : Prop)
    [Decidable condition]
    (text : String) : Faulting Fault σ Unit :=
  if condition then pure () else throw (.assertion text)

theorem post_fwAssert
    {σ : Type}
    {condition : Prop}
    [Decidable condition]
    {text : String}
    {Q : Unit → σ → Prop}
    {E : Fault → σ → Prop}
    {s : σ}
    (hHolds : condition) :
    Post (fwAssert condition text) Q E s ↔ Q () s := by
  unfold fwAssert
  rw [if_pos hHolds]
  exact post_pure _ _ _ _

theorem post_fwAssert_of
    {σ : Type}
    {condition : Prop}
    [Decidable condition]
    {text : String}
    {Q : Unit → σ → Prop}
    {E : Fault → σ → Prop}
    {s : σ}
    (hHolds : condition → Q () s)
    (hFails : ¬ condition → E (.assertion text) s) :
    Post (fwAssert condition text) Q E s := by
  unfold fwAssert
  split
  case isTrue hTrue => exact hHolds hTrue
  case isFalse hFalse => exact hFails hFalse

end LoRaRadio

------------------------------------------------------------
-- The Component
------------------------------------------------------------

namespace LoRaRadio

open Faulting

/- `BufferBin` -/
structure BufferBin where
  bufferSize : Nat := 0
  numBuffers : UInt16 := 0
deriving DecidableEq, Repr

/- `AllocatedBuffer`: a slot of the pool. -/
structure AllocatedBuffer where
  buff : FwBuffer
  memory : Nat
  size : Nat
  allocated : Bool := false
deriving DecidableEq, Repr

/- A manager that has been set up. -/
structure BufferManager where
  mgrId : UInt16
  buffers : List AllocatedBuffer
  highWater : UInt32 := 0
  currBuffs : UInt32 := 0
  noBuffs : UInt32 := 0
  emptyBuffs : UInt32 := 0
deriving DecidableEq, Repr

namespace BufferManager

/- The context of the buffer in a slot. -/
def contextOf
    (mgrId : UInt16)
    (id : Nat) : UInt32 :=
  (mgrId.toUInt32 <<< 16) ||| UInt32.ofNat id

/- The slots from number `id` on, all of one size. -/
def slotsFrom
    (mgrId : UInt16)
    (size : Nat) :
    Nat → Nat → Nat → List AllocatedBuffer
| 0, _, _ => []
| count + 1, id, memory =>
    { buff :=
        { data := memory
          size := size
          context := contextOf mgrId id }
      memory := memory
      size := size } ::
    slotsFrom mgrId size count (id + 1) (memory + size)

/- The slots of all bins, one bin after the other. -/
def slotsOf
    (mgrId : UInt16) :
    List BufferBin → Nat → Nat → List AllocatedBuffer
| [], _, _ => []
| bin :: bins, id, memory =>
    let count := bin.numBuffers.toNat
    slotsFrom mgrId bin.bufferSize count id memory ++
      slotsOf mgrId bins (id + count)
        (memory + bin.bufferSize * count)

/- `m_numStructs`, with the assertion that it fits. -/
def countStructs : Nat → List BufferBin → Except Fault Nat
| count, [] => .ok count
| count, bin :: bins =>
    if bin.numBuffers.toNat ≤ 0xFFFF - count then
      countStructs (count + bin.numBuffers.toNat) bins
    else
      .error (.assertion
        "max() - this->m_numStructs >= numBuffers")

/-
  `setup`, where the allocator answers with `memory`, and a
  slot's record takes `structSize` bytes.
-/
def setup
    (mgrId : UInt16)
    (memory structSize : Nat)
    (bins : List BufferBin) : Except Fault BufferManager := do
  let numStructs ← countStructs 0 bins
  if memory = 0 then
    .error (.assertion "memory != nullptr")
  else
    .ok
      { mgrId := mgrId
        buffers :=
          slotsOf mgrId bins 0
            (memory + structSize * numStructs) }

/- The first slot that is free and large enough. -/
def findSlot
    (m : BufferManager)
    (size : Nat) : Option Nat :=
  m.buffers.findIdx? fun b =>
    !b.allocated && decide (size ≤ b.size)

def setAllocated
    (allocated : Bool)
    (b : AllocatedBuffer) : AllocatedBuffer :=
  { b with allocated := allocated }

/- A slot has been taken. -/
def take
    (m : BufferManager)
    (id : Nat) : BufferManager :=
  { m with
    buffers := m.buffers.modify id (setAllocated true)
    currBuffs := m.currBuffs + 1
    highWater :=
      if m.currBuffs + 1 > m.highWater then m.currBuffs + 1
      else m.highWater }

/- A slot has been given back. -/
def giveBack
    (m : BufferManager)
    (id : Nat) : BufferManager :=
  { m with
    buffers := m.buffers.modify id (setAllocated false)
    currBuffs := m.currBuffs - 1 }

/- `bufferGetCallee_handler` -/
def bufferGetCallee
    (size : Nat) : Faulting Fault BufferManager FwBuffer := do
  let m ← get
  match m.findSlot size with
  | some id =>
      modify (take · id)
      let buffs := m.buffers.map AllocatedBuffer.buff
      return (buffs.getD id {}).setSize size
  | none =>
      modify fun m => { m with noBuffs := m.noBuffs + 1 }
      return {}

/- `bufferSendIn_handler` -/
def bufferSendIn
    (fwBuffer : FwBuffer) :
    Faulting Fault BufferManager Unit := do
  if fwBuffer.data = 0 ∧ fwBuffer.size = 0 then
    modify fun m => { m with emptyBuffs := m.emptyBuffs + 1 }
  else
    let m ← get
    let id := (fwBuffer.context &&& 0xFFFF).toNat
    let mgrId := fwBuffer.context >>> 16
    match m.buffers[id]? with
    | none => throw (.assertion "id < this->m_numStructs")
    | some slot =>
        fwAssert (mgrId = m.mgrId.toUInt32)
          "mgrId == this->m_mgrId"
        fwAssert (slot.allocated = true)
          "true == this->m_buffers[id].allocated"
        fwAssert (fwBuffer.data ≥ slot.memory)
          "fwBuffer.getData() >= this->m_buffers[id].memory"
        fwAssert (fwBuffer.data < slot.memory + slot.size)
          "fwBuffer.getData() < memory + size"
        fwAssert (fwBuffer.size ≤ slot.size)
          "fwBuffer.getSize() <= this->m_buffers[id].size"
        modify (giveBack · id)

end BufferManager

end LoRaRadio

------------------------------------------------------------
-- Slots and Their Numbers
------------------------------------------------------------

namespace LoRaRadio

open Faulting

/- The number of the slot a buffer is out of. -/
def FwBuffer.slotId
    (b : FwBuffer) : Nat :=
  (b.context &&& 0xFFFF).toNat

/-
  A buffer that points into a slot, and does not reach
  beyond its end.
-/
structure AllocatedBuffer.Holds
    (slot : AllocatedBuffer)
    (b : FwBuffer) : Prop where
  from_memory : slot.memory ≤ b.data
  data_lt : b.data < slot.memory + slot.size
  end_le : b.data + b.size ≤ slot.memory + slot.size

namespace BufferManager

theorem toNat_contextOf
    (mgrId : UInt16)
    {id : Nat}
    (hId : id < 0x10000) :
    (contextOf mgrId id).toNat =
      mgrId.toNat * 0x10000 + id := by
  have hMgr : mgrId.toNat < 0x10000 := mgrId.toNat_lt
  have hShift : mgrId.toNat <<< 16 = mgrId.toNat * 0x10000 :=
    Nat.shiftLeft_eq _ _
  have hHigh :
      (mgrId.toUInt32 <<< 16).toNat = mgrId.toNat <<< 16 := by
    rw [UInt32.toNat_shiftLeft, UInt16.toNat_toUInt32]
    apply Nat.mod_eq_of_lt
    change mgrId.toNat <<< 16 < 2 ^ 32
    omega
  have hLow : (UInt32.ofNat id).toNat = id := by
    rw [UInt32.toNat_ofNat']
    omega
  unfold contextOf
  rw [UInt32.toNat_or, hHigh, hLow,
    ← Nat.shiftLeft_add_eq_or_of_lt (by omega), hShift]

/- The number in a context is the slot's. -/
theorem contextOf_and
    (mgrId : UInt16)
    {id : Nat}
    (hId : id < 0x10000) :
    (contextOf mgrId id &&& 0xFFFF).toNat = id := by
  rw [UInt32.toNat_and, toNat_contextOf mgrId hId]
  change (mgrId.toNat * 0x10000 + id) &&& (2 ^ 16 - 1) = id
  rw [Nat.and_two_pow_sub_one_eq_mod]
  omega

/- So is the manager's. -/
theorem contextOf_shiftRight
    (mgrId : UInt16)
    {id : Nat}
    (hId : id < 0x10000) :
    contextOf mgrId id >>> 16 = mgrId.toUInt32 := by
  apply UInt32.toNat_inj.mp
  rw [UInt32.toNat_shiftRight, toNat_contextOf mgrId hId,
    UInt16.toNat_toUInt32]
  change (mgrId.toNat * 0x10000 + id) >>> 16 = mgrId.toNat
  rw [Nat.shiftRight_eq_div_pow]
  omega

/-
  The slots are numbered in their contexts, each has memory
  of its own, and there are as many as a context can number.
-/
structure Sound
    (m : BufferManager) : Prop where
  length_le : m.buffers.length ≤ 0xFFFF
  buff :
    ∀ (id : Nat) (slot : AllocatedBuffer),
      m.buffers[id]? = some slot →
      slot.buff =
        { data := slot.memory
          size := slot.size
          context := contextOf m.mgrId id }
  memory : ∀ slot ∈ m.buffers, slot.memory ≠ 0 ∧ 0 < slot.size
  apart :
    m.buffers.Pairwise fun a b => a.memory + a.size ≤ b.memory

/- A buffer a user may hold: it points into a taken slot. -/
def Lent
    (m : BufferManager)
    (b : FwBuffer) : Prop :=
  ∃ (id : Nat) (slot : AllocatedBuffer),
    m.buffers[id]? = some slot ∧
      slot.allocated = true ∧
      b.context = contextOf m.mgrId id ∧
      slot.Holds b

variable {m : BufferManager}

theorem Sound.id_lt
    (hSound : m.Sound)
    {id : Nat}
    {slot : AllocatedBuffer}
    (hSlot : m.buffers[id]? = some slot) :
    id < 0x10000 := by
  have hLength := (List.getElem?_eq_some_iff.mp hSlot).1
  have hCount := hSound.length_le
  omega

/- The slots after one of them has changed hands. -/
theorem getElem?_setAllocated
    (allocated : Bool)
    (id j : Nat) :
    (m.buffers.modify id (setAllocated allocated))[j]? =
      (m.buffers[j]?).map
        fun b => if id = j then setAllocated allocated b else b :=
  List.getElem?_modify _ _ _ _

theorem memory_setAllocated
    (allocated : Bool)
    (id : Nat) :
    (m.buffers.modify id (setAllocated allocated)).map
        (fun b => (b.buff, b.memory, b.size)) =
      m.buffers.map fun b => (b.buff, b.memory, b.size) := by
  apply List.ext_getElem?
  intro j
  rw [List.getElem?_map, List.getElem?_map,
    getElem?_setAllocated, Option.map_map]
  congr 1
  funext b
  change (fun b : AllocatedBuffer => (b.buff, b.memory, b.size))
    (if id = j then setAllocated allocated b else b) = _
  split <;> rfl

/-
  Soundness is about what never changes: the buffers, their
  memory and their sizes.
-/
theorem Sound.of_slots
    {m' : BufferManager}
    (hSound : m.Sound)
    (hMgr : m'.mgrId = m.mgrId)
    (hSlots :
      m'.buffers.map (fun b => (b.buff, b.memory, b.size)) =
        m.buffers.map fun b => (b.buff, b.memory, b.size)) :
    m'.Sound := by
  have hSlot :
      ∀ (id : Nat) (slot' : AllocatedBuffer),
        m'.buffers[id]? = some slot' →
        ∃ slot : AllocatedBuffer, m.buffers[id]? = some slot ∧
          slot'.buff = slot.buff ∧
          slot'.memory = slot.memory ∧
          slot'.size = slot.size := by
    intro id slot' hSome
    have hAt := congrArg (·[id]?) hSlots
    simp only [List.getElem?_map, hSome, Option.map_some] at hAt
    cases hOther : m.buffers[id]? with
    | none =>
        rw [hOther] at hAt
        cases hAt
    | some slot =>
        rw [hOther, Option.map_some, Option.some.injEq,
          Prod.mk.injEq, Prod.mk.injEq] at hAt
        exact ⟨slot, rfl, hAt⟩
  refine ⟨?_, ?_, ?_, ?_⟩
  · have hLength := congrArg List.length hSlots
    rw [List.length_map, List.length_map] at hLength
    rw [hLength]
    exact hSound.length_le
  · intro id slot' hSome
    rcases hSlot id slot' hSome with
      ⟨slot, hOther, hBuff, hMemory, hSize⟩
    rw [hBuff, hMemory, hSize, hMgr]
    exact hSound.buff id slot hOther
  · intro slot' hMem
    rcases List.getElem?_of_mem hMem with ⟨id, hSome⟩
    rcases hSlot id slot' hSome with
      ⟨slot, hOther, -, hMemory, hSize⟩
    rw [hMemory, hSize]
    exact hSound.memory slot (List.mem_of_getElem? hOther)
  · have hApart :
        (m.buffers.map
          fun b => (b.buff, b.memory, b.size)).Pairwise
            fun a b => a.2.1 + a.2.2 ≤ b.2.1 :=
      List.pairwise_map.mpr hSound.apart
    rw [← hSlots] at hApart
    exact List.pairwise_map.mp hApart

theorem Sound.take
    (hSound : m.Sound)
    (id : Nat) :
    (m.take id).Sound :=
  hSound.of_slots rfl (memory_setAllocated true id)

theorem Sound.giveBack
    (hSound : m.Sound)
    (id : Nat) :
    (m.giveBack id).Sound :=
  hSound.of_slots rfl (memory_setAllocated false id)

end BufferManager

end LoRaRadio

------------------------------------------------------------
-- Taking and Giving Back
------------------------------------------------------------

namespace LoRaRadio

open Faulting

namespace BufferManager

variable {m : BufferManager}
variable {b : FwBuffer}

/- The slot found is free and large enough. -/
theorem findSlot_some
    {size id : Nat}
    (hFind : m.findSlot size = some id) :
    ∃ slot : AllocatedBuffer,
      m.buffers[id]? = some slot ∧
        slot.allocated = false ∧
        size ≤ slot.size := by
  rcases List.findIdx?_eq_some_iff_getElem.mp hFind with
    ⟨hLt, hFree, -⟩
  rw [Bool.and_eq_true, Bool.not_eq_true',
    decide_eq_true_eq] at hFree
  exact ⟨_, List.getElem?_eq_getElem hLt, hFree⟩

theorem exec_bufferGetCallee_none
    {size : Nat}
    (hFind : m.findSlot size = none) :
    exec (bufferGetCallee size) m =
      (.ok {}, { m with noBuffs := m.noBuffs + 1 }) := by
  unfold bufferGetCallee
  rw [exec_bind, exec_get]
  dsimp only
  rw [hFind]
  rfl

/- The buffer lent out is the slot's, cut to the request. -/
theorem exec_bufferGetCallee_some
    (hSound : m.Sound)
    {size id : Nat}
    {slot : AllocatedBuffer}
    (hFind : m.findSlot size = some id)
    (hSlot : m.buffers[id]? = some slot) :
    exec (bufferGetCallee size) m =
      (.ok
        { data := slot.memory
          size := size
          context := contextOf m.mgrId id },
        m.take id) := by
  have hBuff :
      (m.buffers.map AllocatedBuffer.buff).getD id {} =
        slot.buff := by
    rw [List.getD_eq_getElem?_getD, List.getElem?_map, hSlot]
    rfl
  unfold bufferGetCallee
  rw [exec_bind, exec_get]
  dsimp only
  rw [hFind]
  dsimp only
  rw [exec_bind, exec_modify, hBuff, hSound.buff id slot hSlot]
  rfl

theorem getElem?_take
    (id j : Nat) :
    (m.take id).buffers[j]? =
      (m.buffers[j]?).map
        fun b => if id = j then setAllocated true b else b :=
  getElem?_setAllocated true id j

theorem getElem?_giveBack
    (id j : Nat) :
    (m.giveBack id).buffers[j]? =
      (m.buffers[j]?).map
        fun b => if id = j then setAllocated false b else b :=
  getElem?_setAllocated false id j

/- A buffer fresh from its slot is lent. -/
theorem lent_take
    (hSound : m.Sound)
    {size id : Nat}
    {slot : AllocatedBuffer}
    (hSlot : m.buffers[id]? = some slot)
    (hSize : size ≤ slot.size) :
    (m.take id).Lent
      { data := slot.memory
        size := size
        context := contextOf m.mgrId id } := by
  have hPos := (hSound.memory slot (List.mem_of_getElem? hSlot)).2
  refine ⟨id, setAllocated true slot, ?_, rfl, rfl, ?_⟩
  · rw [getElem?_take, hSlot, Option.map_some, if_pos rfl]
  · constructor
    · exact Nat.le_refl _
    · exact Nat.lt_add_of_pos_right hPos
    · exact Nat.add_le_add_left hSize _

/- What is lent stays lent when another slot is taken. -/
theorem Lent.take
    (hLent : m.Lent b)
    (id : Nat) :
    (m.take id).Lent b := by
  rcases hLent with ⟨j, slot, hSlot, hTaken, hContext, hHolds⟩
  refine ⟨j, if id = j then setAllocated true slot else slot,
    ?_, ?_, hContext, ?_⟩
  · rw [getElem?_take, hSlot, Option.map_some]
  · split
    · rfl
    · exact hTaken
  · split
    · exact ⟨hHolds.1, hHolds.2, hHolds.3⟩
    · exact hHolds

theorem Lent.slotId
    (hSound : m.Sound)
    {id : Nat}
    {slot : AllocatedBuffer}
    (hSlot : m.buffers[id]? = some slot)
    (hContext : b.context = contextOf m.mgrId id) :
    b.slotId = id := by
  unfold FwBuffer.slotId
  rw [hContext, contextOf_and _ (hSound.id_lt hSlot)]

/- And when another slot is given back. -/
theorem Lent.giveBack
    (hSound : m.Sound)
    (hLent : m.Lent b)
    {id : Nat}
    (hOther : b.slotId ≠ id) :
    (m.giveBack id).Lent b := by
  rcases hLent with ⟨j, slot, hSlot, hTaken, hContext, hHolds⟩
  rw [Lent.slotId hSound hSlot hContext] at hOther
  refine ⟨j, slot, ?_, hTaken, hContext, hHolds⟩
  rw [getElem?_giveBack, hSlot, Option.map_some,
    if_neg (Ne.symm hOther)]

/- A buffer that is lent can be given back. -/
theorem exec_bufferSendIn
    (hSound : m.Sound)
    (hLent : m.Lent b) :
    exec (bufferSendIn b) m =
      (.ok (), m.giveBack b.slotId) := by
  rcases hLent with ⟨id, slot, hSlot, hTaken, hContext, hHolds⟩
  have hId := Lent.slotId hSound hSlot hContext
  have hMgr : b.context >>> 16 = m.mgrId.toUInt32 := by
    rw [hContext, contextOf_shiftRight _ (hSound.id_lt hSlot)]
  have hSome :=
    (hSound.memory slot (List.mem_of_getElem? hSlot)).1
  have hData : ¬ (b.data = 0 ∧ b.size = 0) := by
    have hFrom := hHolds.from_memory
    omega
  have hSize : b.size ≤ slot.size := by
    have hFrom := hHolds.from_memory
    have hEnd := hHolds.end_le
    omega
  have hNumber :
      m.buffers[(b.context &&& 0xFFFF).toNat]? = some slot := by
    rw [← hSlot, ← hId]
    rfl
  unfold bufferSendIn
  rw [if_neg hData, exec_bind, exec_get]
  dsimp only
  rw [hNumber]
  unfold fwAssert
  dsimp only
  rw [if_pos hMgr, if_pos hTaken, if_pos hHolds.from_memory,
    if_pos hHolds.data_lt, if_pos hSize]
  rfl

/- Two buffers out of different slots do not overlap. -/
theorem Lent.apart
    (hSound : m.Sound)
    {c : FwBuffer}
    (hLent : m.Lent b)
    (hLent' : m.Lent c)
    (hOther : b.slotId ≠ c.slotId) :
    b.data + b.size ≤ c.data ∨ c.data + c.size ≤ b.data := by
  rcases hLent with ⟨i, slot, hSlot, -, hContext, hHolds⟩
  rcases hLent' with ⟨j, slot', hSlot', -, hContext', hHolds'⟩
  rw [Lent.slotId hSound hSlot hContext,
    Lent.slotId hSound hSlot' hContext'] at hOther
  rcases List.getElem?_eq_some_iff.mp hSlot with ⟨hLt, rfl⟩
  rcases List.getElem?_eq_some_iff.mp hSlot' with ⟨hLt', rfl⟩
  have hApart := List.pairwise_iff_getElem.mp hSound.apart
  have hEnd := hHolds.end_le
  have hEnd' := hHolds'.end_le
  have hFrom := hHolds.from_memory
  have hFrom' := hHolds'.from_memory
  rcases Nat.lt_or_gt_of_ne hOther with hBefore | hAfter
  · have hBelow := hApart i j hLt hLt' hBefore
    omega
  · have hBelow := hApart j i hLt' hLt hAfter
    omega

end BufferManager

end LoRaRadio

------------------------------------------------------------
-- Lending
------------------------------------------------------------

namespace LoRaRadio

open Faulting Runs BufferManager

/- The manager, and the buffers that are with its users. -/
structure Lending where
  manager : BufferManager
  held : List FwBuffer := []

/-
  A request, a user that makes the buffer it holds smaller,
  and a buffer that goes back.
-/
inductive LendingAction
  | get (size : Nat)
  | narrow (i : Nat) (data size : Nat)
  | send (i : Nat)
deriving DecidableEq, Repr

/-
  `data` and `size` are a part of the buffer that starts in
  it: an empty one may be its front, but not its end, where
  the manager would not take it back.
-/
def FwBuffer.Narrows
    (b : FwBuffer)
    (data size : Nat) : Prop :=
  b.data ≤ data ∧ data + size ≤ b.data + b.size ∧
    (data = b.data ∨ data < b.data + b.size)

instance FwBuffer.decidableNarrows
    (b : FwBuffer)
    (data size : Nat) :
    Decidable (b.Narrows data size) :=
  inferInstanceAs (Decidable (_ ∧ _ ∧ _))

namespace Lending

/- Users hold what is not null. -/
def keep
    (held : List FwBuffer)
    (answer : FwBuffer) : List FwBuffer :=
  if answer.data = 0 then held else held ++ [answer]

/-
  One action.  A user that does not hold the buffer, or would
  make it anything but a part that starts in it, is not one
  the manager serves, and does nothing.
-/
def step
    (l : Lending) : LendingAction → Except Fault Lending
| .get size =>
    match exec (bufferGetCallee size) l.manager with
    | (.ok b, m) =>
        .ok { manager := m, held := keep l.held b }
    | (.error e, _) => .error e
| .narrow i data size =>
    match l.held[i]? with
    | some b =>
        if b.Narrows data size then
          .ok
            { l with
              held :=
                l.held.set i { b with data := data, size := size } }
        else
          .ok l
    | none => .ok l
| .send i =>
    match l.held[i]? with
    | some b =>
        match exec (bufferSendIn b) l.manager with
        | (.ok _, m) =>
            .ok { manager := m, held := l.held.eraseIdx i }
        | (.error e, _) => .error e
    | none => .ok l

/-
  Every buffer with a user is out of a slot of its own, every
  slot that is taken is with a user, and the manager counts
  them.
-/
structure Balanced
    (l : Lending) : Prop where
  sound : l.manager.Sound
  lent : ∀ b ∈ l.held, l.manager.Lent b
  slots : (l.held.map FwBuffer.slotId).Nodup
  taken :
    ∀ (id : Nat) (slot : AllocatedBuffer),
      l.manager.buffers[id]? = some slot →
      slot.allocated = true →
      id ∈ l.held.map FwBuffer.slotId
  count : l.manager.currBuffs.toNat = l.held.length

variable {l l' : Lending}

theorem slotId_lt
    (hBalanced : l.Balanced)
    {id : Nat}
    (hMem : id ∈ l.held.map FwBuffer.slotId) :
    id < l.manager.buffers.length := by
  rcases List.mem_map.mp hMem with ⟨b, hHeld, rfl⟩
  rcases hBalanced.lent b hHeld with
    ⟨id, slot, hSlot, -, hContext, -⟩
  rw [Lent.slotId hBalanced.sound hSlot hContext]
  exact (List.getElem?_eq_some_iff.mp hSlot).1

/- There are no more buffers with users than slots. -/
theorem Balanced.length_le
    (hBalanced : l.Balanced) :
    l.held.length ≤ l.manager.buffers.length := by
  have hSub :
      l.held.map FwBuffer.slotId ⊆
        List.range l.manager.buffers.length := fun id hMem =>
    List.mem_range.mpr (slotId_lt hBalanced hMem)
  have hLength :=
    (hBalanced.slots.subperm hSub).length_le
  rwa [List.length_map, List.length_range] at hLength

/- A free slot is with no user. -/
theorem Balanced.not_held
    (hBalanced : l.Balanced)
    {id : Nat}
    {slot : AllocatedBuffer}
    (hSlot : l.manager.buffers[id]? = some slot)
    (hFree : slot.allocated = false) :
    id ∉ l.held.map FwBuffer.slotId := by
  intro hMem
  rcases List.mem_map.mp hMem with ⟨b, hHeld, hSame⟩
  rcases hBalanced.lent b hHeld with
    ⟨j, other, hOther, hTaken, hContext, -⟩
  rw [Lent.slotId hBalanced.sound hOther hContext] at hSame
  subst hSame
  rw [hSlot, Option.some.injEq] at hOther
  rw [← hOther, hFree] at hTaken
  cases hTaken

/- A free slot is taken for a new user. -/
theorem Balanced.take
    (hBalanced : l.Balanced)
    {id size : Nat}
    {slot : AllocatedBuffer}
    (hSlot : l.manager.buffers[id]? = some slot)
    (hFree : slot.allocated = false)
    (hSize : size ≤ slot.size) :
    Balanced
      { manager := l.manager.take id
        held :=
          l.held ++
            [{ data := slot.memory
               size := size
               context :=
                 BufferManager.contextOf l.manager.mgrId id }] } := by
  have hSound := hBalanced.sound
  have hLt : id < l.manager.buffers.length :=
    (List.getElem?_eq_some_iff.mp hSlot).1
  have hNew := hBalanced.not_held hSlot hFree
  generalize hBuffer :
    FwBuffer.mk slot.memory size
      (BufferManager.contextOf l.manager.mgrId id) = b
  have hId : b.slotId = id := by
    apply Lent.slotId hSound hSlot
    rw [← hBuffer]
  constructor
  case sound => exact hSound.take id
  case lent =>
    intro c hMem
    rcases List.mem_append.mp hMem with hOld | hLast
    · exact (hBalanced.lent c hOld).take id
    · rw [List.mem_singleton.mp hLast, ← hBuffer]
      exact lent_take hSound hSlot hSize
  case slots =>
    rw [List.map_append, List.map_singleton, hId]
    exact hBalanced.slots.append (List.nodup_singleton id)
      (List.disjoint_singleton.mpr hNew)
  case taken =>
    intro j other hOther hTaken
    rw [List.map_append, List.map_singleton, hId,
      List.mem_append, List.mem_singleton]
    rw [getElem?_take, Option.map_eq_some_iff] at hOther
    rcases hOther with ⟨before, hBefore, hAfter⟩
    by_cases hSame : id = j
    · exact .inr hSame.symm
    · rw [if_neg hSame] at hAfter
      subst hAfter
      exact .inl (hBalanced.taken j before hBefore hTaken)
  case count =>
    -- A slot is free, so the count does not wrap around.
    have hLess : l.held.length < l.manager.buffers.length := by
      have hNodup :
          (id :: l.held.map FwBuffer.slotId).Nodup :=
        List.nodup_cons.mpr ⟨hNew, hBalanced.slots⟩
      have hSub :
          id :: l.held.map FwBuffer.slotId ⊆
            List.range l.manager.buffers.length := by
        intro j hMem
        rw [List.mem_range]
        rcases List.mem_cons.mp hMem with hSame | hHeld
        · rw [hSame]
          exact hLt
        · exact slotId_lt hBalanced hHeld
      have hLength := (hNodup.subperm hSub).length_le
      rw [List.length_cons, List.length_map,
        List.length_range] at hLength
      exact hLength
    have hBound := hSound.length_le
    have hCount := hBalanced.count
    have hSum :
        (l.manager.currBuffs + 1).toNat =
          (l.manager.currBuffs.toNat + 1) % 2 ^ 32 :=
      UInt32.toNat_add _ _
    change (l.manager.currBuffs + 1).toNat = _
    rw [List.length_append, List.length_singleton, hSum]
    omega

/- It does not matter in which order buffers are held. -/
theorem Balanced.perm
    {m : BufferManager}
    {held held' : List FwBuffer}
    (hBalanced : Balanced { manager := m, held := held })
    (hPerm : held.Perm held') :
    Balanced { manager := m, held := held' } where
  sound := hBalanced.sound
  lent b hMem := hBalanced.lent b (hPerm.mem_iff.mpr hMem)
  slots :=
    (hPerm.map FwBuffer.slotId).nodup_iff.mp hBalanced.slots
  taken id slot hSlot hTaken :=
    (hPerm.map FwBuffer.slotId).mem_iff.mp
      (hBalanced.taken id slot hSlot hTaken)
  count := hBalanced.count.trans hPerm.length_eq

/- A request is answered with a buffer, or with none. -/
theorem Balanced.post_get
    {m : BufferManager}
    {held : List FwBuffer}
    (hBalanced : Balanced { manager := m, held := held })
    (size : Nat) :
    Post (bufferGetCallee size)
      (fun b m' =>
        (b = {} ∧ m.findSlot size = none ∧
          Balanced { manager := m', held := held }) ∨
        (b.data ≠ 0 ∧ b.size = size ∧
          Balanced { manager := m', held := b :: held }))
      (fun _ _ => False) m := by
  unfold Post
  cases hFind : m.findSlot size with
  | none =>
      rw [exec_bufferGetCallee_none hFind]
      refine .inl ⟨rfl, rfl, ?_⟩
      exact
        { sound := hBalanced.sound.of_slots rfl rfl
          lent := hBalanced.lent
          slots := hBalanced.slots
          taken := hBalanced.taken
          count := hBalanced.count }
  | some id =>
      rcases findSlot_some hFind with
        ⟨slot, hSlot, hFree, hSize⟩
      have hSound := hBalanced.sound
      have hMemory :=
        (hSound.memory slot (List.mem_of_getElem? hSlot)).1
      rw [exec_bufferGetCallee_some hSound hFind hSlot]
      refine .inr ⟨hMemory, rfl, ?_⟩
      exact (hBalanced.take hSlot hFree hSize).perm
        (List.perm_append_singleton _ _)

/- A buffer made smaller is lent as it was. -/
theorem lent_narrow
    {m : BufferManager}
    {b : FwBuffer}
    (hLent : m.Lent b)
    {data size : Nat}
    (hNarrows : b.Narrows data size) :
    m.Lent { b with data := data, size := size } := by
  rcases hLent with ⟨id, slot, hSlot, hTaken, hContext, hHolds⟩
  rcases hNarrows with ⟨hFrom, hEnd, hInside⟩
  have hFrom' := hHolds.from_memory
  have hLt' := hHolds.data_lt
  have hEnd' := hHolds.end_le
  refine ⟨id, slot, hSlot, hTaken, hContext, ?_, ?_, ?_⟩
  · change slot.memory ≤ data
    omega
  · change data < slot.memory + slot.size
    omega
  · change data + size ≤ slot.memory + slot.size
    omega

theorem balanced_narrow
    (hBalanced : l.Balanced)
    (i data size : Nat) :
    ∃ l', l.step (.narrow i data size) = .ok l' ∧
      l'.Balanced := by
  unfold step
  dsimp only
  cases hHeld : l.held[i]? with
  | none => exact ⟨l, rfl, hBalanced⟩
  | some b =>
      dsimp only
      split
      case isFalse hNot => exact ⟨l, rfl, hBalanced⟩
      case isTrue hNarrows =>
      refine ⟨_, rfl, ?_⟩
      rcases List.getElem?_eq_some_iff.mp hHeld with ⟨hLt, hAt⟩
      have hSame :
          (l.held.set i { b with data := data, size := size }).map
              FwBuffer.slotId =
            l.held.map FwBuffer.slotId := by
        have hLt' : i < (l.held.map FwBuffer.slotId).length := by
          rw [List.length_map]
          exact hLt
        have hId :
            (l.held.map FwBuffer.slotId)[i] = b.slotId := by
          rw [List.getElem_map, hAt]
        rw [List.map_set]
        change (l.held.map FwBuffer.slotId).set i b.slotId = _
        rw [← hId, List.set_getElem_self]
      constructor
      case sound => exact hBalanced.sound
      case lent =>
        intro c hMem
        rcases List.mem_or_eq_of_mem_set hMem with hOld | hNew
        · exact hBalanced.lent c hOld
        · rw [hNew]
          exact lent_narrow
            (hBalanced.lent b (List.mem_of_getElem? hHeld))
            hNarrows
      case slots =>
        rw [hSame]
        exact hBalanced.slots
      case taken =>
        rw [hSame]
        exact hBalanced.taken
      case count =>
        change _ = (l.held.set i _).length
        rw [List.length_set]
        exact hBalanced.count

/- A buffer that comes back frees its slot, and only that. -/
theorem balanced_send
    (hBalanced : l.Balanced)
    (i : Nat) :
    ∃ l', l.step (.send i) = .ok l' ∧ l'.Balanced := by
  unfold step
  dsimp only
  cases hHeld : l.held[i]? with
  | none => exact ⟨l, rfl, hBalanced⟩
  | some b =>
      dsimp only
      have hSound := hBalanced.sound
      have hMem := List.mem_of_getElem? hHeld
      rw [exec_bufferSendIn hSound (hBalanced.lent b hMem)]
      refine ⟨_, rfl, ?_⟩
      rcases List.getElem?_eq_some_iff.mp hHeld with ⟨hLt, rfl⟩
      have hPerm := List.getElem_cons_eraseIdx_perm hLt
      have hSlots :
          (l.held[i].slotId ::
            (l.held.eraseIdx i).map FwBuffer.slotId).Nodup :=
        (hPerm.map FwBuffer.slotId).nodup_iff.mpr hBalanced.slots
      rcases List.nodup_cons.mp hSlots with ⟨hGone, hRest⟩
      constructor
      case sound => exact hSound.giveBack _
      case lent =>
        intro c hMem'
        apply Lent.giveBack hSound
        · exact hBalanced.lent c (List.mem_of_mem_eraseIdx hMem')
        · intro hSame
          exact hGone (hSame ▸ List.mem_map_of_mem hMem')
      case slots => exact hRest
      case taken =>
        intro j other hOther hTaken
        rw [getElem?_giveBack, Option.map_eq_some_iff] at hOther
        rcases hOther with ⟨before, hBefore, hAfter⟩
        by_cases hSame : l.held[i].slotId = j
        · rw [if_pos hSame] at hAfter
          rw [← hAfter] at hTaken
          cases hTaken
        · rw [if_neg hSame] at hAfter
          subst hAfter
          have hWas := hBalanced.taken j before hBefore hTaken
          have hNow :=
            (hPerm.map FwBuffer.slotId).mem_iff.mpr hWas
          exact (List.mem_cons.mp hNow).resolve_left
            (Ne.symm hSame)
      case count =>
        have hCount := hBalanced.count
        have hBound := hBalanced.length_le
        have hSlots := hSound.length_le
        have hLength := hPerm.length_eq
        rw [List.length_cons] at hLength
        change (l.manager.currBuffs - 1).toNat =
          (l.held.eraseIdx i).length
        have hDiff :
            (l.manager.currBuffs - 1).toNat =
              l.manager.currBuffs.toNat - 1 := by
          apply UInt32.toNat_sub_of_le
          rw [UInt32.le_iff_toNat_le, hCount]
          change 1 ≤ l.held.length
          omega
        omega

section

variable {m : BufferManager}
variable {held : List FwBuffer}
variable {b : FwBuffer}

/- A buffer that is held can be given back. -/
theorem Balanced.post_send
    (hBalanced : Balanced { manager := m, held := b :: held }) :
    Post (bufferSendIn b)
      (fun _ m' => Balanced { manager := m', held := held })
      (fun _ _ => False) m := by
  rcases balanced_send hBalanced 0 with ⟨l', hStep, hAfter⟩
  have hRun :=
    exec_bufferSendIn hBalanced.sound
      (hBalanced.lent b List.mem_cons_self)
  unfold step at hStep
  dsimp only [List.getElem?_cons_zero] at hStep
  rw [hRun] at hStep
  cases hStep
  unfold Post
  rw [hRun]
  exact hAfter

/- A user may make the buffer it holds smaller. -/
theorem Balanced.narrow
    (hBalanced : Balanced { manager := m, held := b :: held })
    {data size : Nat}
    (hNarrows : b.Narrows data size) :
    Balanced
      { manager := m
        held := { b with data := data, size := size } :: held } := by
  rcases balanced_narrow hBalanced 0 data size with
    ⟨l', hStep, hAfter⟩
  unfold step at hStep
  dsimp only [List.getElem?_cons_zero] at hStep
  rw [if_pos hNarrows] at hStep
  cases hStep
  exact hAfter

end

/- Buffers with users have no byte in common. -/
theorem Balanced.apart
    (hBalanced : l.Balanced) :
    l.held.Pairwise fun b c =>
      b.data + b.size ≤ c.data ∨ c.data + c.size ≤ b.data := by
  have hSlots := List.pairwise_map.mp hBalanced.slots
  apply hSlots.imp_of_mem
  intro b c hMem hMem' hOther
  exact (hBalanced.lent b hMem).apart hBalanced.sound
    (hBalanced.lent c hMem') hOther

end Lending

end LoRaRadio

------------------------------------------------------------
-- Setting the Pool Up
------------------------------------------------------------

namespace LoRaRadio

namespace BufferManager

/-
  Free slots one after the other between two addresses, with
  the numbers from `id` on.
-/
structure Laid
    (mgrId : UInt16)
    (id memory stop : Nat)
    (slots : List AllocatedBuffer) : Prop where
  buff :
    ∀ (k : Nat) (slot : AllocatedBuffer),
      slots[k]? = some slot →
      slot.buff =
        { data := slot.memory
          size := slot.size
          context := contextOf mgrId (id + k) }
  inside :
    ∀ slot ∈ slots,
      memory ≤ slot.memory ∧ slot.memory + slot.size ≤ stop ∧
        slot.allocated = false
  apart :
    slots.Pairwise fun a b => a.memory + a.size ≤ b.memory

variable {mgrId : UInt16}
variable {id memory middle stop : Nat}

theorem laid_nil :
    Laid mgrId id memory stop [] where
  buff _ _ hSlot := by cases hSlot
  inside _ hMem := absurd hMem List.not_mem_nil
  apart := .nil

theorem Laid.append
    {slots slots' : List AllocatedBuffer}
    (hFirst : Laid mgrId id memory middle slots)
    (hSecond :
      Laid mgrId (id + slots.length) middle stop slots')
    (hOrder : memory ≤ middle)
    (hOrder' : middle ≤ stop) :
    Laid mgrId id memory stop (slots ++ slots') := by
  constructor
  case buff =>
    intro k slot hSlot
    by_cases hFront : k < slots.length
    · rw [List.getElem?_append_left hFront] at hSlot
      exact hFirst.buff k slot hSlot
    · rw [List.getElem?_append_right (by omega)] at hSlot
      rw [hSecond.buff _ slot hSlot]
      congr 2
      omega
  case inside =>
    intro slot hMem
    rcases List.mem_append.mp hMem with hFront | hBack
    · have hHere := hFirst.inside slot hFront
      exact ⟨hHere.1, by omega, hHere.2.2⟩
    · have hHere := hSecond.inside slot hBack
      exact ⟨by omega, hHere.2⟩
  case apart =>
    apply List.pairwise_append.mpr
    refine ⟨hFirst.apart, hSecond.apart, ?_⟩
    intro a hFront b hBack
    have hEnd := (hFirst.inside a hFront).2.1
    have hFrom := (hSecond.inside b hBack).1
    omega

@[simp] theorem length_slotsFrom
    (size count : Nat) :
    (slotsFrom mgrId size count id memory).length = count := by
  induction count generalizing id memory with
  | zero => rfl
  | succ count ih =>
      unfold slotsFrom
      rw [List.length_cons, ih]

theorem laid_slotsFrom
    (size count : Nat) :
    Laid mgrId id memory (memory + size * count)
      (slotsFrom mgrId size count id memory) := by
  induction count generalizing id memory with
  | zero => exact laid_nil
  | succ count ih =>
      let slot : AllocatedBuffer :=
        { buff :=
            { data := memory
              size := size
              context := contextOf mgrId id }
          memory := memory
          size := size }
      have hFirst :
          Laid mgrId id memory (memory + size) [slot] := by
        constructor
        case buff =>
          intro k other hSlot
          cases k with
          | zero =>
              cases hSlot
              rfl
          | succ k => cases hSlot
        case inside =>
          intro other hMem
          rw [List.mem_singleton.mp hMem]
          exact ⟨Nat.le_refl _, Nat.le_refl _, rfl⟩
        case apart => exact List.pairwise_singleton _ _
      have hStop :
          memory + size * (count + 1) =
            memory + size + size * count := by
        rw [Nat.mul_succ]
        omega
      rw [hStop]
      exact hFirst.append ih (Nat.le_add_right _ _)
        (Nat.le_add_right _ _)

theorem laid_slotsOf
    (bins : List BufferBin) :
    ∃ stop,
      memory ≤ stop ∧
        Laid mgrId id memory stop
          (slotsOf mgrId bins id memory) := by
  induction bins generalizing id memory with
  | nil => exact ⟨memory, Nat.le_refl _, laid_nil⟩
  | cons bin bins ih =>
      let count := bin.numBuffers.toNat
      rcases @ih (id + count) (memory + bin.bufferSize * count)
        with ⟨stop, hOrder, hRest⟩
      refine ⟨stop, by omega, ?_⟩
      apply (laid_slotsFrom bin.bufferSize count).append
      · rw [length_slotsFrom]
        exact hRest
      · exact Nat.le_add_right _ _
      · exact hOrder

/- The slots of a bin have the size of the bin. -/
theorem size_slotsFrom
    {size count : Nat}
    {slot : AllocatedBuffer}
    (hMem : slot ∈ slotsFrom mgrId size count id memory) :
    slot.size = size ∧ 0 < count := by
  induction count generalizing id memory with
  | zero => exact absurd hMem List.not_mem_nil
  | succ count ih =>
      unfold slotsFrom at hMem
      rcases List.mem_cons.mp hMem with rfl | hRest
      · exact ⟨rfl, Nat.succ_pos _⟩
      · exact ⟨(ih hRest).1, Nat.succ_pos _⟩

theorem size_slotsOf
    {bins : List BufferBin}
    {slot : AllocatedBuffer}
    (hMem : slot ∈ slotsOf mgrId bins id memory) :
    ∃ bin ∈ bins,
      0 < bin.numBuffers.toNat ∧ slot.size = bin.bufferSize := by
  induction bins generalizing id memory with
  | nil => exact absurd hMem List.not_mem_nil
  | cons bin bins ih =>
      unfold slotsOf at hMem
      rcases List.mem_append.mp hMem with hHere | hRest
      · rcases size_slotsFrom hHere with ⟨hSize, hCount⟩
        exact ⟨bin, List.mem_cons_self, hCount, hSize⟩
      · rcases ih hRest with ⟨other, hOther, hFacts⟩
        exact ⟨other, List.mem_cons_of_mem _ hOther, hFacts⟩

/- The number of slots is that of all bins together. -/
def totalOf
    (bins : List BufferBin) : Nat :=
  (bins.map fun bin => bin.numBuffers.toNat).sum

theorem length_slotsOf
    (bins : List BufferBin) :
    (slotsOf mgrId bins id memory).length = totalOf bins := by
  induction bins generalizing id memory with
  | nil => rfl
  | cons bin bins ih =>
      unfold slotsOf
      rw [List.length_append, length_slotsFrom, ih]
      rfl

theorem countStructs_ok
    {bins : List BufferBin}
    {start count : Nat}
    (hStart : start ≤ 0xFFFF)
    (hCount : countStructs start bins = .ok count) :
    count = start + totalOf bins ∧ count ≤ 0xFFFF := by
  induction bins generalizing start with
  | nil =>
      cases hCount
      exact ⟨rfl, hStart⟩
  | cons bin bins ih =>
      unfold countStructs at hCount
      split at hCount
      case isFalse hNot => cases hCount
      case isTrue hFits =>
      rcases ih (by omega) hCount with ⟨hTotal, hBound⟩
      refine ⟨?_, hBound⟩
      rw [hTotal, Nat.add_assoc]
      rfl

/-
  A pool that has been set up is sound and free, if no bin
  that is used has buffers of size zero.
-/
theorem setup_sound
    {structSize : Nat}
    {bins : List BufferBin}
    {m : BufferManager}
    (hSetup : setup mgrId memory structSize bins = .ok m)
    (hSizes :
      ∀ bin ∈ bins,
        0 < bin.numBuffers.toNat → 0 < bin.bufferSize) :
    m.Sound ∧
      (∀ slot ∈ m.buffers, slot.allocated = false) ∧
      m.currBuffs = 0 ∧
      m.buffers.length = totalOf bins := by
  unfold setup at hSetup
  cases hCount : countStructs 0 bins with
  | error e =>
      rw [hCount] at hSetup
      cases hSetup
  | ok count =>
      rw [hCount] at hSetup
      change (if memory = 0 then _ else _) = _ at hSetup
      split at hSetup
      case isTrue hNull => cases hSetup
      case isFalse hMemory =>
      cases hSetup
      rcases countStructs_ok (Nat.zero_le _) hCount with
        ⟨hTotal, hBound⟩
      rw [Nat.zero_add] at hTotal
      have hSlots :
          ∃ stop,
            memory + structSize * count ≤ stop ∧
              Laid mgrId 0 (memory + structSize * count) stop
                (slotsOf mgrId bins 0
                  (memory + structSize * count)) :=
        laid_slotsOf bins
      rcases hSlots with ⟨stop, -, hLaid⟩
      refine ⟨?_, fun slot hMem => (hLaid.inside slot hMem).2.2,
        rfl, length_slotsOf bins⟩
      constructor
      case length_le =>
        rw [length_slotsOf, ← hTotal]
        exact hBound
      case buff =>
        intro k slot hSlot
        have hBuff := hLaid.buff k slot hSlot
        rwa [Nat.zero_add] at hBuff
      case memory =>
        intro slot hMem
        have hFrom := (hLaid.inside slot hMem).1
        rcases size_slotsOf hMem with
          ⟨bin, hBin, hUsed, hSize⟩
        have hPos := hSizes bin hBin hUsed
        exact ⟨by omega, by omega⟩
      case apart => exact hLaid.apart

end BufferManager

end LoRaRadio

------------------------------------------------------------
-- Runs of a Pool
------------------------------------------------------------

namespace LoRaRadio

open Faulting Runs BufferManager

/- A pool of free slots is balanced, with nothing held. -/
theorem Lending.balanced_start
    {m : BufferManager}
    (hSound : m.Sound)
    (hFree : ∀ slot ∈ m.buffers, slot.allocated = false)
    (hCount : m.currBuffs = 0) :
    Lending.Balanced { manager := m } := by
  constructor
  case sound => exact hSound
  case lent => exact fun _ hMem => absurd hMem List.not_mem_nil
  case slots => exact List.nodup_nil
  case taken =>
    intro id slot hSlot hTaken
    rw [hFree slot (List.mem_of_getElem? hSlot)] at hTaken
    cases hTaken
  case count => exact congrArg UInt32.toNat hCount

/- `ComCcsdsConfig.BuffMgr`, the bins of the deployment. -/
def commsBins : List BufferBin :=
  [{ bufferSize := 2048, numBuffers := 20 },
    { bufferSize := 3000, numBuffers := 30 }]

/- `commsBufferManager`, with its memory at some address. -/
def commsBufferManager : BufferManager where
  mgrId := 200
  buffers := slotsOf 200 commsBins 0 (0x1000 + 64 * 50)

theorem setup_comms :
    setup 200 0x1000 64 commsBins = .ok commsBufferManager :=
  rfl

theorem sound_comms :
    commsBufferManager.Sound ∧
      (∀ slot ∈ commsBufferManager.buffers,
        slot.allocated = false) ∧
      commsBufferManager.currBuffs = 0 := by
  have hSizes :
      ∀ bin ∈ commsBins,
        0 < bin.numBuffers.toNat → 0 < bin.bufferSize := by
    decide
  rcases setup_sound setup_comms hSizes with
    ⟨hSound, hFree, hCount, -⟩
  exact ⟨hSound, hFree, hCount⟩

/-
  Both exclusions are needed: a buffer at the end of its slot
  is not taken back, be it narrowed to nothing there or out
  of a slot without a size.
-/
theorem bufferSendIn_atEnd
    {m : BufferManager}
    (hLength : m.buffers.length ≤ 0xFFFF)
    {id : Nat}
    {slot : AllocatedBuffer}
    (hSlot : m.buffers[id]? = some slot)
    (hTaken : slot.allocated = true)
    {b : FwBuffer}
    (hContext :
      b.context = BufferManager.contextOf m.mgrId id)
    (hPointer : b.data ≠ 0)
    (hEnd : b.data = slot.memory + slot.size) :
    exec (bufferSendIn b) m =
      (.error
        (.assertion "fwBuffer.getData() < memory + size"), m) := by
  have hId : id < 0x10000 := by
    have hLt := (List.getElem?_eq_some_iff.mp hSlot).1
    omega
  have hNotNull : ¬ (b.data = 0 ∧ b.size = 0) :=
    fun hNull => hPointer hNull.1
  have hFrom : b.data ≥ slot.memory := by omega
  have hNot : ¬ b.data < slot.memory + slot.size := by omega
  unfold bufferSendIn fwAssert
  rw [if_neg hNotNull, exec_bind, exec_get]
  dsimp only
  rw [hContext, contextOf_and m.mgrId hId,
    contextOf_shiftRight m.mgrId hId, hSlot]
  simp only [exec_bind, exec_pure, if_true, hTaken, hFrom, hNot,
    if_false]
  rfl

end LoRaRadio
