import LoRaRadio.Library.CircularMemory
import LoRaRadio.Radio.Hal

/-
  `Types::CircularBuffer`: bytes that wait in a ring.

  A buffer holds a queue of bytes, at most as many as its
  store has cells.  Writing appends to the queue, reading
  leaves it alone, and rotating drops from its front.

  Main declarations:
    * `CircularBuffer`
    * `CircularBuffer.contents`
    * `CircularBuffer.serialize_ok`
    * `CircularBuffer.peek_eq`
    * `CircularBuffer.rotate_ok`
-/

------------------------------------------------------------
-- The Ring
------------------------------------------------------------

namespace LoRaRadio

/- `Fw::SerializeStatus`, as far as the ring returns it. -/
inductive SerializeStatus
  | ok
  | noRoomLeft
  | bufferEmpty
deriving DecidableEq, Repr

/-
  A ring that has been set up with a store of `n` bytes.
  The store never holds more than it has room for.
-/
structure CircularBuffer (n : Nat) where
  store : CircularMemory n UInt8
  headIdx : Fin n
  allocatedSize : Nat
  highWaterMark : Nat
  allocated_le : allocatedSize ≤ n

namespace CircularBuffer

variable {n : Nat} [NeZero n]

/- `setup`, on a store of any content -/
def setup
    (store : CircularMemory n UInt8) : CircularBuffer n where
  store := store
  headIdx := 0
  allocatedSize := 0
  highWaterMark := 0
  allocated_le := Nat.zero_le n

variable (b : CircularBuffer n)

def getFreeSize : Nat :=
  n - b.allocatedSize

/- `advance_idx` -/
def advanceIdx
    (idx : Fin n)
    (amount : Nat) : Fin n :=
  Fin.ofNat n (idx.val + amount)

/- The loop of `serialize`. -/
def storeFrom
    (store : CircularMemory n UInt8) :
    Fin n → List UInt8 → CircularMemory n UInt8
| _, [] => store
| idx, byte :: bytes =>
    storeFrom (Function.update store idx byte)
      (advanceIdx idx 1) bytes

def serialize
    (bytes : List UInt8) :
    SerializeStatus × CircularBuffer n :=
  if hRoom : bytes.length ≤ b.getFreeSize then
    let size := b.allocatedSize + bytes.length
    (.ok,
      { store :=
          storeFrom b.store
            (advanceIdx b.headIdx b.allocatedSize) bytes
        headIdx := b.headIdx
        allocatedSize := size
        highWaterMark := max b.highWaterMark size
        allocated_le := by
          have hFits := b.allocated_le
          unfold getFreeSize at hRoom
          omega })
  else
    (.noRoomLeft, b)

/- The loop of `peek`. -/
def readFrom
    (store : CircularMemory n UInt8) :
    Fin n → Nat → List UInt8
| _, 0 => []
| idx, size + 1 =>
    store idx :: readFrom store (advanceIdx idx 1) size

/- `peek` of `size` bytes from an offset on -/
def peek
    (size offset : Nat) : SerializeStatus × List UInt8 :=
  if size + offset > b.allocatedSize then
    (.bufferEmpty, [])
  else
    (.ok, readFrom b.store (advanceIdx b.headIdx offset) size)

def rotate
    (amount : Nat) : SerializeStatus × CircularBuffer n :=
  if hHeld : amount ≤ b.allocatedSize then
    (.ok,
      { b with
        headIdx := advanceIdx b.headIdx amount
        allocatedSize := b.allocatedSize - amount
        allocated_le := by
          have hFits := b.allocated_le
          omega })
  else
    (.bufferEmpty, b)

/- The bytes that wait, first come first. -/
def contents : List UInt8 :=
  CircularMemory.read b.store b.headIdx b.allocatedSize

@[simp] theorem length_contents :
    b.contents.length = b.allocatedSize :=
  CircularMemory.length_read _ _ _

@[simp] theorem contents_setup
    (store : CircularMemory n UInt8) :
    (setup store).contents = [] := rfl

end CircularBuffer

end LoRaRadio

------------------------------------------------------------
-- The Queue It Implements
------------------------------------------------------------

namespace LoRaRadio

namespace CircularBuffer

open CircularMemory

variable {n : Nat} [NeZero n]

@[simp] theorem advanceIdx_eq
    (idx : Fin n)
    (amount : Nat) :
    advanceIdx idx amount = cell idx amount := by
  apply Fin.ext
  unfold advanceIdx cell
  simp [Fin.ofNat, Fin.val_add]

theorem readFrom_eq
    (store : CircularMemory n UInt8)
    (idx : Fin n)
    (size : Nat) :
    readFrom store idx size =
      CircularMemory.read store idx size := by
  induction size generalizing idx with
  | zero => rfl
  | succ size ih =>
      unfold readFrom
      rw [ih]
      unfold CircularMemory.read
      rw [List.range_succ_eq_map, List.map_cons, List.map_map,
        advanceIdx_eq]
      congr 1
      · unfold cell
        simp [Fin.ofNat]
      · apply List.map_congr_left
        intro i _
        change store (cell (cell idx 1) i) =
          store (cell idx (i + 1))
        rw [cell_cell, Nat.add_comm]

/- The cells the loop of `serialize` does not reach. -/
theorem storeFrom_of_ge
    {store : CircularMemory n UInt8}
    {idx : Fin n}
    {bytes : List UInt8}
    {i : Nat}
    (hBound : i < n)
    (hPast : bytes.length ≤ i) :
    storeFrom store idx bytes (cell idx i) =
      store (cell idx i) := by
  induction bytes generalizing store idx i with
  | nil => rfl
  | cons byte bytes ih =>
      rw [List.length_cons] at hPast
      have hCell : cell idx i = cell (cell idx 1) (i - 1) := by
        rw [cell_cell]
        congr 1
        omega
      unfold storeFrom
      rw [advanceIdx_eq, hCell, ih (by omega) (by omega)]
      apply Function.update_of_ne
      rw [← hCell]
      intro hFirst
      have hZero : idx = cell idx 0 := by
        unfold cell
        simp [Fin.ofNat]
      rw [hZero, cell_cell, Nat.zero_add] at hFirst
      exact absurd (cell_inj hBound (by omega) hFirst)
        (by omega)

/- The cells it writes. -/
theorem storeFrom_of_lt
    {store : CircularMemory n UInt8}
    {idx : Fin n}
    {bytes : List UInt8}
    {i : Nat}
    (hFits : bytes.length ≤ n)
    (hWritten : i < bytes.length) :
    storeFrom store idx bytes (cell idx i) = bytes[i] := by
  induction bytes generalizing store idx i with
  | nil => exact absurd hWritten (Nat.not_lt_zero i)
  | cons byte bytes ih =>
      rw [List.length_cons] at hFits hWritten
      unfold storeFrom
      rw [advanceIdx_eq]
      cases i with
      | zero =>
          have hCell : cell idx 0 = cell (cell idx 1) (n - 1) := by
            rw [cell_cell, show 1 + (n - 1) = 0 + n by omega,
              cell_add_n]
          have hZero : cell idx 0 = idx := by
            unfold cell
            simp [Fin.ofNat]
          rw [hCell, storeFrom_of_ge (by omega) (by omega),
            ← hCell, hZero]
          exact Function.update_self _ _ _
      | succ i =>
          have hCell : cell idx (i + 1) = cell (cell idx 1) i := by
            rw [cell_cell, Nat.add_comm]
          rw [hCell, ih (by omega) (by omega)]
          rfl

theorem storeFrom_eq_write
    {store : CircularMemory n UInt8}
    {idx : Fin n}
    {bytes : List UInt8}
    (hFits : bytes.length ≤ n) :
    storeFrom store idx bytes = write store idx bytes := by
  funext a
  have hCell : cell idx (a - idx).val = a := by
    unfold cell
    rw [Fin.ofNat_val_eq_self]
    exact add_sub_cancel idx a
  have hBound : (a - idx).val < n := (a - idx).isLt
  rw [← hCell]
  by_cases hWritten : (a - idx).val < bytes.length
  · rw [storeFrom_of_lt hFits hWritten,
      write_cell_of_lt store idx bytes hBound hWritten]
  · rw [storeFrom_of_ge hBound (by omega),
      write_cell_of_ge store idx bytes hBound (by omega)]

variable {b b' : CircularBuffer n}

/- What a ring with room is given waits behind the rest. -/
theorem serialize_ok
    {bytes : List UInt8}
    (hRun : b.serialize bytes = (.ok, b')) :
    bytes.length ≤ b.getFreeSize ∧
      b'.contents = b.contents ++ bytes := by
  unfold serialize at hRun
  split at hRun
  case isFalse =>
    cases hRun
  case isTrue hRoom =>
  cases hRun
  have hFits := b.allocated_le
  refine ⟨hRoom, ?_⟩
  unfold getFreeSize at hRoom
  unfold contents
  dsimp only
  rw [advanceIdx_eq, storeFrom_eq_write (by omega)]
  exact read_write_behind _ _ _ (by omega)

/- A ring has room for as much as is free. -/
theorem serialize_of_room
    {bytes : List UInt8}
    (hRoom : bytes.length ≤ b.getFreeSize) :
    ∃ b', b.serialize bytes = (.ok, b') := by
  unfold serialize
  rw [dif_pos hRoom]
  exact ⟨_, rfl⟩

/- What is read is what waits from an offset on. -/
theorem peek_eq
    {size offset : Nat}
    (hHeld : size + offset ≤ b.allocatedSize) :
    b.peek size offset =
      (.ok, (b.contents.drop offset).take size) := by
  unfold peek contents
  rw [if_neg (by omega), readFrom_eq, advanceIdx_eq,
    drop_read _ _ (by omega), take_read _ _ (by omega)]

/- What is dropped waited in front. -/
theorem rotate_ok
    {amount : Nat}
    (hRun : b.rotate amount = (.ok, b')) :
    amount ≤ b.allocatedSize ∧
      b'.contents = b.contents.drop amount := by
  unfold rotate at hRun
  split at hRun
  case isFalse =>
    cases hRun
  case isTrue hHeld =>
  cases hRun
  refine ⟨hHeld, ?_⟩
  unfold contents
  dsimp only
  rw [advanceIdx_eq, drop_read _ _ hHeld]

theorem rotate_of_held
    {amount : Nat}
    (hHeld : amount ≤ b.allocatedSize) :
    ∃ b', b.rotate amount = (.ok, b') := by
  unfold rotate
  rw [dif_pos hHeld]
  exact ⟨_, rfl⟩

end CircularBuffer

end LoRaRadio
