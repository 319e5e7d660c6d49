import Mathlib

/-
  A memory of `n` cells addressed modulo `n`.

  A write replaces consecutive cells from its start address
  on, wrapping past the last cell, and leaves the others as
  they were; a read returns consecutive cells.

  Main declarations:
    * `CircularMemory.write` and `CircularMemory.read`
    * `CircularMemory.read_write`
    * `CircularMemory.read_write_eq_iff`
    * `CircularMemory.read_write_behind`
-/

------------------------------------------------------------
-- Cells
------------------------------------------------------------

namespace LoRaRadio

/- A memory of `n` cells holding values of type `β`. -/
abbrev CircularMemory (n : Nat) (β : Type) :=
  Fin n → β

namespace CircularMemory

variable {n : Nat} [NeZero n]
variable {β : Type}

/- The cell `i` places after `start`. -/
def cell
    (start : Fin n)
    (i : Nat) : Fin n :=
  start + Fin.ofNat n i

/- Overwrite the cells from `start` on with `xs`. -/
def write
    (memory : CircularMemory n β)
    (start : Fin n)
    (xs : List β) :
    CircularMemory n β :=
  fun a =>
    match xs[(a - start).val]? with
    | some x => x
    | none => memory a

/- The `k` cells from `start` on. -/
def read
    (memory : CircularMemory n β)
    (start : Fin n)
    (k : Nat) : List β :=
  (List.range k).map fun i => memory (cell start i)

@[simp] theorem length_read
    (memory : CircularMemory n β)
    (start : Fin n)
    (k : Nat) :
    (read memory start k).length = k := by
  simp [read]

theorem getElem_read
    (memory : CircularMemory n β)
    (start : Fin n)
    (k i : Nat)
    (hIndex : i < (read memory start k).length) :
    (read memory start k)[i] =
      memory (cell start i) := by
  simp [read]

theorem cell_sub_start
    (start : Fin n)
    {i : Nat}
    (hBound : i < n) :
    (cell start i - start).val = i := by
  have hCell : cell start i - start = Fin.ofNat n i := by
    unfold cell
    exact add_sub_cancel_left start _
  rw [hCell]
  simp [Fin.ofNat, Nat.mod_eq_of_lt hBound]

/- A written cell holds the value written to it. -/
theorem write_cell_of_lt
    (memory : CircularMemory n β)
    (start : Fin n)
    (xs : List β)
    {i : Nat}
    (hBound : i < n)
    (hLength : i < xs.length) :
    write memory start xs (cell start i) = xs[i] := by
  simp [write, cell_sub_start start hBound, hLength]

/- A cell past the written ones keeps its value. -/
theorem write_cell_of_ge
    (memory : CircularMemory n β)
    (start : Fin n)
    (xs : List β)
    {i : Nat}
    (hBound : i < n)
    (hLength : xs.length ≤ i) :
    write memory start xs (cell start i) =
      memory (cell start i) := by
  simp [write, cell_sub_start start hBound, hLength]

end CircularMemory

end LoRaRadio

------------------------------------------------------------
-- Reading Back What Was Written
------------------------------------------------------------

namespace LoRaRadio

namespace CircularMemory

variable {n : Nat} [NeZero n]
variable {β : Type}

/-
  A read at the address of the last write returns the
  written values, cut or continued with older cells to the
  length asked for.
-/
theorem read_write
    (memory : CircularMemory n β)
    (start : Fin n)
    (xs : List β)
    {k : Nat}
    (hCount : k ≤ n) :
    read (write memory start xs) start k =
      xs.take k ++ (read memory start k).drop xs.length := by
  apply List.ext_getElem
  · simp only [length_read, List.length_append,
      List.length_take, List.length_drop]
    omega
  · intro i hLeft _
    have hIndex : i < k := by
      simpa using hLeft
    rw [getElem_read]
    by_cases hWritten : i < xs.length
    · rw [write_cell_of_lt memory start xs
        (by omega) hWritten]
      rw [List.getElem_append_left
        (by simp only [List.length_take]; omega)]
      simp
    · rw [write_cell_of_ge memory start xs
        (by omega) (by omega)]
      rw [List.getElem_append_right
        (by simp only [List.length_take]; omega)]
      simp only [List.length_take, List.getElem_drop,
        getElem_read]
      congr 1
      congr 1
      omega

/- Reading exactly what was written. -/
theorem read_write_self
    (memory : CircularMemory n β)
    (start : Fin n)
    (xs : List β)
    (hLength : xs.length ≤ n) :
    read (write memory start xs) start xs.length = xs := by
  rw [read_write memory start xs hLength]
  simp

/-
  A read at the address of the last write returns exactly
  the written values just when it asks for their number.
-/
theorem read_write_eq_iff
    (memory : CircularMemory n β)
    (start : Fin n)
    (xs : List β)
    (k : Nat)
    (hLength : xs.length ≤ n) :
    read (write memory start xs) start k = xs ↔
      xs.length = k := by
  constructor
  · intro hRead
    have hSize := congrArg List.length hRead
    simpa using hSize.symm
  · intro hSize
    subst hSize
    exact read_write_self memory start xs hLength

end CircularMemory

end LoRaRadio

------------------------------------------------------------
-- Parts of What Is Read
------------------------------------------------------------

namespace LoRaRadio

namespace CircularMemory

variable {n : Nat} [NeZero n]
variable {β : Type}

theorem cell_cell
    (idx : Fin n)
    (i j : Nat) :
    cell (cell idx i) j = cell idx (i + j) := by
  apply Fin.ext
  unfold cell
  simp [Fin.ofNat, Fin.val_add, Nat.add_assoc]

theorem cell_add_n
    (idx : Fin n)
    (i : Nat) :
    cell idx (i + n) = cell idx i := by
  apply Fin.ext
  unfold cell
  simp [Fin.ofNat, Fin.val_add]

/- Within a turn, different places are different cells. -/
theorem cell_inj
    {idx : Fin n}
    {i j : Nat}
    (hI : i < n)
    (hJ : j < n)
    (hEq : cell idx i = cell idx j) :
    i = j := by
  rw [← cell_sub_start idx hI, ← cell_sub_start idx hJ, hEq]

/- A read goes on where its first part ends. -/
theorem read_add
    (memory : CircularMemory n β)
    (start : Fin n)
    (i j : Nat) :
    read memory start (i + j) =
      read memory start i ++ read memory (cell start i) j := by
  unfold read
  rw [List.range_add, List.map_append, List.map_map]
  congr 1
  apply List.map_congr_left
  intro k _
  change memory (cell start (i + k)) =
    memory (cell (cell start i) k)
  rw [cell_cell]

theorem drop_read
    (memory : CircularMemory n β)
    (start : Fin n)
    {i k : Nat}
    (hWithin : i ≤ k) :
    (read memory start k).drop i =
      read memory (cell start i) (k - i) := by
  have hSplit := read_add memory start i (k - i)
  rw [Nat.add_sub_cancel' hWithin] at hSplit
  rw [hSplit]
  exact List.drop_left' (length_read _ _ _)

theorem take_read
    (memory : CircularMemory n β)
    (start : Fin n)
    {i k : Nat}
    (hWithin : i ≤ k) :
    (read memory start k).take i = read memory start i := by
  have hSplit := read_add memory start i (k - i)
  rw [Nat.add_sub_cancel' hWithin] at hSplit
  rw [hSplit]
  exact List.take_left' (length_read _ _ _)

/- Values written behind others are read behind them. -/
theorem read_write_behind
    (memory : CircularMemory n β)
    (start : Fin n)
    {k : Nat}
    (xs : List β)
    (hRoom : k + xs.length ≤ n) :
    read (write memory (cell start k) xs) start
        (k + xs.length) =
      read memory start k ++ xs := by
  rw [read_add,
    read_write_self memory (cell start k) xs (by omega)]
  congr 1
  unfold read
  apply List.map_congr_left
  intro i hMem
  have hBefore := List.mem_range.mp hMem
  have hCell : cell start i = cell (cell start k) (n - k + i) := by
    rw [cell_cell, ← cell_add_n start i]
    congr 1
    omega
  rw [hCell, write_cell_of_ge _ _ _ (by omega) (by omega)]

end CircularMemory

end LoRaRadio
