import Mathlib.Data.List.GetD

/-
  What the components of the communication stack pass to one
  another: buffers, frame contexts and statuses, and the
  memory the buffers point into.

  Main declarations:
    * `FwBuffer`
    * `FrameContext`
    * `readBytes` and `writeBytes`
    * `readBytes_writeBytes`
-/

------------------------------------------------------------
-- Buffers
------------------------------------------------------------

namespace LoRaRadio

/-
  `Fw::Buffer`.  A pointer is an address, and the null
  pointer is address zero.
-/
structure FwBuffer where
  data : Nat := 0
  size : Nat := 0
  context : UInt32 := 0xFFFFFFFF
deriving DecidableEq, Repr

namespace FwBuffer

def isValid
    (b : FwBuffer) : Bool :=
  b.data != 0 && b.size > 0

def setSize
    (size : Nat)
    (b : FwBuffer) : FwBuffer :=
  { b with size := size }

end FwBuffer

abbrev Memory :=
  Nat → UInt8

/- The `size` bytes at an address. -/
def readBytes
    (memory : Memory)
    (address size : Nat) : List UInt8 :=
  (List.range size).map fun i => memory (address + i)

/- `memcpy` -/
def writeBytes
    (memory : Memory)
    (address : Nat)
    (bytes : List UInt8) : Memory :=
  fun a =>
    if address ≤ a then
      bytes.getD (a - address) (memory a)
    else
      memory a

@[simp] theorem length_readBytes
    (memory : Memory)
    (address size : Nat) :
    (readBytes memory address size).length = size := by
  simp [readBytes]

/- Copied bytes read back. -/
theorem readBytes_writeBytes
    (memory : Memory)
    (address : Nat)
    (bytes : List UInt8) :
    readBytes (writeBytes memory address bytes) address
        bytes.length = bytes := by
  apply List.ext_getElem
  · simp
  · intro i _ hIndex
    simp [readBytes, writeBytes, hIndex]

/- Nothing else is written. -/
theorem writeBytes_ne
    {memory : Memory}
    {address a : Nat}
    {bytes : List UInt8}
    (hChanged :
      writeBytes memory address bytes a ≠ memory a) :
    address ≤ a ∧ a < address + bytes.length := by
  by_cases hFrom : address ≤ a
  · refine ⟨hFrom, Nat.lt_of_not_le fun hBeyond => ?_⟩
    apply hChanged
    unfold writeBytes
    rw [if_pos hFrom]
    exact List.getD_eq_default _ _ (by omega)
  · exact absurd (if_neg hFrom) hChanged

end LoRaRadio

------------------------------------------------------------
-- Contexts and Statuses
------------------------------------------------------------

namespace LoRaRadio

inductive Apid
  | fwPacketCommand
  | fwPacketTelem
  | fwPacketLog
  | fwPacketFile
  | fwPacketPacketizedTlm
  | fwPacketDp
  | fwPacketIdle
  | fwPacketHand
  | fwPacketUnknown
  | sppIdlePacket
  | invalidUninitialized
deriving DecidableEq, Repr

/- `ComCfg::FrameContext` -/
structure FrameContext where
  comQueueIndex : Nat := 0
  apid : Apid := .fwPacketUnknown
  sequenceCount : UInt16 := 0
  vcId : UInt8 := 1
deriving DecidableEq, Repr

/- `Fw::Success` -/
inductive Success
  | failure
  | success
deriving DecidableEq, Repr

end LoRaRadio
