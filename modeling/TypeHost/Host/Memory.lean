import Std.Data.ExtTreeMap
import TypeHost.Handle

/-!
The native memory of an instance: a number of bytes, zero until written. Words are little-endian.
The first sixteen bytes are the header of the host, a count and the handle of the type.
-/
namespace TypeHost

structure Memory where
  size : Nat
  /-- The bytes written so far; all others are zero. -/
  cells : Std.ExtTreeMap Nat UInt8 := ∅

structure ObjectHead where
  refCount : Int64
  type : Handle
deriving DecidableEq

/-- Bytes of the header, and the alignment of all instance memory. -/
def headSize : Nat := 16

/-- The largest allocation: a multiple of the alignment below the half of the address space. -/
def largestAllocation : Nat := 0x7ffffffffffffff0

namespace Memory

def byte (m : Memory) (i : Nat) : UInt8 := m.cells.getD i 0

def read (m : Memory) (start : Nat) (length : Nat) : List UInt8 :=
  (List.range length).map fun i => m.byte (start + i)

def write (m : Memory) (start : Nat) : List UInt8 → Memory
  | [] => m
  | b :: rest => { m with cells := m.cells.insert start b }.write (start + 1) rest

/-- The bytes of a word, lowest first. -/
def wordBytes (word : UInt64) : List UInt8 :=
  (List.range 8).map fun i => UInt8.ofNat (word.toNat >>> (8 * i))

def bytesWord (bytes : List UInt8) : UInt64 :=
  UInt64.ofNat (bytes.foldr (fun b word => b.toNat + 256 * word) 0)

def head (m : Memory) : ObjectHead :=
  ⟨(bytesWord (m.read 0 8)).toInt64, ⟨bytesWord (m.read 8 8)⟩⟩

def writeRefCount (m : Memory) (count : UInt32) : Memory := m.write 0 (wordBytes count.toUInt64)

def writeType (m : Memory) (type : Handle) : Memory := m.write 8 (wordBytes type.bits)

end Memory
end TypeHost
