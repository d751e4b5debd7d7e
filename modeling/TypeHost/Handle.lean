import TypeHost.Text.Hex

/-!
Handles, the only way in which an extension names an object of the host. The low half of the word
is a slot index plus one, the high half the generation of the slot, so the word zero names nothing.
Main statements: unpacking gives back what was packed, and packing gives back what was unpacked.
-/
namespace TypeHost

structure Handle where
  bits : UInt64
deriving DecidableEq, Hashable

namespace Handle

def null : Handle := ⟨0⟩

def isNull (h : Handle) : Bool := h.bits == 0

def pack (index generation : UInt32) : Handle :=
  ⟨UInt64.ofNat (generation.toNat * 0x100000000 + index.toNat + 1)⟩

/-- Slot index and generation; `none` if the low half is zero. -/
def unpack? (h : Handle) : Option (UInt32 × UInt32) :=
  if h.bits.toNat % 0x100000000 = 0 then none
  else some (UInt32.ofNat (h.bits.toNat % 0x100000000 - 1), UInt32.ofNat (h.bits.toNat / 0x100000000))

def text (h : Handle) : String := Text.hex h.bits.toNat

def describe (h : Handle) : String :=
  if h.isNull then "Handle(NULL)" else "Handle(" ++ h.text ++ ")"

/-- The last index is left out: its low half would be zero. -/
theorem unpack?_pack {index generation : UInt32} (h : index.toNat + 1 < 0x100000000) :
    (pack index generation).unpack? = some (index, generation) := by
  have hg := generation.toNat_lt
  have hbits : (pack index generation).bits.toNat
      = generation.toNat * 0x100000000 + index.toNat + 1 := by
    rw [pack, UInt64.toNat_ofNat']
    omega
  have hlow : (generation.toNat * 0x100000000 + index.toNat + 1) % 0x100000000
      = index.toNat + 1 := by omega
  have hhigh : (generation.toNat * 0x100000000 + index.toNat + 1) / 0x100000000
      = generation.toNat := by omega
  rw [unpack?, hbits, hlow, hhigh, if_neg (Nat.succ_ne_zero _), Nat.add_sub_cancel,
    UInt32.ofNat_toNat, UInt32.ofNat_toNat]

theorem pack_of_unpack? {h : Handle} {index generation : UInt32}
    (eq : h.unpack? = some (index, generation)) : pack index generation = h := by
  have hb := h.bits.toNat_lt
  unfold unpack? at eq
  split at eq
  · cases eq
  · rename_i low
    simp only [Option.some.injEq, Prod.mk.injEq] at eq
    obtain ⟨rfl, rfl⟩ := eq
    have hlow : (UInt32.ofNat (h.bits.toNat % 0x100000000 - 1)).toNat
        = h.bits.toNat % 0x100000000 - 1 := by
      rw [UInt32.toNat_ofNat']; omega
    have hhigh : (UInt32.ofNat (h.bits.toNat / 0x100000000)).toNat
        = h.bits.toNat / 0x100000000 := by
      rw [UInt32.toNat_ofNat']; omega
    have hsum : h.bits.toNat / 0x100000000 * 0x100000000 + (h.bits.toNat % 0x100000000 - 1) + 1
        = h.bits.toNat := by omega
    simp only [pack, hlow, hhigh, hsum, UInt64.ofNat_toNat]

end Handle
end TypeHost
