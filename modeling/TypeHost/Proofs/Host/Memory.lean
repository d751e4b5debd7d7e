import TypeHost.Host.Memory

/-! The bytes of an instance after a write. What was written is read back, all else is as it was,
and so a word, written byte by byte, comes back whole. -/
namespace TypeHost

attribute [ext] Memory

namespace Memory

variable {m : Memory} {bytes : List UInt8} {start length i : Nat}

@[simp] theorem size_write (m : Memory) (start : Nat) (bytes : List UInt8) :
    (m.write start bytes).size = m.size := by
  induction bytes generalizing m start with
  | nil => rfl
  | cons b rest ih => exact ih _ _

theorem cells_write (m : Memory) (start : Nat) (bytes : List UInt8) (i : Nat) :
    (m.write start bytes).cells[i]? =
      if start ≤ i ∧ i < start + bytes.length then bytes[i - start]? else m.cells[i]? := by
  induction bytes generalizing m start with
  | nil =>
      rw [write, if_neg]
      rw [List.length_nil]
      omega
  | cons b rest ih =>
      rw [write, ih, List.length_cons]
      by_cases first : i = start
      · subst first
        rw [if_neg (by omega), if_pos (by omega), Nat.sub_self]
        simp
      · have kept : (m.cells.insert start b)[i]? = m.cells[i]? := by
          have apart : start ≠ i := Ne.symm first
          simp [Std.ExtTreeMap.getElem?_insert, apart]
        rw [kept]
        by_cases within : start + 1 ≤ i ∧ i < start + 1 + rest.length
        · have next : i - start = i - (start + 1) + 1 := by omega
          rw [if_pos within, if_pos (by omega), next, List.getElem?_cons_succ]
        · rw [if_neg within, if_neg (by omega)]

theorem byte_write (m : Memory) (start : Nat) (bytes : List UInt8) (i : Nat) :
    (m.write start bytes).byte i =
      if start ≤ i ∧ i < start + bytes.length then bytes.getD (i - start) 0 else m.byte i := by
  simp only [byte, Std.ExtTreeMap.getD_eq_getD_getElem?, cells_write]
  split
  · rw [List.getD_eq_getElem?_getD]
  · rfl

theorem write_write {other : List UInt8} (same : other.length = bytes.length) :
    (m.write start other).write start bytes = m.write start bytes := by
  ext i
  · simp only [size_write]
  · rw [cells_write, cells_write, cells_write, same]
    split <;> rfl

theorem byte_write_of_apart (apart : i < start ∨ start + bytes.length ≤ i) :
    (m.write start bytes).byte i = m.byte i := by
  rw [byte_write, if_neg]
  omega

theorem read_write_self (m : Memory) (start : Nat) (bytes : List UInt8) :
    (m.write start bytes).read start bytes.length = bytes := by
  apply List.ext_getElem
  · rw [read, List.length_map, List.length_range]
  · intro i _ bound
    simp only [read, List.getElem_map, List.getElem_range]
    rw [byte_write, if_pos (by omega), Nat.add_sub_cancel_left, List.getD_eq_getElem?_getD,
      List.getElem?_eq_getElem bound, Option.getD_some]

theorem read_write_of_apart {other : Nat} (apart : other + length ≤ start ∨ start + bytes.length ≤ other) :
    (m.write start bytes).read other length = m.read other length := by
  apply List.map_congr_left
  intro i mem
  have bound := List.mem_range.1 mem
  exact byte_write_of_apart (by omega)

theorem foldr_bytes (n w : Nat) :
    ((List.range n).map fun i => UInt8.ofNat (w >>> (8 * i))).foldr
      (fun b word => b.toNat + 256 * word) 0 = w % Nat.pow 256 n := by
  induction n generalizing w with
  | zero => exact (Nat.mod_one w).symm
  | succ n ih =>
      have later (i : Nat) : w >>> (8 * (i + 1)) = (w / 256) >>> (8 * i) := by
        rw [Nat.mul_succ, Nat.add_comm, Nat.shiftRight_add, Nat.shiftRight_eq_div_pow w 8]
      have first : (UInt8.ofNat (w >>> (8 * 0))).toNat = w % 256 := by
        rw [Nat.mul_zero, Nat.shiftRight_zero, UInt8.toNat_ofNat']
      rw [List.range_succ_eq_map, List.map_cons, List.map_map, List.foldr_cons, first]
      simp only [Function.comp_def, later]
      have power : Nat.pow 256 (n + 1) = 256 * Nat.pow 256 n := Nat.mul_comm _ _
      rw [ih, power, Nat.mod_mul]

theorem bytesWord_wordBytes (word : UInt64) : bytesWord (wordBytes word) = word := by
  have bound : word.toNat < Nat.pow 256 8 := word.toNat_lt
  rw [bytesWord, wordBytes, foldr_bytes, Nat.mod_eq_of_lt bound, UInt64.ofNat_toNat]

theorem length_wordBytes (word : UInt64) : (wordBytes word).length = 8 := by
  rw [wordBytes, List.length_map, List.length_range]

@[simp] theorem writeRefCount_writeRefCount (m : Memory) (first second : UInt32) :
    (m.writeRefCount first).writeRefCount second = m.writeRefCount second := by
  apply write_write
  rw [length_wordBytes, length_wordBytes]

theorem head_writeRefCount (m : Memory) (count : UInt32) :
    (m.writeRefCount count).head = ⟨count.toUInt64.toInt64, m.head.type⟩ := by
  have stored := m.read_write_self 0 (wordBytes count.toUInt64)
  rw [length_wordBytes] at stored
  rw [head, head, writeRefCount, stored, bytesWord_wordBytes,
    read_write_of_apart (by rw [length_wordBytes]; omega)]

theorem head_writeType (m : Memory) (type : Handle) :
    (m.writeType type).head = ⟨m.head.refCount, type⟩ := by
  have stored := m.read_write_self 8 (wordBytes type.bits)
  rw [length_wordBytes] at stored
  rw [head, head, writeType, stored, bytesWord_wordBytes, read_write_of_apart (by omega)]

theorem head_write_of_spared (spared : headSize ≤ start ∨ bytes = []) :
    (m.write start bytes).head = m.head := by
  rcases spared with behind | rfl
  · rw [headSize] at behind
    rw [head, head, read_write_of_apart (by omega), read_write_of_apart (by omega)]
  · rfl

end Memory

theorem toInt_headCount (count : UInt32) : count.toUInt64.toInt64.toInt = count.toNat := by
  have bound := count.toNat_lt
  have small : 2 * count.toUInt64.toBitVec.toNat < 2 ^ 64 := by
    rw [UInt64.toNat_toBitVec, UInt32.toNat_toUInt64]
    omega
  rw [Int64.toInt, UInt64.toBitVec_toInt64, BitVec.toInt_eq_toNat_of_lt small,
    UInt64.toNat_toBitVec, UInt32.toNat_toUInt64]

end TypeHost
