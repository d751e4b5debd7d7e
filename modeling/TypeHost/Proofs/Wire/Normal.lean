import TypeHost.Proofs.Checks
import TypeHost.Proofs.Wire.RoundTrip

/-! Reading a spec and writing it again. Reading forgets which number stood for true and whether an
array without records was null, and nothing else, so what is written is the wire form that was read
with just that made uniform. -/
namespace TypeHost

def RawDefinition.normal : RawDefinition → RawDefinition
  | .member name kind offset readonly doc =>
    .member name kind offset (flagCode (readonly ≠ 0)) doc
  | raw => raw

/-- The spec with its truth values written as 0 or 1, and with an array even if it has no records. -/
def RawSpec.normal (raw : RawSpec) : RawSpec :=
  { raw with
    legacy := flagCode raw.isLegacy
    defines := some ((raw.defines.getD []).map RawDefinition.normal) }

variable {raw : RawSpec} {spec : TypeSpec} {field : TextField}

/-- Bytes that are read as a text are the only ones that are written for it. -/
theorem CString.ofText?_of_text? {s : CString} {text : String} (read : s.text? = some text) :
    ofText? text = some s := by
  rcases s with ⟨bytes, clean⟩
  cases CString.bytes_of_text? read
  exact dif_pos clean

theorem readText_eq_some {s : Option CString} {text : String}
    (read : readText field s = .ok (some text)) :
    ∃ c, s = some c ∧ c.text? = some text ∧ writeText field text = .ok c := by
  cases s with
  | none => cases read
  | some c =>
      rw [readText] at read
      split at read
      · rename_i found
        cases read
        exact ⟨c, rfl, found, by rw [writeText, CString.ofText?_of_text? found]⟩
      · cases read

theorem writeText?_of_readText {s : Option CString} {text : Option String}
    (read : readText field s = .ok text) : writeText? field text = .ok s := by
  cases text with
  | none =>
      cases s with
      | none => rfl
      | some c =>
          rw [readText] at read
          split at read <;> cases read
  | some text =>
      obtain ⟨c, rfl, -, written⟩ := readText_eq_some read
      rw [writeText?, written]
      rfl

theorem require_eq_ok {α : Type} {index : Nat} {fault : DefinitionFault} {value : Option α}
    {a : α} : RawDefinition.require index fault value = .ok a ↔ value = some a := by
  cases value <;> simp [RawDefinition.require]

theorem RawDefinition.encode_of_decode {raw : RawDefinition} {index : Nat} {d : Definition}
    (accepted : raw.decode index = .ok d) : d.encode = .ok raw.normal := by
  cases raw with
  | slot code func =>
      obtain ⟨id, listed, accepted⟩ := bind_eq_ok.1 accepted
      obtain ⟨entry, present, done⟩ := bind_eq_ok.1 accepted
      cases done
      rw [Definition.encode, code_of_ofCode? (require_eq_ok.1 listed), ← require_eq_ok.1 present]
      rfl
  | method name func signature doc =>
      obtain ⟨text, read, accepted⟩ := bind_eq_ok.1 accepted
      obtain ⟨name', named, accepted⟩ := bind_eq_ok.1 accepted
      obtain ⟨entry, present, accepted⟩ := bind_eq_ok.1 accepted
      obtain ⟨shape, listed, accepted⟩ := bind_eq_ok.1 accepted
      obtain ⟨doc', described, done⟩ := bind_eq_ok.1 accepted
      cases done
      cases require_eq_ok.1 named
      obtain ⟨c, rfl, -, written⟩ := readText_eq_some read
      simp only [Definition.encode, written, writeText?_of_readText described,
        code_of_ofCode? (require_eq_ok.1 listed), ← require_eq_ok.1 present]
      rfl
  | member name kind offset readonly doc =>
      obtain ⟨text, read, accepted⟩ := bind_eq_ok.1 accepted
      obtain ⟨name', named, accepted⟩ := bind_eq_ok.1 accepted
      obtain ⟨shape, listed, accepted⟩ := bind_eq_ok.1 accepted
      obtain ⟨doc', described, done⟩ := bind_eq_ok.1 accepted
      cases done
      cases require_eq_ok.1 named
      obtain ⟨c, rfl, -, written⟩ := readText_eq_some read
      simp only [Definition.encode, written, writeText?_of_readText described,
        code_of_ofCode? (require_eq_ok.1 listed)]
      rfl
  | getSet name getter setter doc =>
      obtain ⟨text, read, accepted⟩ := bind_eq_ok.1 accepted
      obtain ⟨name', named, accepted⟩ := bind_eq_ok.1 accepted
      obtain ⟨doc', described, done⟩ := bind_eq_ok.1 accepted
      cases done
      cases require_eq_ok.1 named
      obtain ⟨c, rfl, -, written⟩ := readText_eq_some read
      simp only [Definition.encode, written, writeText?_of_readText described]
      rfl
  | unlisted kind kind_unlisted slot func => cases accepted

@[simp] theorem RawDefinition.kind_normal (raw : RawDefinition) : raw.normal.kind = raw.kind := by
  cases raw <;> rfl

theorem RawDefinition.kind_of_decode {raw : RawDefinition} {index : Nat} {d : Definition}
    (accepted : raw.decode index = .ok d) : ofCode? raw.kind = some d.kind := by
  have number := Definition.kind_of_encode (encode_of_decode accepted)
  rw [kind_normal] at number
  rw [number, ofCode?_code]

theorem RawDefinition.encode_of_decodeFrom {raws : List RawDefinition} {index : Nat}
    {ds : List Definition} (accepted : decodeFrom index raws = .ok ds) :
    ds.mapM Definition.encode = .ok (raws.map normal) := by
  induction raws generalizing index ds with
  | nil =>
      cases accepted
      rfl
  | cons raw rest ih =>
      obtain ⟨d, first, passed⟩ := bind_eq_ok.1 accepted
      obtain ⟨others, later, done⟩ := bind_eq_ok.1 passed
      cases done
      rw [List.mapM_cons, encode_of_decode first, ih later]
      rfl

theorem address_ofAddress? (address : UInt64) :
    (SlotTable.ofAddress? address).elim 0 (·.address) = address := by
  unfold SlotTable.ofAddress?
  split
  · rfl
  · rename_i null
    exact (not_not.1 null).symm

theorem isSome_ofAddress? (address : UInt64) :
    (SlotTable.ofAddress? address).isSome = decide (address ≠ 0) := by
  unfold SlotTable.ofAddress?
  split <;> simp_all

structure RawSpec.Read (raw : RawSpec) (spec : TypeSpec) : Prop where
  valid : raw.validate = .ok ()
  name : ∃ name, raw.name = some name ∧ name.text? = some spec.name ∧
    writeText .name spec.name = .ok name
  doc : writeText? .doc spec.doc = .ok raw.doc
  defines : raw.decodeDefines = .ok spec.defines
  basicsize : spec.basicsize = raw.basicsize
  itemsize : spec.itemsize = raw.itemsize
  flags : spec.flags = raw.flags
  legacy : spec.legacy = raw.isLegacy
  legacySlots : spec.legacySlots = SlotTable.ofAddress? raw.legacySlots

theorem RawSpec.read_of_decode (accepted : raw.decode = .ok spec) : raw.Read spec := by
  obtain ⟨⟨⟩, valid, passed⟩ := bind_eq_ok.1 accepted
  obtain ⟨text, named, passed'⟩ := bind_eq_ok.1 passed
  cases text with
  | none => cases passed'
  | some text =>
      obtain ⟨defines, decoded, passed''⟩ := bind_eq_ok.1 passed'
      obtain ⟨doc, described, done⟩ := bind_eq_ok.1 passed''
      cases done
      exact ⟨valid, readText_eq_some named, writeText?_of_readText described, decoded,
        rfl, rfl, rfl, rfl, rfl⟩

/-- The checks of the wire are those of the spec. -/
theorem RawSpec.Read.validate (read : raw.Read spec) : spec.validate = .ok () := by
  obtain ⟨name, present, text, -⟩ := read.name
  have same : spec.validate = raw.validate := by
    simp only [TypeSpec.validate, RawSpec.validate, present, Option.all_some,
      CString.isEmpty_iff_of_text? text, read.basicsize, read.itemsize, read.legacy,
      read.legacySlots, isSome_ofAddress?]
  exact same.trans read.valid

theorem RawSpec.Read.encode (read : raw.Read spec) : spec.encode = .ok raw.normal := by
  obtain ⟨name, present, -, written⟩ := read.name
  have defines := RawDefinition.encode_of_decodeFrom (raw.decodeDefines_eq ▸ read.defines)
  simp only [TypeSpec.encode, written, read.doc, defines, read.basicsize, read.itemsize,
    read.flags, read.legacy, read.legacySlots, address_ofAddress?]
  rw [normal, present]
  rfl

/-- What is read passes the checks of a spec and is written again as the normal form of what it was
read from, and that reads as the same. -/
theorem encode_decode (accepted : raw.decode = .ok spec) :
    spec.validate = .ok () ∧ spec.encode = .ok raw.normal ∧ raw.normal.decode = .ok spec := by
  have read := raw.read_of_decode accepted
  have again := spec.encode_written
  rw [read.encode, read.validate] at again
  cases again with
  | done clean decoded => exact ⟨read.validate, read.encode, decoded⟩

/-- Truth values of 7 and -3, a flag without a name, and a name that is not ASCII. -/
theorem encode_decode_seven :
    let name : CString := ⟨[195, 169, 46, 80], by decide⟩
    let record (readonly : Int32) : RawDefinition := .member (some name) 16 (-8) readonly none
    let raw : RawSpec :=
      { name := some name, basicsize := 24, itemsize := 0, flags := ⟨0x8000000000000200⟩
        legacy := 7, legacySlots := 0x10, defines := some [record (-3), record 0], doc := none }
    ∃ spec, raw.decode = .ok spec ∧
      spec.encode = .ok { raw with legacy := 1, defines := some [record 1, record 0] } := by
  intro name record raw
  have accepted : raw.decode = .ok
      { name := "é.P", basicsize := 24, itemsize := 0, flags := ⟨0x8000000000000200⟩
        legacy := true, legacySlots := some ⟨0x10, by decide⟩
        defines := [.member "é.P" .objectEx (-8) true none, .member "é.P" .objectEx (-8) false none]
        doc := none } := by
    decide
  exact ⟨_, accepted, (encode_decode accepted).2.1⟩

end TypeHost
