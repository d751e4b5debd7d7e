import TypeHost.Proofs.Wire.Normal

/-!
What the wire accepts. Beside the reader stand the list of all faults of a spec, in the order in
which a reader comes to them, and the conditions that a spec without faults meets. The reader
reports the head of the list, and it comes to its end exactly under the conditions.
-/
namespace TypeHost

section Fields

variable {α : Type} {n : Int32} {index : Nat} {fault : DefinitionFault} {field : TextField}
  {s : CString} {pointer : Option CString} {value : Option α}

theorem ofCode?_eq_some [Numbered α] {v : α} : ofCode? n = some v ↔ Numbered.code v = n := by
  constructor
  · exact code_of_ofCode?
  · rintro rfl
    exact ofCode?_code v

def Listed (α : Type) [Numbered α] (n : Int32) : Prop := ∃ v : α, Numbered.code v = n

theorem listed_iff [Numbered α] : Listed α n ↔ ofCode? (α := α) n ≠ none := by
  rw [Listed, Option.ne_none_iff_exists']
  simp only [ofCode?_eq_some]

instance [Numbered α] : Decidable (Listed α n) := decidable_of_iff _ listed_iff.symm

def CString.IsText (s : CString) : Prop := ∃ text : String, s.bytes = text.toUTF8.data.toList

theorem CString.isText_iff : s.IsText ↔ s.text? ≠ none := by
  rw [Option.ne_none_iff_exists']
  constructor
  · rintro ⟨text, same⟩
    rcases s with ⟨bytes, clean⟩
    cases same
    exact ⟨text, text?_of_ofText? (dif_pos clean)⟩
  · rintro ⟨text, read⟩
    exact ⟨text, bytes_of_text? read⟩

instance : Decidable s.IsText := decidable_of_iff _ CString.isText_iff.symm

def Readable (pointer : Option CString) : Prop := ∀ s, pointer = some s → s.IsText

instance : Decidable (Readable pointer) :=
  match pointer with
  | none => .isTrue fun _ some => nomatch some
  | some s => decidable_of_iff s.IsText
    ⟨fun text _ same => Option.some.inj same ▸ text, fun all => all s rfl⟩

def HasText (pointer : Option CString) : Prop := ∃ s, pointer = some s ∧ s.IsText

theorem hasText_iff : HasText pointer ↔ Readable pointer ∧ pointer ≠ none := by
  cases pointer <;> simp [HasText, Readable]

theorem cause?_readText :
    cause? (readText field pointer) = (faultIf (¬ Readable pointer) (.invalidUtf8 field)).head? := by
  cases pointer with
  | none => simp [readText, cause?, faultIf, Readable]
  | some s =>
      cases read : s.text? with
      | none => simp [readText, read, cause?, faultIf, Readable, CString.isText_iff]
      | some text => simp [readText, read, cause?, faultIf, Readable, CString.isText_iff]

theorem readText_eq_none (read : readText field pointer = .ok none) : pointer = none := by
  cases pointer with
  | none => rfl
  | some s =>
      rw [readText] at read
      split at read <;> cases read

theorem cause?_require :
    cause? (RawDefinition.require index fault value)
      = (faultIf (value = none) (.invalidDefinition index fault)).head? := by
  cases value <;> simp [RawDefinition.require, cause?, faultIf]

theorem cause?_require_listed [Numbered α] :
    cause? (RawDefinition.require index fault (ofCode? (α := α) n))
      = (faultIf (¬ Listed α n) (.invalidDefinition index fault)).head? := by
  rw [cause?_require]
  exact congrArg _ (faultIf_congr (listed_iff.not_left.symm) _)

theorem cause?_require_read {text : Option String} (read : readText field pointer = .ok text) :
    cause? (RawDefinition.require index fault text)
      = (faultIf (pointer = none) (.invalidDefinition index fault)).head? := by
  rw [cause?_require]
  refine congrArg _ (faultIf_congr ⟨?_, ?_⟩ _)
  · rintro rfl
    exact readText_eq_none read
  · rintro rfl
    cases read
    rfl

end Fields

namespace RawDefinition

variable {raw : RawDefinition} {index : Nat}

def faults (index : Nat) : RawDefinition → List SpecError
  | .slot code func =>
    faultIf (¬ Listed SlotId code) (.invalidDefinition index .unknownSlot)
      ++ faultIf (func = none) (.invalidDefinition index .slotWithoutFunction)
  | .method name func signature doc =>
    faultIf (¬ Readable name) (.invalidUtf8 .definitionName)
      ++ faultIf (name = none) (.invalidDefinition index .missingName)
      ++ faultIf (func = none) (.invalidDefinition index .methodWithoutFunction)
      ++ faultIf (¬ Listed Signature signature) (.invalidDefinition index .unknownSignature)
      ++ faultIf (¬ Readable doc) (.invalidUtf8 .definitionDoc)
  | .member name kind _ _ doc =>
    faultIf (¬ Readable name) (.invalidUtf8 .definitionName)
      ++ faultIf (name = none) (.invalidDefinition index .missingName)
      ++ faultIf (¬ Listed MemberKind kind) (.invalidDefinition index .unknownMemberKind)
      ++ faultIf (¬ Readable doc) (.invalidUtf8 .definitionDoc)
  | .getSet name _ _ doc =>
    faultIf (¬ Readable name) (.invalidUtf8 .definitionName)
      ++ faultIf (name = none) (.invalidDefinition index .missingName)
      ++ faultIf (¬ Readable doc) (.invalidUtf8 .definitionDoc)
  | .unlisted .. => [.invalidDefinition index .unknownKind]

def Complete : RawDefinition → Prop
  | .slot code func => Listed SlotId code ∧ func ≠ none
  | .method name func signature doc =>
    HasText name ∧ func ≠ none ∧ Listed Signature signature ∧ Readable doc
  | .member name kind _ _ doc => HasText name ∧ Listed MemberKind kind ∧ Readable doc
  | .getSet name _ _ doc => HasText name ∧ Readable doc
  | .unlisted .. => True

structure Accepted (raw : RawDefinition) : Prop where
  kind : 1 ≤ raw.kind ∧ raw.kind ≤ 4
  complete : raw.Complete

theorem cause?_decode : cause? (raw.decode index) = (raw.faults index).head? := by
  cases raw with
  | slot code func =>
      refine cause?_bind cause?_require_listed fun id _ => ?_
      rw [cause?_bind_pure, cause?_require]
  | method name func signature doc =>
      simp only [faults, List.append_assoc]
      refine cause?_bind cause?_readText fun text read => ?_
      refine cause?_bind (cause?_require_read read) fun name _ => ?_
      refine cause?_bind cause?_require fun func _ => ?_
      refine cause?_bind cause?_require_listed fun signature _ => ?_
      rw [cause?_bind_pure, cause?_readText]
  | member name kind offset readonly doc =>
      simp only [faults, List.append_assoc]
      refine cause?_bind cause?_readText fun text read => ?_
      refine cause?_bind (cause?_require_read read) fun name _ => ?_
      refine cause?_bind cause?_require_listed fun kind _ => ?_
      rw [cause?_bind_pure, cause?_readText]
  | getSet name getter setter doc =>
      simp only [faults, List.append_assoc]
      refine cause?_bind cause?_readText fun text read => ?_
      refine cause?_bind (cause?_require_read read) fun name _ => ?_
      rw [cause?_bind_pure, cause?_readText]
  | unlisted kind kind_unlisted code func => rfl

theorem listed_kind {n : Int32} : Listed DefKind n ↔ 1 ≤ n ∧ n ≤ 4 := by
  constructor
  · rintro ⟨v, rfl⟩
    cases v <;> decide
  · rintro ⟨low, high⟩
    rw [Int32.le_iff_toInt_le] at low high
    have all : n = 1 ∨ n = 2 ∨ n = 3 ∨ n = 4 := by
      simp only [← Int32.toInt_inj, Int32.reduceToInt] at low high ⊢
      omega
    rcases all with rfl | rfl | rfl | rfl
    · exact ⟨.slot, rfl⟩
    · exact ⟨.method, rfl⟩
    · exact ⟨.member, rfl⟩
    · exact ⟨.getSet, rfl⟩

theorem accepted_iff (kind : DefKind) (same : raw.kind = Numbered.code kind) :
    raw.Accepted ↔ raw.Complete :=
  ⟨(·.complete), fun complete => ⟨same ▸ listed_kind.1 ⟨kind, rfl⟩, complete⟩⟩

theorem faults_eq_nil : raw.faults index = [] ↔ raw.Accepted := by
  cases raw with
  | slot code func =>
      rw [accepted_iff .slot rfl]
      simp only [faults, Complete, List.append_eq_nil_iff, faultIf_eq_nil, not_not, ne_eq]
  | method name func signature doc =>
      rw [accepted_iff .method rfl]
      simp only [faults, Complete, hasText_iff, List.append_eq_nil_iff, faultIf_eq_nil, not_not,
        ne_eq, and_assoc]
  | member name kind offset readonly doc =>
      rw [accepted_iff .member rfl]
      simp only [faults, Complete, hasText_iff, List.append_eq_nil_iff, faultIf_eq_nil, not_not,
        ne_eq, and_assoc]
  | getSet name getter setter doc =>
      rw [accepted_iff .getSet rfl]
      simp only [faults, Complete, hasText_iff, List.append_eq_nil_iff, faultIf_eq_nil, not_not,
        ne_eq, and_assoc]
  | unlisted kind kind_unlisted code func =>
      simp only [faults, List.cons_ne_nil, false_iff]
      intro accepted
      exact listed_iff.1 (listed_kind.2 accepted.kind) kind_unlisted

theorem cause?_decodeFrom (index : Nat) (raws : List RawDefinition) :
    cause? (decodeFrom index raws)
      = ((raws.zipIdx index).flatMap fun entry => entry.1.faults entry.2).head? := by
  induction raws generalizing index with
  | nil => rfl
  | cons raw rest ih =>
      rw [List.zipIdx_cons, List.flatMap_cons]
      refine cause?_bind cause?_decode fun d _ => ?_
      rw [cause?_bind_pure, ih]

end RawDefinition

namespace RawSpec

variable {raw : RawSpec}

/-- Faults that show without looking at texts and records. -/
def headFaults (raw : RawSpec) : List SpecError :=
  faultIf (∀ name, raw.name = some name → name.bytes = []) .emptyName
    ++ faultIf (raw.basicsize < 0) (.negativeSize .basicsize raw.basicsize)
    ++ faultIf (raw.itemsize < 0) (.negativeSize .itemsize raw.itemsize)
    ++ faultIf (raw.legacySlots ≠ 0 ∧ raw.legacy = 0) .legacySlotsWithoutLegacyFlag

/-- All faults of the spec; records are counted from zero. -/
def faults (raw : RawSpec) : List SpecError :=
  raw.headFaults ++ faultIf (¬ Readable raw.name) (.invalidUtf8 .name)
    ++ (raw.defines.getD []).zipIdx.flatMap (fun entry => entry.1.faults entry.2)
    ++ faultIf (¬ Readable raw.doc) (.invalidUtf8 .doc)

structure Accepted (raw : RawSpec) : Prop where
  name : ∃ name, raw.name = some name ∧ name.bytes ≠ [] ∧ name.IsText
  basicsize : 0 ≤ raw.basicsize
  itemsize : 0 ≤ raw.itemsize
  legacySlots : raw.legacySlots = 0 ∨ raw.legacy ≠ 0
  records : ∀ record ∈ raw.defines.getD [], record.Accepted
  doc : Readable raw.doc

theorem cause?_checkSizes (basicsize itemsize : Int32) :
    cause? (checkSizes basicsize itemsize)
      = (faultIf (basicsize < 0) (SpecError.negativeSize .basicsize basicsize)
        ++ faultIf (itemsize < 0) (SpecError.negativeSize .itemsize itemsize)).head? := by
  rw [checkSizes, faultIf, faultIf]
  split
  · rfl
  · split <;> rfl

theorem cause?_validate : cause? raw.validate = raw.headFaults.head? := by
  have unnamed : raw.name.all (·.isEmpty) = true ↔
      ∀ name, raw.name = some name → name.bytes = [] := by
    cases raw.name <;> simp [CString.isEmpty]
  have tabled : (decide (raw.legacySlots ≠ 0) && !raw.isLegacy) = true ↔
      raw.legacySlots ≠ 0 ∧ raw.legacy = 0 := by
    simp [isLegacy]
  unfold validate
  simp only [headFaults, List.append_assoc, unnamed, tabled]
  split
  · rename_i null
    rw [faultIf, if_pos null]
    rfl
  · rename_i present
    rw [faultIf_eq_nil.2 present, List.nil_append, ← List.append_assoc]
    refine cause?_bind (cause?_checkSizes _ _) fun _ _ => ?_
    rw [faultIf]
    split <;> rfl

theorem cause?_decode : cause? raw.decode = raw.faults.head? := by
  simp only [faults, List.append_assoc]
  refine cause?_bind cause?_validate fun _ valid => ?_
  -- A null name was refused before, so the reader of the name does not come to it.
  have present : raw.name ≠ none := by
    intro null
    have clean : raw.headFaults.head? = none := by
      rw [← cause?_validate, valid]
      rfl
    simp [headFaults, faultIf, null] at clean
  refine cause?_bind cause?_readText fun text read => ?_
  cases text with
  | none => exact absurd (readText_eq_none read) present
  | some name =>
      refine cause?_bind ?_ fun defines _ => ?_
      · rw [decodeDefines_eq, RawDefinition.cause?_decodeFrom]
      rw [cause?_bind_pure, cause?_readText]

theorem headFaults_eq_nil : raw.headFaults = [] ↔
    (∃ name, raw.name = some name ∧ name.bytes ≠ []) ∧ 0 ≤ raw.basicsize ∧ 0 ≤ raw.itemsize ∧
      (raw.legacySlots = 0 ∨ raw.legacy ≠ 0) := by
  simp only [headFaults, List.append_eq_nil_iff, faultIf_eq_nil, Int32.not_lt, not_forall,
    exists_prop, not_and_or, not_not, ne_eq, and_assoc]

theorem faults_eq_nil : raw.faults = [] ↔ raw.Accepted := by
  simp only [faults, List.append_eq_nil_iff, faultIf_eq_nil, headFaults_eq_nil, not_not,
    List.flatMap_eq_nil_iff, RawDefinition.faults_eq_nil, and_assoc]
  constructor
  · rintro ⟨⟨name, present, nonempty⟩, basic, item, slots, readable, records, doc⟩
    refine ⟨⟨name, present, nonempty, readable name present⟩, basic, item, slots, ?_, doc⟩
    intro record mem
    obtain ⟨i, here⟩ := List.getElem?_of_mem mem
    exact records (record, i) (List.mem_zipIdx_iff_getElem?.2 here)
  · rintro ⟨⟨name, present, nonempty, text⟩, basic, item, slots, records, doc⟩
    refine ⟨⟨name, present, nonempty⟩, basic, item, slots, ?_, ?_, doc⟩
    · intro other same
      cases present.symm.trans same
      exact text
    · intro entry mem
      exact records entry.1 (List.fst_mem_of_mem_zipIdx mem)

end RawSpec

theorem ofCode?_eq_some_of_nonneg {α : Type} [Numbered α]
    (all : ∀ v : α, 0 ≤ Numbered.code v) {n : Int32} {v : α} :
    ofCode? n = some v ↔ 0 ≤ n ∧ Numbered.code v = n := by
  rw [ofCode?_eq_some]
  exact ⟨fun same => ⟨same ▸ all v, same⟩, And.right⟩

/-- The reader fails for the first of all faults, and succeeds exactly if there is none. -/
theorem decode_accepts (raw : RawSpec) :
    ((∃ spec, raw.decode = .ok spec) ↔ raw.Accepted) ∧
    (∀ e, raw.decode = .error e ↔ raw.faults.head? = some e) ∧
    (∀ (record : RawDefinition) (index : Nat),
      ((∃ d, record.decode index = .ok d) ↔ record.Accepted) ∧
      ∀ e, record.decode index = .error e ↔ (record.faults index).head? = some e) ∧
    (∀ n (v : DefKind), ofCode? n = some v ↔ 0 ≤ n ∧ Numbered.code v = n) ∧
    (∀ n (v : SlotId), ofCode? n = some v ↔ 0 ≤ n ∧ Numbered.code v = n) ∧
    (∀ n (v : Signature), ofCode? n = some v ↔ 0 ≤ n ∧ Numbered.code v = n) ∧
    ∀ n (v : MemberKind), ofCode? n = some v ↔ 0 ≤ n ∧ Numbered.code v = n := by
  refine ⟨?_, ?_, ?_, ?_, ?_, ?_, ?_⟩
  · rw [← cause?_eq_none, RawSpec.cause?_decode, List.head?_eq_none_iff, RawSpec.faults_eq_nil]
  · intro e
    rw [← cause?_eq_some, RawSpec.cause?_decode]
  · intro record index
    refine ⟨?_, ?_⟩
    · rw [← cause?_eq_none, RawDefinition.cause?_decode, List.head?_eq_none_iff,
        RawDefinition.faults_eq_nil]
    · intro e
      rw [← cause?_eq_some, RawDefinition.cause?_decode]
  all_goals
    intro n v
    apply ofCode?_eq_some_of_nonneg
    intro v
    cases v <;> decide

/-- A slot without a function, and behind it a record with nothing right in it. -/
example :
    let raw : RawSpec :=
      { name := some ⟨[80], by decide⟩, basicsize := 8, itemsize := -1, flags := ⟨0⟩, legacy := 0
        legacySlots := 0, doc := some ⟨[255], by decide⟩
        defines := some [.slot 71 none, .member none 15 0 0 (some ⟨[255], by decide⟩)] }
    raw.faults = [.negativeSize .itemsize (-1), .invalidDefinition 0 .slotWithoutFunction,
      .invalidDefinition 1 .missingName, .invalidDefinition 1 .unknownMemberKind,
      .invalidUtf8 .definitionDoc, .invalidUtf8 .doc] := by
  decide

end TypeHost
