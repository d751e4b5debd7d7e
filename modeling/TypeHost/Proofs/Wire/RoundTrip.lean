import TypeHost.Wire.Spec

/-! Writing a spec and reading it back. A spec is refused only for a text with a NUL inside, and
what is written reads back as the spec, or as the error that the spec itself would give. -/
namespace TypeHost

def Definition.texts : Definition → List (TextField × String)
  | .slot .. => []
  | .method name _ _ doc | .member name _ _ _ doc | .getSet name _ _ doc =>
    (.definitionName, name) :: doc.toList.map fun text => (.definitionDoc, text)

/-- All texts of a spec in the order in which they are written. -/
def TypeSpec.texts (spec : TypeSpec) : List (TextField × String) :=
  ((.name, spec.name) :: spec.doc.toList.map fun text => (.doc, text))
    ++ spec.defines.flatMap Definition.texts

def hasNul (text : TextField × String) : Bool := '\x00' ∈ text.2.toList

section Bytes

theorem toUTF8_toList (text : String) :
    text.toUTF8.data.toList = text.toList.flatMap String.utf8EncodeChar := by
  conv => lhs; rw [← String.ofList_toList (s := text)]
  simp [String.ofList, List.utf8Encode]

theorem zero_eq_ofNat {n : Nat} (small : n < 256) : (0 : UInt8) = UInt8.ofNat n ↔ n = 0 := by
  rw [← UInt8.toNat_inj, UInt8.toNat_ofNat', Nat.mod_eq_of_lt small]
  exact eq_comm

theorem zero_mem_utf8EncodeChar (c : Char) : 0 ∈ String.utf8EncodeChar c ↔ c = '\x00' := by
  constructor
  · intro zero
    have code : c.val.toNat = 0 := by
      unfold String.utf8EncodeChar at zero
      dsimp only at zero
      split at zero
      · simpa (disch := omega) only [zero_eq_ofNat, List.mem_singleton] using zero
      -- every byte of a longer form has its top bit set
      all_goals
        repeat' split at zero
        all_goals
          simp (disch := omega) only [zero_eq_ofNat, List.mem_cons, List.not_mem_nil,
            or_false] at zero
          omega
    exact Char.ext (UInt32.toNat_inj.1 code)
  · rintro rfl
    decide

theorem zero_mem_toUTF8 (text : String) :
    0 ∈ text.toUTF8.data.toList ↔ '\x00' ∈ text.toList := by
  simp only [toUTF8_toList, List.mem_flatMap, zero_mem_utf8EncodeChar, exists_eq_right]

theorem CString.bytes_of_text? {s : CString} {text : String} (h : s.text? = some text) :
    s.bytes = text.toUTF8.data.toList := by
  unfold CString.text? String.fromUTF8? at h
  split at h
  · cases h
    simp [String.fromUTF8]
  · cases h

theorem CString.isEmpty_iff_of_text? {s : CString} {text : String} (h : s.text? = some text) :
    s.isEmpty ↔ text = "" := by
  rw [CString.isEmpty, CString.bytes_of_text? h, toUTF8_toList, ← String.toList_eq_nil_iff]
  cases text.toList with
  | nil => simp
  | cons c rest => simp [String.utf8EncodeChar_ne_nil]

end Bytes

/-- A writer that takes `texts` in order: refused at the first one with a NUL inside, and otherwise
done with a result of which `good` holds. -/
inductive Written {α : Type} (texts : List (TextField × String)) (good : α → Prop) :
    Except SpecError α → Prop
  | done {a : α} : (∀ text ∈ texts, hasNul text = false) → good a → Written texts good (.ok a)
  | refused {text : TextField × String} :
      texts.find? hasNul = some text → Written texts good (.error (.nulInText text.1))

namespace Written

variable {α β : Type} {first rest : List (TextField × String)}
  {good : α → Prop} {next : β → Prop}

theorem bind {result : Except SpecError α} {f : α → Except SpecError β}
    (h : Written first good result) (k : ∀ a, good a → Written rest next (f a)) :
    Written (first ++ rest) next (result >>= f) := by
  cases h with
  | refused found => exact .refused (by rw [List.find?_append, found, Option.some_or])
  | @done a clean fine =>
      have hk := k a fine
      have none : first.find? hasNul = none := by simpa using clean
      change Written (first ++ rest) next (f a)
      generalize f a = result at hk ⊢
      cases hk with
      | refused found => exact .refused (by rw [List.find?_append, none, found, Option.none_or])
      | done cleanRest fineRest =>
          refine .done ?_ fineRest
          intro text mem
          exact (List.mem_append.1 mem).elim (clean text) (cleanRest text)

theorem map {result : Except SpecError α} {g : α → β} (h : Written first good result)
    (k : ∀ a, good a → next (g a)) : Written first next (result >>= fun a => pure (g a)) := by
  cases h with
  | refused found => exact .refused found
  | done clean fine => exact .done clean (k _ fine)

end Written

theorem writeText_written (field : TextField) (text : String) :
    Written [(field, text)] (fun s => s.text? = some text) (writeText field text) := by
  by_cases nul : '\x00' ∈ text.toList
  · have none : CString.ofText? text = none :=
      dif_neg fun clean => clean ((zero_mem_toUTF8 text).2 nul)
    rw [writeText, none]
    have found : [(field, text)].find? hasNul = some (field, text) := by simp [hasNul, nul]
    exact .refused found
  · have clean : 0 ∉ text.toUTF8.data.toList := fun zero => nul ((zero_mem_toUTF8 text).1 zero)
    have written : CString.ofText? text = some ⟨_, clean⟩ := dif_pos clean
    rw [writeText, written]
    exact .done (by simp [hasNul, nul]) (CString.text?_of_ofText? written)

theorem readText_some {field : TextField} {s : CString} {text : String}
    (h : s.text? = some text) : readText field (some s) = .ok (some text) := by
  simp only [readText, h]

theorem writeText?_written (field : TextField) (text : Option String) :
    Written (text.toList.map fun text => (field, text)) (fun s => readText field s = .ok text)
      (writeText? field text) := by
  cases text with
  | none => exact .done (by simp) rfl
  | some text =>
      exact (writeText_written field text).map fun s fine => readText_some fine

theorem flagCode_ne_zero (b : Bool) : decide (flagCode b ≠ 0) = b := by cases b <;> rfl

/-- What is read back as the definition whatever its place, and has the number of its kind. -/
structure Definition.Mirrors (d : Definition) (raw : RawDefinition) : Prop where
  kind : raw.kind = Numbered.code d.kind
  decoded : ∀ index, raw.decode index = .ok d

theorem Definition.encode_written (d : Definition) : Written d.texts d.Mirrors d.encode := by
  cases d with
  | slot id func =>
      refine .done (by simp [texts]) ⟨rfl, fun index => ?_⟩
      simp only [RawDefinition.decode, ofCode?_code]
      rfl
  | method name func signature doc =>
      refine (writeText_written .definitionName name).bind fun name' hname => ?_
      refine (writeText?_written .definitionDoc doc).map fun doc' hdoc => ⟨rfl, fun index => ?_⟩
      simp only [RawDefinition.decode, readText_some hname, ofCode?_code, hdoc]
      rfl
  | member name kind offset readonly doc =>
      refine (writeText_written .definitionName name).bind fun name' hname => ?_
      refine (writeText?_written .definitionDoc doc).map fun doc' hdoc => ⟨rfl, fun index => ?_⟩
      simp only [RawDefinition.decode, readText_some hname, ofCode?_code, hdoc, flagCode_ne_zero]
      rfl
  | getSet name getter setter doc =>
      refine (writeText_written .definitionName name).bind fun name' hname => ?_
      refine (writeText?_written .definitionDoc doc).map fun doc' hdoc => ⟨rfl, fun index => ?_⟩
      simp only [RawDefinition.decode, readText_some hname, hdoc]
      rfl

theorem Definition.kind_of_encode {d : Definition} {raw : RawDefinition}
    (encoded : d.encode = .ok raw) : raw.kind = Numbered.code d.kind := by
  have written := d.encode_written
  rw [encoded] at written
  cases written with
  | done clean mirrors => exact mirrors.kind

def RawDefinition.decodeFrom (index : Nat) : List RawDefinition → Except SpecError (List Definition)
  | [] => .ok []
  | raw :: rest => do return (← raw.decode index) :: (← decodeFrom (index + 1) rest)

theorem RawDefinition.mapM_finRange (index : Nat) (raws : List RawDefinition) :
    (List.finRange raws.length).mapM (fun i => (raws.get i).decode (index + i))
      = decodeFrom index raws := by
  induction raws generalizing index with
  | nil => rfl
  | cons raw rest ih =>
      have shifted : (fun i : Fin rest.length => (rest.get i).decode (index + 1 + i))
          = fun i => ((raw :: rest).get i.succ).decode (index + i.succ) := by
        funext i
        rw [Fin.val_succ, Nat.add_assoc, Nat.add_comm 1]
        rfl
      change (List.finRange (rest.length + 1)).mapM _ = _
      rw [decodeFrom, ← ih (index + 1), shifted, List.finRange_succ, List.mapM_cons, List.mapM_map]
      rfl

theorem RawSpec.decodeDefines_eq (raw : RawSpec) :
    raw.decodeDefines = RawDefinition.decodeFrom 0 (raw.defines.getD []) := by
  rw [← RawDefinition.mapM_finRange]
  simp only [Nat.zero_add]
  rfl

theorem encode_defines_written (ds : List Definition) :
    Written (ds.flatMap Definition.texts)
      (fun raws => ∀ index, RawDefinition.decodeFrom index raws = .ok ds)
      (ds.mapM Definition.encode) := by
  induction ds with
  | nil => exact .done (by simp) fun index => rfl
  | cons d rest ih =>
      rw [List.mapM_cons, List.flatMap_cons]
      refine (Definition.encode_written d).bind fun raw mirrors => ?_
      refine ih.map fun raws hraws index => ?_
      simp only [RawDefinition.decodeFrom, mirrors.decoded, hraws]
      rfl

theorem ofAddress?_address (table : Option SlotTable) :
    SlotTable.ofAddress? (table.elim 0 (·.address)) = table := by
  cases table with
  | none => rfl
  | some table => exact dif_pos table.address_ne_zero

theorem address_ne_zero (table : Option SlotTable) :
    decide (table.elim 0 (·.address) ≠ 0) = table.isSome := by
  cases table with
  | none => rfl
  | some table => exact decide_eq_true table.address_ne_zero

/-- What is written passes the checks of the wire exactly if the spec passes its own. -/
theorem TypeSpec.encode_written (spec : TypeSpec) :
    Written spec.texts (fun raw => raw.decode = spec.validate.map fun _ => spec) spec.encode := by
  rw [TypeSpec.texts, List.cons_append]
  refine (writeText_written .name spec.name).bind fun name hname => ?_
  refine (writeText?_written .doc spec.doc).bind fun doc hdoc => ?_
  refine (encode_defines_written spec.defines).map fun defines hdefines => ?_
  have hvalid : (RawSpec.validate {
      name := some name, basicsize := spec.basicsize, itemsize := spec.itemsize
      flags := spec.flags, legacy := flagCode spec.legacy
      legacySlots := spec.legacySlots.elim 0 (·.address), defines := some defines, doc })
        = spec.validate := by
    simp only [RawSpec.validate, TypeSpec.validate, RawSpec.isLegacy, Option.all_some,
      CString.isEmpty_iff_of_text? hname, flagCode_ne_zero, address_ne_zero]
  rw [RawSpec.decode, hvalid]
  cases spec.validate with
  | error e => rfl
  | ok _ =>
      simp only [readText_some hname, RawSpec.decodeDefines_eq, Option.getD_some, hdefines, hdoc,
        RawSpec.isLegacy, flagCode_ne_zero, ofAddress?_address]
      rfl

/-- Refused for the first text with a NUL inside and for nothing else; otherwise read back as the
spec, or as the error of its own checks. -/
theorem decode_encode (spec : TypeSpec) :
    ((∃ e, spec.encode = .error e) ↔ ∃ text ∈ spec.texts, '\x00' ∈ text.2.toList) ∧
    (∀ e, spec.encode = .error e →
      ∃ text, spec.texts.find? hasNul = some text ∧ e = .nulInText text.1) ∧
    ∀ raw, spec.encode = .ok raw → raw.decode = spec.validate.map fun _ => spec := by
  have written := spec.encode_written
  generalize spec.encode = result at written ⊢
  cases written with
  | @done raw clean read =>
      refine ⟨⟨?_, ?_⟩, ?_, ?_⟩
      · rintro ⟨e, ⟨⟩⟩
      · rintro ⟨text, mem, nul⟩
        have := clean text mem
        simp [hasNul, nul] at this
      · rintro e ⟨⟩
      · rintro _ ⟨⟩
        exact read
  | @refused text found =>
      have nul : '\x00' ∈ text.2.toList := by simpa [hasNul] using List.find?_some found
      refine ⟨⟨?_, ?_⟩, ?_, ?_⟩
      · intro _
        exact ⟨text, List.mem_of_find?_eq_some found, nul⟩
      · intro _
        exact ⟨_, rfl⟩
      · rintro _ ⟨⟩
        exact ⟨text, found, rfl⟩
      · rintro raw ⟨⟩

end TypeHost
