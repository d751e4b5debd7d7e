import TypeHost.Derive.Expansion
import TypeHost.Proofs.Derive.Rewording

/-! Which items are accepted, what is wrong with the others, and what the implementation says of the
mode. -/
namespace TypeHost.Derive

variable {attr : Attribute} {attributes : List Attribute} {hints : List Attribute} {listed : Bool}
  {cause : DeriveError} {item : Item} {mode : LayoutMode} {read : HintReader}

section Search

variable {α : Type} {p q : α → Prop} {a : α} {as : List α}

/-- Some member has the second property, and all in front of it have the first. -/
def Reaches (p q : α → Prop) (as : List α) : Prop :=
  ∃ before a after, as = before ++ a :: after ∧ (∀ other ∈ before, p other) ∧ q a

theorem not_reaches_nil : ¬ Reaches p q [] := by
  rintro ⟨before, a, after, split, -⟩
  cases before <;> cases split

theorem reaches_cons : Reaches p q (a :: as) ↔ q a ∨ p a ∧ Reaches p q as := by
  constructor
  · rintro ⟨before, b, after, split, passed, found⟩
    cases before with
    | nil =>
        cases split
        exact .inl found
    | cons first before =>
        cases split
        rw [List.forall_mem_cons] at passed
        exact .inr ⟨passed.1, before, b, after, rfl, passed.2, found⟩
  · rintro (found | ⟨here, before, b, after, rfl, passed, found⟩)
    · exact ⟨[], a, as, rfl, nofun, found⟩
    · exact ⟨a :: before, b, after, rfl, List.forall_mem_cons.2 ⟨here, passed⟩, found⟩

end Search

section Representation

def Attribute.Hints (attr : Attribute) (read : HintReader) (hints : List Attribute) : Prop :=
  ∃ tokens, attr.args = .list tokens ∧ read tokens = .ok hints

def Attribute.ListsC (attr : Attribute) (read : HintReader) : Prop :=
  ∃ hints, attr.Hints read hints ∧ ∃ hint ∈ hints, hint.isNamed "C" = true

def Attribute.OmitsC (attr : Attribute) (read : HintReader) : Prop :=
  ∃ hints, attr.Hints read hints ∧ ∀ hint ∈ hints, hint.isNamed "C" = false

inductive Attribute.Misrepresents (attr : Attribute) (read : HintReader) : DeriveError → Prop
  | unlisted {cause : DeriveError} : attr.Unlisted "repr" cause → Misrepresents attr read cause
  | hints {tokens : List Token} {cause : DeriveError} : attr.args = .list tokens →
      read tokens = .error cause → Misrepresents attr read cause

/-- Some `repr` attribute lists `C`, and those before it are well formed. -/
def ReprC (read : HintReader) (attributes : List Attribute) : Prop :=
  Reaches (fun attr => attr.isNamed "repr" = true → ∃ hints, attr.Hints read hints)
    (fun attr => attr.isNamed "repr" = true ∧ attr.ListsC read) attributes

def NoReprC (read : HintReader) (attributes : List Attribute) : Prop :=
  ∀ attr ∈ attributes, attr.isNamed "repr" = true → attr.OmitsC read

/-- Some `repr` attribute is not well formed, and none before it lists `C`. -/
def Misrepresented (read : HintReader) (attributes : List Attribute) (cause : DeriveError) : Prop :=
  Reaches (fun attr => attr.isNamed "repr" = true → attr.OmitsC read)
    (fun attr => attr.isNamed "repr" = true ∧ attr.Misrepresents read cause) attributes

theorem Attribute.exists_hints :
    (∃ hints, attr.Hints read hints) ↔ attr.ListsC read ∨ attr.OmitsC read := by
  constructor
  · rintro ⟨hints, here⟩
    by_cases listed : ∃ hint ∈ hints, hint.isNamed "C" = true
    · exact .inl ⟨hints, here, listed⟩
    · refine .inr ⟨hints, here, fun hint member => ?_⟩
      exact eq_false_of_ne_true fun named => listed ⟨hint, member, named⟩
  · rintro (⟨hints, here, -⟩ | ⟨hints, here, -⟩) <;> exact ⟨hints, here⟩

theorem listArgs_listsC_eq_ok : (attr.listArgs "repr" >>= listsC read) = .ok listed ↔
    ∃ hints, attr.Hints read hints ∧ listed = hints.any (·.isNamed "C") := by
  rw [bind_eq_ok]
  simp only [Attribute.listArgs_eq_ok, listsC, bind_eq_ok]
  constructor
  · rintro ⟨tokens, args, hints, read, done⟩
    exact ⟨hints, ⟨tokens, args, read⟩, (Except.ok.inj done).symm⟩
  · rintro ⟨hints, ⟨tokens, args, read⟩, rfl⟩
    exact ⟨tokens, args, hints, read, rfl⟩

theorem listArgs_listsC_eq_error :
    (attr.listArgs "repr" >>= listsC read) = .error cause ↔ attr.Misrepresents read cause := by
  rw [bind_eq_error]
  simp only [Attribute.listArgs_eq_ok, Attribute.listArgs_eq_error, listsC, bind_eq_error]
  constructor
  · rintro (unlisted | ⟨tokens, args, failed | ⟨_, _, done⟩⟩)
    · exact .unlisted unlisted
    · exact .hints args failed
    · cases done
  · rintro (unlisted | ⟨args, failed⟩)
    · exact .inl unlisted
    · exact .inr ⟨_, args, .inl failed⟩

theorem listArgs_listsC_eq_true :
    (attr.listArgs "repr" >>= listsC read) = .ok true ↔ attr.ListsC read := by
  rw [listArgs_listsC_eq_ok]
  simp only [Attribute.ListsC, eq_comm (a := true), List.any_eq_true]

theorem listArgs_listsC_eq_false :
    (attr.listArgs "repr" >>= listsC read) = .ok false ↔ attr.OmitsC read := by
  rw [listArgs_listsC_eq_ok]
  simp only [Attribute.OmitsC, eq_comm (a := false), List.any_eq_false, Bool.not_eq_true]

theorem hasReprC_foreign (foreign : attr.isNamed "repr" = false) :
    hasReprC read (attr :: attributes) = hasReprC read attributes := by
  rw [hasReprC, foreign]
  rfl

theorem hasReprC_repr (named : attr.isNamed "repr" = true) :
    hasReprC read (attr :: attributes) = (attr.listArgs "repr" >>= listsC read) >>= fun listed =>
      if listed then .ok true else hasReprC read attributes := by
  rw [hasReprC, named, bind_assoc]
  refine bind_congr fun tokens => bind_congr fun listed => ?_
  cases listed <;> rfl

theorem isNamed_repr_of_univtype (request : attr.isNamed "univtype" = true) :
    attr.isNamed "repr" = false := by
  unfold Attribute.isNamed at *
  rw [decide_eq_true_eq] at request
  simp [request]

theorem hasReprC_filter :
    hasReprC read (attributes.filter (!·.isNamed "univtype")) = hasReprC read attributes := by
  induction attributes with
  | nil => rfl
  | cons attr attributes ih =>
      cases request : attr.isNamed "univtype" with
      | true =>
          rw [List.filter_cons_of_neg (by simp [request]), ih,
            hasReprC_foreign (isNamed_repr_of_univtype request)]
      | false =>
          rw [List.filter_cons_of_pos (by simp [request])]
          cases named : attr.isNamed "repr" with
          | false => rw [hasReprC_foreign named, hasReprC_foreign named, ih]
          | true => rw [hasReprC_repr named, hasReprC_repr named, ih]

theorem hasReprC_eq_true : hasReprC read attributes = .ok true ↔ ReprC read attributes := by
  unfold ReprC
  induction attributes with
  | nil => exact iff_of_false nofun not_reaches_nil
  | cons attr attributes ih =>
      rw [reaches_cons, ← ih, Attribute.exists_hints]
      cases named : attr.isNamed "repr" with
      | false => simp [hasReprC_foreign named]
      | true =>
          rw [hasReprC_repr named, bind_eq_ok]
          simp only [Bool.exists_bool, listArgs_listsC_eq_true, listArgs_listsC_eq_false]
          simp only [Bool.false_eq_true, if_false, if_true, and_true, true_and, forall_const]
          tauto

theorem hasReprC_eq_false : hasReprC read attributes = .ok false ↔ NoReprC read attributes := by
  unfold NoReprC
  induction attributes with
  | nil => exact iff_of_true rfl nofun
  | cons attr attributes ih =>
      rw [List.forall_mem_cons, ← ih]
      cases named : attr.isNamed "repr" with
      | false => simp [hasReprC_foreign named]
      | true =>
          rw [hasReprC_repr named, bind_eq_ok]
          simp [Bool.exists_bool, listArgs_listsC_eq_true, listArgs_listsC_eq_false]

theorem hasReprC_eq_error :
    hasReprC read attributes = .error cause ↔ Misrepresented read attributes cause := by
  unfold Misrepresented
  induction attributes with
  | nil => exact iff_of_false nofun not_reaches_nil
  | cons attr attributes ih =>
      rw [reaches_cons, ← ih]
      cases named : attr.isNamed "repr" with
      | false => simp [hasReprC_foreign named]
      | true =>
          rw [hasReprC_repr named, bind_eq_error]
          simp [Bool.exists_bool, listArgs_listsC_eq_true, listArgs_listsC_eq_false,
            listArgs_listsC_eq_error]

end Representation

namespace Item

section Verdict

/-- The first field is the host header: a path that ends in a segment `ObjectHead` without
arguments. -/
def HasHead (item : Item) : Prop :=
  ∃ path rest, item.fieldTypes = .path path :: rest ∧ path.lastName = "ObjectHead" ∧
    path.lastArgs.isEmpty = true

theorem hasHead_cons {first : TypeShape} {rest : List TypeShape}
    (fields : item.fieldTypes = first :: rest) : item.HasHead ↔ first.isObjectHead = true := by
  unfold HasHead TypeShape.isObjectHead
  rw [fields]
  cases first <;> simp

theorem HasHead.ne_nil (head : item.HasHead) : item.fieldTypes ≠ [] := by
  obtain ⟨path, rest, fields, -⟩ := head
  rw [fields]
  nofun

theorem checkHead_nil (fields : item.fieldTypes = []) : item.checkHead = .error .noHead := by
  rw [checkHead, fields]

theorem checkHead_cons {first : TypeShape} {rest : List TypeShape}
    (fields : item.fieldTypes = first :: rest) :
    item.checkHead = if first.isObjectHead then .ok () else .error .otherHead := by
  rw [checkHead, fields]

theorem checkHead_eq_ok : item.checkHead = .ok () ↔ item.HasHead := by
  cases fields : item.fieldTypes with
  | nil =>
      rw [checkHead_nil fields]
      exact iff_of_false nofun fun head => head.ne_nil fields
  | cons first rest =>
      rw [checkHead_cons fields, hasHead_cons fields]
      cases first.isObjectHead <;> simp

inductive Headless (item : Item) : DeriveError → Prop
  | empty : item.fieldTypes = [] → Headless item .noHead
  | other : item.fieldTypes ≠ [] → ¬ item.HasHead → Headless item .otherHead

theorem checkHead_eq_error : item.checkHead = .error cause ↔ item.Headless cause := by
  cases fields : item.fieldTypes with
  | nil =>
      rw [checkHead_nil fields]
      constructor
      · intro failed
        cases failed
        exact .empty fields
      · rintro (_ | ⟨full, -⟩)
        · rfl
        · exact absurd fields full
  | cons first rest =>
      have full : item.fieldTypes ≠ [] := fields ▸ List.cons_ne_nil first rest
      rw [checkHead_cons fields]
      constructor
      · intro failed
        split at failed
        · cases failed
        next other =>
          cases failed
          exact .other full (mt (hasHead_cons fields).1 other)
      · rintro (empty | ⟨-, headless⟩)
        · exact absurd empty full
        · exact if_neg (mt (hasHead_cons fields).2 headless)

/-- The item binds a struct to its accessor soundly. -/
structure Accepted (read : HintReader) (item : Item) : Prop where
  agreed : Agreed item.attributes
  isStruct : item.shape.isStruct = true
  reprC : ReprC read item.attributes
  head : Requests item.attributes .legacy → item.HasHead

/-- What is wrong with an item: the first of its faults in the order of the checks. -/
inductive Refused (read : HintReader) (item : Item) : DeriveError → Prop
  | requests {cause : DeriveError} : Misrequested item.attributes cause → Refused read item cause
  | shape : Agreed item.attributes → item.shape.isStruct = false → Refused read item .notAStruct
  | representation {cause : DeriveError} : Agreed item.attributes → item.shape.isStruct = true →
      Misrepresented read item.attributes cause → Refused read item cause
  | noReprC : Agreed item.attributes → item.shape.isStruct = true → NoReprC read item.attributes →
      Refused read item .notReprC
  | head {cause : DeriveError} : Agreed item.attributes → item.shape.isStruct = true →
      ReprC read item.attributes → Requests item.attributes .legacy → item.Headless cause →
      Refused read item cause

theorem mode_eq (read : HintReader) (item : Item) :
    item.mode read = layoutMode item.attributes >>= fun mode =>
      if item.shape.isStruct then
        hasReprC read item.attributes >>= fun listed =>
          if listed then
            if mode = .legacy then item.checkHead >>= fun _ => .ok mode else .ok mode
          else .error .notReprC
      else .error .notAStruct := by
  unfold Item.mode
  refine bind_congr fun mode => ?_
  cases item.shape.isStruct with
  | false => rfl
  | true =>
      refine bind_congr fun listed => ?_
      cases listed with
      | false => rfl
      | true => cases mode <;> rfl

theorem mode_eq_ok : item.mode read = .ok mode ↔
    item.Accepted read ∧ (mode = .legacy ↔ Requests item.attributes .legacy) := by
  rw [mode_eq, bind_eq_ok]
  constructor
  · rintro ⟨found, asked, done⟩
    obtain ⟨agreed, legacy⟩ := layoutMode_eq_ok.1 asked
    split at done
    next isStruct =>
      obtain ⟨listed, known, done⟩ := bind_eq_ok.1 done
      cases listed with
      | false => cases done
      | true =>
          have reprC := hasReprC_eq_true.1 known
          cases found with
          | legacy =>
              obtain ⟨⟨⟩, head, done⟩ := bind_eq_ok.1 done
              cases done
              exact ⟨⟨agreed, isStruct, reprC, fun _ => checkHead_eq_ok.1 head⟩, legacy⟩
          | pure =>
              cases done
              exact ⟨⟨agreed, isStruct, reprC, fun asks => nomatch legacy.2 asks⟩, legacy⟩
    · cases done
  · rintro ⟨accepted, legacy⟩
    refine ⟨mode, layoutMode_eq_ok.2 ⟨accepted.agreed, legacy⟩, ?_⟩
    rw [if_pos accepted.isStruct, hasReprC_eq_true.2 accepted.reprC]
    cases mode with
    | legacy =>
        have head := checkHead_eq_ok.2 (accepted.head (legacy.1 rfl))
        exact bind_eq_ok.2 ⟨true, rfl, bind_eq_ok.2 ⟨(), head, rfl⟩⟩
    | pure => rfl

theorem mode_eq_error : item.mode read = .error cause ↔ item.Refused read cause := by
  rw [mode_eq, bind_eq_error, layoutMode_eq_error]
  constructor
  · rintro (misrequested | ⟨mode, asked, failed⟩)
    · exact .requests misrequested
    · obtain ⟨agreed, legacy⟩ := layoutMode_eq_ok.1 asked
      split at failed
      next isStruct =>
        obtain misrepresented | ⟨listed, known, failed⟩ := bind_eq_error.1 failed
        · exact .representation agreed isStruct (hasReprC_eq_error.1 misrepresented)
        · cases listed with
          | false =>
              cases failed
              exact .noReprC agreed isStruct (hasReprC_eq_false.1 known)
          | true =>
              have reprC := hasReprC_eq_true.1 known
              cases mode with
              | pure => cases failed
              | legacy =>
                  obtain headless | ⟨_, _, failed⟩ := bind_eq_error.1 failed
                  · exact .head agreed isStruct reprC (legacy.1 rfl) (checkHead_eq_error.1 headless)
                  · cases failed
      next other =>
        cases failed
        exact .shape agreed (eq_false_of_ne_true other)
  · rintro (misrequested | ⟨agreed, other⟩ | ⟨agreed, isStruct, misrepresented⟩ |
      ⟨agreed, isStruct, noReprC⟩ | ⟨agreed, isStruct, reprC, asks, headless⟩)
    · exact .inl misrequested
    · obtain ⟨mode, asked⟩ := agreed.exists_layoutMode
      exact .inr ⟨mode, asked, if_neg (ne_true_of_eq_false other)⟩
    · obtain ⟨mode, asked⟩ := agreed.exists_layoutMode
      refine .inr ⟨mode, asked, ?_⟩
      rw [if_pos isStruct, hasReprC_eq_error.2 misrepresented]
      rfl
    · obtain ⟨mode, asked⟩ := agreed.exists_layoutMode
      refine .inr ⟨mode, asked, ?_⟩
      rw [if_pos isStruct, hasReprC_eq_false.2 noReprC]
      rfl
    · refine .inr ⟨.legacy, layoutMode_eq_ok.2 ⟨agreed, iff_of_true rfl asks⟩, ?_⟩
      rw [if_pos isStruct, hasReprC_eq_true.2 reprC]
      have failed := checkHead_eq_error.2 headless
      exact bind_eq_error.2 (.inr ⟨true, rfl, bind_eq_error.2 (.inl failed)⟩)

end Verdict

section Constants

def isMark (mark : Char) : Token → Bool
  | .punct c _ => c = mark
  | _ => false

/-- The value of a constant in the body of an implementation: what stands between the equals sign
and the semicolon of its declaration. -/
def constantValue? (name : String) : List Token → Option (List Token)
  | .ident "const" :: .ident other :: rest =>
    if other = name then
      some (((rest.dropWhile (!isMark '=' ·)).drop 1).takeWhile (!isMark ';' ·))
    else constantValue? name rest
  | _ :: rest => constantValue? name rest
  | [] => none

def accessorCall (mode : LayoutMode) : List Token :=
  rootPath ["Accessor", mode.text] ++ [.group .paren []]

theorem constantValue?_isLegacy (mode : LayoutMode) :
    constantValue? "IS_LEGACY" (constants mode)
      = some [.ident (if mode = .legacy then "true" else "false")] := by
  cases mode <;> rfl

theorem constantValue?_accessor (mode : LayoutMode) :
    constantValue? "ACCESSOR" (constants mode) = some (accessorCall mode) := by
  cases mode <;> rfl

theorem accessorCall_ne : accessorCall .pure ≠ accessorCall .legacy := by
  simp [accessorCall, rootPath, LayoutMode.text, word]

theorem implementation_getLast? (item : Item) (mode : LayoutMode) :
    (item.implementation mode).getLast? = some (.group .brace (constants mode)) :=
  List.getLast?_concat

end Constants

theorem expand_eq_ok {tokens : List Token} : item.expand read = .ok tokens ↔
    ∃ mode, item.mode read = .ok mode ∧ item.implementation mode = tokens := by
  rw [expand, bind_eq_ok]
  simp only [pure, Except.pure, Except.ok.injEq]

theorem expand_eq_error : item.expand read = .error cause ↔ item.mode read = .error cause := by
  rw [expand, bind_eq_error]
  exact or_iff_left fun ⟨_, _, done⟩ => nomatch done

theorem Accepted.exists_mode (accepted : item.Accepted read) :
    ∃ mode, item.mode read = .ok mode := by
  obtain ⟨mode, asked⟩ := accepted.agreed.exists_layoutMode
  exact ⟨mode, mode_eq_ok.2 ⟨accepted, (layoutMode_eq_ok.1 asked).2⟩⟩

theorem mode_reworded {others : List Attribute} (rewords : Rewords item.attributes others) :
    { item with attributes := others }.mode read = .ok mode ↔ item.mode read = .ok mode := by
  have same : hasReprC read others = hasReprC read item.attributes := by
    rw [← hasReprC_filter, ← rewords.foreign, hasReprC_filter]
  rw [mode_eq, mode_eq, bind_eq_ok, bind_eq_ok]
  refine exists_congr fun asked => and_congr rewords.layoutMode_eq_ok.symm ?_
  rw [same]
  rfl

/-- An item is accepted if its attributes ask for one mode only, it is a struct with a fixed
representation, and it has the header that a legacy struct needs. The implementation says of the
mode what the attributes ask for, however they are written. An item that is not accepted is
refused for its first fault. All of this holds however the hints of a representation are read. -/
theorem expand_sound (read : HintReader) (item : Item) :
    ((∃ tokens, item.expand read = .ok tokens) ↔ item.Accepted read) ∧
    (∀ tokens, item.expand read = .ok tokens → ∃ body,
      tokens.getLast? = some (.group .brace body) ∧
      (constantValue? "IS_LEGACY" body = some [.ident "true"] ↔ Requests item.attributes .legacy) ∧
      (constantValue? "ACCESSOR" body = some (accessorCall .legacy) ↔
        constantValue? "IS_LEGACY" body = some [.ident "true"]) ∧
      (¬ Requests item.attributes .legacy →
        constantValue? "IS_LEGACY" body = some [.ident "false"] ∧
        constantValue? "ACCESSOR" body = some (accessorCall .pure))) ∧
    (∀ others, Rewords item.attributes others → ∀ tokens,
      { item with attributes := others }.expand read = .ok tokens ↔ item.expand read = .ok tokens) ∧
    ∀ cause, item.expand read = .error cause ↔ item.Refused read cause := by
  refine ⟨?_, ?_, ?_, ?_⟩
  · constructor
    · rintro ⟨tokens, expanded⟩
      obtain ⟨mode, known, -⟩ := expand_eq_ok.1 expanded
      exact (mode_eq_ok.1 known).1
    · intro accepted
      obtain ⟨mode, known⟩ := accepted.exists_mode
      exact ⟨_, expand_eq_ok.2 ⟨mode, known, rfl⟩⟩
  · intro tokens expanded
    obtain ⟨mode, known, rfl⟩ := expand_eq_ok.1 expanded
    refine ⟨constants mode, item.implementation_getLast? mode, ?_⟩
    rw [constantValue?_isLegacy, constantValue?_accessor, ← (mode_eq_ok.1 known).2]
    cases mode with
    | legacy => simp
    | pure => simp [accessorCall_ne]
  · intro others rewords tokens
    simp only [expand_eq_ok, mode_reworded rewords]
    rfl
  · exact fun cause => expand_eq_error.trans mode_eq_error

/-- A request written in front of the representation, and the same request once more behind it; and
requests for both modes that stand apart from each other. -/
theorem expand_sound_reworded :
    let request (word : String) : Attribute := ⟨⟨false, ["univtype"]⟩, .list [.ident word]⟩
    let repr : Attribute := ⟨⟨false, ["repr"]⟩, .list [.ident "C"]⟩
    let item (attributes : List Attribute) : Item :=
      { shape := .named, name := "Counter", attributes, generics := ⟨[], []⟩
        fieldTypes := [.path (.single false false "ObjectHead" .none)] }
    let short := item [request "legacy", repr]
    let long := item [request "legacy", repr, request "legacy"]
    let torn := item [request "legacy", repr, request "pure"]
    long.expand Grammar.hints = .ok (short.implementation .legacy) ∧
      short.Accepted Grammar.hints ∧ Requests short.attributes .legacy ∧
      torn.Refused Grammar.hints .conflictingModes := by
  intro request repr item short long torn
  have expanded : short.expand Grammar.hints = .ok (short.implementation .legacy) := rfl
  -- The mode is repeated in its list, the list is divided, and the second request is moved behind.
  have rewords : Rewords short.attributes long.attributes := by
    let twice : List Token := [.ident "legacy", .punct ',' false, .ident "legacy"]
    have words : pieces twice = [] ++ modeWord .legacy :: [modeWord .legacy] := rfl
    have again : Rewords ([] ++ request "legacy" :: [repr])
        ([] ++ (request "legacy").withList twice :: [repr]) :=
      .repeated rfl rfl rfl words (List.mem_singleton_self _)
    have divided : Rewords ([] ++ (request "legacy").withList twice :: [repr])
        ([] ++ [[.ident "legacy"], [.ident "legacy"]].map (request "legacy").withList ++ [repr]) :=
      .divided rfl rfl rfl
    exact (again.trans divided).trans (.permuted (.cons _ (.swap _ _ _)) rfl)
  obtain ⟨accepts, tags, same, -⟩ := expand_sound Grammar.hints short
  refine ⟨(same _ rewords _).2 expanded, accepts.1 ⟨_, expanded⟩, ?_,
    ((expand_sound Grammar.hints torn).2.2.2 _).1 rfl⟩
  obtain ⟨body, last, tag, -⟩ := tags _ expanded
  rw [short.implementation_getLast?] at last
  cases last
  exact tag.1 rfl

end Item

end TypeHost.Derive
