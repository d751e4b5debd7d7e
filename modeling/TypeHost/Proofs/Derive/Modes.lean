import TypeHost.Derive.Mode
import TypeHost.Proofs.Checks

/-! The mode that an item asks for. It may ask any number of times, in any number of lists, but
for one mode only. What is wrong is reported for the first attribute, and the first piece of it,
that is not as it has to be. -/
namespace TypeHost.Derive

variable {attr : Attribute} {name : String} {tokens : List Token} {cause : DeriveError}
  {mode : LayoutMode} {modes : List LayoutMode} {asked next : Option LayoutMode}
  {item : ListItem} {items : List ListItem} {attributes : List Attribute}

section Lists

/-- The tokens are the words of these modes with commas between them; one more comma may stand
behind the last. -/
inductive ListsModes : List Token → List LayoutMode → Prop
  | empty : ListsModes [] []
  | last (mode : LayoutMode) : ListsModes [.ident mode.text] [mode]
  | more (mode : LayoutMode) (joint : Bool) {tokens : List Token} {modes : List LayoutMode} :
      ListsModes tokens modes →
      ListsModes (.ident mode.text :: .punct ',' joint :: tokens) (mode :: modes)

def modeWord (mode : LayoutMode) : List Token := [.ident mode.text]

theorem modeWord_inj {other : LayoutMode} : modeWord mode = modeWord other ↔ mode = other := by
  cases mode <;> cases other <;> simp [modeWord, LayoutMode.text]

def pieces (tokens : List Token) : List (List Token) := (ListItem.split tokens).map (·.tokens)

theorem ListItem.splitFrom_eq_nil {held : List Token} (none : splitFrom held tokens = []) :
    held = [] ∧ tokens = [] := by
  fun_induction splitFrom held tokens with
  | case1 held empty => exact ⟨List.isEmpty_iff.1 empty, rfl⟩
  | case2 held full => cases none
  | case3 held joint rest ih => cases none
  | case4 held t rest noComma ih => cases (ih none).1

/-- The first piece goes on to the first comma; without a comma it is the only one. -/
theorem ListItem.splitFrom_eq_cons {held : List Token}
    (some : splitFrom held tokens = item :: items) :
    ∃ own, item.tokens = held.reverse ++ own ∧
      (tokens = own ∧ items = [] ∨
        ∃ joint rest, tokens = own ++ .punct ',' joint :: rest ∧ items = ListItem.split rest) := by
  fun_induction splitFrom held tokens with
  | case1 held empty => cases some
  | case2 held full =>
      cases some
      exact ⟨[], (List.append_nil _).symm, .inl ⟨rfl, rfl⟩⟩
  | case3 held joint rest ih =>
      cases some
      exact ⟨[], (List.append_nil _).symm, .inr ⟨joint, rest, rfl, rfl⟩⟩
  | case4 held t rest noComma ih =>
      obtain ⟨own, piece, ends⟩ := ih some
      refine ⟨t :: own, by simpa using piece, ?_⟩
      rcases ends with ⟨rfl, none⟩ | ⟨joint, later, rfl, others⟩
      · exact .inl ⟨rfl, none⟩
      · exact .inr ⟨joint, later, rfl, others⟩

theorem ListsModes.pieces_eq (lists : ListsModes tokens modes) :
    pieces tokens = modes.map modeWord := by
  induction lists with
  | empty => rfl
  | last mode => rfl
  | more mode joint lists ih => exact congrArg (modeWord mode :: ·) ih

theorem listsModes_iff : ListsModes tokens modes ↔ pieces tokens = modes.map modeWord := by
  refine ⟨ListsModes.pieces_eq, fun same => ?_⟩
  -- The grammar takes one mode at a time, so the induction is on the modes and not on the tokens.
  induction modes generalizing tokens with
  | nil =>
      obtain ⟨-, rfl⟩ := ListItem.splitFrom_eq_nil (List.map_eq_nil_iff.1 same)
      exact .empty
  | cons mode modes ih =>
      obtain ⟨item, items, split, first, later⟩ := List.map_eq_cons_iff.1 same
      obtain ⟨own, piece, ends⟩ := ListItem.splitFrom_eq_cons split
      obtain rfl : own = [.ident mode.text] := piece.symm.trans first
      rcases ends with ⟨rfl, rfl⟩ | ⟨joint, rest, rfl, rfl⟩
      · obtain rfl : modes = [] := List.map_eq_nil_iff.1 later.symm
        exact .last mode
      · exact .more mode joint (ih later)

def Attribute.Lists (attr : Attribute) (modes : List LayoutMode) : Prop :=
  ∃ tokens, attr.args = .list tokens ∧ ListsModes tokens modes

theorem Attribute.Lists.unique {others : List LayoutMode} (lists : attr.Lists modes)
    (again : attr.Lists others) : modes = others := by
  obtain ⟨tokens, args, lists⟩ := lists
  obtain ⟨same, args', again⟩ := again
  obtain rfl : tokens = same := AttributeArgs.list.inj (args.symm.trans args')
  have words := lists.pieces_eq.symm.trans again.pieces_eq
  exact List.map_injective_iff.2 (fun _ _ => modeWord_inj.1) words

theorem Attribute.Lists.mem_iff (lists : attr.Lists modes) :
    (∃ others, attr.Lists others ∧ mode ∈ others) ↔ mode ∈ modes :=
  ⟨fun ⟨_, again, listed⟩ => again.unique lists ▸ listed, fun listed => ⟨modes, lists, listed⟩⟩

theorem Attribute.listArgs_eq_ok : attr.listArgs name = .ok tokens ↔ attr.args = .list tokens := by
  unfold listArgs
  cases attr.args <;> simp

end Lists

section Pieces

theorem longPath_ne_ok : longPath item tokens ≠ .ok mode := by
  fun_induction longPath item tokens with
  | case1 _ _ _ ih => exact ih
  | case2 _ _ _ => nofun
  | case3 => nofun

theorem noWord_ne_ok : noWord item tokens ≠ .ok mode := by
  unfold noWord
  split
  · nofun
  · split <;> nofun

theorem modeOfWord?_eq_some {word : String} : modeOfWord? word = some mode ↔ word = mode.text := by
  unfold modeOfWord?
  split <;> cases mode <;> simp_all [LayoutMode.text]

/-- The piece begins with the word of the mode, and the path does not go on behind it. -/
def ListItem.Names (item : ListItem) (mode : LayoutMode) : Prop :=
  ∃ rest, item.tokens = .ident mode.text :: rest ∧ Token.startsMark "::" rest = false

theorem readMode_eq_ok : readMode item = .ok mode ↔ item.Names mode := by
  unfold readMode ListItem.Names
  split
  next joint word rest tokens => simp [tokens, longPath_ne_ok]
  next joint rest noWord tokens => simp [tokens, noWord_ne_ok]
  next word rest tokens =>
    rw [tokens]
    split
    next path => simp [longPath_ne_ok, path]
    next bare =>
      have known : (∃ others, Token.ident word :: rest = .ident mode.text :: others ∧
          Token.startsMark "::" others = false) ↔ modeOfWord? word = some mode := by
        rw [modeOfWord?_eq_some]
        simp [bare]
      rw [known]
      cases modeOfWord? word <;> simp
  next noRooted noSeparator noIdent =>
    simp only [noWord_ne_ok, false_iff]
    rintro ⟨rest, tokens, -⟩
    exact noIdent _ _ tokens

theorem addMode_eq (asked : Option LayoutMode) (item : ListItem) :
    addMode asked item = readMode item >>= fun mode =>
      if asked.any (· ≠ mode) then .error .conflictingModes
      else if item.tokens.length ≠ 1 then .error (.malformed false (.sign ","))
      else .ok (some mode) := by
  unfold addMode
  refine bind_congr fun mode => ?_
  split
  · rfl
  · split <;> rfl

theorem not_any_ne :
    ¬ asked.any (· ≠ mode) = true ↔ ∀ other, asked = some other → other = mode := by
  simp only [Option.any_eq_true, decide_eq_true_eq, not_exists, not_and, ne_eq, not_not]

/-- A piece is taken if it is the bare word of a mode and no other was asked for before. -/
theorem addMode_eq_ok : addMode asked item = .ok next ↔
    ∃ mode, item.tokens = modeWord mode ∧ (∀ other, asked = some other → other = mode) ∧
      next = some mode := by
  rw [addMode_eq, bind_eq_ok]
  refine exists_congr fun mode => ?_
  rw [readMode_eq_ok]
  constructor
  · rintro ⟨⟨rest, tokens, -⟩, done⟩
    split at done
    · cases done
    next agrees =>
      split at done
      · cases done
      next alone =>
        have bare : rest = [] := by simpa [tokens] using alone
        cases done
        exact ⟨by rw [tokens, bare, modeWord], not_any_ne.1 agrees, rfl⟩
  · rintro ⟨tokens, agrees, rfl⟩
    refine ⟨⟨[], tokens, rfl⟩, ?_⟩
    rw [if_neg (not_any_ne.2 agrees), tokens]
    rfl

inductive ListItem.Unread (item : ListItem) : DeriveError → Prop
  | unknown {word : String} {rest : List Token} : item.tokens = .ident word :: rest →
      Token.startsMark "::" rest = false → (∀ mode : LayoutMode, word ≠ mode.text) →
      Unread item (.unknownMode word)
  | noWord {cause : DeriveError} : readMode item = .error cause →
      (∀ word rest, item.tokens = .ident word :: rest → Token.startsMark "::" rest = true) →
      Unread item cause

theorem readMode_bare {word : String} {rest : List Token}
    (tokens : item.tokens = .ident word :: rest)
    (bare : Token.startsMark "::" rest = false) :
    readMode item = match modeOfWord? word with
      | some mode => .ok mode
      | none => .error (.unknownMode word) := by
  unfold readMode
  rw [tokens]
  exact if_neg (ne_true_of_eq_false bare)

theorem readMode_eq_error : readMode item = .error cause ↔ item.Unread cause := by
  constructor
  · intro failed
    by_cases bare : ∃ word rest, item.tokens = .ident word :: rest ∧
        Token.startsMark "::" rest = false
    · obtain ⟨word, rest, tokens, bare⟩ := bare
      rw [readMode_bare tokens bare] at failed
      split at failed
      · cases failed
      next unknown =>
        cases failed
        refine .unknown tokens bare fun mode same => ?_
        rw [modeOfWord?_eq_some.2 same] at unknown
        cases unknown
    · refine .noWord failed fun word rest tokens => ?_
      exact eq_true_of_ne_false fun single => bare ⟨word, rest, tokens, single⟩
  · rintro (⟨tokens, bare, unknown⟩ | ⟨failed, -⟩)
    · rw [readMode_bare tokens bare]
      split
      next mode known => exact absurd (modeOfWord?_eq_some.1 known) (unknown mode)
      · rfl
    · exact failed

/-- Why a piece is not taken when modes were asked for before: no mode stands at its beginning, or
not the same, or something stands behind the word. -/
inductive ListItem.Faulty (before : LayoutMode → Prop) (item : ListItem) : DeriveError → Prop
  | unread {cause : DeriveError} : item.Unread cause → Faulty before item cause
  | conflicting {mode other : LayoutMode} : item.Names mode → before other → other ≠ mode →
      Faulty before item .conflictingModes
  | trailing {mode : LayoutMode} : item.Names mode → (∀ other, before other → other = mode) →
      item.tokens.length ≠ 1 → Faulty before item (.malformed false (.sign ","))

theorem addMode_eq_error :
    addMode asked item = .error cause ↔ item.Faulty (asked = some ·) cause := by
  rw [addMode_eq, bind_eq_error]
  constructor
  · rintro (failed | ⟨mode, read, failed⟩)
    · exact .unread (readMode_eq_error.1 failed)
    · split at failed
      next conflicts =>
        obtain ⟨other, before, differs⟩ := (Option.any_eq_true _ _).1 conflicts
        cases failed
        exact .conflicting (readMode_eq_ok.1 read) before (of_decide_eq_true differs)
      next agrees =>
        split at failed
        next long =>
          cases failed
          exact .trailing (readMode_eq_ok.1 read) (not_any_ne.1 agrees) long
        · cases failed
  · rintro (failed | ⟨names, before, differs⟩ | ⟨names, agrees, long⟩)
    · exact .inl (readMode_eq_error.2 failed)
    · refine .inr ⟨_, readMode_eq_ok.2 names, if_pos ?_⟩
      exact (Option.any_eq_true _ _).2 ⟨_, before, decide_eq_true differs⟩
    · refine .inr ⟨_, readMode_eq_ok.2 names, ?_⟩
      rw [if_neg (not_any_ne.2 agrees), if_pos long]

end Pieces

section Folds

variable {p q : LayoutMode → Prop}

/-- What is asked for in the end is what was asked for before and what `p` tells in addition. -/
def Joins (asked : Option LayoutMode) (p : LayoutMode → Prop) (next : Option LayoutMode) : Prop :=
  ∀ mode, next = some mode ↔ asked = some mode ∨ p mode

theorem joins_false : Joins asked (fun _ => False) next ↔ asked = next := by
  simp only [Joins, or_false]
  exact ⟨fun same => (Option.ext same).symm, fun same _ => same ▸ Iff.rfl⟩

theorem joins_eq : Joins asked (mode = ·) next ↔
    (∀ other, asked = some other → other = mode) ∧ next = some mode := by
  constructor
  · intro joins
    have last : next = some mode := (joins mode).2 (.inr rfl)
    refine ⟨fun other before => ?_, last⟩
    exact Option.some.inj (((joins other).2 (.inl before)).symm.trans last)
  · rintro ⟨agrees, rfl⟩ other
    rw [Option.some.injEq]
    exact ⟨.inr, fun known => known.elim (fun before => (agrees other before).symm) id⟩

theorem joins_or : Joins asked (fun mode => p mode ∨ q mode) next ↔
    ∃ found, Joins asked p found ∧ Joins found q next := by
  constructor
  · intro joins
    -- As soon as one mode is told it is the last word; until then none is asked for.
    by_cases first : ∃ mode, asked = some mode ∨ p mode
    · obtain ⟨mode, known⟩ := first
      have all : ∀ other, next = some other → other = mode := fun other last =>
        Option.some.inj (last.symm.trans ((joins mode).2 (known.imp_right .inl)))
      refine ⟨next, fun other => ⟨?_, fun known => (joins other).2 (known.imp_right .inl)⟩,
        fun other => ⟨.inl, ?_⟩⟩
      · intro last
        rw [all other last]
        exact known
      · exact fun known => known.elim id fun later => (joins other).2 (.inr (.inr later))
    · rw [not_exists] at first
      refine ⟨none, fun mode => ⟨nofun, fun known => (first mode known).elim⟩, fun mode => ?_⟩
      rw [joins mode, ← or_assoc, or_iff_right (first mode)]
      simp
  · rintro ⟨found, first, later⟩ mode
    rw [later mode, first mode, or_assoc]

theorem Joins.eq (joins : Joins none p asked) : (asked = some ·) = p :=
  funext fun mode => propext ((joins mode).trans (or_iff_right nofun))

/-- One mode is asked for, or none, unless both are. -/
theorem exists_joins_none : (∃ asked, Joins none p asked) ↔ ¬ (p .legacy ∧ p .pure) := by
  simp only [Joins, reduceCtorEq, false_or]
  constructor
  · rintro ⟨asked, same⟩ ⟨legacy, pure⟩
    exact absurd (((same .legacy).2 legacy).symm.trans ((same .pure).2 pure)) nofun
  · intro apart
    by_cases legacy : p .legacy
    · refine ⟨some .legacy, fun mode => ?_⟩
      cases mode <;> simp_all
    · by_cases pure : p .pure
      · refine ⟨some .pure, fun mode => ?_⟩
        cases mode <;> simp_all
      · refine ⟨none, fun mode => ?_⟩
        cases mode <;> simp_all

theorem joins_cons : Joins asked (· ∈ mode :: modes) next ↔
    (∀ other, asked = some other → other = mode) ∧ Joins (some mode) (· ∈ modes) next := by
  have members : (· ∈ mode :: modes) = fun other => mode = other ∨ other ∈ modes := by
    simp only [List.mem_cons, eq_comm]
  rw [members, joins_or]
  simp only [joins_eq]
  exact ⟨fun ⟨found, ⟨agrees, here⟩, later⟩ => ⟨agrees, here ▸ later⟩,
    fun ⟨agrees, later⟩ => ⟨some mode, ⟨agrees, rfl⟩, later⟩⟩

/-- A list is taken if its pieces are bare words of modes, and what they ask for is one mode. -/
theorem foldlM_addMode_eq_ok : items.foldlM addMode asked = .ok next ↔
    ∃ modes : List LayoutMode, items.map (·.tokens) = modes.map modeWord ∧
      Joins asked (· ∈ modes) next := by
  induction items generalizing asked with
  | nil =>
      rw [List.foldlM_nil]
      constructor
      · intro done
        cases done
        refine ⟨[], rfl, fun mode => ?_⟩
        simp
      · rintro ⟨modes, words, joins⟩
        obtain rfl : modes = [] := List.map_eq_nil_iff.1 words.symm
        simp only [List.not_mem_nil, joins_false] at joins
        exact congrArg _ joins
  | cons item items ih =>
      rw [List.foldlM_cons, bind_eq_ok]
      constructor
      · rintro ⟨found, taken, done⟩
        obtain ⟨mode, word, agrees, rfl⟩ := addMode_eq_ok.1 taken
        obtain ⟨modes, words, later⟩ := ih.1 done
        exact ⟨mode :: modes, by simp [word, words], joins_cons.2 ⟨agrees, later⟩⟩
      · rintro ⟨all, words, joins⟩
        obtain ⟨mode, modes, rfl, word, words⟩ := List.map_eq_cons_iff.1 words.symm
        obtain ⟨agrees, later⟩ := joins_cons.1 joins
        exact ⟨some mode, addMode_eq_ok.2 ⟨mode, word.symm, agrees, rfl⟩,
          ih.2 ⟨modes, words.symm, later⟩⟩

theorem addAttribute_foreign (foreign : attr.isNamed "univtype" = false) :
    addAttribute asked attr = .ok asked := by
  unfold addAttribute
  rw [foreign]
  rfl

theorem addAttribute_request (request : attr.isNamed "univtype" = true) :
    addAttribute asked attr =
      attr.listArgs "univtype" >>= fun tokens => (ListItem.split tokens).foldlM addMode asked := by
  unfold addAttribute
  rw [request]
  rfl

theorem addAttribute_request_eq_ok (request : attr.isNamed "univtype" = true) :
    addAttribute asked attr = .ok next ↔
      ∃ modes, attr.Lists modes ∧ Joins asked (· ∈ modes) next := by
  rw [addAttribute_request request, bind_eq_ok]
  simp only [Attribute.listArgs_eq_ok, foldlM_addMode_eq_ok]
  constructor
  · rintro ⟨tokens, args, modes, words, joins⟩
    exact ⟨modes, ⟨tokens, args, listsModes_iff.2 words⟩, joins⟩
  · rintro ⟨modes, ⟨tokens, args, lists⟩, joins⟩
    exact ⟨tokens, args, modes, lists.pieces_eq, joins⟩

def Requests (attributes : List Attribute) (mode : LayoutMode) : Prop :=
  ∃ attr ∈ attributes, attr.isNamed "univtype" = true ∧ ∃ modes, attr.Lists modes ∧ mode ∈ modes

/-- All requests are lists of modes, and no two of them ask for different ones. -/
structure Agreed (attributes : List Attribute) : Prop where
  listed : ∀ attr ∈ attributes, attr.isNamed "univtype" = true → ∃ modes, attr.Lists modes
  notBoth : ¬ (Requests attributes .legacy ∧ Requests attributes .pure)

theorem requests_cons : Requests (attr :: attributes) mode ↔
    (attr.isNamed "univtype" = true ∧ ∃ modes, attr.Lists modes ∧ mode ∈ modes) ∨
      Requests attributes mode := by
  simp only [Requests, List.mem_cons, or_and_right, exists_or, exists_eq_left]

theorem requests_nil : Requests [] = fun _ => False :=
  funext fun _ => eq_false fun ⟨_, member, _⟩ => nomatch member

/-- All attributes are passed if the requests among them are lists of modes, and what they ask for
is one mode. -/
theorem foldlM_addAttribute_eq_ok : attributes.foldlM addAttribute asked = .ok next ↔
    (∀ attr ∈ attributes, attr.isNamed "univtype" = true → ∃ modes, attr.Lists modes) ∧
      Joins asked (Requests attributes) next := by
  induction attributes generalizing asked with
  | nil =>
      rw [List.foldlM_nil, requests_nil, joins_false]
      exact ⟨fun done => ⟨nofun, Except.ok.inj done⟩, fun same => congrArg _ same.2⟩
  | cons attr attributes ih =>
      rw [List.foldlM_cons, bind_eq_ok, List.forall_mem_cons]
      simp only [ih]
      cases named : attr.isNamed "univtype" with
      | false =>
          have requests : Requests (attr :: attributes) = Requests attributes :=
            funext fun mode => propext (by simp [requests_cons, named])
          simp only [addAttribute_foreign named, requests]
          simp
      | true =>
          -- A request is the first of two steps; the other is that of the attributes behind it.
          simp only [addAttribute_request_eq_ok named, forall_const]
          constructor
          · rintro ⟨found, ⟨modes, lists, here⟩, listed, later⟩
            refine ⟨⟨⟨modes, lists⟩, listed⟩, fun mode => ?_⟩
            rw [requests_cons, lists.mem_iff, later, here, or_assoc]
            simp [named]
          · rintro ⟨⟨⟨modes, lists⟩, listed⟩, joins⟩
            have all : Joins asked (fun mode => mode ∈ modes ∨ Requests attributes mode) next := by
              intro mode
              rw [joins, requests_cons, lists.mem_iff, named, eq_self, true_and]
            obtain ⟨found, here, later⟩ := joins_or.1 all
            exact ⟨found, ⟨modes, lists, here⟩, listed, later⟩

theorem foldlM_addAttribute_none_eq_ok : attributes.foldlM addAttribute none = .ok asked ↔
    Agreed attributes ∧ Joins none (Requests attributes) asked := by
  rw [foldlM_addAttribute_eq_ok]
  constructor
  · rintro ⟨listed, joins⟩
    exact ⟨⟨listed, exists_joins_none.1 ⟨asked, joins⟩⟩, joins⟩
  · rintro ⟨agreed, joins⟩
    exact ⟨agreed.listed, joins⟩

end Folds

/-- The mode of an item whose requests agree is `legacy` if one of them is, and `pure` otherwise. -/
theorem layoutMode_eq_ok : layoutMode attributes = .ok mode ↔
    Agreed attributes ∧ (mode = .legacy ↔ Requests attributes .legacy) := by
  unfold layoutMode
  rw [bind_eq_ok]
  simp only [foldlM_addAttribute_none_eq_ok]
  have legacy {asked : Option LayoutMode} (joins : Joins none (Requests attributes) asked) :
      asked.getD .pure = .legacy ↔ Requests attributes .legacy := by
    have told := joins .legacy
    rw [or_iff_right nofun] at told
    rw [← told]
    cases asked <;> simp
  constructor
  · rintro ⟨asked, ⟨agreed, joins⟩, done⟩
    cases done
    exact ⟨agreed, legacy joins⟩
  · rintro ⟨agreed, tells⟩
    obtain ⟨asked, joins⟩ := exists_joins_none.2 agreed.notBoth
    refine ⟨asked, ⟨agreed, joins⟩, congrArg _ ?_⟩
    -- There are two modes, so they are told apart by whether they are `legacy`.
    have same := (legacy joins).trans tells.symm
    cases mode <;> cases known : asked.getD .pure <;> simp_all

theorem Agreed.exists_layoutMode (agreed : Agreed attributes) :
    ∃ mode, layoutMode attributes = .ok mode := by
  by_cases legacy : Requests attributes .legacy
  · exact ⟨.legacy, layoutMode_eq_ok.2 ⟨agreed, iff_of_true rfl legacy⟩⟩
  · exact ⟨.pure, layoutMode_eq_ok.2 ⟨agreed, iff_of_false nofun legacy⟩⟩

inductive Attribute.Unlisted (attr : Attribute) (name : String) : DeriveError → Prop
  | missing : attr.args = .none → Unlisted attr name (.missingArguments name)
  | value : attr.args = .value → Unlisted attr name (.valueForArguments name)

theorem Attribute.listArgs_eq_error :
    attr.listArgs name = .error cause ↔ attr.Unlisted name cause := by
  unfold listArgs
  constructor
  · intro failed
    split at failed
    · cases failed
      exact .missing ‹_›
    · cases failed
      exact .value ‹_›
    · cases failed
  · rintro (args | args) <;> rw [args]

/-- What is wrong with the first request that is not a list of modes, or not of those asked for
before it. -/
inductive Misrequested : List Attribute → DeriveError → Prop
  | unlisted {before after : List Attribute} {attr : Attribute} {cause : DeriveError} :
      Agreed before → attr.isNamed "univtype" = true → attr.Unlisted "univtype" cause →
      Misrequested (before ++ attr :: after) cause
  | piece {before after : List Attribute} {attr : Attribute} {tokens : List Token}
      {first later : List ListItem} {item : ListItem} {modes : List LayoutMode}
      {cause : DeriveError} :
      Agreed before → attr.isNamed "univtype" = true → attr.args = .list tokens →
      ListItem.split tokens = first ++ item :: later → first.map (·.tokens) = modes.map modeWord →
      ¬ ((Requests before .legacy ∨ .legacy ∈ modes) ∧ (Requests before .pure ∨ .pure ∈ modes)) →
      item.Faulty (fun mode => Requests before mode ∨ mode ∈ modes) cause →
      Misrequested (before ++ attr :: after) cause

theorem addAttribute_eq_error : addAttribute asked attr = .error cause ↔
    attr.isNamed "univtype" = true ∧ (attr.Unlisted "univtype" cause ∨
      ∃ tokens first item later, ∃ modes : List LayoutMode, attr.args = .list tokens ∧
        ListItem.split tokens = first ++ item :: later ∧
        first.map (·.tokens) = modes.map modeWord ∧
        ∃ found, Joins asked (· ∈ modes) found ∧ item.Faulty (found = some ·) cause) := by
  cases named : attr.isNamed "univtype" with
  | false => simp [addAttribute_foreign named]
  | true =>
      rw [addAttribute_request named, bind_eq_error]
      simp only [Attribute.listArgs_eq_error, Attribute.listArgs_eq_ok, foldlM_eq_error,
        foldlM_addMode_eq_ok, addMode_eq_error]
      refine Iff.trans (or_congr_right ?_) (true_and _).symm.to_iff
      constructor
      · rintro ⟨tokens, args, first, item, later, found, split, ⟨modes, words, joins⟩, faulty⟩
        exact ⟨tokens, first, item, later, modes, args, split, words, found, joins, faulty⟩
      · rintro ⟨tokens, first, item, later, modes, args, split, words, found, joins, faulty⟩
        exact ⟨tokens, args, first, item, later, found, split, ⟨modes, words, joins⟩, faulty⟩

/-- The mode is refused for the first thing that is wrong with the requests, and for nothing else.
-/
theorem layoutMode_eq_error :
    layoutMode attributes = .error cause ↔ Misrequested attributes cause := by
  unfold layoutMode
  rw [bind_eq_error, or_iff_left (fun ⟨_, _, done⟩ => nomatch done), foldlM_eq_error]
  constructor
  · rintro ⟨before, attr, after, asked, rfl, passed, failed⟩
    obtain ⟨agreed, joins⟩ := foldlM_addAttribute_none_eq_ok.1 passed
    obtain ⟨named, unlisted | ⟨tokens, first, item, later, modes, args, split, words, found, joined,
      faulty⟩⟩ := addAttribute_eq_error.1 failed
    · exact .unlisted agreed named unlisted
    · have all := joins_or.2 ⟨asked, joins, joined⟩
      have apart := exists_joins_none.1 ⟨found, all⟩
      exact .piece agreed named args split words apart (all.eq ▸ faulty)
  · rintro (⟨agreed, named, unlisted⟩ |
      @⟨before, _, _, _, _, _, _, modes, _, agreed, named, args, split, words, apart, faulty⟩)
    · obtain ⟨asked, joins⟩ := exists_joins_none.2 agreed.notBoth
      exact ⟨_, _, _, asked, rfl, foldlM_addAttribute_none_eq_ok.2 ⟨agreed, joins⟩,
        addAttribute_eq_error.2 ⟨named, .inl unlisted⟩⟩
    · obtain ⟨found, all⟩ :=
        exists_joins_none (p := fun mode => Requests before mode ∨ mode ∈ modes) |>.2 apart
      obtain ⟨asked, joins, joined⟩ := joins_or.1 all
      refine ⟨_, _, _, asked, rfl, foldlM_addAttribute_none_eq_ok.2 ⟨agreed, joins⟩, ?_⟩
      exact addAttribute_eq_error.2 ⟨named, .inr ⟨_, _, _, _, _, args, split, words, found, joined,
        all.eq.symm ▸ faulty⟩⟩

end TypeHost.Derive
