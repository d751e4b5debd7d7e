import Mathlib.Data.Set.List
import TypeHost.Proofs.Derive.Modes

/-! The same requests written in other ways: in another order, with a mode asked for once more, or
in more attributes. What is asked for is seen from the pieces of all lists together, so none of
this changes the mode or whether there is one. -/
namespace TypeHost.Derive

variable {attr : Attribute} {name : String} {tokens piece : List Token} {mode : LayoutMode}
  {modes : List LayoutMode} {attributes others : List Attribute}

/-- What an attribute asks for, piece by piece, whether or not it is a mode. -/
def Attribute.requested (attr : Attribute) : List (List Token) :=
  match attr.args with
  | .list tokens => if attr.isNamed "univtype" then pieces tokens else []
  | _ => []

def requested (attributes : List Attribute) : List (List Token) :=
  attributes.flatMap Attribute.requested

def Attribute.Delimited (attr : Attribute) : Prop :=
  attr.isNamed "univtype" = true → ∃ tokens, attr.args = .list tokens

theorem Attribute.requested_list (named : attr.isNamed "univtype" = true)
    (args : attr.args = .list tokens) : attr.requested = pieces tokens := by
  rw [requested, args]
  exact if_pos named

theorem Attribute.requested_foreign (foreign : attr.isNamed "univtype" = false) :
    attr.requested = [] := by
  unfold requested
  split
  · rw [foreign]
    rfl
  · rfl

theorem Attribute.Lists.requested (lists : attr.Lists modes)
    (named : attr.isNamed "univtype" = true) : attr.requested = modes.map modeWord := by
  obtain ⟨tokens, args, lists⟩ := lists
  rw [requested_list named args, lists.pieces_eq]

theorem Attribute.listed_iff : (attr.isNamed "univtype" = true → ∃ modes, attr.Lists modes) ↔
    attr.Delimited ∧ ∀ piece ∈ attr.requested, ∃ mode, modeWord mode = piece := by
  constructor
  · intro listed
    refine ⟨fun named => ?_, fun piece member => ?_⟩
    · obtain ⟨modes, tokens, args, -⟩ := listed named
      exact ⟨tokens, args⟩
    · cases named : attr.isNamed "univtype" with
      | false =>
          rw [requested_foreign named] at member
          cases member
      | true =>
          obtain ⟨modes, lists⟩ := listed named
          rw [lists.requested named] at member
          exact (List.mem_map.1 member).imp fun _ => And.right
  · rintro ⟨delimited, words⟩ named
    obtain ⟨tokens, args⟩ := delimited named
    rw [requested_list named args] at words
    obtain ⟨modes, all⟩ : pieces tokens ∈ Set.range (List.map modeWord) := by
      rw [Set.range_list_map]
      exact words
    exact ⟨modes, tokens, args, listsModes_iff.2 all.symm⟩

theorem requests_iff
    (listed : ∀ attr ∈ attributes, attr.isNamed "univtype" = true → ∃ modes, attr.Lists modes) :
    Requests attributes mode ↔ modeWord mode ∈ requested attributes := by
  rw [requested, List.mem_flatMap]
  refine exists_congr fun attr => and_congr_right fun member => ?_
  cases named : attr.isNamed "univtype" with
  | false => simp [Attribute.requested_foreign named]
  | true =>
      obtain ⟨modes, lists⟩ := listed attr member named
      rw [lists.mem_iff, lists.requested named, List.mem_map]
      simp [modeWord_inj]

/-- Whether the requests agree is seen from their pieces. -/
theorem agreed_iff : Agreed attributes ↔ (∀ attr ∈ attributes, attr.Delimited) ∧
    (∀ piece ∈ requested attributes, ∃ mode, modeWord mode = piece) ∧
    ¬ (modeWord .legacy ∈ requested attributes ∧ modeWord .pure ∈ requested attributes) := by
  have listed : (∀ attr ∈ attributes, attr.isNamed "univtype" = true → ∃ modes, attr.Lists modes) ↔
      (∀ attr ∈ attributes, attr.Delimited) ∧
        ∀ piece ∈ requested attributes, ∃ mode, modeWord mode = piece := by
    simp only [Attribute.listed_iff, requested, List.mem_flatMap]
    constructor
    · intro all
      exact ⟨fun attr member => (all attr member).1,
        fun piece ⟨attr, member, asked⟩ => (all attr member).2 piece asked⟩
    · rintro ⟨delimited, words⟩ attr member
      exact ⟨delimited attr member, fun piece asked => words piece ⟨attr, member, asked⟩⟩
  constructor
  · intro agreed
    refine ⟨(listed.1 agreed.listed).1, (listed.1 agreed.listed).2, ?_⟩
    rw [← requests_iff agreed.listed, ← requests_iff agreed.listed]
    exact agreed.notBoth
  · rintro ⟨delimited, words, notBoth⟩
    have all := listed.2 ⟨delimited, words⟩
    rw [← requests_iff all, ← requests_iff all] at notBoth
    exact ⟨all, notBoth⟩

def Attribute.withList (attr : Attribute) (tokens : List Token) : Attribute :=
  { attr with args := .list tokens }

@[simp] theorem Attribute.isNamed_withList :
    (attr.withList tokens).isNamed name = attr.isNamed name :=
  rfl

theorem Attribute.requested_withList (named : attr.isNamed "univtype" = true) :
    (attr.withList tokens).requested = pieces tokens :=
  requested_list named rfl

theorem Attribute.delimited_withList : (attr.withList tokens).Delimited :=
  fun _ => ⟨tokens, rfl⟩

inductive Rewords : List Attribute → List Attribute → Prop
  /-- Requests stand in another order, and anywhere among the other attributes. -/
  | permuted {attributes others : List Attribute} : attributes.Perm others →
      attributes.filter (!·.isNamed "univtype") = others.filter (!·.isNamed "univtype") →
      Rewords attributes others
  /-- A mode that is asked for somewhere is asked for once more. -/
  | repeated {before after : List Attribute} {attr : Attribute} {tokens longer : List Token}
      {first later : List (List Token)} {mode : LayoutMode} :
      attr.isNamed "univtype" = true → attr.args = .list tokens → pieces tokens = first ++ later →
      pieces longer = first ++ modeWord mode :: later →
      modeWord mode ∈ requested (before ++ attr :: after) →
      Rewords (before ++ attr :: after) (before ++ attr.withList longer :: after)
  /-- A list is written as several. -/
  | divided {before after : List Attribute} {attr : Attribute} {tokens : List Token}
      {parts : List (List Token)} :
      attr.isNamed "univtype" = true → attr.args = .list tokens →
      parts.flatMap pieces = pieces tokens →
      Rewords (before ++ attr :: after)
        (before ++ parts.map attr.withList ++ after)
  | trans {attributes others last : List Attribute} : Rewords attributes others →
      Rewords others last → Rewords attributes last

@[simp] theorem requested_append {first later : List Attribute} :
    requested (first ++ later) = requested first ++ requested later :=
  List.flatMap_append

@[simp] theorem requested_cons :
    requested (attr :: attributes) = attr.requested ++ requested attributes :=
  List.flatMap_cons

theorem Rewords.delimited (rewords : Rewords attributes others) :
    (∀ attr ∈ attributes, attr.Delimited) ↔ ∀ attr ∈ others, attr.Delimited := by
  induction rewords with
  | permuted perm _ => simp only [perm.mem_iff]
  | repeated named args _ _ _ =>
      simp only [List.forall_mem_append, List.forall_mem_cons]
      exact and_congr_right fun _ => and_congr_left fun _ =>
        iff_of_true (fun _ => ⟨_, args⟩) Attribute.delimited_withList
  | divided named args parts =>
      simp only [List.forall_mem_append, List.forall_mem_cons, List.forall_mem_map, and_assoc]
      refine and_congr_right fun _ => and_congr_left fun _ => ?_
      exact iff_of_true (fun _ => ⟨_, args⟩) fun _ _ => Attribute.delimited_withList
  | trans _ _ first later => exact first.trans later

theorem Rewords.mem_requested (rewords : Rewords attributes others) :
    piece ∈ requested attributes ↔ piece ∈ requested others := by
  induction rewords with
  | permuted perm _ => exact (perm.flatMap_right _).mem_iff
  | @repeated before after attr _ _ _ _ mode named args split longer asked =>
      -- The only piece that is added was there before.
      have again : piece = modeWord mode → piece ∈ requested (before ++ attr :: after) :=
        fun same => same ▸ asked
      simp only [requested_append, requested_cons, Attribute.requested_list named args, split,
        Attribute.requested_withList named, longer, List.mem_append, List.mem_cons] at again ⊢
      tauto
  | @divided _ _ attr _ parts named args whole =>
      have divided : requested (parts.map attr.withList) = parts.flatMap pieces := by
        rw [requested, List.flatMap_map]
        exact congrArg (List.flatMap · parts) (funext fun _ => Attribute.requested_withList named)
      simp only [requested_append, requested_cons, divided, whole,
        Attribute.requested_list named args, List.append_assoc]
  | trans _ _ first later => exact first.trans later

theorem Rewords.foreign (rewords : Rewords attributes others) :
    attributes.filter (!·.isNamed "univtype") = others.filter (!·.isNamed "univtype") := by
  induction rewords with
  | permuted _ foreign => exact foreign
  | repeated named _ _ _ _ => simp [named]
  | divided named _ _ => simp [named]
  | trans _ _ first later => exact first.trans later

theorem Rewords.agreed (rewords : Rewords attributes others) :
    Agreed attributes ↔ Agreed others := by
  simp only [agreed_iff, rewords.delimited, rewords.mem_requested]

theorem Rewords.requests (rewords : Rewords attributes others) (agreed : Agreed attributes) :
    Requests attributes mode ↔ Requests others mode := by
  rw [requests_iff agreed.listed, requests_iff (rewords.agreed.1 agreed).listed,
    rewords.mem_requested]

/-- The mode does not depend on how the requests are written. -/
theorem Rewords.layoutMode_eq_ok (rewords : Rewords attributes others) :
    layoutMode attributes = .ok mode ↔ layoutMode others = .ok mode := by
  rw [Derive.layoutMode_eq_ok, Derive.layoutMode_eq_ok, ← rewords.agreed]
  exact and_congr_right fun agreed => iff_congr Iff.rfl (rewords.requests agreed)

end TypeHost.Derive
