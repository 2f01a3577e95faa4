import ClassExpansion.Code.Constructor
import ClassExpansion.Proofs.TokenReading

set_option autoImplicit false

/- What the written body of a method does, step by step. Reading a body gives back the steps that it
was written from, and each name in it is a word of the language or a variable of a step. -/
namespace ClassExpansion

/-- What is written part by part is read part by part. -/
theorem mapM_map_of_inverse {α β : Type} (read : β → Option α) (write : α → β)
    (inverse : ∀ a, read (write a) = some a) (parts : List α) :
    (parts.map write).mapM read = some parts := by
  induction parts with
  | nil => rfl
  | cons part rest ih =>
    rw [List.map_cons, List.mapM_cons, inverse, ih]
    rfl

namespace Tokens

/-- The name that the tokens are. -/
def name? : Tokens → Option String
  | [.ident name] => some name
  | _ => none

/-- The names between commas. -/
def names? (tokens : Tokens) : Option (List String) := (listed tokens).mapM name?

theorem good_name (name : String) : Name.token name ≠ [] ∧ Without ',' (Name.token name) :=
  ⟨List.cons_ne_nil _ _, without_of_all _ _ rfl⟩

theorem listed_names (names : List String) :
    listed (commaSeparated (names.map Name.token)) = names.map Name.token :=
  listed_commaSeparated _ (List.forall_mem_map.mpr fun name _ => good_name name)

theorem names?_commaSeparated (names : List String) :
    names? (commaSeparated (names.map Name.token)) = some names := by
  rw [names?, listed_names]
  exact mapM_map_of_inverse name? Name.token (fun _ => rfl) names

end Tokens

namespace Initializer

/-- An entry of a struct literal: a field alone, or with the variable that gives its value. -/
def denoted? : Tokens → Option Initializer
  | [.ident name] => some ⟨name, name⟩
  | [.ident storage, .punct ':' _, .ident source] => some ⟨storage, source⟩
  | _ => none

theorem denoted?_tokens (initializer : Initializer) :
    denoted? initializer.tokens = some initializer := by
  obtain ⟨storage, source⟩ := initializer
  unfold tokens
  split
  · next same =>
    cases same
    rfl
  · rfl

theorem good_tokens (initializer : Initializer) :
    initializer.tokens ≠ [] ∧ Tokens.Without ',' initializer.tokens := by
  unfold tokens
  split
  · exact Tokens.good_name initializer.source
  · exact ⟨List.cons_ne_nil _ _, Tokens.without_of_all _ _ rfl⟩

theorem listed_tokens (initializers : List Initializer) :
    Tokens.listed (commaSeparated (initializers.map tokens)) = initializers.map tokens :=
  Tokens.listed_commaSeparated _ (List.forall_mem_map.mpr fun i _ => i.good_tokens)

end Initializer

namespace Step

/-- The names before the last argument, which has to be the default value of a type. -/
def forwarded? (arguments : Tokens) : Option (List String) :=
  match (Tokens.listed arguments).reverse with
  | last :: names =>
    match Tokens.path last with
    | (["core", "default", "Default", "default"], [.group .paren []]) =>
      names.reverse.mapM Tokens.name?
    | _ => none
  | [] => none

/-- The steps that the body of a method consists of. Which lints a statement allows does not
matter. -/
def denoted? : Tokens → Option (List Step)
  | [] => some []
  | [.ident "this"] => some [.giveObject]
  | [.ident "Self", .punct ':' _, .punct ':' _, .ident "new_with", .group .paren arguments] =>
    (forwarded? arguments).map fun names => [.forward names]
  | .punct '#' _ :: .group .bracket [.ident "allow", .group .paren _] :: rest => denoted? rest
  | .ident "let" :: .ident "mut" :: .ident "this" :: .punct '=' _ :: .ident "Self" ::
      .group .brace entries :: .punct ';' _ :: rest => do
    return .make (← (Tokens.listed entries).mapM Initializer.denoted?) :: (← denoted? rest)
  | .ident "let" :: .ident optionsName :: .group .brace names :: .punct '=' _ ::
      .ident "options" :: .punct ';' _ :: rest => do
    return .unpack optionsName (← Tokens.names? names) :: (← denoted? rest)
  | .ident "trait" :: .ident declared :: .group .brace method :: .ident "impl" :: .ident given ::
      .ident "for" :: .ident cls :: .group .brace [] :: rest =>
    if declared = given then (denoted? rest).map (.standIn cls method :: ·) else none
  | .ident "this" :: .punct '.' _ :: .ident name :: .group .paren arguments ::
      .punct ';' _ :: rest => do
    return .call name (← Tokens.names? arguments) :: (← denoted? rest)
  | _ => none

/-- Other steps may follow, since no value is given. -/
def IsStatement : Step → Prop
  | unpack _ _ => True
  | make _ => True
  | standIn _ _ => True
  | call _ _ => True
  | giveObject => False
  | forward _ => False

theorem denoted?_append (step : Step) (rest : Tokens) (statement : step.IsStatement) :
    denoted? (step.tokens ++ rest) = (denoted? rest).map (step :: ·) := by
  cases step with
  | unpack optionsName names =>
    have shape : (unpack optionsName names).tokens ++ rest =
        .ident "let" :: .ident optionsName ::
          .group .brace (commaSeparated (names.map Name.token)) :: .punct '=' false ::
          .ident "options" :: .punct ';' false :: rest := rfl
    rw [shape, denoted?, Tokens.names?_commaSeparated]
    cases denoted? rest with
    | none => rfl
    | some steps => rfl
  | make initializers =>
    have shape : (make initializers).tokens ++ rest =
        .punct '#' false :: .group .bracket [.ident "allow", .group .paren [.ident "unused_mut"]] ::
          .ident "let" :: .ident "mut" :: .ident "this" :: .punct '=' false :: .ident "Self" ::
          .group .brace (commaSeparated (initializers.map Initializer.tokens)) ::
          .punct ';' false :: rest := rfl
    rw [shape, denoted?, denoted?, Initializer.listed_tokens,
      mapM_map_of_inverse _ _ Initializer.denoted?_tokens]
    cases denoted? rest with
    | none => rfl
    | some steps => rfl
  | standIn cls method =>
    have shape : (standIn cls method).tokens ++ rest =
        .punct '#' false :: .group .bracket [.ident "allow", .group .paren [.ident "dead_code"]] ::
          .ident "trait" :: .ident HookCall.standIn :: .group .brace method :: .ident "impl" ::
          .ident HookCall.standIn :: .ident "for" :: .ident cls :: .group .brace [] :: rest := rfl
    rw [shape, denoted?, denoted?, if_pos rfl]
  | call name arguments =>
    have shape : (call name arguments).tokens ++ rest =
        .ident "this" :: .punct '.' false :: .ident name ::
          .group .paren (commaSeparated (arguments.map Name.token)) ::
          .punct ';' false :: rest := rfl
    rw [shape, denoted?, Tokens.names?_commaSeparated]
    cases denoted? rest with
    | none => rfl
    | some steps => rfl
  | giveObject => exact statement.elim
  | forward names => exact statement.elim

theorem denoted?_statements (steps : List Step) (rest : Tokens)
    (statements : ∀ step ∈ steps, step.IsStatement) :
    denoted? (steps.flatMap tokens ++ rest) = (denoted? rest).map (steps ++ ·) := by
  induction steps with
  | nil => exact Option.map_id'.symm
  | cons step more ih =>
    obtain ⟨first, others⟩ := List.forall_mem_cons.mp statements
    rw [List.flatMap_cons, List.append_assoc, denoted?_append _ _ first, ih others, Option.map_map]
    rfl

theorem denoted?_forward (names : List String) :
    denoted? (forward names).tokens = some [forward names] := by
  have good : ∀ part ∈ names.map Name.token ++ [Code.defaultValue],
      part ≠ [] ∧ Tokens.Without ',' part := by
    rw [List.forall_mem_append, List.forall_mem_map, List.forall_mem_singleton]
    exact ⟨fun name _ => Tokens.good_name name, List.cons_ne_nil _ _,
      Tokens.without_of_all _ _ rfl⟩
  have path : Tokens.path Code.defaultValue =
      (["core", "default", "Default", "default"], [.group .paren []]) := rfl
  have read : forwarded? (commaSeparated (names.map Name.token ++ [Code.defaultValue])) =
      some names := by
    rw [forwarded?, Tokens.listed_commaSeparated _ good, List.reverse_concat]
    simp only [path, List.reverse_reverse]
    exact mapM_map_of_inverse Tokens.name? Name.token (fun _ => rfl) names
  have shape : (forward names).tokens =
      [.ident "Self", .punct ':' true, .punct ':' false, .ident "new_with",
        .group .paren (commaSeparated (names.map Name.token ++ [Code.defaultValue]))] := rfl
  rw [shape, denoted?, read]
  rfl

end Step

namespace Constructor

theorem isStatement_steps (call : HookCall) (cls : String) :
    ∀ step ∈ call.steps cls, step.IsStatement := by
  intro step member
  rcases List.mem_append.mp member with before | calls
  · split at before
    · cases before
    · rw [List.mem_singleton.mp before]
      exact trivial
  · rw [List.mem_singleton.mp calls]
    exact trivial

/-- The body of each constructor is read as the steps that it was written from. -/
theorem denoted?_body (c : Constructor) (m : Method) (member : m ∈ c.methods) :
    Step.denoted? (m.body.flatMap Step.tokens) = some m.body := by
  have object (front : List Step) (statements : ∀ step ∈ front, step.IsStatement) :
      Step.denoted? ((front ++ c.objectSteps).flatMap Step.tokens) =
        some (front ++ c.objectSteps) := by
    have all : ∀ step ∈ front ++ .make c.initializers :: c.hook.steps c.cls,
        step.IsStatement := by
      rw [List.forall_mem_append, List.forall_mem_cons]
      exact ⟨statements, trivial, isStatement_steps c.hook c.cls⟩
    have split : front ++ c.objectSteps =
        front ++ .make c.initializers :: c.hook.steps c.cls ++ [.giveObject] := by
      rw [objectSteps, List.append_assoc, List.cons_append]
    rw [split, List.flatMap_append, Step.denoted?_statements _ _ all]
    rfl
  have making : Step.denoted? (c.making.body.flatMap Step.tokens) = some c.making.body := by
    unfold Constructor.making
    split
    · exact object [] nofun
    · refine object [_] ?_
      rw [List.forall_mem_singleton]
      exact trivial
  unfold methods at member
  split at member
  · rw [List.mem_singleton.mp member]
    exact making
  · rcases List.mem_pair.mp member with rfl | rfl
    · have shape : c.forwarding.body.flatMap Step.tokens =
          (Step.forward (c.required.map (·.name))).tokens := List.flatMap_singleton _ _
      rw [shape]
      exact Step.denoted?_forward _
    · exact making

end Constructor

namespace Token

mutual

/-- The names in the token, those within groups included. -/
def idents : Token → List String
  | ident text => [text]
  | punct _ _ => []
  | literal _ => []
  | group _ body => identsAll body

def identsAll : Tokens → List String
  | [] => []
  | t :: rest => t.idents ++ identsAll rest

end

theorem identsAll_append (front back : Tokens) :
    identsAll (front ++ back) = identsAll front ++ identsAll back := by
  induction front with
  | nil => rfl
  | cons t rest ih => rw [List.cons_append, identsAll, ih, identsAll, List.append_assoc]

theorem identsAll_commaSeparated (parts : List Tokens) :
    identsAll (commaSeparated parts) = parts.flatMap identsAll := by
  induction parts with
  | nil => rfl
  | cons part rest ih =>
    cases rest with
    | nil => exact (List.flatMap_singleton _ _).symm
    | cons next more =>
      have step : commaSeparated (part :: next :: more) =
          part ++ .punct ',' false :: commaSeparated (next :: more) :=
        List.append_assoc _ _ _
      rw [step, identsAll_append, identsAll, ih]
      rfl

theorem identsAll_names (names : List String) :
    identsAll (commaSeparated (names.map Name.token)) = names := by
  rw [identsAll_commaSeparated, List.flatMap_map]
  exact List.flatMap_singleton' names

end Token

namespace Variable

def ident : Variable → String
  | field ident => ident
  | object => "this"
  | options => "options"

theorem map_ident_field (idents : List String) : (idents.map field).map ident = idents := by
  rw [List.map_map]
  exact List.map_id' idents

end Variable

namespace Step

/-- The names in the step that are no variables: words of the language, lints, and the names of
fields, types and methods. The method that stands in for a hook is of its own. -/
def words : Step → List String
  | unpack optionsName _ => ["let", optionsName]
  | make initializers => ["allow", "unused_mut", "let", "mut", "Self"]
      ++ (initializers.filter fun i => i.storage != i.source).map (·.storage)
  | standIn cls method => ["allow", "dead_code", "trait", HookCall.standIn]
      ++ Token.identsAll method ++ ["impl", HookCall.standIn, "for", cls]
  | call name _ => [name]
  | giveObject => []
  | forward _ => ["Self", "new_with", "core", "default", "Default", "default"]

theorem perm_idents_initializers (initializers : List Initializer) :
    (Token.identsAll (commaSeparated (initializers.map Initializer.tokens))).Perm
      ((initializers.filter fun i => i.storage != i.source).map (·.storage)
        ++ initializers.map (·.source)) := by
  rw [Token.identsAll_commaSeparated, List.flatMap_map]
  induction initializers with
  | nil => exact .nil
  | cons initializer rest ih =>
    obtain ⟨storage, source⟩ := initializer
    rw [List.flatMap_cons]
    by_cases same : storage = source
    · have alone : Token.identsAll (Initializer.tokens ⟨storage, source⟩) = [source] := by
        rw [Initializer.tokens, if_pos same]
        rfl
      rw [alone, List.filter_cons_of_neg (by simp [same])]
      exact (ih.cons source).trans List.perm_middle.symm
    · have both : Token.identsAll (Initializer.tokens ⟨storage, source⟩) = [storage, source] := by
        rw [Initializer.tokens, if_neg same]
        rfl
      rw [both, List.filter_cons_of_pos (by simp [same])]
      exact ((ih.cons source).trans List.perm_middle.symm).cons storage

/-- Every name that a step is written with is one of its words, or a variable that it introduces or
reads. -/
theorem perm_idents_tokens (step : Step) : (Token.identsAll step.tokens).Perm
    (step.words ++ (step.binds ++ step.reads).map Variable.ident) := by
  cases step with
  | unpack optionsName names =>
    have idents : Token.identsAll (unpack optionsName names).tokens =
        ["let", optionsName] ++ (Token.identsAll (commaSeparated (names.map Name.token))
          ++ ["options"]) := rfl
    rw [idents, Token.identsAll_names, binds, reads, List.map_append, Variable.map_ident_field]
    exact .refl _
  | make initializers =>
    have idents : Token.identsAll (make initializers).tokens =
        ["allow", "unused_mut", "let", "mut"] ++ "this" :: "Self" ::
          (Token.identsAll (commaSeparated (initializers.map Initializer.tokens)) ++ []) := rfl
    have entries := perm_idents_initializers initializers
    have read : (make initializers).reads.map Variable.ident = initializers.map (·.source) := by
      rw [reads, List.map_map]
      rfl
    -- The object stands before the literal that gives its value.
    have moved (labels sources : List String) : ("this" :: ("Self" :: labels ++ sources)).Perm
        ("Self" :: labels ++ "this" :: sources) := List.perm_middle.symm
    rw [idents, List.append_nil, List.map_append, read]
    exact (((entries.cons "Self").cons "this").trans (moved _ _)).append_left
      ["allow", "unused_mut", "let", "mut"]
  | standIn cls method =>
    have idents : Token.identsAll (standIn cls method).tokens =
        ["allow", "dead_code", "trait", HookCall.standIn] ++ (Token.identsAll method
          ++ ["impl", HookCall.standIn, "for", cls]) := rfl
    rw [idents, words, binds, reads, List.append_nil, List.map_nil, List.append_nil,
      List.append_assoc]
  | call name arguments =>
    have idents : Token.identsAll (call name arguments).tokens =
        "this" :: name :: (Token.identsAll (commaSeparated (arguments.map Name.token)) ++ []) := rfl
    rw [idents, Token.identsAll_names, List.append_nil, binds, reads, List.nil_append,
      List.map_cons, Variable.map_ident_field]
    exact .swap _ _ _
  | giveObject => exact .refl _
  | forward names =>
    have idents : Token.identsAll (forward names).tokens = ["Self", "new_with"] ++
        (Token.identsAll (commaSeparated (names.map Name.token ++ [Code.defaultValue])) ++ []) :=
      rfl
    have arguments :
        Token.identsAll (commaSeparated (names.map Name.token ++ [Code.defaultValue])) =
          names ++ ["core", "default", "Default", "default"] := by
      rw [Token.identsAll_commaSeparated, List.flatMap_append, List.flatMap_map]
      exact congrArg (· ++ _) (List.flatMap_singleton' names)
    rw [idents, arguments, List.append_nil, binds, reads, List.nil_append,
      Variable.map_ident_field]
    exact List.perm_append_comm.append_left ["Self", "new_with"]

/-- Every name among the tokens is a word of a step, or a variable that a step introduces or reads,
and stands there as often as the steps have it. -/
def AccountFor (steps : List Step) (tokens : Tokens) : Prop :=
  (Token.identsAll tokens).Perm
    (steps.flatMap words ++ (steps.flatMap binds ++ steps.flatMap reads).map Variable.ident)

theorem accountFor_flatMap (steps : List Step) : AccountFor steps (steps.flatMap tokens) := by
  induction steps with
  | nil => exact .nil
  | cons step rest ih =>
    have first := step.perm_idents_tokens.count_eq
    have others := List.Perm.count_eq ih
    rw [AccountFor, List.flatMap_cons, Token.identsAll_append, List.perm_iff_count]
    intro name
    simp only [List.map_append, List.flatMap_cons, List.count_append, first, others]
    omega

end Step

end ClassExpansion
