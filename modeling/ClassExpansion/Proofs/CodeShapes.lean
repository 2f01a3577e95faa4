import ClassExpansion.Proofs.Denotation
import ClassExpansion.Proofs.StepReading
import ClassExpansion.Proofs.Written

set_option autoImplicit false

/- What generated code looks like, token by token. Types, visibilities and values are tokens of any
kind, so a record and its code are related, and only bodies of methods and directories are read. -/
namespace ClassExpansion

/-- The parts with the separator between neighbours. -/
inductive Separated (separator : Tokens) : List Tokens → Tokens → Prop
  | nil : Separated separator [] []
  | last (part : Tokens) : Separated separator [part] part
  | cons (part next : Tokens) (rest : List Tokens) (tokens : Tokens)
      (more : Separated separator (next :: rest) tokens) :
      Separated separator (part :: next :: rest) (part ++ separator ++ tokens)

theorem separated_joinTokens (separator : Tokens) (parts : List Tokens) :
    Separated separator parts (joinTokens separator parts) := by
  induction parts with
  | nil => exact .nil
  | cons part rest ih =>
    cases rest with
    | nil => exact .last part
    | cons next more => exact .cons part next more _ ih

theorem separated_commaSeparated (parts : List Tokens) :
    Separated [.punct ',' false] parts (commaSeparated parts) :=
  separated_joinTokens _ parts

/-- Each record with the part of the code that is its own. -/
theorem forall₂_map {α β : Type} (related : α → β → Prop) (write : α → β) (all : List α)
    (each : ∀ a ∈ all, related a (write a)) : List.Forall₂ related all (all.map write) :=
  List.forall₂_map_right_iff.mpr (List.forall₂_same.mpr each)

/-- Attributes of which nothing more is said. -/
inductive AreAttributes : Tokens → Prop
  | nil : AreAttributes []
  | cons (body rest : Tokens) (more : AreAttributes rest) :
      AreAttributes (.punct '#' false :: .group .bracket body :: rest)

/-! ### Structs -/

/-- A path of names with colons between them. -/
def NamePath.IsWrittenAs (path : NamePath) (tokens : Tokens) : Prop :=
  ∃ names, Separated [.punct ':' true, .punct ':' false] (path.names.map fun n => [.ident n]) names ∧
    tokens = (if path.rooted then [.punct ':' true, .punct ':' false] else []) ++ names

/-- What an attribute says, after its path. -/
inductive MetaBody.IsWrittenAs : MetaBody → Tokens → Prop
  | bare : IsWrittenAs .bare []
  | list (delimiter : Delimiter) (inner : Tokens) :
      IsWrittenAs (.list delimiter inner) [.group delimiter inner]
  | value (e : Expr) : IsWrittenAs (.value e) (.punct '=' false :: e.tokens)

def Attribute.IsWrittenAs (a : Attribute) (tokens : Tokens) : Prop :=
  ∃ path body, a.item.path.IsWrittenAs path ∧ a.item.body.IsWrittenAs body ∧
    tokens = .punct '#' false :: ((if a.inner then [.punct '!' false] else [])
      ++ [.group .bracket (path ++ body)])

theorem Attribute.isWrittenAs (a : Attribute) : a.IsWrittenAs a.tokens := by
  obtain ⟨inner, ⟨⟨rooted, names⟩, body⟩⟩ := a
  refine ⟨NamePath.tokens ⟨rooted, names⟩, _, ⟨_, separated_joinTokens _ _, rfl⟩, ?_, rfl⟩
  cases body with
  | bare => exact .bare
  | list delimiter inner => exact .list delimiter inner
  | value e => exact .value e

theorem Attribute.forall₂_isWrittenAs (attrs : List Attribute) :
    List.Forall₂ Attribute.IsWrittenAs attrs (attrs.map Attribute.tokens) :=
  forall₂_map _ _ attrs fun a _ => a.isWrittenAs

/-- A field of a struct: attributes, visibility, and the name with the type. -/
def StructField.IsWrittenAs (field : StructField) (tokens : Tokens) : Prop :=
  ∃ attrs, List.Forall₂ Attribute.IsWrittenAs field.attrs attrs ∧
    tokens = attrs.flatten ++ field.vis ++ .ident field.name :: .punct ':' false :: field.ty.tokens

theorem StructField.isWrittenAs (field : StructField) : field.IsWrittenAs field.tokens :=
  ⟨_, Attribute.forall₂_isWrittenAs field.attrs, rfl⟩

/-- A struct: attributes, visibility, and the name with the fields. -/
def StructCode.IsWrittenAs (code : StructCode) (tokens : Tokens) : Prop :=
  ∃ attrs entries body, List.Forall₂ Attribute.IsWrittenAs code.attrs attrs ∧
    List.Forall₂ StructField.IsWrittenAs code.fields entries ∧
    Separated [.punct ',' false] entries body ∧
    tokens = attrs.flatten ++ code.vis ++
      [.ident "struct", .ident code.name, .group .brace body]

theorem StructCode.isWrittenAs (code : StructCode) : code.IsWrittenAs code.tokens := by
  refine ⟨_, _, _, Attribute.forall₂_isWrittenAs code.attrs,
    forall₂_map _ _ code.fields fun field _ => field.isWrittenAs, separated_commaSeparated _, ?_⟩
  rw [StructCode.tokens, List.append_assoc _ _ [_]]
  rfl

/-! ### Options -/

/-- The struct of the options and its default value, with an entry for each default. -/
def KeywordOptions.IsWrittenAs (options : KeywordOptions) (tokens : Tokens) : Prop :=
  ∃ layout entries body, options.layout.IsWrittenAs layout ∧
    List.Forall₂ (fun default entry => entry = .ident default.1 :: .punct ':' false ::
      DefaultCode.tokens options.cls default.2) options.defaults entries ∧
    Separated [.punct ',' false] entries body ∧
    tokens = layout ++ [.ident "impl", .punct ':' true, .punct ':' false, .ident "core",
      .punct ':' true, .punct ':' false, .ident "default", .punct ':' true, .punct ':' false,
      .ident "Default", .ident "for", .ident options.layout.name, .group .brace
        [.ident "fn", .ident "default", .group .paren [], .punct '-' true, .punct '>' false,
          .ident "Self", .group .brace [.ident "Self", .group .brace body]]]

theorem KeywordOptions.isWrittenAs (options : KeywordOptions) :
    options.IsWrittenAs options.tokens :=
  ⟨_, _, _, options.layout.isWrittenAs, forall₂_map _ _ options.defaults fun _ _ => rfl,
    separated_commaSeparated _, rfl⟩

/-- Without keyword fields there are no options. -/
inductive KeywordOptions.AreWrittenAs : Option KeywordOptions → Tokens → Prop
  | none : AreWrittenAs none []
  | some (options : KeywordOptions) (tokens : Tokens) (written : options.IsWrittenAs tokens) :
      AreWrittenAs (some options) tokens

/-! ### Constructors -/

def Parameter.IsWrittenAs (parameter : Parameter) (tokens : Tokens) : Prop :=
  tokens = .ident parameter.name :: .punct ':' false :: parameter.ty.tokens

/-- A method with its required parameters, the options if it takes them, and a body that is read as
the steps of the method and has no other names than these. -/
inductive Method.IsWrittenAs (m : Method) : Tokens → Prop
  | mk (marks : Tokens) (required : List Tokens) (parameters body : Tokens)
      (marked : AreAttributes marks)
      (typed : List.Forall₂ Parameter.IsWrittenAs m.required required)
      (listed : Separated [.punct ',' false] (required ++ m.optionsName?.toList.map fun name =>
        [.ident "options", .punct ':' false, .ident name]) parameters)
      (does : Step.denoted? body = some m.body) (named : Step.AccountFor m.body body) :
      IsWrittenAs m (marks ++ m.vis ++ [.ident "fn", .ident m.name, .group .paren parameters,
        .punct '-' true, .punct '>' false, .ident "Self", .group .brace body])

theorem Method.isWrittenAs (m : Method)
    (does : Step.denoted? (m.body.flatMap Step.tokens) = some m.body) : m.IsWrittenAs m.tokens := by
  have optional : (m.optionsName?.map fun name =>
      [Variable.options.token] ++ Token.op ":" ++ [.ident name]).toList =
      m.optionsName?.toList.map fun name => [.ident "options", .punct ':' false, .ident name] := by
    cases m.optionsName? with
    | none => rfl
    | some name => rfl
  have listed := separated_commaSeparated (m.required.map Parameter.tokens ++
    m.optionsName?.toList.map fun name => [.ident "options", .punct ':' false, .ident name])
  have parameters : m.parameterTokens = commaSeparated (m.required.map Parameter.tokens ++
      m.optionsName?.toList.map fun name => [.ident "options", .punct ':' false, .ident name]) := by
    rw [← optional]
    rfl
  have shape : m.tokens = (.punct '#' false :: .group .bracket _ :: .punct '#' false ::
      .group .bracket _ :: .punct '#' false :: .group .bracket _ :: []) ++ m.vis ++
      [.ident "fn", .ident m.name, .group .paren m.parameterTokens, .punct '-' true,
        .punct '>' false, .ident "Self", .group .brace (m.body.flatMap Step.tokens)] := rfl
  rw [shape, parameters]
  exact .mk _ _ _ _ (.cons _ _ (.cons _ _ (.cons _ _ .nil)))
    (forall₂_map _ _ m.required fun _ _ => rfl) listed does (Step.accountFor_flatMap m.body)

/-- The function with the values that factories make, if there are some. -/
inductive FactorySlot.AreWrittenAs : List FactorySlot → Tokens → Prop
  | none : AreWrittenAs [] []
  | some (slots : List FactorySlot) (marks types body : Tokens) (filled : slots ≠ [])
      (marked : AreAttributes marks) :
      AreWrittenAs slots (marks ++ [.ident "fn", .ident "__inity_defaults", .group .paren [],
        .punct '-' true, .punct '>' false, .punct '&' false, .punct '\x27' true, .ident "static",
        .group .paren types, .group .brace body])

theorem FactorySlot.areWrittenAs (cls : String) (slots : List FactorySlot) :
    FactorySlot.AreWrittenAs slots (FactorySlot.cellTokens cls slots) := by
  cases slots with
  | nil => exact .none
  | cons slot rest =>
    exact .some _ [.punct '#' false, .group .bracket [.ident "doc", .group .paren [.ident "hidden"]]]
      _ _ (List.cons_ne_nil _ _) (.cons _ _ .nil)

/-- The implementation of a class: its constructors, and the function for its factories. -/
def Constructor.IsWrittenAs (c : Constructor) (tokens : Tokens) : Prop :=
  ∃ methods cell, List.Forall₂ Method.IsWrittenAs c.methods methods ∧
    FactorySlot.AreWrittenAs c.slots cell ∧
    tokens = [.ident "impl", .ident c.cls, .group .brace (methods.flatten ++ cell)]

theorem Constructor.isWrittenAs (c : Constructor) : c.IsWrittenAs c.tokens := by
  have methods := forall₂_map Method.IsWrittenAs Method.tokens c.methods fun m member =>
    m.isWrittenAs (c.denoted?_body m member)
  refine ⟨_, _, methods, FactorySlot.areWrittenAs c.cls c.slots, ?_⟩
  rw [Constructor.tokens, List.flatMap_def]
  rfl

/-! ### Constants -/

/-- A constant with its type and its value, documented as that of its field. -/
def ConstantCode.IsWrittenAs (code : ConstantCode) (tokens : Tokens) : Prop :=
  ∃ text : Token, text.text? = some ("Class-scoped `" ++ code.field ++ "`.") ∧
    tokens = [.punct '#' false, .group .bracket [.ident "doc", .punct '=' false, text]]
      ++ code.vis ++ .ident "const" :: .ident code.name :: .punct ':' false ::
        (code.ty.tokens ++ .punct '=' false :: (code.value.tokens ++ [.punct ';' false]))

theorem ConstantCode.isWrittenAs (code : ConstantCode) : code.IsWrittenAs code.tokens := by
  have spelled : Code.constant code.name code.ty.tokens code.value.tokens =
      .ident "const" :: .ident code.name :: .punct ':' false ::
        (code.ty.tokens ++ .punct '=' false :: (code.value.tokens ++ [.punct ';' false])) := by
    simp [Code.constant, Code.typed, Token.op, Token.operator]
  refine ⟨_, Token.text?_quoted _, ?_⟩
  rw [ConstantCode.tokens, spelled]
  rfl

/-- The constants of a class are written in one implementation, which is there if one of them
is. -/
inductive ConstantCode.AreWrittenAs (cls : String) : List ConstantCode → Tokens → Prop
  | none : AreWrittenAs cls [] []
  | some (codes : List ConstantCode) (items : List Tokens) (filled : codes ≠ [])
      (each : List.Forall₂ ConstantCode.IsWrittenAs codes items) :
      AreWrittenAs cls codes [.ident "impl", .ident cls, .group .brace items.flatten]

theorem ConstantCode.areWrittenAs (cls : String) (codes : List ConstantCode) :
    ConstantCode.AreWrittenAs cls codes (ConstantCode.allTokens cls codes) := by
  cases codes with
  | nil => exact .none
  | cons code rest =>
    exact .some _ _ (List.cons_ne_nil _ _) (forall₂_map _ _ _ fun code _ => code.isWrittenAs)

/-! ### Modules -/

/-- A module with the attributes of the head, its visibility and name, and a body of the tokens
after the attributes that stand inside. -/
def ModuleHead.IsWrittenAs (head : ModuleHead) (body tokens : Tokens) : Prop :=
  ∃ attrs, List.Forall₂ Attribute.IsWrittenAs head.attrs attrs ∧
    tokens = attrs.flatten ++ head.opening ++ [.group .brace (head.innerAttrs ++ body)]

theorem ModuleHead.isWrittenAs (head : ModuleHead) (body : Tokens) :
    head.IsWrittenAs body (head.tokensWith (some body)) :=
  ⟨_, Attribute.forall₂_isWrittenAs head.attrs, rfl⟩

/-! ### Classes -/

namespace Field

/-- The entry of the field as it is read back. -/
def entry (field : Field) : FieldInfo := field.info.asWritten

end Field

/-- The directory of a class with the fields, as it is read back. -/
def ClassDirectory.ofFields (name : String) (fields : FieldList) : ClassDirectory :=
  ⟨name, fields.map Field.entry⟩

/-- What is written for a class: its struct, the options, the constructors, the constants, and the
implementation that stands for the directory. -/
inductive ClassCode.IsWrittenAs (code : ClassCode) (directory : ClassDirectory) : Tokens → Prop
  | mk (struct options constructors constants implementation : Tokens)
      (layout : code.layout.IsWrittenAs struct)
      (optional : KeywordOptions.AreWrittenAs code.options? options)
      (makers : code.constructor.IsWrittenAs constructors)
      (ofClass : ConstantCode.AreWrittenAs directory.name code.constants constants)
      (read : ClassDirectory.denoted? implementation = some directory) :
      IsWrittenAs code directory
        (struct ++ options ++ constructors ++ constants ++ implementation)

theorem ClassCode.isWrittenAs_of_tokens (code : ClassCode) (tokens : Tokens)
    (spelled : code.tokens = .ok tokens) :
    code.IsWrittenAs ⟨code.directory.name, code.directory.fields.map FieldInfo.asWritten⟩ tokens := by
  obtain ⟨implementation, held, rfl⟩ := (code.tokens_eq_ok_iff tokens).mp spelled
  have optional : KeywordOptions.AreWrittenAs code.options? code.optionsTokens := by
    unfold ClassCode.optionsTokens
    cases code.options? with
    | none => exact .none
    | some options => exact .some options _ options.isWrittenAs
  exact .mk _ _ _ _ _ code.layout.isWrittenAs optional code.constructor.isWrittenAs
    (ConstantCode.areWrittenAs _ _) (ClassDirectory.denoted?_tokens _ implementation held)

/-- Where the code of a class is written, it is the code of the class with its fields. -/
theorem ClassTable.exists_written_of_write (table : ClassTable) (decl : ClassDecl)
    (fields : FieldList) (replacement : Replacement)
    (written : table.write decl fields = .ok replacement) :
    ∃ code, ClassCode.ofFields table decl fields = .ok code ∧
      code.tokens = .ok replacement.tokens ∧ code.IsMade decl fields ∧
      code.IsWrittenAs (.ofFields decl.ident fields) replacement.tokens := by
  obtain ⟨code, parts, spelled⟩ := table.exists_code_of_write decl fields replacement written
  have made := ClassCode.isMade_of_ofFields table decl fields code parts
  have shown := code.isWrittenAs_of_tokens replacement.tokens spelled
  rw [made.directory, ClassDecl.directory, List.map_map] at shown
  exact ⟨code, parts, spelled, made, shown⟩

end ClassExpansion
