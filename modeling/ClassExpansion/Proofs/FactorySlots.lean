import ClassExpansion.Proofs.Written

set_option autoImplicit false

/- The defaults of keyword fields. Those that factories make are the components of one tuple: each
such field reads the component that its own factory makes. -/
namespace ClassExpansion

/-- A text literal, alone or in invisible groups. -/
inductive Expr.IsTextLiteral : Expr → Prop
  | alone (attrs : Tokens) (literal : Literal) (text : String)
      (isText : literal.value = .text text) : IsTextLiteral (.lit attrs literal)
  | grouped (attrs : Tokens) (inner : Expr) (isText : IsTextLiteral inner) :
      IsTextLiteral (.group attrs inner)

theorem Expr.isText_iff (e : Expr) : e.isText = true ↔ e.IsTextLiteral := by
  fun_induction Expr.isText e with
  | case1 attrs literal =>
    unfold Literal.isText
    constructor
    · intro found
      split at found
      · next text is => exact .alone attrs literal text is
      · cases found
    · intro found
      cases found with
      | alone _ _ text is => rw [is]
  | case2 attrs inner ih =>
    rw [ih]
    constructor
    · exact .grouped attrs inner
    · intro found
      cases found with
      | grouped _ _ is => exact is
  | case3 e notLiteral notGroup =>
    constructor
    · nofun
    · intro found
      cases found with
      | alone attrs literal text is => exact absurd rfl (notLiteral attrs literal)
      | grouped attrs inner is => exact absurd rfl (notGroup attrs inner)

/-- The callable that makes the default of the field, if one does. -/
def Field.factory? (field : Field) : Option Expr :=
  match field.default with
  | .factory callable => some callable
  | _ => none

def Field.isFactory (field : Field) : Bool := field.factory?.isSome

namespace DefaultCode

def slot? : DefaultCode → Option Nat
  | slot index => some index
  | _ => none

/-- The code of a default, for which the slot is taken if it is a factory. -/
def ofDefault (next : Nat) : Default → DefaultCode
  | .value e => if e.isText then converted e else verbatim e
  | .factory _ => slot next
  | .property => usual
  | .missing => usual

theorem number_cons (next : Nat) (field : Field) (rest : List Field) :
    number next (field :: rest) = (field.ident, ofDefault next field.default) ::
      number (next + if field.isFactory then 1 else 0) rest := by
  rw [number]
  unfold Field.isFactory Field.factory?
  cases field.default with
  | missing => rfl
  | value e => rfl
  | factory callable => rfl
  | property => rfl

/-- Before a field, as many slots are taken as factories stand before it. -/
theorem getElem?_number (next : Nat) (fields : List Field) (i : Nat) (field : Field)
    (here : fields[i]? = some field) :
    (number next fields)[i]? =
      some (field.ident,
        ofDefault (next + (fields.take i).countP Field.isFactory) field.default) := by
  -- A factory at the head moves the start of the rest, so this is stated for every start.
  induction fields generalizing next i with
  | nil => cases here
  | cons first rest ih =>
    rw [number_cons]
    cases i with
    | zero =>
      cases here
      rfl
    | succ i =>
      rw [List.getElem?_cons_succ] at here ⊢
      rw [ih _ i here, List.take_succ_cons, List.countP_cons, Nat.add_assoc,
        Nat.add_comm (ite _ _ _)]

theorem slot?_ofDefault (next : Nat) (field : Field) :
    (ofDefault next field.default).slot? = if field.isFactory then some next else none := by
  unfold Field.isFactory Field.factory?
  cases field.default with
  | missing => rfl
  | value e =>
    unfold ofDefault
    dsimp only
    split
    · rfl
    · rfl
  | factory callable => rfl
  | property => rfl

/-- The slots are taken one after the other, without a gap. -/
theorem slots_number (next : Nat) (fields : List Field) :
    (number next fields).filterMap (fun entry => entry.2.slot?) =
      List.range' next (fields.countP Field.isFactory) := by
  induction fields generalizing next with
  | nil => rfl
  | cons field rest ih =>
    rw [number_cons, List.filterMap_cons, slot?_ofDefault, ih, List.countP_cons]
    cases field.isFactory with
    | false => rfl
    | true => exact List.range'_succ.symm

end DefaultCode

namespace FactorySlot

/-- The slot of the field, if a factory makes its default. -/
def ofField? (field : Field) : Option FactorySlot :=
  field.factory?.map fun callable => ⟨field.valueTy, callable⟩

theorem ofKeyword_eq (fields : List Field) : ofKeyword fields = fields.filterMap ofField? := by
  unfold ofKeyword
  refine List.filterMap_congr fun field _ => ?_
  unfold ofField? Field.factory?
  cases field.default with
  | missing => rfl
  | value e => rfl
  | factory callable => rfl
  | property => rfl

theorem length_ofKeyword (fields : List Field) :
    (ofKeyword fields).length = fields.countP Field.isFactory := by
  rw [ofKeyword_eq, List.length_filterMap_eq_countP]
  refine List.countP_congr fun field _ => ?_
  unfold ofField? Field.isFactory
  rw [Option.isSome_map]

/-- A factory stands among the slots behind those of the fields before it. -/
theorem getElem?_ofKeyword (fields : List Field) (i : Nat) (field : Field) (callable : Expr)
    (here : fields[i]? = some field) (made : field.default = .factory callable) :
    (ofKeyword fields)[(fields.take i).countP Field.isFactory]? =
      some ⟨field.valueTy, callable⟩ := by
  have slot : ofField? field = some ⟨field.valueTy, callable⟩ := by
    unfold ofField? Field.factory?
    rw [made]
    rfl
  -- Split at the field, the slots before its own are those of the factories before it.
  obtain ⟨within, rfl⟩ := List.getElem?_eq_some_iff.mp here
  have split : fields = fields.take i ++ fields[i] :: fields.drop (i + 1) := by
    rw [← List.drop_eq_getElem_cons within, List.take_append_drop]
  have slots : ofKeyword fields = ofKeyword (fields.take i) ++
      ⟨fields[i].valueTy, callable⟩ :: ofKeyword (fields.drop (i + 1)) := by
    simp only [ofKeyword_eq]
    rw [← List.filterMap_cons_some slot, ← List.filterMap_append, ← split]
  rw [slots, ← length_ofKeyword, List.getElem?_append_right (Nat.le_refl _), Nat.sub_self]
  rfl

end FactorySlot

/-- A function that makes the values of a tuple at its first call and gives them out. -/
structure DefaultsCell where
  cls : String
  types : List Tokens
  count : Nat
  makers : List Tokens

namespace DefaultsCell

def tokens (cell : DefaultsCell) : Tokens :=
  let ty := Code.tuple cell.types
  let static := .ident "static" :: Code.typed "DEFAULTS" (FactorySlot.onceCell ty) ++ Token.op "="
    ++ Name.rooted ["std", "sync", "OnceLock", "new"] ++ [.paren []] ++ Token.op ";"
  let arguments := commaSeparated [
    Code.reference [.ident "DEFAULTS"], [Code.quoted cell.cls],
    [.literal (toString cell.count ++ "usize")], Token.op "||" ++ [Code.tuple cell.makers]]
  Code.marked [.ident "doc", .paren [.ident "hidden"]]
    ++ Code.function "__inity_defaults" [] (Code.staticReference [ty])
      (static ++ Name.rooted ["inity", "__private", "materialize"] ++ [.paren arguments])

/-- The code that copies a component of the tuple. -/
def component (cls : String) (index : Nat) : Tokens :=
  let made := Code.pathOf [cls, "__inity_defaults"] ++ [.paren []] ++ Token.op "."
    ++ [.literal (toString index)]
  Name.rooted ["core", "clone", "Clone", "clone"] ++ [.paren (Code.reference made)]

/-- The code by which the callable makes a value of the type. -/
def maker (ty callable : Tokens) : Tokens :=
  Name.rooted ["inity", "DefaultFactory"] ++ Token.op "::" ++ Token.op "<" ++ ty ++ Token.op ">"
    ++ Token.op "::" ++ [.ident "produce", .paren (Code.reference [.paren callable])]

def ofSlots (cls : String) (slots : List FactorySlot) : DefaultsCell :=
  ⟨cls, slots.map (·.ty.tokens), slots.length,
    slots.map fun slot => maker slot.ty.tokens slot.callable.tokens⟩

/-- The cell is written if there are slots. -/
def ofSlots? (cls : String) (slots : List FactorySlot) : Option DefaultsCell :=
  if slots.isEmpty then none else some (ofSlots cls slots)

theorem cellTokens_eq (cls : String) (slots : List FactorySlot) :
    FactorySlot.cellTokens cls slots = ((ofSlots? cls slots).map tokens).getD [] := by
  unfold FactorySlot.cellTokens ofSlots?
  split
  · rfl
  · rfl

theorem ofSlots?_of_getElem? (cls : String) (slots : List FactorySlot) (k : Nat)
    (slot : FactorySlot) (here : slots[k]? = some slot) :
    ofSlots? cls slots = some (ofSlots cls slots) := by
  cases slots with
  | nil => cases here
  | cons first rest => rfl

end DefaultsCell

/-- The entries of the default of the options, each with the name of its field. -/
def KeywordOptions.entries (options : KeywordOptions) : List Tokens :=
  options.defaults.map fun (name, code) => Code.typed name (code.tokens options.cls)

/-- What is written for the defaults of the keyword fields. A field whose default a factory makes
reads the component that this factory makes, and the others take no component. -/
structure KeywordOptions.Fills (cls : String) (keyword : List Field) (options : KeywordOptions)
    (cell? : Option DefaultsCell) : Prop where
  names : options.defaults.map Prod.fst = keyword.map Field.ident
  text : ∀ (i : Nat) (field : Field) (e : Expr), keyword[i]? = some field →
    field.default = .value e → e.IsTextLiteral →
    options.entries[i]? = some (Code.typed field.ident
      (Name.rooted ["core", "convert", "Into", "into"] ++ [.paren e.tokens]))
  verbatim : ∀ (i : Nat) (field : Field) (e : Expr), keyword[i]? = some field →
    field.default = .value e → ¬ e.IsTextLiteral →
    options.entries[i]? = some (Code.typed field.ident e.tokens)
  property : ∀ (i : Nat) (field : Field), keyword[i]? = some field → field.default = .property →
    options.entries[i]? = some (Code.typed field.ident Code.defaultValue)
  factory : ∀ (i : Nat) (field : Field) (callable : Expr), keyword[i]? = some field →
    field.default = .factory callable →
    ∃ cell k, cell? = some cell ∧ k = (keyword.take i).countP Field.isFactory ∧
      options.entries[i]? = some (Code.typed field.ident (DefaultsCell.component cls k)) ∧
      cell.types[k]? = some field.valueTy.tokens ∧
      cell.makers[k]? = some (DefaultsCell.maker field.valueTy.tokens callable.tokens)
  /-- The components in use, in the order of the fields. -/
  used : options.defaults.filterMap (fun entry => entry.2.slot?) =
    List.range (keyword.countP Field.isFactory)
  counted : ∀ cell, cell? = some cell → cell.cls = cls ∧
    cell.count = keyword.countP Field.isFactory ∧ cell.types.length = cell.count ∧
    cell.makers.length = cell.count
  needed : cell?.isSome = true ↔ 0 < keyword.countP Field.isFactory

theorem KeywordOptions.fills (cls : String) (keyword : List Field) (options : KeywordOptions)
    (isClass : options.cls = cls) (defaults : options.defaults = DefaultCode.number 0 keyword) :
    options.Fills cls keyword (DefaultsCell.ofSlots? cls (FactorySlot.ofKeyword keyword)) := by
  have entry (i : Nat) (field : Field) (here : keyword[i]? = some field) :
      options.entries[i]? = some (Code.typed field.ident
        ((DefaultCode.ofDefault ((keyword.take i).countP Field.isFactory)
          field.default).tokens cls)) := by
    unfold entries
    rw [defaults, isClass, List.getElem?_map, DefaultCode.getElem?_number 0 keyword i field here,
      Nat.zero_add]
    rfl
  constructor
  case names => rw [defaults, map_fst_number]
  case text =>
    intro i field e here isValue isText
    rw [entry i field here, isValue, DefaultCode.ofDefault, if_pos (e.isText_iff.mpr isText)]
    rfl
  case verbatim =>
    intro i field e here isValue isOther
    rw [entry i field here, isValue, DefaultCode.ofDefault, if_neg (mt e.isText_iff.mp isOther)]
    rfl
  case property =>
    intro i field here isProperty
    rw [entry i field here, isProperty]
    rfl
  case factory =>
    intro i field callable here made
    have slot := FactorySlot.getElem?_ofKeyword keyword i field callable here made
    refine ⟨_, _, DefaultsCell.ofSlots?_of_getElem? cls _ _ _ slot, rfl, ?_, ?_, ?_⟩
    · rw [entry i field here, made]
      rfl
    · rw [DefaultsCell.ofSlots, List.getElem?_map, slot]
      rfl
    · rw [DefaultsCell.ofSlots, List.getElem?_map, slot]
      rfl
  case used => rw [defaults, DefaultCode.slots_number, List.range_eq_range']
  case counted =>
    intro cell found
    unfold DefaultsCell.ofSlots? at found
    split at found
    · cases found
    · cases found
      refine ⟨rfl, FactorySlot.length_ofKeyword keyword, List.length_map _, List.length_map _⟩
  case needed =>
    rw [← FactorySlot.length_ofKeyword, List.length_pos_iff, DefaultsCell.ofSlots?]
    split
    · next without => simp only [List.isEmpty_iff.mp without, Option.isSome_none,
        Bool.false_eq_true, ne_eq, not_true_eq_false]
    · next some => exact iff_of_true rfl fun without => some (List.isEmpty_iff.mpr without)

namespace ClassTable

/-- Where the code of a class with keyword fields is written, the options hold the default of each,
and the cell of the class makes those that come from factories. -/
theorem write_fills_defaults (table : ClassTable) (decl : ClassDecl) (fields : FieldList)
    (replacement : Replacement) (written : table.write decl fields = .ok replacement)
    (hasKeyword : fields.keyword ≠ []) :
    ∃ code options, ∃ cell? : Option DefaultsCell, ClassCode.ofFields table decl fields = .ok code ∧
      code.tokens = .ok replacement.tokens ∧
      code.options? = some options ∧
      options.tokens = options.layout.tokens
        ++ Code.traitImplementation (Name.rooted ["core", "default", "Default"]) decl.optionsName
          (Code.function "default" [] [.ident "Self"]
            [.ident "Self", .brace (commaSeparated options.entries)]) ∧
      code.constructor.tokens = Code.implementation decl.ident
        (code.constructor.methods.flatMap Method.tokens
          ++ (cell?.map DefaultsCell.tokens).getD []) ∧
      options.Fills decl.ident fields.keyword cell? := by
  obtain ⟨code, parts, spelled⟩ := table.exists_code_of_write decl fields replacement written
  have made := ClassCode.isMade_of_ofFields table decl fields code parts
  have constructor := ClassCode.constructor_of_ofFields table decl fields code parts
  have given : code.options? = KeywordOptions.ofFields? decl fields := made.options
  have notEmpty : ¬ fields.keyword.isEmpty = true := mt List.isEmpty_iff.mp hasKeyword
  rw [KeywordOptions.ofFields?, if_neg notEmpty] at given
  refine ⟨code, _, _, parts, spelled, given, rfl, ?_, KeywordOptions.fills _ _ _ rfl rfl⟩
  rw [Constructor.tokens, made.constructor.cls, DefaultsCell.cellTokens_eq,
    Constructor.slots_of_ofFields decl fields _ constructor]

/-- A lamp has a text for its label, and two lights that factories make. The second one is called a
factory by its name only. -/
def lamp : ClassDecl := .usual "Lamp" none [
  ⟨"label", .named "Text", [], [],
    some { FieldSpec.empty with default? := some (.lit [] (.ofText "\"plain\"")) }⟩,
  ⟨"left", .named "Light", [], [],
    some { FieldSpec.empty with factory? := some (.path [] (.ofName "dim")) }⟩,
  ⟨"size", .named "u8", [], [], some { FieldSpec.empty with default? := some (.number "2") }⟩,
  ⟨"right", .named "Light", [], [],
    some { FieldSpec.empty with default? := some (.path [] (.ofName "bright_factory")) }⟩]

set_option maxRecDepth 100000 in
theorem write_fills_defaults_lamp : ∃ (fields : FieldList) (replacement : Replacement)
    (options : KeywordOptions) (cell : DefaultsCell) (field : Field) (callable : Expr),
    FieldList.collect [lamp] lamp = .ok fields ∧ write [lamp] lamp fields = .ok replacement ∧
    fields.keyword ≠ [] ∧ fields.keyword[3]? = some field ∧ field.ident = "right" ∧
    Token.text callable.tokens = "bright_factory" ∧
    options.entries[3]? = some (Code.typed field.ident (DefaultsCell.component "Lamp" 1)) ∧
    cell.count = 2 ∧
    cell.makers[1]? = some (DefaultsCell.maker field.valueTy.tokens callable.tokens) := by
  obtain ⟨fields, collected, described⟩ := Attempt.exists_of_map_value?
    (fun fields : FieldList => (fields.keyword.map Field.ident,
      (fields.keyword[3]?.bind Field.factory?).map fun callable => Token.text callable.tokens,
      (fields.keyword.take 3).countP Field.isFactory, fields.keyword.countP Field.isFactory,
      (write [lamp] lamp fields).isOk))
    (FieldList.collect [lamp] lamp)
    (["label", "left", "size", "right"], some "bright_factory", 1, 2, true) (by decide +kernel)
  simp only [Prod.mk.injEq] at described
  obtain ⟨idents, isFactory, before, all, isOk⟩ := described
  obtain ⟨replacement, written⟩ := Attempt.exists_of_isOk _ isOk
  obtain ⟨callable, made, text⟩ := Option.map_eq_some_iff.mp isFactory
  obtain ⟨field, here, isFactory⟩ := Option.bind_eq_some_iff.mp made
  have default : field.default = .factory callable := by
    unfold Field.factory? at isFactory
    split at isFactory
    · next found =>
      cases isFactory
      exact found
    · cases isFactory
  have hasKeyword : fields.keyword ≠ [] := by
    intro without
    rw [without] at here
    cases here
  obtain ⟨_, options, cell?, _, _, _, _, _, fills⟩ :=
    write_fills_defaults [lamp] lamp fields replacement written hasKeyword
  obtain ⟨cell, k, found, rfl, entry, _, maker⟩ := fills.factory 3 field callable here default
  rw [before] at entry maker
  have ident : field.ident = "right" := by
    have named := congrArg (·[3]?) idents
    rw [List.getElem?_map, here] at named
    exact Option.some.inj named
  exact ⟨fields, replacement, options, cell, field, callable, collected, written, hasKeyword, here,
    ident, text, entry, (fills.counted cell found).2.1.trans all, maker⟩

end ClassTable

end ClassExpansion
