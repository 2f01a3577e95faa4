import ClassExpansion.Code.Class
import ClassExpansion.Proofs.Resolution
import ClassExpansion.Proofs.Roles

set_option autoImplicit false

/- What is written in place of a class, part by part. Each part goes back to the fields. -/
namespace ClassExpansion

/-- The constructors are those of a class with the fields. -/
structure Constructor.IsMade (decl : ClassDecl) (fields : FieldList) (c : Constructor) : Prop where
  cls : c.cls = decl.ident
  required : c.required = fields.required.map .ofField
  keyword : c.keyword = fields.keyword.map Field.ident
  optionsName : c.optionsName = decl.optionsName
  initializers : c.initializers = fields.stored.filterMap fun field =>
    field.storage?.map fun storage => ⟨storage, field.ident⟩
  handed : c.hook.handed = (fields.ofRole .initVar).map .ofField

theorem Constructor.isMade_of_ofFields (decl : ClassDecl) (fields : FieldList) (c : Constructor)
    (made : ofFields decl fields = .ok c) : c.IsMade decl fields := by
  unfold ofFields at made
  simp only [Attempt.bind_eq_ok_iff] at made
  obtain ⟨hook, _, parts⟩ := made
  cases parts
  exact ⟨rfl, rfl, rfl, rfl, rfl, rfl⟩

/-- The hook is the own one of the class, and it gets all construction-only fields. -/
theorem Constructor.hook_of_ofFields (decl : ClassDecl) (fields : FieldList) (c : Constructor)
    (made : ofFields decl fields = .ok c) :
    c.hook = ⟨decl.hookText, decl.hasHook, (fields.ofRole .initVar).map .ofField⟩ := by
  unfold ofFields ClassDecl.hook at made
  simp only [Attempt.bind_eq_ok_iff, Attempt.name_eq_ok_iff] at made
  obtain ⟨_, ⟨_, rfl⟩, parts⟩ := made
  cases parts
  rfl

theorem Constructor.slots_of_ofFields (decl : ClassDecl) (fields : FieldList) (c : Constructor)
    (made : ofFields decl fields = .ok c) :
    c.slots = FactorySlot.ofKeyword fields.keyword := by
  unfold ofFields at made
  simp only [Attempt.bind_eq_ok_iff] at made
  obtain ⟨hook, _, parts⟩ := made
  cases parts
  rfl

namespace Constructor

theorem required_of_mem_methods (c : Constructor) (m : Method) (member : m ∈ c.methods) :
    m.required = c.required := by
  unfold methods making at member
  split at member
  · rw [List.mem_singleton.mp member]
    rfl
  · rcases List.mem_pair.mp member with rfl | rfl
    · rfl
    · rfl

theorem names_methods (c : Constructor) :
    c.methods.map (·.name) = if c.keyword.isEmpty then ["new"] else ["new", "new_with"] := by
  unfold methods making
  split <;> rfl

theorem exists_new (c : Constructor) : ∃ m ∈ c.methods, m.name = "new" := by
  rw [← List.mem_map, names_methods]
  split
  · exact List.mem_cons_self
  · exact List.mem_cons_self

theorem exists_newWith_iff (c : Constructor) :
    (∃ m ∈ c.methods, m.name = "new_with") ↔ c.keyword ≠ [] := by
  rw [← List.mem_map, names_methods]
  by_cases without : c.keyword = []
  · simp [without]
  · simp [without]

end Constructor

namespace KeywordOptions

/-- Each keyword field has its default, under its own name. -/
theorem map_fst_number (next : Nat) (fields : List Field) :
    (DefaultCode.number next fields).map Prod.fst = fields.map Field.ident := by
  induction fields generalizing next with
  | nil => rfl
  | cons field rest ih =>
    unfold DefaultCode.number
    cases field.default with
    | missing => simp only [List.map_cons, ih]
    | value e => simp only [List.map_cons, ih]
    | factory callable => simp only [List.map_cons, ih]
    | property => simp only [List.map_cons, ih]

theorem names_of_ofFields? (decl : ClassDecl) (fields : FieldList) (options : KeywordOptions)
    (given : ofFields? decl fields = some options) :
    options.layout.name = decl.optionsName ∧
      options.layout.fields.map (·.name) = fields.keyword.map Field.ident ∧
      options.defaults.map Prod.fst = fields.keyword.map Field.ident := by
  unfold ofFields? at given
  split at given
  · cases given
  · cases given
    refine ⟨rfl, ?_, map_fst_number 0 fields.keyword⟩
    rw [List.map_map]
    rfl

end KeywordOptions

/-- The parts of the code are those of a class with the fields. -/
structure ClassCode.IsMade (decl : ClassDecl) (fields : FieldList) (code : ClassCode) : Prop where
  layout : code.layout = decl.layout fields
  options : code.options? = KeywordOptions.ofFields? decl fields
  constructor : code.constructor.IsMade decl fields
  directory : code.directory = decl.directory fields

theorem ClassCode.constructor_of_ofFields (table : ClassTable) (decl : ClassDecl)
    (fields : FieldList) (code : ClassCode) (made : ofFields table decl fields = .ok code) :
    Constructor.ofFields decl fields = .ok code.constructor := by
  unfold ofFields at made
  simp only [Attempt.bind_eq_ok_iff] at made
  obtain ⟨constructor, inside, _, _, constants, _, parts⟩ := made
  cases parts
  exact inside

theorem ClassCode.constants_of_ofFields (table : ClassTable) (decl : ClassDecl)
    (fields : FieldList) (code : ClassCode) (made : ofFields table decl fields = .ok code) :
    ConstantCode.ofFields table decl fields = .ok code.constants := by
  unfold ofFields at made
  simp only [Attempt.bind_eq_ok_iff] at made
  obtain ⟨constructor, _, _, _, constants, inside, parts⟩ := made
  cases parts
  exact inside

theorem ClassCode.title_of_ofFields (table : ClassTable) (decl : ClassDecl) (fields : FieldList)
    (code : ClassCode) (made : ofFields table decl fields = .ok code) :
    code.title = "inity: " ++ decl.ident ++ "::new" ++ fields.signature := by
  unfold ofFields at made
  simp only [Attempt.bind_eq_ok_iff] at made
  obtain ⟨constructor, _, _, _, constants, _, parts⟩ := made
  cases parts
  rfl

theorem ClassCode.isMade_of_ofFields (table : ClassTable) (decl : ClassDecl) (fields : FieldList)
    (code : ClassCode) (made : ofFields table decl fields = .ok code) :
    code.IsMade decl fields := by
  unfold ofFields at made
  simp only [Attempt.bind_eq_ok_iff] at made
  obtain ⟨constructor, inside, _, _, constants, _, parts⟩ := made
  cases parts
  exact ⟨rfl, rfl, Constructor.isMade_of_ofFields decl fields constructor inside, rfl⟩

theorem ClassCode.tokens_eq_ok_iff (code : ClassCode) (tokens : Tokens) :
    code.tokens = .ok tokens ↔
      ∃ implementation, code.directory.tokens = .ok implementation ∧
        tokens = code.layout.tokens ++ code.optionsTokens ++ code.constructor.tokens
          ++ ConstantCode.allTokens code.directory.name code.constants ++ implementation := by
  unfold ClassCode.tokens
  rw [Attempt.bind_eq_ok_iff]
  constructor
  · rintro ⟨implementation, held, joined⟩
    exact ⟨implementation, held, (Except.ok.inj joined).symm⟩
  · rintro ⟨implementation, held, rfl⟩
    exact ⟨implementation, held, rfl⟩

/-- Options are made for classes with keyword fields. -/
theorem ClassCode.IsMade.isSome_options?_iff {decl : ClassDecl} {fields : FieldList}
    {code : ClassCode} (made : code.IsMade decl fields) :
    code.options?.isSome = true ↔ fields.keyword ≠ [] := by
  rw [made.options, KeywordOptions.ofFields?]
  by_cases without : fields.keyword = []
  · simp [without]
  · simp [without]

theorem ClassTable.exists_code_of_write (table : ClassTable) (decl : ClassDecl)
    (fields : FieldList) (replacement : Replacement)
    (written : table.write decl fields = .ok replacement) :
    ∃ code, ClassCode.ofFields table decl fields = .ok code ∧
      code.tokens = .ok replacement.tokens := by
  unfold write at written
  simp only [Attempt.bind_eq_ok_iff] at written
  obtain ⟨code, made, tokens, spelled, given⟩ := written
  cases given
  exact ⟨code, made, spelled⟩

namespace FieldList

theorem map_name_layout (decl : ClassDecl) (fields : FieldList) :
    (decl.layout fields).fields.map (·.name) = fields.stored.filterMap Field.storage? := by
  unfold ClassDecl.layout
  rw [List.map_filterMap]
  refine List.filterMap_congr fun field _ => ?_
  rw [Option.map_map]
  exact Option.map_id'

end FieldList

namespace ClassTable

open FieldList (book shelf)

set_option maxRecDepth 100000 in
/-- A book has a required field and two keyword fields that are stored, one of them a property,
and hands its token to the hook. -/
theorem exists_write_book : ∃ fields replacement,
    FieldList.collect shelf book = .ok fields ∧ shelf.write book fields = .ok replacement ∧
    fields.keyword.map Field.ident = ["r#type", "cached"] ∧
    fields.parameters.map Field.ident = ["title", "r#type", "cached", "token"] := by
  obtain ⟨replacement, generated⟩ := Attempt.exists_of_isOk
    (FieldList.collect shelf book >>= shelf.write book) (by decide +kernel)
  obtain ⟨fields, collected, written⟩ := (Attempt.bind_eq_ok_iff _ _ _).mp generated
  have idents : (FieldList.collect shelf book).toOption.map
      (fun fields => (fields.keyword.map Field.ident, fields.parameters.map Field.ident)) =
      some (["r#type", "cached"], ["title", "r#type", "cached", "token"]) := by
    decide +kernel
  rw [collected] at idents
  obtain ⟨keyword, parameters⟩ := Prod.mk.inj (Option.some.inj idents)
  exact ⟨fields, replacement, collected, written, keyword, parameters⟩

end ClassTable

end ClassExpansion
