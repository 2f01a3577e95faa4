import ClassExpansion.Directory.Mapping
import ClassExpansion.Proofs.CodeShapes

set_option autoImplicit false

/- What the directory of a class says of its fields agrees with the struct, with the parameters of
its constructors and with its options. -/
namespace ClassExpansion

namespace Field

theorem isParameter_entry (field : Field) :
    field.entry.role.isParameter = field.role.isParameter := field.role.named_isParameter

theorem isStored_entry (field : Field) : field.entry.role.isStored = field.role.isStored :=
  field.role.named_isStored

theorem hasDefault_entry (field : Field) : field.entry.hasDefault = field.hasDefault :=
  field.default.kind_isPresent

theorem isSome_storage?_entry (field : Field) :
    field.entry.storage?.isSome = field.entry.role.isStored := by
  rw [isStored_entry, ← isSome_storage?]
  exact Option.isSome_map

end Field

namespace ClassDirectory

/-- The fields that a constructor takes as parameters. -/
def required (directory : ClassDirectory) : List FieldInfo :=
  directory.fields.filter fun info => info.role.isParameter && !info.hasDefault

/-- The fields that the options hold. -/
def keyword (directory : ClassDirectory) : List FieldInfo :=
  directory.fields.filter fun info => info.role.isParameter && info.hasDefault

/-- Where no name comes twice, every entry is the first one with its name. -/
theorem field?_of_nodup (directory : ClassDirectory)
    (distinct : (directory.fields.map (·.name)).Nodup) (info : FieldInfo)
    (member : info ∈ directory.fields) : directory.field? info.name = some info := by
  unfold field?
  generalize directory.fields = fields at distinct member
  induction fields with
  | nil => cases member
  | cons first rest ih =>
    rw [List.map_cons, List.nodup_cons] at distinct
    rw [List.find?_cons]
    rcases List.mem_cons.mp member with rfl | later
    · rw [beq_self_eq_true]
    · have other : first.name ≠ info.name := fun same =>
        distinct.1 (same ▸ List.mem_map_of_mem later)
      rw [beq_eq_false_iff_ne.mpr other]
      exact ih distinct.2 later

section OfFields

variable (name : String) (fields : FieldList)

theorem stored_ofFields : (ofFields name fields).stored = fields.stored.map Field.entry := by
  unfold stored ofFields FieldList.stored
  rw [List.filter_map]
  simp only [Function.comp_def, Field.isStored_entry]

theorem required_ofFields : (ofFields name fields).required = fields.required.map Field.entry := by
  unfold required ofFields FieldList.required FieldList.parameters
  rw [List.filter_map, List.filter_filter]
  simp only [Function.comp_def, Field.isParameter_entry, Field.hasDefault_entry, Bool.and_comm]

theorem keyword_ofFields : (ofFields name fields).keyword = fields.keyword.map Field.entry := by
  unfold keyword ofFields FieldList.keyword FieldList.parameters
  rw [List.filter_map, List.filter_filter]
  simp only [Function.comp_def, Field.isParameter_entry, Field.hasDefault_entry, Bool.and_comm]

end OfFields

/-- The directory has one entry for each field, and what it says agrees with the code: with the
fields of the struct, with the parameters of the constructors, and with the options and their
default value. -/
structure Agrees (directory : ClassDirectory) (decl : ClassDecl) (fields : FieldList)
    (code : ClassCode) : Prop where
  entries : directory.fields = fields.map Field.entry
  distinct : (directory.fields.map (·.name)).Nodup
  found : ∀ info ∈ directory.fields, directory.field? info.name = some info
  stored : ∀ info ∈ directory.fields, info.role.isStored = true ↔ info.storage?.isSome = true
  storages : code.layout.fields.map (fun field => some (Name.unraw field.name)) =
    directory.stored.map (·.storage?)
  required : ∀ m ∈ code.constructor.methods,
    m.required.map (fun parameter => Name.unraw parameter.name) =
      directory.required.map (·.name)
  new : ∃ m ∈ code.constructor.methods, m.name = "new"
  options : ∀ options, code.options? = some options →
    options.layout.name = decl.optionsName ∧
    options.layout.fields.map (fun field => Name.unraw field.name) =
      directory.keyword.map (·.name) ∧
    options.defaults.map (fun default => Name.unraw default.1) = directory.keyword.map (·.name)
  optionsEmitted : code.options?.isSome = true ↔ directory.keyword ≠ []
  newWithEmitted : (∃ m ∈ code.constructor.methods, m.name = "new_with") ↔ directory.keyword ≠ []

theorem ofFields_agrees (decl : ClassDecl) (fields : FieldList) (code : ClassCode)
    (made : code.IsMade decl fields) (distinct : (fields.map Field.name).Nodup) :
    (ofFields decl.ident fields).Agrees decl fields code := by
  have unique : ((ofFields decl.ident fields).fields.map (·.name)).Nodup := by
    unfold ofFields
    rwa [List.map_map]
  have names (list : List Field) :
      (list.map Field.entry).map (·.name) = (list.map Field.ident).map Name.unraw := by
    rw [List.map_map, List.map_map]
    rfl
  have hasKeyword : (ofFields decl.ident fields).keyword ≠ [] ↔ fields.keyword ≠ [] := by
    rw [keyword_ofFields, ne_eq, List.map_eq_nil_iff]
  constructor
  case entries => rfl
  case distinct => exact unique
  case found => exact (ofFields decl.ident fields).field?_of_nodup unique
  case stored =>
    intro info member
    obtain ⟨field, _, rfl⟩ := List.mem_map.mp member
    rw [field.isSome_storage?_entry]
  case storages =>
    symm
    rw [stored_ofFields, made.layout, List.map_map, map_eq_map_iff_forall₂]
    refine (fields.forall₂_stored _).imp ?_
    rintro field _ ⟨storage, stored, rfl⟩
    exact congrArg (Option.map Name.unraw) stored
  case required =>
    intro m member
    rw [required_ofFields, names, code.constructor.required_of_mem_methods m member,
      made.constructor.required, List.map_map, List.map_map]
    rfl
  case new => exact code.constructor.exists_new
  case options =>
    intro options given
    rw [made.options] at given
    obtain ⟨named, layout, defaults⟩ := KeywordOptions.names_of_ofFields? decl fields options given
    refine ⟨named, ?_, ?_⟩
    · rw [keyword_ofFields, names, ← layout, List.map_map]
      rfl
    · rw [keyword_ofFields, names, ← defaults, List.map_map]
      rfl
  case optionsEmitted => exact made.isSome_options?_iff.trans hasKeyword.symm
  case newWithEmitted =>
    rw [hasKeyword, code.constructor.exists_newWith_iff, made.constructor.keyword, ne_eq,
      List.map_eq_nil_iff]

end ClassDirectory

namespace ClassTable

open FieldList (book shelf)

/-- The parts of what is written, the last of which stands for the directory of the fields. -/
theorem exists_parts_of_write (table : ClassTable) (decl : ClassDecl) (fields : FieldList)
    (replacement : Replacement) (written : table.write decl fields = .ok replacement) :
    ∃ code implementation, ClassCode.ofFields table decl fields = .ok code ∧
      replacement.tokens = (decl.layout fields).tokens ++ code.optionsTokens
        ++ code.constructor.tokens ++ ConstantCode.allTokens decl.ident code.constants
        ++ implementation ∧
      ClassDirectory.denoted? implementation = some (.ofFields decl.ident fields) ∧
      code.IsWrittenAs (.ofFields decl.ident fields) replacement.tokens := by
  obtain ⟨code, parts, spelled, made, shown⟩ :=
    table.exists_written_of_write decl fields replacement written
  obtain ⟨implementation, held, joined⟩ := (code.tokens_eq_ok_iff replacement.tokens).mp spelled
  have read := ClassDirectory.denoted?_tokens _ implementation held
  rw [made.directory, ClassDecl.directory, List.map_map] at read
  rw [made.directory, made.layout] at joined
  exact ⟨code, implementation, parts, joined, read, shown⟩

/-- Where the code of a class is written, the directory that its implementation stands for agrees
with the struct, the constructors and the options that are written before it. -/
theorem write_directory_agrees (table : ClassTable) (decl : ClassDecl) (fields : FieldList)
    (replacement : Replacement) (collected : FieldList.collect table decl = .ok fields)
    (written : table.write decl fields = .ok replacement) :
    ∃ code directory, ClassCode.ofFields table decl fields = .ok code ∧
      code.directory = decl.directory fields ∧ code.IsWrittenAs directory replacement.tokens ∧
      directory.name = decl.ident ∧ directory.Agrees decl fields code := by
  obtain ⟨code, parts, _, made, shown⟩ :=
    table.exists_written_of_write decl fields replacement written
  have distinct := FieldList.nodup_name_of_collect table decl fields collected
  exact ⟨code, _, parts, made.directory, shown, rfl,
    ClassDirectory.ofFields_agrees decl fields code made distinct⟩

theorem write_directory_agrees_book : ∃ fields replacement code directory,
    FieldList.collect shelf book = .ok fields ∧ shelf.write book fields = .ok replacement ∧
    ClassCode.ofFields shelf book fields = .ok code ∧
    code.IsWrittenAs directory replacement.tokens ∧
    directory.keyword.map (·.name) = ["type", "cached"] ∧ code.options?.isSome = true := by
  obtain ⟨fields, replacement, collected, written, keyword, _⟩ := exists_write_book
  obtain ⟨code, directory, parts, _, shown, _, agrees⟩ :=
    shelf.write_directory_agrees book fields replacement collected written
  have names : directory.keyword.map (·.name) = ["type", "cached"] := by
    have same : directory.keyword = fields.keyword.map Field.entry := by
      rw [← ClassDirectory.keyword_ofFields directory.name fields, ClassDirectory.ofFields,
        ← agrees.entries]
    have unraw : (fields.keyword.map Field.entry).map (·.name) =
        (fields.keyword.map Field.ident).map Name.unraw := by
      rw [List.map_map, List.map_map]
      rfl
    rw [same, unraw, keyword]
    decide
  have hasKeyword : directory.keyword ≠ [] := by
    intro noKeyword
    rw [noKeyword] at names
    cases names
  exact ⟨fields, replacement, code, directory, collected, written, parts, shown, names,
    agrees.optionsEmitted.mpr hasKeyword⟩

end ClassTable

end ClassExpansion
