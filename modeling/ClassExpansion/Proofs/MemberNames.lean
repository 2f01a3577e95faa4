import ClassExpansion.Proofs.Constants
import ClassExpansion.Proofs.Hook
import ClassExpansion.Proofs.Projection
import ClassExpansion.Proofs.Standalone

set_option autoImplicit false

/- Names of what is written for a class. No two fields have one name, but a property is stored under
a name made of its own, and a constant is named by its field in capitals. So two members come to
have one name just where a property is stored as another field, or where capitals make two names
one, and nothing keeps a class from being written then. -/
namespace ClassExpansion

namespace Name

theorem hash_not_mem (name : String) (named : Text.isIdentText name.toList = true) :
    '#' ∉ name.toList := by
  intro member
  have hash := ((Text.isIdentText_iff _).mp named).2 '#' member
  exact absurd hash (by decide)

theorem unraw_eq (name : String) :
    unraw name =
      if rawMark <+: name.toList then String.ofList (name.toList.drop 2) else name := by
  unfold unraw rawMark
  split
  · next rest marked =>
    rw [marked, if_pos ⟨rest, rfl⟩]
    rfl
  · next unmarked =>
    rw [if_neg]
    rintro ⟨rest, marked⟩
    exact unmarked rest marked.symm

/-- What follows does not make a mark, unless it has the second sign of one. -/
theorem rawMark_prefix_append (front text : List Char) (plain : '#' ∉ text) :
    rawMark <+: front ++ text ↔ rawMark <+: front := by
  constructor
  · intro marked
    match front, marked with
    | [], marked => exact absurd (marked.subset (by simp [rawMark])) plain
    | [c], marked =>
      have second := (List.cons_prefix_cons.mp marked).2
      exact absurd (second.subset List.mem_cons_self) plain
    | c :: d :: rest, marked =>
      obtain ⟨first, more⟩ := List.cons_prefix_cons.mp marked
      obtain ⟨second, _⟩ := List.cons_prefix_cons.mp more
      exact ⟨rest, by rw [← first, ← second]; rfl⟩
  · exact fun marked => marked.trans (List.prefix_append front text)

/-- Distinct names stay distinct behind the same text. -/
theorem unraw_append_inj (front a b : String) (plain : '#' ∉ a.toList) (plain' : '#' ∉ b.toList)
    (same : unraw (front ++ a) = unraw (front ++ b)) : a = b := by
  rw [unraw_eq, unraw_eq, String.toList_append, String.toList_append] at same
  simp only [rawMark_prefix_append front.toList _ plain,
    rawMark_prefix_append front.toList _ plain'] at same
  apply String.toList_injective
  split at same
  · next marked =>
    obtain ⟨rest, isMarked⟩ := marked
    rw [← isMarked] at same
    exact List.append_cancel_left (String.ofList_injective same)
  · have both := congrArg String.toList same
    rw [String.toList_append, String.toList_append] at both
    exact List.append_cancel_left both

end Name

namespace Field

/-- The name under which the field is stored, without the mark of a raw name. -/
def storedName (field : Field) : String :=
  match field.role with
  | .propertyShadow => Name.unraw field.shadow
  | _ => field.name

theorem unraw_storage (field : Field) (storage : String)
    (stored : field.storage? = some storage) : Name.unraw storage = field.storedName := by
  unfold storage? at stored
  unfold storedName
  split at stored
  · next role =>
    cases stored
    rw [role]
    rfl
  · next role =>
    cases stored
    rw [role]
  · cases stored
  · cases stored

end Field

namespace FieldList

variable (settings : Settings) (fields : FieldList)

/-- A property is stored under the name of a field that is stored as itself. -/
def Shadowed : Prop :=
  ∃ property ∈ fields.ofRole .propertyShadow, ∃ other ∈ fields.ofRole .standard,
    Name.unraw (settings.shadowText property.name) = other.name

theorem map_unraw_layout (decl : ClassDecl) :
    (decl.layout fields).fields.map (fun made => Name.unraw made.name) =
      fields.stored.map Field.storedName := by
  rw [map_eq_map_iff_forall₂]
  exact (forall₂_layout decl fields).flip.imp fun made field stored =>
    field.unraw_storage made.name stored

theorem mem_ofRole (role : Role) (field : Field) :
    field ∈ fields.ofRole role ↔ field ∈ fields ∧ field.role = role := by
  unfold ofRole
  rw [List.mem_filter, beq_iff_eq]

theorem mem_stored (field : Field) :
    field ∈ fields.stored ↔
      field ∈ fields.ofRole .standard ∨ field ∈ fields.ofRole .propertyShadow := by
  rw [mem_ofRole, mem_ofRole, ← and_or_left, stored, List.mem_filter]
  cases field.role <;> simp [Role.isStored]

variable (distinct : (fields.map Field.name).Nodup)
variable (shadows : ∀ field ∈ fields, field.shadow = settings.shadowText field.name)
variable (plain : ∀ field ∈ fields, '#' ∉ field.name.toList)

include distinct shadows plain

/-- Fields that are stored as themselves keep apart, and so do properties. -/
theorem nodup_storedName_iff :
    (fields.stored.map Field.storedName).Nodup ↔ ¬ Shadowed settings fields := by
  have alone : fields.stored.Nodup := (distinct.of_map _).sublist List.filter_sublist
  have byName : ∀ a ∈ fields, ∀ b ∈ fields, a.name = b.name → a = b :=
    fun a inFields b inFields' => List.inj_on_of_nodup_map distinct inFields inFields'
  have own (field : Field) (member : field ∈ fields.ofRole .standard) :
      field ∈ fields ∧ field.storedName = field.name := by
    obtain ⟨inFields, role⟩ := (mem_ofRole fields _ field).mp member
    exact ⟨inFields, by rw [Field.storedName, role]⟩
  have shadowed (field : Field) (member : field ∈ fields.ofRole .propertyShadow) :
      field ∈ fields ∧ field.storedName = Name.unraw (settings.shadowText field.name) := by
    obtain ⟨inFields, role⟩ := (mem_ofRole fields _ field).mp member
    exact ⟨inFields, by rw [Field.storedName, role, ← shadows field inFields]⟩
  rw [List.nodup_map_iff_inj_on alone]
  constructor
  · rintro keepsApart ⟨property, isProperty, other, isOther, same⟩
    have stored := keepsApart property ((mem_stored fields _).mpr (Or.inr isProperty)) other
      ((mem_stored fields _).mpr (Or.inl isOther))
      (by rw [(shadowed property isProperty).2, (own other isOther).2, same])
    have role := ((mem_ofRole fields _ _).mp isProperty).2
    rw [stored, ((mem_ofRole fields _ _).mp isOther).2] at role
    cases role
  · intro apart a inStored b inStored' same
    rcases (mem_stored fields a).mp inStored with isOwn | isProperty
    · obtain ⟨inFields, name⟩ := own a isOwn
      rcases (mem_stored fields b).mp inStored' with isOwn' | isProperty'
      · obtain ⟨inFields', name'⟩ := own b isOwn'
        exact byName a inFields b inFields' (name.symm.trans (same.trans name'))
      · obtain ⟨_, name'⟩ := shadowed b isProperty'
        exact absurd ⟨b, isProperty', a, isOwn, name'.symm.trans (same.symm.trans name)⟩ apart
    · obtain ⟨inFields, name⟩ := shadowed a isProperty
      rcases (mem_stored fields b).mp inStored' with isOwn' | isProperty'
      · obtain ⟨_, name'⟩ := own b isOwn'
        exact absurd ⟨a, isProperty, b, isOwn', name.symm.trans (same.trans name')⟩ apart
      · obtain ⟨inFields', name'⟩ := shadowed b isProperty'
        have sameText := name.symm.trans (same.trans name')
        exact byName a inFields b inFields' (Name.unraw_append_inj settings.shadowPrefix _ _
          (plain a inFields) (plain b inFields') sameText)

end FieldList

namespace ConstantCode

/-- Constants stand in the order of their fields. -/
theorem sublist_of_decided (line : List ClassDecl) (settings : Settings) (fields : List Field)
    (verdicts : List Verdict) (decided : List.Forall₂ (Decides line settings) fields verdicts) :
    ((verdicts.filterMap Verdict.emitted?).map (·.field)).Sublist (fields.map Field.name) := by
  induction decided with
  | nil => exact .slnil
  | @cons field verdict rest verdicts decides _ ih =>
    cases emitted : verdict.emitted? with
    | none =>
      rw [List.filterMap_cons_none emitted, List.map_cons]
      exact ih.cons _
    | some code =>
      rw [List.filterMap_cons_some emitted, List.map_cons, List.map_cons,
        decides.field_of_emitted code emitted]
      exact ih.cons_cons _

theorem name_of_emitted (line : List ClassDecl) (settings : Settings) (fields : List Field)
    (verdicts : List Verdict) (decided : List.Forall₂ (Decides line settings) fields verdicts)
    (code : ConstantCode) (member : code ∈ verdicts.filterMap Verdict.emitted?) :
    code.name = Text.upperSnake code.field := by
  obtain ⟨verdict, inVerdicts, emitted⟩ := List.mem_filterMap.mp member
  obtain ⟨field, _, decides⟩ := exists_mem_of_forall₂ _ fields verdicts decided verdict inVerdicts
  cases decides with
  | value =>
    cases emitted
    rfl
  | _ => cases emitted

/-- Constants of distinct fields have one name just where capitals make the names of the fields
one. -/
theorem nodup_name_iff (codes : List ConstantCode) (distinct : (codes.map (·.field)).Nodup)
    (named : ∀ code ∈ codes, code.name = Text.upperSnake code.field) :
    (codes.map (·.name)).Nodup ↔
      ∀ a ∈ codes, ∀ b ∈ codes, Text.upperSnake a.field = Text.upperSnake b.field →
        a.field = b.field := by
  have inCapitals : codes.map (·.name) = (codes.map (·.field)).map Text.upperSnake := by
    rw [List.map_map]
    exact List.map_congr_left named
  rw [inCapitals, List.nodup_map_iff_inj_on distinct]
  simp only [List.forall_mem_map]

end ConstantCode

namespace ClassTable

variable (table : ClassTable) (decl : ClassDecl)

theorem mem_of_ancestry (line : List ClassDecl) (ancestry : table.ancestry decl = .ok line)
    (c : ClassDecl) (member : c ∈ line) : c ∈ decl :: table := by
  have climb := ((table.ancestry_eq_ok_iff decl line).mp ancestry).1
  rw [climb.eq_cons] at member
  rcases List.mem_cons.mp member with same | above
  · exact same ▸ List.mem_cons_self
  · exact List.mem_cons_of_mem _ (climb.mem_table c above)

/-- Every field of a class is spelled by a name, as it is declared somewhere in the line. -/
theorem isUsable_ident_of_collect (fields : FieldList)
    (collected : FieldList.collect table decl = .ok fields)
    (named : ∀ c ∈ decl :: table, ∀ field ∈ c.fields, Name.isUsable field.ident = true)
    (field : Field) (member : field ∈ fields) :
    Name.isUsable field.ident = true ∧ field.shadow = decl.settings.shadowText field.name := by
  obtain ⟨line, _, ancestry, _⟩ := FieldList.exists_of_collect table decl fields collected
  obtain ⟨declared, _, last, resolves⟩ :=
    FieldList.exists_declared_of_mem table decl fields collected line ancestry field member
  obtain ⟨inLine, inOwner⟩ :=
    (mem_declarations line declared).mp (mem_of_lastNamed? _ _ _ _ last).1
  have owner := table.mem_of_ancestry decl line ancestry declared.owner inLine
  exact ⟨resolves.ident ▸ named declared.owner owner declared.field inOwner,
    resolves.name ▸ resolves.shadow⟩

/-- The fields of the struct that is written for a class have distinct names unless a property is
stored under the name of another field. Its constants, one for a class-scoped field at most, have
distinct names unless the names of two of these fields are one in capitals. -/
theorem generate_member_names (table : ClassTable) (decl : ClassDecl) (replacement : Replacement)
    (made : decl.hasOwnConstructor = false) (generated : table.generate decl = .ok replacement)
    (named : ∀ c ∈ decl :: table, ∀ field ∈ c.fields, Name.isUsable field.ident = true) :
    ∃ fields code, FieldList.collect table decl = .ok fields ∧
      ClassCode.ofFields table decl fields = .ok code ∧ code.tokens = .ok replacement.tokens ∧
      code.IsWrittenAs (.ofFields decl.ident fields) replacement.tokens ∧
      ((code.layout.fields.map fun made => Name.unraw made.name).Nodup ↔
        ¬ fields.Shadowed decl.settings) ∧
      (code.constants.map (·.field)).Sublist ((fields.ofRole .classVar).map Field.name) ∧
      ((code.constants.map (·.name)).Nodup ↔
        ∀ a ∈ code.constants, ∀ b ∈ code.constants,
          Text.upperSnake a.field = Text.upperSnake b.field → a.field = b.field) := by
  obtain ⟨fields, collected, written⟩ :=
    table.exists_fields_of_generate decl made replacement generated
  obtain ⟨code, parts, spelled, isMade, shown⟩ :=
    table.exists_written_of_write decl fields replacement written
  refine ⟨fields, code, collected, parts, spelled, shown, ?_⟩
  have distinct := FieldList.nodup_name_of_collect table decl fields collected
  have each := table.isUsable_ident_of_collect decl fields collected named
  obtain ⟨line, _, ancestry, _⟩ := FieldList.exists_of_collect table decl fields collected
  obtain ⟨verdicts, decided, emitted, _⟩ := ConstantCode.exists_verdicts_of_ofFields table decl line
    ancestry fields code.constants (ClassCode.constants_of_ofFields table decl fields code parts)
  have ofClass : ((fields.ofRole .classVar).map Field.name).Nodup :=
    distinct.sublist (List.filter_sublist.map _)
  have inOrder := ConstantCode.sublist_of_decided line decl.settings _ verdicts decided
  have inCapitals := ConstantCode.name_of_emitted line decl.settings _ verdicts decided
  rw [emitted] at inOrder inCapitals
  refine ⟨?_, inOrder, ConstantCode.nodup_name_iff _ (ofClass.sublist inOrder) inCapitals⟩
  rw [isMade.layout, FieldList.map_unraw_layout fields decl]
  refine FieldList.nodup_storedName_iff decl.settings fields distinct ?_ ?_
  · exact fun field member => (each field member).2
  · exact fun field member => Name.hash_not_mem _ (Name.isIdentText_unraw _ (each field member).1)

end ClassTable

namespace Expansion

/-- The class of a struct by itself, with its fields and its code. -/
def classWithCode (s : StructItem) : Attempt (ClassDecl × FieldList × ClassCode) := do
  let decl ← ClassDecl.ofStruct s (some [])
  let fields ← FieldList.collect [decl] decl
  return (decl, fields, ← ClassCode.ofFields [decl] decl fields)

theorem exists_classWithCode (s : StructItem) (expansion : Expansion)
    (expanded : ofStruct s [] = .ok expansion) :
    ∃ decl fields code part, classWithCode s = .ok (decl, fields, code) ∧
      decl.hasOwnConstructor = false ∧ ClassTable.generate [decl] decl = .ok part ∧
      FieldList.collect [decl] decl = .ok fields ∧
      ClassCode.ofFields [decl] decl fields = .ok code ∧ code.tokens = .ok expansion.tokens := by
  obtain ⟨decl, part, read, _, generated, rfl⟩ := exists_class_of_ofStruct s [] expansion expanded
  have made := ClassDecl.hasOwnConstructor_of_ofStruct s (some []) decl read
  obtain ⟨fields, collected, written⟩ :=
    ClassTable.exists_fields_of_generate _ decl made part generated
  obtain ⟨code, parts, spelled⟩ := ClassTable.exists_code_of_write _ decl fields part written
  refine ⟨decl, fields, code, part, ?_, made, generated, collected, parts, spelled⟩
  unfold classWithCode
  rw [read, Attempt.ok_bind, collected, Attempt.ok_bind, parts]
  rfl

/-- A struct with a property and two constants, and what its other members are called. -/
def crowd (stored constant : String) : StructItem :=
  let option (tokens : Tokens) : Attribute := ⟨false, ⟨⟨false, ["field"]⟩, .list .paren tokens⟩⟩
  let ofClass : Ty := .marked "ClassVar" (.named "i64")
  ⟨[], [], "Crowd", false, .named [⟨[], [], stored, .named "i64"⟩,
    ⟨[option [.ident "property"]], [], "a", .named "i64"⟩,
    ⟨[option (textOption "default" "1")], [], "fooBar", ofClass⟩,
    ⟨[option (textOption "default" "2")], [], constant, ofClass⟩], []⟩

/-- The names of the stored fields and of the constants. -/
def memberNames (code : ClassCode) : List String × List String :=
  (code.layout.fields.map (Name.unraw ·.name), code.constants.map (·.name))

set_option maxRecDepth 100000 in
theorem generate_member_names_crowd : ∃ decl fields code replacement,
    ClassTable.generate [decl] decl = .ok replacement ∧
    FieldList.collect [decl] decl = .ok fields ∧
    ClassCode.ofFields [decl] decl fields = .ok code ∧ code.tokens = .ok replacement.tokens ∧
    code.IsWrittenAs (.ofFields decl.ident fields) replacement.tokens ∧
    memberNames code = (["b", "_a"], ["FOO_BAR", "LIMIT"]) ∧
    ¬ fields.Shadowed decl.settings ∧
    ∀ a ∈ code.constants, ∀ b ∈ code.constants,
      Text.upperSnake a.field = Text.upperSnake b.field → a.field = b.field := by
  obtain ⟨expansion, expanded⟩ := Attempt.exists_of_isOk (ofStruct (crowd "b" "limit") [])
    (by decide +kernel)
  obtain ⟨decl, _, _, part, whole, made, generated, collected, parts, _⟩ :=
    exists_classWithCode _ expansion expanded
  have known : (classWithCode (crowd "b" "limit")).value?.map (fun made =>
      (made.1.fields.all (Name.isUsable ·.ident), memberNames made.2.2)) =
      some (true, ["b", "_a"], ["FOO_BAR", "LIMIT"]) := by
    decide +kernel
  rw [whole] at known
  obtain ⟨usable, names⟩ := Prod.mk.inj (Option.some.inj known)
  have own := List.all_eq_true.mp usable
  have named : ∀ c ∈ [decl, decl], ∀ field ∈ c.fields, Name.isUsable field.ident = true := by
    intro c member
    rcases List.mem_pair.mp member with rfl | rfl
    · exact own
    · exact own
  obtain ⟨fields, code, sameFields, sameParts, spelled, shown, stored, _, constants⟩ :=
    ClassTable.generate_member_names [decl] decl part made generated named
  obtain rfl := Except.ok.inj (collected.symm.trans sameFields)
  obtain rfl := Except.ok.inj (parts.symm.trans sameParts)
  obtain ⟨storedNames, constantNames⟩ := Prod.mk.inj names
  refine ⟨decl, _, _, part, generated, collected, parts, spelled, shown, names, stored.mp ?_,
    constants.mp ?_⟩
  · rw [storedNames]
    decide
  · rw [constantNames]
    decide

set_option maxRecDepth 100000 in
/-- A field has the name under which the property is stored, and two fields have one name in
capitals. -/
theorem ofStruct_same_member_names : ∃ expansion decl fields code,
    ofStruct (crowd "_a" "foo_bar") [] = .ok expansion ∧
    FieldList.collect [decl] decl = .ok fields ∧
    ClassCode.ofFields [decl] decl fields = .ok code ∧ code.tokens = .ok expansion.tokens ∧
    ¬ (code.layout.fields.map fun made => Name.unraw made.name).Nodup ∧
    ¬ (code.constants.map (·.name)).Nodup := by
  obtain ⟨expansion, expanded⟩ := Attempt.exists_of_isOk (ofStruct (crowd "_a" "foo_bar") [])
    (by decide +kernel)
  obtain ⟨decl, fields, code, _, whole, _, _, collected, parts, spelled⟩ :=
    exists_classWithCode _ expansion expanded
  have names : (classWithCode (crowd "_a" "foo_bar")).value?.map (memberNames ·.2.2) =
      some (["_a", "_a"], ["FOO_BAR", "FOO_BAR"]) := by
    decide +kernel
  rw [whole] at names
  obtain ⟨storedNames, constantNames⟩ := Prod.mk.inj (Option.some.inj names)
  refine ⟨expansion, decl, fields, code, expanded, collected, parts, spelled, ?_, ?_⟩
  · rw [storedNames]
    decide
  · rw [constantNames]
    decide

end Expansion

end ClassExpansion
