import ClassExpansion.Proofs.Ancestry
import ClassExpansion.Proofs.Attempt
import ClassExpansion.Proofs.FieldList

set_option autoImplicit false

/- Which declaration decides about a field. The name stands where the nearest class has it, and
everything else, the default included, is what the most distant class says. -/
namespace ClassExpansion

open ClassTable (Declared Attributed declarations ownAttribute?)

/-- A type that is but a name. -/
def Ty.named (name : String) : Ty := .path false [] [.mk name .none]

/-- A type as the only argument of a name. -/
def Ty.marked (marker : String) (inner : Ty) : Ty :=
  .path false [] [.mk marker (.angled false [.type inner false])]

def Expr.number (digits : String) : Expr := .lit [] (.ofText digits)

/-- The name that is declared. -/
def ClassTable.Declared.name (declared : Declared) : String := declared.field.name

/-- The field is as it is declared, with the default that is found for it. Suffix and prefix are
those of the settings. -/
structure Field.Resolves (settings : Settings) (declared : Declared) (found : Option Attributed)
    (field : Field) : Prop where
  ident : field.ident = declared.field.ident
  ty : field.ty = declared.field.ty
  valueTy : declared.field.ty.valueType = .ok field.valueTy
  vis : field.vis = declared.field.vis
  attrs : field.attrs = declared.field.attrs
  owner : field.owner = declared.owner.ident
  default : field.default = (found.map fun a => Default.ofSpec a.spec settings).getD .missing
  metadata : field.metadata = (found.map fun a => a.spec.metadata).getD []
  shadow : field.shadow = settings.shadowText declared.name

theorem Field.Resolves.name {settings : Settings} {declared : Declared}
    {found : Option Attributed} {field : Field}
    (resolves : field.Resolves settings declared found) : field.name = declared.name :=
  congrArg Name.unraw resolves.ident

namespace ClassTable

theorem lineage_eq_ok_iff (table : ClassTable) (decl : ClassDecl) (line : List ClassDecl) :
    table.lineage decl = .ok line ↔ table.ancestry decl = .ok line :=
  Attempt.lift_eq_ok_iff _ line

theorem attribute?_eq_ok_iff (table : ClassTable) (decl : ClassDecl) (name : String)
    (found : Option Attributed) :
    table.attribute? decl name = .ok found ↔
      ∃ line, table.ancestry decl = .ok line ∧ line.findSome? (ownAttribute? name) = found := by
  unfold attribute?
  rw [Attempt.bind_eq_ok_iff]
  constructor
  · rintro ⟨line, lineage, same⟩
    exact ⟨line, (table.lineage_eq_ok_iff decl line).mp lineage, Except.ok.inj same⟩
  · rintro ⟨line, ancestry, same⟩
    exact ⟨line, (table.lineage_eq_ok_iff decl line).mpr ancestry, congrArg Except.ok same⟩

theorem declarations_cons (decl : ClassDecl) (rest : List ClassDecl) :
    declarations (decl :: rest) =
      decl.fields.map (fun field => ⟨decl, field⟩) ++ declarations rest := rfl

theorem mem_declarations (line : List ClassDecl) (declared : Declared) :
    declared ∈ declarations line ↔
      declared.owner ∈ line ∧ declared.field ∈ declared.owner.fields := by
  simp only [declarations, List.mem_flatMap, List.mem_map]
  constructor
  · rintro ⟨owner, inLine, field, inOwner, rfl⟩
    exact ⟨inLine, inOwner⟩
  · rintro ⟨inLine, inOwner⟩
    exact ⟨declared.owner, inLine, declared.field, inOwner, rfl⟩

/-- The last declaration of a name stands in the most distant class that has the name. -/
theorem owner_of_lastNamed? (line : List ClassDecl) (name : String) (declared : Declared)
    (last : lastNamed? Declared.name (declarations line) name = some declared) :
    ∃ nearer further, line = nearer ++ declared.owner :: further ∧
      ∀ decl ∈ further, decl.field? name = none := by
  induction line with
  | nil => cases last
  | cons decl rest ih =>
    rw [declarations_cons, lastNamed?_append] at last
    cases later : lastNamed? Declared.name (declarations rest) name with
    | some other =>
      rw [later, Option.some_or, Option.some.injEq] at last
      subst last
      obtain ⟨nearer, further, split, without⟩ := ih later
      exact ⟨decl :: nearer, further, by rw [split, List.cons_append], without⟩
    | none =>
      rw [later, Option.none_or] at last
      obtain ⟨field, _, isOwn⟩ := List.mem_map.mp (mem_of_lastNamed? _ _ _ _ last).1
      subst isOwn
      refine ⟨[], rest, rfl, ?_⟩
      intro other inRest
      rw [ClassDecl.field?, List.find?_eq_none]
      intro field inOther
      rw [lastNamed?_eq_none_iff] at later
      rw [beq_iff_eq]
      exact later ⟨other, field⟩ ((mem_declarations rest _).mpr ⟨inRest, inOther⟩)

/-- From the most distant class that has the name, the search for its default ends in this class:
nearer classes are not asked, and the others have nothing to say. -/
theorem attribute?_of_lastNamed? (table : ClassTable) (decl : ClassDecl) (line : List ClassDecl)
    (ancestry : table.ancestry decl = .ok line) (name : String) (declared : Declared)
    (last : lastNamed? Declared.name (declarations line) name = some declared) :
    table.attribute? declared.owner name = .ok (ownAttribute? name declared.owner) := by
  obtain ⟨nearer, further, rfl, without⟩ := owner_of_lastNamed? line name declared last
  have onward := table.ancestry_drop decl _ ancestry nearer.length (by simp)
  rw [List.getElem_append_right (Nat.le_refl _), List.drop_left] at onward
  simp only [Nat.sub_self, List.getElem_cons_zero] at onward
  rw [attribute?_eq_ok_iff]
  refine ⟨_, onward, ?_⟩
  have silent : further.findSome? (ownAttribute? name) = none := by
    rw [List.findSome?_eq_none_iff]
    intro other inFurther
    rw [ownAttribute?, without other inFurther]
  rw [List.findSome?_cons, silent]
  cases ownAttribute? name declared.owner <;> rfl

end ClassTable

namespace Field

theorem resolve_explained (table : ClassTable) (settings : Settings) (declared : Declared) :
    Attempt.Explained (resolve table settings declared) := by
  unfold resolve ClassTable.attribute? ClassTable.lineage
  refine Attempt.explained_bind _ _ ?_ fun found _ => ?_
  · exact Attempt.explained_bind _ _ (Attempt.explained_lift _) fun line _ =>
      Attempt.explained_ok _
  refine Attempt.explained_bind _ _ (Attempt.explained_lift _) fun valueTy _ => ?_
  exact Attempt.explained_bind _ _ (Attempt.explained_name _) fun shadow _ =>
    Attempt.explained_ok _

theorem resolves_of_resolve (table : ClassTable) (settings : Settings) (declared : Declared)
    (field : Field) (resolved : resolve table settings declared = .ok field) :
    ∃ found, table.attribute? declared.owner declared.name = .ok found ∧
      field.Resolves settings declared found := by
  unfold resolve at resolved
  simp only [Attempt.bind_eq_ok_iff, Attempt.lift_eq_ok_iff] at resolved
  obtain ⟨found, searched, valueTy, value, shadow, named, made⟩ := resolved
  obtain ⟨_, rfl⟩ := (Attempt.name_eq_ok_iff _ _).mp named
  cases made
  refine ⟨found, searched, ⟨rfl, rfl, value, rfl, rfl, rfl, ?_, ?_, rfl⟩⟩
  · cases found <;> rfl
  · cases found <;> rfl

end Field

namespace FieldList

theorem exists_of_collect (table : ClassTable) (decl : ClassDecl) (fields : FieldList)
    (collected : collect table decl = .ok fields) :
    ∃ line resolved, table.ancestry decl = .ok line ∧
      List.Forall₂ (fun declared field => Field.resolve table decl.settings declared = .ok field)
        (declarations line) resolved ∧
      fields = resolved.foldl put [] := by
  unfold collect at collected
  simp only [Attempt.bind_eq_ok_iff] at collected
  obtain ⟨line, lineage, resolved, gathered, made⟩ := collected
  cases made
  rw [Attempt.gather_eq_ok_iff] at gathered
  · rw [map_eq_map_iff_forall₂] at gathered
    exact ⟨line, resolved, (table.lineage_eq_ok_iff decl line).mp lineage, gathered, rfl⟩
  · intro attempt member
    obtain ⟨declared, _, rfl⟩ := List.mem_map.mp member
    exact Field.resolve_explained table decl.settings declared

theorem nodup_name_of_collect (table : ClassTable) (decl : ClassDecl) (fields : FieldList)
    (collected : collect table decl = .ok fields) : (fields.map Field.name).Nodup := by
  obtain ⟨_, resolved, _, _, rfl⟩ := exists_of_collect table decl fields collected
  exact nodup_foldl_put resolved

/-- A field comes from the last declaration of its name along the line, with what the class says of
it that declares it there. -/
theorem exists_own_of_mem (table : ClassTable) (decl : ClassDecl) (fields : FieldList)
    (collected : collect table decl = .ok fields) (line : List ClassDecl)
    (ancestry : table.ancestry decl = .ok line) (field : Field) (member : field ∈ fields) :
    ∃ declared, lastNamed? Declared.name (declarations line) field.name = some declared ∧
      field.Resolves decl.settings declared (ownAttribute? field.name declared.owner) := by
  obtain ⟨other, resolved, sameLine, each, made⟩ := exists_of_collect table decl fields collected
  rw [ancestry, Except.ok.injEq] at sameLine
  subst sameLine made
  have keeps : ∀ declared field, Field.resolve table decl.settings declared = .ok field →
      field.name = declared.name := by
    intro declared field resolve
    obtain ⟨_, _, resolves⟩ := Field.resolves_of_resolve _ _ _ _ resolve
    exact resolves.name
  have latest := lastNamed?_of_mem_foldl_put resolved field member
  obtain ⟨declared, last, resolve⟩ :=
    exists_lastNamed?_of_forall₂ Declared.name Field.name _ keeps _ _ each _ _ latest
  obtain ⟨found, searched, resolves⟩ := Field.resolves_of_resolve _ _ _ _ resolve
  have own := table.attribute?_of_lastNamed? decl line ancestry field.name declared last
  rw [← resolves.name, own] at searched
  cases searched
  exact ⟨declared, last, resolves⟩

theorem exists_declared_of_mem (table : ClassTable) (decl : ClassDecl) (fields : FieldList)
    (collected : collect table decl = .ok fields) (line : List ClassDecl)
    (ancestry : table.ancestry decl = .ok line) (field : Field) (member : field ∈ fields) :
    ∃ declared found,
      lastNamed? Declared.name (declarations line) field.name = some declared ∧
      field.Resolves decl.settings declared found := by
  obtain ⟨declared, last, resolves⟩ :=
    exists_own_of_mem table decl fields collected line ancestry field member
  exact ⟨declared, _, last, resolves⟩

/-- The fields of a class are the names along its line, each at its first place. What a field is
comes from its last declaration, and its default from the first declaration of the name in the
class that this one stands in, whatever nearer classes say. -/
theorem collect_first_place_last_declaration (table : ClassTable) (decl : ClassDecl)
    (fields : FieldList) (collected : collect table decl = .ok fields) :
    ∃ line, table.ancestry decl = .ok line ∧
      fields.map Field.name = ((declarations line).map Declared.name).eraseDups ∧
      (fields.map Field.name).Nodup ∧
      ∀ field ∈ fields, ∃ declared,
        lastNamed? Declared.name (declarations line) field.name = some declared ∧
        field.Resolves decl.settings declared (ownAttribute? field.name declared.owner) ∧
        table.attribute? declared.owner field.name =
          .ok (ownAttribute? field.name declared.owner) := by
  obtain ⟨line, resolved, ancestry, each, rfl⟩ := exists_of_collect table decl fields collected
  have keeps : ∀ declared field, Field.resolve table decl.settings declared = .ok field →
      field.name = declared.name := by
    intro declared field resolve
    obtain ⟨_, _, resolves⟩ := Field.resolves_of_resolve _ _ _ _ resolve
    exact resolves.name
  have sameNames : (declarations line).map Declared.name = resolved.map Field.name := by
    rw [map_eq_map_iff_forall₂]
    exact each.imp fun declared field resolve => (keeps declared field resolve).symm
  refine ⟨line, ancestry, ?_, nodup_foldl_put resolved, ?_⟩
  · rw [map_name_foldl_put, sameNames]
  · intro field member
    obtain ⟨declared, last, resolve⟩ := exists_lastNamed?_of_forall₂ Declared.name Field.name _
      keeps _ _ each _ _ (lastNamed?_of_mem_foldl_put resolved field member)
    obtain ⟨found, searched, resolves⟩ := Field.resolves_of_resolve _ _ _ _ resolve
    have own := table.attribute?_of_lastNamed? decl line ancestry field.name declared last
    rw [← resolves.name, own] at searched
    cases searched
    exact ⟨declared, last, resolves, own⟩

/-- A book is an item. Both say what `type` is, and the item writes it as a raw name. -/
def book : ClassDecl := .usual "Book" (some "Item") [
  ⟨"title", .named "Text", [], [], none⟩,
  ⟨"type", .named "u16", [], [], some { FieldSpec.empty with default? := some (.number "2") }⟩,
  ⟨"cached", .named "Text", [], [], some { FieldSpec.empty with property := true }⟩]

def item : ClassDecl := .usual "Item" none [
  ⟨"r#type", .named "u8", [], [], some { FieldSpec.empty with default? := some (.number "1") }⟩,
  ⟨"token", .marked "InitVar" (.named "u8"), [], [], none⟩,
  ⟨"limit", .marked "ClassVar" (.named "u8"), [], [], none⟩]

def shelf : ClassTable := [book, item]

theorem collect_book : ∃ fields, collect shelf book = .ok fields ∧
    fields.map Field.name = ["title", "type", "cached", "token", "limit"] ∧
    ∀ field ∈ fields, field.name = "type" → field.ident = "r#type" ∧ field.owner = "Item" ∧
      field.default = .value (.number "1") := by
  obtain ⟨fields, collected⟩ := Attempt.exists_of_isOk (collect shelf book) (by decide +kernel)
  obtain ⟨line, ancestry, names, _, each⟩ :=
    collect_first_place_last_declaration shelf book fields collected
  have known : shelf.ancestry book = .ok [book, item] :=
    (shelf.ancestry_eq_ok_iff book _).mpr
      ⟨⟨rfl, .cons_cons ⟨"Item", rfl, rfl⟩ (.singleton _), by decide⟩, item, rfl, rfl⟩
  rw [known] at ancestry
  cases ancestry
  refine ⟨fields, collected, names.trans (by decide +kernel), ?_⟩
  intro field member isType
  obtain ⟨declared, last, resolves, _⟩ := each field member
  rw [isType] at last resolves
  cases last
  exact ⟨resolves.ident, resolves.owner, resolves.default⟩

end FieldList

end ClassExpansion
