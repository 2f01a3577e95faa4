import ClassExpansion.Proofs.Directory
import ClassExpansion.Proofs.Mapping

set_option autoImplicit false

/- Directory and struct of a class fit together. What the directory names as stored is where the
struct has its value, so that the mapping of an object has all stored fields. -/
namespace ClassExpansion

variable {α : Type}

/-- What an object with the values serializes to: each field of the struct under its own name, in
any order. -/
def StructCode.SerializesTo (layout : StructCode) (value : StructField → α)
    (entries : List (String × α)) : Prop :=
  entries.Perm (layout.fields.map fun made => (Name.unraw made.name, value made))

/-- The entry has the declared name of the field and the value of the struct field that stores
it. -/
structure Field.Projects (layout : StructCode) (value : StructField → α) (field : Field)
    (entry : String × α) : Prop where
  named : entry.1 = field.name
  stored : ∃ made ∈ layout.fields, field.storage? = some made.name ∧ entry.2 = value made

theorem Field.key_entry (field : Field) (storage : String) (stored : field.storage? = some storage) :
    field.entry.key = Name.unraw storage := by
  have known : field.entry.storage? = some (Name.unraw storage) :=
    congrArg (Option.map Name.unraw) stored
  rw [FieldInfo.key, known, Option.getD_some]

namespace StructCode.SerializesTo

variable {layout : StructCode} {value : StructField → α} {entries : List (String × α)}

/-- Distinct field names are distinct keys, each of them with the value of its field. -/
theorem lookup (serializes : layout.SerializesTo value entries)
    (distinct : (layout.fields.map fun made => Name.unraw made.name).Nodup) (made : StructField)
    (member : made ∈ layout.fields) :
    entries.lookup (Name.unraw made.name) = some (value made) := by
  have keys : (entries.map Prod.fst).Nodup := by
    rw [(serializes.map Prod.fst).nodup_iff, List.map_map]
    exact distinct
  have inEntries : (Name.unraw made.name, value made) ∈ entries :=
    serializes.mem_iff.mpr (List.mem_map.mpr ⟨made, member, rfl⟩)
  exact lookup_of_mem entries keys _ inEntries

end StructCode.SerializesTo

namespace FieldList

variable (decl : ClassDecl) (fields : FieldList)

/-- The struct has a field for each stored one. -/
theorem forall₂_layout :
    List.Forall₂ (fun field made => field.storage? = some made.name) fields.stored
      (decl.layout fields).fields := by
  refine (fields.forall₂_stored _).imp ?_
  intro field made ⟨storage, stored, same⟩
  rw [stored, same]

theorem map_key_stored :
    (fields.stored.map Field.entry).map FieldInfo.key =
      (decl.layout fields).fields.map fun made => Name.unraw made.name := by
  rw [List.map_map, map_eq_map_iff_forall₂]
  exact (forall₂_layout decl fields).imp fun field made stored =>
    field.key_entry made.name stored

theorem name_not_mem_stored (distinct : (fields.map Field.name).Nodup) (field : Field)
    (member : field ∈ fields) (unstored : field.role.isStored = false) :
    field.name ∉ fields.stored.map Field.name := by
  intro taken
  obtain ⟨other, inStored, same⟩ := List.mem_map.mp taken
  obtain ⟨inFields, stored⟩ := List.mem_filter.mp inStored
  have isField : other = field := List.inj_on_of_nodup_map distinct inFields member same
  rw [isField, unstored] at stored
  cases stored

variable {value : StructField → α} {entries : List (String × α)}
variable (serializes : (decl.layout fields).SerializesTo value entries)
variable (distinct : ((decl.layout fields).fields.map fun made => Name.unraw made.name).Nodup)

include serializes distinct

theorem exists_lookup_entry (field : Field) (member : field ∈ fields.stored) :
    ∃ made ∈ (decl.layout fields).fields, field.storage? = some made.name ∧
      entries.lookup field.entry.key = some (value made) := by
  have paired := (forall₂_layout decl fields).flip
  obtain ⟨made, inLayout, stored⟩ := exists_mem_of_forall₂ _ _ _ paired field member
  rw [field.key_entry made.name stored]
  exact ⟨made, inLayout, stored, serializes.lookup distinct made inLayout⟩

theorem canMove_stored :
    Mapping.CanMove entries (ClassDirectory.ofFields decl.ident fields).stored := by
  rw [ClassDirectory.stored_ofFields]
  constructor
  · rw [map_key_stored decl fields]
    exact distinct
  · intro info member
    obtain ⟨field, inStored, same⟩ := List.mem_map.mp member
    obtain ⟨made, _, _, found⟩ := exists_lookup_entry decl fields serializes distinct field inStored
    exact ⟨value made, same ▸ found⟩

theorem forall₂_projects :
    List.Forall₂ (Field.Projects (decl.layout fields) value) fields.stored
      (Mapping.values entries (fields.stored.map Field.entry)) := by
  have canMove := canMove_stored decl fields serializes distinct
  rw [ClassDirectory.stored_ofFields] at canMove
  have each := List.forall₂_map_left_iff.mp
    (Mapping.forall₂_values entries _ canMove.present)
  have found := exists_lookup_entry decl fields serializes distinct
  refine ((List.forall₂_and_left _ _).mpr ⟨found, each⟩).imp ?_
  intro field entry ⟨⟨made, inLayout, stored, has⟩, named, same⟩
  rw [has, Option.some.injEq] at same
  exact ⟨named, made, inLayout, stored, same.symm⟩

/-- The mapping of an object has the stored fields in order, each under its declared name. -/
theorem exists_mapping (named : (fields.map Field.name).Nodup) :
    ∃ mapping, (ClassDirectory.ofFields decl.ident fields).mapping (.object entries) = .ok mapping ∧
      mapping.map Prod.fst = fields.stored.map Field.name ∧
      List.Forall₂ (Field.Projects (decl.layout fields) value) fields.stored mapping := by
  have each := forall₂_projects decl fields serializes distinct
  have names : (Mapping.values entries (fields.stored.map Field.entry)).map Prod.fst =
      fields.stored.map Field.name :=
    (map_eq_map_iff_forall₂ _ _ _ _).mpr (each.flip.imp fun _ _ projects => projects.named)
  refine ⟨_, ?_, names, each⟩
  have canMove := canMove_stored decl fields serializes distinct
  have alone : ((Mapping.values entries (fields.stored.map Field.entry)).map Prod.fst).Nodup := by
    rw [names]
    exact named.sublist (List.filter_sublist.map _)
  rw [ClassDirectory.mapping, Mapping.move_of_canMove _ entries _ [] canMove,
    ClassDirectory.stored_ofFields, foldl_putNamed_of_nodup Prod.fst _ alone]

end FieldList

namespace ClassTable

open FieldList (book shelf)

/-- Where the field names of the struct are distinct, an object of the struct has a mapping, with
one entry for each stored field and none for others. The struct is the first part of what is written,
and the directory is read from the last one. -/
theorem write_mapping_complete (table : ClassTable) (decl : ClassDecl) (fields : FieldList)
    (replacement : Replacement) (collected : FieldList.collect table decl = .ok fields)
    (written : table.write decl fields = .ok replacement)
    (distinct : ((decl.layout fields).fields.map fun made => Name.unraw made.name).Nodup) :
    ∃ code implementation directory, ClassCode.ofFields table decl fields = .ok code ∧
      replacement.tokens = (decl.layout fields).tokens ++ code.optionsTokens
        ++ code.constructor.tokens ++ ConstantCode.allTokens decl.ident code.constants
        ++ implementation ∧
      (decl.layout fields).IsWrittenAs (decl.layout fields).tokens ∧
      ClassDirectory.denoted? implementation = some directory ∧
      ∀ (β : Type) (value : StructField → β) (entries : List (String × β)),
        (decl.layout fields).SerializesTo value entries →
        ∃ mapping, directory.mapping (.object entries) = .ok mapping ∧
          List.Forall₂ (Field.Projects (decl.layout fields) value) fields.stored mapping ∧
          ∀ field ∈ fields, field.role.isStored = false →
            field.name ∉ mapping.map Prod.fst := by
  obtain ⟨code, implementation, parts, joined, read, _⟩ :=
    table.exists_parts_of_write decl fields replacement written
  refine ⟨code, implementation, _, parts, joined, (decl.layout fields).isWrittenAs, read, ?_⟩
  intro β value entries serializes
  have named := FieldList.nodup_name_of_collect table decl fields collected
  obtain ⟨mapping, moved, names, each⟩ :=
    FieldList.exists_mapping decl fields serializes distinct named
  refine ⟨mapping, moved, each, ?_⟩
  intro field member unstored
  rw [names]
  exact FieldList.name_not_mem_stored fields named field member unstored

set_option maxRecDepth 100000 in
/-- A book whose struct fields hold their own names. -/
theorem write_mapping_complete_book : ∃ fields replacement implementation directory mapping,
    FieldList.collect shelf book = .ok fields ∧ shelf.write book fields = .ok replacement ∧
    ClassDirectory.denoted? implementation = some directory ∧
    directory.mapping (.object ((book.layout fields).fields.map fun made =>
      (Name.unraw made.name, made.name))) = .ok mapping ∧
    mapping.map (fun entry => (entry.1, some entry.2)) =
      [("title", some "title"), ("type", some "r#type"), ("cached", some "_cached")] := by
  obtain ⟨fields, replacement, collected, written, _⟩ := exists_write_book
  have known : (FieldList.collect shelf book).value?.map
      (fun fields => fields.stored.map fun field => (field.name, field.storage?)) =
      some [("title", some "title"), ("type", some "r#type"), ("cached", some "_cached")] := by
    decide +kernel
  rw [collected] at known
  have stored := Option.some.inj known
  have storages : fields.stored.filterMap Field.storage? = ["title", "r#type", "_cached"] := by
    have second := congrArg (List.filterMap Prod.snd) stored
    rwa [List.filterMap_map] at second
  have distinct :
      ((book.layout fields).fields.map fun made => Name.unraw made.name).Nodup := by
    have unraw : ((book.layout fields).fields.map fun made => Name.unraw made.name) =
        ((book.layout fields).fields.map (·.name)).map Name.unraw := by
      rw [List.map_map]
      rfl
    rw [unraw, FieldList.map_name_layout, storages]
    decide +kernel
  obtain ⟨_, implementation, directory, _, _, _, read, fits⟩ :=
    shelf.write_mapping_complete book fields replacement collected written distinct
  obtain ⟨mapping, moved, each, _⟩ := fits String StructField.name _ (List.Perm.refl _)
  refine ⟨fields, replacement, implementation, directory, mapping, collected, written, read, moved,
    ?_⟩
  rw [← stored, map_eq_map_iff_forall₂]
  refine each.flip.imp ?_
  intro entry field projects
  obtain ⟨made, _, storage, same⟩ := projects.stored
  rw [projects.named, storage, same]

end ClassTable

end ClassExpansion
