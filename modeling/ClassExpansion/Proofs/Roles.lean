import ClassExpansion.Class.FieldList
import Mathlib.Data.List.Forall2
import Mathlib.Data.List.Nodup
import Mathlib.Data.List.Perm.Basic

set_option autoImplicit false

/- Fields by role and default. Every parameter is stored or handed to the hook, and it is required
or a keyword field, but not both. -/
namespace ClassExpansion

namespace Field

theorem isSome_storage? (field : Field) : field.storage?.isSome = field.role.isStored := by
  unfold storage?
  cases field.role <;> rfl

theorem isParameter_iff (field : Field) :
    field.role.isParameter = true ↔ field.role ≠ .classVar := by
  cases field.role <;> simp [Role.isParameter]

end Field

namespace FieldList

theorem required_append_keyword (fields : FieldList) :
    (fields.required ++ fields.keyword).Perm fields.parameters := by
  have split : (fields.keyword ++ fields.required).Perm fields.parameters :=
    List.filter_append_perm Field.hasDefault fields.parameters
  exact List.perm_append_comm.trans split

theorem filter_isStored_parameters (fields : FieldList) :
    fields.parameters.filter (·.role.isStored) = fields.stored := by
  unfold parameters stored
  rw [List.filter_filter]
  refine List.filter_congr fun field _ => ?_
  cases field.role <;> rfl

theorem filter_unstored_parameters (fields : FieldList) :
    fields.parameters.filter (!·.role.isStored) = fields.ofRole .initVar := by
  unfold parameters ofRole
  rw [List.filter_filter]
  refine List.filter_congr fun field _ => ?_
  cases field.role <;> rfl

theorem stored_append_initVar (fields : FieldList) :
    (fields.stored ++ fields.ofRole .initVar).Perm fields.parameters := by
  have split := List.filter_append_perm (fun field : Field => field.role.isStored) fields.parameters
  rwa [filter_isStored_parameters, filter_unstored_parameters] at split

theorem mem_parameters (fields : FieldList) (field : Field) :
    field ∈ fields.parameters ↔ field ∈ fields ∧ field.role ≠ .classVar := by
  rw [parameters, List.mem_filter, Field.isParameter_iff]

/-- Distinct names have distinct spellings. -/
theorem nodup_ident (fields : FieldList) (distinct : (fields.map Field.name).Nodup) :
    (fields.map Field.ident).Nodup := by
  have unraw : fields.map Field.name = (fields.map Field.ident).map Name.unraw := by
    rw [List.map_map]
    rfl
  rw [unraw] at distinct
  exact distinct.of_map

theorem nodup_ident_parameters (fields : FieldList) (distinct : (fields.map Field.name).Nodup) :
    (fields.parameters.map Field.ident).Nodup :=
  (fields.nodup_ident distinct).sublist (List.filter_sublist.map _)

/-- Every stored field has a stored name, so that none is left out where these names are used. -/
theorem forall₂_stored {α : Type} (fields : FieldList) (make : Field → String → α) :
    List.Forall₂
      (fun field made => ∃ storage, field.storage? = some storage ∧ made = make field storage)
      fields.stored (fields.stored.filterMap fun field => field.storage?.map (make field)) := by
  have each : ∀ field ∈ fields.stored, ∃ storage, field.storage? = some storage := by
    intro field member
    rw [← Option.isSome_iff_exists, Field.isSome_storage?]
    exact (List.mem_filter.mp member).2
  generalize fields.stored = stored at each ⊢
  induction stored with
  | nil => exact .nil
  | cons field rest ih =>
    obtain ⟨storage, has⟩ := each field List.mem_cons_self
    have onward := ih fun other member => each other (List.mem_cons_of_mem _ member)
    simp only [List.filterMap_cons, has, Option.map_some]
    exact .cons ⟨storage, has, rfl⟩ onward

end FieldList

end ClassExpansion
