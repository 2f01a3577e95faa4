import ClassExpansion.Directory.Mapping
import ClassExpansion.Proofs.FieldList

set_option autoImplicit false

/- The mapping of an object is a projection. Where every stored field finds a value of its own, the
last field of a name gives the value, and otherwise the first field that finds none is reported. -/
namespace ClassExpansion

variable {α : Type}

theorem lookup_filter_ne (entries : List (String × α)) (key other : String) :
    (entries.filter fun entry => entry.1 != key).lookup other =
      if other = key then none else entries.lookup other := by
  induction entries with
  | nil => simp
  | cons entry rest ih =>
    obtain ⟨name, value⟩ := entry
    by_cases isKey : name = key
    · subst isKey
      rw [List.filter_cons_of_neg (by simp), ih, List.lookup_cons]
      by_cases same : other = name
      · rw [if_pos same, if_pos same]
      · rw [if_neg same, if_neg same, beq_eq_false_iff_ne.mpr same]
    · rw [List.filter_cons_of_pos (by simp [isKey]), List.lookup_cons, List.lookup_cons, ih]
      by_cases same : other = name
      · subst same
        rw [beq_self_eq_true]
        exact (if_neg isKey).symm
      · rw [beq_eq_false_iff_ne.mpr same]

theorem lookup_of_mem (entries : List (String × α)) (distinct : (entries.map Prod.fst).Nodup)
    (entry : String × α) (member : entry ∈ entries) : entries.lookup entry.1 = some entry.2 := by
  obtain ⟨front, back, split⟩ := List.append_of_mem member
  rw [split, List.map_append, List.map_cons, List.nodup_append] at distinct
  obtain ⟨_, _, apart⟩ := distinct
  refine List.lookup_eq_some_iff.mpr ⟨front, back, split, ?_⟩
  intro other inFront
  rw [bne_iff_ne]
  exact (apart other.1 (List.mem_map_of_mem inFront) entry.1 List.mem_cons_self).symm

namespace Mapping

/-- All keys are there, and each of them is the key of one field only. -/
structure CanMove (entries : List (String × α)) (infos : List FieldInfo) : Prop where
  distinct : (infos.map FieldInfo.key).Nodup
  present : ∀ info ∈ infos, ∃ value, entries.lookup info.key = some value

/-- The field is the first whose key is absent or is taken by an earlier field. -/
def FirstBlocked (entries : List (String × α)) (infos : List FieldInfo) (info : FieldInfo) : Prop :=
  ∃ earlier later, infos = earlier ++ info :: later ∧ CanMove entries earlier ∧
    (entries.lookup info.key = none ∨ info.key ∈ earlier.map FieldInfo.key)

/-- The mapping has each name once, at its first place, with the value of the last field of the
name. -/
structure IsProjection (entries : List (String × α)) (infos : List FieldInfo)
    (mapping : List (String × α)) : Prop where
  names : mapping.map Prod.fst = (infos.map (·.name)).eraseDups
  values : ∀ entry ∈ mapping, ∃ info,
    lastNamed? FieldInfo.name infos entry.1 = some info ∧ entries.lookup info.key = some entry.2

/-- The values of the fields under their names, field by field. -/
def values (entries : List (String × α)) (infos : List FieldInfo) : List (String × α) :=
  infos.filterMap fun info => (entries.lookup info.key).map fun value => (info.name, value)

theorem values_congr (entries entries' : List (String × α)) (infos : List FieldInfo)
    (same : ∀ info ∈ infos, entries'.lookup info.key = entries.lookup info.key) :
    values entries' infos = values entries infos := by
  unfold values
  apply List.filterMap_congr
  intro info member
  rw [same info member]

section Step

variable (cls : String) (info : FieldInfo) (rest : List FieldInfo)
variable (entries mapping : List (String × α))

theorem move_cons_of_some (value : α) (found : entries.lookup info.key = some value) :
    move cls (info :: rest) entries mapping =
      move cls rest (entries.filter fun entry => entry.1 != info.key)
        (putNamed Prod.fst mapping (info.name, value)) := by
  rw [move, take?, found]
  rfl

theorem move_cons_of_none (absent : entries.lookup info.key = none) :
    move cls (info :: rest) entries mapping = .error (.missingField cls info.name) := by
  rw [move, take?, absent]
  rfl

/-- Other keys are not touched when a field takes its value. -/
theorem lookup_taken (later : FieldInfo) (other : later.key ≠ info.key) :
    (entries.filter fun entry => entry.1 != info.key).lookup later.key =
      entries.lookup later.key := by
  rw [lookup_filter_ne, if_neg other]

/-- After the first field has taken its value, the others find theirs. -/
theorem canMove_cons (canMove : CanMove entries (info :: rest)) :
    (∃ value, entries.lookup info.key = some value) ∧
      (∀ later ∈ rest, later.key ≠ info.key) ∧
      CanMove (entries.filter fun entry => entry.1 != info.key) rest := by
  obtain ⟨fresh, distinct⟩ := List.nodup_cons.mp canMove.distinct
  have other : ∀ later ∈ rest, later.key ≠ info.key := by
    intro later member same
    exact fresh (List.mem_map.mpr ⟨later, member, same⟩)
  refine ⟨canMove.present info List.mem_cons_self, other, distinct, ?_⟩
  intro later member
  rw [lookup_taken info entries later (other later member)]
  exact canMove.present later (List.mem_cons_of_mem _ member)

theorem values_cons (value : α) (found : entries.lookup info.key = some value) :
    values entries (info :: rest) = (info.name, value) :: values entries rest :=
  List.filterMap_cons_some (by rw [found]; rfl)

end Step

section Run

variable (cls : String) (entries : List (String × α)) (infos : List FieldInfo)

theorem move_of_canMove (mapping : List (String × α)) (canMove : CanMove entries infos) :
    move cls infos entries mapping =
      .ok ((values entries infos).foldl (putNamed Prod.fst) mapping) := by
  induction infos generalizing entries mapping with
  | nil => rfl
  | cons info rest ih =>
    obtain ⟨⟨value, found⟩, other, onward⟩ := canMove_cons info rest entries canMove
    have kept : values (entries.filter fun entry => entry.1 != info.key) rest =
        values entries rest :=
      values_congr entries _ rest fun later member =>
        lookup_taken info entries later (other later member)
    rw [move_cons_of_some cls info rest entries mapping value found, ih _ _ onward, kept,
      values_cons info rest entries value found, List.foldl_cons]

theorem move_of_firstBlocked (mapping : List (String × α)) (info : FieldInfo)
    (blocked : FirstBlocked entries infos info) :
    move cls infos entries mapping = .error (.missingField cls info.name) := by
  obtain ⟨earlier, later, split, canMove, without⟩ := blocked
  subst split
  induction earlier generalizing entries mapping with
  | nil =>
    have absent : entries.lookup info.key = none := without.resolve_right List.not_mem_nil
    exact move_cons_of_none cls info later entries mapping absent
  | cons first earlier ih =>
    obtain ⟨⟨value, found⟩, _, onward⟩ := canMove_cons first earlier entries canMove
    rw [List.cons_append, move_cons_of_some cls first _ entries mapping value found]
    apply ih _ _ onward
    rw [lookup_filter_ne]
    by_cases same : info.key = first.key
    · left
      rw [if_pos same]
    · rw [if_neg same]
      rw [List.map_cons, List.mem_cons] at without
      exact without.imp_right fun taken => taken.resolve_left same

theorem canMove_or_firstBlocked :
    CanMove entries infos ∨ ∃ info, FirstBlocked entries infos info := by
  induction infos using List.reverseRecOn with
  | nil => exact Or.inl ⟨List.nodup_nil, fun info member => absurd member List.not_mem_nil⟩
  | append_singleton front info ih =>
    rcases ih with canMove | ⟨first, earlier, later, split, before, without⟩
    · by_cases without : entries.lookup info.key = none ∨ info.key ∈ front.map FieldInfo.key
      · exact Or.inr ⟨info, front, [], rfl, canMove, without⟩
      · obtain ⟨present, fresh⟩ := not_or.mp without
        left
        constructor
        · rw [List.map_append, List.map_singleton, ← List.concat_eq_append]
          exact List.Nodup.concat fresh canMove.distinct
        · intro other member
          rcases List.mem_append.mp member with inFront | isInfo
          · exact canMove.present other inFront
          · rw [List.mem_singleton.mp isInfo]
            exact Option.ne_none_iff_exists'.mp present
    · right
      refine ⟨first, earlier, later ++ [info], ?_, before, without⟩
      rw [split, List.append_assoc, List.cons_append]

/-- Where the keys are there, every field has its value under its name. -/
theorem forall₂_values (present : ∀ info ∈ infos, ∃ value, entries.lookup info.key = some value) :
    List.Forall₂ (fun info entry => entry.1 = info.name ∧ entries.lookup info.key = some entry.2)
      infos (values entries infos) := by
  induction infos with
  | nil => exact .nil
  | cons info rest ih =>
    obtain ⟨⟨value, found⟩, onward⟩ := List.forall_mem_cons.mp present
    rw [values_cons info rest entries value found]
    exact .cons ⟨rfl, found⟩ (ih onward)

theorem isProjection_of_canMove (canMove : CanMove entries infos) :
    IsProjection entries infos ((values entries infos).foldl (putNamed Prod.fst) []) := by
  have each := forall₂_values entries infos canMove.present
  constructor
  · rw [map_foldl_putNamed]
    congr 1
    exact (map_eq_map_iff_forall₂ _ _ _ _).mpr (each.flip.imp fun _ _ pair => pair.1)
  · intro entry member
    have last := lastNamed?_of_mem_foldl_putNamed Prod.fst _ entry member
    obtain ⟨info, latest, _, found⟩ := exists_lastNamed?_of_forall₂ FieldInfo.name Prod.fst _
      (fun _ _ pair => pair.1) infos _ each entry.1 entry last
    exact ⟨info, latest, found⟩

end Run

/-- There is one projection at most. -/
theorem IsProjection.eq_filterMap {entries : List (String × α)} {infos : List FieldInfo}
    {mapping : List (String × α)} (projection : IsProjection entries infos mapping) :
    mapping = (infos.map (·.name)).eraseDups.filterMap fun name =>
      (lastNamed? FieldInfo.name infos name).bind fun info =>
        (entries.lookup info.key).map fun value => (name, value) := by
  rw [← projection.names, List.filterMap_map]
  symm
  calc
    _ = mapping.filterMap some := by
      apply List.filterMap_congr
      intro entry member
      obtain ⟨info, last, found⟩ := projection.values entry member
      simp only [Function.comp_apply, last, Option.bind_some, found, Option.map_some]
    _ = mapping := List.filterMap_some

/-- Values that no field asks for do not matter. -/
theorem move_congr (cls : String) (infos : List FieldInfo)
    (entries entries' mapping : List (String × α))
    (same : ∀ info ∈ infos, entries'.lookup info.key = entries.lookup info.key) :
    move cls infos entries' mapping = move cls infos entries mapping := by
  induction infos generalizing entries entries' mapping with
  | nil => rfl
  | cons info rest ih =>
    obtain ⟨first, onward⟩ := List.forall_mem_cons.mp same
    cases found : entries.lookup info.key with
    | none =>
      rw [move_cons_of_none cls info rest entries mapping found,
        move_cons_of_none cls info rest entries' mapping (first.trans found)]
    | some value =>
      rw [move_cons_of_some cls info rest entries mapping value found,
        move_cons_of_some cls info rest entries' mapping value (first.trans found)]
      apply ih
      intro later member
      rw [lookup_filter_ne, lookup_filter_ne, onward later member]

section Outcomes

variable (cls : String) (entries : List (String × α)) (infos : List FieldInfo)

theorem move_eq_ok_iff (mapping : List (String × α)) :
    move cls infos entries [] = .ok mapping ↔
      CanMove entries infos ∧ IsProjection entries infos mapping := by
  constructor
  · intro moved
    rcases canMove_or_firstBlocked entries infos with canMove | ⟨info, blocked⟩
    · rw [move_of_canMove cls entries infos [] canMove, Except.ok.injEq] at moved
      exact ⟨canMove, moved ▸ isProjection_of_canMove entries infos canMove⟩
    · rw [move_of_firstBlocked cls entries infos [] info blocked] at moved
      cases moved
  · intro ⟨canMove, projection⟩
    have made := isProjection_of_canMove entries infos canMove
    rw [move_of_canMove cls entries infos [] canMove, made.eq_filterMap, projection.eq_filterMap]

theorem move_eq_error_iff (fault : MappingFault) :
    move cls infos entries [] = .error fault ↔
      ∃ info, FirstBlocked entries infos info ∧ fault = .missingField cls info.name := by
  constructor
  · intro refused
    rcases canMove_or_firstBlocked entries infos with canMove | ⟨info, blocked⟩
    · rw [move_of_canMove cls entries infos [] canMove] at refused
      cases refused
    · rw [move_of_firstBlocked cls entries infos [] info blocked, Except.error.injEq] at refused
      exact ⟨info, blocked, refused.symm⟩
  · intro ⟨info, blocked, same⟩
    rw [move_of_firstBlocked cls entries infos [] info blocked, same]

end Outcomes

end Mapping

namespace ClassDirectory

open Mapping

/-- The stored fields, which are the standard ones and the properties, have the names under which
they are stored as their keys. They are moved exactly where each finds a value of its own, and what
comes out is their projection. Otherwise the first field without one is reported. Other fields and
other values play no part. -/
theorem mapping_is_projection (directory : ClassDirectory) :
    directory.stored = directory.fields.filter
      (fun info => info.role = .standard ∨ info.role = .propertyShadow) ∧
    (∀ info : FieldInfo, (∀ storage, info.storage? = some storage → info.key = storage) ∧
      (info.storage? = none → info.key = info.name)) ∧
    directory.mapping (.other : Serialized α) = .error (.notAnObject directory.name) ∧
    ∀ entries : List (String × α),
      ((∃ mapping, directory.mapping (.object entries) = .ok mapping) ↔
        CanMove entries directory.stored) ∧
      (∀ mapping, directory.mapping (.object entries) = .ok mapping ↔
        CanMove entries directory.stored ∧ IsProjection entries directory.stored mapping) ∧
      (∀ fault, directory.mapping (.object entries) = .error fault ↔
        ∃ info, FirstBlocked entries directory.stored info ∧
          fault = .missingField directory.name info.name) ∧
      ∀ (other : ClassDirectory) (entries' : List (String × α)),
        other.name = directory.name → other.stored = directory.stored →
        (∀ info ∈ directory.stored, entries'.lookup info.key = entries.lookup info.key) →
        other.mapping (.object entries') = directory.mapping (.object entries) := by
  refine ⟨?_, fun info => ⟨fun storage known => ?_, fun unknown => ?_⟩, rfl, ?_⟩
  · refine List.filter_congr fun info _ => ?_
    cases info.role <;> rfl
  · rw [FieldInfo.key, known, Option.getD_some]
  · rw [FieldInfo.key, unknown, Option.getD_none]
  intro entries
  have outcome := move_eq_ok_iff directory.name entries directory.stored
  refine ⟨?_, outcome, move_eq_error_iff directory.name entries directory.stored, ?_⟩
  · constructor
    · intro ⟨mapping, moved⟩
      exact ((outcome mapping).mp moved).1
    · intro canMove
      exact ⟨_, move_of_canMove directory.name entries directory.stored [] canMove⟩
  · intro other entries' name stored same
    unfold mapping
    rw [name, stored]
    exact move_congr directory.name directory.stored entries entries' [] same

end ClassDirectory

end ClassExpansion
