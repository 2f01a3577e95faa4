import ClassExpansion.Code.Class
import ClassExpansion.Proofs.Denotation
import ClassExpansion.Proofs.RecordedFacts
import ClassExpansion.Proofs.Resolution

set_option autoImplicit false

/- Which lists of options are accepted, and what their order means: nothing, but for the entries of
metadata. -/
namespace ClassExpansion

namespace FieldOption

/-- The option is sound whatever stands beside it. -/
def IsWellFormed (o : FieldOption) : Prop := ∃ fact, o.Tells fact

/-- The options are sound, each by itself and all together. -/
structure Fit (options : List FieldOption) : Prop where
  wellFormed : ∀ o ∈ options, o.IsWellFormed
  default : options.countP (fun o => o.path.isName "default") ≤ 1
  factory : options.countP (fun o => o.path.isName "default_factory") ≤ 1
  property : ∀ o ∈ options, o.path.isName "property" = true → ∀ other ∈ options,
    other.path.isName "default" = false ∧ other.path.isName "default_factory" = false

/-- Options that hold no entries of metadata are the same but for their order, and so are the
entries, over however many lists they are spread. -/
structure Rearranged (options rearranged : List FieldOption) : Prop where
  others : (options.filter fun o => o.listed.isEmpty).Perm
    (rearranged.filter fun o => o.listed.isEmpty)
  entries : (options.flatMap listed).Perm (rearranged.flatMap listed)

theorem forall_isWellFormed_iff (options : List FieldOption) :
    (∀ o ∈ options, o.IsWellFormed) ↔ ∃ facts, List.Forall₂ Tells options facts :=
  forall_exists_iff_forall₂ Tells options

variable {options : List FieldOption} {facts : List FieldFact}

theorem countP_isDefault (all : List.Forall₂ Tells options facts) :
    options.countP (fun o => o.path.isName "default") =
      facts.countP fun fact => fact.default?.isSome :=
  countP_eq_of_forall₂ Tells _ _ (fun _ _ tells => tells.isDefault) options facts all

theorem countP_isFactory (all : List.Forall₂ Tells options facts) :
    options.countP (fun o => o.path.isName "default_factory") =
      facts.countP fun fact => fact.factory?.isSome :=
  countP_eq_of_forall₂ Tells _ _ (fun _ _ tells => tells.isFactory) options facts all

theorem countP_isProperty (all : List.Forall₂ Tells options facts) :
    options.countP (fun o => o.path.isName "property") = facts.countP FieldFact.isProperty :=
  countP_eq_of_forall₂ Tells _ _ (fun _ _ tells => tells.isProperty) options facts all

end FieldOption

namespace FieldSpec

theorem exists_toList_eq_iff (values : List Expr) :
    (∃ given : Option Expr, given.toList = values) ↔ values.length ≤ 1 := by
  constructor
  · rintro ⟨given, rfl⟩
    cases given with
    | none => exact Nat.zero_le 1
    | some value => exact Nat.le_refl 1
  · intro atMostOne
    match values with
    | [] => exact ⟨none, rfl⟩
    | [value] => exact ⟨some value, rfl⟩

/-- Facts can be recorded exactly if they hold at most one default and one factory. -/
theorem exists_records_iff (facts : List FieldFact) :
    (∃ spec, Records empty facts spec) ↔
      facts.countP (fun fact => fact.default?.isSome) ≤ 1 ∧
        facts.countP (fun fact => fact.factory?.isSome) ≤ 1 := by
  rw [← List.length_filterMap_eq_countP, ← List.length_filterMap_eq_countP,
    ← exists_toList_eq_iff, ← exists_toList_eq_iff]
  constructor
  · rintro ⟨spec, records⟩
    exact ⟨⟨_, records.default⟩, ⟨_, records.factory⟩⟩
  · rintro ⟨⟨default?, default⟩, ⟨factory?, factory⟩⟩
    exact ⟨⟨default?, factory?, _, _⟩, default, factory, rfl, rfl⟩

end FieldSpec

namespace FieldOption

open FieldSpec (Records)

variable {options : List FieldOption} {facts : List FieldFact} {spec : FieldSpec}

theorem default?_eq_none_iff (all : List.Forall₂ Tells options facts)
    (records : Records FieldSpec.empty facts spec) :
    spec.default? = none ↔ ∀ o ∈ options, o.path.isName "default" = false := by
  have held : spec.default?.toList = facts.filterMap FieldFact.default? := records.default
  simp only [← Bool.not_eq_true]
  rw [← List.countP_eq_zero, countP_isDefault all, ← List.length_filterMap_eq_countP, ← held,
    List.length_eq_zero_iff, Option.toList_eq_nil_iff]

theorem factory?_eq_none_iff (all : List.Forall₂ Tells options facts)
    (records : Records FieldSpec.empty facts spec) :
    spec.factory? = none ↔ ∀ o ∈ options, o.path.isName "default_factory" = false := by
  have held : spec.factory?.toList = facts.filterMap FieldFact.factory? := records.factory
  simp only [← Bool.not_eq_true]
  rw [← List.countP_eq_zero, countP_isFactory all, ← List.length_filterMap_eq_countP, ← held,
    List.length_eq_zero_iff, Option.toList_eq_nil_iff]

theorem property_iff (all : List.Forall₂ Tells options facts)
    (records : Records FieldSpec.empty facts spec) :
    spec.property = true ↔ ∃ o ∈ options, o.path.isName "property" = true := by
  have held : spec.property = facts.any FieldFact.isProperty := records.property
  rw [← List.countP_pos_iff, countP_isProperty all, List.countP_pos_iff, held, List.any_eq_true]

/-- A property stands apart from the defaults exactly if there is no conflict in what is
recorded. -/
theorem hasConflict_iff_of_records (all : List.Forall₂ Tells options facts)
    (records : Records FieldSpec.empty facts spec) :
    spec.hasConflict = false ↔
      ∀ o ∈ options, o.path.isName "property" = true → ∀ other ∈ options,
        other.path.isName "default" = false ∧ other.path.isName "default_factory" = false := by
  rw [FieldSpec.hasConflict_eq_false_iff, property_iff all records,
    default?_eq_none_iff all records, factory?_eq_none_iff all records]
  constructor
  · intro apart o member named other inOptions
    obtain ⟨noDefault, noFactory⟩ := apart ⟨o, member, named⟩
    exact ⟨noDefault other inOptions, noFactory other inOptions⟩
  · rintro apart ⟨o, member, named⟩
    have alone := apart o member named
    exact ⟨fun other inOptions => (alone other inOptions).1,
      fun other inOptions => (alone other inOptions).2⟩

theorem fit_iff (options : List FieldOption) :
    Fit options ↔ ∃ spec, (∃ facts, List.Forall₂ Tells options facts ∧
      Records FieldSpec.empty facts spec) ∧ spec.hasConflict = false := by
  constructor
  · rintro ⟨wellFormed, default, factory, property⟩
    obtain ⟨facts, all⟩ := (forall_isWellFormed_iff options).mp wellFormed
    rw [countP_isDefault all] at default
    rw [countP_isFactory all] at factory
    obtain ⟨spec, records⟩ := (FieldSpec.exists_records_iff facts).mpr ⟨default, factory⟩
    exact ⟨spec, ⟨facts, all, records⟩, (hasConflict_iff_of_records all records).mpr property⟩
  · rintro ⟨spec, ⟨facts, all, records⟩, free⟩
    obtain ⟨default, factory⟩ := (FieldSpec.exists_records_iff facts).mp ⟨spec, records⟩
    rw [← countP_isDefault all] at default
    rw [← countP_isFactory all] at factory
    exact ⟨(forall_isWellFormed_iff options).mpr ⟨facts, all⟩, default, factory,
      (hasConflict_iff_of_records all records).mp free⟩

theorem listed_eq_nil_of_ne (o : FieldOption) (name : String) (other : name ≠ "metadata")
    (named : o.path.isName name = true) : o.listed = [] := by
  obtain ⟨path, body⟩ := o
  cases body with
  | bare => rfl
  | value value => rfl
  | list written =>
    rw [listed, if_neg]
    intro isMetadata
    rw [isName_iff] at named isMetadata
    exact other (Option.some.inj (named.symm.trans isMetadata))

theorem exists_of_listed (o : FieldOption) (filled : o.listed ≠ []) :
    ∃ path, path.name? = some "metadata" ∧ o = ⟨path, .list o.listed⟩ := by
  obtain ⟨path, body⟩ := o
  cases body with
  | bare => exact absurd rfl filled
  | value value => exact absurd rfl filled
  | list written =>
    by_cases isMetadata : path.isName "metadata" = true
    · refine ⟨path, (isName_iff path _).mp isMetadata, ?_⟩
      rw [listed, if_pos isMetadata]
    · rw [listed, if_neg isMetadata] at filled
      exact absurd rfl filled

/-- A list of metadata is sound if its entries are. -/
theorem isWellFormed_iff_of_listed (o : FieldOption) (filled : o.listed ≠ []) :
    o.IsWellFormed ↔ ∀ written ∈ o.listed, ∃ entry, MetaEntry.IsWritten written entry := by
  rw [forall_exists_iff_forall₂]
  constructor
  · rintro ⟨fact, tells⟩
    exact ⟨fact.entries, tells.entries⟩
  · rintro ⟨entries, each⟩
    obtain ⟨path, named, is⟩ := o.exists_of_listed filled
    rw [is]
    exact ⟨.metadata entries, .metadata path named o.listed filled entries each⟩

namespace Rearranged

variable {options rearranged : List FieldOption}

theorem of_perm (perm : options.Perm rearranged) : Rearranged options rearranged :=
  ⟨perm.filter _, perm.flatMap_right listed⟩

/-- A list of metadata is taken apart. -/
theorem of_split (front back : List FieldOption) (path : NamePath)
    (written more : List (NamePath × Expr)) (named : path.isName "metadata" = true)
    (filled : written ≠ []) (alsoFilled : more ≠ []) :
    Rearranged (front ++ ⟨path, .list (written ++ more)⟩ :: back)
      (front ++ ⟨path, .list written⟩ :: ⟨path, .list more⟩ :: back) := by
  have whole : listed ⟨path, .list (written ++ more)⟩ = written ++ more := if_pos named
  have first : listed ⟨path, .list written⟩ = written := if_pos named
  have second : listed ⟨path, .list more⟩ = more := if_pos named
  constructor
  · simp only [List.filter_append, List.filter_cons, whole, first, second, List.isEmpty_iff,
      List.append_eq_nil_iff, filled, alsoFilled, and_self, ↓reduceIte]
    exact List.Perm.refl _
  · simp only [List.flatMap_append, List.flatMap_cons, whole, first, second, List.append_assoc]
    exact List.Perm.refl _

theorem symm (moved : Rearranged options rearranged) : Rearranged rearranged options :=
  ⟨moved.others.symm, moved.entries.symm⟩

theorem mem_iff (moved : Rearranged options rearranged) (o : FieldOption) (none : o.listed = []) :
    o ∈ options ↔ o ∈ rearranged := by
  have same := moved.others.mem_iff (a := o)
  rw [List.mem_filter, List.mem_filter, none] at same
  simpa only [List.isEmpty_nil, and_true] using same

theorem countP_eq (moved : Rearranged options rearranged) (name : String)
    (other : name ≠ "metadata") :
    options.countP (fun o => o.path.isName name) =
      rearranged.countP (fun o => o.path.isName name) := by
  have within : ∀ all : List FieldOption, all.countP (fun o => o.path.isName name) =
      (all.filter fun o => o.listed.isEmpty).countP fun o => o.path.isName name := by
    intro all
    -- An option of another name lists no entries, so that the filter leaves it.
    rw [List.countP_filter]
    apply List.countP_congr
    intro o _
    rw [Bool.and_eq_true]
    constructor
    · intro named
      exact ⟨named, List.isEmpty_iff.mpr (o.listed_eq_nil_of_ne name other named)⟩
    · rintro ⟨named, _⟩
      exact named
  rw [within options, moved.others.countP_eq, ← within rearranged]

theorem exists_tells_iff (moved : Rearranged options rearranged) (fact : FieldFact)
    (noEntries : fact.entries = []) :
    (∃ o ∈ options, o.Tells fact) ↔ ∃ o ∈ rearranged, o.Tells fact := by
  have none : ∀ o : FieldOption, o.Tells fact → o.listed = [] := by
    intro o tells
    have each := tells.entries
    rw [noEntries] at each
    cases given : o.listed with
    | nil => rfl
    | cons => rw [given] at each; cases each
  constructor
  · rintro ⟨o, member, tells⟩
    exact ⟨o, (moved.mem_iff o (none o tells)).mp member, tells⟩
  · rintro ⟨o, member, tells⟩
    exact ⟨o, (moved.mem_iff o (none o tells)).mpr member, tells⟩

theorem forall_isWellFormed (moved : Rearranged options rearranged)
    (each : ∀ o ∈ options, o.IsWellFormed) : ∀ o ∈ rearranged, o.IsWellFormed := by
  intro o member
  by_cases none : o.listed = []
  · exact each o ((moved.mem_iff o none).mpr member)
  · -- The entries of one list may come from several lists, each of them sound.
    rw [isWellFormed_iff_of_listed o none]
    intro written inList
    have among := moved.entries.mem_iff.mpr (List.mem_flatMap.mpr ⟨o, member, inList⟩)
    obtain ⟨source, inOptions, inSource⟩ := List.mem_flatMap.mp among
    have filled : source.listed ≠ [] := List.ne_nil_of_mem inSource
    exact (isWellFormed_iff_of_listed source filled).mp (each source inOptions) written inSource

theorem fit (moved : Rearranged options rearranged) (fits : Fit options) : Fit rearranged where
  wellFormed := moved.forall_isWellFormed fits.wellFormed
  default := by
    rw [← moved.countP_eq "default" (by decide)]
    exact fits.default
  factory := by
    rw [← moved.countP_eq "default_factory" (by decide)]
    exact fits.factory
  property := by
    have inOptions : ∀ (name : String) (o : FieldOption), name ≠ "metadata" → o ∈ rearranged →
        o.path.isName name = true → o ∈ options := by
      intro name o other member named
      exact (moved.mem_iff o (o.listed_eq_nil_of_ne name other named)).mpr member
    intro o member named other inRearranged
    have alone := fits.property o (inOptions "property" o (by decide) member named) named
    constructor
    · rw [← Bool.not_eq_true]
      intro isDefault
      have also := inOptions "default" other (by decide) inRearranged isDefault
      rw [(alone other also).1] at isDefault
      cases isDefault
    · rw [← Bool.not_eq_true]
      intro isFactory
      have also := inOptions "default_factory" other (by decide) inRearranged isFactory
      rw [(alone other also).2] at isFactory
      cases isFactory

end Rearranged

end FieldOption

/-- What a literal writes can be read from its own text. -/
theorem MetaValue.IsWritten.isReadable {e : Expr} {value : MetaValue} (written : IsWritten e value) :
    value.IsReadable := by
  induction written with
  | number _ _ digits _ value _ read => exact Number.Binary64.wellFormed_of_read? digits value read
  | negatedNumber _ _ value _ ih => exact ih.neg
  | group _ _ _ _ ih => exact ih
  | text | integer | boolean | negatedInteger => exact trivial

namespace MetaEntry

/-- Each key that is written is kept once, where it comes first, with the value that comes last. -/
structure KeepsLast (written kept : List MetaEntry) : Prop where
  distinct : (kept.map key).Nodup
  order : kept.map key = (written.map key).eraseDups
  last : ∀ entry ∈ kept, lastNamed? key written entry.key = some entry

theorem put_eq (entries : List MetaEntry) (entry : MetaEntry) :
    put entries entry = putNamed key entries entry := by
  unfold put putNamed
  congr 1
  apply List.map_congr_left
  intro seen _
  by_cases same : seen.key = entry.key
  · rw [if_pos (beq_iff_eq.mpr same), if_pos (beq_iff_eq.mpr same), same]
  · rw [if_neg (mt beq_iff_eq.mp same), if_neg (mt beq_iff_eq.mp same)]

theorem foldl_put_eq (entries : List MetaEntry) :
    entries.foldl put [] = entries.foldl (putNamed key) [] :=
  congrArg (fun put => entries.foldl put []) (funext fun known => funext fun entry =>
    put_eq known entry)

theorem keepsLast_foldl_put (entries : List MetaEntry) :
    KeepsLast entries (entries.foldl put []) := by
  rw [foldl_put_eq]
  exact ⟨nodup_foldl_putNamed key entries, map_foldl_putNamed key entries,
    lastNamed?_of_mem_foldl_putNamed key entries⟩

theorem KeepsLast.isReadable {written kept : List MetaEntry} (keeps : KeepsLast written kept)
    {pairs : List (NamePath × Expr)} (all : List.Forall₂ IsWritten pairs written) :
    ∀ entry ∈ kept, entry.value.IsReadable := by
  intro entry member
  have inWritten := (mem_of_lastNamed? key written _ entry (keeps.last entry member)).1
  obtain ⟨_, _, _, _, _, isWritten⟩ := exists_mem_of_forall₂ _ pairs written all entry inWritten
  exact isWritten.isReadable

/-- The value that is found is the one that was written last. -/
theorem get?_foldl_put (entries : List MetaEntry) (name : String) :
    get? (entries.foldl put []) name = (lastNamed? key entries name).map value := by
  rw [foldl_put_eq, get?, find?_foldl_putNamed]

end MetaEntry

namespace FieldSpec

/-- The specification holds what the options tell, wherever each of them stands. -/
structure IsToldBy (spec : FieldSpec) (options : List FieldOption) : Prop where
  default : ∀ value, spec.default? = some value ↔ ∃ o ∈ options, o.Tells (.default value)
  factory : ∀ callable, spec.factory? = some callable ↔ ∃ o ∈ options, o.Tells (.factory callable)
  property : spec.property = true ↔ ∃ o ∈ options, o.Tells .property

theorem isToldBy_of_records {options : List FieldOption} {facts : List FieldFact}
    {spec : FieldSpec} (all : List.Forall₂ FieldOption.Tells options facts)
    (records : Records empty facts spec) : spec.IsToldBy options where
  default value := by rw [records.default?_eq_some_iff, FieldOption.mem_facts_iff all]
  factory callable := by rw [records.factory?_eq_some_iff, FieldOption.mem_facts_iff all]
  property := by rw [records.property_iff, FieldOption.mem_facts_iff all]

theorem forall₂_entries {options : List FieldOption} {facts : List FieldFact}
    (all : List.Forall₂ FieldOption.Tells options facts) :
    List.Forall₂ MetaEntry.IsWritten (options.flatMap FieldOption.listed)
      (facts.flatMap FieldFact.entries) := by
  induction all with
  | nil => exact .nil
  | cons tells _ ih =>
    rw [List.flatMap_cons, List.flatMap_cons]
    exact List.rel_append tells.entries ih

/-- What is told alike is the same. -/
theorem IsToldBy.unchanged {spec other : FieldSpec} {options rearranged : List FieldOption}
    (told : spec.IsToldBy options) (alsoTold : other.IsToldBy rearranged)
    (moved : FieldOption.Rearranged options rearranged) :
    other.default? = spec.default? ∧ other.factory? = spec.factory? ∧
      other.property = spec.property := by
  refine ⟨?_, ?_, ?_⟩
  · apply Option.ext
    intro value
    rw [told.default, alsoTold.default, moved.exists_tells_iff _ rfl]
  · apply Option.ext
    intro callable
    rw [told.factory, alsoTold.factory, moved.exists_tells_iff _ rfl]
  · rw [Bool.eq_iff_iff, told.property, alsoTold.property, moved.exists_tells_iff _ rfl]

theorem exists_read_iff (a : Attribute) :
    (∃ spec, read a = .ok spec) ↔
      ∃ options, FieldOption.readAll a = .ok options ∧ FieldOption.Fit options := by
  simp only [read_records_iff, FieldOption.fit_iff]
  constructor
  · rintro ⟨spec, options, listed, told, free⟩
    exact ⟨options, listed, spec, told, free⟩
  · rintro ⟨options, listed, spec, told, free⟩
    exact ⟨spec, options, listed, told, free⟩

/-- The options of a field are a set. They are accepted exactly if each of them is sound and they
fit together, and nothing but the entries of metadata depends on where they stand. The entries are
a map in the order of first appearance, which a reader of the directory asks for the value that was
written last. Texts between commas are read as options in their order, so that moving an option is
moving its text. -/
theorem read_options :
    (∀ a, (∃ spec, read a = .ok spec) ↔
      ∃ options, FieldOption.readAll a = .ok options ∧ FieldOption.Fit options) ∧
    (∀ a spec options, read a = .ok spec → FieldOption.readAll a = .ok options →
      spec.IsToldBy options ∧
      ∃ entries, List.Forall₂ MetaEntry.IsWritten (options.flatMap FieldOption.listed) entries ∧
        MetaEntry.KeepsLast entries spec.metadata ∧
        ∀ (table : ClassTable) settings declared found field,
          table.attribute? declared.owner declared.name = .ok (some found) → found.spec = spec →
          Field.resolve table settings declared = .ok field →
            (∀ key, field.info.metadata? key =
              (lastNamed? MetaEntry.key entries key).map MetaEntry.value) ∧
            ∀ tokens, field.info.tokens = .ok tokens →
              FieldInfo.denoted? tokens = some field.info) ∧
    (∀ a b options rearranged, FieldOption.readAll a = .ok options →
      FieldOption.readAll b = .ok rearranged → FieldOption.Rearranged options rearranged →
      ((∃ spec, read a = .ok spec) ↔ ∃ spec, read b = .ok spec) ∧
      ∀ spec other, read a = .ok spec → read b = .ok other →
        other.default? = spec.default? ∧ other.factory? = spec.factory? ∧
        other.property = spec.property ∧
        (options.flatMap FieldOption.listed = rearranged.flatMap FieldOption.listed →
          other.metadata = spec.metadata)) ∧
    ∀ inner path delimiter texts options, List.Forall₂ FieldOption.Writes texts options →
      FieldOption.readAll ⟨inner, ⟨path, .list delimiter (commaSeparated texts)⟩⟩ =
        .ok options := by
  refine ⟨exists_read_iff, ?_, ?_, FieldOption.readAll_of_writes⟩
  · intro a spec options accepted listed
    obtain ⟨_, alsoListed, ⟨facts, all, records⟩, _⟩ := (read_records_iff a spec).mp accepted
    cases listed.symm.trans alsoListed
    have metadata : spec.metadata = (facts.flatMap FieldFact.entries).foldl MetaEntry.put [] :=
      records.metadata
    have keeps : MetaEntry.KeepsLast (facts.flatMap FieldFact.entries) spec.metadata :=
      metadata ▸ MetaEntry.keepsLast_foldl_put _
    refine ⟨isToldBy_of_records all records, facts.flatMap FieldFact.entries, forall₂_entries all,
      keeps, ?_⟩
    intro table settings declared found field searched is resolved
    obtain ⟨_, alsoSearched, resolves⟩ := Field.resolves_of_resolve _ _ _ _ resolved
    cases searched.symm.trans alsoSearched
    have kept : field.info.metadata = spec.metadata := resolves.metadata.trans (is ▸ rfl)
    constructor
    · intro key
      rw [FieldInfo.metadata?, kept, metadata, MetaEntry.get?_foldl_put]
    · intro tokens written
      have readable := keeps.isReadable (forall₂_entries all)
      rw [← kept] at readable
      rw [field.info.denoted?_tokens tokens written, field.info.asWritten_of_isReadable readable]
  · intro a b options rearranged listed alsoListed moved
    constructor
    · simp only [exists_read_iff, listed, alsoListed, Except.ok.injEq, exists_eq_left']
      exact ⟨moved.fit, moved.symm.fit⟩
    · intro spec other accepted alsoAccepted
      obtain ⟨_, same, ⟨facts, all, records⟩, _⟩ := (read_records_iff a spec).mp accepted
      cases listed.symm.trans same
      obtain ⟨_, same, ⟨others, alsoAll, alsoRecords⟩, _⟩ :=
        (read_records_iff b other).mp alsoAccepted
      cases alsoListed.symm.trans same
      obtain ⟨default, factory, property⟩ := (isToldBy_of_records all records).unchanged
        (isToldBy_of_records alsoAll alsoRecords) moved
      refine ⟨default, factory, property, ?_⟩
      intro inOrder
      have entries := forall₂_entries all
      rw [inOrder] at entries
      rw [records.metadata, alsoRecords.metadata,
        MetaEntry.eq_of_forall₂_isWritten entries (forall₂_entries alsoAll)]

/-- `#[field(...)]` with the texts as options. -/
def fieldAttribute (texts : List Tokens) : Attribute :=
  ⟨false, ⟨⟨false, ["field"]⟩, .list .paren (commaSeparated texts)⟩⟩

/-- A name with a value behind an equals sign. -/
def assigned (name : String) (value : Tokens) : Tokens := .ident name :: (Token.op "=" ++ value)

def metadataText (entries : List Tokens) : Tokens :=
  [.ident "metadata", .paren (commaSeparated entries)]

/-- A list of metadata in which there is nothing but names with literals. -/
def AssignsLiterals (o : FieldOption) : Prop :=
  o.path.name? = some "metadata" ∧ ∃ written, o.body = .list written ∧
    ∀ entry ∈ written, (∃ key, entry.1.name? = some key) ∧
      ∃ attrs literal, entry.2 = .lit attrs literal

/-- It is not enough that names are given literals: a list of metadata has an entry, and a whole
number has 64 bits with its sign. -/
theorem read_refuses_literals :
    (∃ o, FieldOption.readAll (fieldAttribute [metadataText []]) = .ok [o] ∧ AssignsLiterals o) ∧
    (¬ ∃ spec, read (fieldAttribute [metadataText []]) = .ok spec) ∧
    (∃ o, FieldOption.readAll (fieldAttribute
      [metadataText [assigned "a" [.literal "9223372036854775808"]]]) = .ok [o] ∧
        AssignsLiterals o) ∧
    ¬ ∃ spec, read (fieldAttribute
      [metadataText [assigned "a" [.literal "9223372036854775808"]]]) = .ok spec := by
  refine ⟨⟨⟨⟨false, ["metadata"]⟩, .list []⟩, rfl, rfl, [], rfl, nofun⟩, nofun,
    ⟨⟨⟨false, ["metadata"]⟩, .list [(⟨false, ["a"]⟩, .number "9223372036854775808")]⟩, rfl, rfl,
      _, rfl, ?_⟩, nofun⟩
  intro entry member
  rw [List.mem_singleton.mp member]
  exact ⟨⟨"a", rfl⟩, [], _, rfl⟩

/-- `default = 1, metadata(a = 1, b = 2), default_factory = make, metadata(r#a = 3)` -/
def labels : List Tokens := [
  assigned "default" [.literal "1"],
  metadataText [assigned "a" [.literal "1"], assigned "b" [.literal "2"]],
  assigned "default_factory" [.ident "make"],
  metadataText [assigned "r#a" [.literal "3"]]]

/-- The same with the first list of metadata in two. -/
def splitLabels : List Tokens := [
  assigned "default" [.literal "1"],
  metadataText [assigned "a" [.literal "1"]],
  metadataText [assigned "b" [.literal "2"]],
  assigned "default_factory" [.ident "make"],
  metadataText [assigned "r#a" [.literal "3"]]]

def metadataOption (written : List (NamePath × Expr)) : FieldOption :=
  ⟨⟨false, ["metadata"]⟩, .list written⟩

def defaultLabel : FieldOption := ⟨⟨false, ["default"]⟩, .value (.number "1")⟩

def laterLabels : List FieldOption := [
  ⟨⟨false, ["default_factory"]⟩, .value (.path [] (.ofName "make"))⟩,
  metadataOption [(⟨false, ["r#a"]⟩, .number "3")]]

def labelOptions : List FieldOption :=
  [defaultLabel] ++ metadataOption ([(⟨false, ["a"]⟩, .number "1")] ++
    [(⟨false, ["b"]⟩, .number "2")]) :: laterLabels

def splitOptions : List FieldOption :=
  [defaultLabel] ++ metadataOption [(⟨false, ["a"]⟩, .number "1")] ::
    metadataOption [(⟨false, ["b"]⟩, .number "2")] :: laterLabels

theorem writes_labels : List.Forall₂ FieldOption.Writes labels labelOptions := by
  refine .cons ?_ (.cons ?_ (.cons ?_ (.cons ?_ .nil)))
  all_goals
    rintro all _ _ (rfl | ⟨rest, rfl⟩)
    · rfl
    · rfl

theorem writes_splitLabels : List.Forall₂ FieldOption.Writes splitLabels splitOptions := by
  refine .cons ?_ (.cons ?_ (.cons ?_ (.cons ?_ (.cons ?_ .nil))))
  all_goals
    rintro all _ _ (rfl | ⟨rest, rfl⟩)
    · rfl
    · rfl

def labelEntries : List MetaEntry := [⟨"a", .integer 1⟩, ⟨"b", .integer 2⟩, ⟨"a", .integer 3⟩]

theorem isWritten_labels : List.Forall₂ MetaEntry.IsWritten
    (labelOptions.flatMap FieldOption.listed) labelEntries := by
  refine .cons ?_ (.cons ?_ (.cons ?_ .nil))
  all_goals exact ⟨_, rfl, rfl, .integer [] _ false _ "" rfl (by decide) (by decide)⟩

def labelSpec : FieldSpec where
  default? := some (.number "1")
  factory? := some (.path [] (.ofName "make"))
  metadata := [⟨"a", .integer 3⟩, ⟨"b", .integer 2⟩]
  property := false

theorem read_labels : read (fieldAttribute labels) = .ok labelSpec := rfl

def labelledWidth : FieldDecl := ⟨"width", .named "u8", [], [], some labelSpec⟩

def labelled : ClassDecl := .usual "Labelled" none [labelledWidth]

theorem read_options_labels :
    (∃ other, read (fieldAttribute labels.reverse) = .ok other ∧
      other.default? = labelSpec.default? ∧ other.factory? = labelSpec.factory?) ∧
    (∃ other, read (fieldAttribute splitLabels) = .ok other ∧
      other.default? = labelSpec.default? ∧ other.metadata = labelSpec.metadata) ∧
    ∃ field, Field.resolve [labelled] .usual ⟨labelled, labelledWidth⟩ = .ok field ∧
      field.info.metadata? "a" = some (.integer 3) ∧ field.info.metadata? "c" = none ∧
      ∃ tokens, field.info.tokens = .ok tokens ∧ FieldInfo.denoted? tokens = some field.info := by
  obtain ⟨_, told, moved, texts⟩ := read_options
  have listed : FieldOption.readAll (fieldAttribute labels) = .ok labelOptions :=
    texts _ _ _ _ _ writes_labels
  refine ⟨?_, ?_, ?_⟩
  · have reversed : FieldOption.readAll (fieldAttribute labels.reverse) =
        .ok labelOptions.reverse := texts _ _ _ _ _ (List.rel_reverse writes_labels)
    obtain ⟨both, same⟩ := moved _ _ _ _ listed reversed
      (.of_perm (List.reverse_perm labelOptions).symm)
    obtain ⟨other, accepted⟩ := both.mp ⟨labelSpec, read_labels⟩
    obtain ⟨default, factory, _⟩ := same labelSpec other read_labels accepted
    exact ⟨other, accepted, default, factory⟩
  · have split : FieldOption.readAll (fieldAttribute splitLabels) = .ok splitOptions :=
      texts _ _ _ _ _ writes_splitLabels
    obtain ⟨both, same⟩ := moved _ _ _ _ listed split
      (.of_split [defaultLabel] laterLabels ⟨false, ["metadata"]⟩ _ _ rfl
        (List.cons_ne_nil _ _) (List.cons_ne_nil _ _))
    obtain ⟨other, accepted⟩ := both.mp ⟨labelSpec, read_labels⟩
    obtain ⟨default, _, _, metadata⟩ := same labelSpec other read_labels accepted
    exact ⟨other, accepted, default, metadata rfl⟩
  · obtain ⟨tokens, made⟩ := Attempt.exists_of_isOk
      (Field.resolve [labelled] .usual ⟨labelled, labelledWidth⟩ >>= fun field =>
        field.info.tokens) (by decide +kernel)
    obtain ⟨field, resolved, spelled⟩ := (Attempt.bind_eq_ok_iff _ _ _).mp made
    obtain ⟨_, entries, written, _, found⟩ := told _ _ _ read_labels listed
    cases MetaEntry.eq_of_forall₂_isWritten written isWritten_labels
    have ancestry : ClassTable.ancestry [labelled] labelled = .ok [labelled] :=
      (ClassTable.ancestry_eq_ok_iff [labelled] labelled _).mpr
        ⟨⟨rfl, .singleton _, by decide⟩, labelled, rfl, rfl⟩
    have searched := (ClassTable.attribute?_eq_ok_iff [labelled] labelled "width" _).mpr
      ⟨_, ancestry, rfl⟩
    obtain ⟨asked, inCode⟩ := found [labelled] .usual ⟨labelled, labelledWidth⟩
      ⟨labelledWidth, labelSpec⟩ field searched rfl resolved
    exact ⟨field, resolved, asked "a", asked "c", tokens, spelled, inCode tokens spelled⟩

end FieldSpec

end ClassExpansion
