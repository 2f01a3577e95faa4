import ClassExpansion.Proofs.FieldList
import ClassExpansion.Proofs.FieldOptions

set_option autoImplicit false

/- What a specification holds when the facts of its options have been taken into it. Nothing but
the order of the entries of metadata depends on the order of the options. -/
namespace ClassExpansion

open ClassExpansion.Parser (Chain)

namespace FieldFact

def default? : FieldFact → Option Expr
  | default value => some value
  | _ => none

def factory? : FieldFact → Option Expr
  | factory callable => some callable
  | _ => none

def entries : FieldFact → List MetaEntry
  | metadata entries => entries
  | _ => []

def isProperty : FieldFact → Bool
  | property => true
  | _ => false

theorem mem_filterMap_default? (facts : List FieldFact) (value : Expr) :
    value ∈ facts.filterMap default? ↔ .default value ∈ facts := by
  rw [List.mem_filterMap]
  constructor
  · rintro ⟨fact, member, is⟩
    cases fact <;> cases is
    exact member
  · intro member
    exact ⟨_, member, rfl⟩

theorem mem_filterMap_factory? (facts : List FieldFact) (callable : Expr) :
    callable ∈ facts.filterMap factory? ↔ .factory callable ∈ facts := by
  rw [List.mem_filterMap]
  constructor
  · rintro ⟨fact, member, is⟩
    cases fact <;> cases is
    exact member
  · intro member
    exact ⟨_, member, rfl⟩

theorem any_isProperty_iff (facts : List FieldFact) :
    facts.any isProperty = true ↔ .property ∈ facts := by
  rw [List.any_eq_true]
  constructor
  · rintro ⟨fact, member, is⟩
    cases fact <;> cases is
    exact member
  · intro member
    exact ⟨_, member, rfl⟩

end FieldFact

namespace FieldSpec

/-- The facts, taken into the first specification, make the second one. As a specification has room
for one default and one factory, no more of them are among the facts. -/
structure Records (start : FieldSpec) (facts : List FieldFact) (out : FieldSpec) : Prop where
  default : out.default?.toList = start.default?.toList ++ facts.filterMap FieldFact.default?
  factory : out.factory?.toList = start.factory?.toList ++ facts.filterMap FieldFact.factory?
  metadata : out.metadata = (facts.flatMap FieldFact.entries).foldl MetaEntry.put start.metadata
  property : out.property = (start.property || facts.any FieldFact.isProperty)

theorem toList_injective (a b : Option Expr) (same : a.toList = b.toList) : a = b := by
  cases a <;> cases b <;> cases same <;> rfl

/-- A thing before others fits into an option only if this is free. -/
theorem free_of_toList_eq (given out : Option Expr) (value : Expr) (more : List Expr)
    (same : out.toList = given.toList ++ value :: more) : given = none := by
  cases given with
  | none => rfl
  | some old =>
    cases out with
    | none => cases same
    | some new => cases (List.cons.inj same).2

theorem records_nil_iff (start out : FieldSpec) : Records start [] out ↔ out = start := by
  constructor
  · intro records
    have default := toList_injective _ _ (records.default.trans (List.append_nil _))
    have factory := toList_injective _ _ (records.factory.trans (List.append_nil _))
    have metadata := records.metadata
    have property := records.property.trans (Bool.or_false _)
    cases out
    cases start
    cases default
    cases factory
    cases metadata
    cases property
    rfl
  · rintro rfl
    exact ⟨(List.append_nil _).symm, (List.append_nil _).symm, rfl, (Bool.or_false _).symm⟩

variable {start next out : FieldSpec} {fact : FieldFact} {facts : List FieldFact}

/-- What is held before a fact and told with it is what is held behind it. -/
theorem Adds.keeps (adds : Adds start fact next) (facts : List FieldFact) :
    next.default?.toList ++ facts.filterMap FieldFact.default? =
      start.default?.toList ++ (fact :: facts).filterMap FieldFact.default? ∧
    next.factory?.toList ++ facts.filterMap FieldFact.factory? =
      start.factory?.toList ++ (fact :: facts).filterMap FieldFact.factory? ∧
    (facts.flatMap FieldFact.entries).foldl MetaEntry.put next.metadata =
      ((fact :: facts).flatMap FieldFact.entries).foldl MetaEntry.put start.metadata ∧
    (next.property || facts.any FieldFact.isProperty) =
      (start.property || (fact :: facts).any FieldFact.isProperty) := by
  cases adds with
  | default value free =>
    rw [free]
    exact ⟨rfl, rfl, rfl, rfl⟩
  | factory callable free =>
    rw [free]
    exact ⟨rfl, rfl, rfl, rfl⟩
  | metadata entries =>
    rw [List.flatMap_cons, List.foldl_append]
    exact ⟨rfl, rfl, rfl, rfl⟩
  | property => exact ⟨rfl, rfl, rfl, (Bool.or_true _).symm⟩

/-- Room is asked for by a default and a factory only. -/
theorem exists_adds_of_records (records : Records start (fact :: facts) out) :
    ∃ next, Adds start fact next := by
  cases fact with
  | default value => exact ⟨_, .default value (free_of_toList_eq _ _ _ _ records.default)⟩
  | factory callable => exact ⟨_, .factory callable (free_of_toList_eq _ _ _ _ records.factory)⟩
  | metadata entries => exact ⟨_, .metadata entries⟩
  | property => exact ⟨_, .property⟩

theorem records_cons_iff (start out : FieldSpec) (fact : FieldFact) (facts : List FieldFact) :
    Records start (fact :: facts) out ↔
      ∃ next, Adds start fact next ∧ Records next facts out := by
  constructor
  · intro records
    obtain ⟨next, adds⟩ := exists_adds_of_records records
    obtain ⟨default, factory, metadata, property⟩ := adds.keeps facts
    exact ⟨next, adds, records.default.trans default.symm, records.factory.trans factory.symm,
      records.metadata.trans metadata.symm, records.property.trans property.symm⟩
  · rintro ⟨next, adds, records⟩
    obtain ⟨default, factory, metadata, property⟩ := adds.keeps facts
    exact ⟨records.default.trans default, records.factory.trans factory,
      records.metadata.trans metadata, records.property.trans property⟩

theorem chain_adds_iff (start out : FieldSpec) (facts : List FieldFact) :
    Chain Adds start facts out ↔ Records start facts out := by
  induction facts generalizing start with
  | nil =>
    rw [records_nil_iff]
    constructor
    · rintro ⟨⟩
      rfl
    · rintro rfl
      exact .nil _
  | cons fact rest ih =>
    rw [records_cons_iff]
    constructor
    · rintro (_ | ⟨_, next, _, _, _, adds, onward⟩)
      exact ⟨next, adds, (ih next).mp onward⟩
    · rintro ⟨next, adds, onward⟩
      exact .cons _ next _ _ _ adds ((ih next).mpr onward)

end FieldSpec

theorem MetaEntry.IsWritten.unique {written : NamePath × Expr} {a b : MetaEntry}
    (first : IsWritten written a) (second : IsWritten written b) : a = b := by
  obtain ⟨key, named, sameKey, value⟩ := first
  obtain ⟨other, alsoNamed, otherKey, otherValue⟩ := second
  rw [named] at alsoNamed
  cases alsoNamed
  rw [← MetaValue.ofExpr?_eq_some_iff] at value otherValue
  rw [value] at otherValue
  cases a
  cases b
  cases sameKey
  cases otherKey
  cases otherValue
  rfl

theorem MetaEntry.eq_of_forall₂_isWritten {written : List (NamePath × Expr)}
    {as bs : List MetaEntry} (first : List.Forall₂ IsWritten written as)
    (second : List.Forall₂ IsWritten written bs) : as = bs := by
  induction first generalizing bs with
  | nil =>
    cases second
    rfl
  | cons head _ ih =>
    cases second with
    | cons alsoHead tail => rw [head.unique alsoHead, ih tail]

namespace FieldOption

/-- The entries that a list of metadata has. -/
def listed : FieldOption → List (NamePath × Expr)
  | ⟨path, .list written⟩ => if path.isName "metadata" then written else []
  | _ => []

theorem isName_iff (path : NamePath) (name : String) :
    path.isName name = true ↔ path.name? = some name := beq_iff_eq

theorem isName_eq (path : NamePath) (name other : String) (named : path.name? = some name) :
    path.isName other = (name == other) := by
  rw [NamePath.isName, named]
  rfl

theorem Tells.isDefault {o : FieldOption} {fact : FieldFact} (tells : o.Tells fact) :
    o.path.isName "default" = fact.default?.isSome := by
  cases tells <;> exact isName_eq _ _ _ (by assumption)

theorem Tells.isFactory {o : FieldOption} {fact : FieldFact} (tells : o.Tells fact) :
    o.path.isName "default_factory" = fact.factory?.isSome := by
  cases tells <;> exact isName_eq _ _ _ (by assumption)

theorem Tells.isProperty {o : FieldOption} {fact : FieldFact} (tells : o.Tells fact) :
    o.path.isName "property" = fact.isProperty := by
  cases tells <;> exact isName_eq _ _ _ (by assumption)

theorem Tells.entries {o : FieldOption} {fact : FieldFact} (tells : o.Tells fact) :
    List.Forall₂ MetaEntry.IsWritten o.listed fact.entries := by
  cases tells with
  | default path named value legal => exact .nil
  | factory path named callable legal => exact .nil
  | metadata path named written some entries each =>
    rw [listed, if_pos ((isName_iff path "metadata").mpr named)]
    exact each
  | property path named => exact .nil

theorem Tells.unique {o : FieldOption} {fact other : FieldFact} (tells : o.Tells fact)
    (also : o.Tells other) : fact = other := by
  have sameDefault := tells.isDefault.symm.trans also.isDefault
  have sameEntries := tells.entries
  cases tells with
  | default path named value legal =>
    cases also with
    | default => rfl
    | factory => cases sameDefault
  | factory path named callable legal =>
    cases also with
    | default => cases sameDefault
    | factory => rfl
  | metadata path named written some entries each =>
    cases also with
    | metadata _ _ _ _ told alsoEach => rw [MetaEntry.eq_of_forall₂_isWritten each alsoEach]
  | property path named =>
    cases also with
    | property => rfl

variable {options : List FieldOption} {facts : List FieldFact}

theorem mem_facts_iff (all : List.Forall₂ Tells options facts) (fact : FieldFact) :
    fact ∈ facts ↔ ∃ o ∈ options, o.Tells fact := by
  constructor
  · exact exists_mem_of_forall₂ Tells options facts all fact
  · rintro ⟨o, member, tells⟩
    obtain ⟨other, inFacts, also⟩ :=
      exists_mem_of_forall₂ (fun fact o => Tells o fact) facts options all.flip o member
    rw [tells.unique also]
    exact inFacts

end FieldOption

namespace FieldSpec

theorem read_records_iff (a : Attribute) (spec : FieldSpec) :
    read a = .ok spec ↔
      ∃ options, FieldOption.readAll a = .ok options ∧
        (∃ facts, List.Forall₂ FieldOption.Tells options facts ∧ Records empty facts spec) ∧
        spec.hasConflict = false := by
  simp only [read_eq_ok_iff, chain_adds_iff]

theorem hasConflict_eq_false_iff (spec : FieldSpec) :
    spec.hasConflict = false ↔
      (spec.property = true → spec.default? = none ∧ spec.factory? = none) := by
  obtain ⟨default?, factory?, _, property⟩ := spec
  cases property <;> cases default? <;> cases factory? <;> simp [hasConflict]

variable {facts : List FieldFact} {spec : FieldSpec}

theorem Records.default?_eq_some_iff (records : Records empty facts spec) (value : Expr) :
    spec.default? = some value ↔ .default value ∈ facts := by
  rw [← Option.mem_toList, records.default, ← FieldFact.mem_filterMap_default?]
  rfl

theorem Records.factory?_eq_some_iff (records : Records empty facts spec) (callable : Expr) :
    spec.factory? = some callable ↔ .factory callable ∈ facts := by
  rw [← Option.mem_toList, records.factory, ← FieldFact.mem_filterMap_factory?]
  rfl

theorem Records.property_iff (records : Records empty facts spec) :
    spec.property = true ↔ .property ∈ facts := by
  rw [records.property, ← FieldFact.any_isProperty_iff]
  rfl

end FieldSpec

end ClassExpansion
