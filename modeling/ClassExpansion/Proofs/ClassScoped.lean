import ClassExpansion.Proofs.Constants
import ClassExpansion.Proofs.Directory

set_option autoImplicit false

/- What the directory of a class says of the defaults of its class-scoped fields, and which of these
fields have a constant. The directory asks the most distant class that declares the field, and the
constant is that of the nearest class that specifies it. So they agree where no nearer class
specifies the field again. -/
namespace ClassExpansion

open ClassTable (Declared declarations ownAttribute?)

/-- The class is the most distant one in the line that declares the name. -/
structure MostDistant (line : List ClassDecl) (name : String) (nearer : List ClassDecl)
    (owner : ClassDecl) : Prop where
  split : ∃ further, line = nearer ++ owner :: further ∧ ∀ c ∈ further, c.field? name = none
  declares : ∃ field, owner.field? name = some field

/-- What the class itself says of the name, where it declares it first. -/
def OwnSpec (decl : ClassDecl) (name : String) (spec : FieldSpec) : Prop :=
  ∃ field, decl.field? name = some field ∧ field.spec? = some spec

theorem ownSpec_iff (decl : ClassDecl) (name : String) (spec : FieldSpec) :
    OwnSpec decl name spec ↔ ∃ found, ownAttribute? name decl = some found ∧ found.spec = spec := by
  simp only [OwnSpec, ClassTable.ownAttribute?_eq_some_iff]
  constructor
  · rintro ⟨field, declared, has⟩
    exact ⟨⟨field, spec⟩, ⟨declared, has⟩, rfl⟩
  · rintro ⟨found, ⟨declared, has⟩, rfl⟩
    exact ⟨found.field, declared, has⟩

theorem NearestSpec.unique {line : List ClassDecl} {name : String} {spec other : FieldSpec}
    (nearest : NearestSpec line name spec) (also : NearestSpec line name other) : spec = other := by
  obtain ⟨found, searched, rfl⟩ := (nearestSpec_iff line name spec).mp nearest
  obtain ⟨found', searched', rfl⟩ := (nearestSpec_iff line name other).mp also
  rw [Option.some.inj (searched.symm.trans searched')]

theorem NearestSpec.not_unspecified {line : List ClassDecl} {name : String} {spec : FieldSpec}
    (nearest : NearestSpec line name spec) : ¬ Unspecified line name := by
  intro silent
  obtain ⟨found, searched, _⟩ := (nearestSpec_iff line name spec).mp nearest
  rw [(unspecified_iff line name).mp silent] at searched
  cases searched

/-- Where no nearer class specifies the name, the most distant one that declares it decides. -/
theorem MostDistant.nearestSpec_iff {line nearer : List ClassDecl} {name : String}
    {owner : ClassDecl} (distant : MostDistant line name nearer owner)
    (silent : Unspecified nearer name) (spec : FieldSpec) :
    NearestSpec line name spec ↔ OwnSpec owner name spec := by
  obtain ⟨further, rfl, without⟩ := distant.split
  have beyond : further.findSome? (ownAttribute? name) = none := by
    rw [← unspecified_iff]
    intro c inFurther field declared
    rw [without c inFurther] at declared
    cases declared
  rw [ClassExpansion.nearestSpec_iff, ownSpec_iff, List.findSome?_append,
    (unspecified_iff nearer name).mp silent, Option.none_or, List.findSome?_cons, beyond]
  cases ownAttribute? name owner with
  | none => rfl
  | some found => rfl

namespace ConstantCode

/-- What is known of the specification that decides about a field that is not refused. -/
theorem Decides.of_accepted {line : List ClassDecl} {settings : Settings} {field : Field}
    {verdict : Verdict} (decides : Decides line settings field verdict)
    (accepted : verdict.report? = none) :
    ((∃ code, verdict.emitted? = some code) ↔
      ∃ spec, NearestSpec line field.name spec ∧ spec.default?.isSome = true) ∧
    ∀ spec, NearestSpec line field.name spec →
      spec.factory?.isSome = true → spec.default?.isSome = true := by
  cases decides with
  | unspecified silent =>
    have none (spec : FieldSpec) (nearest : NearestSpec line field.name spec) : False :=
      nearest.not_unspecified silent
    refine ⟨⟨nofun, ?_⟩, fun spec nearest => (none spec nearest).elim⟩
    rintro ⟨spec, nearest, _⟩
    exact (none spec nearest).elim
  | missing spec nearest _ noDefault noFactory =>
    refine ⟨⟨nofun, ?_⟩, ?_⟩
    · rintro ⟨other, also, has⟩
      rw [← nearest.unique also, noDefault] at has
      cases has
    · intro other also has
      rw [← nearest.unique also, noFactory] at has
      cases has
  | value spec nearest _ e default _ =>
    have has : spec.default?.isSome = true := by rw [default, Option.isSome_some]
    refine ⟨⟨fun _ => ⟨spec, nearest, has⟩, fun _ => ⟨_, rfl⟩⟩, ?_⟩
    intro other also _
    rwa [← nearest.unique also]
  | tagged => cases accepted
  | factory => cases accepted
  | property => cases accepted

variable {line : List ClassDecl} {settings : Settings} {fields : List Field}
variable {verdicts : List Verdict} (decided : List.Forall₂ (Decides line settings) fields verdicts)
variable (accepted : ∀ verdict ∈ verdicts, verdict.report? = none)

include decided accepted

/-- A field has a constant just where the nearest specification of its name has a default. -/
theorem exists_constant_iff (field : Field) (member : field ∈ fields) :
    (∃ code ∈ verdicts.filterMap Verdict.emitted?, code.field = field.name) ↔
      ∃ spec, NearestSpec line field.name spec ∧ spec.default?.isSome = true := by
  constructor
  · rintro ⟨code, inCodes, named⟩
    obtain ⟨verdict, inVerdicts, emitted⟩ := List.mem_filterMap.mp inCodes
    obtain ⟨source, _, decides⟩ := exists_mem_of_forall₂ _ fields verdicts decided verdict inVerdicts
    rw [← named, decides.field_of_emitted code emitted]
    exact (decides.of_accepted (accepted verdict inVerdicts)).1.mp ⟨code, emitted⟩
  · intro specified
    obtain ⟨verdict, inVerdicts, decides⟩ :=
      exists_mem_of_forall₂ _ verdicts fields decided.flip field member
    obtain ⟨code, emitted⟩ := (decides.of_accepted (accepted verdict inVerdicts)).1.mpr specified
    exact ⟨code, List.mem_filterMap.mpr ⟨verdict, inVerdicts, emitted⟩,
      decides.field_of_emitted code emitted⟩

/-- A factory alone is refused. -/
theorem default_of_factory (field : Field) (member : field ∈ fields) (spec : FieldSpec)
    (nearest : NearestSpec line field.name spec) (factory : spec.factory?.isSome = true) :
    spec.default?.isSome = true := by
  obtain ⟨verdict, inVerdicts, decides⟩ :=
    exists_mem_of_forall₂ _ verdicts fields decided.flip field member
  exact (decides.of_accepted (accepted verdict inVerdicts)).2 spec nearest factory

end ConstantCode

theorem Default.isPresent_ofSpec (spec : FieldSpec) (settings : Settings)
    (ordinary : spec.property = false) :
    (Default.ofSpec spec settings).isPresent = (spec.default?.isSome || spec.factory?.isSome) := by
  unfold Default.ofSpec
  rw [ordinary, if_neg Bool.false_ne_true]
  cases spec.default? with
  | none =>
    cases spec.factory? with
    | none => rfl
    | some callable => rfl
  | some e =>
    dsimp only
    split
    · rfl
    · rfl

theorem Field.ordinary_of_classVar (field : Field) (role : field.role = .classVar)
    (spec : FieldSpec) (settings : Settings) (default : field.default = .ofSpec spec settings) :
    spec.property = false := by
  by_contra property
  rw [Bool.not_eq_false] at property
  unfold Field.role at role
  rw [default, Default.ofSpec, if_pos property] at role
  cases role

/-- Whether a class-scoped field has a default is what the class says that declares it. -/
theorem Field.hasDefault_iff (settings : Settings) (declared : Declared) (field : Field)
    (resolves : field.Resolves settings declared (ownAttribute? field.name declared.owner))
    (role : field.role = .classVar) :
    field.hasDefault = true ↔ ∃ spec, OwnSpec declared.owner field.name spec ∧
      (spec.default?.isSome || spec.factory?.isSome) = true := by
  have default := resolves.default
  unfold Field.hasDefault
  simp only [ownSpec_iff]
  cases found : ownAttribute? field.name declared.owner with
  | none =>
    rw [found] at default
    rw [default]
    exact ⟨nofun, nofun⟩
  | some attributed =>
    rw [found, Option.map_some, Option.getD_some] at default
    have ordinary := field.ordinary_of_classVar role _ _ default
    rw [default, Default.isPresent_ofSpec _ _ ordinary]
    simp only [Option.some.injEq, exists_eq_left']

namespace ClassTable

theorem exists_mostDistant (line : List ClassDecl) (name : String) (declared : Declared)
    (last : lastNamed? Declared.name (declarations line) name = some declared) :
    ∃ nearer, MostDistant line name nearer declared.owner := by
  obtain ⟨nearer, further, split, without⟩ := owner_of_lastNamed? line name declared last
  obtain ⟨inLine, named⟩ := mem_of_lastNamed? _ _ _ _ last
  have inOwner := ((mem_declarations line declared).mp inLine).2
  refine ⟨nearer, ⟨further, split, without⟩, ?_⟩
  rw [← Option.isSome_iff_exists, ClassDecl.field?, List.find?_isSome]
  exact ⟨declared.field, inOwner, beq_iff_eq.mpr named⟩

/-- Written code holds the constants of the class and, at the end, its directory. There a
class-scoped field has a default if the most distant class that declares it gives it one. It has a
constant if the nearest specification in the line has a default. These are the same unless a nearer
class specifies the field. -/
theorem write_class_scoped (table : ClassTable) (decl : ClassDecl) (fields : FieldList)
    (replacement : Replacement) (collected : FieldList.collect table decl = .ok fields)
    (written : table.write decl fields = .ok replacement) :
    ∃ line code directory, table.ancestry decl = .ok line ∧
      ClassCode.ofFields table decl fields = .ok code ∧
      code.IsWrittenAs directory replacement.tokens ∧
      directory = .ofFields decl.ident fields ∧
      ∀ info ∈ directory.fields, info.role = .classVar →
        ((∃ c ∈ code.constants, c.field = info.name) ↔
          ∃ spec, NearestSpec line info.name spec ∧ spec.default?.isSome = true) ∧
        ∃ nearer owner, MostDistant line info.name nearer owner ∧
          (info.hasDefault = true ↔ ∃ spec, OwnSpec owner info.name spec ∧
            (spec.default?.isSome || spec.factory?.isSome) = true) ∧
          (Unspecified nearer info.name →
            (info.hasDefault = true ↔ ∃ c ∈ code.constants, c.field = info.name)) := by
  obtain ⟨code, parts, _, _, shown⟩ :=
    table.exists_written_of_write decl fields replacement written
  obtain ⟨line, _, ancestry, _⟩ := FieldList.exists_of_collect table decl fields collected
  obtain ⟨verdicts, decided, emitted, accepted⟩ := ConstantCode.exists_verdicts_of_ofFields table
    decl line ancestry fields code.constants
    (ClassCode.constants_of_ofFields table decl fields code parts)
  refine ⟨line, code, _, ancestry, parts, shown, rfl, ?_⟩
  intro info member isClassVar
  obtain ⟨field, inFields, rfl⟩ := List.mem_map.mp member
  have role : field.role = .classVar := by
    have named : field.role.named = .classVar := isClassVar
    cases is : field.role with
    | classVar => rfl
    | _ => rw [is] at named; cases named
  have ofClass : field ∈ fields.ofRole .classVar :=
    List.mem_filter.mpr ⟨inFields, beq_iff_eq.mpr role⟩
  have constant := ConstantCode.exists_constant_iff decided accepted field ofClass
  rw [emitted] at constant
  refine ⟨constant, ?_⟩
  obtain ⟨declared, last, resolves⟩ :=
    FieldList.exists_own_of_mem table decl fields collected line ancestry field inFields
  obtain ⟨nearer, distant⟩ := exists_mostDistant line field.name declared last
  have default := field.hasDefault_iff decl.settings declared resolves role
  rw [← field.hasDefault_entry] at default
  refine ⟨nearer, declared.owner, distant, default, fun silent => ?_⟩
  refine default.trans (Iff.trans ?_ constant.symm)
  simp only [distant.nearestSpec_iff silent, Bool.or_eq_true]
  constructor
  · rintro ⟨spec, own, has | factory⟩
    · exact ⟨spec, own, has⟩
    · have nearest := (distant.nearestSpec_iff silent spec).mpr own
      exact ⟨spec, own,
        ConstantCode.default_of_factory decided accepted field ofClass spec nearest factory⟩
  · rintro ⟨spec, own, has⟩
    exact ⟨spec, own, Or.inl has⟩

open ConstantCode (devices sensor meter device numbered)

/-- What the directory says of the fields of a sensor, and which of them have a constant. -/
def sensorScopes (fields : FieldList) (code : ClassCode) :
    List (String × FieldRole × Bool) × List String :=
  ((ClassDirectory.ofFields sensor.ident fields).fields.map fun info =>
      (info.name, info.role, info.hasDefault),
    code.constants.map (·.field))

set_option maxRecDepth 100000 in
theorem exists_write_sensor : ∃ fields replacement code,
    FieldList.collect devices sensor = .ok fields ∧ devices.write sensor fields = .ok replacement ∧
    ClassCode.ofFields devices sensor fields = .ok code ∧
    code.IsWrittenAs (.ofFields sensor.ident fields) replacement.tokens ∧
    sensorScopes fields code =
      ([("size", .standard, false), ("limit", .classVar, true), ("unit", .classVar, true),
        ("tag", .classVar, true)], ["limit", "tag"]) := by
  obtain ⟨replacement, generated⟩ := Attempt.exists_of_isOk
    (FieldList.collect devices sensor >>= devices.write sensor) (by decide +kernel)
  obtain ⟨fields, collected, written⟩ := (Attempt.bind_eq_ok_iff _ _ _).mp generated
  obtain ⟨code, parts, _, _, shown⟩ :=
    devices.exists_written_of_write sensor fields replacement written
  have known : (FieldList.collect devices sensor >>= fun fields =>
      (ClassCode.ofFields devices sensor fields).map (sensorScopes fields)).value? = some
      ([("size", .standard, false), ("limit", .classVar, true), ("unit", .classVar, true),
        ("tag", .classVar, true)], ["limit", "tag"]) := by decide +kernel
  rw [collected, Attempt.ok_bind, parts] at known
  exact ⟨fields, replacement, code, collected, written, parts, shown, Option.some.inj known⟩

/-- The value of the limit is that of the device, since a meter says nothing of it. -/
theorem write_class_scoped_sensor : ∃ fields replacement code,
    FieldList.collect devices sensor = .ok fields ∧ devices.write sensor fields = .ok replacement ∧
    ClassCode.ofFields devices sensor fields = .ok code ∧
    code.IsWrittenAs (.ofFields sensor.ident fields) replacement.tokens ∧
    ∃ info ∈ (ClassDirectory.ofFields sensor.ident fields).fields,
      info.name = "limit" ∧ info.role = .classVar ∧ info.hasDefault = true ∧
      ∃ c ∈ code.constants, c.field = "limit" := by
  obtain ⟨fields, replacement, code, collected, written, parts, shown, known⟩ := exists_write_sensor
  obtain ⟨line, _, _, ancestry, sameParts, _, rfl, each⟩ :=
    devices.write_class_scoped sensor fields replacement collected written
  obtain rfl := Except.ok.inj (parts.symm.trans sameParts)
  have isLine : devices.ancestry sensor = .ok [sensor, meter, device] :=
    (devices.ancestry_eq_ok_iff sensor _).mpr
      ⟨⟨rfl, .cons_cons ⟨"Meter", rfl, rfl⟩ (.cons_cons ⟨"Device", rfl, rfl⟩ (.singleton _)),
        by decide⟩, device, rfl, rfl⟩
  obtain rfl := Except.ok.inj (isLine.symm.trans ancestry)
  have limit : ("limit", FieldRole.classVar, true) ∈ (sensorScopes fields code).1 := by
    rw [known]
    decide
  obtain ⟨info, member, is⟩ := List.mem_map.mp limit
  simp only [Prod.mk.injEq] at is
  obtain ⟨name, role, hasDefault⟩ := is
  obtain ⟨constant, _⟩ := each info member role
  rw [name] at constant
  have nearest : NearestSpec [sensor, meter, device] "limit" (numbered "1") :=
    (nearestSpec_iff _ _ _).mpr ⟨_, rfl, rfl⟩
  exact ⟨fields, replacement, _, collected, written, parts, shown, info, member, name, role,
    hasDefault, constant.mpr ⟨_, nearest, rfl⟩⟩

/-- The unit has a default in the directory, but no constant: a meter specifies it without a
value. -/
theorem write_sensor_without_unit : ∃ fields replacement code,
    FieldList.collect devices sensor = .ok fields ∧ devices.write sensor fields = .ok replacement ∧
    ClassCode.ofFields devices sensor fields = .ok code ∧
    code.IsWrittenAs (.ofFields sensor.ident fields) replacement.tokens ∧
    ∃ info ∈ (ClassDirectory.ofFields sensor.ident fields).fields,
      info.role = .classVar ∧ info.hasDefault = true ∧
      ¬ ∃ c ∈ code.constants, c.field = info.name := by
  obtain ⟨fields, replacement, code, collected, written, parts, shown, known⟩ := exists_write_sensor
  have unit : ("unit", FieldRole.classVar, true) ∈ (sensorScopes fields code).1 := by
    rw [known]
    decide
  obtain ⟨info, member, is⟩ := List.mem_map.mp unit
  simp only [Prod.mk.injEq] at is
  obtain ⟨name, role, hasDefault⟩ := is
  refine ⟨fields, replacement, code, collected, written, parts, shown, info, member, role,
    hasDefault, ?_⟩
  rintro ⟨c, inConstants, same⟩
  have constant : c.field ∈ (sensorScopes fields code).2 := List.mem_map_of_mem inConstants
  rw [same, name, known] at constant
  exact absurd constant (by decide)

end ClassTable

end ClassExpansion
