import ClassExpansion.Proofs.CodeShapes
import ClassExpansion.Proofs.UpperSnake

set_option autoImplicit false

/- Constants of a class, field by field. The name and the type of a constant come from the field,
and its value from the nearest class in the line that says something of the name. -/
namespace ClassExpansion

open ClassTable (Declared Attributed declarations ownAttribute?)

/-- No class of the line has a specification at its first declaration of the name. -/
def Unspecified (line : List ClassDecl) (name : String) : Prop :=
  ∀ decl ∈ line, ∀ field, decl.field? name = some field → field.spec? = none

/-- What the nearest specification of the name in the line says. Nearer classes do not declare the
name, or first without a specification. -/
def NearestSpec (line : List ClassDecl) (name : String) (spec : FieldSpec) : Prop :=
  ∃ nearer owner farther field, line = nearer ++ owner :: farther ∧ Unspecified nearer name ∧
    owner.field? name = some field ∧ field.spec? = some spec

theorem ClassTable.ownAttribute?_eq_none_iff (name : String) (decl : ClassDecl) :
    ownAttribute? name decl = none ↔
      ∀ field, decl.field? name = some field → field.spec? = none := by
  unfold ownAttribute?
  cases decl.field? name with
  | none => simp
  | some field => simp

theorem ClassTable.ownAttribute?_eq_some_iff (name : String) (decl : ClassDecl)
    (found : Attributed) :
    ownAttribute? name decl = some found ↔
      decl.field? name = some found.field ∧ found.field.spec? = some found.spec := by
  unfold ownAttribute?
  cases decl.field? name with
  | none => simp
  | some field =>
    simp only [Option.map_eq_some_iff, Option.some.injEq]
    constructor
    · intro ⟨spec, has, same⟩
      subst same
      exact ⟨rfl, has⟩
    · intro ⟨same, has⟩
      exact ⟨found.spec, same ▸ has, same ▸ rfl⟩

theorem unspecified_iff (line : List ClassDecl) (name : String) :
    Unspecified line name ↔ line.findSome? (ownAttribute? name) = none := by
  simp only [Unspecified, List.findSome?_eq_none_iff, ClassTable.ownAttribute?_eq_none_iff]

theorem nearestSpec_iff (line : List ClassDecl) (name : String) (spec : FieldSpec) :
    NearestSpec line name spec ↔
      ∃ found, line.findSome? (ownAttribute? name) = some found ∧ found.spec = spec := by
  simp only [NearestSpec, List.findSome?_eq_some_iff, unspecified_iff,
    List.findSome?_eq_none_iff, ClassTable.ownAttribute?_eq_some_iff]
  constructor
  · intro ⟨nearer, owner, farther, field, split, silent, first, has⟩
    exact ⟨⟨field, spec⟩, ⟨nearer, owner, farther, split, ⟨first, has⟩, silent⟩, rfl⟩
  · intro ⟨found, ⟨nearer, owner, farther, split, ⟨first, has⟩, silent⟩, same⟩
    exact ⟨nearer, owner, farther, found.field, split, silent, first, same ▸ has⟩

/-- The field has type and visibility of the last declaration of its name along the line. -/
def Field.IsAsDeclaredLast (line : List ClassDecl) (field : Field) : Prop :=
  ∃ declared, lastNamed? Declared.name (declarations line) field.name = some declared ∧
    field.ty = declared.field.ty ∧ field.vis = declared.field.vis ∧
    declared.field.ty.valueType = .ok field.valueTy

namespace ConstantCode

/-- What becomes of a class-scoped field. -/
inductive Verdict
  | emitted (code : ConstantCode)
  | absent
  /-- The field is reported. -/
  | refused (name : String)

namespace Verdict

def emitted? : Verdict → Option ConstantCode
  | emitted code => some code
  | _ => none

def report? : Verdict → Option Report
  | refused name => some ⟨.factoryConstant name, none⟩
  | _ => none

def attempt : Verdict → Attempt (Option ConstantCode)
  | emitted code => .ok (some code)
  | absent => .ok none
  | refused name => Attempt.fail (.factoryConstant name)

/-- The attempt where the name of the constant may be none. -/
def spelled : Verdict → Attempt (Option ConstantCode)
  | emitted code => (Attempt.name code.name).map fun _ => some code
  | absent => .ok none
  | refused name => Attempt.fail (.factoryConstant name)

theorem explained_spelled (verdict : Verdict) : verdict.spelled.Explained := by
  cases verdict with
  | emitted code =>
    exact Attempt.explained_bind _ _ (Attempt.explained_name code.name) fun _ _ =>
      Attempt.explained_ok (some code)
  | absent => exact Attempt.explained_ok none
  | refused name => exact Attempt.explained_fail _

/-- Success tells the verdict. -/
theorem emitted?_of_spelled (verdict : Verdict) (made : Option ConstantCode)
    (done : verdict.spelled = .ok made) : verdict.emitted? = made ∧ verdict.report? = none := by
  cases verdict with
  | emitted code =>
    obtain ⟨_, _, same⟩ := (Attempt.map_eq_ok_iff _ _ _).mp done
    exact ⟨same, rfl⟩
  | absent => exact ⟨Except.ok.inj done, rfl⟩
  | refused name => cases done

end Verdict

/-- The constant of a field with the value. -/
def ofValue (field : Field) (e : Expr) : ConstantCode :=
  ⟨field.name, field.vis, Text.upperSnake field.name, field.valueTy, e⟩

/-- What the line of a class decides about a class-scoped field under the settings of the class. A
default that is tagged as a factory counts as one. -/
inductive Decides (line : List ClassDecl) (settings : Settings) (field : Field) : Verdict → Prop
  | unspecified (silent : Unspecified line field.name) : Decides line settings field .absent
  | missing (spec : FieldSpec) (nearest : NearestSpec line field.name spec)
      (ordinary : spec.property = false) (noDefault : spec.default? = none)
      (noFactory : spec.factory? = none) : Decides line settings field .absent
  | value (spec : FieldSpec) (nearest : NearestSpec line field.name spec)
      (ordinary : spec.property = false) (e : Expr) (default : spec.default? = some e)
      (untagged : Default.isTagged settings.factorySuffix e = false) :
      Decides line settings field (.emitted (ofValue field e))
  | tagged (spec : FieldSpec) (nearest : NearestSpec line field.name spec)
      (ordinary : spec.property = false) (e : Expr) (default : spec.default? = some e)
      (tagged : Default.isTagged settings.factorySuffix e = true) :
      Decides line settings field (.refused field.name)
  | factory (spec : FieldSpec) (nearest : NearestSpec line field.name spec)
      (ordinary : spec.property = false) (noDefault : spec.default? = none) (callable : Expr)
      (factory : spec.factory? = some callable) :
      Decides line settings field (.refused field.name)
  | property (spec : FieldSpec) (nearest : NearestSpec line field.name spec)
      (property : spec.property = true) : Decides line settings field (.refused field.name)

theorem exists_decides (table : ClassTable) (decl : ClassDecl) (line : List ClassDecl)
    (ancestry : table.ancestry decl = .ok line) (field : Field) :
    ∃ verdict, Decides line decl.settings field verdict ∧
      ofField? table decl field = verdict.spelled := by
  have searched : table.attribute? decl field.name =
      .ok (line.findSome? (ownAttribute? field.name)) :=
    (table.attribute?_eq_ok_iff decl field.name _).mpr ⟨line, ancestry, rfl⟩
  unfold ofField?
  rw [searched, Attempt.ok_bind]
  cases found : line.findSome? (ownAttribute? field.name) with
  | none => exact ⟨.absent, .unspecified ((unspecified_iff line _).mpr found), rfl⟩
  | some attributed =>
    obtain ⟨_, spec⟩ := attributed
    have nearest := (nearestSpec_iff line field.name spec).mpr ⟨_, found, rfl⟩
    dsimp only
    unfold Default.ofSpec
    by_cases property : spec.property = true
    · rw [if_pos property]
      exact ⟨_, .property spec nearest property, rfl⟩
    · rw [if_neg property]
      rw [Bool.not_eq_true] at property
      cases default : spec.default? with
      | some e =>
        dsimp only
        cases tagged : Default.isTagged decl.settings.factorySuffix e with
        | true => exact ⟨_, .tagged spec nearest property e default tagged, rfl⟩
        | false =>
          refine ⟨_, .value spec nearest property e default tagged, ?_⟩
          rw [if_neg Bool.false_ne_true]
          unfold Verdict.spelled ofValue Attempt.name
          dsimp only
          split
          · rfl
          · rfl
      | none =>
        cases factory : spec.factory? with
        | some callable => exact ⟨_, .factory spec nearest property default callable factory, rfl⟩
        | none => exact ⟨_, .missing spec nearest property default factory, rfl⟩

/-- The constant of a field that is spelled by a name has a name. -/
theorem Decides.spelled_eq {line : List ClassDecl} {settings : Settings} {field : Field}
    {verdict : Verdict} (decides : Decides line settings field verdict)
    (named : Name.isUsable field.ident = true) : verdict.spelled = verdict.attempt := by
  have isName := Text.isIdentText_upperSnake field.name (Name.isIdentText_unraw _ named)
  have constantName :=
    (Attempt.name_eq_ok_iff _ _).mpr ⟨Name.isUsable_of_isIdentText _ isName, rfl⟩
  cases decides with
  | value =>
    unfold Verdict.spelled ofValue
    dsimp only
    rw [constantName]
    rfl
  | _ => rfl

theorem exists_verdicts (table : ClassTable) (decl : ClassDecl) (line : List ClassDecl)
    (ancestry : table.ancestry decl = .ok line) (fields : List Field)
    (named : ∀ field ∈ fields, Name.isUsable field.ident = true) :
    ∃ verdicts, List.Forall₂ (Decides line decl.settings) fields verdicts ∧
      fields.map (ofField? table decl) = verdicts.map Verdict.attempt := by
  induction fields with
  | nil => exact ⟨[], .nil, rfl⟩
  | cons field rest ih =>
    obtain ⟨first, namedRest⟩ := List.forall_mem_cons.mp named
    obtain ⟨verdict, decides, same⟩ := exists_decides table decl line ancestry field
    obtain ⟨verdicts, decided, onward⟩ := ih namedRest
    refine ⟨verdict :: verdicts, .cons decides decided, ?_⟩
    rw [List.map_cons, same, decides.spelled_eq first, onward, List.map_cons]

/-- Where all constants are made, no field is refused. -/
theorem exists_verdicts_of_ofFields (table : ClassTable) (decl : ClassDecl) (line : List ClassDecl)
    (ancestry : table.ancestry decl = .ok line) (fields : FieldList) (codes : List ConstantCode)
    (made : ofFields table decl fields = .ok codes) :
    ∃ verdicts, List.Forall₂ (Decides line decl.settings) (fields.ofRole .classVar) verdicts ∧
      verdicts.filterMap Verdict.emitted? = codes ∧
      ∀ verdict ∈ verdicts, verdict.report? = none := by
  have explained : ∀ attempt ∈ (fields.ofRole .classVar).map (ofField? table decl),
      attempt.Explained := by
    intro attempt member
    obtain ⟨field, _, rfl⟩ := List.mem_map.mp member
    obtain ⟨verdict, _, same⟩ := exists_decides table decl line ancestry field
    rw [same]
    exact verdict.explained_spelled
  unfold ofFields at made
  rw [Attempt.bind_eq_ok_iff] at made
  obtain ⟨found, gathered, kept⟩ := made
  cases kept
  rw [Attempt.gather_eq_ok_iff _ _ explained, map_eq_map_iff_forall₂] at gathered
  generalize fields.ofRole .classVar = ofClass at gathered
  induction gathered with
  | nil => exact ⟨[], .nil, rfl, nofun⟩
  | @cons field made rest found done _ ih =>
    obtain ⟨verdicts, decided, emitted, accepted⟩ := ih
    obtain ⟨verdict, decides, same⟩ := exists_decides table decl line ancestry field
    obtain ⟨isMade, silent⟩ := verdict.emitted?_of_spelled made (same.symm.trans done)
    refine ⟨verdict :: verdicts, .cons decides decided, ?_,
      List.forall_mem_cons.mpr ⟨silent, accepted⟩⟩
    rw [List.filterMap_cons, List.filterMap_cons, isMade, emitted]
    rfl

theorem Verdict.abort?_attempt (verdict : Verdict) : verdict.attempt.abort? = none := by
  cases verdict <;> rfl

theorem Verdict.reports_attempt (verdict : Verdict) :
    verdict.attempt.reports = verdict.report?.toList := by
  cases verdict <;> rfl

theorem Verdict.value?_attempt (verdict : Verdict) :
    verdict.attempt.value?.bind id = verdict.emitted? := by
  cases verdict <;> rfl

/-- All constants are made, or all refusals are reported. -/
theorem gather_attempt (verdicts : List Verdict) :
    (Attempt.gather (verdicts.map Verdict.attempt)).map (List.filterMap id) =
      if verdicts.filterMap Verdict.report? = [] then .ok (verdicts.filterMap Verdict.emitted?)
      else .error (.reported (verdicts.filterMap Verdict.report?)) := by
  have going : (verdicts.map Verdict.attempt).findSome? Attempt.abort? = none := by
    rw [List.findSome?_map, List.findSome?_eq_none_iff]
    exact fun verdict _ => verdict.abort?_attempt
  have reports : (verdicts.map Verdict.attempt).flatMap Attempt.reports =
      verdicts.filterMap Verdict.report? := by
    simp only [List.flatMap_map, List.filterMap_eq_flatMap_toList, Verdict.reports_attempt]
  have values : ((verdicts.map Verdict.attempt).filterMap Attempt.value?).filterMap id =
      verdicts.filterMap Verdict.emitted? := by
    simp only [List.filterMap_map, List.filterMap_filterMap, Function.comp_apply,
      Verdict.value?_attempt]
  rw [Attempt.gather_of_going _ going, reports, ← values]
  simp only [List.isEmpty_iff]
  split
  · rfl
  · rfl

theorem ofFields_eq (table : ClassTable) (decl : ClassDecl) (fields : FieldList) :
    ofFields table decl fields =
      (Attempt.gather ((fields.ofRole .classVar).map (ofField? table decl))).map
        (List.filterMap id) := by
  unfold ofFields
  cases Attempt.gather ((fields.ofRole .classVar).map (ofField? table decl)) with
  | ok found => rfl
  | error failure => rfl

theorem Decides.field_of_emitted {line : List ClassDecl} {settings : Settings} {field : Field}
    {verdict : Verdict} (decides : Decides line settings field verdict) (code : ConstantCode)
    (emitted : verdict.emitted? = some code) : code.field = field.name := by
  cases decides with
  | value =>
    cases emitted
    rfl
  | _ => cases emitted

theorem exists_field_of_emitted (line : List ClassDecl) (settings : Settings) (fields : List Field)
    (verdicts : List Verdict) (decided : List.Forall₂ (Decides line settings) fields verdicts)
    (code : ConstantCode) (member : code ∈ verdicts.filterMap Verdict.emitted?) :
    ∃ field ∈ fields, code.field = field.name := by
  obtain ⟨verdict, inVerdicts, emitted⟩ := List.mem_filterMap.mp member
  obtain ⟨field, inFields, decides⟩ :=
    exists_mem_of_forall₂ _ fields verdicts decided verdict inVerdicts
  exact ⟨field, inFields, decides.field_of_emitted code emitted⟩

/-- Constants come from the class-scoped fields in order, and only if none of them is refused. Their
types and visibilities are those of the most distant declarations, and their values are the nearest
ones. A field that is spelled by a name gives a constant with a name. So it is told what is written
for the constants, and which of them stand in the code of the class. -/
theorem ofFields_nearest_value (table : ClassTable) (decl : ClassDecl) (fields : FieldList)
    (collected : FieldList.collect table decl = .ok fields)
    (named : ∀ field ∈ fields.ofRole .classVar, Name.isUsable field.ident = true) :
    ∃ line verdicts, table.ancestry decl = .ok line ∧
      List.Forall₂ (Decides line decl.settings) (fields.ofRole .classVar) verdicts ∧
      ofFields table decl fields =
        (if verdicts.filterMap Verdict.report? = [] then .ok (verdicts.filterMap Verdict.emitted?)
        else .error (.reported (verdicts.filterMap Verdict.report?))) ∧
      AreWrittenAs decl.ident (verdicts.filterMap Verdict.emitted?)
        (allTokens decl.ident (verdicts.filterMap Verdict.emitted?)) ∧
      (∀ replacement, table.write decl fields = .ok replacement →
        verdicts.filterMap Verdict.report? = [] ∧
        ∃ code, ClassCode.ofFields table decl fields = .ok code ∧
          code.constants = verdicts.filterMap Verdict.emitted? ∧
          code.IsWrittenAs (.ofFields decl.ident fields) replacement.tokens) ∧
      (∀ field ∈ fields, field.IsAsDeclaredLast line) ∧
      ∀ field ∈ fields, field.role ≠ .classVar →
        ∀ code ∈ verdicts.filterMap Verdict.emitted?, code.field ≠ field.name := by
  obtain ⟨line, _, ancestry, _⟩ := FieldList.exists_of_collect table decl fields collected
  obtain ⟨verdicts, decided, same⟩ := exists_verdicts table decl line ancestry _ named
  have outcome : ofFields table decl fields =
      if verdicts.filterMap Verdict.report? = [] then .ok (verdicts.filterMap Verdict.emitted?)
      else .error (.reported (verdicts.filterMap Verdict.report?)) := by
    rw [ofFields_eq, same, gather_attempt]
  refine ⟨line, verdicts, ancestry, decided, outcome, areWrittenAs _ _, ?_, ?_, ?_⟩
  · intro replacement written
    obtain ⟨code, parts, _, _, shown⟩ :=
      table.exists_written_of_write decl fields replacement written
    have constants := ClassCode.constants_of_ofFields table decl fields code parts
    rw [outcome] at constants
    split at constants
    · next silent => exact ⟨silent, code, parts, (Except.ok.inj constants).symm, shown⟩
    · cases constants
  · intro field member
    obtain ⟨declared, found, last, resolves⟩ :=
      FieldList.exists_declared_of_mem table decl fields collected line ancestry field member
    exact ⟨declared, last, resolves.ty, resolves.vis, resolves.valueTy⟩
  · intro field member other code emitted sameName
    obtain ⟨source, inScoped, isSource⟩ :=
      exists_field_of_emitted line decl.settings _ verdicts decided code emitted
    obtain ⟨inFields, role⟩ := List.mem_filter.mp inScoped
    -- A name is that of one field only, so that the field would be class-scoped.
    have unique := FieldList.nodup_name_of_collect table decl fields collected
    have isField : source = field :=
      List.inj_on_of_nodup_map unique inFields member (isSource.symm.trans sameName)
    rw [beq_iff_eq, isField] at role
    exact other role

/-- The specification of a number as the default. -/
def numbered (digits : String) : FieldSpec :=
  { FieldSpec.empty with default? := some (.number digits) }

/-- A device has three class-scoped fields. -/
def device : ClassDecl := .usual "Device" none [
  ⟨"limit", .marked "ClassVar" (.named "u8"), [], [], some (numbered "1")⟩,
  ⟨"unit", .marked "ClassVar" (.named "u8"), [], [], some (numbered "2")⟩,
  ⟨"tag", .marked "ClassVar" (.named "u8"), [], [], some (numbered "3")⟩,
  ⟨"size", .named "u8", [], [], none⟩]

/-- A meter says nothing of the limit, takes the value from the unit, and gives the tag another. -/
def meter : ClassDecl := .usual "Meter" (some "Device") [
  ⟨"limit", .named "u8", [], [], none⟩,
  ⟨"unit", .named "u8", [], [], some FieldSpec.empty⟩,
  ⟨"tag", .named "u16", [], [], some (numbered "4")⟩]

def sensor : ClassDecl := .usual "Sensor" (some "Meter") [
  ⟨"size", .marked "ClassVar" (.named "u8"), [], [], some (numbered "5")⟩]

def devices : ClassTable := [device, meter, sensor]

/-- Name, type and value of a constant as they are written. -/
def written (code : ConstantCode) : String × String × String :=
  (code.name, Token.text code.ty.tokens, Token.text code.value.tokens)

set_option maxRecDepth 100000 in
theorem ofFields_sensor : ∃ fields line verdicts codes,
    FieldList.collect devices sensor = .ok fields ∧
    List.Forall₂ (Decides line sensor.settings) (fields.ofRole .classVar) verdicts ∧
    ofFields devices sensor fields = .ok codes ∧ verdicts.filterMap Verdict.emitted? = codes ∧
    AreWrittenAs "Sensor" codes (allTokens "Sensor" codes) ∧
    codes.map written = [("LIMIT", "u8", "1"), ("TAG", "u8", "4")] ∧
    ∀ code ∈ codes, code.field ≠ "size" := by
  obtain ⟨⟨fields, codes⟩, succeeds, described⟩ := Attempt.exists_of_map_value?
    (fun made : FieldList × List ConstantCode =>
      (made.1.map fun field => (field.ident, field.role), made.2.map written))
    (FieldList.collect devices sensor >>= fun fields =>
      (ofFields devices sensor fields).map fun codes => (fields, codes))
    ([("size", .standard), ("limit", .classVar), ("unit", .classVar), ("tag", .classVar)],
      [("LIMIT", "u8", "1"), ("TAG", "u8", "4")]) (by decide +kernel)
  obtain ⟨known, values⟩ := Prod.mk.inj described
  obtain ⟨_, collected, made⟩ := (Attempt.bind_eq_ok_iff _ _ _).mp succeeds
  obtain ⟨_, constants, same⟩ := (Attempt.map_eq_ok_iff _ _ _).mp made
  cases same
  have usable : ∀ entry ∈ fields.map fun field => (field.ident, field.role),
      Name.isUsable entry.1 = true := by
    rw [known]
    decide +kernel
  have named : ∀ field ∈ fields.ofRole .classVar, Name.isUsable field.ident = true :=
    fun field member => usable _ (List.mem_map_of_mem (List.mem_filter.mp member).1)
  obtain ⟨line, verdicts, _, decided, outcome, shown, _, _, others⟩ :=
    ofFields_nearest_value devices sensor fields collected named
  have emitted : verdicts.filterMap Verdict.emitted? = codes := by
    rw [constants] at outcome
    split at outcome
    · exact (Except.ok.inj outcome).symm
    · cases outcome
  rw [emitted] at shown
  refine ⟨fields, line, verdicts, codes, collected, decided, constants, emitted, shown, values, ?_⟩
  have size : ("size", Role.standard) ∈ fields.map fun field => (field.ident, field.role) :=
    known ▸ List.mem_cons_self
  obtain ⟨field, inFields, isSize⟩ := List.mem_map.mp size
  obtain ⟨ident, role⟩ := Prod.mk.inj isSize
  have name : field.name = "size" := by
    rw [Field.name, ident]
    decide +kernel
  intro code member
  rw [← name]
  exact others field inFields (by rw [role]; decide) code (emitted ▸ member)

end ConstantCode

end ClassExpansion
