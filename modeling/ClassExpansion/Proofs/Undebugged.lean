import ClassExpansion.Proofs.Hook

set_option autoImplicit false

/- What the debug flag of a class does: where the class is generated it adds a text that shows the
code, and nothing else that is made of a table depends on it. -/
namespace ClassExpansion

open ClassTable (Declared declarations)

/-- The class without the flag. -/
def ClassDecl.undebugged (decl : ClassDecl) : ClassDecl := { decl with debug := false }

theorem ClassDecl.keepsLine_undebugged : ClassDecl.KeepsLine undebugged :=
  ⟨fun _ => rfl, fun _ => rfl⟩

namespace ClassTable

/-- The table without any flags. -/
def undebugged (table : ClassTable) : ClassTable := table.map .undebugged

variable (table : ClassTable) (decl : ClassDecl) (fields : FieldList)

theorem lineage_undebugged :
    table.undebugged.lineage decl.undebugged =
      (table.lineage decl).map (List.map .undebugged) := by
  unfold lineage undebugged
  rw [ancestry_map table _ ClassDecl.keepsLine_undebugged]
  cases table.ancestry decl with
  | ok line => rfl
  | error fault => rfl

theorem attribute?_undebugged (name : String) :
    table.undebugged.attribute? decl.undebugged name = table.attribute? decl name := by
  unfold attribute?
  rw [lineage_undebugged]
  cases table.lineage decl with
  | error failure => rfl
  | ok line =>
    show Except.ok ((line.map .undebugged).findSome? (ownAttribute? name)) = _
    rw [List.findSome?_map]
    rfl

theorem declarations_undebugged (line : List ClassDecl) :
    declarations (line.map .undebugged) =
      (declarations line).map fun declared => ⟨declared.owner.undebugged, declared.field⟩ := by
  unfold declarations
  rw [List.flatMap_map, List.map_flatMap]
  simp only [List.map_map]
  rfl

theorem resolve_undebugged (settings : Settings) (declared : Declared) :
    Field.resolve table.undebugged settings ⟨declared.owner.undebugged, declared.field⟩ =
      Field.resolve table settings declared := by
  unfold Field.resolve
  simp only [attribute?_undebugged]
  rfl

theorem collect_undebugged :
    FieldList.collect table.undebugged decl.undebugged = FieldList.collect table decl := by
  unfold FieldList.collect
  rw [lineage_undebugged]
  cases table.lineage decl with
  | error failure => rfl
  | ok line =>
    simp only [Except.map, Attempt.ok_bind, declarations_undebugged, List.map_map,
      Function.comp_def, resolve_undebugged]
    rfl

theorem hookedBase?_undebugged :
    table.undebugged.hookedBase? decl.undebugged =
      (table.hookedBase? decl).map (Option.map .undebugged) := by
  unfold hookedBase?
  rw [lineage_undebugged]
  cases table.lineage decl with
  | error failure => rfl
  | ok line =>
    show Except.ok (((line.map ClassDecl.undebugged).drop 1).find? ClassDecl.hasHook) = _
    rw [← List.map_drop, List.find?_map]
    rfl

theorem requireOwnHook_undebugged :
    table.undebugged.requireOwnHook decl.undebugged fields = table.requireOwnHook decl fields := by
  unfold requireOwnHook
  rw [hookedBase?_undebugged]
  cases table.hookedBase? decl with
  | error failure => rfl
  | ok base? =>
    cases base? with
    | none => rfl
    | some base => rfl

theorem codeOfFields_undebugged :
    ClassCode.ofFields table.undebugged decl.undebugged fields =
      ClassCode.ofFields table decl fields := by
  have constant (field : Field) : ConstantCode.ofField? table.undebugged decl.undebugged field =
      ConstantCode.ofField? table decl field := by
    unfold ConstantCode.ofField?
    rw [attribute?_undebugged]
    rfl
  unfold ClassCode.ofFields ConstantCode.ofFields
  rw [funext constant]
  rfl

/-- The flag is asked for when the tokens are done. -/
theorem write_undebugged :
    (table.undebugged.write decl.undebugged fields).map (·.tokens) =
      (table.write decl fields).map (·.tokens) := by
  unfold write
  rw [codeOfFields_undebugged]
  cases ClassCode.ofFields table decl fields with
  | error failure => rfl
  | ok code =>
    rw [Attempt.ok_bind, Attempt.ok_bind]
    cases code.tokens with
    | error failure => rfl
    | ok tokens => rfl

theorem generate_undebugged :
    (table.undebugged.generate decl.undebugged).map (·.tokens) =
      (table.generate decl).map (·.tokens) := by
  have own : decl.undebugged.hasOwnConstructor = decl.hasOwnConstructor := rfl
  unfold generate
  rw [own, collect_undebugged]
  cases decl.hasOwnConstructor with
  | true => rfl
  | false =>
    cases FieldList.collect table decl with
    | error failure => rfl
    | ok fields =>
      simp only [Bool.false_eq_true, ↓reduceIte, Attempt.ok_bind, requireOwnHook_undebugged]
      cases table.requireOwnHook decl fields with
      | error failure => rfl
      | ok _ => exact table.write_undebugged decl fields

/-- The text shows the options and the constructors that stand in the tokens written for the
class. -/
def Traces (tokens : Tokens) (text : String) : Prop :=
  ∃ fields code rest, FieldList.collect table decl = .ok fields ∧
    ClassCode.ofFields table decl fields = .ok code ∧
    tokens = (decl.layout fields).tokens ++ code.optionsTokens ++ code.constructor.tokens ++ rest ∧
    text = "inity: " ++ decl.ident ++ "::new" ++ fields.signature ++ "\n"
      ++ Token.text code.optionsTokens ++ "\n" ++ Token.text code.constructor.tokens

variable (part : Replacement) (generated : table.generate decl = .ok part)

include generated

/-- A class with the flag comes with a text, unless it has a constructor of its own. -/
theorem exists_text_of_generate (made : decl.hasOwnConstructor = false)
    (flag : decl.debug = true) :
    ∃ text, part.debug? = some text ∧ table.Traces decl part.tokens text := by
  obtain ⟨fields, collected, written⟩ := table.exists_fields_of_generate decl made part generated
  unfold write at written
  simp only [Attempt.bind_eq_ok_iff] at written
  obtain ⟨code, parts, tokens, spelled, given⟩ := written
  cases given
  rw [if_pos flag]
  obtain ⟨implementation, _, joined⟩ := (code.tokens_eq_ok_iff tokens).mp spelled
  have layout := (ClassCode.isMade_of_ofFields table decl fields code parts).layout
  have title := ClassCode.title_of_ofFields table decl fields code parts
  rw [layout, List.append_assoc _ _ implementation] at joined
  refine ⟨code.debugText, rfl, fields, code, _, collected, parts, joined, ?_⟩
  rw [ClassCode.debugText, title]

theorem debug?_of_generate (silent : ¬ (decl.debug = true ∧ decl.hasOwnConstructor = false)) :
    part.debug? = none := by
  cases own : decl.hasOwnConstructor with
  | true =>
    unfold generate at generated
    rw [own] at generated
    cases generated
    rfl
  | false =>
    obtain ⟨fields, _, written⟩ := table.exists_fields_of_generate decl own part generated
    unfold write at written
    simp only [Attempt.bind_eq_ok_iff] at written
    obtain ⟨code, _, tokens, _, given⟩ := written
    cases given
    exact if_neg fun flag => silent ⟨flag, own⟩

end ClassTable

end ClassExpansion
