import ClassExpansion.Proofs.ClassModule

set_option autoImplicit false

/- A class by itself and a module of that class only. Where the class has no base, both are
expanded alike, or fail alike. -/
namespace ClassExpansion

namespace ClassDecl

/-- The attribute that invokes the macro with the arguments. -/
def invocation (arguments : Tokens) : Attribute :=
  match arguments with
  | [] => ⟨false, ⟨⟨false, ["inity"]⟩, .bare⟩⟩
  | _ :: _ => argumentAttribute arguments

theorem isNamed_invocation (arguments : Tokens) :
    (invocation arguments).isNamed "inity" = true := by
  cases arguments with
  | nil => rfl
  | cons first rest => rfl

/-- Options count alike whether they are arguments or stand in an attribute before the others. -/
theorem optionBodies_invocation (attrs : List Attribute) (arguments : Tokens) :
    optionBodies (invocation arguments :: attrs) none = optionBodies attrs (some arguments) := by
  cases arguments with
  | nil => rfl
  | cons first rest => rfl

end ClassDecl

/-- The struct with the attribute that invokes the macro before its own. -/
def StructItem.invoked (item : StructItem) (arguments : Tokens) : StructItem :=
  { item with attrs := ClassDecl.invocation arguments :: item.attrs }

theorem ClassDecl.ofStruct_invoked (item : StructItem) (arguments : Tokens) :
    ofStruct (item.invoked arguments) none = ofStruct item (some arguments) := by
  have options : optionBodies (item.invoked arguments).attrs none =
      optionBodies item.attrs (some arguments) :=
    optionBodies_invocation item.attrs arguments
  have others : (item.invoked arguments).attrs.filter (fun a => !a.isNamed "inity") =
      item.attrs.filter fun a => !a.isNamed "inity" :=
    List.filter_cons_of_neg (by simp [isNamed_invocation])
  unfold ofStruct
  rw [options, others]
  rfl

namespace Expansion

/-- In a module of one class, the class sees itself only. -/
theorem ofItems_struct (s : StructItem) (marked : isClass s = true) :
    ofItems [.struct s] = (ClassDecl.ofStruct s none >>= fun decl =>
      ClassTable.generate [decl] decl).map fun part => [part] := by
  have isClass : classStruct? (.struct s) = some s := if_pos marked
  unfold ofItems
  rw [List.map_singleton, Attempt.sift_singleton_bind _ (ModuleItem.explained_ofItem _),
    ModuleItem.ofItem_of_some _ s isClass]
  · cases ClassDecl.ofStruct s none with
    | error failure => rfl
    | ok decl =>
      show (Attempt.sift [ClassTable.generate [decl] decl] >>= _) = _
      rw [Attempt.sift_singleton_bind _ (ClassTable.explained_generate _ _)]
      · show _ = (ClassTable.generate [decl] decl).map _
        cases ClassTable.generate [decl] decl with
        | error failure => rfl
        | ok part => rfl
      · intro found heard
        exact if_neg (by rwa [List.isEmpty_iff])
  · intro found heard
    -- Nothing is left to be generated, so that nothing is added to the reports.
    show (if (found ++ []).isEmpty then _ else throw (Failure.reported (found ++ []))) = _
    rw [List.append_nil]
    exact if_neg (by rwa [List.isEmpty_iff])

/-- A struct that is expanded is read as a class without a base, and this class is generated. -/
theorem exists_class_of_ofStruct (item : StructItem) (arguments : Tokens) (expansion : Expansion)
    (expanded : ofStruct item arguments = .ok expansion) :
    ∃ decl part, ClassDecl.ofStruct item (some arguments) = .ok decl ∧ decl.base? = none ∧
      ClassTable.generate [decl] decl = .ok part ∧
      expansion = ⟨part.tokens, part.debug?.toList⟩ := by
  unfold ofStruct at expanded
  rw [Attempt.bind_eq_ok_iff] at expanded
  obtain ⟨decl, read, rest⟩ := expanded
  split at rest
  · cases rest
  · next noBase =>
    simp only [Attempt.bind_eq_ok_iff] at rest
    obtain ⟨part, generated, same⟩ := rest
    refine ⟨decl, part, read, ?_, generated, (Except.ok.inj same).symm⟩
    simpa only [Option.not_isSome_iff_eq_none] using noBase

/-- The expansion of a struct is what comes in place of its class. -/
theorem ofStruct_eq (item : StructItem) (arguments : Tokens)
    (alone : ∀ decl, ClassDecl.ofStruct item (some arguments) = .ok decl → decl.base? = none) :
    ofStruct item arguments = (ClassDecl.ofStruct item (some arguments) >>= fun decl =>
      ClassTable.generate [decl] decl).map fun part => ⟨part.tokens, part.debug?.toList⟩ := by
  unfold ofStruct
  cases read : ClassDecl.ofStruct item (some arguments) with
  | error failure => rfl
  | ok decl =>
    simp only [Attempt.ok_bind, alone decl read, Option.isSome_none, Bool.false_eq_true,
      ↓reduceIte]
    cases ClassTable.generate [decl] decl with
    | error failure => rfl
    | ok part => rfl

/-- A struct without a base is expanded alike by itself and as the only item of a module, with the
attribute that invokes the macro before its others. Where one of them fails, the other fails with
the same reports. -/
theorem ofModule_only_struct (head : ModuleHead) (item : StructItem) (arguments : Tokens)
    (alone : ∀ decl, ClassDecl.ofStruct item (some arguments) = .ok decl → decl.base? = none) :
    ofModule head (some [.struct (item.invoked arguments)]) [] =
      (ofStruct item arguments).map fun expansion =>
        ⟨head.tokensWith (some expansion.tokens), expansion.debug⟩ := by
  have marked : isClass (item.invoked arguments) = true := by
    simp [isClass, StructItem.invoked, ClassDecl.isNamed_invocation]
  rw [ofModule_eq, ofItems_struct _ marked, ClassDecl.ofStruct_invoked,
    ofStruct_eq item arguments alone]
  cases ClassDecl.ofStruct item (some arguments) >>= fun decl =>
      ClassTable.generate [decl] decl with
  | error failure => rfl
  | ok part =>
    obtain ⟨tokens, debug?⟩ := part
    simp only [Except.map, assembled, List.flatMap_singleton, List.filterMap_cons,
      List.filterMap_nil]
    cases debug? <;> rfl

/-- A struct with an option in an attribute of its own. -/
def label : StructItem :=
  classStruct "Label" (textOption "shadow_prefix" "\"own_\"")
    (.named [⟨[], [], "text", .named "u8"⟩])

/-- An option that the struct does not have. -/
def fresh : Tokens := textOption "hook" "\"bob\""

/-- An option that the struct has already. -/
def repeated : Tokens := textOption "shadow_prefix" "\"_\""

theorem ofModule_only_struct_label :
    (∃ expansion, ofStruct label fresh = .ok expansion ∧
      ofModule ⟨[], [.ident "mod"], []⟩ (some [.struct (label.invoked fresh)]) [] =
        .ok ⟨[.ident "mod", .brace expansion.tokens], expansion.debug⟩) ∧
    ∃ failure, ofStruct label repeated = .error failure ∧
      ofModule ⟨[], [.ident "mod"], []⟩ (some [.struct (label.invoked repeated)]) [] =
        .error failure := by
  constructor
  · obtain ⟨decl, read, base⟩ := Attempt.exists_of_map_value? (·.base?)
      (ClassDecl.ofStruct label (some fresh)) none (by decide +kernel)
    have alone : ∀ other, ClassDecl.ofStruct label (some fresh) = .ok other →
        other.base? = none := by
      intro other same
      rw [read, Except.ok.injEq] at same
      rw [← same, base]
    obtain ⟨expansion, expanded⟩ := Attempt.exists_of_isOk (ofStruct label fresh)
      (by decide +kernel)
    refine ⟨expansion, expanded, ?_⟩
    rw [ofModule_only_struct _ label fresh alone, expanded]
    rfl
  · have refused : (ClassDecl.ofStruct label (some repeated)).isOk = false := by decide +kernel
    have alone : ∀ other, ClassDecl.ofStruct label (some repeated) = .ok other →
        other.base? = none := by
      intro other read
      rw [read] at refused
      cases refused
    have failed : (ofStruct label repeated).isOk = false := by decide +kernel
    rw [ofModule_only_struct _ label repeated alone]
    cases expanded : ofStruct label repeated with
    | ok expansion =>
      rw [expanded] at failed
      cases failed
    | error failure => exact ⟨failure, rfl, rfl⟩

end Expansion

end ClassExpansion
