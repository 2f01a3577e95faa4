import ClassExpansion.Proofs.FactoryCalls
import ClassExpansion.Proofs.RecordedFacts

set_option autoImplicit false

/- What an accepted specification resolves to. The suffix that marks factories belongs to the class
that resolves, while the count of arguments was checked where the option was read. -/
namespace ClassExpansion

namespace FieldSpec

variable {a : Attribute} {spec : FieldSpec}

theorem apart_of_read (accepted : read a = .ok spec) (isProperty : spec.property = true) :
    spec.default? = none ∧ spec.factory? = none := by
  obtain ⟨_, _, _, free⟩ := (read_records_iff a spec).mp accepted
  exact spec.hasConflict_eq_false_iff.mp free isProperty

/-- Whichever option an expression was given in, it is no `factory` call of the wrong arity. -/
theorem hasLegalArity_of_read (accepted : read a = .ok spec) (e : Expr)
    (given : spec.default? = some e ∨ spec.factory? = some e) : e.HasLegalArity := by
  obtain ⟨options, _, ⟨facts, all, records⟩, _⟩ := (read_records_iff a spec).mp accepted
  rcases given with given | given
  · rw [records.default?_eq_some_iff, FieldOption.mem_facts_iff all] at given
    obtain ⟨o, _, tells⟩ := given
    cases tells with
    | default _ _ _ legal => exact legal
  · rw [records.factory?_eq_some_iff, FieldOption.mem_facts_iff all] at given
    obtain ⟨o, _, tells⟩ := given
    cases tells with
    | factory _ _ _ legal => exact legal

end FieldSpec

theorem Expr.Regrouped.hasLegalArity {e other : Expr} (regrouped : e.Regrouped other)
    (legal : e.HasLegalArity) : other.HasLegalArity := by
  rw [← hasFactoryArity_iff] at legal ⊢
  rw [← regrouped.hasFactoryArity_eq]
  exact legal

namespace Default

variable (spec : FieldSpec) (settings : Settings)

theorem ofSpec_of_property (isProperty : spec.property = true) :
    ofSpec spec settings = .property := if_pos isProperty

/-- Besides the property, whatever is given as default decides, and a factory only alone. -/
theorem ofSpec_of_default (ordinary : spec.property = false) (e : Expr)
    (given : spec.default? = some e) :
    ofSpec spec settings =
      if isTagged settings.factorySuffix e then .factory e else .value e := by
  rw [ofSpec, ordinary, given, if_neg Bool.false_ne_true]

theorem ofSpec_of_factory (ordinary : spec.property = false) (silent : spec.default? = none)
    (callable : Expr) (given : spec.factory? = some callable) :
    ofSpec spec settings = .factory callable := by
  rw [ofSpec, ordinary, silent, given, if_neg Bool.false_ne_true]

theorem ofSpec_of_none (ordinary : spec.property = false) (silent : spec.default? = none)
    (none : spec.factory? = none) : ofSpec spec settings = .missing := by
  rw [ofSpec, ordinary, silent, none, if_neg Bool.false_ne_true]

theorem ofSpec_eq_property_iff : ofSpec spec settings = .property ↔ spec.property = true := by
  constructor
  · intro resolved
    rw [← Bool.not_eq_false]
    intro ordinary
    unfold ofSpec at resolved
    rw [ordinary, if_neg Bool.false_ne_true] at resolved
    split at resolved
    · split at resolved <;> cases resolved
    · cases resolved
    · cases resolved
  · exact ofSpec_of_property spec settings

/-- A layer of grouping around the default has no part in what it resolves to. -/
theorem kind_ofSpec_of_regrouped (ordinary : spec.property = false) (e other : Expr)
    (given : spec.default? = some e) (regrouped : e.Regrouped other) :
    (ofSpec { spec with default? := some other } settings).kind = (ofSpec spec settings).kind := by
  rw [ofSpec_of_default spec settings ordinary e given,
    ofSpec_of_default { spec with default? := some other } settings ordinary other rfl,
    ← regrouped.isTagged_eq]
  split <;> rfl

/-- An accepted specification resolves, under any settings, to what its options give: a property
apart from all defaults, a default as a factory exactly if its expression is tagged under whatever
grouping, and a factory that stands alone. A call of `factory` among them has one argument. -/
theorem ofSpec_agrees_with_read (a : Attribute) (accepted : FieldSpec.read a = .ok spec) :
    (ofSpec spec settings = .property ↔ spec.property = true) ∧
    (spec.property = true → spec.default? = none ∧ spec.factory? = none) ∧
    (∀ e, spec.default? = some e →
      (e.IsTagged settings.factorySuffix → ofSpec spec settings = .factory e) ∧
      (¬ e.IsTagged settings.factorySuffix → ofSpec spec settings = .value e) ∧
      ∀ other, e.Regrouped other → other.HasLegalArity ∧
        (ofSpec { spec with default? := some other } settings).kind =
          (ofSpec spec settings).kind) ∧
    (∀ callable, spec.default? = none → spec.factory? = some callable →
      ofSpec spec settings = .factory callable) ∧
    (spec.property = false → spec.default? = none → spec.factory? = none →
      ofSpec spec settings = .missing) ∧
    ∀ e, spec.default? = some e ∨ spec.factory? = some e → ∀ core arguments,
      e.Encloses core → core.CallsFactory arguments → arguments.length = 1 := by
  have ordinary : ∀ e, spec.default? = some e ∨ spec.factory? = some e →
      spec.property = false := by
    intro e given
    rw [← Bool.not_eq_true]
    intro isProperty
    obtain ⟨noDefault, noFactory⟩ := FieldSpec.apart_of_read accepted isProperty
    rw [noDefault, noFactory] at given
    rcases given with given | given <;> cases given
  refine ⟨ofSpec_eq_property_iff spec settings, FieldSpec.apart_of_read accepted, ?_, ?_,
    ofSpec_of_none spec settings, FieldSpec.hasLegalArity_of_read accepted⟩
  · intro e given
    have usual := ordinary e (Or.inl given)
    rw [ofSpec_of_default spec settings usual e given, ← isTagged_iff]
    refine ⟨fun tagged => if_pos tagged, fun untagged => if_neg untagged, ?_⟩
    intro other regrouped
    refine ⟨regrouped.hasLegalArity (FieldSpec.hasLegalArity_of_read accepted e (Or.inl given)), ?_⟩
    rw [← ofSpec_of_default spec settings usual e given]
    exact kind_ofSpec_of_regrouped spec settings usual e other given regrouped
  · intro callable silent given
    exact ofSpec_of_factory spec settings (ordinary callable (Or.inr given)) silent callable given

/-- `#[field(default = (factory(make)), default_factory = spare)]` -/
def wrapped : Attribute :=
  ⟨false, ⟨⟨false, ["field"]⟩, .list .paren [
    .ident "default", .punct '=' false, .paren [.ident "factory", .paren [.ident "make"]],
    .punct ',' false,
    .ident "default_factory", .punct '=' false, .ident "spare"]⟩⟩

def factoryCall : Expr :=
  .call [] (.path [] (.ofName "factory")) [(.path [] (.ofName "make"), false)]

def wrappedSpec : FieldSpec where
  default? := some (.paren [] factoryCall)
  factory? := some (.path [] (.ofName "spare"))
  metadata := []
  property := false

set_option maxRecDepth 1000 in
theorem read_wrapped : FieldSpec.read wrapped = .ok wrappedSpec := rfl

theorem ofSpec_agrees_with_read_wrapped :
    FieldSpec.read wrapped = .ok wrappedSpec ∧
    ofSpec wrappedSpec .usual = .factory (.paren [] factoryCall) ∧
    (ofSpec { wrappedSpec with default? := some factoryCall } .usual).kind = .factory ∧
    ∀ arguments, factoryCall.CallsFactory arguments → arguments.length = 1 := by
  have encloses : (Expr.paren [] factoryCall).Encloses factoryCall := .paren [] _ _ (.refl _)
  have calls : factoryCall.CallsFactory [(.path [] (.ofName "make"), false)] :=
    ⟨[], .path [] (.ofName "factory"), rfl, [], .ofName "factory", .mk "factory" .none,
      rfl, rfl, rfl⟩
  obtain ⟨_, _, resolves, _, _, single⟩ :=
    ofSpec_agrees_with_read wrappedSpec .usual wrapped read_wrapped
  obtain ⟨factory, _, alike⟩ := resolves _ rfl
  have tagged := factory ⟨factoryCall, encloses, Or.inl ⟨_, calls⟩⟩
  refine ⟨read_wrapped, tagged, ?_, fun arguments => single _ (Or.inl rfl) _ arguments encloses⟩
  rw [(alike factoryCall ⟨factoryCall, encloses, .refl _⟩).2, tagged]
  rfl

end Default

end ClassExpansion
