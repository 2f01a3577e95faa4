import ClassExpansion.Expansion
import ClassExpansion.Proofs.Attempt

set_option autoImplicit false

/- What a class learns from the methods of its module: whether its hook is among them, and whether
a constructor is. In which blocks and in which order they stand does not matter. -/
namespace ClassExpansion

namespace ClassDecl

/-- The class once the methods are known. -/
def seeing (decl : ClassDecl) (methods : List String) : ClassDecl :=
  { decl with seen := {
      hook := decl.seen.hook || methods.any fun m => !isConstructorName m && m == decl.hookText
      constructor := decl.seen.constructor || methods.any isConstructorName } }

/-- Whether each method can be compared with the hook. A constructor never is. -/
def canSee (decl : ClassDecl) (methods : List String) : Bool :=
  Name.isUsable decl.hookText || methods.all isConstructorName

theorem hook_of_isUsable (decl : ClassDecl) (usable : Name.isUsable decl.hookText = true) :
    decl.hook = .ok decl.hookText := if_pos usable

theorem hook_of_not_isUsable (decl : ClassDecl) (unusable : ¬ Name.isUsable decl.hookText = true) :
    decl.hook = Attempt.abort (.unusableName decl.hookText) := if_neg unusable

@[simp] theorem hookText_seeing (decl : ClassDecl) (methods : List String) :
    (decl.seeing methods).hookText = decl.hookText := rfl

@[simp] theorem ident_seeing (decl : ClassDecl) (methods : List String) :
    (decl.seeing methods).ident = decl.ident := rfl

@[simp] theorem seeing_nil (decl : ClassDecl) : decl.seeing [] = decl := by
  simp [seeing]

@[simp] theorem canSee_nil (decl : ClassDecl) : decl.canSee [] = true := by
  simp [canSee]

theorem seeing_append (decl : ClassDecl) (front back : List String) :
    (decl.seeing front).seeing back = decl.seeing (front ++ back) := by
  simp only [seeing, hookText, List.any_append, Bool.or_assoc]

theorem canSee_append (decl : ClassDecl) (front back : List String) :
    decl.canSee (front ++ back) = (decl.canSee front && (decl.seeing front).canSee back) := by
  simp only [canSee, hookText_seeing, List.all_append, Bool.or_and_distrib_left]

/-- One method is compared with the constructors first and then with the hook. -/
theorem observe_eq (decl : ClassDecl) (method : String) :
    decl.observe method =
      if decl.canSee [method] then .ok (decl.seeing [method])
      else Attempt.abort (.unusableName decl.hookText) := by
  by_cases isConstructor : isConstructorName method = true
  · simp only [observe, canSee, seeing, isConstructor, List.any_cons, List.any_nil, List.all_cons,
      List.all_nil, Bool.not_true, Bool.false_and, Bool.or_false, Bool.and_true, Bool.or_true,
      ↓reduceIte]
    rfl
  · have isOther : isConstructorName method = false := Bool.eq_false_iff.mpr isConstructor
    by_cases usable : Name.isUsable decl.hookText = true
    · have hook := decl.hook_of_isUsable usable
      simp only [observe, canSee, seeing, isOther, usable, hook, Attempt.ok_bind, List.any_cons,
        List.any_nil, Bool.not_false, Bool.true_and, Bool.or_false, Bool.true_or,
        Bool.false_eq_true, ↓reduceIte]
      by_cases isHook : (method == decl.hookText) = true
      · simp only [isHook, Bool.or_true, ↓reduceIte]
        rfl
      · simp only [isHook, Bool.or_false, Bool.false_eq_true, ↓reduceIte]
        rfl
    · have unusable : Name.isUsable decl.hookText = false := Bool.eq_false_iff.mpr usable
      have hook := decl.hook_of_not_isUsable usable
      simp only [observe, canSee, isOther, unusable, hook, List.all_cons, Bool.false_and,
        Bool.or_false, Bool.false_eq_true, ↓reduceIte]
      rfl

theorem foldlM_observe (decl : ClassDecl) (methods : List String) :
    methods.foldlM observe decl =
      if decl.canSee methods then .ok (decl.seeing methods)
      else Attempt.abort (.unusableName decl.hookText) := by
  induction methods generalizing decl with
  | nil =>
    simp only [List.foldlM_nil, canSee_nil, seeing_nil, ↓reduceIte]
    rfl
  | cons method rest ih =>
    -- What is seen changes from method to method, but the name of the hook stays.
    have split : method :: rest = [method] ++ rest := rfl
    rw [List.foldlM_cons, observe_eq, split, canSee_append, ← seeing_append]
    by_cases first : decl.canSee [method] = true
    · rw [if_pos first, Attempt.ok_bind, ih, first, Bool.true_and, hookText_seeing]
    · rw [if_neg first, Bool.eq_false_iff.mpr first, Bool.false_and]
      rfl

end ClassDecl

namespace Expansion

/-- The methods that the item has for the class. Traits are passed over. -/
def methodsOf (ident : String) : Item → List String
  | .impl item =>
    if item.ofTrait || plainName? item.self != some ident then [] else item.methods
  | _ => []

/-- The methods of the class among the items. -/
def methods (items : List Item) (ident : String) : List String := items.flatMap (methodsOf ident)

theorem observeItem_eq (decl : ClassDecl) (item : Item) :
    observeItem decl item = (methodsOf decl.ident item).foldlM ClassDecl.observe decl := by
  cases item with
  | impl item =>
    simp only [observeItem, methodsOf]
    split
    · rfl
    · rfl
  | struct item => rfl
  | module head items => rfl
  | other tokens => rfl

/-- Item by item and method by method, the class learns of all its methods. -/
theorem foldlM_observeItem (items : List Item) (decl : ClassDecl) :
    items.foldlM observeItem decl =
      if decl.canSee (methods items decl.ident) then .ok (decl.seeing (methods items decl.ident))
      else Attempt.abort (.unusableName decl.hookText) := by
  induction items generalizing decl with
  | nil =>
    simp only [List.foldlM_nil, methods, List.flatMap_nil, ClassDecl.canSee_nil,
      ClassDecl.seeing_nil, ↓reduceIte]
    rfl
  | cons item rest ih =>
    have split : methods (item :: rest) decl.ident =
        methodsOf decl.ident item ++ methods rest decl.ident := rfl
    rw [List.foldlM_cons, observeItem_eq, ClassDecl.foldlM_observe, split,
      ClassDecl.canSee_append, ← ClassDecl.seeing_append]
    by_cases first : decl.canSee (methodsOf decl.ident item) = true
    · rw [if_pos first, Attempt.ok_bind, ih, first, Bool.true_and, ClassDecl.hookText_seeing,
        ClassDecl.ident_seeing]
    · rw [if_neg first, Bool.eq_false_iff.mpr first, Bool.false_and]
      rfl

end Expansion

namespace ClassDecl

variable (decl : ClassDecl) (methods others : List String)

theorem seeing_congr (same : ∀ method, method ∈ methods ↔ method ∈ others) :
    decl.seeing methods = decl.seeing others := by
  have any (p : String → Bool) : methods.any p = others.any p := by
    rw [Bool.eq_iff_iff, List.any_eq_true, List.any_eq_true]
    simp only [same]
  unfold seeing
  rw [any, any]

theorem canSee_congr (same : ∀ method, method ∈ methods ↔ method ∈ others) :
    decl.canSee methods = decl.canSee others := by
  have all (p : String → Bool) : methods.all p = others.all p := by
    rw [Bool.eq_iff_iff, List.all_eq_true, List.all_eq_true]
    simp only [same]
  unfold canSee
  rw [all]

end ClassDecl

/-- Two modules with the same methods for a class, in whatever blocks and order, let it see the
same. -/
theorem Expansion.foldlM_observeItem_congr (decl : ClassDecl) (items others : List Item)
    (same : ∀ method, method ∈ methods items decl.ident ↔ method ∈ methods others decl.ident) :
    items.foldlM observeItem decl = others.foldlM observeItem decl := by
  rw [foldlM_observeItem, foldlM_observeItem, decl.seeing_congr _ _ same,
    decl.canSee_congr _ _ same]

end ClassExpansion
