import ClassExpansion.Proofs.FlagOption
import ClassExpansion.Proofs.LineReports
import ClassExpansion.Proofs.Standalone
import ClassExpansion.Proofs.Undebugged

set_option autoImplicit false

/- The debug flag and the expansion. Structs and modules that differ in flags alone are expanded to
the same tokens, or fail alike. The texts are those of the classes that have the flag and that are
generated, and each of them shows the code that is written for its class. -/
namespace ClassExpansion

/-- The structs differ in nothing but the debug flag, which either of them may have. -/
structure StructItem.SameButFlag (s : StructItem) (arguments : Option Tokens) (s' : StructItem)
    (arguments' : Option Tokens) : Prop where
  name : s.name = s'.name
  vis : s.vis = s'.vis
  generic : s.generic = s'.generic
  fields : s.fields = s'.fields
  attrs : s.attrs.filter (fun a => !a.isNamed "inity") =
    s'.attrs.filter fun a => !a.isNamed "inity"
  options : OptionStep.SameButFlag
    (OptionStep.ofBodies (ClassDecl.optionBodies s.attrs arguments))
    (OptionStep.ofBodies (ClassDecl.optionBodies s'.attrs arguments'))

/-- The struct with one more attribute, which gives the flag. -/
def StructItem.flagged (s : StructItem) : StructItem :=
  { s with attrs := s.attrs ++ [ClassDecl.argumentAttribute [.ident "debug"]] }

theorem ClassDecl.optionBodies_flagged (s : StructItem) (arguments : Option Tokens) :
    optionBodies s.flagged.attrs arguments =
      optionBodies s.attrs arguments ++ [.list .paren [.ident "debug"]] := by
  have last : [argumentAttribute [.ident "debug"]].filter
      (fun a => !(a.isNamed "inity" && a.isBare)) = [argumentAttribute [.ident "debug"]] := rfl
  unfold optionBodies StructItem.flagged
  dsimp only
  rw [List.filter_append, last]
  split
  · rw [← List.cons_append, List.filter_append, List.map_append]
    rfl
  · rw [List.filter_append, List.map_append]
    rfl

/-- Where a struct is without the flag, the flag can be switched on. -/
theorem StructItem.sameButFlag_flagged (s : StructItem) (arguments : Option Tokens)
    (plain : (OptionStep.ofBodies (ClassDecl.optionBodies s.attrs arguments)).filterMap
      OptionStep.flag? = []) :
    s.SameButFlag arguments s.flagged arguments := by
  have flag : OptionStep.ofBody (.list .paren [.ident "debug"]) =
      [.entry (.item ⟨false, ["debug"]⟩ .bare)] := rfl
  have steps : OptionStep.ofBodies (ClassDecl.optionBodies s.flagged.attrs arguments) =
      OptionStep.ofBodies (ClassDecl.optionBodies s.attrs arguments) ++
        [.entry (.item ⟨false, ["debug"]⟩ .bare)] := by
    rw [ClassDecl.optionBodies_flagged, OptionStep.ofBodies, List.flatMap_append,
      List.flatMap_singleton, flag]
    rfl
  have given : (OptionStep.ofBodies (ClassDecl.optionBodies s.flagged.attrs arguments)).filterMap
      OptionStep.flag? = [.bare] := by
    rw [steps, List.filterMap_append, plain]
    rfl
  refine ⟨rfl, rfl, rfl, rfl, ?_, ?_, ?_, ?_⟩
  · show _ = List.filter _ (s.attrs ++ _)
    rw [List.filter_append]
    exact (List.append_nil _).symm
  · rw [steps, List.filter_append]
    exact (List.append_nil _).symm
  · exact ⟨by rw [plain]; exact Nat.zero_le 1, by rw [plain]; exact nofun⟩
  · refine ⟨by rw [given]; exact Nat.le_refl 1, fun body member => ⟨true, ?_⟩⟩
    rw [given] at member
    rw [List.mem_singleton.mp member]
    rfl

/-- What is read as a class does not depend on the flag but for the flag of the class. -/
theorem ClassDecl.ofStruct_congr (s s' : StructItem) (arguments arguments' : Option Tokens)
    (same : s.SameButFlag arguments s' arguments') :
    (ofStruct s arguments).map undebugged = (ofStruct s' arguments').map undebugged := by
  have options := Options.read_congr _ _ same.options
  have named : namedFields s = namedFields s' := by
    unfold namedFields
    rw [same.fields]
  unfold ofStruct
  rw [named, same.generic, same.name, same.vis, same.attrs]
  cases namedFields s' with
  | error failure => rfl
  | ok fields =>
    simp only [Attempt.ok_bind]
    cases first : Options.read (optionBodies s.attrs arguments) with
    | error failure =>
      rw [first, eq_comm] at options
      rw [(Attempt.map_eq_error_iff _ _ _).mp options]
    | ok o =>
      rw [first, eq_comm] at options
      obtain ⟨o', second, unflagged⟩ := (Attempt.map_eq_ok_iff _ _ _).mp options
      rw [second]
      -- Apart from the flag, which is left out at last, the two are the same from here on.
      obtain ⟨base?, hook?, suffix?, front?, debug?⟩ := o
      obtain ⟨base', hook', suffix', front', debug'⟩ := o'
      obtain ⟨rfl, rfl, rfl, rfl, _⟩ := Options.mk.inj unflagged
      cases s'.generic with
      | true => rfl
      | false =>
        simp only [Attempt.ok_bind, Bool.false_eq_true, ↓reduceIte, Attempt.map_bind]
        rfl

/-- The items are the same, or they are classes that differ in the flag alone. -/
inductive Item.SameButFlag : Item → Item → Prop
  | same (item : Item) : SameButFlag item item
  | struct (s s' : StructItem) (marked : Expansion.isClass s = true)
      (marked' : Expansion.isClass s' = true) (same : s.SameButFlag none s' none) :
      SameButFlag (.struct s) (.struct s')

namespace Expansion.ModuleItem

/-- The entry without the flag. The item of a class is never written, so it does not count. -/
def undebugged (entry : ModuleItem) : ModuleItem :=
  match entry.decl? with
  | some decl => ⟨.other [], some decl.undebugged⟩
  | none => entry

theorem ofItem_congr (item item' : Item) (same : item.SameButFlag item') :
    (ofItem item).map undebugged = (ofItem item').map undebugged := by
  cases same with
  | same => rfl
  | struct s s' marked marked' same =>
    have classes := ClassDecl.ofStruct_congr s s' none none same
    have entry (s : StructItem) (marked : isClass s = true) : (ofItem (.struct s)).map undebugged =
        ((ClassDecl.ofStruct s none).map .undebugged).map fun decl => ⟨.other [], some decl⟩ := by
      rw [ofItem_of_some (.struct s) s (if_pos marked)]
      cases ClassDecl.ofStruct s none with
      | error failure => rfl
      | ok decl => rfl
    rw [entry s marked, entry s' marked', classes]

theorem observe_undebugged (items : List Item) (entry : ModuleItem) :
    observe items entry.undebugged = (observe items entry).map undebugged := by
  obtain ⟨item, decl?⟩ := entry
  rw [observe_eq, observe_eq]
  cases decl? with
  | none => rfl
  | some decl =>
    have visible : canSee items decl.undebugged = canSee items decl := rfl
    simp only [undebugged, Option.all_some, visible]
    split
    · rfl
    · rfl

theorem replace_undebugged (table : ClassTable) (entry : ModuleItem) :
    (replace table.undebugged entry.undebugged).map (·.tokens) =
      (replace table entry).map (·.tokens) := by
  obtain ⟨item, decl?⟩ := entry
  cases decl? with
  | none => rfl
  | some decl => exact table.generate_undebugged decl

theorem filterMap_decl?_undebugged (entries : List ModuleItem) :
    (entries.map undebugged).filterMap (·.decl?) =
      ClassTable.undebugged (entries.filterMap (·.decl?)) := by
  unfold ClassTable.undebugged
  rw [List.filterMap_map, List.map_filterMap]
  refine List.filterMap_congr fun entry _ => ?_
  obtain ⟨item, decl?⟩ := entry
  cases decl? with
  | none => rfl
  | some decl => rfl

end Expansion.ModuleItem

namespace Expansion

/-- What is made of the entries of a module that see their methods, given the reports on those that
cannot be read. -/
def generateAll (unread : List Report) (entries : List ModuleItem) :
    Attempt (List Replacement) := do
  let table : ClassTable := entries.filterMap (·.decl?)
  let (replacements, ungenerated) ← Attempt.sift (entries.map (ModuleItem.replace table))
  let reports := unread ++ ungenerated
  if reports.isEmpty then return replacements else throw (.reported reports)

theorem ofItems_eq (items : List Item) :
    ofItems items = Attempt.sift (items.map ModuleItem.ofItem) >>= fun (entries, unread) =>
      entries.mapM (ModuleItem.observe items) >>= generateAll unread := rfl

/-- The tokens that come in place of the items. -/
def tokensOf (parts : List Replacement) : List Tokens := parts.map (·.tokens)

theorem generateAll_eq (unread : List Report) (entries : List ModuleItem) :
    (generateAll unread entries).map tokensOf =
      Attempt.sift ((entries.map (ModuleItem.replace (entries.filterMap (·.decl?)))).map
        (Except.map (·.tokens))) >>= fun (tokens, found) =>
          if (unread ++ found).isEmpty then .ok tokens
          else .error (.reported (unread ++ found)) := by
  rw [Attempt.sift_map]
  unfold generateAll
  refine Attempt.map_bind_eq _ _ _ _ _ ?_
  rintro ⟨parts, found⟩
  dsimp only
  split
  · rfl
  · rfl

theorem generateAll_undebugged (unread : List Report) (entries : List ModuleItem) :
    (generateAll unread (entries.map .undebugged)).map tokensOf =
      (generateAll unread entries).map tokensOf := by
  rw [generateAll_eq, generateAll_eq, ModuleItem.filterMap_decl?_undebugged]
  simp only [List.map_map]
  congr 2
  exact List.map_congr_left fun entry _ => ModuleItem.replace_undebugged _ entry

/-- The tokens depend on the items as far as they are read, but for flags. -/
theorem tokensOf_ofItems (items : List Item) :
    (ofItems items).map tokensOf =
      Attempt.sift ((items.map ModuleItem.ofItem).map (Except.map .undebugged)) >>=
        fun (entries, unread) =>
          (entries.mapM (ModuleItem.observe items) >>= generateAll unread).map tokensOf := by
  rw [Attempt.sift_map, ofItems_eq]
  refine Attempt.map_bind_eq _ _ _ _ _ ?_
  rintro ⟨entries, unread⟩
  dsimp only
  rw [Attempt.mapM_map _ _ (ModuleItem.observe_undebugged items)]
  cases entries.mapM (ModuleItem.observe items) with
  | error failure => rfl
  | ok seen => exact (generateAll_undebugged unread seen).symm

theorem methods_congr (items items' : List Item) (same : List.Forall₂ Item.SameButFlag items items') :
    methods items = methods items' := by
  funext ident
  unfold methods
  induction same with
  | nil => rfl
  | @cons item item' rest rest' first _ ih =>
    have own : methodsOf ident item = methodsOf ident item' := by
      cases first with
      | same => rfl
      | struct => rfl
    rw [List.flatMap_cons, List.flatMap_cons, own, ih]

theorem ofItems_congr (items items' : List Item)
    (same : List.Forall₂ Item.SameButFlag items items') :
    (ofItems items).map tokensOf = (ofItems items').map tokensOf := by
  have methods := methods_congr items items' same
  have read : (items.map ModuleItem.ofItem).map (Except.map ModuleItem.undebugged) =
      (items'.map ModuleItem.ofItem).map (Except.map ModuleItem.undebugged) := by
    rw [List.map_map, List.map_map, map_eq_map_iff_forall₂]
    exact same.imp ModuleItem.ofItem_congr
  have observe : ModuleItem.observe items = ModuleItem.observe items' := by
    funext entry
    rw [ModuleItem.observe_eq, ModuleItem.observe_eq]
    unfold ModuleItem.seen canSee seen
    rw [methods]
  rw [tokensOf_ofItems, tokensOf_ofItems, read, observe]

/-- The tokens of a module are the same whichever of its classes have the flag. -/
theorem ofModule_congr (head : ModuleHead) (items items' : List Item) (arguments : Tokens)
    (same : List.Forall₂ Item.SameButFlag items items') :
    (ofModule head (some items) arguments).map (·.tokens) =
      (ofModule head (some items') arguments).map (·.tokens) := by
  by_cases given : arguments ≠ []
  · rw [ofModule_of_options head _ arguments given, ofModule_of_options head _ arguments given]
  · obtain rfl : arguments = [] := not_ne_iff.mp given
    have parts (items : List Item) : (ofModule head (some items) []).map (·.tokens) =
        ((ofItems items).map tokensOf).map fun tokens => head.tokensWith (some tokens.flatten) := by
      rw [ofModule_eq]
      cases ofItems items with
      | error failure => rfl
      | ok parts => rfl
    rw [parts, parts, ofItems_congr items items' same]

/-- What is written for a struct depends on the class but for its flag. -/
theorem tokens_ofStruct (s : StructItem) (arguments : Tokens) :
    (ofStruct s arguments).map (·.tokens) =
      (ClassDecl.ofStruct s (some arguments)).map ClassDecl.undebugged >>= fun decl =>
        if decl.base?.isSome then Attempt.fail .baseOutsideModule
        else (ClassTable.generate [decl] decl).map (·.tokens) := by
  unfold ofStruct
  refine Attempt.map_bind_eq _ _ _ _ _ fun decl => ?_
  have base : decl.undebugged.base? = decl.base? := rfl
  have generated : (ClassTable.generate [decl.undebugged] decl.undebugged).map (·.tokens) =
      (ClassTable.generate [decl] decl).map (·.tokens) :=
    ClassTable.generate_undebugged [decl] decl
  rw [base, generated]
  split
  · rfl
  · cases ClassTable.generate [decl] decl with
    | error failure => rfl
    | ok part => rfl

theorem ofStruct_congr (s s' : StructItem) (arguments arguments' : Tokens)
    (same : s.SameButFlag (some arguments) s' (some arguments')) :
    (ofStruct s arguments).map (·.tokens) = (ofStruct s' arguments').map (·.tokens) := by
  rw [tokens_ofStruct, tokens_ofStruct, ClassDecl.ofStruct_congr s s' _ _ same]

/-- The options of the struct have the flag. -/
def HasFlag (s : StructItem) (arguments : Option Tokens) : Prop :=
  (s.options arguments).debug? = some true

/-- The item is a class with the flag and without a constructor. -/
def Traced (items : List Item) (item : Item) : Prop :=
  ∃ s, classStruct? item = some s ∧ HasFlag s none ∧ ¬ HasConstructor items s

/-- A traced item comes with a text that shows what is written for its class. The others come
without a text. -/
structure Shows (items : List Item) (item : Item) (part : Replacement) : Prop where
  text : Traced items item → ∃ s decl text, classStruct? item = some s ∧
    ClassDecl.ofStruct s none = .ok decl ∧ part.debug? = some text ∧
    (classes items).Traces (seen items decl) part.tokens text
  none : ¬ Traced items item → part.debug? = none

theorem debug_eq_true_iff (s : StructItem) (arguments : Option Tokens) (decl : ClassDecl)
    (read : ClassDecl.ofStruct s arguments = .ok decl) :
    decl.debug = true ↔ HasFlag s arguments := by
  rw [(ClassDecl.isRead_of_ofStruct s arguments decl read).debug, Option.getD_eq_iff]
  unfold HasFlag
  simp only [Bool.false_eq_true, and_false, or_false]

theorem shows_of_replaces (items : List Item) (item : Item) (part : Replacement)
    (replaces : Replaces items item part) : Shows items item part := by
  cases replaces with
  | kept plain =>
    refine ⟨?_, fun _ => rfl⟩
    rintro ⟨s, isClass, _⟩
    rw [plain] at isClass
    cases isClass
  | generated s decl _ marked read visible generated =>
    have own := hasOwnConstructor_iff items s decl read
    have flag := debug_eq_true_iff s none decl read
    have traced : Traced items item ↔
        decl.debug = true ∧ (seen items decl).hasOwnConstructor = false := by
      rw [← Bool.not_eq_true, own, flag]
      constructor
      · rintro ⟨other, same, holds⟩
        rw [marked] at same
        cases same
        exact holds
      · intro holds
        exact ⟨s, marked, holds⟩
    constructor
    · intro holds
      obtain ⟨debug, made⟩ := traced.mp holds
      obtain ⟨text, given, shown⟩ :=
        (classes items).exists_text_of_generate _ part generated made debug
      exact ⟨s, decl, text, marked, read, given, shown⟩
    · intro silent
      exact (classes items).debug?_of_generate _ part generated (mt traced.mpr silent)

theorem exists_shows_of_ofModule (head : ModuleHead) (items : List Item) (arguments : Tokens)
    (expansion : Expansion) (expanded : ofModule head (some items) arguments = .ok expansion) :
    ∃ parts, List.Forall₂ (Replaces items) items parts ∧ List.Forall₂ (Shows items) items parts ∧
      assembled head parts = expansion := by
  by_cases given : arguments ≠ []
  · rw [ofModule_of_options head _ arguments given] at expanded
    cases expanded
  · obtain rfl : arguments = [] := not_ne_iff.mp given
    rw [ofModule_eq, Attempt.map_eq_ok_iff] at expanded
    obtain ⟨parts, done, whole⟩ := expanded
    have replaces := (ofItems_eq_ok_iff items parts).mp done
    exact ⟨parts, replaces, replaces.imp (shows_of_replaces items), whole⟩

theorem exists_text_of_ofStruct (s : StructItem) (arguments : Tokens) (expansion : Expansion)
    (expanded : ofStruct s arguments = .ok expansion) :
    ∃ decl, ClassDecl.ofStruct s (some arguments) = .ok decl ∧
      (HasFlag s (some arguments) →
        ∃ text, expansion.debug = [text] ∧ ClassTable.Traces [decl] decl expansion.tokens text) ∧
      (¬ HasFlag s (some arguments) → expansion.debug = []) := by
  obtain ⟨decl, part, read, _, generated, rfl⟩ :=
    exists_class_of_ofStruct s arguments expansion expanded
  have flag := debug_eq_true_iff s (some arguments) decl read
  have made := ClassDecl.hasOwnConstructor_of_ofStruct s (some arguments) decl read
  refine ⟨decl, read, fun traced => ?_, fun silent => ?_⟩
  · obtain ⟨text, given, shown⟩ :=
      ClassTable.exists_text_of_generate [decl] decl part generated made (flag.mpr traced)
    exact ⟨text, by rw [given]; rfl, shown⟩
  · have none := ClassTable.debug?_of_generate [decl] decl part generated fun both =>
      silent (flag.mp both.1)
    rw [none]
    rfl

/-- Structs and modules that differ in debug flags alone are expanded to the same tokens, or fail
with the same reports. In an expansion there is a text for each class that has the flag and no
constructor, in the order of the items, and it shows what is written for that class. -/
theorem debug_has_no_effect :
    (∀ s s' arguments arguments', s.SameButFlag (some arguments) s' (some arguments') →
      (ofStruct s arguments).map (·.tokens) = (ofStruct s' arguments').map (·.tokens)) ∧
    (∀ head items items' arguments, List.Forall₂ Item.SameButFlag items items' →
      (ofModule head (some items) arguments).map (·.tokens) =
        (ofModule head (some items') arguments).map (·.tokens)) ∧
    (∀ s arguments expansion, ofStruct s arguments = .ok expansion →
      ∃ decl, ClassDecl.ofStruct s (some arguments) = .ok decl ∧
        (HasFlag s (some arguments) →
          ∃ text, expansion.debug = [text] ∧ ClassTable.Traces [decl] decl expansion.tokens text) ∧
        (¬ HasFlag s (some arguments) → expansion.debug = [])) ∧
    ∀ head items arguments expansion, ofModule head (some items) arguments = .ok expansion →
      ∃ parts, List.Forall₂ (Replaces items) items parts ∧
        List.Forall₂ (Shows items) items parts ∧ assembled head parts = expansion :=
  ⟨ofStruct_congr, ofModule_congr, exists_text_of_ofStruct, exists_shows_of_ofModule⟩

def root : StructItem := classStruct "Base" [] (.named [])

/-- Of the two classes, the second has a constructor. -/
def madeSub : List Item :=
  [.struct root, .struct (derived "Sub" "Base"), .impl ⟨[], false, .named "Sub", ["new"], []⟩]

/-- The flag is switched on in both classes. -/
def flaggedSub : List Item :=
  [.struct root.flagged, .struct (derived "Sub" "Base").flagged,
    .impl ⟨[], false, .named "Sub", ["new"], []⟩]

theorem sameButFlag_flaggedSub : List.Forall₂ Item.SameButFlag madeSub flaggedSub :=
  .cons (.struct _ _ rfl rfl (root.sameButFlag_flagged none rfl))
    (.cons (.struct _ _ rfl rfl ((derived "Sub" "Base").sameButFlag_flagged none rfl))
      (.cons (.same _) .nil))

/-- Only the class without a constructor has a text. -/
theorem traced_flaggedSub : Traced flaggedSub (.struct root.flagged) ∧
    ¬ Traced flaggedSub (.struct (derived "Sub" "Base").flagged) := by
  constructor
  · have flag : (root.flagged.options none).debug? = some true := by decide +kernel
    refine ⟨_, rfl, flag, ?_⟩
    rintro ⟨method, member, _⟩
    cases member
  · rintro ⟨_, same, _, made⟩
    cases same
    exact made ⟨"new", by decide, by decide⟩

theorem debug_has_no_effect_flaggedSub :
    (∃ quiet loud text, ofModule ⟨[], [], []⟩ (some madeSub) [] = .ok quiet ∧
      ofModule ⟨[], [], []⟩ (some flaggedSub) [] = .ok loud ∧ loud.tokens = quiet.tokens ∧
      loud.debug = [text]) ∧
    ∃ quiet loud text, ofStruct root [] = .ok quiet ∧ ofStruct root.flagged [] = .ok loud ∧
      loud.tokens = quiet.tokens ∧ loud.debug = [text] := by
  obtain ⟨sameAlone, same, shownAlone, shown⟩ := debug_has_no_effect
  constructor
  · obtain ⟨loud, expanded⟩ := Attempt.exists_of_isOk
      (ofModule ⟨[], [], []⟩ (some flaggedSub) []) (by decide +kernel)
    have both := same ⟨[], [], []⟩ madeSub flaggedSub [] sameButFlag_flaggedSub
    obtain ⟨quiet, silent, tokens⟩ :=
      (Attempt.map_eq_ok_iff _ _ _).mp (both.trans (congrArg _ expanded))
    obtain ⟨parts, _, shows, rfl⟩ := shown _ _ _ _ expanded
    obtain ⟨first, _, base, later, rfl⟩ := List.forall₂_cons_left_iff.mp shows
    obtain ⟨second, _, sub, last, rfl⟩ := List.forall₂_cons_left_iff.mp later
    obtain ⟨third, _, block, nothing, rfl⟩ := List.forall₂_cons_left_iff.mp last
    obtain rfl := List.forall₂_nil_left_iff.mp nothing
    obtain ⟨_, _, text, _, _, given, _⟩ := base.text traced_flaggedSub.1
    have plain : third.debug? = none := block.none fun ⟨_, isClass, _⟩ => nomatch isClass
    refine ⟨quiet, _, text, silent, expanded, tokens.symm, ?_⟩
    simp only [assembled, List.filterMap_cons, List.filterMap_nil, given,
      sub.none traced_flaggedSub.2, plain]
  · obtain ⟨loud, expanded⟩ := Attempt.exists_of_isOk (ofStruct root.flagged []) (by decide +kernel)
    have both := sameAlone root root.flagged [] [] (root.sameButFlag_flagged (some []) rfl)
    obtain ⟨quiet, silent, tokens⟩ :=
      (Attempt.map_eq_ok_iff _ _ _).mp (both.trans (congrArg _ expanded))
    obtain ⟨_, _, traced, _⟩ := shownAlone _ _ _ expanded
    have flag : (root.flagged.options (some [])).debug? = some true := by decide +kernel
    obtain ⟨text, given, _⟩ := traced flag
    exact ⟨quiet, loud, text, silent, expanded, tokens.symm, given⟩

end Expansion

end ClassExpansion
