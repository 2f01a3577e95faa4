import ClassExpansion.Proofs.ClassModule
import ClassExpansion.Proofs.Construction

set_option autoImplicit false

/- What becomes of construction-only values. They are handed to the hook of the class itself, and a
class that has such values is refused where a base has a hook and the class has none. -/
namespace ClassExpansion

namespace ClassDecl

/-- A class without a hook option has its hook by the usual name. -/
theorem hook_of_not_hasHook (decl : ClassDecl) (without : decl.hasHook = false) :
    decl.hookText = usualHook ∧ decl.hook = .ok usualHook := by
  have undeclared : decl.hook? = none := by
    simp only [hasHook, Bool.or_eq_false_iff, Option.isSome_eq_false_iff,
      Option.isNone_iff_eq_none] at without
    exact without.1
  have text : decl.hookText = usualHook := by
    unfold hookText
    rw [undeclared]
  refine ⟨text, ?_⟩
  rw [decl.hook_of_isUsable (by rw [text]; decide), text]

/-- The class is refused since the base has a hook. The hook of the base has to have a name. -/
def refuse {α : Type} (decl base : ClassDecl) : Attempt α :=
  if Name.isUsable base.hookText then
    Attempt.fail (.missingHook decl.ident base.ident base.hookText usualHook)
  else Attempt.abort (.unusableName base.hookText)

theorem refuse_bind {α β : Type} (decl base : ClassDecl) (next : α → Attempt β) :
    decl.refuse base >>= next = decl.refuse base := by
  unfold refuse
  split
  · rfl
  · rfl

end ClassDecl

namespace ClassTable

variable (table : ClassTable) (decl : ClassDecl) (fields : FieldList)

/-- The base is the nearest class above `decl` whose hook is known. -/
def NearestHooked (base : ClassDecl) : Prop :=
  ∃ nearer farther, table.ancestry decl = .ok (decl :: nearer ++ base :: farther) ∧
    base.hasHook = true ∧ ∀ between ∈ nearer, between.hasHook = false

/-- The class has construction-only fields and no hook, but a base has one. -/
structure LacksHook (base : ClassDecl) : Prop where
  handed : fields.ofRole .initVar ≠ []
  without : decl.hasHook = false
  nearest : table.NearestHooked decl base

theorem exists_bases (line : List ClassDecl) (ancestry : table.ancestry decl = .ok line) :
    ∃ bases, line = decl :: bases :=
  ⟨line.tail, ((table.ancestry_eq_ok_iff decl line).mp ancestry).1.eq_cons⟩

theorem nearestHooked_iff (bases : List ClassDecl)
    (ancestry : table.ancestry decl = .ok (decl :: bases)) (base : ClassDecl) :
    table.NearestHooked decl base ↔ bases.find? (·.hasHook) = some base := by
  rw [List.find?_eq_some_iff_append]
  constructor
  · rintro ⟨nearer, farther, split, hooked, between⟩
    rw [ancestry] at split
    cases split
    exact ⟨hooked, nearer, farther, rfl, fun other member => by rw [between other member]; rfl⟩
  · rintro ⟨hooked, nearer, farther, rfl, between⟩
    refine ⟨nearer, farther, ancestry, hooked, fun other member => ?_⟩
    exact (Bool.not_eq_true' _).mp (between other member)

theorem LacksHook.base_unique {table : ClassTable} {decl base other : ClassDecl}
    {fields : FieldList} (lacks : table.LacksHook decl fields base)
    (alsoLacks : table.LacksHook decl fields other) : base = other := by
  obtain ⟨nearer, farther, ancestry, _⟩ := lacks.nearest
  have found := (table.nearestHooked_iff decl _ ancestry base).mp lacks.nearest
  have alsoFound := (table.nearestHooked_iff decl _ ancestry other).mp alsoLacks.nearest
  exact Option.some.inj (found.symm.trans alsoFound)

variable (bases : List ClassDecl) (ancestry : table.ancestry decl = .ok (decl :: bases))

include ancestry

theorem hookedBase?_eq : table.hookedBase? decl = .ok (bases.find? (·.hasHook)) := by
  unfold hookedBase?
  rw [(table.lineage_eq_ok_iff decl _).mpr ancestry]
  rfl

omit ancestry in
theorem nearestHooked_of_hookedBase? (base : ClassDecl)
    (found : table.hookedBase? decl = .ok (some base)) : table.NearestHooked decl base := by
  have searched := found
  unfold hookedBase? at searched
  simp only [Attempt.bind_eq_ok_iff] at searched
  obtain ⟨line, lineage, _⟩ := searched
  have ancestry := (table.lineage_eq_ok_iff decl line).mp lineage
  obtain ⟨bases, rfl⟩ := table.exists_bases decl line ancestry
  rw [table.hookedBase?_eq decl bases ancestry] at found
  exact (table.nearestHooked_iff decl bases ancestry base).mpr (Except.ok.inj found)

theorem requireOwnHook_of_lacksHook (base : ClassDecl) (lacks : table.LacksHook decl fields base) :
    table.requireOwnHook decl fields = decl.refuse base := by
  have found := (table.nearestHooked_iff decl bases ancestry base).mp lacks.nearest
  have ownHook := (decl.hook_of_not_hasHook lacks.without).2
  have handed := Bool.eq_false_iff.mpr (mt List.isEmpty_iff.mp lacks.handed)
  unfold requireOwnHook
  rw [lacks.without, handed, table.hookedBase?_eq decl bases ancestry, found]
  simp only [Bool.or_self, Bool.false_eq_true, ↓reduceIte, Attempt.ok_bind]
  unfold ClassDecl.refuse
  by_cases usable : Name.isUsable base.hookText = true
  · rw [if_pos usable, base.hook_of_isUsable usable, ownHook]
    rfl
  · rw [if_neg usable, base.hook_of_not_isUsable usable]
    rfl

theorem requireOwnHook_of_not_lacksHook (fine : ¬ ∃ base, table.LacksHook decl fields base) :
    table.requireOwnHook decl fields = .ok () := by
  unfold requireOwnHook
  by_cases content : (decl.hasHook || (fields.ofRole .initVar).isEmpty) = true
  · rw [if_pos content]
    rfl
  · rw [if_neg content, table.hookedBase?_eq decl bases ancestry]
    cases found : bases.find? (·.hasHook) with
    | none => rfl
    | some base =>
      simp only [Bool.not_eq_true, Bool.or_eq_false_iff] at content
      refine absurd ⟨base, ?_⟩ fine
      exact ⟨fun none => by simp [none] at content, content.1,
        (table.nearestHooked_iff decl bases ancestry base).mpr found⟩

end ClassTable

/-- The fault says that a class needs a hook of its own. -/
def Fault.IsMissingHook (fault : Fault) : Prop :=
  ∃ cls base baseHook ownHook, fault = .missingHook cls base baseHook ownHook

theorem Fault.OfCode.not_isMissingHook {fault : Fault} (ofCode : fault.OfCode) :
    ¬ fault.IsMissingHook := by
  rintro ⟨cls, base, baseHook, ownHook, rfl⟩
  rcases ofCode with (⟨_, same⟩ | ⟨_, same⟩) | ⟨_, same⟩ | ⟨_, _, _, same⟩
  · cases same
  · cases same
  · cases same
  · cases same

namespace ClassTable

variable (table : ClassTable) (decl : ClassDecl) (fields : FieldList)

/-- A class that is generated has its fields, and its code is written. -/
theorem exists_fields_of_generate (made : decl.hasOwnConstructor = false)
    (replacement : Replacement) (generated : table.generate decl = .ok replacement) :
    ∃ fields, FieldList.collect table decl = .ok fields ∧
      table.write decl fields = .ok replacement := by
  unfold generate at generated
  rw [made, if_neg Bool.false_ne_true] at generated
  simp only [Attempt.bind_eq_ok_iff] at generated
  obtain ⟨fields, collected, _, _, written⟩ := generated
  exact ⟨fields, collected, written⟩

theorem generate_of_collect (made : decl.hasOwnConstructor = false)
    (collected : FieldList.collect table decl = .ok fields) :
    table.generate decl =
      (table.requireOwnHook decl fields >>= fun _ => table.write decl fields) := by
  unfold generate
  rw [made, collected]
  rfl

variable (made : decl.hasOwnConstructor = false)
variable (collected : FieldList.collect table decl = .ok fields)

include made collected

theorem generate_of_lacksHook (base : ClassDecl) (lacks : table.LacksHook decl fields base) :
    table.generate decl = decl.refuse base := by
  obtain ⟨nearer, farther, ancestry, _⟩ := lacks.nearest
  rw [table.generate_of_collect decl fields made collected,
    table.requireOwnHook_of_lacksHook decl fields _ ancestry base lacks, ClassDecl.refuse_bind]

theorem generate_of_not_lacksHook (fine : ¬ ∃ base, table.LacksHook decl fields base) :
    table.generate decl = table.write decl fields := by
  obtain ⟨line, _, ancestry, _⟩ := FieldList.exists_of_collect table decl fields collected
  obtain ⟨bases, rfl⟩ := table.exists_bases decl line ancestry
  rw [table.generate_of_collect decl fields made collected,
    table.requireOwnHook_of_not_lacksHook decl fields bases ancestry fine, Attempt.ok_bind]

theorem write_of_generate (replacement : Replacement)
    (generated : table.generate decl = .ok replacement) :
    table.write decl fields = .ok replacement := by
  rw [table.generate_of_collect decl fields made collected, Attempt.bind_eq_ok_iff] at generated
  obtain ⟨_, _, written⟩ := generated
  exact written

/-- That a hook is missing is reported just where the class lacks one, provided that the hook of
the base has a name. -/
theorem reports_missingHook_iff :
    (∃ report ∈ (table.generate decl).reports, report.fault.IsMissingHook) ↔
      ∃ base, table.LacksHook decl fields base ∧ Name.isUsable base.hookText = true := by
  by_cases lacking : ∃ base, table.LacksHook decl fields base
  · obtain ⟨base, lacks⟩ := lacking
    rw [table.generate_of_lacksHook decl fields made collected base lacks, ClassDecl.refuse]
    by_cases usable : Name.isUsable base.hookText = true
    · rw [if_pos usable]
      refine ⟨fun _ => ⟨base, lacks, usable⟩, fun _ => ?_⟩
      exact ⟨_, List.mem_singleton_self _, _, _, _, _, rfl⟩
    · rw [if_neg usable]
      constructor
      · rintro ⟨report, member, _⟩
        cases member
      · rintro ⟨other, alsoLacks, usableHook⟩
        rw [lacks.base_unique alsoLacks] at usable
        exact absurd usableHook usable
  · rw [table.generate_of_not_lacksHook decl fields made collected lacking]
    constructor
    · rintro ⟨report, member, missing⟩
      -- What is wrong with the code is never that a hook is missing.
      have ofCode := (table.failsBy_write decl fields).kind_of_mem_reports report member
      exact absurd missing ofCode.not_isMissingHook
    · rintro ⟨base, lacks, _⟩
      exact absurd ⟨base, lacks⟩ lacking

end ClassTable

namespace Step

/-- The method that a step calls, with what it hands over. -/
def called? : Step → Option (String × List String)
  | call name arguments => some (name, arguments)
  | _ => none

/-- The class that a step gives a method, with the method. -/
def standIn? : Step → Option (String × Tokens)
  | standIn cls method => some (cls, method)
  | _ => none

end Step

/-- A method that takes the object and the parameters, and drops them. -/
def DropsAll (name : String) (parameters : List Parameter) (method : Tokens) : Prop :=
  ∃ typed declared, List.Forall₂ Parameter.IsWrittenAs parameters typed ∧
    Separated [.punct ',' false] typed declared ∧
    method = [.ident "fn", .ident name, .group .paren (.punct '&' false :: .ident "mut" ::
      .ident "self" :: .punct ',' false :: declared), .group .brace (parameters.flatMap fun p =>
        [.ident "let", .ident "_", .punct '=' false, .ident p.name, .punct ';' false])]

namespace Constructor

/-- The constructors call one method, once, with the parameters. The class is given a method that
stands in, directly before, unless it has the hook. -/
structure CallsHook (c : Constructor) (cls name : String) (parameters : List Parameter)
    (hooked : Prop) : Prop where
  once : (c.methods.flatMap (·.body)).filterMap Step.called? = [(name, parameters.map (·.name))]
  direct : hooked → (c.methods.flatMap (·.body)).filterMap Step.standIn? = [] ∧
    ∃ before, c.making.body =
      before ++ [.call name (parameters.map (·.name)), .giveObject]
  standsIn : ¬ hooked → ∃ method, DropsAll name parameters method ∧
    (c.methods.flatMap (·.body)).filterMap Step.standIn? = [(cls, method)] ∧
    ∃ before, c.making.body =
      before ++ [.standIn cls method, .call name (parameters.map (·.name)), .giveObject]

/-- What is sought among steps and found neither where the object is made nor where it is given is
found in the steps of the hook. -/
theorem filterMap_body {α : Type} (c : Constructor) (of : Step → Option α)
    (forward : ∀ names, of (.forward names) = none)
    (unpack : ∀ optionsName names, of (.unpack optionsName names) = none)
    (make : ∀ initializers, of (.make initializers) = none) (give : of .giveObject = none) :
    (c.methods.flatMap (·.body)).filterMap of = (c.hook.steps c.cls).filterMap of := by
  have object : c.objectSteps.filterMap of = (c.hook.steps c.cls).filterMap of := by
    simp [objectSteps, List.filterMap_append, make, give]
  unfold methods making
  split
  · rw [List.flatMap_singleton]
    exact object
  · simp [forwarding, plain, explicit, forward, unpack, object]

theorem callsHook (c : Constructor) :
    c.CallsHook c.cls c.hook.name c.hook.handed (c.hook.known = true) := by
  have calls := c.filterMap_body Step.called? (fun _ => rfl) (fun _ _ => rfl) (fun _ => rfl) rfl
  have standIns := c.filterMap_body Step.standIn? (fun _ => rfl) (fun _ _ => rfl) (fun _ => rfl) rfl
  have body : ∃ before, c.making.body = before ++ (c.hook.steps c.cls ++ [.giveObject]) := by
    refine ⟨(if c.keyword.isEmpty then [] else [.unpack c.optionsName c.keyword])
      ++ [.make c.initializers], ?_⟩
    rw [making_body, objectSteps, List.cons_append, List.append_assoc, List.singleton_append]
  unfold HookCall.steps at calls standIns body
  constructor
  case once =>
    rw [calls]
    split
    · rfl
    · rfl
  case direct =>
    intro known
    rw [if_pos known] at standIns body
    exact ⟨standIns, body⟩
  case standsIn =>
    intro unknown
    rw [if_neg unknown] at standIns body
    refine ⟨c.hook.method, ?_, standIns, body⟩
    exact ⟨_, _, forall₂_map _ _ c.hook.handed fun _ _ => rfl, separated_commaSeparated _, rfl⟩

end Constructor

/-- The options of the struct, whatever else is wrong with them. -/
def StructItem.options (s : StructItem) (arguments : Option Tokens) : Options :=
  ((ClassDecl.optionBodies s.attrs arguments).foldl OptionsRead.item ⟨[], .none, []⟩).options

/-- The class has the name of the struct and what its options say, and nothing is known of its
methods. -/
structure ClassDecl.IsRead (s : StructItem) (options : Options) (decl : ClassDecl) : Prop where
  ident : decl.ident = s.name
  base : decl.base? = options.extends?
  debug : decl.debug = options.debug?.getD false
  seen : decl.seen = ⟨false, false⟩

theorem ClassDecl.isRead_of_ofStruct (s : StructItem) (arguments : Option Tokens)
    (decl : ClassDecl) (read : ofStruct s arguments = .ok decl) :
    decl.IsRead s (s.options arguments) := by
  unfold ofStruct at read
  simp only [Attempt.bind_eq_ok_iff] at read
  obtain ⟨_, _, options, given, rest⟩ := read
  have sameOptions : s.options arguments = options := by
    unfold Options.read at given
    dsimp only at given
    split at given
    · exact Except.ok.inj given
    · cases given
  rw [sameOptions]
  split at rest
  · simp only [Attempt.bind_eq_ok_iff] at rest
    obtain ⟨_, impossible, _⟩ := rest
    cases impossible
  · simp only [Attempt.bind_eq_ok_iff] at rest
    obtain ⟨_, _, _, _, _, _, made⟩ := rest
    cases made
    exact ⟨rfl, rfl, rfl, rfl⟩

theorem ClassDecl.ident_seen_of_ofStruct (item : StructItem) (arguments : Option Tokens)
    (decl : ClassDecl) (read : ofStruct item arguments = .ok decl) :
    decl.ident = item.name ∧ decl.seen = ⟨false, false⟩ := by
  have isRead := isRead_of_ofStruct item arguments decl read
  exact ⟨isRead.ident, isRead.seen⟩

/-- By itself a class has no methods. -/
theorem ClassDecl.hasOwnConstructor_of_ofStruct (item : StructItem) (arguments : Option Tokens)
    (decl : ClassDecl) (read : ofStruct item arguments = .ok decl) :
    decl.hasOwnConstructor = false := by
  rw [hasOwnConstructor, (isRead_of_ofStruct item arguments decl read).seen]

namespace Expansion

variable (items : List Item) (decl : ClassDecl) (fields : FieldList)

/-- The class names its hook, or a method of the class in the module has the name of the hook. -/
def Hooked : Prop := decl.hook?.isSome = true ∨ decl.hookText ∈ methods items decl.ident

/-- The class has construction-only fields and no hook, but a base has one, and `base` is the
nearest such base. -/
structure Lacks (base : ClassDecl) : Prop where
  handed : fields.ofRole .initVar ≠ []
  without : ¬ Hooked items decl
  nearest : (classes items).NearestHooked (seen items decl) base

theorem hasHook_seen_iff (unseen : decl.seen = ⟨false, false⟩) :
    (seen items decl).hasHook = true ↔ Hooked items decl := by
  simp only [seen, ClassDecl.seeing, ClassDecl.hasHook, unseen, Bool.false_or, Bool.or_eq_true,
    Hooked]
  cases declared : decl.hook? with
  | some option => simp only [Option.isSome_some, true_or]
  | none =>
    have text : decl.hookText = ClassDecl.usualHook := by
      unfold ClassDecl.hookText
      rw [declared]
    have isNoConstructor : ClassDecl.isConstructorName ClassDecl.usualHook = false := by decide
    simp only [Option.isSome_none, Bool.false_eq_true, false_or, text, List.any_eq_true,
      Bool.and_eq_true, Bool.not_eq_true', beq_iff_eq]
    constructor
    · rintro ⟨method, member, _, rfl⟩
      exact member
    · intro member
      exact ⟨_, member, isNoConstructor, rfl⟩

theorem hasOwnConstructor_seen_iff (unseen : decl.seen = ⟨false, false⟩) :
    (seen items decl).hasOwnConstructor = true ↔
      ∃ method ∈ methods items decl.ident, ClassDecl.isConstructorName method = true := by
  simp only [seen, ClassDecl.seeing, ClassDecl.hasOwnConstructor, unseen, Bool.false_or,
    List.any_eq_true]

theorem lacksHook_seen_iff (unseen : decl.seen = ⟨false, false⟩) (base : ClassDecl) :
    (classes items).LacksHook (seen items decl) fields base ↔ Lacks items decl fields base := by
  have without : (seen items decl).hasHook = false ↔ ¬ Hooked items decl := by
    rw [← hasHook_seen_iff items decl unseen, Bool.not_eq_true]
  constructor
  · intro lacks
    exact ⟨lacks.handed, without.mp lacks.without, lacks.nearest⟩
  · intro lacks
    exact ⟨lacks.handed, without.mpr lacks.without, lacks.nearest⟩

/-- How the class of a module comes to its hook. It is refused just where it lacks one, and
otherwise its constructors call its own hook with all that is construction-only. -/
structure HandsOver : Prop where
  reported :
    (∃ report ∈ ((classes items).generate (seen items decl)).reports,
      report.fault.IsMissingHook) ↔
      ∃ base, Lacks items decl fields base ∧ Name.isUsable base.hookText = true
  refused : ∀ base, Lacks items decl fields base →
    (classes items).generate (seen items decl) =
      if Name.isUsable base.hookText then
        Attempt.fail (.missingHook decl.ident base.ident base.hookText ClassDecl.usualHook)
      else Attempt.abort (.unusableName base.hookText)
  calls : ∀ replacement, (classes items).generate (seen items decl) = .ok replacement →
    ∃ code, ClassCode.ofFields (classes items) (seen items decl) fields = .ok code ∧
      code.IsWrittenAs (.ofFields decl.ident fields) replacement.tokens ∧
      code.constructor.CallsHook decl.ident decl.hookText
        ((fields.ofRole .initVar).map .ofField) (Hooked items decl)
  observed : items.foldlM observeItem decl =
    if canSee items decl then .ok (seen items decl)
    else Attempt.abort (.unusableName decl.hookText)
  /-- Only the set of the methods counts. -/
  sameMethods : ∀ others : List Item,
    (∀ method, method ∈ methods items decl.ident ↔ method ∈ methods others decl.ident) →
    items.foldlM observeItem decl = others.foldlM observeItem decl

theorem handsOver_of_ofStruct (s : StructItem) (read : ClassDecl.ofStruct s none = .ok decl)
    (made : ∀ method ∈ methods items decl.ident, ClassDecl.isConstructorName method = false)
    (collected : FieldList.collect (classes items) (seen items decl) = .ok fields) :
    HandsOver items decl fields := by
  have unseen := (ClassDecl.ident_seen_of_ofStruct s none decl read).2
  have withoutOwn : (seen items decl).hasOwnConstructor = false := by
    rw [← Bool.not_eq_true, hasOwnConstructor_seen_iff items decl unseen]
    rintro ⟨method, member, isConstructor⟩
    rw [made method member] at isConstructor
    cases isConstructor
  have lacks := lacksHook_seen_iff items decl fields unseen
  constructor
  case reported =>
    rw [(classes items).reports_missingHook_iff _ fields withoutOwn collected]
    simp only [lacks]
  case refused =>
    intro base lacking
    exact (classes items).generate_of_lacksHook _ fields withoutOwn collected base
      ((lacks base).mpr lacking)
  case calls =>
    intro replacement generated
    have written := (classes items).write_of_generate _ fields withoutOwn collected _ generated
    obtain ⟨code, parts, _, isMade, shown⟩ :=
      (classes items).exists_written_of_write _ fields _ written
    have constructor := ClassCode.constructor_of_ofFields _ _ fields code parts
    have calls := code.constructor.callsHook
    rw [isMade.constructor.cls, Constructor.hook_of_ofFields _ fields _ constructor] at calls
    refine ⟨code, parts, shown, ?_⟩
    rw [← hasHook_seen_iff items decl unseen]
    exact calls
  case observed => exact foldlM_observeItem items decl
  case sameMethods => exact fun others same => foldlM_observeItem_congr decl items others same

/-- A book, which has a token that is not stored. -/
def bookStruct : StructItem :=
  classStruct "Book" (textOption "extends" "\"Item\"")
    (.named [⟨[], [], "title", .named "Text"⟩, ⟨[], [], "token", .marked "InitVar" (.named "u8")⟩])

/-- Items have a hook of their own name, and books have the usual one. -/
def hookedBook : List Item :=
  [.struct (classStruct "Item" (textOption "hook" "\"registered\"") (.named [])),
    .impl ⟨[], false, .named "Book", ["pages", "after_init"], []⟩, .struct bookStruct]

/-- The class of the struct in the module with its fields. -/
def classWithFields (items : List Item) (s : StructItem) : Attempt (ClassDecl × FieldList) := do
  let decl ← ClassDecl.ofStruct s none
  return (decl, ← FieldList.collect (classes items) (seen items decl))

theorem classWithFields_eq_ok_iff (s : StructItem) :
    classWithFields items s = .ok (decl, fields) ↔ ClassDecl.ofStruct s none = .ok decl ∧
      FieldList.collect (classes items) (seen items decl) = .ok fields := by
  unfold classWithFields
  simp only [Attempt.bind_eq_ok_iff]
  constructor
  · rintro ⟨_, read, _, found, same⟩
    cases same
    exact ⟨read, found⟩
  · rintro ⟨read, found⟩
    exact ⟨decl, read, fields, found, rfl⟩

set_option maxRecDepth 100000 in
theorem handsOver_hookedBook : ∃ decl fields replacement code,
    ClassDecl.ofStruct bookStruct none = .ok decl ∧
    (∀ method ∈ methods hookedBook decl.ident, ClassDecl.isConstructorName method = false) ∧
    FieldList.collect (classes hookedBook) (seen hookedBook decl) = .ok fields ∧
    (classes hookedBook).generate (seen hookedBook decl) = .ok replacement ∧
    ClassCode.ofFields (classes hookedBook) (seen hookedBook decl) fields = .ok code ∧
    code.IsWrittenAs (.ofFields decl.ident fields) replacement.tokens ∧
    (code.constructor.methods.flatMap (·.body)).filterMap Step.called? =
      [("after_init", ["token"])] := by
  obtain ⟨⟨decl, fields⟩, succeeds, described⟩ := Attempt.exists_of_map_value?
    (fun (decl, fields) => (decl.ident, decl.hookText, (fields.ofRole .initVar).map Field.ident,
      ((classes hookedBook).generate (seen hookedBook decl)).isOk))
    (classWithFields hookedBook bookStruct) ("Book", "after_init", ["token"], true)
    (by decide +kernel)
  obtain ⟨read, collected⟩ := (classWithFields_eq_ok_iff _ _ _ _).mp succeeds
  simp only [Prod.mk.injEq] at described
  obtain ⟨ident, hookText, handed, isOk⟩ := described
  obtain ⟨replacement, generated⟩ := Attempt.exists_of_isOk _ isOk
  have noConstructor : ∀ method ∈ methods hookedBook decl.ident,
      ClassDecl.isConstructorName method = false := by
    rw [ident]
    decide
  have handsOver := handsOver_of_ofStruct hookedBook decl fields bookStruct read noConstructor
    collected
  obtain ⟨code, parts, shown, calls⟩ := handsOver.calls replacement generated
  refine ⟨decl, fields, replacement, code, read, noConstructor, collected, generated, parts, shown,
    ?_⟩
  rw [calls.once, hookText, ← handed, List.map_map]
  rfl

def tokenStruct : StructItem :=
  classStruct "Sub" (textOption "extends" "\"Base\"")
    (.named [⟨[], [], "token", .marked "InitVar" (.named "u8")⟩])

/-- The base makes its objects itself, and there are blanks around the name of its hook. -/
def blankBase : List Item :=
  [.struct (classStruct "Base" (textOption "hook" "\" bob \"") (.named [])),
    .impl ⟨[], false, .named "Base", ["new"], []⟩, .struct tokenStruct]

set_option maxRecDepth 100000 in
/-- A class that lacks its hook goes unreported where the hook of its base is no name. -/
theorem unreported_blankBase : ∃ decl fields base,
    ClassDecl.ofStruct tokenStruct none = .ok decl ∧ methods blankBase decl.ident = [] ∧
    FieldList.collect (classes blankBase) (seen blankBase decl) = .ok fields ∧
    Lacks blankBase decl fields base ∧
    ¬ ∃ report ∈ ((classes blankBase).generate (seen blankBase decl)).reports,
      report.fault.IsMissingHook := by
  obtain ⟨⟨decl, fields⟩, succeeds, described⟩ := Attempt.exists_of_map_value?
    (fun (decl, fields) => (decl.ident, decl.hook?.isSome,
      (fields.ofRole .initVar).map Field.ident,
      ((classes blankBase).hookedBase? (seen blankBase decl)).value?.map (·.map (·.hookText)),
      ((classes blankBase).generate (seen blankBase decl)).reports.isEmpty))
    (classWithFields blankBase tokenStruct) ("Sub", false, ["token"], some (some " bob "), true)
    (by decide +kernel)
  obtain ⟨read, collected⟩ := (classWithFields_eq_ok_iff _ _ _ _).mp succeeds
  simp only [Prod.mk.injEq] at described
  obtain ⟨ident, undeclared, handed, hooked, silent⟩ := described
  have noMethods : methods blankBase decl.ident = [] := by
    rw [ident]
    rfl
  obtain ⟨found, searched, isBase⟩ := Attempt.exists_of_map_value? _ _ _ hooked
  obtain ⟨base, rfl, _⟩ := Option.map_eq_some_iff.mp isBase
  refine ⟨decl, fields, base, read, noMethods, collected, ⟨?_, ?_, ?_⟩, ?_⟩
  · intro none
    rw [none] at handed
    cases handed
  · rintro (declared | known)
    · rw [undeclared] at declared
      cases declared
    · rw [noMethods] at known
      cases known
  · exact (classes blankBase).nearestHooked_of_hookedBase? _ base searched
  · rintro ⟨report, member, _⟩
    rw [List.isEmpty_iff.mp silent] at member
    cases member

end Expansion

end ClassExpansion
