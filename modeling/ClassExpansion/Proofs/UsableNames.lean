import ClassExpansion.Proofs.MemberNames
import ClassExpansion.Proofs.NameReading

set_option autoImplicit false

/- Names that are made for a class. The texts of its options are read as source when the class is
read, but used as they are when it is written, so that a text may be read as a name that it is not.
Nothing else can stop the names of a class. -/
namespace ClassExpansion

namespace Text

theorem isIdentText_append_iff (front back : List Char) (named : isIdentText back = true) :
    isIdentText (front ++ back) = true ↔ front = [] ∨ isIdentText front = true := by
  cases front with
  | nil => exact ⟨fun _ => .inl rfl, fun _ => named⟩
  | cons c rest =>
    have inBack := ((isIdentText_iff back).mp named).2
    simp only [List.cons_append, isIdentText, List.all_append, Bool.and_eq_true,
      List.all_eq_true.mpr inBack, and_true, List.cons_ne_nil, false_or]

end Text

namespace Name

/-- Names that are never raw, with the mark of raw ones. -/
def barred : List String := Lexer.unrawable.map fun name => "r#" ++ name

theorem toList_raw (name : String) : ("r#" ++ name).toList = 'r' :: '#' :: name.toList := by
  rw [String.toList_append]
  rfl

theorem isUsable_of_marked (text : String) (rest : List Char)
    (marked : text.toList = 'r' :: '#' :: rest) :
    isUsable text = true ↔ Text.isIdentText rest = true ∧ text ∉ barred := by
  have spelled : text = "r#" ++ String.ofList rest := by
    apply String.toList_injective
    rw [toList_raw, marked, String.toList_ofList]
  have isBarred : text ∈ barred ↔ Lexer.unrawable.contains (String.ofList rest) = true := by
    rw [List.contains_iff_mem, barred, List.mem_map, spelled]
    constructor
    · rintro ⟨name, member, same⟩
      have letters := congrArg String.toList same
      rw [toList_raw, toList_raw, List.cons.injEq, List.cons.injEq] at letters
      exact String.toList_injective letters.2.2 ▸ member
    · exact fun member => ⟨_, member, rfl⟩
  unfold isUsable
  rw [marked]
  simp only [Bool.and_eq_true, Bool.not_eq_true', ← Bool.not_eq_true, isBarred]

theorem isUsable_of_unmarked (text : String) (unmarked : ¬ rawMark <+: text.toList) :
    (isUsable text = true ↔ Text.isIdentText text.toList = true) ∧ text ∉ barred := by
  constructor
  · unfold isUsable
    split
    · next rest marked => exact absurd ⟨rest, marked.symm⟩ unmarked
    · exact Iff.rfl
  · intro member
    obtain ⟨name, _, rfl⟩ := List.mem_map.mp member
    exact unmarked ⟨name.toList, (toList_raw name).symm⟩

theorem append_field_not_mem_barred (front : String) : front ++ "field" ∉ barred := by
  intro member
  have others : ∀ name ∈ barred, "field".toList.isSuffixOf name.toList = false := by decide +kernel
  have ends := List.isSuffixOf_iff_suffix.mpr (List.suffix_append front.toList "field".toList)
  rw [← String.toList_append, others _ member] at ends
  cases ends

/-- A text that begins a name begins every name, but for those that are never raw. -/
theorem isUsable_append_iff (front name : String)
    (named : Text.isIdentText name.toList = true) :
    isUsable (front ++ name) = true ↔
      isUsable (front ++ "field") = true ∧ front ++ name ∉ barred := by
  have isField : Text.isIdentText "field".toList = true := by decide
  have noHash := hash_not_mem name named
  have noBar := append_field_not_mem_barred front
  -- Only the text in front can hold the mark of a raw name, for names have no sign of it.
  by_cases marked : rawMark <+: front.toList
  · obtain ⟨rest, is⟩ := marked
    have long (back : String) : (front ++ back).toList = 'r' :: '#' :: (rest ++ back.toList) := by
      rw [String.toList_append, ← is]
      rfl
    rw [isUsable_of_marked _ _ (long name), isUsable_of_marked _ _ (long "field"),
      Text.isIdentText_append_iff rest _ named, Text.isIdentText_append_iff rest _ isField]
    simp only [noBar, not_false_eq_true, and_true]
  · have unmarked (back : String) (plain : '#' ∉ back.toList) :
        ¬ rawMark <+: (front ++ back).toList := by
      rw [String.toList_append, rawMark_prefix_append front.toList _ plain]
      exact marked
    obtain ⟨usable, free⟩ := isUsable_of_unmarked _ (unmarked name noHash)
    obtain ⟨fieldUsable, _⟩ := isUsable_of_unmarked _ (unmarked "field" (by decide))
    rw [usable, fieldUsable, String.toList_append, String.toList_append,
      Text.isIdentText_append_iff _ _ named, Text.isIdentText_append_iff _ _ isField]
    simp only [free, not_false_eq_true, and_true]

end Name

namespace Attempt

variable {α β : Type} {cause : Abort → Prop}

/-- An abort is for a cause of the kind. -/
def StopsBy (cause : Abort → Prop) (attempt : Attempt α) : Prop :=
  ∀ stop, attempt = .error (.aborted stop) → cause stop

theorem abort?_eq_some_iff (attempt : Attempt α) (stop : Abort) :
    attempt.abort? = some stop ↔ attempt = .error (.aborted stop) := by
  rcases attempt with (list | cause) | value
  · simp only [abort?, reduceCtorEq, Except.error.injEq]
  · simp only [abort?, Option.some.injEq, Except.error.injEq, Failure.aborted.injEq]
  · simp only [abort?, reduceCtorEq]

theorem StopsBy.abort?_eq_none {attempt : Attempt α} (never : attempt.StopsBy fun _ => False) :
    attempt.abort? = none := by
  cases stopped : attempt.abort? with
  | none => rfl
  | some stop => exact (never stop ((abort?_eq_some_iff attempt stop).mp stopped)).elim

theorem stopsBy_ok (value : α) : StopsBy cause (.ok value : Attempt α) := nofun

theorem stopsBy_fail (fault : Fault) : StopsBy cause (fail fault : Attempt α) := nofun

theorem stopsBy_abort (stop : Abort) (is : cause stop) :
    StopsBy cause (abort stop : Attempt α) := by
  rintro _ ⟨⟩
  exact is

theorem stopsBy_lift (found : Except Fault α) : StopsBy cause (lift found) := by
  cases found with
  | ok value => exact stopsBy_ok value
  | error fault => exact stopsBy_fail fault

theorem stopsBy_name (text : String)
    (bad : Name.isUsable text = false → cause (.unusableName text)) :
    StopsBy cause (name text) := by
  unfold name
  split
  · exact stopsBy_ok text
  · next unusable => exact stopsBy_abort _ (bad (Bool.not_eq_true _ ▸ unusable))

theorem stopsBy_bind (first : Attempt α) (next : α → Attempt β) (stops : first.StopsBy cause)
    (onward : ∀ value, first = .ok value → (next value).StopsBy cause) :
    (first >>= next).StopsBy cause := by
  cases first with
  | error failure => exact fun stop aborted => stops stop (congrArg _ (Except.error.inj aborted))
  | ok value => exact onward value rfl

theorem stopsBy_mapM (f : α → Attempt β) (inputs : List α)
    (each : ∀ input ∈ inputs, (f input).StopsBy cause) : (inputs.mapM f).StopsBy cause := by
  induction inputs with
  | nil => exact stopsBy_ok []
  | cons input rest ih =>
    rw [List.mapM_cons]
    refine stopsBy_bind _ _ (each input List.mem_cons_self) fun first _ => ?_
    refine stopsBy_bind _ _ ?_ fun more _ => stopsBy_ok _
    exact ih fun other member => each other (List.mem_cons_of_mem _ member)

theorem stopsBy_gather (attempts : List (Attempt α))
    (each : ∀ attempt ∈ attempts, attempt.StopsBy cause) : (gather attempts).StopsBy cause := by
  intro stop aborted
  cases stopped : attempts.findSome? abort? with
  | some other =>
    rw [gather_of_abort attempts other stopped] at aborted
    cases aborted
    obtain ⟨attempt, member, found⟩ := List.exists_of_findSome?_eq_some stopped
    refine each attempt member stop ?_
    rcases attempt with (list | cause) | value
    · cases found
    · cases found
      rfl
    · cases found
  | none =>
    rw [gather_of_going attempts stopped] at aborted
    split at aborted
    · cases aborted
    · cases aborted

end Attempt

open Attempt (stopsBy_ok stopsBy_fail stopsBy_abort stopsBy_lift stopsBy_name stopsBy_bind
  stopsBy_mapM stopsBy_gather)

/-- A text of which a name is made for the class, though it cannot be used as one. -/
inductive ClassDecl.Misnames (decl : ClassDecl) (line : List ClassDecl) : String → Prop
  | hook (base : ClassDecl) (member : base ∈ line)
      (unusable : Name.isUsable base.hookText = false) : Misnames decl line base.hookText
  | shadow (declared : ClassTable.Declared) (member : declared ∈ ClassTable.declarations line)
      (unusable : Name.isUsable (decl.settings.shadowText declared.field.name) = false) :
      Misnames decl line (decl.settings.shadowText declared.field.name)

/-- If it is a name that stops the class, it is made of such a text. -/
def ClassDecl.OfName (decl : ClassDecl) (line : List ClassDecl) (stop : Abort) : Prop :=
  ∀ text, stop = .unusableName text → decl.Misnames line text

namespace ClassTable

variable (table : ClassTable) (decl : ClassDecl) (line : List ClassDecl)

theorem stopsBy_attribute? (owner : ClassDecl) (name : String) (cause : Abort → Prop) :
    (table.attribute? owner name).StopsBy cause :=
  stopsBy_bind _ _ (stopsBy_lift _) fun _ _ => stopsBy_ok _

theorem stopsBy_hook (base : ClassDecl) (member : base ∈ line) :
    base.hook.StopsBy (decl.OfName line) := by
  refine stopsBy_name _ fun unusable text same => ?_
  cases same
  exact .hook base member unusable

theorem stopsBy_resolve (declared : Declared) (member : declared ∈ declarations line) :
    (Field.resolve table decl.settings declared).StopsBy (decl.OfName line) := by
  unfold Field.resolve
  refine stopsBy_bind _ _ (table.stopsBy_attribute? _ _ _) fun _ _ => ?_
  refine stopsBy_bind _ _ (stopsBy_lift _) fun _ _ => ?_
  refine stopsBy_bind _ _ (stopsBy_name _ fun unusable text same => ?_) fun _ _ => stopsBy_ok _
  cases same
  exact .shadow declared member unusable

/-- The capitals of a name are a name, so that no constant stops the class. -/
theorem stopsBy_constant (field : Field) (named : Name.isUsable field.ident = true)
    (cause : Abort → Prop) : (ConstantCode.ofField? table decl field).StopsBy cause := by
  have usable := Name.isUsable_of_isIdentText _ (Text.isIdentText_upperSnake field.name
    (Name.isIdentText_unraw _ named))
  unfold ConstantCode.ofField?
  refine stopsBy_bind _ _ (table.stopsBy_attribute? _ _ _) fun found _ => ?_
  split
  · exact stopsBy_ok _
  · split
    · refine stopsBy_bind _ _ (stopsBy_name _ fun unusable => ?_) fun _ _ => stopsBy_ok _
      rw [usable] at unusable
      cases unusable
    · exact stopsBy_ok _
    · exact stopsBy_fail _
    · exact stopsBy_fail _

theorem stopsBy_constants (fields : FieldList)
    (named : ∀ field ∈ fields, Name.isUsable field.ident = true) :
    (ConstantCode.ofFields table decl fields).StopsBy (decl.OfName line) := by
  unfold ConstantCode.ofFields
  refine stopsBy_bind _ _ (stopsBy_gather _ fun attempt member => ?_) fun _ _ => stopsBy_ok _
  obtain ⟨field, inRole, rfl⟩ := List.mem_map.mp member
  exact table.stopsBy_constant decl field (named field (List.mem_filter.mp inRole).1) _

/-- What the directory is made of can lack a written form, but it makes no names. -/
theorem stopsBy_directory (directory : ClassDirectory) :
    directory.tokens.StopsBy (decl.OfName line) := by
  unfold ClassDirectory.tokens
  refine stopsBy_bind _ _ (stopsBy_mapM _ _ fun info _ => ?_) fun _ _ => stopsBy_ok _
  unfold FieldInfo.tokens
  refine stopsBy_bind _ _ ?_ fun _ _ => stopsBy_ok _
  unfold FieldInfo.metadataTokens
  split
  · exact stopsBy_ok _
  · refine stopsBy_bind _ _ (stopsBy_mapM _ _ fun entry _ => ?_) fun _ _ => stopsBy_ok _
    refine stopsBy_bind _ _ ?_ fun _ _ => stopsBy_ok _
    unfold MetaValue.tokens
    split
    · exact stopsBy_ok _
    · exact stopsBy_ok _
    · split
      · exact stopsBy_ok _
      · exact stopsBy_abort _ nofun
    · exact stopsBy_ok _

variable (ancestry : table.ancestry decl = .ok line)
include ancestry

theorem stopsBy_collect : (FieldList.collect table decl).StopsBy (decl.OfName line) := by
  unfold FieldList.collect
  rw [(table.lineage_eq_ok_iff decl line).mpr ancestry, Attempt.ok_bind]
  refine stopsBy_bind _ _ (stopsBy_gather _ fun attempt member => ?_) fun _ _ => stopsBy_ok _
  obtain ⟨declared, inLine, rfl⟩ := List.mem_map.mp member
  exact table.stopsBy_resolve decl line declared inLine

theorem mem_own : decl ∈ line := by
  rw [((table.ancestry_eq_ok_iff decl line).mp ancestry).1.eq_cons]
  exact List.mem_cons_self

theorem stopsBy_requireOwnHook (fields : FieldList) :
    (table.requireOwnHook decl fields).StopsBy (decl.OfName line) := by
  unfold requireOwnHook
  split
  · exact stopsBy_ok ()
  · unfold hookedBase?
    rw [(table.lineage_eq_ok_iff decl line).mpr ancestry]
    simp only [Attempt.ok_bind]
    refine stopsBy_bind _ _ (stopsBy_ok _) fun found is => ?_
    have hooked := Except.ok.inj is
    split
    · exact stopsBy_ok ()
    · next base =>
      have member := List.mem_of_mem_drop (List.mem_of_find?_eq_some hooked)
      refine stopsBy_bind _ _ (stopsBy_hook decl line base member) fun _ _ => ?_
      exact stopsBy_bind _ _ (stopsBy_hook decl line decl (table.mem_own decl line ancestry))
        fun _ _ => stopsBy_fail _

theorem stopsBy_write (fields : FieldList)
    (named : ∀ field ∈ fields, Name.isUsable field.ident = true) :
    (table.write decl fields).StopsBy (decl.OfName line) := by
  unfold write ClassCode.ofFields
  refine stopsBy_bind _ _ ?_ fun code _ => ?_
  · unfold Constructor.ofFields
    refine stopsBy_bind _ _ ?_ fun constructor _ => ?_
    · have own := table.mem_own decl line ancestry
      exact stopsBy_bind _ _ (stopsBy_hook decl line decl own) fun _ _ => stopsBy_ok _
    refine stopsBy_bind _ _ ?_ fun _ _ => ?_
    · unfold Constructor.check
      split
      · exact stopsBy_ok _
      · exact stopsBy_fail _
    exact stopsBy_bind _ _ (table.stopsBy_constants decl line fields named)
      fun _ _ => stopsBy_ok _
  · refine stopsBy_bind _ _ ?_ fun _ _ => stopsBy_ok _
    exact stopsBy_bind _ _ (stopsBy_directory decl line _) fun _ _ => stopsBy_ok _

theorem stopsBy_generate
    (named : ∀ c ∈ decl :: table, ∀ field ∈ c.fields, Name.isUsable field.ident = true) :
    (table.generate decl).StopsBy (decl.OfName line) := by
  unfold generate
  split
  · exact stopsBy_ok _
  · refine stopsBy_bind _ _ (table.stopsBy_collect decl line ancestry) fun fields collected => ?_
    refine stopsBy_bind _ _ (table.stopsBy_requireOwnHook decl line ancestry fields) fun _ _ => ?_
    exact table.stopsBy_write decl line ancestry fields fun field member =>
      (table.isUsable_ident_of_collect decl fields collected named field member).1

omit ancestry

/-- Only the name of a hook in the line, or that of a stored property, can be what no name is made
of. -/
theorem exists_misnamed
    (named : ∀ c ∈ decl :: table, ∀ field ∈ c.fields, Name.isUsable field.ident = true)
    (text : String) (stopped : (table.generate decl).abort? = some (.unusableName text)) :
    ∃ line, table.ancestry decl = .ok line ∧ decl.Misnames line text := by
  have aborted := (Attempt.abort?_eq_some_iff _ _).mp stopped
  cases ancestry : table.ancestry decl with
  | ok line => exact ⟨line, rfl, table.stopsBy_generate decl line ancestry named _ aborted text rfl⟩
  | error fault =>
    unfold generate FieldList.collect lineage at aborted
    rw [ancestry] at aborted
    split at aborted
    · cases aborted
    · cases aborted

end ClassTable

theorem FieldDecl.stopsBy_ofField (field : StructField) (cause : Abort → Prop) :
    (ofField field).StopsBy cause := by
  have reads (attrs : List Attribute) : ∀ found, (readSpec found attrs).StopsBy cause := by
    induction attrs with
    | nil => exact fun found => stopsBy_ok found
    | cons a rest ih =>
      intro found
      unfold readSpec
      split
      · exact ih found
      · split
        · exact stopsBy_fail _
        · split
          · exact ih _
          · exact stopsBy_fail _
  exact stopsBy_bind _ _ (reads field.attrs none) fun _ _ => stopsBy_ok _

theorem Options.stopsBy_read (bodies : List MetaBody) (cause : Abort → Prop) :
    (Options.read bodies).StopsBy cause := by
  unfold Options.read
  dsimp only
  split
  · exact stopsBy_ok _
  · exact nofun

theorem Settings.stopsBy_check (settings : Settings) (cause : Abort → Prop) :
    settings.check.StopsBy cause := by
  unfold Settings.check
  split
  · exact stopsBy_fail _
  · split
    · exact stopsBy_fail _
    · exact stopsBy_ok _

namespace ClassDecl

theorem stopsBy_namedFields (item : StructItem) (cause : Abort → Prop) :
    (namedFields item).StopsBy cause := by
  unfold namedFields
  split
  · exact stopsBy_ok _
  · exact stopsBy_fail _

theorem stopsBy_checkHook (hook? : Option HookOption) (cause : Abort → Prop) :
    (checkHook hook?).StopsBy cause := by
  unfold checkHook
  split
  · split
    · exact stopsBy_fail _
    · exact stopsBy_ok _
  · exact stopsBy_ok _

/-- The settings of a class with the options. -/
def settingsOf (options : Options) : Settings where
  factorySuffix := options.factorySuffix?.getD Settings.usual.factorySuffix
  shadowPrefix := options.shadowPrefix?.getD Settings.usual.shadowPrefix

variable (item : StructItem) (arguments : Option Tokens)

/-- No names are made while a class is read. -/
theorem abort?_ofStruct : (ofStruct item arguments).abort? = none := by
  have never : (ofStruct item arguments).StopsBy fun _ => False := by
    unfold ofStruct
    refine stopsBy_bind _ _ (stopsBy_namedFields item _) fun fields _ => ?_
    refine stopsBy_bind _ _ (Options.stopsBy_read _ _) fun options _ => ?_
    dsimp only
    split
    · exact stopsBy_bind _ _ (stopsBy_fail _) nofun
    · refine stopsBy_bind _ _ (Settings.stopsBy_check _ _) fun _ _ => ?_
      refine stopsBy_bind _ _ (stopsBy_checkHook _ _) fun _ _ => ?_
      refine stopsBy_bind _ _ (stopsBy_gather _ fun attempt member => ?_) fun _ _ => stopsBy_ok _
      obtain ⟨field, _, rfl⟩ := List.mem_map.mp member
      exact FieldDecl.stopsBy_ofField field _
  exact never.abort?_eq_none

/-- A text among the options of a class that is not read as a name, and how it is faulted. -/
inductive Misreads (options : Options) : Fault → Prop
  | shadow (unread : readName? ((settingsOf options).shadowText "field") = none) :
      Misreads options (.shadowPrefix (settingsOf options).shadowPrefix)
  | hook (text : String) (given : options.hook? = some (.named text))
      (unread : readName? text = none) : Misreads options (.hookText text)

/-- The struct has named fields and its options are read, so that it becomes a class unless a text
or a field is refused. -/
structure Eligible (fields : List StructField) (options : Options) : Prop where
  named : item.fields = .named fields
  given : Options.read (optionBodies item.attrs arguments) = .ok options
  concrete : item.generic = false
  suffix : (settingsOf options).factorySuffix.isEmpty = false

section Eligible

variable {item arguments} {fields : List StructField} {options : Options}
variable (eligible : Eligible item arguments fields options)
include eligible

theorem Eligible.ofStruct_eq :
    ofStruct item arguments =
      ((settingsOf options).check >>= fun _ => checkHook options.hook? >>= fun _ =>
        (Attempt.gather (fields.map FieldDecl.ofField)).map fun decls =>
          ⟨item.name, item.vis, item.attrs.filter fun a => !a.isNamed "inity", decls,
            options.extends?, options.hook?, settingsOf options, options.debug?.getD false,
            ⟨false, false⟩⟩) := by
  unfold ofStruct namedFields
  rw [eligible.named, eligible.given, eligible.concrete]
  rfl

theorem Eligible.ofStruct_of_misreads (fault : Fault) (misreads : Misreads options fault) :
    ∃ first, Misreads options first ∧ ofStruct item arguments = Attempt.fail first := by
  rw [eligible.ofStruct_eq]
  unfold Settings.check
  rw [eligible.suffix, if_neg Bool.false_ne_true]
  cases shadow : readName? ((settingsOf options).shadowText "field") with
  | none => exact ⟨_, .shadow shadow, rfl⟩
  | some name =>
    cases misreads with
    | shadow unread =>
      rw [unread] at shadow
      cases shadow
    | hook text hooked unread =>
      refine ⟨_, .hook text hooked unread, ?_⟩
      unfold checkHook
      simp only [hooked, unread]
      rfl

theorem Eligible.exists_class (reads : ∀ fault, ¬ Misreads options fault) (decls : List FieldDecl)
    (gathered : Attempt.gather (fields.map FieldDecl.ofField) = .ok decls) :
    ∃ decl, ofStruct item arguments = .ok decl ∧ decl.fields = decls ∧
      decl.settings = settingsOf options ∧ decl.hook? = options.hook? := by
  have checked : (settingsOf options).check = .ok () := by
    unfold Settings.check
    rw [eligible.suffix, if_neg Bool.false_ne_true, if_neg]
    · rfl
    · exact fun unread => reads _ (.shadow (Option.isNone_iff_eq_none.mp unread))
  have hooked : checkHook options.hook? = .ok () := by
    unfold checkHook
    split
    · next text given =>
      rw [if_neg]
      · rfl
      · exact fun unread => reads _ (.hook text given (Option.isNone_iff_eq_none.mp unread))
    · rfl
  rw [eligible.ofStruct_eq, checked, hooked, gathered]
  exact ⟨_, rfl, rfl, rfl, rfl⟩

end Eligible

variable (decl : ClassDecl)

/-- The texts of an accepted class are read as names. -/
theorem reads_of_ofStruct (read : ofStruct item arguments = .ok decl) :
    (∃ name, readName? (decl.settings.shadowText "field") = some name) ∧
      ∃ name, readName? decl.hookText = some name := by
  unfold ofStruct at read
  simp only [Attempt.bind_eq_ok_iff] at read
  obtain ⟨_, _, options, _, rest⟩ := read
  split at rest
  · simp only [Attempt.bind_eq_ok_iff] at rest
    obtain ⟨_, impossible, _⟩ := rest
    cases impossible
  · simp only [Attempt.bind_eq_ok_iff] at rest
    obtain ⟨_, checked, _, hooked, _, _, made⟩ := rest
    cases made
    constructor
    · unfold Settings.check at checked
      split at checked
      · cases checked
      · split at checked
        · cases checked
        · next read => exact Option.ne_none_iff_exists'.mp (mt Option.isNone_iff_eq_none.mpr read)
    · unfold hookText
      dsimp only
      unfold checkHook at hooked
      split at hooked
      · split at hooked
        · cases hooked
        · next read => exact Option.ne_none_iff_exists'.mp (mt Option.isNone_iff_eq_none.mpr read)
      · exact ⟨usualHook, by decide +kernel⟩

/-- What names are made of for an accepted class. Texts are taken as they are, so that a name is
made of one if it is the name that was read of it, and nothing more. -/
structure MakesNames : Prop where
  hook : ∃ name, readName? decl.hookText = some name ∧ decl.hook =
    if decl.hookText = name then .ok name else Attempt.abort (.unusableName decl.hookText)
  observed : ∀ method text, (decl.observe method).abort? = some (.unusableName text) →
    text = decl.hookText ∧ Name.isUsable text = false
  shadow : ∃ name, readName? (decl.settings.shadowText "field") = some name ∧
    ∀ field : String, Text.isIdentText field.toList = true →
      decl.settings.shadow field =
        if decl.settings.shadowText "field" = name ∧
          decl.settings.shadowText field ∉ Name.barred then .ok (decl.settings.shadowText field)
        else Attempt.abort (.unusableName (decl.settings.shadowText field))
  constant : ∀ (table : ClassTable) (field : Field), Name.isUsable field.ident = true →
    (ConstantCode.ofField? table decl field).abort? = none
  generated : ∀ table : ClassTable,
    (∀ c ∈ decl :: table, ∀ field ∈ c.fields, Name.isUsable field.ident = true) →
    ∀ text, (table.generate decl).abort? = some (.unusableName text) →
      ∃ line, table.ancestry decl = .ok line ∧ decl.Misnames line text

theorem observe_aborts (method text : String)
    (stopped : (decl.observe method).abort? = some (.unusableName text)) :
    text = decl.hookText ∧ Name.isUsable text = false := by
  have stops : (decl.observe method).StopsBy fun stop => ∀ text, stop = .unusableName text →
      text = decl.hookText ∧ Name.isUsable text = false := by
    unfold observe
    split
    · exact stopsBy_ok _
    · refine stopsBy_bind _ _ (stopsBy_name _ fun unusable text same => ?_) fun _ _ => ?_
      · cases same
        exact ⟨rfl, unusable⟩
      · split
        · exact stopsBy_ok _
        · exact stopsBy_ok _
  exact stops _ ((Attempt.abort?_eq_some_iff _ _).mp stopped) text rfl

theorem makesNames_of_ofStruct (read : ofStruct item arguments = .ok decl) :
    decl.MakesNames := by
  obtain ⟨⟨shadowName, shadowRead⟩, hookName, hookRead⟩ :=
    reads_of_ofStruct item arguments decl read
  have hookUsable := isUsable_iff_of_readName? decl.hookText hookName hookRead
  have shadowUsable := isUsable_iff_of_readName? _ shadowName shadowRead
  refine ⟨⟨hookName, hookRead, ?_⟩, decl.observe_aborts, ⟨shadowName, shadowRead, ?_⟩, ?_, ?_⟩
  · by_cases same : decl.hookText = hookName
    · rw [if_pos same, decl.hook_of_isUsable (hookUsable.mpr same), same]
    · rw [if_neg same, decl.hook_of_not_isUsable (mt hookUsable.mp same)]
  · intro field named
    have usable := Name.isUsable_append_iff decl.settings.shadowPrefix field named
    exact if_congr (usable.trans (and_congr_left' shadowUsable)) rfl rfl
  · intro table field named
    exact (table.stopsBy_constant decl field named _).abort?_eq_none
  · exact fun table named text stopped => table.exists_misnamed decl named text stopped

/-- A text among the options of a class is refused unless it is read as a name. It need not be one
then: what names are made of for an accepted class may have blanks around, or be the mark of a raw
name before a word that is never raw. -/
theorem ofStruct_names (item : StructItem) (arguments : Option Tokens) :
    (ofStruct item arguments).abort? = none ∧
    (∀ fields options, Eligible item arguments fields options →
      (∀ fault, Misreads options fault →
        ∃ first, Misreads options first ∧ ofStruct item arguments = Attempt.fail first) ∧
      ((∀ fault, ¬ Misreads options fault) →
        ∀ decls, Attempt.gather (fields.map FieldDecl.ofField) = .ok decls →
          ∃ decl, ofStruct item arguments = .ok decl ∧ decl.fields = decls ∧
            decl.settings = settingsOf options ∧ decl.hook? = options.hook?)) ∧
    ∀ decl, ofStruct item arguments = .ok decl → decl.MakesNames :=
  ⟨abort?_ofStruct item arguments,
    fun _ _ eligible => ⟨eligible.ofStruct_of_misreads, eligible.exists_class⟩,
    makesNames_of_ofStruct item arguments⟩

/-- A struct with one field, and the option with the literal. -/
def withOption (option literal field : String) : StructItem :=
  Expansion.classStruct "A" (Expansion.textOption option literal)
    (.named [⟨[], [], field, .named "u8"⟩])

/-- One prefix is refused, and another is accepted. -/
theorem ofStruct_names_prefix :
    (ofStruct (withOption "shadow_prefix" "\"9\"" "size") none).reports.map Report.message =
      ["`shadow_prefix = \"9\"` cannot start an identifier"] ∧
    ∃ decl, ofStruct (withOption "shadow_prefix" "\"own_\"" "size") none = .ok decl ∧
      decl.MakesNames := by
  refine ⟨by decide +kernel, ?_⟩
  obtain ⟨decl, read⟩ := Attempt.exists_of_isOk
    (ofStruct (withOption "shadow_prefix" "\"own_\"" "size") none) (by decide +kernel)
  exact ⟨decl, read, (ofStruct_names _ _).2.2 decl read⟩

/-- Texts that are accepted, though no name is made of them: a hook with blanks around it, and a
prefix that marks a field as raw whose name is never raw. -/
theorem ofStruct_misnamed :
    (ofStruct (withOption "hook" "\" bob \"" "size") none).isOk = true ∧
    (ofStruct (withOption "hook" "\" bob \"" "size") none >>= fun decl =>
      ClassTable.generate [decl] decl).abort? = some (.unusableName " bob ") ∧
    (ofStruct (withOption "shadow_prefix" "\"r#s\"" "elf") none).isOk = true ∧
    (ofStruct (withOption "shadow_prefix" "\"r#s\"" "elf") none >>= fun decl =>
      ClassTable.generate [decl] decl).abort? = some (.unusableName "r#self") := by
  decide +kernel

end ClassDecl

end ClassExpansion
