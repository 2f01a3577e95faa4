import ClassExpansion.Proofs.CodeShapes
import ClassExpansion.Proofs.Faults
import ClassExpansion.Proofs.Methods

set_option autoImplicit false

/- A class module is expanded as a whole or not at all. Either each of its classes is replaced where
it stands, or all that is wrong with them is reported: first with those that cannot be read, then
with those that cannot be generated. -/
namespace ClassExpansion

namespace Expansion

/-- The struct of an item that declares a class. -/
def classStruct? : Item → Option StructItem
  | .struct s => if isClass s then some s else none
  | _ => none

/-- The structs that declare the classes of a module. -/
def classStructs (items : List Item) : List StructItem := items.filterMap classStruct?

/-- The class once the methods of the module are known. -/
def seen (items : List Item) (decl : ClassDecl) : ClassDecl :=
  decl.seeing (methods items decl.ident)

/-- Whether the methods of the module can be compared with the hook of the class. -/
def canSee (items : List Item) (decl : ClassDecl) : Bool := decl.canSee (methods items decl.ident)

/-- The classes that can be read, with what is known of their methods. -/
def classes (items : List Item) : ClassTable :=
  (classStructs items).filterMap fun s => (ClassDecl.ofStruct s none).value?.map (seen items)

/-- What is reported of the structs that cannot be read. -/
def unread (items : List Item) : List Report :=
  (classStructs items).flatMap fun s => (ClassDecl.ofStruct s none).reports

/-- What is reported of the classes that cannot be generated. -/
def ungenerated (items : List Item) : List Report :=
  (classes items).flatMap fun decl => ((classes items).generate decl).reports

/-- No step of the expansion aborts. -/
structure Proceeds (items : List Item) : Prop where
  read : ∀ s ∈ classStructs items, (ClassDecl.ofStruct s none).abort? = none
  seen : ∀ s ∈ classStructs items, ∀ decl, ClassDecl.ofStruct s none = .ok decl →
    canSee items decl = true
  generated : ∀ decl ∈ classes items, ((classes items).generate decl).abort? = none

/-- What comes in place of an item: for a class what is generated, otherwise the item itself. -/
inductive Replaces (items : List Item) : Item → Replacement → Prop
  | kept (item : Item) (plain : classStruct? item = none) : Replaces items item ⟨item.tokens, none⟩
  | generated (item : Item) (s : StructItem) (decl : ClassDecl) (part : Replacement)
      (marked : classStruct? item = some s) (read : ClassDecl.ofStruct s none = .ok decl)
      (visible : canSee items decl = true)
      (generated : (classes items).generate (Expansion.seen items decl) = .ok part) :
      Replaces items item part

end Expansion

namespace Expansion.ModuleItem

/-- The entry once the methods of the module are known. -/
def seen (items : List Item) (entry : ModuleItem) : ModuleItem :=
  { entry with decl? := entry.decl?.map (Expansion.seen items) }

theorem ofItem_of_none (item : Item) (plain : classStruct? item = none) :
    ofItem item = .ok ⟨item, none⟩ := by
  cases item with
  | struct s =>
    simp only [classStruct?] at plain
    split at plain
    · cases plain
    · next other => exact if_neg other
  | impl item => rfl
  | module head items => rfl
  | other tokens => rfl

theorem ofItem_of_some (item : Item) (s : StructItem) (isClass : classStruct? item = some s) :
    ofItem item = (ClassDecl.ofStruct s none).map fun decl => ⟨item, some decl⟩ := by
  cases item with
  | struct other =>
    simp only [classStruct?] at isClass
    split at isClass
    · next marked =>
      obtain rfl : other = s := Option.some.inj isClass
      exact if_pos marked
    · cases isClass
  | impl item => cases isClass
  | module head items => cases isClass
  | other tokens => cases isClass

theorem failsAs_ofItem :
    Attempt.FailsAs classStruct? ofItem fun s => ClassDecl.ofStruct s none where
  bare item plain := ⟨_, ofItem_of_none item plain⟩
  reports item s isClass := by
    rw [ofItem_of_some item s isClass, Attempt.reports_map]
  aborts item s isClass := by
    rw [ofItem_of_some item s isClass, Attempt.abort?_map]

theorem explained_ofItem (item : Item) : (ofItem item).Explained := by
  cases marked : classStruct? item with
  | none =>
    rw [ofItem_of_none item marked]
    exact Attempt.explained_ok _
  | some s =>
    rw [ofItem_of_some item s marked]
    exact Attempt.explained_bind _ _ (ClassDecl.explained_ofStruct s none) fun _ _ =>
      Attempt.explained_ok _

theorem replace_of_none (table : ClassTable) (entry : ModuleItem) (plain : entry.decl? = none) :
    replace table entry = .ok ⟨entry.item.tokens, none⟩ := by
  unfold replace
  rw [plain]
  rfl

theorem replace_of_some (table : ClassTable) (entry : ModuleItem) (decl : ClassDecl)
    (isClass : entry.decl? = some decl) : replace table entry = table.generate decl := by
  unfold replace
  rw [isClass]

theorem failsAs_replace (table : ClassTable) :
    Attempt.FailsAs ModuleItem.decl? (replace table) table.generate where
  bare entry plain := ⟨_, replace_of_none table entry plain⟩
  reports entry decl isClass := by rw [replace_of_some table entry decl isClass]
  aborts entry decl isClass := by rw [replace_of_some table entry decl isClass]

theorem explained_replace (table : ClassTable) (entry : ModuleItem) :
    (entry.replace table).Explained := by
  unfold replace
  split
  · exact table.explained_generate _
  · exact Attempt.explained_ok _

theorem observe_eq (items : List Item) (entry : ModuleItem) :
    entry.observe items =
      if entry.decl?.all (canSee items) then .ok (entry.seen items)
      else Attempt.abort (.unusableName ((entry.decl?.map (·.hookText)).getD "")) := by
  obtain ⟨item, decl?⟩ := entry
  cases decl? with
  | none => rfl
  | some decl =>
    by_cases visible : canSee items decl = true
    · have seen := (foldlM_observeItem items decl).trans (if_pos visible)
      simp only [observe, seen, Option.all_some, visible, ↓reduceIte]
      rfl
    · have unseen := (foldlM_observeItem items decl).trans (if_neg visible)
      simp only [observe, unseen, Option.all_some, visible, Bool.false_eq_true, ↓reduceIte]
      rfl

theorem observe_eq_ok_iff (items : List Item) (entry result : ModuleItem) :
    entry.observe items = .ok result ↔
      (∀ decl ∈ entry.decl?, canSee items decl = true) ∧ entry.seen items = result := by
  have all : entry.decl?.all (canSee items) = true ↔
      ∀ decl ∈ entry.decl?, canSee items decl = true := by
    cases entry.decl? with
    | none => simp only [Option.all_none, Option.mem_def, reduceCtorEq, false_implies, implies_true]
    | some decl => simp only [Option.all_some, Option.mem_def, Option.some.injEq, forall_eq']
  rw [observe_eq, ← all]
  by_cases visible : entry.decl?.all (canSee items) = true
  · rw [if_pos visible, Except.ok.injEq]
    exact (and_iff_right visible).symm
  · rw [if_neg visible]
    exact ⟨nofun, fun both => absurd both.1 visible⟩

theorem mapM_observe_eq_ok_iff (items : List Item) (entries results : List ModuleItem) :
    entries.mapM (observe items) = .ok results ↔
      (∀ decl ∈ entries.filterMap (·.decl?), canSee items decl = true) ∧
        entries.map (seen items) = results := by
  rw [Attempt.mapM_eq_ok_iff]
  simp only [observe_eq_ok_iff]
  rw [List.forall₂_and_left, ← List.forall₂_map_left_iff, List.forall₂_eq_eq_eq]
  refine and_congr_left fun _ => ?_
  constructor
  · intro each decl member
    obtain ⟨entry, inEntries, holds⟩ := List.mem_filterMap.mp member
    exact each entry inEntries decl holds
  · intro each entry member decl holds
    exact each decl (List.mem_filterMap.mpr ⟨entry, member, holds⟩)

/-- The methods are only ever a reason to abort. -/
theorem exists_abort_of_mapM_observe (items : List Item) (entries : List ModuleItem)
    (hidden : ¬ ∀ decl ∈ entries.filterMap (·.decl?), canSee items decl = true) :
    ∃ cause, entries.mapM (observe items) = .error (.aborted cause) := by
  -- Nothing is reported on the way, so that what does not succeed aborts.
  have silent : (entries.mapM (observe items)).FailsBy fun _ => False := by
    refine Attempt.failsBy_mapM _ _ fun entry _ => ?_
    rw [observe_eq]
    split
    · exact Attempt.failsBy_ok _
    · exact Attempt.failsBy_abort _
  rcases silent.ok_or_aborts with ⟨result, observed⟩ | aborts
  · exact absurd ((mapM_observe_eq_ok_iff items entries result).mp observed).1 hidden
  · exact aborts

end Expansion.ModuleItem

namespace Expansion

/-- The items that are no classes and those whose classes can be read. -/
def readable (items : List Item) : List ModuleItem :=
  (items.map ModuleItem.ofItem).filterMap Attempt.value?

theorem filterMap_decl?_readable (items : List Item) :
    (readable items).filterMap (·.decl?) =
      (classStructs items).filterMap fun s => (ClassDecl.ofStruct s none).value? := by
  unfold readable classStructs
  rw [List.filterMap_map, List.filterMap_filterMap, List.filterMap_filterMap]
  refine List.filterMap_congr fun item _ => ?_
  cases isClass : classStruct? item with
  | none =>
    rw [Function.comp_apply, ModuleItem.ofItem_of_none item isClass]
    rfl
  | some s =>
    rw [Function.comp_apply, ModuleItem.ofItem_of_some item s isClass, Attempt.value?_map,
      Option.bind_some]
    cases (ClassDecl.ofStruct s none).value? with
    | none => rfl
    | some decl => rfl

theorem filterMap_decl?_seen (items : List Item) :
    ((readable items).map (ModuleItem.seen items)).filterMap (·.decl?) = classes items := by
  have same : (readable items).filterMap (fun entry => (entry.decl?).map (seen items)) =
      ((readable items).filterMap (·.decl?)).map (seen items) := by
    rw [List.map_filterMap]
  rw [List.filterMap_map, classes, ← List.map_filterMap, ← filterMap_decl?_readable]
  exact same

/-- What is made of the items that are no classes and of those that can be read. -/
def attempts (items : List Item) : List (Attempt Replacement) :=
  ((readable items).map (ModuleItem.seen items)).map (ModuleItem.replace (classes items))

theorem reports_attempts (items : List Item) :
    (attempts items).flatMap Attempt.reports = ungenerated items := by
  unfold attempts
  rw [(ModuleItem.failsAs_replace (classes items)).flatMap_reports, filterMap_decl?_seen]
  rfl

/-- A class that can be read stands behind each entry that has one. -/
theorem forall_readable_iff (items : List Item) (holds : ClassDecl → Prop) :
    (∀ decl ∈ (readable items).filterMap (·.decl?), holds decl) ↔
      ∀ s ∈ classStructs items, ∀ decl, ClassDecl.ofStruct s none = .ok decl → holds decl := by
  rw [filterMap_decl?_readable]
  constructor
  · intro each s member decl read
    have value := (Attempt.value?_eq_some_iff _ decl).mpr read
    exact each decl (List.mem_filterMap.mpr ⟨s, member, value⟩)
  · intro each decl member
    obtain ⟨s, inStructs, value⟩ := List.mem_filterMap.mp member
    exact each s inStructs decl ((Attempt.value?_eq_some_iff _ decl).mp value)

theorem going_read_iff (items : List Item) :
    (∀ attempt ∈ items.map ModuleItem.ofItem, attempt.abort? = none) ↔
      ∀ s ∈ classStructs items, (ClassDecl.ofStruct s none).abort? = none :=
  ModuleItem.failsAs_ofItem.forall_going_iff items

theorem going_attempts_iff (items : List Item) :
    (∀ attempt ∈ attempts items, attempt.abort? = none) ↔
      ∀ decl ∈ classes items, ((classes items).generate decl).abort? = none := by
  unfold attempts
  rw [(ModuleItem.failsAs_replace (classes items)).forall_going_iff, filterMap_decl?_seen]

/-- Once the classes are read and see their methods, it remains to generate them. -/
theorem ofItems_of_seen (items : List Item)
    (read : ∀ s ∈ classStructs items, (ClassDecl.ofStruct s none).abort? = none)
    (visible : ∀ decl ∈ (readable items).filterMap (·.decl?), canSee items decl = true) :
    ofItems items = (Attempt.sift (attempts items) >>= fun (replacements, found) =>
      if (unread items ++ found).isEmpty then .ok replacements
      else .error (.reported (unread items ++ found))) := by
  have sifted : Attempt.sift (items.map ModuleItem.ofItem) =
      .ok (readable items, unread items) := by
    rw [Attempt.sift_eq_ok_iff]
    exact ⟨(going_read_iff items).mpr read, rfl, ModuleItem.failsAs_ofItem.flatMap_reports items⟩
  have observed := (ModuleItem.mapM_observe_eq_ok_iff items _ _).mpr ⟨visible, rfl⟩
  unfold ofItems
  rw [sifted]
  simp only [Attempt.ok_bind, observed, filterMap_decl?_seen]
  rfl

theorem ofItems_of_proceeds (items : List Item) (proceeds : Proceeds items) :
    ofItems items =
      if (unread items ++ ungenerated items).isEmpty then
        .ok ((attempts items).filterMap Attempt.value?)
      else .error (.reported (unread items ++ ungenerated items)) := by
  have visible := (forall_readable_iff items _).mpr proceeds.seen
  have going := (going_attempts_iff items).mpr proceeds.generated
  have sifted := (Attempt.sift_eq_ok_iff (attempts items) _ _).mpr
    ⟨going, rfl, reports_attempts items⟩
  rw [ofItems_of_seen items proceeds.read visible, sifted, Attempt.ok_bind]

theorem ofItems_of_not_proceeds (items : List Item) (stops : ¬ Proceeds items) :
    ∃ cause, ofItems items = .error (.aborted cause) := by
  -- The passes come one after the other, and the first that aborts decides.
  by_cases read : ∀ s ∈ classStructs items, (ClassDecl.ofStruct s none).abort? = none
  · by_cases visible : ∀ decl ∈ (readable items).filterMap (·.decl?), canSee items decl = true
    · have going : ¬ ∀ attempt ∈ attempts items, attempt.abort? = none := fun going =>
        stops ⟨read, (forall_readable_iff items _).mp visible, (going_attempts_iff items).mp going⟩
      obtain ⟨cause, aborts⟩ := Attempt.exists_abort_of_sift _ going
      rw [ofItems_of_seen items read visible, aborts]
      exact ⟨cause, rfl⟩
    · have sifted := (Attempt.sift_eq_ok_iff (items.map ModuleItem.ofItem) _ _).mpr
        ⟨(going_read_iff items).mpr read, rfl, rfl⟩
      obtain ⟨cause, aborts⟩ :=
        ModuleItem.exists_abort_of_mapM_observe items (readable items) visible
      unfold readable at aborts
      unfold ofItems
      rw [sifted, Attempt.ok_bind]
      dsimp only
      rw [aborts]
      exact ⟨cause, rfl⟩
  · rw [← going_read_iff] at read
    obtain ⟨cause, aborts⟩ := Attempt.exists_abort_of_sift _ read
    unfold ofItems
    rw [aborts]
    exact ⟨cause, rfl⟩

theorem replaces_iff (items : List Item) (item : Item) (part : Replacement) :
    Replaces items item part ↔
      ∃ entry, (ModuleItem.ofItem item >>= ModuleItem.observe items) = .ok entry ∧
        entry.replace (classes items) = .ok part := by
  simp only [Attempt.bind_eq_ok_iff, ModuleItem.observe_eq_ok_iff]
  constructor
  · intro replaces
    cases replaces with
    | kept plain =>
      exact ⟨⟨item, none⟩, ⟨_, ModuleItem.ofItem_of_none item plain, nofun, rfl⟩, rfl⟩
    | generated s decl _ marked read visible generated =>
      have entry := ModuleItem.ofItem_of_some item s marked
      rw [read] at entry
      refine ⟨⟨item, some (seen items decl)⟩, ⟨_, entry, ?_, rfl⟩, generated⟩
      intro other same
      rwa [← Option.some.inj same]
  · rintro ⟨_, ⟨entry, of, visible, rfl⟩, replaced⟩
    cases isClass : classStruct? item with
    | none =>
      rw [ModuleItem.ofItem_of_none item isClass] at of
      cases of
      cases replaced
      exact .kept item isClass
    | some s =>
      rw [ModuleItem.ofItem_of_some item s isClass] at of
      cases read : ClassDecl.ofStruct s none with
      | error failure =>
        rw [read] at of
        cases of
      | ok decl =>
        rw [read] at of
        cases of
        exact .generated item s decl part isClass read (visible decl rfl) replaced

/-- A module succeeds where each of its passes does, with nothing to report. -/
theorem ofItems_eq_ok_iff_passes (items : List Item) (parts : List Replacement) :
    ofItems items = .ok parts ↔
      ∃ entries, Attempt.sift (items.map ModuleItem.ofItem) = .ok (entries, []) ∧
        ∃ after, entries.mapM (ModuleItem.observe items) = .ok after ∧
          Attempt.sift (after.map (ModuleItem.replace (after.filterMap (·.decl?)))) =
            .ok (parts, []) := by
  unfold ofItems
  simp only [Attempt.bind_eq_ok_iff]
  constructor
  · rintro ⟨⟨entries, unread⟩, read, after, observed, ⟨replacements, found⟩, replaced, done⟩
    dsimp only at observed replaced done
    split at done
    · next silent =>
      cases done
      obtain ⟨rfl, rfl⟩ := List.append_eq_nil_iff.mp (List.isEmpty_iff.mp silent)
      exact ⟨entries, read, after, observed, replaced⟩
    · cases done
  · rintro ⟨entries, read, after, observed, replaced⟩
    exact ⟨_, read, after, observed, _, replaced, rfl⟩

/-- In a module that is expanded, each item is replaced where it stands. -/
theorem ofItems_eq_ok_iff (items : List Item) (parts : List Replacement) :
    ofItems items = .ok parts ↔ List.Forall₂ (Replaces items) items parts := by
  have reads (entries : List ModuleItem) := Attempt.sift_map_eq_all_ok_iff
    ModuleItem.ofItem items entries fun item _ => ModuleItem.explained_ofItem item
  have replaces (table : ClassTable) (after : List ModuleItem) := Attempt.sift_map_eq_all_ok_iff
    (ModuleItem.replace table) after parts fun entry _ => ModuleItem.explained_replace table entry
  -- The last pass makes its table from what the second one gives, which is all of the module.
  have table (entries after : List ModuleItem) (read : items.mapM ModuleItem.ofItem = .ok entries)
      (observed : entries.mapM (ModuleItem.observe items) = .ok after) :
      after.filterMap (·.decl?) = classes items := by
    obtain ⟨_, rfl, _⟩ := (Attempt.sift_eq_ok_iff _ _ _).mp ((reads entries).mpr read)
    obtain ⟨_, rfl⟩ := (ModuleItem.mapM_observe_eq_ok_iff items _ _).mp observed
    exact filterMap_decl?_seen items
  have composed : Replaces items = fun item part =>
      ((ModuleItem.ofItem item >>= ModuleItem.observe items) >>=
        ModuleItem.replace (classes items)) = .ok part := by
    funext item part
    rw [Attempt.bind_eq_ok_iff, ← replaces_iff]
  rw [ofItems_eq_ok_iff_passes, composed, ← Attempt.mapM_eq_ok_iff, Attempt.mapM_bind_eq_ok_iff]
  simp only [Attempt.mapM_bind_eq_ok_iff, reads, replaces]
  constructor
  · rintro ⟨entries, read, after, observed, replaced⟩
    rw [table entries after read observed] at replaced
    exact ⟨after, ⟨entries, read, observed⟩, replaced⟩
  · rintro ⟨after, ⟨entries, read, observed⟩, replaced⟩
    rw [← table entries after read observed] at replaced
    exact ⟨entries, read, after, observed, replaced⟩

/-- What is reported is all that is wrong: first with reading the classes, then with generating
those that could be read. -/
theorem ofItems_eq_reported_iff (items : List Item) (found : List Report) :
    ofItems items = .error (.reported found) ↔
      Proceeds items ∧ unread items ++ ungenerated items = found ∧ found ≠ [] := by
  by_cases proceeds : Proceeds items
  · rw [ofItems_of_proceeds items proceeds]
    split
    · next silent =>
      refine ⟨nofun, ?_⟩
      rintro ⟨_, rfl, some⟩
      exact absurd (List.isEmpty_iff.mp silent) some
    · next heard =>
      rw [Except.error.injEq, Failure.reported.injEq]
      refine ⟨?_, fun ⟨_, same, _⟩ => same⟩
      rintro rfl
      exact ⟨proceeds, rfl, fun silent => heard (List.isEmpty_iff.mpr silent)⟩
  · obtain ⟨cause, aborts⟩ := ofItems_of_not_proceeds items proceeds
    rw [aborts]
    exact ⟨nofun, fun both => absurd both.1 proceeds⟩

theorem ofItems_aborts_iff (items : List Item) :
    (∃ cause, ofItems items = .error (.aborted cause)) ↔ ¬ Proceeds items := by
  refine ⟨?_, ofItems_of_not_proceeds items⟩
  rintro ⟨cause, aborts⟩ proceeds
  rw [ofItems_of_proceeds items proceeds] at aborts
  split at aborts
  · cases aborts
  · cases aborts

/-- The module with the parts in place of its items. -/
def assembled (head : ModuleHead) (parts : List Replacement) : Expansion :=
  ⟨head.tokensWith (some (parts.flatMap (·.tokens))), parts.filterMap (·.debug?)⟩

theorem ofModule_eq (head : ModuleHead) (items : List Item) :
    ofModule head (some items) [] = (ofItems items).map (assembled head) := by
  have onward : ofModule head (some items) [] =
      (ofItems items >>= fun parts => .ok (assembled head parts)) := rfl
  rw [onward]
  cases ofItems items with
  | ok parts => rfl
  | error failure => rfl

/-- A class module is expanded with each class replaced in place, or all that is wrong with its
classes is reported. Only where a step aborts is there neither. An expanded module has the head of
the module itself. -/
theorem ofModule_all_or_nothing (head : ModuleHead) (items : List Item) :
    (∀ expansion, ofModule head (some items) [] = .ok expansion ↔
      ∃ parts, List.Forall₂ (Replaces items) items parts ∧ assembled head parts = expansion) ∧
    (∀ found, ofModule head (some items) [] = .error (.reported found) ↔
      Proceeds items ∧ unread items ++ ungenerated items = found ∧ found ≠ []) ∧
    ((∃ cause, ofModule head (some items) [] = .error (.aborted cause)) ↔ ¬ Proceeds items) ∧
    head.IsWrittenAs (Item.itemsTokens items) (Item.module head (some items)).tokens ∧
    ∀ parts : List Replacement,
      head.IsWrittenAs (parts.flatMap (·.tokens)) (assembled head parts).tokens := by
  rw [ofModule_eq]
  refine ⟨fun expansion => ?_, fun found => ?_, ?_, head.isWrittenAs _, fun parts =>
    head.isWrittenAs _⟩
  · simp only [Attempt.map_eq_ok_iff, ofItems_eq_ok_iff]
  · rw [Attempt.map_eq_error_iff, ofItems_eq_reported_iff]
  · simp only [Attempt.map_eq_error_iff, ofItems_aborts_iff]

/-- A struct that declares a class, with the options of the class. -/
def classStruct (name : String) (options : Tokens) (fields : StructFields) : StructItem :=
  ⟨[⟨false, ⟨⟨false, ["inity"]⟩, .list .paren options⟩⟩], [], name, false, fields, []⟩

def textOption (name literal : String) : Tokens :=
  [.ident name, .punct '=' false, .literal literal]

/-- The first class has no named fields. The second one has its own constructor, and blanks around
the name of its hook. -/
def blankHook : List Item :=
  [.struct (classStruct "A" [] .unnamed),
    .struct (classStruct "B" (textOption "hook" "\" bob \"") (.named [])),
    .impl ⟨[], false, .named "B", ["new", "size"], []⟩]

/-- What is wrong with the first class is not reported, since the second one aborts. -/
theorem ofModule_blankHook :
    (unread blankHook).map Report.message =
      ["#[inity] classes need named fields: `struct Name \x7b field: Type \x7d`"] ∧
    (ofModule ⟨[], [.ident "mod", .ident "m"], []⟩ (some blankHook) []).abort? =
      some (.unusableName " bob ") := by
  decide +kernel

end Expansion

end ClassExpansion
