import ClassExpansion.Proofs.Hook

set_option autoImplicit false

/- What a module reports on the lines of its classes. A line is looked for among the structs that
can be read, and only for a class that has no constructor of its own. A struct that cannot be read
is missing there, but then its own reports are among those of the module. -/
namespace ClassExpansion

open Attempt (failsBy_fail)

/-- The class with no more than its name and its base. -/
def ClassDecl.outline (decl : ClassDecl) : ClassDecl := .usual decl.ident decl.base? []

theorem ClassDecl.keepsLine_outline : ClassDecl.KeepsLine outline := ⟨fun _ => rfl, fun _ => rfl⟩

/-- The name of the struct and the base that its options name. -/
def StructItem.outline (s : StructItem) : ClassDecl := .usual s.name (s.options none).extends? []

theorem ClassDecl.outline_of_ofStruct (s : StructItem) (decl : ClassDecl)
    (read : ofStruct s none = .ok decl) : decl.outline = s.outline := by
  have isRead := isRead_of_ofStruct s none decl read
  unfold ClassDecl.outline StructItem.outline
  rw [isRead.ident, isRead.base]

namespace ClassTable

/-- The way up from the class comes to a base that the table does not have, or to a class for the
second time, and the fault names it. -/
def Breaks (table : ClassTable) (decl : ClassDecl) (fault : Fault) : Prop :=
  ∃ line, table.Climb decl line ∧
    ((∃ name, table.EndsAtUnknown line name ∧ fault = .unknownBase name) ∨
      ∃ name, table.EndsInCycle line name ∧ fault = .cycle name)

theorem Breaks.ofLine {table : ClassTable} {decl : ClassDecl} {fault : Fault}
    (breaks : table.Breaks decl fault) : fault.OfLine := by
  obtain ⟨_, _, ⟨name, _, same⟩ | ⟨name, _, same⟩⟩ := breaks
  · exact Or.inl ⟨name, same⟩
  · exact Or.inr ⟨name, same⟩

theorem ancestry_eq_error_iff (table : ClassTable) (decl : ClassDecl) (fault : Fault) :
    table.ancestry decl = .error fault ↔ table.Breaks decl fault := by
  constructor
  · intro failed
    obtain ⟨line, climb, ⟨_, is⟩ | ⟨name, unknown, is⟩ | ⟨name, cycle, is⟩⟩ :=
      table.ancestry_cases decl
    · cases is.symm.trans failed
    · exact ⟨line, climb, Or.inl ⟨name, unknown, Except.error.inj (failed.symm.trans is)⟩⟩
    · exact ⟨line, climb, Or.inr ⟨name, cycle, Except.error.inj (failed.symm.trans is)⟩⟩
  · rintro ⟨line, climb, ⟨name, unknown, rfl⟩ | ⟨name, cycle, rfl⟩⟩
    · exact climb.ancestry_of_unknown unknown
    · exact climb.ancestry_of_cycle cycle

/-- Where a line breaks can be told from names and bases. -/
theorem ancestry_outline_eq_error_iff (table : ClassTable) (decl : ClassDecl) (fault : Fault) :
    table.ancestry decl = .error fault ↔ Breaks (table.map .outline) decl.outline fault := by
  rw [← ancestry_eq_error_iff, ancestry_map table _ ClassDecl.keepsLine_outline]
  cases table.ancestry decl with
  | ok line => exact ⟨nofun, nofun⟩
  | error other => simp only [Except.map, Except.error.injEq]

theorem Breaks.get?_eq_none {table : ClassTable} {decl : ClassDecl} {name : String}
    (breaks : table.Breaks decl (.unknownBase name)) : table.get? name = none := by
  obtain ⟨_, _, ⟨other, ⟨_, _, _, missing⟩, same⟩ | ⟨_, _, impossible⟩⟩ := breaks
  · cases same
    exact missing
  · cases impossible

end ClassTable

namespace Expansion

variable (items : List Item)

/-- The structs of classes that can be read. -/
def readStructs (items : List Item) : List StructItem :=
  (classStructs items).filter fun s => (ClassDecl.ofStruct s none).isOk

def outlines (structs : List StructItem) : ClassTable := structs.map StructItem.outline

/-- The module has a constructor for the class of the struct. -/
def HasConstructor (items : List Item) (s : StructItem) : Prop :=
  ∃ method ∈ methods items s.name, ClassDecl.isConstructorName method = true

/-- The struct cannot be read, and its reports are among those found. -/
structure Unread (s : StructItem) (found : List Report) : Prop where
  heard : (ClassDecl.ofStruct s none).reports ≠ []
  among : (ClassDecl.ofStruct s none).reports ⊆ found

theorem map_outline_classes :
    (classes items).map ClassDecl.outline = outlines (readStructs items) := by
  unfold classes outlines readStructs
  rw [List.map_filterMap, ← List.filterMap_eq_map, List.filterMap_filter]
  refine List.filterMap_congr fun s _ => ?_
  cases read : ClassDecl.ofStruct s none with
  | error failure => rfl
  | ok decl =>
    show some decl.outline = some s.outline
    rw [ClassDecl.outline_of_ofStruct s decl read]

theorem mem_classes_iff (decl : ClassDecl) :
    decl ∈ classes items ↔
      ∃ s ∈ classStructs items, ∃ read, ClassDecl.ofStruct s none = .ok read ∧
        seen items read = decl := by
  simp only [classes, List.mem_filterMap, Option.map_eq_some_iff, Attempt.value?_eq_some_iff]

theorem mem_readStructs_iff (s : StructItem) :
    s ∈ readStructs items ↔
      s ∈ classStructs items ∧ ∃ decl, ClassDecl.ofStruct s none = .ok decl := by
  unfold readStructs
  rw [List.mem_filter]
  refine and_congr_right fun _ => ?_
  cases ClassDecl.ofStruct s none with
  | error failure => exact ⟨nofun, nofun⟩
  | ok decl => exact ⟨fun _ => ⟨decl, rfl⟩, fun _ => rfl⟩

theorem hasOwnConstructor_iff (s : StructItem) (decl : ClassDecl)
    (read : ClassDecl.ofStruct s none = .ok decl) :
    (seen items decl).hasOwnConstructor = true ↔ HasConstructor items s := by
  obtain ⟨ident, unseen⟩ := ClassDecl.ident_seen_of_ofStruct s none decl read
  rw [hasOwnConstructor_seen_iff items decl unseen, ident]
  rfl

/-- What is reported of a class is a fault of its line just where the line breaks among the structs
that can be read, unless the class has a constructor. -/
theorem exists_report_of_class_iff (s : StructItem) (decl : ClassDecl)
    (read : ClassDecl.ofStruct s none = .ok decl) (fault : Fault) (ofLine : fault.OfLine) :
    (∃ report ∈ ((classes items).generate (seen items decl)).reports, report.fault = fault) ↔
      ¬ HasConstructor items s ∧ (outlines (readStructs items)).Breaks s.outline fault := by
  have sameOutline : (seen items decl).outline = s.outline :=
    ClassDecl.outline_of_ofStruct s decl read
  rw [ClassTable.exists_report_ofLine_iff _ _ fault ofLine,
    ClassTable.ancestry_outline_eq_error_iff, map_outline_classes, sameOutline,
    ← Bool.not_eq_true, hasOwnConstructor_iff items s decl read]

theorem exists_ungenerated_iff (fault : Fault) (ofLine : fault.OfLine) :
    (∃ report ∈ ungenerated items, report.fault = fault) ↔
      ∃ s ∈ readStructs items, ¬ HasConstructor items s ∧
        (outlines (readStructs items)).Breaks s.outline fault := by
  constructor
  · rintro ⟨report, member, same⟩
    obtain ⟨decl, inClasses, reported⟩ := List.mem_flatMap.mp member
    obtain ⟨s, inStructs, read, isRead, rfl⟩ := (mem_classes_iff items decl).mp inClasses
    refine ⟨s, (mem_readStructs_iff items s).mpr ⟨inStructs, read, isRead⟩, ?_⟩
    exact (exists_report_of_class_iff items s read isRead fault ofLine).mp ⟨report, reported, same⟩
  · rintro ⟨s, inRead, breaks⟩
    obtain ⟨inStructs, decl, read⟩ := (mem_readStructs_iff items s).mp inRead
    obtain ⟨report, reported, same⟩ :=
      (exists_report_of_class_iff items s decl read fault ofLine).mpr breaks
    have inClasses := (mem_classes_iff items _).mpr ⟨s, inStructs, decl, read, rfl⟩
    exact ⟨report, List.mem_flatMap.mpr ⟨_, inClasses, reported⟩, same⟩

/-- What cannot be read is no matter of a line. -/
theorem mem_ungenerated_of_ofLine (report : Report)
    (member : report ∈ unread items ++ ungenerated items) (ofLine : report.fault.OfLine) :
    report ∈ ungenerated items := by
  rcases List.mem_append.mp member with unread | ungenerated
  · obtain ⟨s, _, reported⟩ := List.mem_flatMap.mp unread
    have other := (ClassDecl.failsBy_ofStruct s none).kind_of_mem_reports report reported
    exact absurd ofLine other
  · exact ungenerated

theorem readStructs_eq
    (all : ∀ s ∈ classStructs items, ∃ decl, ClassDecl.ofStruct s none = .ok decl) :
    readStructs items = classStructs items := by
  unfold readStructs
  rw [List.filter_eq_self]
  intro s member
  obtain ⟨decl, read⟩ := all s member
  rw [read]
  rfl

theorem unread_of_not_ok (proceeds : Proceeds items) (s : StructItem)
    (member : s ∈ classStructs items)
    (failed : ¬ ∃ decl, ClassDecl.ofStruct s none = .ok decl) :
    Unread s (unread items ++ ungenerated items) := by
  constructor
  · intro silent
    have going := proceeds.read s member
    exact failed (Attempt.exists_ok _ (ClassDecl.explained_ofStruct s none) going silent)
  · intro report reported
    exact List.mem_append_left _ (List.mem_flatMap.mpr ⟨s, member, reported⟩)

/-- A line that breaks among all structs of classes is reported, unless one of them is missing
since it cannot be read. -/
theorem exists_report_of_breaks (proceeds : Proceeds items) (s : StructItem)
    (member : s ∈ classStructs items) (made : ¬ HasConstructor items s) (fault : Fault)
    (breaks : (outlines (classStructs items)).Breaks s.outline fault) :
    (∃ other ∈ classStructs items, Unread other (unread items ++ ungenerated items)) ∨
      ∃ report ∈ unread items ++ ungenerated items, report.fault = fault := by
  by_cases all : ∀ s ∈ classStructs items, ∃ decl, ClassDecl.ofStruct s none = .ok decl
  · have same := readStructs_eq items all
    obtain ⟨report, reported, is⟩ := (exists_ungenerated_iff items fault breaks.ofLine).mpr
      ⟨s, by rwa [same], made, by rwa [same]⟩
    exact Or.inr ⟨report, List.mem_append_right _ reported, is⟩
  · simp only [not_forall] at all
    obtain ⟨other, inStructs, failed⟩ := all
    exact Or.inl ⟨other, inStructs, unread_of_not_ok items proceeds other inStructs failed⟩

/-- The options of a module are refused before its items are looked at. -/
theorem ofModule_of_options (head : ModuleHead) (body : Option (List Item)) (arguments : Tokens)
    (given : arguments ≠ []) : ofModule head body arguments = Attempt.fail .moduleOptions := by
  cases arguments with
  | nil => exact absurd rfl given
  | cons first rest => rfl

theorem ofModule_eq_reported_iff (head : ModuleHead) (found : List Report) :
    ofModule head (some items) [] = .error (.reported found) ↔
      Proceeds items ∧ unread items ++ ungenerated items = found ∧ found ≠ [] := by
  rw [ofModule_eq, Attempt.map_eq_error_iff, ofItems_eq_reported_iff]

theorem ofItems_ne_ok (heard : Proceeds items → unread items ++ ungenerated items ≠ [])
    (parts : List Replacement) : ofItems items ≠ .ok parts := by
  intro done
  by_cases proceeds : Proceeds items
  · rw [ofItems_of_proceeds items proceeds, if_neg (mt List.isEmpty_iff.mp (heard proceeds))] at done
    cases done
  · obtain ⟨cause, aborts⟩ := ofItems_of_not_proceeds items proceeds
    cases done.symm.trans aborts

/-- A report on a line goes back to a struct that can be read, has no constructor, and has a line
that breaks among the structs that can be read. So a base that is reported as unknown is declared
nowhere, or where it is declared it cannot be read, which is reported as well. A line that breaks
among all structs of classes keeps the module from being expanded unless its class has a
constructor, and it is reported unless a struct cannot be read. -/
theorem ofModule_line_reports (head : ModuleHead) (items : List Item) (arguments : Tokens) :
    (∀ found, ofModule head (some items) arguments = .error (.reported found) →
      ∀ report ∈ found, report.fault.OfLine →
        (∃ s ∈ readStructs items, ¬ HasConstructor items s ∧
          (outlines (readStructs items)).Breaks s.outline report.fault) ∧
        ∀ name, report.fault = .unknownBase name →
          ∀ s ∈ classStructs items, s.name = name → Unread s found) ∧
    ∀ s ∈ classStructs items, ¬ HasConstructor items s →
      ∀ fault, (outlines (classStructs items)).Breaks s.outline fault →
        (∀ expansion, ofModule head (some items) arguments ≠ .ok expansion) ∧
        ∀ found, ofModule head (some items) arguments = .error (.reported found) →
          arguments ≠ [] ∨ (∃ other ∈ classStructs items, Unread other found) ∨
            ∃ report ∈ found, report.fault = fault := by
  by_cases given : arguments ≠ []
  · rw [ofModule_of_options head (some items) arguments given]
    refine ⟨?_, fun s _ _ fault _ => ⟨nofun, fun found _ => Or.inl given⟩⟩
    intro found failed report member ofLine
    have refused : (Attempt.fail .moduleOptions : Attempt Expansion).FailsBy
        fun fault => ¬ fault.OfLine := failsBy_fail _ (Fault.not_ofLine nofun nofun)
    exact absurd ofLine ((refused found failed).2 report member)
  · obtain rfl : arguments = [] := not_ne_iff.mp given
    simp only [ofModule_eq_reported_iff]
    constructor
    · rintro found ⟨proceeds, rfl, _⟩ report member ofLine
      have reported := mem_ungenerated_of_ofLine items report member ofLine
      obtain ⟨s, inRead, made, breaks⟩ :=
        (exists_ungenerated_iff items report.fault ofLine).mp ⟨report, reported, rfl⟩
      refine ⟨⟨s, inRead, made, breaks⟩, ?_⟩
      rintro name unknown other inStructs rfl
      rw [unknown] at breaks
      -- Were the struct read, its name would be known.
      refine unread_of_not_ok items proceeds other inStructs fun read => ?_
      have missing := List.find?_eq_none.mp breaks.get?_eq_none other.outline
        (List.mem_map_of_mem ((mem_readStructs_iff items other).mpr ⟨inStructs, read⟩))
      exact missing (beq_self_eq_true other.name)
    · intro s member made fault breaks
      have reports (proceeds : Proceeds items) :=
        exists_report_of_breaks items proceeds s member made fault breaks
      constructor
      · intro expansion expanded
        rw [ofModule_eq, Attempt.map_eq_ok_iff] at expanded
        obtain ⟨parts, done, _⟩ := expanded
        refine ofItems_ne_ok items (fun proceeds silent => ?_) parts done
        rw [silent] at reports
        obtain ⟨other, _, unread⟩ | ⟨report, reported, _⟩ := reports proceeds
        · exact unread.heard (List.subset_nil.mp unread.among)
        · cases reported
      · rintro found ⟨proceeds, rfl, _⟩
        exact Or.inr (reports proceeds)

def derived (name base : String) : StructItem :=
  classStruct name (textOption "extends" ("\"" ++ base ++ "\"")) (.named [])

/-- The base has no named fields. -/
def lostBase : List Item := [.struct (classStruct "Base" [] .unnamed), .struct (derived "Sub" "Base")]

def looped : List Item := [.struct (derived "A" "B"), .struct (derived "B" "A")]

/-- The base is nowhere, and the class has a constructor. -/
def selfMade : List Item :=
  [.struct (derived "A" "Nowhere"), .impl ⟨[], false, .named "A", ["new"], []⟩]

theorem reports_lostBase : ∃ found,
    ofModule ⟨[], [], []⟩ (some lostBase) [] = .error (.reported found) ∧
    ∃ report ∈ found, report.fault = .unknownBase "Base" := by
  have named : ((ofModule ⟨[], [], []⟩ (some lostBase) []).reports.filterMap
      (·.fault.missingBase?)) = ["Base"] := by decide +kernel
  obtain ⟨report, reported, missing⟩ := List.mem_filterMap.mp (named ▸ List.mem_singleton_self _)
  exact ⟨_, Attempt.eq_of_mem_reports _ report reported, report, reported,
    (Fault.missingBase?_eq_some_iff _ _).mp missing⟩

theorem breaks_looped :
    (outlines (classStructs looped)).Breaks (derived "A" "B").outline (.cycle "A") := by
  have bases : ((derived "A" "B").options none).extends? = some "B" ∧
      ((derived "B" "A").options none).extends? = some "A" := by
    decide +kernel
  have structs : classStructs looped = [derived "A" "B", derived "B" "A"] := rfl
  rw [structs]
  simp only [outlines, List.map_cons, List.map_nil, StructItem.outline, bases]
  refine ⟨_, ⟨rfl, .cons_cons ⟨"B", rfl, rfl⟩ (.singleton _), by decide⟩, Or.inr ⟨"A", ?_, rfl⟩⟩
  exact ⟨_, _, rfl, ⟨"A", rfl, rfl⟩, rfl, by decide⟩

theorem ofModule_line_reports_looped :
    (∃ found, ofModule ⟨[], [], []⟩ (some lostBase) [] = .error (.reported found) ∧
      Unread (classStruct "Base" [] .unnamed) found) ∧
    ∃ found, ofModule ⟨[], [], []⟩ (some looped) [] = .error (.reported found) ∧
      ∃ report ∈ found, report.fault = .cycle "A" := by
  constructor
  · obtain ⟨found, failed, report, member, unknown⟩ := reports_lostBase
    have traced := (ofModule_line_reports ⟨[], [], []⟩ lostBase []).1
    refine ⟨found, failed, ?_⟩
    exact (traced found failed report member (Or.inl ⟨_, unknown⟩)).2 "Base" unknown _
      List.mem_cons_self rfl
  · have made : ¬ HasConstructor looped (derived "A" "B") := by
      rintro ⟨method, member, _⟩
      cases member
    obtain ⟨_, reports⟩ := (ofModule_line_reports ⟨[], [], []⟩ looped []).2 _
      List.mem_cons_self made _ breaks_looped
    have heard : (ofModule ⟨[], [], []⟩ (some looped) []).reports ≠ [] := by decide +kernel
    obtain ⟨report, member⟩ := List.exists_mem_of_ne_nil _ heard
    have failed := Attempt.eq_of_mem_reports _ report member
    refine ⟨_, failed, ?_⟩
    obtain given | ⟨other, inStructs, unread⟩ | found := reports _ failed
    · exact absurd rfl given
    · have silent : (classStructs looped).all fun s => (ClassDecl.ofStruct s none).reports.isEmpty :=
        by decide +kernel
      exact absurd (List.isEmpty_iff.mp (List.all_eq_true.mp silent other inStructs)) unread.heard
    · exact found

/-- A base that is declared is reported as unknown, and a module is expanded though the base of one
of its classes is missing. -/
theorem ofModule_inexact_line_reports :
    (∃ found, ofModule ⟨[], [], []⟩ (some lostBase) [] = .error (.reported found) ∧
      (∃ report ∈ found, report.fault = .unknownBase "Base") ∧
      ∃ s ∈ classStructs lostBase, s.name = "Base") ∧
    (∃ s ∈ classStructs selfMade,
      (outlines (classStructs selfMade)).Breaks s.outline (.unknownBase "Nowhere")) ∧
    (ofModule ⟨[], [], []⟩ (some selfMade) []).isOk = true := by
  refine ⟨?_, ⟨derived "A" "Nowhere", List.mem_cons_self, ?_⟩, by decide +kernel⟩
  · obtain ⟨found, failed, named⟩ := reports_lostBase
    exact ⟨found, failed, named, _, List.mem_cons_self, rfl⟩
  · have base : ((derived "A" "Nowhere").options none).extends? = some "Nowhere" := by
      decide +kernel
    have structs : classStructs selfMade = [derived "A" "Nowhere"] := rfl
    rw [structs]
    simp only [outlines, List.map_cons, List.map_nil, StructItem.outline, base]
    exact ⟨_, .single _ _, Or.inl ⟨"Nowhere", ⟨_, rfl, rfl, rfl⟩, rfl⟩⟩

end Expansion

end ClassExpansion
