import ClassExpansion.Code.Class
import ClassExpansion.Proofs.Resolution

set_option autoImplicit false

/- How reading and generating a class can fail. Whatever fails says why, and the code of a class
fails for other reasons than its fields and its hook do. -/
namespace ClassExpansion

namespace Attempt

variable {α β : Type} {kind : Fault → Prop}

/-- A failure is an abort, or it is reported with faults of the kind. -/
def FailsBy (kind : Fault → Prop) (attempt : Attempt α) : Prop :=
  ∀ found, attempt = .error (.reported found) →
    found ≠ [] ∧ ∀ report ∈ found, kind report.fault

theorem FailsBy.imp {wider : Fault → Prop} {attempt : Attempt α} (fails : attempt.FailsBy kind)
    (implies : ∀ fault, kind fault → wider fault) : attempt.FailsBy wider := by
  intro found failed
  obtain ⟨some, each⟩ := fails found failed
  exact ⟨some, fun report member => implies _ (each report member)⟩

theorem FailsBy.explained {attempt : Attempt α} (fails : attempt.FailsBy kind) :
    attempt.Explained :=
  fun failed => (fails [] failed).1 rfl

theorem FailsBy.kind_of_mem_reports {attempt : Attempt α} (fails : attempt.FailsBy kind)
    (report : Report) (member : report ∈ reports attempt) : kind report.fault := by
  rcases attempt with (found | cause) | value
  · exact (fails found rfl).2 report member
  · cases member
  · cases member

/-- Where no fault can be reported, what fails aborts. -/
theorem FailsBy.ok_or_aborts {attempt : Attempt α} (fails : attempt.FailsBy fun _ => False) :
    (∃ value, attempt = .ok value) ∨ ∃ cause, attempt = .error (.aborted cause) := by
  rcases attempt with (found | cause) | value
  · obtain ⟨some, none⟩ := fails found rfl
    obtain ⟨report, member⟩ := List.exists_mem_of_ne_nil found some
    exact (none report member).elim
  · exact Or.inr ⟨cause, rfl⟩
  · exact Or.inl ⟨value, rfl⟩

theorem failsBy_ok (value : α) : FailsBy kind (.ok value : Attempt α) := nofun

theorem failsBy_abort (cause : Abort) : FailsBy kind (abort cause : Attempt α) := nofun

theorem failsBy_fail (fault : Fault) (is : kind fault) : FailsBy kind (fail fault : Attempt α) := by
  intro found failed
  obtain rfl := Failure.reported.inj (Except.error.inj failed)
  refine ⟨List.cons_ne_nil _ _, ?_⟩
  intro report member
  rw [List.mem_singleton.mp member]
  exact is

theorem failsBy_lift (found : Except Fault α) (each : ∀ fault, found = .error fault → kind fault) :
    FailsBy kind (lift found) := by
  cases found with
  | ok value => exact failsBy_ok value
  | error fault => exact failsBy_fail fault (each fault rfl)

theorem failsBy_name (text : String) : FailsBy kind (name text) := by
  unfold name
  split
  · exact failsBy_ok text
  · exact failsBy_abort _

theorem failsBy_bind (first : Attempt α) (next : α → Attempt β) (fails : first.FailsBy kind)
    (onward : ∀ value, first = .ok value → (next value).FailsBy kind) :
    (first >>= next).FailsBy kind := by
  cases first with
  | error failure => exact fun found failed => fails found (congrArg _ (Except.error.inj failed))
  | ok value => exact onward value rfl

theorem failsBy_mapM (f : α → Attempt β) (inputs : List α)
    (each : ∀ input ∈ inputs, (f input).FailsBy kind) : (inputs.mapM f).FailsBy kind := by
  induction inputs with
  | nil => exact failsBy_ok []
  | cons input rest ih =>
    rw [List.mapM_cons]
    refine failsBy_bind _ _ (each input List.mem_cons_self) fun first _ => ?_
    refine failsBy_bind _ _ ?_ fun more _ => failsBy_ok _
    exact ih fun other member => each other (List.mem_cons_of_mem _ member)

theorem failsBy_gather (attempts : List (Attempt α))
    (each : ∀ attempt ∈ attempts, attempt.FailsBy kind) : (gather attempts).FailsBy kind := by
  intro found failed
  cases stopped : attempts.findSome? abort? with
  | some cause =>
    rw [gather_of_abort attempts cause stopped] at failed
    cases failed
  | none =>
    rw [gather_of_going attempts stopped] at failed
    split at failed
    · cases failed
    · next heard =>
      cases failed
      refine ⟨fun silent => heard (List.isEmpty_iff.mpr silent), ?_⟩
      intro report member
      obtain ⟨attempt, inAttempts, reported⟩ := List.mem_flatMap.mp member
      match attempt with
      | .error (.reported others) => exact (each _ inAttempts others rfl).2 report reported
      | .error (.aborted cause) => cases reported
      | .ok value => cases reported

end Attempt

open Attempt (failsBy_ok failsBy_abort failsBy_fail failsBy_lift failsBy_name failsBy_bind
  failsBy_mapM failsBy_gather)

namespace Fault

/-- Something is wrong with the line of bases. -/
def OfLine (fault : Fault) : Prop :=
  (∃ name, fault = .unknownBase name) ∨ ∃ name, fault = .cycle name

/-- Something is wrong with a declared field. -/
def OfMarker (fault : Fault) : Prop := ∃ role, fault = .markerArgument role

/-- Something is wrong with a constant. -/
def OfConstant (fault : Fault) : Prop := ∃ field, fault = .factoryConstant field

/-- Something is wrong with the line or with a declared field. -/
def OfFields (fault : Fault) : Prop := fault.OfLine ∨ ∃ role, fault = .markerArgument role

/-- Something is wrong with the line or with the code. -/
def OfCode (fault : Fault) : Prop :=
  fault.OfLine ∨ (∃ field, fault = .factoryConstant field) ∨
    ∃ cls reason tokens, fault = .constructorSyntax cls reason tokens

theorem not_ofLine {fault : Fault} (known : ∀ name, fault ≠ .unknownBase name)
    (acyclic : ∀ name, fault ≠ .cycle name) : ¬ fault.OfLine := by
  rintro (⟨name, same⟩ | ⟨name, same⟩)
  · exact known name same
  · exact acyclic name same

/-- The base that is reported as unknown. -/
def missingBase? : Fault → Option String
  | unknownBase name => some name
  | _ => none

theorem missingBase?_eq_some_iff (fault : Fault) (name : String) :
    fault.missingBase? = some name ↔ fault = .unknownBase name := by
  cases fault with
  | unknownBase other => simp only [missingBase?, Option.some.injEq, Fault.unknownBase.injEq]
  | _ => exact ⟨nofun, nofun⟩

theorem OfMarker.not_ofLine {fault : Fault} (ofMarker : fault.OfMarker) : ¬ fault.OfLine := by
  obtain ⟨role, rfl⟩ := ofMarker
  exact Fault.not_ofLine nofun nofun

theorem OfConstant.not_ofLine {fault : Fault} (ofConstant : fault.OfConstant) :
    ¬ fault.OfLine := by
  obtain ⟨field, rfl⟩ := ofConstant
  exact Fault.not_ofLine nofun nofun

end Fault

namespace ClassTable

variable (table : ClassTable)

theorem failsBy_lineage (decl : ClassDecl) : (table.lineage decl).FailsBy Fault.OfLine := by
  refine failsBy_lift _ fun fault failed => ?_
  obtain ⟨_, _, ⟨_, is⟩ | ⟨_, _, is⟩ | ⟨_, _, is⟩⟩ := table.ancestry_cases decl
  · rw [is] at failed
    cases failed
  · rw [is] at failed
    cases failed
    exact Or.inl ⟨_, rfl⟩
  · rw [is] at failed
    cases failed
    exact Or.inr ⟨_, rfl⟩

theorem failsBy_valueType (ty : Ty) : (Attempt.lift ty.valueType).FailsBy Fault.OfMarker := by
  refine failsBy_lift _ fun fault failed => ?_
  unfold Ty.valueType at failed
  split at failed
  · cases failed
  · split at failed
    · cases failed
    · cases failed
      exact ⟨_, rfl⟩

theorem failsBy_resolve_of_ancestry (settings : Settings) (declared : Declared)
    (line : List ClassDecl) (ancestry : table.ancestry declared.owner = .ok line) :
    (Field.resolve table settings declared).FailsBy Fault.OfMarker := by
  have found := (table.attribute?_eq_ok_iff declared.owner declared.field.name _).mpr
    ⟨line, ancestry, rfl⟩
  unfold Field.resolve
  dsimp only
  rw [found, Attempt.ok_bind]
  refine failsBy_bind _ _ (failsBy_valueType _) fun _ _ => ?_
  exact failsBy_bind _ _ (failsBy_name _) fun _ _ => failsBy_ok _

/-- Where the line is found, only markers can be wrong with the fields. Each class that declares
one of them is in the line, and so it has a line itself. -/
theorem failsBy_collect_of_ancestry (decl : ClassDecl) (line : List ClassDecl)
    (ancestry : table.ancestry decl = .ok line) :
    (FieldList.collect table decl).FailsBy Fault.OfMarker := by
  unfold FieldList.collect
  rw [(table.lineage_eq_ok_iff decl line).mpr ancestry, Attempt.ok_bind]
  refine failsBy_bind _ _ (failsBy_gather _ fun attempt member => ?_) fun _ _ => failsBy_ok _
  obtain ⟨declared, inLine, rfl⟩ := List.mem_map.mp member
  obtain ⟨rest, onward⟩ := table.exists_ancestry_of_mem decl line ancestry declared.owner
    ((mem_declarations line declared).mp inLine).1
  exact table.failsBy_resolve_of_ancestry decl.settings declared rest onward

theorem failsBy_collect (decl : ClassDecl) :
    (FieldList.collect table decl).FailsBy Fault.OfFields := by
  cases ancestry : table.ancestry decl with
  | ok line =>
    exact (table.failsBy_collect_of_ancestry decl line ancestry).imp fun _ => Or.inr
  | error fault =>
    have noLine := table.failsBy_lineage decl
    unfold lineage at noLine
    unfold FieldList.collect lineage
    rw [ancestry] at noLine ⊢
    exact failsBy_bind _ _ (noLine.imp fun _ => Or.inl) nofun

theorem failsBy_constants_of_ancestry (decl : ClassDecl) (line : List ClassDecl)
    (ancestry : table.ancestry decl = .ok line) (fields : FieldList) :
    (ConstantCode.ofFields table decl fields).FailsBy Fault.OfConstant := by
  unfold ConstantCode.ofFields
  refine failsBy_bind _ _ (failsBy_gather _ fun attempt member => ?_) fun _ _ => failsBy_ok _
  obtain ⟨field, _, rfl⟩ := List.mem_map.mp member
  unfold ConstantCode.ofField?
  rw [(table.attribute?_eq_ok_iff decl _ _).mpr ⟨line, ancestry, rfl⟩, Attempt.ok_bind]
  split
  · exact failsBy_ok _
  · split
    · exact failsBy_bind _ _ (failsBy_name _) fun _ _ => failsBy_ok _
    · exact failsBy_ok _
    · exact failsBy_fail _ ⟨_, rfl⟩
    · exact failsBy_fail _ ⟨_, rfl⟩

theorem failsBy_constants (decl : ClassDecl) (fields : FieldList) :
    (ConstantCode.ofFields table decl fields).FailsBy Fault.OfCode := by
  cases ancestry : table.ancestry decl with
  | ok line =>
    exact (table.failsBy_constants_of_ancestry decl line ancestry fields).imp fun _ ofConstant =>
      Or.inr (Or.inl ofConstant)
  | error fault =>
    have noLine := table.failsBy_lineage decl
    unfold ConstantCode.ofFields
    refine failsBy_bind _ _ (failsBy_gather _ fun attempt member => ?_) fun _ _ => failsBy_ok _
    obtain ⟨field, _, rfl⟩ := List.mem_map.mp member
    unfold ConstantCode.ofField? attribute?
    unfold lineage at noLine ⊢
    rw [ancestry] at noLine ⊢
    exact failsBy_bind _ _ (failsBy_bind _ _ (noLine.imp fun _ => Or.inl) nofun) nofun

theorem failsBy_directory (directory : ClassDirectory) (kind : Fault → Prop) :
    directory.tokens.FailsBy kind := by
  unfold ClassDirectory.tokens
  refine failsBy_bind _ _ (failsBy_mapM _ _ fun info _ => ?_) fun _ _ => failsBy_ok _
  unfold FieldInfo.tokens
  refine failsBy_bind _ _ ?_ fun _ _ => failsBy_ok _
  unfold FieldInfo.metadataTokens
  split
  · exact failsBy_ok _
  · refine failsBy_bind _ _ (failsBy_mapM _ _ fun entry _ => ?_) fun _ _ => failsBy_ok _
    refine failsBy_bind _ _ ?_ fun _ _ => failsBy_ok _
    unfold MetaValue.tokens
    split
    · exact failsBy_ok _
    · exact failsBy_ok _
    · split
      · exact failsBy_ok _
      · exact failsBy_abort _
    · exact failsBy_ok _

/-- Beside its constants, only the constructors can be wrong with the code. -/
theorem failsBy_write_of_constants (decl : ClassDecl) (fields : FieldList) (kind : Fault → Prop)
    (constants : (ConstantCode.ofFields table decl fields).FailsBy kind)
    (unreadable : ∀ cls reason tokens, kind (.constructorSyntax cls reason tokens)) :
    (table.write decl fields).FailsBy kind := by
  unfold write ClassCode.ofFields
  refine failsBy_bind _ _ ?_ fun code _ => ?_
  · unfold Constructor.ofFields
    refine failsBy_bind _ _ ?_ fun constructor _ => ?_
    · exact failsBy_bind _ _ (failsBy_name _) fun _ _ => failsBy_ok _
    refine failsBy_bind _ _ ?_ fun _ _ => ?_
    · unfold Constructor.check
      split
      · exact failsBy_ok _
      · exact failsBy_fail _ (unreadable _ _ _)
    exact failsBy_bind _ _ constants fun _ _ => failsBy_ok _
  · refine failsBy_bind _ _ ?_ fun _ _ => failsBy_ok _
    exact failsBy_bind _ _ (failsBy_directory _ _) fun _ _ => failsBy_ok _

theorem failsBy_write (decl : ClassDecl) (fields : FieldList) :
    (table.write decl fields).FailsBy Fault.OfCode :=
  table.failsBy_write_of_constants decl fields _ (table.failsBy_constants decl fields)
    fun _ _ _ => Or.inr (Or.inr ⟨_, _, _, rfl⟩)

theorem failsBy_requireOwnHook_of_ancestry (decl : ClassDecl) (line : List ClassDecl)
    (ancestry : table.ancestry decl = .ok line) (fields : FieldList) :
    (table.requireOwnHook decl fields).FailsBy fun fault => ¬ fault.OfLine := by
  unfold requireOwnHook
  split
  · exact failsBy_ok ()
  · unfold hookedBase?
    rw [(table.lineage_eq_ok_iff decl line).mpr ancestry]
    simp only [Attempt.ok_bind]
    refine failsBy_bind _ _ (failsBy_ok _) fun found _ => ?_
    split
    · exact failsBy_ok ()
    · refine failsBy_bind _ _ (failsBy_name _) fun _ _ => ?_
      exact failsBy_bind _ _ (failsBy_name _) fun _ _ =>
        failsBy_fail _ (Fault.not_ofLine nofun nofun)

/-- Where the line is found, nothing is said of it any more. -/
theorem failsBy_generate_of_ancestry (decl : ClassDecl) (line : List ClassDecl)
    (ancestry : table.ancestry decl = .ok line) :
    (table.generate decl).FailsBy fun fault => ¬ fault.OfLine := by
  unfold generate
  split
  · exact failsBy_ok _
  · refine failsBy_bind _ _ ?_ fun fields _ => ?_
    · exact (table.failsBy_collect_of_ancestry decl line ancestry).imp fun _ =>
        Fault.OfMarker.not_ofLine
    refine failsBy_bind _ _ ?_ fun _ _ => ?_
    · exact table.failsBy_requireOwnHook_of_ancestry decl line ancestry fields
    · exact table.failsBy_write_of_constants decl fields _
        ((table.failsBy_constants_of_ancestry decl line ancestry fields).imp fun _ =>
          Fault.OfConstant.not_ofLine)
        fun _ _ _ => Fault.not_ofLine nofun nofun

/-- A class without a constructor of its own needs its line before all else. -/
theorem generate_of_broken (decl : ClassDecl) (made : decl.hasOwnConstructor = false)
    (fault : Fault) (broken : table.ancestry decl = .error fault) :
    table.generate decl = Attempt.fail fault := by
  unfold generate FieldList.collect lineage
  rw [made, broken]
  rfl

/-- What is wrong with the line is reported just of classes that need one. -/
theorem exists_report_ofLine_iff (decl : ClassDecl) (fault : Fault) (ofLine : fault.OfLine) :
    (∃ report ∈ (table.generate decl).reports, report.fault = fault) ↔
      decl.hasOwnConstructor = false ∧ table.ancestry decl = .error fault := by
  constructor
  · rintro ⟨report, member, rfl⟩
    cases own : decl.hasOwnConstructor with
    | true =>
      unfold generate at member
      rw [own] at member
      cases member
    | false =>
      refine ⟨rfl, ?_⟩
      cases ancestry : table.ancestry decl with
      | ok line =>
        have elsewhere := table.failsBy_generate_of_ancestry decl line ancestry
        exact absurd ofLine (elsewhere.kind_of_mem_reports report member)
      | error fault =>
        rw [table.generate_of_broken decl own fault ancestry] at member
        rw [List.mem_singleton.mp member]
  · rintro ⟨made, broken⟩
    rw [table.generate_of_broken decl made fault broken]
    exact ⟨_, List.mem_singleton_self _, rfl⟩

theorem explained_requireOwnHook (decl : ClassDecl) (fields : FieldList) :
    (table.requireOwnHook decl fields).Explained := by
  unfold requireOwnHook
  split
  · exact Attempt.explained_ok ()
  · refine Attempt.explained_bind _ _ ?_ fun found _ => ?_
    · exact Attempt.explained_bind _ _ (table.failsBy_lineage decl).explained fun _ _ =>
        Attempt.explained_ok _
    · split
      · exact Attempt.explained_ok ()
      · exact Attempt.explained_bind _ _ (Attempt.explained_name _) fun _ _ =>
          Attempt.explained_bind _ _ (Attempt.explained_name _) fun _ _ => Attempt.explained_fail _

theorem explained_generate (decl : ClassDecl) : (table.generate decl).Explained := by
  unfold generate
  split
  · exact Attempt.explained_ok _
  · refine Attempt.explained_bind _ _ (table.failsBy_collect decl).explained fun fields _ => ?_
    refine Attempt.explained_bind _ _ (table.explained_requireOwnHook decl fields) fun _ _ => ?_
    exact (table.failsBy_write decl fields).explained

end ClassTable

namespace OptionReading

variable {α : Type} (reading : OptionReading α) (kind : Fault → Prop)

/-- What the reading itself refuses is of the kind. -/
structure Refuses : Prop where
  text : ∀ text fault, reading.text text = .error fault → kind fault
  boolean : ∀ value fault, reading.boolean value = .error fault → kind fault
  path : ∀ read ∈ reading.path, ∀ path fault, read path = .error fault → kind fault

variable {reading} (refuses : reading.Refuses fun fault => ¬ fault.OfLine)

include refuses

theorem Refuses.expr (e : Expr) (fault : Fault) (failed : reading.expr e = .error fault) :
    ¬ fault.OfLine := by
  fun_induction OptionReading.expr reading e with
  | case1 _ literal =>
    unfold OptionReading.literal at failed
    split at failed
    · exact refuses.text _ _ failed
    · exact refuses.boolean _ _ failed
    · cases failed
      exact Fault.not_ofLine nofun nofun
  | case2 _ inner ih => exact ih failed
  | case3 _ path read given => exact refuses.path read given path fault failed
  | case4 => cases failed; exact Fault.not_ofLine nofun nofun
  | case5 => cases failed; exact Fault.not_ofLine nofun nofun

theorem Refuses.body (body : MetaBody) (fault : Fault) (failed : reading.body body = .error fault) :
    ¬ fault.OfLine := by
  unfold OptionReading.body at failed
  split at failed
  · split at failed
    · cases failed
    · cases failed
      exact Fault.not_ofLine nofun nofun
  · split at failed
    · cases failed
      exact Fault.not_ofLine nofun nofun
    · cases failed
      exact Fault.not_ofLine nofun nofun
  · exact refuses.expr _ fault failed

end OptionReading

theorem debugReading_refuses : debugReading.Refuses fun fault => ¬ fault.OfLine where
  text text fault failed := by
    unfold debugReading at failed
    dsimp only at failed
    split at failed
    · cases failed
    · split at failed
      · cases failed
      · cases failed
        exact Fault.not_ofLine nofun nofun
  boolean _ _ := nofun
  path _ := nofun

theorem textReading_refuses : textReading.Refuses fun fault => ¬ fault.OfLine where
  text _ _ := nofun
  boolean _ fault failed := by
    cases failed
    exact Fault.not_ofLine nofun nofun
  path _ := nofun

theorem hookReading_refuses : hookReading.Refuses fun fault => ¬ fault.OfLine where
  text _ _ := nofun
  boolean _ fault failed := by
    cases failed
    exact Fault.not_ofLine nofun nofun
  path _ := nofun

theorem baseReading_refuses : baseReading.Refuses fun fault => ¬ fault.OfLine where
  text text fault failed := by
    unfold baseReading at failed
    dsimp only at failed
    split at failed
    · cases failed
    · cases failed
      exact Fault.not_ofLine nofun nofun
  boolean _ fault failed := by
    cases failed
    exact Fault.not_ofLine nofun nofun
  path read given path fault failed := by
    cases given
    unfold readBase at failed
    split at failed
    · cases failed
      exact Fault.not_ofLine nofun nofun
    · split at failed
      · cases failed
      · cases failed
        exact Fault.not_ofLine nofun nofun

namespace OptionsRead

/-- Nothing is said of a line so far. -/
def OffLine (read : OptionsRead) : Prop := ∀ report ∈ read.reports, ¬ report.fault.OfLine

theorem OffLine.concat {read : OptionsRead} (offLine : read.OffLine) (last : Report)
    (other : ¬ last.fault.OfLine) : ∀ report ∈ read.reports ++ [last], ¬ report.fault.OfLine := by
  intro report member
  rcases List.mem_append.mp member with earlier | isLast
  · exact offLine report earlier
  · rw [List.mem_singleton.mp isLast]
    exact other

theorem OffLine.set {α : Type} {read : OptionsRead} (offLine : read.OffLine) (name : String)
    (value : Except Fault α) (update : Options → α → Options)
    (refused : ∀ fault, value = .error fault → ¬ fault.OfLine) :
    (read.set name value update).OffLine := by
  cases value with
  | ok value => exact offLine
  | error fault => exact offLine.concat _ (refused fault rfl)

theorem OffLine.entry {read : OptionsRead} (offLine : read.OffLine) (entry : OptionEntry) :
    (read.entry entry).OffLine := by
  cases entry with
  | literal => exact offLine.concat _ (Fault.not_ofLine nofun nofun)
  | item path body =>
    unfold OptionsRead.entry
    dsimp only
    split
    · exact offLine.concat _ (Fault.not_ofLine nofun nofun)
    · split
      · exact offLine.concat _ (Fault.not_ofLine nofun nofun)
      · split
        · exact offLine.set _ _ _ (baseReading_refuses.body body)
        · exact offLine.set _ _ _ (hookReading_refuses.body body)
        · exact offLine.set _ _ _ (textReading_refuses.body body)
        · exact offLine.set _ _ _ (textReading_refuses.body body)
        · exact offLine.set _ _ _ (debugReading_refuses.body body)

theorem OffLine.item {read : OptionsRead} (offLine : read.OffLine) (body : MetaBody) :
    (read.item body).OffLine := by
  unfold OptionsRead.item
  split
  · exact offLine
  · exact offLine.concat _ (Fault.not_ofLine nofun nofun)
  · split
    · next entries _ =>
      exact List.foldlRecOn entries _ offLine fun read before entry _ => before.entry entry
    · exact offLine.concat _ (Fault.not_ofLine nofun nofun)

end OptionsRead

theorem Options.failsBy_read (bodies : List MetaBody) :
    (Options.read bodies).FailsBy fun fault => ¬ fault.OfLine := by
  have offLine : (bodies.foldl OptionsRead.item ⟨[], none, []⟩).OffLine :=
    List.foldlRecOn bodies _ nofun fun read before body _ => before.item body
  unfold Options.read
  dsimp only
  split
  · exact failsBy_ok _
  · next heard =>
    intro found failed
    cases failed
    exact ⟨fun silent => heard (List.isEmpty_iff.mpr silent), offLine⟩

theorem FieldDecl.failsBy_ofField (field : StructField) :
    (ofField field).FailsBy fun fault => ¬ fault.OfLine := by
  have reads (attrs : List Attribute) : ∀ found : Option FieldSpec,
      (readSpec found attrs).FailsBy fun fault => ¬ fault.OfLine := by
    induction attrs with
    | nil => exact fun found => failsBy_ok found
    | cons a rest ih =>
      intro found
      unfold readSpec
      split
      · exact ih found
      · split
        · exact failsBy_fail _ (Fault.not_ofLine nofun nofun)
        · split
          · exact ih _
          · exact failsBy_fail _ (Fault.not_ofLine nofun nofun)
  exact failsBy_bind _ _ (reads field.attrs none) fun _ _ => failsBy_ok _

theorem Settings.failsBy_check (settings : Settings) :
    settings.check.FailsBy fun fault => ¬ fault.OfLine := by
  unfold Settings.check
  split
  · exact failsBy_fail _ (Fault.not_ofLine nofun nofun)
  · split
    · exact failsBy_fail _ (Fault.not_ofLine nofun nofun)
    · exact failsBy_ok ()

theorem ClassDecl.failsBy_checkHook (hook? : Option HookOption) :
    (checkHook hook?).FailsBy fun fault => ¬ fault.OfLine := by
  unfold checkHook
  split
  · split
    · exact failsBy_fail _ (Fault.not_ofLine nofun nofun)
    · exact failsBy_ok ()
  · exact failsBy_ok ()

/-- A class that is read by itself has no line yet. -/
theorem ClassDecl.failsBy_ofStruct (item : StructItem) (arguments : Option Tokens) :
    (ClassDecl.ofStruct item arguments).FailsBy fun fault => ¬ fault.OfLine := by
  unfold ClassDecl.ofStruct
  refine failsBy_bind _ _ ?_ fun fields _ => ?_
  · unfold ClassDecl.namedFields
    split
    · exact failsBy_ok _
    · exact failsBy_fail _ (Fault.not_ofLine nofun nofun)
  refine failsBy_bind _ _ (Options.failsBy_read _) fun options _ => ?_
  dsimp only
  split
  · exact failsBy_bind _ _ (failsBy_fail _ (Fault.not_ofLine nofun nofun)) nofun
  · refine failsBy_bind _ _ (Settings.failsBy_check _) fun _ _ => ?_
    refine failsBy_bind _ _ (ClassDecl.failsBy_checkHook _) fun _ _ => ?_
    refine failsBy_bind _ _ (failsBy_gather _ fun attempt member => ?_) fun _ _ => failsBy_ok _
    obtain ⟨field, _, rfl⟩ := List.mem_map.mp member
    exact FieldDecl.failsBy_ofField field

theorem ClassDecl.explained_ofStruct (item : StructItem) (arguments : Option Tokens) :
    (ClassDecl.ofStruct item arguments).Explained :=
  (failsBy_ofStruct item arguments).explained

end ClassExpansion
