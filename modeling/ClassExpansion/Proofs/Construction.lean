import ClassExpansion.Proofs.CodeShapes

set_option autoImplicit false

/- What constructors do with their parameters: each is read once, and the object gets a value for
each of its fields. -/
namespace ClassExpansion

namespace Step

/-- Each step reads variables that are known before it, be it from earlier steps. -/
def InOrder (known : List Variable) : List Step → Prop
  | [] => True
  | step :: rest => (∀ v ∈ step.reads, v ∈ known) ∧ InOrder (known ++ step.binds) rest

/-- Along the steps nothing is read but what is known at the start and what steps bind. -/
theorem InOrder.closed {known : List Variable} {steps : List Step} (ordered : InOrder known steps) :
    ∀ v ∈ steps.flatMap reads, v ∈ known ++ steps.flatMap binds := by
  induction steps generalizing known with
  | nil => exact fun v inNil => absurd inNil List.not_mem_nil
  | cons step rest ih =>
    obtain ⟨now, later⟩ := ordered
    intro v isRead
    rw [List.flatMap_cons, ← List.append_assoc]
    rcases List.mem_append.mp isRead with here | further
    · exact List.mem_append_left _ (List.mem_append_left _ (now v here))
    · exact ih later v further

end Step

namespace Method

/-- The fields among the variables, be they parameters or taken out of the options. -/
def boundFields (m : Method) : List String := m.bound.filterMap Variable.field?

/-- The fields that are read, as often as they are. -/
def readFields (m : Method) : List String := m.read.filterMap Variable.field?

/-- Every field that is bound is read once, a step reads what stands before it, and so nothing is
read that is not bound. -/
structure ReadsOnce (m : Method) : Prop where
  distinct : m.boundFields.Nodup
  once : ∀ ident ∈ m.boundFields, m.readFields.count ident = 1
  ordered : Step.InOrder m.given m.body
  closed : ∀ v ∈ m.read, v ∈ m.bound

theorem filterMap_field (idents : List String) :
    (idents.map Variable.field).filterMap Variable.field? = idents := by
  rw [List.filterMap_map]
  exact List.filterMap_some

theorem readsOnce_of_perm (m : Method) (distinct : m.boundFields.Nodup)
    (same : m.readFields.Perm m.boundFields) (ordered : Step.InOrder m.given m.body) :
    m.ReadsOnce := by
  refine ⟨distinct, ?_, ordered, ordered.closed⟩
  intro ident bound
  rw [same.count_eq]
  exact List.count_eq_one_of_mem distinct bound

end Method

namespace HookCall

variable (call : HookCall) (cls : String)

theorem flatMap_binds_steps : (call.steps cls).flatMap Step.binds = [] := by
  unfold steps
  split
  · rfl
  · rfl

theorem flatMap_reads_steps : (call.steps cls).flatMap Step.reads =
    .object :: (call.handed.map (·.name)).map .field := by
  unfold steps
  split
  · exact List.append_nil _
  · exact List.append_nil _

/-- A step that stands in for the hook reads and binds nothing. -/
theorem inOrder_steps (known : List Variable) (rest : List Step) (object : .object ∈ known)
    (handed : ∀ ident ∈ call.handed.map (·.name), .field ident ∈ known)
    (later : Step.InOrder known rest) : Step.InOrder known (call.steps cls ++ rest) := by
  have called : Step.InOrder known (.call call.name (call.handed.map (·.name)) :: rest) := by
    refine ⟨?_, ?_⟩
    · rw [Step.reads, List.forall_mem_cons, List.forall_mem_map]
      exact ⟨object, handed⟩
    · rw [Step.binds, List.append_nil]
      exact later
  unfold steps
  split
  · exact called
  · refine ⟨fun v isRead => absurd isRead List.not_mem_nil, ?_⟩
    rw [Step.binds, List.append_nil]
    exact called

end HookCall

namespace Constructor

theorem making_body (c : Constructor) :
    c.making.body =
      (if c.keyword.isEmpty then [] else [.unpack c.optionsName c.keyword]) ++ c.objectSteps := by
  unfold making
  split <;> rfl

theorem making_required (c : Constructor) : c.making.required = c.required := by
  unfold making
  split <;> rfl

theorem making_optionsName? (c : Constructor) :
    c.making.optionsName? = if c.keyword.isEmpty then none else some c.optionsName := by
  unfold making
  split <;> rfl

theorem given_making (c : Constructor) :
    c.making.given = (c.required.map (·.name)).map .field ++
      (if c.keyword.isEmpty then [] else [.options]) := by
  rw [Method.given, making_required, making_optionsName?, List.map_map]
  split <;> rfl

theorem bound_making (c : Constructor) :
    c.making.bound = (c.required.map (·.name)).map .field ++
      (if c.keyword.isEmpty then [] else .options :: c.keyword.map .field) ++ [.object] := by
  rw [Method.bound, given_making, making_body]
  split
  · simp [objectSteps, Step.binds, HookCall.flatMap_binds_steps]
  · simp [objectSteps, Step.binds, HookCall.flatMap_binds_steps]

theorem read_making (c : Constructor) :
    c.making.read = (if c.keyword.isEmpty then [] else [.options]) ++
      (c.initializers.map (·.source)).map .field ++
      .object :: (c.hook.handed.map (·.name)).map .field ++ [.object] := by
  rw [Method.read, making_body, List.map_map, List.map_map]
  split
  · simp [objectSteps, Step.reads, HookCall.flatMap_reads_steps, Function.comp_def]
  · simp [objectSteps, Step.reads, HookCall.flatMap_reads_steps, Function.comp_def]

theorem boundFields_making (c : Constructor) :
    c.making.boundFields = c.required.map (·.name) ++ c.keyword := by
  rw [Method.boundFields, bound_making, List.filterMap_append, List.filterMap_append,
    Method.filterMap_field]
  split
  · next without =>
    rw [List.isEmpty_iff.mp without]
    exact List.append_nil _
  · rw [List.filterMap_cons_none rfl, Method.filterMap_field]
    exact List.append_nil _

theorem readFields_making (c : Constructor) :
    c.making.readFields = c.initializers.map (·.source) ++ c.hook.handed.map (·.name) := by
  rw [Method.readFields, read_making, List.filterMap_append, List.filterMap_append,
    List.filterMap_append, List.filterMap_cons_none rfl, Method.filterMap_field,
    Method.filterMap_field]
  split
  · exact List.append_nil _
  · exact List.append_nil _

theorem inOrder_objectSteps (c : Constructor) (known : List Variable)
    (bound : ∀ ident ∈ c.initializers.map (·.source) ++ c.hook.handed.map (·.name),
      .field ident ∈ known) : Step.InOrder known c.objectSteps := by
  refine ⟨?_, c.hook.inOrder_steps c.cls _ _ ?_ ?_ ⟨?_, trivial⟩⟩
  · intro v isRead
    obtain ⟨initializer, member, rfl⟩ := List.mem_map.mp isRead
    exact bound _ (List.mem_append_left _ (List.mem_map_of_mem member))
  · exact List.mem_append_right _ (List.mem_singleton_self _)
  · exact fun ident isHanded =>
      List.mem_append_left _ (bound ident (List.mem_append_right _ isHanded))
  · intro v isRead
    rw [List.mem_singleton.mp isRead]
    exact List.mem_append_right _ (List.mem_singleton_self _)

/-- The options are taken apart before the object is made. -/
theorem inOrder_making (c : Constructor)
    (bound : ∀ ident ∈ c.making.readFields, ident ∈ c.making.boundFields) :
    Step.InOrder c.making.given c.making.body := by
  rw [boundFields_making, readFields_making] at bound
  rw [making_body, given_making]
  split
  · next without =>
    rw [List.isEmpty_iff.mp without, List.append_nil] at bound
    refine c.inOrder_objectSteps _ fun ident isRead => ?_
    exact List.mem_append_left _ (List.mem_map_of_mem (bound ident isRead))
  · refine ⟨?_, c.inOrder_objectSteps _ fun ident isRead => ?_⟩
    · intro v isRead
      rw [List.mem_singleton.mp isRead]
      exact List.mem_append_right _ (List.mem_singleton_self _)
    · rcases List.mem_append.mp (bound ident isRead) with isRequired | isKeyword
      · exact List.mem_append_left _ (List.mem_append_left _ (List.mem_map_of_mem isRequired))
      · exact List.mem_append_right _ (List.mem_map_of_mem isKeyword)

theorem boundFields_forwarding (c : Constructor) :
    c.forwarding.boundFields = c.required.map (·.name) := by
  have bound : c.forwarding.bound = (c.required.map (·.name)).map .field := by
    simp [forwarding, plain, Method.bound, Method.given, Step.binds, Function.comp_def]
  rw [Method.boundFields, bound, Method.filterMap_field]

theorem read_forwarding (c : Constructor) :
    c.forwarding.read = (c.required.map (·.name)).map .field := by
  simp only [forwarding, plain, Method.read, Step.reads, List.flatMap_cons, List.flatMap_nil,
    List.append_nil]

/-- Each stored field of the class has one initializer, and they have the order of the fields. -/
theorem IsMade.forall₂_initializers {decl : ClassDecl} {fields : FieldList} {c : Constructor}
    (made : c.IsMade decl fields) :
    List.Forall₂ (fun field initializer =>
      field.storage? = some initializer.storage ∧ initializer.source = field.ident)
      fields.stored c.initializers := by
  rw [made.initializers]
  refine (fields.forall₂_stored _).imp ?_
  rintro field initializer ⟨storage, stored, rfl⟩
  exact ⟨stored, rfl⟩

theorem IsMade.names_handed {decl : ClassDecl} {fields : FieldList} {c : Constructor}
    (made : c.IsMade decl fields) :
    c.hook.handed.map (·.name) = (fields.ofRole .initVar).map Field.ident := by
  rw [made.handed, List.map_map]
  rfl

/-- The fields that the explicit constructor binds and those that it reads are the parameters, on
either side in the order of its own. -/
theorem IsMade.reads {decl : ClassDecl} {fields : FieldList} {c : Constructor}
    (made : c.IsMade decl fields) :
    c.making.boundFields.Perm (fields.parameters.map Field.ident) ∧
      c.making.readFields.Perm (fields.parameters.map Field.ident) := by
  have sources : fields.stored.map Field.ident = c.initializers.map (·.source) := by
    rw [map_eq_map_iff_forall₂]
    exact made.forall₂_initializers.imp fun field initializer is => is.2.symm
  constructor
  · have required : c.required.map (·.name) = fields.required.map Field.ident := by
      rw [made.required, List.map_map]
      rfl
    rw [boundFields_making, required, made.keyword, ← List.map_append]
    exact fields.required_append_keyword.map Field.ident
  · rw [readFields_making, ← sources, made.names_handed, ← List.map_append]
    exact fields.stored_append_initVar.map Field.ident

theorem IsMade.storages {decl : ClassDecl} {fields : FieldList} {c : Constructor}
    (made : c.IsMade decl fields) :
    c.initializers.map (·.storage) = fields.stored.filterMap Field.storage? := by
  rw [made.initializers, List.map_filterMap]
  refine List.filterMap_congr fun field _ => ?_
  rw [Option.map_map]
  exact Option.map_id'

theorem IsMade.readsOnce_making {decl : ClassDecl} {fields : FieldList} {c : Constructor}
    (made : c.IsMade decl fields) (distinct : (fields.map Field.name).Nodup) :
    c.making.ReadsOnce := by
  obtain ⟨bound, read⟩ := made.reads
  have same := read.trans bound.symm
  refine c.making.readsOnce_of_perm ?_ same ?_
  · exact bound.nodup_iff.mpr (fields.nodup_ident_parameters distinct)
  · exact c.inOrder_making fun ident isRead => same.mem_iff.mp isRead

theorem readsOnce_forwarding (c : Constructor) (once : c.making.ReadsOnce) :
    c.forwarding.ReadsOnce := by
  have read : c.forwarding.readFields = c.required.map (·.name) := by
    rw [Method.readFields, read_forwarding, Method.filterMap_field]
  have distinct := once.distinct
  rw [boundFields_making] at distinct
  refine c.forwarding.readsOnce_of_perm ?_ ?_ ?_
  · rw [boundFields_forwarding]
    exact distinct.of_append_left
  · rw [boundFields_forwarding, read]
  · refine ⟨?_, trivial⟩
    intro v isRead
    obtain ⟨ident, isName, rfl⟩ := List.mem_map.mp isRead
    obtain ⟨parameter, member, rfl⟩ := List.mem_map.mp isName
    exact List.mem_append_left _ (List.mem_map.mpr ⟨parameter, member, rfl⟩)

/-- Where the value of the field goes: into the object under the stored name, or to the hook. -/
def Takes (c : Constructor) (field : Field) : Prop :=
  match field.role with
  | .standard => ⟨field.ident, field.ident⟩ ∈ c.initializers
  | .propertyShadow => ⟨field.shadow, field.ident⟩ ∈ c.initializers
  | .initVar => .ofField field ∈ c.hook.handed
  | .classVar => field.ident ∉ c.making.boundFields

theorem IsMade.mem_boundFields {decl : ClassDecl} {fields : FieldList} {c : Constructor}
    (made : c.IsMade decl fields) (ident : String) :
    ident ∈ c.making.boundFields ↔
      ∃ field ∈ fields, field.role ≠ .classVar ∧ field.ident = ident := by
  rw [made.reads.1.mem_iff, List.mem_map]
  simp only [FieldList.mem_parameters, and_assoc]

theorem IsMade.takes {decl : ClassDecl} {fields : FieldList} {c : Constructor}
    (made : c.IsMade decl fields) (distinct : (fields.map Field.name).Nodup) (field : Field)
    (member : field ∈ fields) : c.Takes field := by
  have stored : field.role.isStored = true → field ∈ fields.stored := fun isStored =>
    List.mem_filter.mpr ⟨member, isStored⟩
  unfold Takes
  cases role : field.role with
  | standard =>
    rw [made.initializers]
    refine List.mem_filterMap.mpr ⟨field, stored (by rw [role]; rfl), ?_⟩
    simp only [Field.storage?, role, Option.map_some]
  | propertyShadow =>
    rw [made.initializers]
    refine List.mem_filterMap.mpr ⟨field, stored (by rw [role]; rfl), ?_⟩
    simp only [Field.storage?, role, Option.map_some]
  | initVar =>
    rw [made.handed]
    refine List.mem_map_of_mem (List.mem_filter.mpr ⟨member, ?_⟩)
    exact beq_iff_eq.mpr role
  | classVar =>
    simp only [made.mem_boundFields]
    rintro ⟨other, inFields, parameter, same⟩
    have isField := List.inj_on_of_nodup_map (fields.nodup_ident distinct) inFields member same
    exact parameter (isField ▸ role)

/-- How the constructors of a class work. With keyword fields `new` leaves the options to their
defaults and `new_with` makes the object. Otherwise `new` makes it. -/
structure Constructs (c : Constructor) (decl : ClassDecl) (fields : FieldList)
    (layout : StructCode) : Prop where
  body : c.making.body =
    (if fields.keyword = [] then []
      else [.unpack decl.optionsName (fields.keyword.map Field.ident)]) ++
    .make c.initializers ::
    (if c.hook.known then [] else [.standIn decl.ident c.hook.method]) ++
    [.call c.hook.name ((fields.ofRole .initVar).map Field.ident), .giveObject]
  storages : c.initializers.map (·.storage) = layout.fields.map (·.name)
  stored : List.Forall₂ (fun field initializer =>
      field.storage? = some initializer.storage ∧ initializer.source = field.ident)
    fields.stored c.initializers
  bound : ∀ ident, ident ∈ c.making.boundFields ↔
    ∃ field ∈ fields, field.role ≠ .classVar ∧ field.ident = ident
  reads : ∀ m ∈ c.methods, m.ReadsOnce
  takes : ∀ field ∈ fields, c.Takes field
  alone : fields.keyword = [] →
    c.methods = [c.making] ∧ c.making.name = "new" ∧ c.making.optionsName? = none
  forwards : fields.keyword ≠ [] →
    c.methods = [c.forwarding, c.making] ∧
    c.forwarding.name = "new" ∧ c.making.name = "new_with" ∧
    c.forwarding.optionsName? = none ∧ c.making.optionsName? = some decl.optionsName ∧
    c.forwarding.required = c.making.required ∧
    c.forwarding.body = [.forward (c.making.required.map (·.name))]

theorem IsMade.constructs {decl : ClassDecl} {fields : FieldList} {c : Constructor}
    (made : c.IsMade decl fields) (distinct : (fields.map Field.name).Nodup) :
    c.Constructs decl fields (decl.layout fields) := by
  have once := made.readsOnce_making distinct
  have without : c.keyword.isEmpty = true ↔ fields.keyword = [] := by
    rw [made.keyword, List.isEmpty_iff, List.map_eq_nil_iff]
  constructor
  case body =>
    rw [making_body, made.keyword, made.optionsName, objectSteps, HookCall.steps, made.cls,
      made.names_handed]
    simp only [List.isEmpty_iff, List.map_eq_nil_iff, List.append_assoc, List.cons_append,
      List.nil_append]
  case storages => rw [made.storages, FieldList.map_name_layout]
  case stored => exact made.forall₂_initializers
  case bound => exact made.mem_boundFields
  case reads =>
    intro m member
    unfold methods at member
    split at member
    · rw [List.mem_singleton.mp member]
      exact once
    · rcases List.mem_pair.mp member with rfl | rfl
      · exact c.readsOnce_forwarding once
      · exact once
  case takes => exact made.takes distinct
  case alone =>
    intro noKeyword
    have isEmpty := without.mpr noKeyword
    simp only [methods, making, plain, isEmpty, ↓reduceIte, and_self]
  case forwards =>
    intro hasKeyword
    have notEmpty := mt without.mp hasKeyword
    simp only [methods, making, plain, explicit, forwarding, made.optionsName, notEmpty,
      Bool.false_eq_true, ↓reduceIte, and_self]

end Constructor

namespace ClassTable

open FieldList (book shelf)

/-- Where the code of a class is written, every parameter of its constructors is read once, and
the object gets a value for each field of the struct, in the order of the struct. The written bodies
are read as the steps that do so, and no other name stands in them. -/
theorem write_constructs (table : ClassTable) (decl : ClassDecl) (fields : FieldList)
    (replacement : Replacement) (collected : FieldList.collect table decl = .ok fields)
    (written : table.write decl fields = .ok replacement) :
    ∃ code, ClassCode.ofFields table decl fields = .ok code ∧
      code.IsWrittenAs (.ofFields decl.ident fields) replacement.tokens ∧
      code.constructor.Constructs decl fields code.layout := by
  obtain ⟨code, parts, _, made, shown⟩ :=
    table.exists_written_of_write decl fields replacement written
  have distinct := FieldList.nodup_name_of_collect table decl fields collected
  refine ⟨code, parts, shown, ?_⟩
  rw [made.layout]
  exact made.constructor.constructs distinct

theorem write_constructs_book : ∃ fields replacement code,
    FieldList.collect shelf book = .ok fields ∧ shelf.write book fields = .ok replacement ∧
    ClassCode.ofFields shelf book fields = .ok code ∧
    code.IsWrittenAs (.ofFields "Book" fields) replacement.tokens ∧
    code.constructor.methods.map (·.name) = ["new", "new_with"] ∧
    code.constructor.making.readFields.count "r#type" = 1 ∧
    code.constructor.making.readFields.count "token" = 1 := by
  obtain ⟨fields, replacement, collected, written, keyword, parameters⟩ := exists_write_book
  obtain ⟨code, parts, shown, constructs⟩ :=
    shelf.write_constructs book fields replacement collected written
  have hasKeyword : fields.keyword ≠ [] := by
    intro noKeyword
    rw [noKeyword] at keyword
    cases keyword
  obtain ⟨methods, new, newWith, _⟩ := constructs.forwards hasKeyword
  have once := constructs.reads code.constructor.making (by rw [methods]; simp)
  have bound : ∀ ident ∈ ["title", "r#type", "cached", "token"],
      ident ∈ code.constructor.making.boundFields := by
    intro ident listed
    rw [← parameters] at listed
    obtain ⟨field, member, rfl⟩ := List.mem_map.mp listed
    obtain ⟨inFields, parameter⟩ := (fields.mem_parameters field).mp member
    exact (constructs.bound _).mpr ⟨field, inFields, parameter, rfl⟩
  refine ⟨fields, replacement, code, collected, written, parts, shown, ?_, ?_, ?_⟩
  · rw [methods, List.map_cons, List.map_singleton, new, newWith]
  · exact once.once _ (bound _ (by decide))
  · exact once.once _ (bound _ (by decide))

end ClassTable

end ClassExpansion
