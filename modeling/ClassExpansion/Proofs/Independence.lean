import ClassExpansion.Proofs.Hook
import ClassExpansion.Proofs.Locality

set_option autoImplicit false

/- What is generated for a class depends on its line alone, and so it does not matter in which order
the items of a class module stand. -/
namespace ClassExpansion

namespace ClassDecl

/-- The two cannot be told apart by a class below them. -/
structure Alike (a b : ClassDecl) : Prop extends SameFields a b, SameHook a b

theorem Alike.symm {a b : ClassDecl} (alike : a.Alike b) : b.Alike a :=
  ⟨⟨alike.ident.symm, alike.fields.symm⟩, ⟨alike.known.symm, alike.text.symm⟩⟩

theorem Alike.refl (a : ClassDecl) : a.Alike a := ⟨⟨rfl, rfl⟩, ⟨rfl, rfl⟩⟩

theorem Alike.refuse {α : Type} {a b : ClassDecl} (alike : a.Alike b) (decl : ClassDecl) :
    (decl.refuse a : Attempt α) = decl.refuse b := by
  unfold ClassDecl.refuse
  rw [alike.ident, alike.text]

end ClassDecl

namespace ClassTable

theorem exists_hooked_alike (line line' : List ClassDecl)
    (same : List.Forall₂ ClassDecl.Alike line line') (base : ClassDecl)
    (found : line.find? (·.hasHook) = some base) :
    ∃ base', line'.find? (·.hasHook) = some base' ∧ base.Alike base' := by
  induction same with
  | nil => cases found
  | @cons a b rest rest' first _ ih =>
    rw [List.find?_cons] at found ⊢
    rw [← first.known]
    split at found
    · next hooked =>
      cases found
      exact ⟨b, rfl, first⟩
    · exact ih found

/-- The class is refused, since it lacks a hook that the base has. -/
structure Refused (table : ClassTable) (decl base : ClassDecl) : Prop where
  made : decl.hasOwnConstructor = false
  lacks : ∃ fields, FieldList.collect table decl = .ok fields ∧ table.LacksHook decl fields base

theorem Refused.generate {table : ClassTable} {decl base : ClassDecl}
    (refused : table.Refused decl base) : table.generate decl = decl.refuse base := by
  obtain ⟨made, fields, collected, lacks⟩ := refused
  exact table.generate_of_lacksHook decl fields made collected base lacks

section TwoTables

variable (table other : ClassTable) (decl : ClassDecl) (line line' : List ClassDecl)
variable (ancestry : table.ancestry decl = .ok line) (ancestry' : other.ancestry decl = .ok line')

include ancestry ancestry'

theorem refused_congr (same : List.Forall₂ ClassDecl.Alike line line') (base : ClassDecl)
    (refused : table.Refused decl base) : ∃ base', other.Refused decl base' ∧ base.Alike base' := by
  obtain ⟨made, fields, collected, lacks⟩ := refused
  obtain ⟨bases, rfl⟩ := table.exists_bases decl line ancestry
  obtain ⟨bases', rfl⟩ := other.exists_bases decl line' ancestry'
  obtain ⟨_, above⟩ := List.forall₂_cons.mp same
  have found := (table.nearestHooked_iff decl bases ancestry base).mp lacks.nearest
  obtain ⟨base', found', alike⟩ := exists_hooked_alike bases bases' above base found
  have nearest := (other.nearestHooked_iff decl bases' ancestry' base').mpr found'
  rw [collect_congr table other decl _ _ ancestry ancestry'
    (same.imp fun _ _ alike => alike.toSameFields)] at collected
  exact ⟨base', ⟨made, fields, collected, ⟨lacks.handed, lacks.without, nearest⟩⟩, alike⟩

/-- Unless the class is refused, the hooks above it do not count. -/
theorem generate_congr_of_not_refused (same : List.Forall₂ ClassDecl.SameFields line line')
    (fine : ¬ ∃ base, table.Refused decl base) (fine' : ¬ ∃ base, other.Refused decl base) :
    table.generate decl = other.generate decl := by
  have collects := collect_congr table other decl line line' ancestry ancestry' same
  cases own : decl.hasOwnConstructor with
  | true =>
    unfold generate
    rw [own]
    rfl
  | false =>
    cases collected : FieldList.collect table decl with
    | error failure =>
      have collected' := collects.symm.trans collected
      unfold generate
      rw [own, collected, collected']
      rfl
    | ok fields =>
      have collected' := collects.symm.trans collected
      rw [table.generate_of_not_lacksHook decl fields own collected,
        other.generate_of_not_lacksHook decl fields own collected',
        write_congr table other decl line line' ancestry ancestry' same]
      · exact fun ⟨base, lacks⟩ => fine' ⟨base, own, fields, collected', lacks⟩
      · exact fun ⟨base, lacks⟩ => fine ⟨base, own, fields, collected, lacks⟩

/-- Tables in which the lines are alike make the same of the class. -/
theorem generate_congr (same : List.Forall₂ ClassDecl.Alike line line') :
    table.generate decl = other.generate decl := by
  by_cases refusal : ∃ base, table.Refused decl base
  · obtain ⟨base, refused⟩ := refusal
    obtain ⟨base', refused', alike⟩ :=
      refused_congr table other decl line line' ancestry ancestry' same base refused
    rw [refused.generate, refused'.generate, alike.refuse]
  -- Alike works both ways: what the other table refuses, the first one would have refused.
  · refine generate_congr_of_not_refused table other decl line line' ancestry ancestry'
      (same.imp fun _ _ alike => alike.toSameFields) refusal ?_
    rintro ⟨base, refused⟩
    have flipped := (same.imp fun _ _ alike => alike.symm).flip
    obtain ⟨base', refused', _⟩ :=
      refused_congr other table decl line' line ancestry' ancestry flipped base refused
    exact refusal ⟨base', refused'⟩

end TwoTables

theorem ident_of_get? (table : ClassTable) (name : String) (decl : ClassDecl)
    (found : table.get? name = some decl) : decl.ident = name := by
  have named := List.find?_some found
  exact beq_iff_eq.mp named

theorem get?_eq_some_iff (table : ClassTable) (distinct : (names table).Nodup) (name : String)
    (decl : ClassDecl) : table.get? name = some decl ↔ decl ∈ table ∧ decl.ident = name := by
  constructor
  · intro found
    exact ⟨table.mem_of_get? name decl found, table.ident_of_get? name decl found⟩
  · rintro ⟨member, rfl⟩
    cases found : table.get? decl.ident with
    | none =>
      have missing := List.find?_eq_none.mp found decl member
      exact absurd (beq_self_eq_true decl.ident) missing
    | some other =>
      have sameName := table.ident_of_get? _ other found
      rw [List.inj_on_of_nodup_map distinct (table.mem_of_get? _ other found) member sameName]

/-- With distinct names, the order of the classes does not matter. -/
theorem get?_perm (table other : ClassTable) (order : table.Perm other)
    (distinct : (names table).Nodup) (name : String) : table.get? name = other.get? name := by
  have distinct' : (names other).Nodup := (order.map _).nodup_iff.mp distinct
  ext decl
  rw [table.get?_eq_some_iff distinct, other.get?_eq_some_iff distinct', order.mem_iff]

theorem ancestry_congr (table other : ClassTable) (same : ∀ name, table.get? name = other.get? name)
    (decl : ClassDecl) : table.ancestry decl = other.ancestry decl := by
  have sameBase (a b : ClassDecl) (isBase : table.IsBase a b) : other.IsBase a b := by
    obtain ⟨name, named, found⟩ := isBase
    exact ⟨name, named, (same name).symm.trans found⟩
  -- A climb looks up bases and nothing else, so it is a climb in the other table as well.
  obtain ⟨line, climb, outcome⟩ := table.ancestry_cases decl
  have climb' : other.Climb decl line :=
    ⟨climb.start, climb.linked.imp sameBase, climb.distinct⟩
  rcases outcome with ⟨top, is⟩ | ⟨name, ⟨last, isLast, named, unknown⟩, is⟩ |
    ⟨name, ⟨last, base, isLast, isBase, again⟩, is⟩
  · rw [is, climb'.ancestry_of_top top]
  · rw [is, climb'.ancestry_of_unknown ⟨last, isLast, named, (same name).symm.trans unknown⟩]
  · rw [is, climb'.ancestry_of_cycle ⟨last, base, isLast, sameBase last base isBase, again⟩]

theorem generate_congr_of_get? (table other : ClassTable)
    (same : ∀ name, table.get? name = other.get? name) (decl : ClassDecl) :
    table.generate decl = other.generate decl := by
  have sameLine := ancestry_congr table other same decl
  cases ancestry : table.ancestry decl with
  | ok line =>
    exact generate_congr table other decl line line ancestry (sameLine.symm.trans ancestry)
      (List.forall₂_same.mpr fun a _ => .refl a)
  | error fault =>
    unfold generate FieldList.collect lineage
    rw [← sameLine, ancestry]
    rfl

end ClassTable

namespace Expansion

open ClassTable (names)

theorem nodup_names_classes (items : List Item)
    (distinct : ((classStructs items).map (·.name)).Nodup) : (names (classes items)).Nodup := by
  have ident (s : StructItem) (decl : ClassDecl)
      (isClass : (ClassDecl.ofStruct s none).value?.map (seen items) = some decl) :
      decl.ident = s.name := by
    obtain ⟨read, value, rfl⟩ := Option.map_eq_some_iff.mp isClass
    have isRead := (Attempt.value?_eq_some_iff _ read).mp value
    exact (ClassDecl.ident_seen_of_ofStruct s none read isRead).1
  rw [List.nodup_iff_pairwise_ne, List.pairwise_map] at distinct
  unfold names classes
  rw [List.nodup_iff_pairwise_ne, List.pairwise_map]
  refine distinct.filterMap _ fun s t different a first b second => ?_
  rw [ident s a first, ident t b second]
  exact different

variable (items others : List Item) (order : items.Perm others)

include order

theorem seen_perm (decl : ClassDecl) :
    seen items decl = seen others decl ∧ canSee items decl = canSee others decl := by
  have same (method : String) :
      method ∈ methods items decl.ident ↔ method ∈ methods others decl.ident :=
    (order.flatMap_right _).mem_iff
  exact ⟨decl.seeing_congr _ _ same, decl.canSee_congr _ _ same⟩

theorem classes_perm : (classes items).Perm (classes others) := by
  have sameSeen : seen items = seen others :=
    funext fun decl => (seen_perm items others order decl).1
  unfold classes classStructs
  rw [sameSeen]
  exact (order.filterMap _).filterMap _

variable (distinct : ((classStructs items).map (·.name)).Nodup)

include distinct

theorem replaces_perm (item : Item) (part : Replacement) (replaces : Replaces items item part) :
    Replaces others item part := by
  have sameTable := ClassTable.get?_perm _ _ (classes_perm items others order)
    (nodup_names_classes items distinct)
  cases replaces with
  | kept plain => exact .kept item plain
  | generated s decl _ marked read visible generated =>
    obtain ⟨sameSeen, sameVisible⟩ := seen_perm items others order decl
    rw [ClassTable.generate_congr_of_get? _ _ sameTable, sameSeen] at generated
    rw [sameVisible] at visible
    exact .generated item s decl part marked read visible generated

/-- What comes in place of the item in the module. -/
def placed (items : List Item) (item : Item) : Replacement :=
  let attempt := (ModuleItem.ofItem item >>= ModuleItem.observe items) >>=
    ModuleItem.replace (classes items)
  attempt.value?.getD ⟨item.tokens, none⟩

omit order distinct in
theorem placed_of_replaces (item : Item) (part : Replacement)
    (replaces : Replaces items item part) : placed items item = part := by
  have done := (Attempt.bind_eq_ok_iff _ _ _).mpr ((replaces_iff items item part).mp replaces)
  unfold placed
  rw [done]
  rfl

/-- A module with its items in another order is expanded with the same in place of each. -/
theorem ofItems_perm (parts : List Replacement) (expanded : ofItems items = .ok parts) :
    parts = items.map (placed items) ∧ ofItems others = .ok (others.map (placed items)) := by
  have replaced := (ofItems_eq_ok_iff items parts).mp expanded
  have inPlace : items.map (placed items) = parts := by
    rw [← List.forall₂_eq_eq_eq, List.forall₂_map_left_iff]
    exact replaced.imp (placed_of_replaces items)
  refine ⟨inPlace.symm, (ofItems_eq_ok_iff others _).mpr ?_⟩
  rw [← inPlace, List.forall₂_map_right_iff, List.forall₂_same] at replaced
  rw [List.forall₂_map_right_iff, List.forall₂_same]
  intro item member
  exact replaces_perm items others order distinct item _ (replaced item (order.mem_iff.mpr member))

end Expansion

open ClassDecl (Alike SameFields)

/-- What is made of a class depends on the names, the fields and the hooks along its line, and on
the hooks only as far as the class may be refused for want of its own. So the order of the items in
a module does not matter. -/
theorem generation_is_local :
    (∀ (table other : ClassTable) (decl : ClassDecl) (line line' : List ClassDecl),
      table.ancestry decl = .ok line → other.ancestry decl = .ok line' →
      (List.Forall₂ Alike line line' → table.generate decl = other.generate decl) ∧
      (List.Forall₂ SameFields line line' → table.generate decl = other.generate decl ∨
        (∃ base, table.Refused decl base ∧ table.generate decl = decl.refuse base) ∨
        ∃ base, other.Refused decl base ∧ other.generate decl = decl.refuse base)) ∧
    ∀ (head : ModuleHead) (items : List Item) (expansion : Expansion),
      ((Expansion.classStructs items).map (·.name)).Nodup →
      Expansion.ofModule head (some items) [] = .ok expansion →
      ∃ placed : Item → Replacement,
        expansion = Expansion.assembled head (items.map placed) ∧
        ∀ others, items.Perm others → Expansion.ofModule head (some others) [] =
          .ok (Expansion.assembled head (others.map placed)) := by
  refine ⟨?_, ?_⟩
  · intro table other decl line line' ancestry ancestry'
    refine ⟨table.generate_congr other decl line line' ancestry ancestry', fun same => ?_⟩
    by_cases refusal : ∃ base, table.Refused decl base
    · obtain ⟨base, refused⟩ := refusal
      exact Or.inr (Or.inl ⟨base, refused, refused.generate⟩)
    by_cases refusal' : ∃ base, other.Refused decl base
    · obtain ⟨base, refused⟩ := refusal'
      exact Or.inr (Or.inr ⟨base, refused, refused.generate⟩)
    exact Or.inl (table.generate_congr_of_not_refused other decl line line' ancestry ancestry' same
      refusal refusal')
  · intro head items expansion distinct expanded
    rw [Expansion.ofModule_eq, Attempt.map_eq_ok_iff] at expanded
    obtain ⟨parts, done, rfl⟩ := expanded
    refine ⟨Expansion.placed items, ?_, fun others order => ?_⟩
    · rw [(Expansion.ofItems_perm items items (.refl _) distinct parts done).1]
    · rw [Expansion.ofModule_eq,
        (Expansion.ofItems_perm items others order distinct parts done).2]
      rfl

/-- An item that differs in all that does not count below it. -/
def otherItem : ClassDecl :=
  { FieldList.item with
    vis := [.ident "pub"], settings := ⟨"_made", "own_"⟩, debug := true, seen := ⟨false, true⟩ }

open FieldList (book shelf) in
set_option maxRecDepth 100000 in
theorem generation_is_local_shelf : ∃ replacement placed,
    shelf.generate book = .ok replacement ∧
    ClassTable.generate [.usual "Stranger" none [], book, otherItem] book = .ok replacement ∧
    Expansion.ofModule ⟨[], [], []⟩ (some Expansion.hookedBook) [] =
      .ok (Expansion.assembled ⟨[], [], []⟩ (Expansion.hookedBook.map placed)) ∧
    Expansion.ofModule ⟨[], [], []⟩ (some Expansion.hookedBook.reverse) [] =
      .ok (Expansion.assembled ⟨[], [], []⟩ (Expansion.hookedBook.reverse.map placed)) := by
  obtain ⟨replacement, generated⟩ := Attempt.exists_of_isOk (shelf.generate book)
    (by decide +kernel)
  obtain ⟨expansion, expanded⟩ := Attempt.exists_of_isOk
    (Expansion.ofModule ⟨[], [], []⟩ (some Expansion.hookedBook) []) (by decide +kernel)
  have onShelf : shelf.ancestry book = .ok [book, FieldList.item] :=
    (shelf.ancestry_eq_ok_iff book _).mpr
      ⟨⟨rfl, .cons_cons ⟨"Item", rfl, rfl⟩ (.singleton _), by decide⟩, FieldList.item, rfl, rfl⟩
  have elsewhere : ClassTable.ancestry [.usual "Stranger" none [], book, otherItem] book =
      .ok [book, otherItem] :=
    (ClassTable.ancestry_eq_ok_iff _ book _).mpr
      ⟨⟨rfl, .cons_cons ⟨"Item", rfl, rfl⟩ (.singleton _), by decide⟩, otherItem, rfl, rfl⟩
  obtain ⟨placed, same, reordered⟩ :=
    generation_is_local.2 ⟨[], [], []⟩ Expansion.hookedBook expansion (by decide) expanded
  refine ⟨replacement, placed, generated, ?_, expanded.trans (congrArg _ same), ?_⟩
  · rw [← (generation_is_local.1 shelf _ book _ _ onShelf elsewhere).1]
    · exact generated
    · exact .cons (.refl book) (.cons ⟨⟨rfl, rfl⟩, ⟨rfl, rfl⟩⟩ .nil)
  · exact reordered _ (List.reverse_perm _).symm

end ClassExpansion
