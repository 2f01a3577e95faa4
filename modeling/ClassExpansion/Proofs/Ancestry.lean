import ClassExpansion.Class.Table
import Mathlib.Data.List.Chain
import Mathlib.Data.List.Nodup
import Mathlib.Data.List.Perm.Subperm

set_option autoImplicit false

/- The line of bases of a class is the way up from it, base by base, as long as no name comes
twice. It is refused where a base is missing and where a name comes back, and for no other
reason. -/
namespace ClassExpansion

/-- A class with the usual settings, of whose methods nothing is known. -/
def ClassDecl.usual (ident : String) (base? : Option String) (fields : List FieldDecl) :
    ClassDecl :=
  ⟨ident, [], [], fields, base?, none, Settings.usual, false, ⟨false, false⟩⟩

/-- The function leaves the name and the base of a class as they are. -/
structure ClassDecl.KeepsLine (f : ClassDecl → ClassDecl) : Prop where
  ident : ∀ decl, (f decl).ident = decl.ident
  base : ∀ decl, (f decl).base? = decl.base?

namespace ClassTable

/-- The class that `decl` names as its base is `base`. -/
def IsBase (table : ClassTable) (decl base : ClassDecl) : Prop :=
  ∃ name, decl.base? = some name ∧ table.get? name = some base

/-- A way up from `decl`, base by base, on which no name comes twice. -/
structure Climb (table : ClassTable) (decl : ClassDecl) (line : List ClassDecl) : Prop where
  start : line.head? = some decl
  linked : line.IsChain table.IsBase
  distinct : (names line).Nodup

/-- The last class of the line has no base. -/
def EndsAtTop (line : List ClassDecl) : Prop :=
  ∃ last, line.getLast? = some last ∧ last.base? = none

/-- The table does not have the base that the last class of the line names. -/
def EndsAtUnknown (table : ClassTable) (line : List ClassDecl) (name : String) : Prop :=
  ∃ last, line.getLast? = some last ∧ last.base? = some name ∧ table.get? name = none

/-- The base of the last class of the line has a name that is in the line already. -/
def EndsInCycle (table : ClassTable) (line : List ClassDecl) (name : String) : Prop :=
  ∃ last base, line.getLast? = some last ∧ table.IsBase last base ∧ base.ident = name
    ∧ name ∈ names line

@[simp] theorem names_append (front back : List ClassDecl) :
    names (front ++ back) = names front ++ names back := List.map_append

@[simp] theorem names_singleton (decl : ClassDecl) : names [decl] = [decl.ident] := rfl

theorem mem_of_isBase (table : ClassTable) (decl base : ClassDecl)
    (above : table.IsBase decl base) : base ∈ table := by
  obtain ⟨name, _, found⟩ := above
  exact table.mem_of_get? name base found

/- One turn of the climb, for each way in which it can go. -/

theorem basesFrom_top (table : ClassTable) (before : List String) (current : ClassDecl)
    (top : current.base? = none) : table.basesFrom before current = .ok [] := by
  unfold basesFrom
  simp only [top]

theorem basesFrom_unknown (table : ClassTable) (before : List String) (current : ClassDecl)
    (name : String) (named : current.base? = some name) (missing : table.get? name = none) :
    table.basesFrom before current = .error (.unknownBase name) := by
  unfold basesFrom
  simp only [named]
  split
  · rfl
  · next found => rw [missing] at found; cases found

theorem basesFrom_cycle (table : ClassTable) (before : List String) (current base : ClassDecl)
    (above : table.IsBase current base) (seen : base.ident ∈ before) :
    table.basesFrom before current = .error (.cycle base.ident) := by
  obtain ⟨name, named, found⟩ := above
  unfold basesFrom
  simp only [named]
  split
  · next missing => rw [found] at missing; cases missing
  · next next found' =>
    obtain rfl : base = next := Option.some.inj (found.symm.trans found')
    rw [dif_pos (List.contains_iff_mem.mpr seen)]

theorem basesFrom_step (table : ClassTable) (before : List String) (current base : ClassDecl)
    (above : table.IsBase current base) (fresh : base.ident ∉ before) :
    table.basesFrom before current =
      (table.basesFrom (base.ident :: before) base).map (base :: ·) := by
  obtain ⟨name, named, found⟩ := above
  rw [basesFrom]
  simp only [named]
  split
  · next missing => rw [found] at missing; cases missing
  · next next found' =>
    obtain rfl : base = next := Option.some.inj (found.symm.trans found')
    rw [dif_neg (fun seen => fresh (List.contains_iff_mem.mp seen))]

namespace Climb

theorem single (table : ClassTable) (decl : ClassDecl) : table.Climb decl [decl] :=
  ⟨rfl, .singleton _, List.nodup_singleton _⟩

theorem ne_nil {table : ClassTable} {decl : ClassDecl} {line : List ClassDecl}
    (climb : table.Climb decl line) : line ≠ [] := by
  rintro rfl
  cases climb.start

theorem extend {table : ClassTable} {decl last base : ClassDecl} {line : List ClassDecl}
    (climb : table.Climb decl line) (ends : line.getLast? = some last)
    (above : table.IsBase last base) (fresh : base.ident ∉ names line) :
    table.Climb decl (line ++ [base]) := by
  refine ⟨?_, ?_, ?_⟩
  · rw [List.head?_append, climb.start, Option.some_or]
  · refine List.IsChain.append climb.linked (.singleton _) ?_
    intro a isLast b isFirst
    rw [ends, Option.mem_some_iff] at isLast
    rw [List.head?_cons, Option.mem_some_iff] at isFirst
    exact isLast ▸ isFirst ▸ above
  · rw [names_append, names_singleton, List.nodup_append]
    refine ⟨climb.distinct, List.nodup_singleton _, ?_⟩
    intro name inLine other isBase same
    rw [List.mem_singleton] at isBase
    exact fresh (isBase ▸ same ▸ inLine)

theorem eq_cons {table : ClassTable} {decl : ClassDecl} {line : List ClassDecl}
    (climb : table.Climb decl line) : line = decl :: line.tail :=
  List.eq_cons_of_mem_head? climb.start

/-- All but the last class are a climb again, and the last one is the base of the one before. -/
theorem of_concat {table : ClassTable} {decl base : ClassDecl} {line : List ClassDecl}
    (climb : table.Climb decl (line ++ [base])) (more : line ≠ []) :
    table.Climb decl line ∧ base.ident ∉ names line ∧
      ∃ last, line.getLast? = some last ∧ table.IsBase last base := by
  obtain ⟨start, linked, distinct⟩ := climb
  rw [List.head?_append_of_ne_nil _ more] at start
  rw [names_append, names_singleton, List.nodup_append] at distinct
  obtain ⟨front, _, joint⟩ := List.isChain_append.mp linked
  have ends := List.getLast?_eq_some_getLast more
  refine ⟨⟨start, front, distinct.1⟩, ?_, line.getLast more, ends, joint _ ends base rfl⟩
  intro inLine
  exact distinct.2.2 _ inLine _ (List.mem_singleton_self _) rfl

/-- Below the last class the climb is that of the function, which goes on from there. -/
theorem ancestry_eq {table : ClassTable} {decl last : ClassDecl} {line : List ClassDecl}
    (climb : table.Climb decl line) (ends : line.getLast? = some last) :
    table.ancestry decl =
      (table.basesFrom (names line).reverse last).map (line ++ ·) := by
  induction line using List.reverseRecOn generalizing last with
  | nil => exact absurd rfl climb.ne_nil
  | append_singleton front base ih =>
    rw [List.getLast?_concat, Option.some.injEq] at ends
    subst ends
    by_cases alone : front = []
    · subst alone
      have same := climb.start
      rw [List.nil_append, List.head?_cons, Option.some.injEq] at same
      subst same
      rfl
    · obtain ⟨below, fresh, last, lastBelow, above⟩ := climb.of_concat alone
      have onward := table.basesFrom_step (names front).reverse last base above
        (fun seen => fresh (List.mem_reverse.mp seen))
      rw [ih below lastBelow, onward, names_append, names_singleton, List.reverse_append,
        List.reverse_singleton, List.singleton_append]
      cases table.basesFrom (base.ident :: (names front).reverse) base with
      | error fault => rfl
      | ok bases => simp only [Except.map, List.append_assoc, List.singleton_append]

theorem mem_table {table : ClassTable} {decl : ClassDecl} {line : List ClassDecl}
    (climb : table.Climb decl line) : ∀ c ∈ line.tail, c ∈ table := by
  have linked := climb.linked
  rw [climb.eq_cons] at linked
  clear climb
  generalize line.tail = bases at linked ⊢
  induction bases generalizing decl with
  | nil => exact fun c mem => absurd mem List.not_mem_nil
  | cons base rest ih =>
    obtain ⟨above, onward⟩ := List.isChain_cons_cons.mp linked
    exact List.forall_mem_cons.mpr ⟨table.mem_of_isBase decl base above, ih onward⟩

/-- All classes above the first one are in the table and no name comes twice, so that a climb
is no longer than the table. -/
theorem length_le {table : ClassTable} {decl : ClassDecl} {line : List ClassDecl}
    (climb : table.Climb decl line) (member : decl ∈ table) : line.length ≤ table.length := by
  have inside : line ⊆ table := by
    rw [climb.eq_cons]
    exact List.cons_subset.mpr ⟨member, climb.mem_table⟩
  have bound := (climb.distinct.subperm (List.map_subset _ inside)).length_le
  simpa only [names, List.length_map] using bound

theorem drop {table : ClassTable} {decl : ClassDecl} {way : List ClassDecl}
    (climb : table.Climb decl way) (k : Nat) (within : k < way.length) :
    table.Climb way[k] (way.drop k) := by
  refine ⟨List.head?_drop.trans (List.getElem?_eq_getElem within), climb.linked.drop k, ?_⟩
  rw [names, List.map_drop]
  exact climb.distinct.sublist (List.drop_sublist _ _)

theorem ancestry_of_top {table : ClassTable} {decl : ClassDecl} {line : List ClassDecl}
    (climb : table.Climb decl line) (top : EndsAtTop line) : table.ancestry decl = .ok line := by
  obtain ⟨last, ends, noBase⟩ := top
  rw [climb.ancestry_eq ends, table.basesFrom_top _ last noBase]
  simp only [Except.map, List.append_nil]

theorem ancestry_of_unknown {table : ClassTable} {decl : ClassDecl} {line : List ClassDecl}
    {name : String} (climb : table.Climb decl line) (unknown : table.EndsAtUnknown line name) :
    table.ancestry decl = .error (.unknownBase name) := by
  obtain ⟨last, ends, named, missing⟩ := unknown
  rw [climb.ancestry_eq ends, table.basesFrom_unknown _ last name named missing]
  rfl

theorem ancestry_of_cycle {table : ClassTable} {decl : ClassDecl} {line : List ClassDecl}
    {name : String} (climb : table.Climb decl line) (cycle : table.EndsInCycle line name) :
    table.ancestry decl = .error (.cycle name) := by
  obtain ⟨last, base, ends, above, rfl, seen⟩ := cycle
  rw [climb.ancestry_eq ends, table.basesFrom_cycle _ last base above (List.mem_reverse.mpr seen)]
  rfl

/-- Every climb goes on to an end. Each class that it meets leaves fewer to be seen. -/
theorem exists_end {table : ClassTable} {decl : ClassDecl} {line : List ClassDecl}
    (climb : table.Climb decl line) :
    ∃ whole, table.Climb decl whole ∧ (EndsAtTop whole ∨
      (∃ name, table.EndsAtUnknown whole name) ∨ ∃ name, table.EndsInCycle whole name) := by
  induction left : table.unseen (names line).reverse using Nat.strongRecOn generalizing line with
  | ind left ih =>
    have ends := List.getLast?_eq_some_getLast climb.ne_nil
    cases named : (line.getLast climb.ne_nil).base? with
    | none => exact ⟨line, climb, Or.inl ⟨_, ends, named⟩⟩
    | some name =>
      cases found : table.get? name with
      | none => exact ⟨line, climb, Or.inr (Or.inl ⟨name, _, ends, named, found⟩)⟩
      | some base =>
        have above : table.IsBase (line.getLast climb.ne_nil) base := ⟨name, named, found⟩
        by_cases seen : base.ident ∈ names line
        · exact ⟨line, climb, Or.inr (Or.inr ⟨base.ident, _, base, ends, above, rfl, seen⟩)⟩
        · have further := climb.extend ends above seen
          have fewer := table.unseen_lt (names line).reverse base (table.mem_of_isBase _ base above)
            (fun contained => seen (List.mem_reverse.mp (List.contains_iff_mem.mp contained)))
          refine ih _ ?_ further rfl
          rw [names_append, names_singleton, List.reverse_append, List.reverse_singleton,
            List.singleton_append]
          omega

end Climb

/-- The function has three outcomes, each with the climb that leads to it. -/
theorem ancestry_cases (table : ClassTable) (decl : ClassDecl) :
    ∃ line, table.Climb decl line ∧
      ((EndsAtTop line ∧ table.ancestry decl = .ok line) ∨
        (∃ name, table.EndsAtUnknown line name ∧
          table.ancestry decl = .error (.unknownBase name)) ∨
        ∃ name, table.EndsInCycle line name ∧ table.ancestry decl = .error (.cycle name)) := by
  obtain ⟨line, climb, top | ⟨name, unknown⟩ | ⟨name, cycle⟩⟩ :=
    (Climb.single table decl).exists_end
  · exact ⟨line, climb, Or.inl ⟨top, climb.ancestry_of_top top⟩⟩
  · exact ⟨line, climb, Or.inr (Or.inl ⟨name, unknown, climb.ancestry_of_unknown unknown⟩)⟩
  · exact ⟨line, climb, Or.inr (Or.inr ⟨name, cycle, climb.ancestry_of_cycle cycle⟩)⟩

theorem ancestry_eq_ok_iff (table : ClassTable) (decl : ClassDecl) (line : List ClassDecl) :
    table.ancestry decl = .ok line ↔ table.Climb decl line ∧ EndsAtTop line := by
  constructor
  · intro ok
    obtain ⟨found, climb, ⟨top, is⟩ | ⟨name, _, is⟩ | ⟨name, _, is⟩⟩ := table.ancestry_cases decl
    · obtain rfl : found = line := Except.ok.inj (is.symm.trans ok)
      exact ⟨climb, top⟩
    · cases is.symm.trans ok
    · cases is.symm.trans ok
  · rintro ⟨climb, top⟩
    exact climb.ancestry_of_top top

theorem ancestry_eq_unknownBase_iff (table : ClassTable) (decl : ClassDecl) (name : String) :
    table.ancestry decl = .error (.unknownBase name) ↔
      ∃ line, table.Climb decl line ∧ table.EndsAtUnknown line name := by
  constructor
  · intro failed
    obtain ⟨line, climb, ⟨_, is⟩ | ⟨other, unknown, is⟩ | ⟨other, _, is⟩⟩ :=
      table.ancestry_cases decl
    · cases is.symm.trans failed
    · obtain rfl : other = name := Fault.unknownBase.inj (Except.error.inj (is.symm.trans failed))
      exact ⟨line, climb, unknown⟩
    · cases is.symm.trans failed
  · rintro ⟨line, climb, unknown⟩
    exact climb.ancestry_of_unknown unknown

theorem ancestry_eq_cycle_iff (table : ClassTable) (decl : ClassDecl) (name : String) :
    table.ancestry decl = .error (.cycle name) ↔
      ∃ line, table.Climb decl line ∧ table.EndsInCycle line name := by
  constructor
  · intro failed
    obtain ⟨line, climb, ⟨_, is⟩ | ⟨other, _, is⟩ | ⟨other, cycle, is⟩⟩ :=
      table.ancestry_cases decl
    · cases is.symm.trans failed
    · cases is.symm.trans failed
    · obtain rfl : other = name := Fault.cycle.inj (Except.error.inj (is.symm.trans failed))
      exact ⟨line, climb, cycle⟩
  · rintro ⟨line, climb, cycle⟩
    exact climb.ancestry_of_cycle cycle

/-- The ancestry of a class in a line is the rest of the line from there. -/
theorem ancestry_drop (table : ClassTable) (decl : ClassDecl) (way : List ClassDecl)
    (found : table.ancestry decl = .ok way) (k : Nat) (within : k < way.length) :
    table.ancestry way[k] = .ok (way.drop k) := by
  obtain ⟨climb, last, ends, noBase⟩ := (table.ancestry_eq_ok_iff decl way).mp found
  refine (climb.drop k within).ancestry_of_top ⟨last, ?_, noBase⟩
  rw [List.getLast?_drop, if_neg (by omega), ends]

theorem exists_ancestry_of_mem (table : ClassTable) (decl : ClassDecl) (way : List ClassDecl)
    (found : table.ancestry decl = .ok way) (owner : ClassDecl) (member : owner ∈ way) :
    ∃ rest, table.ancestry owner = .ok rest := by
  obtain ⟨k, within, rfl⟩ := List.mem_iff_getElem.mp member
  exact ⟨way.drop k, table.ancestry_drop decl way found k within⟩

section Outline

variable (table : ClassTable) (f : ClassDecl → ClassDecl) (keeps : ClassDecl.KeepsLine f)

include keeps

theorem names_map (line : List ClassDecl) : names (line.map f) = names line := by
  unfold names
  rw [List.map_map]
  exact List.map_congr_left fun decl _ => keeps.ident decl

theorem get?_map (name : String) : get? (table.map f) name = (table.get? name).map f := by
  unfold get?
  rw [List.find?_map]
  simp only [Function.comp_def, keeps.ident]

theorem IsBase.map {decl base : ClassDecl} (above : table.IsBase decl base) :
    IsBase (table.map f) (f decl) (f base) := by
  obtain ⟨name, named, found⟩ := above
  refine ⟨name, (keeps.base decl).trans named, ?_⟩
  rw [get?_map table f keeps, found, Option.map_some]

theorem Climb.map {decl : ClassDecl} {line : List ClassDecl} (climb : table.Climb decl line) :
    Climb (table.map f) (f decl) (line.map f) where
  start := by rw [List.head?_map, climb.start, Option.map_some]
  linked := by
    rw [List.isChain_map]
    exact climb.linked.imp fun _ _ => IsBase.map table f keeps
  distinct := by
    rw [names_map f keeps]
    exact climb.distinct

/-- The line of a class depends on nothing but names and bases. -/
theorem ancestry_map (decl : ClassDecl) :
    ancestry (table.map f) (f decl) = (table.ancestry decl).map (List.map f) := by
  obtain ⟨line, climb, ends⟩ := table.ancestry_cases decl
  have along := Climb.map table f keeps climb
  have last (c : ClassDecl) (isLast : line.getLast? = some c) :
      (line.map f).getLast? = some (f c) := by
    rw [List.getLast?_map, isLast, Option.map_some]
  rcases ends with ⟨⟨c, isLast, top⟩, is⟩ | ⟨name, ⟨c, isLast, named, missing⟩, is⟩ |
    ⟨name, ⟨c, base, isLast, above, named, again⟩, is⟩
  · rw [is, along.ancestry_of_top ⟨f c, last c isLast, (keeps.base c).trans top⟩]
    rfl
  · have unknown : get? (table.map f) name = none := by
      rw [get?_map table f keeps, missing, Option.map_none]
    rw [is, along.ancestry_of_unknown ⟨f c, last c isLast, (keeps.base c).trans named, unknown⟩]
    rfl
  · have seen : name ∈ names (line.map f) := by rwa [names_map f keeps]
    rw [is, along.ancestry_of_cycle ⟨f c, f base, last c isLast, IsBase.map table f keeps above,
      (keeps.ident base).trans named, seen⟩]
    rfl

end Outline

/-- The line of a class is found exactly where the way up comes to a class without a base before
a name comes twice. Otherwise the first base that is missing or the first name that comes back is
named, and nothing else can happen. Every way up is bounded by the table, so it comes to one of
these ends, and a line is the line of each of its classes from there on. -/
theorem ancestry_total_and_exact (table : ClassTable) (decl : ClassDecl) :
    (∀ line, table.ancestry decl = .ok line ↔ table.Climb decl line ∧ EndsAtTop line) ∧
    (∀ name, table.ancestry decl = .error (.unknownBase name) ↔
      ∃ line, table.Climb decl line ∧ table.EndsAtUnknown line name) ∧
    (∀ name, table.ancestry decl = .error (.cycle name) ↔
      ∃ line, table.Climb decl line ∧ table.EndsInCycle line name) ∧
    ((∃ line, table.ancestry decl = .ok line) ∨
      (∃ name, table.ancestry decl = .error (.unknownBase name)) ∨
      ∃ name, table.ancestry decl = .error (.cycle name)) ∧
    (decl ∈ table → ∀ line, table.Climb decl line → line.length ≤ table.length) ∧
    ∀ way, table.ancestry decl = .ok way → ∀ (k : Nat) (within : k < way.length),
      table.ancestry way[k] = .ok (way.drop k) := by
  refine ⟨table.ancestry_eq_ok_iff decl, table.ancestry_eq_unknownBase_iff decl,
    table.ancestry_eq_cycle_iff decl, ?_, ?_, table.ancestry_drop decl⟩
  · obtain ⟨line, _, ⟨_, is⟩ | ⟨name, _, is⟩ | ⟨name, _, is⟩⟩ := table.ancestry_cases decl
    · exact Or.inl ⟨line, is⟩
    · exact Or.inr (Or.inl ⟨name, is⟩)
    · exact Or.inr (Or.inr ⟨name, is⟩)
  · exact fun member line climb => climb.length_le member

/-- Two classes named `Root`, and a class above a cycle that it is not part of. -/
def tangled : ClassTable := [
  .usual "Leaf" (some "Mid") [], .usual "Mid" (some "Root") [], .usual "Root" none [],
  .usual "Root" (some "Leaf") [], .usual "Tail" (some "A") [], .usual "A" (some "B") [],
  .usual "B" (some "A") []]

theorem ancestry_tangled : ∃ line,
    tangled.ancestry (.usual "Leaf" (some "Mid") []) = .ok line ∧
    line.length ≤ tangled.length ∧
    tangled.ancestry (.usual "Mid" (some "Root") []) = .ok (line.drop 1) ∧
    tangled.ancestry (.usual "Tail" (some "A") []) = .error (.cycle "A") := by
  have climb : tangled.Climb (.usual "Leaf" (some "Mid") [])
      [.usual "Leaf" (some "Mid") [], .usual "Mid" (some "Root") [], .usual "Root" none []] :=
    ⟨rfl, .cons_cons ⟨"Mid", rfl, rfl⟩ (.cons_cons ⟨"Root", rfl, rfl⟩ (.singleton _)), by decide⟩
  have round : tangled.Climb (.usual "Tail" (some "A") [])
      [.usual "Tail" (some "A") [], .usual "A" (some "B") [], .usual "B" (some "A") []] :=
    ⟨rfl, .cons_cons ⟨"A", rfl, rfl⟩ (.cons_cons ⟨"B", rfl, rfl⟩ (.singleton _)), by decide⟩
  obtain ⟨found, _, _, _, bounded, onward⟩ :=
    ancestry_total_and_exact tangled (.usual "Leaf" (some "Mid") [])
  obtain ⟨_, _, cycle, _⟩ := ancestry_total_and_exact tangled (.usual "Tail" (some "A") [])
  have leaf := (found _).mpr ⟨climb, _, rfl, rfl⟩
  refine ⟨_, leaf, bounded List.mem_cons_self _ climb, onward _ leaf 1 (by decide), ?_⟩
  exact (cycle "A").mpr
    ⟨_, round, _, .usual "A" (some "B") [], rfl, ⟨"A", rfl, rfl⟩, rfl, by decide⟩

end ClassTable

end ClassExpansion
