import ClassExpansion.Class.FieldList
import Mathlib.Data.List.Induction
import Mathlib.Data.List.Forall2
import Mathlib.Data.List.Nodup

set_option autoImplicit false

/- Lists in which a later entry replaces an earlier one of its name: each name stands where it
comes first, and the entry is the one that comes last. -/
namespace ClassExpansion

section LastNamed

variable {α β : Type}

/-- The last entry with the name. -/
def lastNamed? (nameOf : α → String) (entries : List α) (name : String) : Option α :=
  entries.reverse.find? fun entry => nameOf entry == name

theorem lastNamed?_append (nameOf : α → String) (front back : List α) (name : String) :
    lastNamed? nameOf (front ++ back) name =
      (lastNamed? nameOf back name).or (lastNamed? nameOf front name) := by
  simp only [lastNamed?, List.reverse_append, List.find?_append]

theorem lastNamed?_concat_self (nameOf : α → String) (front : List α) (entry : α) :
    lastNamed? nameOf (front ++ [entry]) (nameOf entry) = some entry := by
  simp [lastNamed?]

theorem lastNamed?_concat_other (nameOf : α → String) (front : List α) (entry : α)
    (name : String) (other : name ≠ nameOf entry) :
    lastNamed? nameOf (front ++ [entry]) name = lastNamed? nameOf front name := by
  simp [lastNamed?, other.symm]

theorem lastNamed?_eq_none_iff (nameOf : α → String) (entries : List α) (name : String) :
    lastNamed? nameOf entries name = none ↔ ∀ entry ∈ entries, nameOf entry ≠ name := by
  simp only [lastNamed?, List.find?_eq_none, List.mem_reverse, beq_iff_eq, ne_eq]

theorem mem_of_lastNamed? (nameOf : α → String) (entries : List α) (name : String) (entry : α)
    (last : lastNamed? nameOf entries name = some entry) :
    entry ∈ entries ∧ nameOf entry = name := by
  unfold lastNamed? at last
  have named := List.find?_some last
  exact ⟨List.mem_reverse.mp (List.mem_of_find?_eq_some last), beq_iff_eq.mp named⟩

/-- Lists that correspond entry by entry, name by name, have corresponding last entries. -/
theorem exists_lastNamed?_of_forall₂ (nameOf : α → String) (nameOf' : β → String)
    (related : α → β → Prop) (keeps : ∀ a b, related a b → nameOf' b = nameOf a)
    (as : List α) (bs : List β) (all : List.Forall₂ related as bs) (name : String) (b : β)
    (last : lastNamed? nameOf' bs name = some b) :
    ∃ a, lastNamed? nameOf as name = some a ∧ related a b := by
  have reversed := List.rel_reverse all
  unfold lastNamed? at last ⊢
  generalize as.reverse = as at reversed ⊢
  generalize bs.reverse = bs at reversed last
  induction reversed with
  | nil => cases last
  | @cons a first as bs pair rest ih =>
    rw [List.find?_cons] at last ⊢
    rw [← keeps a first pair]
    by_cases named : nameOf' first = name
    · rw [beq_iff_eq.mpr named] at last ⊢
      obtain rfl : first = b := Option.some.inj last
      exact ⟨a, rfl, pair⟩
    · rw [beq_eq_false_iff_ne.mpr named] at last ⊢
      exact ih last

end LastNamed

theorem map_eq_map_iff_forall₂ {α β γ : Type} (f : α → γ) (g : β → γ) (as : List α)
    (bs : List β) : as.map f = bs.map g ↔ List.Forall₂ (fun a b => f a = g b) as bs := by
  rw [← List.forall₂_eq_eq_eq, List.forall₂_map_left_iff, List.forall₂_map_right_iff]

theorem exists_mem_of_forall₂ {α β : Type} (related : α → β → Prop) (as : List α) (bs : List β)
    (all : List.Forall₂ related as bs) (b : β) (member : b ∈ bs) : ∃ a ∈ as, related a b := by
  induction all with
  | nil => cases member
  | @cons a first as bs pair rest ih =>
    rcases List.mem_cons.mp member with same | later
    · exact ⟨a, List.mem_cons_self, same ▸ pair⟩
    · obtain ⟨other, inRest, related⟩ := ih later
      exact ⟨other, List.mem_cons_of_mem a inRest, related⟩

/-- If each element has a partner, the partners form a list. -/
theorem forall_exists_iff_forall₂ {α β : Type} (related : α → β → Prop) (as : List α) :
    (∀ a ∈ as, ∃ b, related a b) ↔ ∃ bs, List.Forall₂ related as bs := by
  constructor
  · intro each
    induction as with
    | nil => exact ⟨[], .nil⟩
    | cons a rest ih =>
      obtain ⟨b, pair⟩ := each a List.mem_cons_self
      obtain ⟨bs, all⟩ := ih fun other member => each other (List.mem_cons_of_mem a member)
      exact ⟨b :: bs, .cons pair all⟩
  · rintro ⟨bs, all⟩ a member
    obtain ⟨b, _, pair⟩ := exists_mem_of_forall₂ (fun b a => related a b) bs as all.flip a member
    exact ⟨b, pair⟩

theorem countP_eq_of_forall₂ {α β : Type} (related : α → β → Prop) (p : α → Bool) (q : β → Bool)
    (same : ∀ a b, related a b → p a = q b) (as : List α) (bs : List β)
    (all : List.Forall₂ related as bs) : as.countP p = bs.countP q := by
  induction all with
  | nil => rfl
  | cons pair _ ih => rw [List.countP_cons, List.countP_cons, ih, same _ _ pair]

theorem eraseDups_concat (names : List String) (name : String) :
    (names ++ [name]).eraseDups =
      if name ∈ names then names.eraseDups else names.eraseDups ++ [name] := by
  rw [List.eraseDups_append]
  by_cases known : name ∈ names
  · simp [known, List.removeAll]
  · simp [known, List.removeAll, List.eraseDups_cons]

section PutNamed

variable {α : Type} (nameOf : α → String)

/-- Puts an entry in place of the earlier ones with its name, or at the end. -/
def putNamed (entries : List α) (entry : α) : List α :=
  if entries.any fun seen => nameOf seen == nameOf entry then
    entries.map fun seen => if nameOf seen == nameOf entry then entry else seen
  else entries ++ [entry]

theorem map_putNamed (entries : List α) (entry : α) :
    (putNamed nameOf entries entry).map nameOf =
      if nameOf entry ∈ entries.map nameOf then entries.map nameOf
      else entries.map nameOf ++ [nameOf entry] := by
  have known : (entries.any fun seen => nameOf seen == nameOf entry) = true ↔
      nameOf entry ∈ entries.map nameOf := by
    simp only [List.any_eq_true, beq_iff_eq, List.mem_map]
  unfold putNamed
  by_cases any : entries.any fun seen => nameOf seen == nameOf entry
  · rw [if_pos any, if_pos (known.mp any), List.map_map]
    apply List.map_congr_left
    intro seen _
    by_cases same : nameOf seen = nameOf entry
    · simp only [Function.comp_apply, same, beq_self_eq_true, ↓reduceIte]
    · simp only [Function.comp_apply, beq_iff_eq, same, ↓reduceIte]
  · rw [if_neg any, if_neg (mt known.mpr any), List.map_append, List.map_singleton]

theorem mem_putNamed (entries : List α) (entry seen : α)
    (member : seen ∈ putNamed nameOf entries entry) :
    seen = entry ∨ (seen ∈ entries ∧ nameOf seen ≠ nameOf entry) := by
  unfold putNamed at member
  split at member
  · obtain ⟨old, inEntries, is⟩ := List.mem_map.mp member
    by_cases same : nameOf old = nameOf entry
    · rw [if_pos (beq_iff_eq.mpr same)] at is
      exact Or.inl is.symm
    · rw [if_neg (by rw [beq_iff_eq]; exact same)] at is
      exact Or.inr (is ▸ ⟨inEntries, same⟩)
  · next fresh =>
    rcases List.mem_append.mp member with inEntries | isEntry
    · refine Or.inr ⟨inEntries, fun same => fresh ?_⟩
      exact List.any_eq_true.mpr ⟨seen, inEntries, beq_iff_eq.mpr same⟩
    · exact Or.inl (List.mem_singleton.mp isEntry)

theorem map_foldl_putNamed (entries : List α) :
    (entries.foldl (putNamed nameOf) []).map nameOf = (entries.map nameOf).eraseDups := by
  induction entries using List.reverseRecOn with
  | nil => rfl
  | append_singleton front entry ih =>
    rw [List.foldl_concat, map_putNamed, ih, List.map_append, List.map_singleton,
      eraseDups_concat]
    simp only [List.mem_eraseDups]

theorem nodup_foldl_putNamed (entries : List α) :
    ((entries.foldl (putNamed nameOf) []).map nameOf).Nodup := by
  induction entries using List.reverseRecOn with
  | nil => exact List.nodup_nil
  | append_singleton front entry ih =>
    rw [List.foldl_concat, map_putNamed]
    split
    · exact ih
    · next fresh =>
      rw [← List.concat_eq_append]
      exact List.Nodup.concat fresh ih

theorem lastNamed?_of_mem_foldl_putNamed (entries : List α) (entry : α)
    (member : entry ∈ entries.foldl (putNamed nameOf) []) :
    lastNamed? nameOf entries (nameOf entry) = some entry := by
  induction entries using List.reverseRecOn with
  | nil => exact absurd member List.not_mem_nil
  | append_singleton front newest ih =>
    rw [List.foldl_concat] at member
    rcases mem_putNamed nameOf _ _ _ member with isNewest | ⟨earlier, other⟩
    · rw [isNewest]
      exact lastNamed?_concat_self nameOf front newest
    · rw [lastNamed?_concat_other nameOf front newest (nameOf entry) other]
      exact ih earlier

/-- The only entry of a name is the one that comes last. -/
theorem find?_foldl_putNamed (entries : List α) (name : String) :
    (entries.foldl (putNamed nameOf) []).find? (fun entry => nameOf entry == name) =
      lastNamed? nameOf entries name := by
  cases found : (entries.foldl (putNamed nameOf) []).find? fun entry => nameOf entry == name with
  | some entry =>
    have named := List.find?_some found
    rw [← beq_iff_eq.mp named]
    exact (lastNamed?_of_mem_foldl_putNamed nameOf entries entry
      (List.mem_of_find?_eq_some found)).symm
  | none =>
    symm
    rw [lastNamed?_eq_none_iff]
    intro entry member named
    have listed : name ∈ (entries.foldl (putNamed nameOf) []).map nameOf := by
      rw [map_foldl_putNamed, List.mem_eraseDups, ← named]
      exact List.mem_map_of_mem member
    obtain ⟨kept, inList, same⟩ := List.mem_map.mp listed
    exact List.find?_eq_none.mp found kept inList (beq_iff_eq.mpr same)

/-- Entries of distinct names stay as they are. -/
theorem foldl_putNamed_of_nodup (entries : List α) (distinct : (entries.map nameOf).Nodup) :
    entries.foldl (putNamed nameOf) [] = entries := by
  induction entries using List.reverseRecOn with
  | nil => rfl
  | append_singleton front entry ih =>
    rw [List.map_append, List.nodup_append] at distinct
    obtain ⟨inFront, _, apart⟩ := distinct
    rw [List.foldl_concat, ih inFront, putNamed, if_neg]
    intro any
    obtain ⟨seen, member, same⟩ := List.any_eq_true.mp any
    exact apart _ (List.mem_map_of_mem member) _ List.mem_cons_self (beq_iff_eq.mp same)

end PutNamed

namespace FieldList

theorem map_name_foldl_put (fields : FieldList) :
    (fields.foldl put []).map Field.name = (fields.map Field.name).eraseDups :=
  map_foldl_putNamed Field.name fields

theorem nodup_foldl_put (fields : FieldList) :
    ((fields.foldl put []).map Field.name).Nodup := nodup_foldl_putNamed Field.name fields

theorem lastNamed?_of_mem_foldl_put (fields : FieldList) (field : Field)
    (member : field ∈ fields.foldl put []) :
    lastNamed? Field.name fields field.name = some field :=
  lastNamed?_of_mem_foldl_putNamed Field.name fields field member

end FieldList

end ClassExpansion
