import ClassExpansion.Class.Metadata
import Mathlib.Data.List.Forall2

set_option autoImplicit false

/- What parsers read when they succeed: parts in sequence, groups, and entries with commas between
them. Entries that change a state one by one read what a list of the entries reads. -/
namespace ClassExpansion.Parser

section Reads

variable {α β : Type}

/-- From the first state the parser reads the value and comes to the second one. -/
def Reads (parser : Parser α) (s : ParseState) (value : α) (t : ParseState) : Prop :=
  parser s = .ok (value, t)

theorem reads_bind_iff (first : Parser α) (next : α → Parser β) (s : ParseState) (result : β)
    (t : ParseState) :
    Reads (first >>= next) s result t ↔
      ∃ value m, Reads first s value m ∧ Reads (next value) m result t := by
  unfold Reads
  change (first s >>= fun read => next read.1 read.2) = _ ↔ _
  cases first s with
  | error fault =>
    constructor
    · nofun
    · rintro ⟨_, _, impossible, _⟩
      cases impossible
  | ok read =>
    constructor
    · intro onward
      exact ⟨read.1, read.2, rfl, onward⟩
    · rintro ⟨_, _, same, onward⟩
      cases same
      exact onward

theorem reads_pure_iff (value result : α) (s t : ParseState) :
    Reads (pure value) s result t ↔ result = value ∧ t = s := by
  unfold Reads
  change Except.ok (value, s) = _ ↔ _
  rw [Except.ok.injEq, Prod.mk.injEq, eq_comm, eq_comm (a := s)]

theorem reads_get_iff (s result t : ParseState) : Reads get s result t ↔ result = s ∧ t = s :=
  reads_pure_iff s result s t

theorem not_reads_failAt (text : String) (s : ParseState) (result : α) (t : ParseState) :
    ¬ Reads (failAt text) s result t := nofun

theorem not_reads_failHere (text : String) (s : ParseState) (result : α) (t : ParseState) :
    ¬ Reads (failHere text) s result t := nofun

theorem reads_atEnd_iff (s : ParseState) (result : Bool) (t : ParseState) :
    Reads atEnd s result t ↔ result = s.rest.isEmpty ∧ t = s := reads_pure_iff _ result s t

theorem reads_peek_iff (ask : Peek) (s : ParseState) (result : Bool) (t : ParseState) :
    Reads (peek ask) s result t ↔ result = ask s.rest ∧ t = s := reads_pure_iff _ result s t

/-- Where nothing is read by asking, what follows is read from the same state. -/
theorem reads_ask_iff {ask : Parser Bool} {s : ParseState} {answer : Bool}
    (asks : ∀ result t, Reads ask s result t ↔ result = answer ∧ t = s) (yes no : Parser α)
    (result : α) (t : ParseState) :
    Reads (ask >>= fun found => if found then yes else no) s result t ↔
      (answer = true ∧ Reads yes s result t) ∨ (answer = false ∧ Reads no s result t) := by
  rw [reads_bind_iff]
  simp only [asks]
  constructor
  · rintro ⟨_, _, ⟨rfl, rfl⟩, onward⟩
    split at onward
    · next found => exact Or.inl ⟨found, onward⟩
    · next missing => exact Or.inr ⟨Bool.not_eq_true _ ▸ missing, onward⟩
  · rintro (⟨rfl, read⟩ | ⟨rfl, read⟩)
    · exact ⟨true, s, ⟨rfl, rfl⟩, read⟩
    · exact ⟨false, s, ⟨rfl, rfl⟩, read⟩

theorem reads_ifAtEnd_iff (yes no : Parser α) (s : ParseState) (result : α) (t : ParseState) :
    Reads (do if ← atEnd then yes else no) s result t ↔
      (s.rest = [] ∧ Reads yes s result t) ∨ (s.rest ≠ [] ∧ Reads no s result t) := by
  rw [reads_ask_iff (reads_atEnd_iff s), List.isEmpty_iff, List.isEmpty_eq_false_iff]

theorem reads_ifPeek_iff (ask : Peek) (yes no : Parser α) (s : ParseState) (result : α)
    (t : ParseState) :
    Reads (do if ← peek ask then yes else no) s result t ↔
      (ask s.rest = true ∧ Reads yes s result t) ∨ (ask s.rest = false ∧ Reads no s result t) :=
  reads_ask_iff (reads_peek_iff ask s) yes no result t

theorem reads_op_iff (text : String) (s : ParseState) (result : Tokens) (t : ParseState) :
    Reads (op text) s result t ↔
      ∃ rest, afterOperator text.toList s.rest = some rest ∧ result = Token.op text ∧
        t = { s with rest } := by
  unfold op
  simp only [reads_bind_iff, reads_get_iff]
  constructor
  · rintro ⟨_, _, ⟨rfl, rfl⟩, onward⟩
    split at onward
    · next rest found =>
      obtain ⟨_, _, moved, done⟩ := (reads_bind_iff _ _ _ _ _).mp onward
      obtain ⟨rfl, rfl⟩ := (reads_pure_iff _ _ _ _).mp done
      cases moved
      exact ⟨rest, found, rfl, rfl⟩
    · exact absurd onward (not_reads_failAt _ _ _ _)
  · rintro ⟨rest, found, rfl, rfl⟩
    refine ⟨s, s, ⟨rfl, rfl⟩, ?_⟩
    rw [found]
    rfl

/-- The operator can be read exactly if it is seen. -/
theorem exists_reads_op_iff (text : String) (s : ParseState) :
    (∃ result t, Reads (op text) s result t) ↔ isOp text s.rest = true := by
  simp only [reads_op_iff, isOp, Option.isSome_iff_exists]
  constructor
  · rintro ⟨_, _, rest, found, _⟩
    exact ⟨rest, found⟩
  · rintro ⟨rest, found⟩
    exact ⟨_, _, rest, found, rfl, rfl⟩

/-- The inside of a group is read apart, and what is left of it is remembered. -/
theorem reads_inside_iff (delimiter : Delimiter) (body : Parser α) (s : ParseState) (result : α)
    (t : ParseState) :
    Reads (inside delimiter body) s result t ↔
      ∃ content rest inner,
        (if delimiter = .invisible then s.rest else opened s.rest) =
          .group delimiter content :: rest ∧
        Reads body { s with rest := content, scope := delimiter } result inner ∧
        t = { s with
          rest := rest
          leftover := inner.leftover <|> unread delimiter inner.rest } := by
  unfold inside
  simp only [reads_bind_iff, reads_get_iff]
  constructor
  · rintro ⟨_, _, ⟨rfl, rfl⟩, onward⟩
    split at onward
    · next d content rest found =>
      split at onward
      · next same =>
        subst same
        simp only [reads_bind_iff, reads_get_iff, reads_pure_iff] at onward
        obtain ⟨_, _, entered, value, inner, read, _, _, ⟨rfl, rfl⟩, _, _, left, rfl, rfl⟩ := onward
        cases entered
        cases left
        exact ⟨content, rest, _, found, read, rfl⟩
      · exact absurd onward (not_reads_failHere _ _ _ _)
    · exact absurd onward (not_reads_failHere _ _ _ _)
  · rintro ⟨content, rest, inner, found, read, rfl⟩
    refine ⟨s, s, ⟨rfl, rfl⟩, ?_⟩
    simp only [found, if_pos, reads_bind_iff, reads_get_iff, reads_pure_iff]
    exact ⟨_, _, rfl, result, inner, read, inner, inner, ⟨rfl, rfl⟩, _, _, rfl, rfl, rfl⟩

/-- Where the inside of a group is read, the group is seen. -/
theorem isGroup_of_reads_inside (delimiter : Delimiter) (body : Parser α) (s : ParseState)
    (result : α) (t : ParseState) (read : Reads (inside delimiter body) s result t) :
    isGroup delimiter s.rest = true := by
  obtain ⟨content, rest, _, found, _⟩ := (reads_inside_iff delimiter body s result t).mp read
  unfold isGroup
  rw [found]
  exact decide_eq_true rfl

theorem runAll_eq_ok_iff (parser : Parser α) (tokens : Tokens) (result : α) :
    runAll parser tokens = .ok result ↔
      ∃ t, Reads parser ⟨tokens, .invisible, none⟩ result t ∧
        (t.leftover <|> unread .invisible t.rest) = none := by
  unfold runAll Reads
  change (parser ⟨tokens, .invisible, none⟩ >>= fun read => _) = _ ↔ _
  cases parser ⟨tokens, .invisible, none⟩ with
  | error fault =>
    constructor
    · nofun
    · rintro ⟨_, impossible, _⟩
      cases impossible
  | ok read =>
    obtain ⟨value, t⟩ := read
    simp only [Except.ok.injEq, Prod.mk.injEq, bind, Except.bind]
    constructor
    · intro done
      split at done
      · cases done
      · next complete => exact ⟨t, ⟨Except.ok.inj done, rfl⟩, complete⟩
    · rintro ⟨_, ⟨rfl, rfl⟩, complete⟩
      rw [complete]
      rfl

end Reads

section Entries

variable {σ α : Type}

/-- Behind an entry the input ends, or a comma stands there with more or nothing behind it. -/
inductive Separated (s : ParseState) : Bool → ParseState → Prop
  | ended (ended : s.rest = []) : Separated s false s
  | comma (t : ParseState) (sign : Tokens) (going : s.rest ≠ []) (read : Reads (op ",") s sign t) :
      Separated s (!t.rest.isEmpty) t

/-- Entries one after the other, at most as many as the number tells. -/
inductive Listed (item : NamePath → Parser α) : Nat → ParseState → List α → ParseState → Prop
  | spent (s : ParseState) : Listed item 0 s [] s
  | last (fuel : Nat) (s m e t : ParseState) (path : NamePath) (x : α)
      (named : Reads nestedPath s path m) (read : Reads (item path) m x e)
      (separated : Separated e false t) : Listed item (fuel + 1) s [x] t
  | more (fuel : Nat) (s m e u t : ParseState) (path : NamePath) (x : α) (xs : List α)
      (named : Reads nestedPath s path m) (read : Reads (item path) m x e)
      (separated : Separated e true u) (rest : Listed item fuel u xs t) :
      Listed item (fuel + 1) s (x :: xs) t

/-- Each thing takes the state a step further. -/
inductive Chain (adds : σ → α → σ → Prop) : σ → List α → σ → Prop
  | nil (a : σ) : Chain adds a [] a
  | cons (a b c : σ) (x : α) (xs : List α) (first : adds a x b) (rest : Chain adds b xs c) :
      Chain adds a (x :: xs) c

def nestedStep (entry : σ → NamePath → Parser σ) (read : σ) : Parser (σ × Bool) := do
  let read ← entry read (← nestedPath)
  if ← atEnd then return (read, false)
  let _ ← op ","
  return (read, !(← atEnd))

theorem reads_separator_iff (read out : σ) (more : Bool) (s t : ParseState) :
    Reads (do
      if ← atEnd then return (read, false)
      let _ ← op ","
      return (read, !(← atEnd))) s (out, more) t ↔ out = read ∧ Separated s more t := by
  rw [reads_ifAtEnd_iff]
  simp only [reads_bind_iff, reads_atEnd_iff, reads_pure_iff]
  constructor
  · rintro (⟨ended, same, rfl⟩ | ⟨going, sign, u, comma, _, _, ⟨rfl, rfl⟩, same, rfl⟩)
    · cases same
      exact ⟨rfl, .ended ended⟩
    · cases same
      exact ⟨rfl, .comma _ sign going comma⟩
  · rintro ⟨rfl, ⟨ended⟩ | ⟨_, sign, going, comma⟩⟩
    · exact Or.inl ⟨ended, rfl, rfl⟩
    · exact Or.inr ⟨going, sign, t, comma, _, t, ⟨rfl, rfl⟩, rfl, rfl⟩

theorem reads_nestedStep_iff (entry : σ → NamePath → Parser σ) (read out : σ) (more : Bool)
    (s t : ParseState) :
    Reads (nestedStep entry read) s (out, more) t ↔
      ∃ path m e, Reads nestedPath s path m ∧ Reads (entry read path) m out e ∧
        Separated e more t := by
  unfold nestedStep
  rw [reads_bind_iff]
  constructor
  · rintro ⟨path, m, named, onward⟩
    obtain ⟨value, e, entered, separator⟩ := (reads_bind_iff _ _ _ _ _).mp onward
    obtain ⟨rfl, separated⟩ := (reads_separator_iff _ _ _ _ _).mp separator
    exact ⟨path, m, e, named, entered, separated⟩
  · rintro ⟨path, m, e, named, entered, separated⟩
    have separator := (reads_separator_iff out out more e t).mpr ⟨rfl, separated⟩
    exact ⟨path, m, named, (reads_bind_iff _ _ _ _ _).mpr ⟨out, e, entered, separator⟩⟩

/-- Entries that change a state are entries that are read each by itself, and then taken into the
state in their order. What an entry reads may depend on the separator behind it. -/
theorem reads_repeatStep_iff (entry : σ → NamePath → Parser σ) (item : NamePath → Parser α)
    (adds : σ → α → σ → Prop)
    (each : ∀ read path s out t more u, Separated t more u →
      (Reads (entry read path) s out t ↔ ∃ x, Reads (item path) s x t ∧ adds read x out))
    (fuel : Nat) (start : σ) (s : ParseState) (out : σ) (t : ParseState) :
    Reads (repeatStep (nestedStep entry) fuel start) s out t ↔
      ∃ xs, Listed item fuel s xs t ∧ Chain adds start xs out := by
  induction fuel generalizing start s with
  | zero =>
    rw [repeatStep, reads_pure_iff]
    constructor
    · rintro ⟨rfl, rfl⟩
      exact ⟨[], .spent t, .nil out⟩
    · rintro ⟨_, listed, chain⟩
      cases listed
      cases chain
      exact ⟨rfl, rfl⟩
  | succ fuel ih =>
    -- A turn reads one entry, and whether there is another turn is told by the separator alone.
    rw [repeatStep, reads_bind_iff]
    simp only [Prod.exists, reads_nestedStep_iff]
    constructor
    · rintro ⟨value, more, u, ⟨path, m, e, named, entered, separated⟩, onward⟩
      obtain ⟨x, read, added⟩ := (each _ _ _ _ _ _ _ separated).mp entered
      cases more with
      | false =>
        obtain ⟨rfl, rfl⟩ := (reads_pure_iff _ _ _ _).mp onward
        exact ⟨[x], .last fuel s m e t path x named read separated,
          .cons start out out x [] added (.nil out)⟩
      | true =>
        obtain ⟨xs, listed, chain⟩ := (ih value u).mp onward
        exact ⟨x :: xs, .more fuel s m e u t path x xs named read separated listed,
          .cons start value out x xs added chain⟩
    · rintro ⟨_, listed, chain⟩
      cases listed with
      | last _ _ m e _ path x named read separated =>
        cases chain with
        | cons _ value _ _ _ added done =>
          cases done
          refine ⟨out, false, t, ⟨path, m, e, named, ?_, separated⟩, ?_⟩
          · exact (each _ _ _ _ _ _ _ separated).mpr ⟨x, read, added⟩
          · exact (reads_pure_iff _ _ _ _).mpr ⟨rfl, rfl⟩
      | more _ _ m e u _ path x xs named read separated rest =>
        cases chain with
        | cons _ value _ _ _ added onward =>
          refine ⟨value, true, u, ⟨path, m, e, named, ?_, separated⟩, ?_⟩
          · exact (each _ _ _ _ _ _ _ separated).mpr ⟨x, read, added⟩
          · exact (ih value u).mpr ⟨xs, rest, onward⟩

theorem reads_nestedEntries_iff (entry : σ → NamePath → Parser σ) (item : NamePath → Parser α)
    (adds : σ → α → σ → Prop)
    (each : ∀ read path s out t more u, Separated t more u →
      (Reads (entry read path) s out t ↔ ∃ x, Reads (item path) s x t ∧ adds read x out))
    (start : σ) (s : ParseState) (out : σ) (t : ParseState) :
    Reads (nestedEntries entry start) s out t ↔
      ∃ xs, Listed item (Token.sizeAll s.rest + 1) s xs t ∧ Chain adds start xs out := by
  rw [← reads_repeatStep_iff entry item adds each]
  change Reads (repeating (nestedStep entry) start) s out t ↔ _
  unfold repeating
  simp only [reads_bind_iff, reads_get_iff]
  constructor
  · rintro ⟨_, _, ⟨rfl, rfl⟩, read⟩
    exact read
  · intro read
    exact ⟨s, s, ⟨rfl, rfl⟩, read⟩

/-- The entries in the order in which they stand. -/
def entries (item : NamePath → Parser α) : Parser (List α) :=
  nestedEntries (fun read path => return read ++ [← item path]) []

theorem chain_foldl_iff (f : σ → α → σ) (start out : σ) (xs : List α) :
    Chain (fun a x b => b = f a x) start xs out ↔ out = xs.foldl f start := by
  induction xs generalizing start with
  | nil =>
    constructor
    · rintro ⟨⟩
      rfl
    · rintro rfl
      exact .nil _
  | cons x rest ih =>
    rw [List.foldl_cons, ← ih]
    constructor
    · rintro (_ | ⟨_, _, _, _, _, rfl, onward⟩)
      exact onward
    · intro onward
      exact .cons _ _ _ x rest rfl onward

/-- Where a thing is added by what it tells, a list of things is added by the list of what they
tell. -/
theorem chain_tells_iff {β : Type} (tells : α → β → Prop) (adds : σ → β → σ → Prop) (start out : σ)
    (xs : List α) :
    Chain (fun a x b => ∃ y, tells x y ∧ adds a y b) start xs out ↔
      ∃ ys, List.Forall₂ tells xs ys ∧ Chain adds start ys out := by
  induction xs generalizing start with
  | nil =>
    simp only [List.forall₂_nil_left_iff, exists_eq_left]
    constructor
    · rintro ⟨⟩
      exact .nil _
    · rintro ⟨⟩
      exact .nil _
  | cons x rest ih =>
    simp only [List.forall₂_cons_left_iff]
    constructor
    · rintro (_ | ⟨_, b, _, _, _, ⟨y, said, added⟩, onward⟩)
      obtain ⟨ys, each, chain⟩ := (ih b).mp onward
      exact ⟨y :: ys, ⟨y, ys, said, each, rfl⟩, .cons _ b _ y ys added chain⟩
    · rintro ⟨_, ⟨y, ys, said, each, rfl⟩, chain⟩
      cases chain with
      | cons _ b _ _ _ added onward =>
        exact .cons _ b _ x rest ⟨y, said, added⟩ ((ih b).mpr ⟨ys, each, onward⟩)

theorem reads_entries_iff (item : NamePath → Parser α) (s : ParseState) (xs : List α)
    (t : ParseState) :
    Reads (entries item) s xs t ↔ Listed item (Token.sizeAll s.rest + 1) s xs t := by
  unfold entries
  rw [reads_nestedEntries_iff _ item fun read x next => next = read ++ [x]]
  · simp only [chain_foldl_iff (fun read x => read ++ [x]), List.foldl_append_eq_append,
      ← List.flatMap_def, List.flatMap_singleton', List.nil_append, exists_eq_right']
  · intro read path s out t more u _
    simp only [reads_bind_iff, reads_pure_iff]
    constructor
    · rintro ⟨x, _, found, rfl, rfl⟩
      exact ⟨x, found, rfl⟩
    · rintro ⟨x, found, rfl⟩
      exact ⟨x, t, found, rfl, rfl⟩

theorem not_reads_nestedPath_of_nil (s : ParseState) (ended : s.rest = []) (path : NamePath)
    (t : ParseState) : ¬ Reads nestedPath s path t := by
  obtain ⟨_, scope, leftover⟩ := s
  subst ended
  nofun

/-- Where entries are read there is one at least. -/
theorem ne_nil_of_reads_entries (item : NamePath → Parser α) (s : ParseState) (xs : List α)
    (t : ParseState) (read : Reads (entries item) s xs t) : s.rest ≠ [] ∧ xs ≠ [] := by
  have going : ∀ path m, Reads nestedPath s path m → s.rest ≠ [] := by
    intro path m named ended
    exact not_reads_nestedPath_of_nil s ended path m named
  cases (reads_entries_iff item s xs t).mp read with
  | last _ _ m _ _ path _ named => exact ⟨going path m named, List.cons_ne_nil _ _⟩
  | more _ _ m _ _ _ path _ _ named => exact ⟨going path m named, List.cons_ne_nil _ _⟩

/-- Entries, of which there may be none. -/
def anyEntries (item : NamePath → Parser α) : Parser (List α) := do
  if ← atEnd then return [] else entries item

theorem reads_anyEntries_iff (item : NamePath → Parser α) (s : ParseState) (xs : List α)
    (t : ParseState) :
    Reads (anyEntries item) s xs t ↔
      (s.rest = [] ∧ xs = [] ∧ t = s) ∨ Reads (entries item) s xs t := by
  unfold anyEntries
  rw [reads_ifAtEnd_iff, reads_pure_iff]
  constructor
  · rintro (ended | ⟨_, read⟩)
    · exact Or.inl ended
    · exact Or.inr read
  · rintro (ended | read)
    · exact Or.inl ended
    · exact Or.inr ⟨(ne_nil_of_reads_entries item s xs t read).1, read⟩

/-- The text is the entry wherever it stands: at the end, or with a comma behind it. -/
def StandsFor (item : NamePath → Parser α) (scope : Delimiter) (text : Tokens) (x : α) : Prop :=
  ∀ behind, (behind = [] ∨ ∃ rest, behind = Token.op "," ++ rest) →
    Reads (nestedPath >>= item) ⟨text ++ behind, scope, none⟩ x ⟨behind, scope, none⟩

theorem StandsFor.ne_nil {item : NamePath → Parser α} {scope : Delimiter} {text : Tokens} {x : α}
    (stands : StandsFor item scope text x) : text ≠ [] := by
  rintro rfl
  obtain ⟨path, m, named, _⟩ := (reads_bind_iff _ _ _ _ _).mp (stands [] (Or.inl rfl))
  exact not_reads_nestedPath_of_nil _ rfl path m named

theorem commaSeparated_cons_cons (text next : Tokens) (texts : List Tokens) :
    commaSeparated (text :: next :: texts) =
      text ++ (Token.op "," ++ commaSeparated (next :: texts)) := List.append_assoc _ _ _

theorem length_le_sizeAll_commaSeparated (text : Tokens) (texts : List Tokens) :
    texts.length ≤ Token.sizeAll (commaSeparated (text :: texts)) := by
  induction texts generalizing text with
  | nil => exact Nat.zero_le _
  | cons next texts ih =>
    have further := ih next
    have comma : Token.sizeAll (Token.op ",") = 1 := rfl
    rw [commaSeparated_cons_cons, Token.sizeAll_append, Token.sizeAll_append, comma,
      List.length_cons]
    omega

theorem sizeAll_le_of_mem (texts : List Tokens) (text : Tokens) (member : text ∈ texts) :
    Token.sizeAll text ≤ Token.sizeAll (commaSeparated texts) := by
  induction texts with
  | nil => cases member
  | cons first rest ih =>
    cases rest with
    | nil =>
      rw [List.mem_singleton.mp member]
      exact Nat.le_refl _
    | cons next texts =>
      rw [commaSeparated_cons_cons, Token.sizeAll_append, Token.sizeAll_append]
      rcases List.mem_cons.mp member with rfl | later
      · omega
      · have within := ih later
        omega

theorem commaSeparated_ne_nil (text : Tokens) (texts : List Tokens) (some : text ≠ []) :
    commaSeparated (text :: texts) ≠ [] := by
  cases texts with
  | nil => exact some
  | cons next texts =>
    rw [commaSeparated_cons_cons]
    exact List.append_ne_nil_of_left_ne_nil some _

theorem listed_of_standsFor (item : NamePath → Parser α) (scope : Delimiter) (text : Tokens)
    (x : α) (texts : List Tokens) (xs : List α) (first : StandsFor item scope text x)
    (each : List.Forall₂ (StandsFor item scope) texts xs) (fuel : Nat)
    (enough : texts.length ≤ fuel) :
    Listed item (fuel + 1) ⟨commaSeparated (text :: texts), scope, none⟩ (x :: xs)
      ⟨[], scope, none⟩ := by
  -- The first text stays apart: what stands behind it is the end or a comma with the others.
  induction each generalizing text x fuel with
  | nil =>
    have read := first [] (Or.inl rfl)
    rw [List.append_nil] at read
    obtain ⟨path, m, named, entered⟩ := (reads_bind_iff _ _ _ _ _).mp read
    exact .last fuel _ m _ _ path x named entered (.ended rfl)
  | @cons next y texts xs second _ ih =>
    obtain ⟨fuel, rfl⟩ : ∃ less, fuel = less + 1 :=
      Nat.exists_eq_add_one_of_ne_zero (Nat.ne_of_gt (Nat.lt_of_lt_of_le (Nat.succ_pos _) enough))
    have behind := commaSeparated_ne_nil next texts second.ne_nil
    rw [commaSeparated_cons_cons]
    have read := first (Token.op "," ++ commaSeparated (next :: texts)) (Or.inr ⟨_, rfl⟩)
    obtain ⟨path, m, named, entered⟩ := (reads_bind_iff _ _ _ _ _).mp read
    have further := ih next y second fuel (Nat.le_of_succ_le_succ enough)
    have comma : Reads (op ",") ⟨Token.op "," ++ commaSeparated (next :: texts), scope, none⟩
        (Token.op ",") ⟨commaSeparated (next :: texts), scope, none⟩ := rfl
    have separated := Separated.comma _ _ (List.cons_ne_nil _ _) comma
    rw [List.isEmpty_eq_false_iff.mpr behind] at separated
    exact .more _ _ m _ _ _ path x _ named entered separated further

/-- Texts with commas between them are read as the list of what they stand for. -/
theorem reads_anyEntries_of_standsFor (item : NamePath → Parser α) (scope : Delimiter)
    (texts : List Tokens) (xs : List α) (each : List.Forall₂ (StandsFor item scope) texts xs) :
    Reads (anyEntries item) ⟨commaSeparated texts, scope, none⟩ xs ⟨[], scope, none⟩ := by
  rw [reads_anyEntries_iff]
  cases each with
  | nil => exact Or.inl ⟨rfl, rfl, rfl⟩
  | @cons text x texts xs first rest =>
    right
    rw [reads_entries_iff]
    exact listed_of_standsFor item scope text x texts xs first rest _
      (length_le_sizeAll_commaSeparated text texts)

end Entries

end ClassExpansion.Parser
