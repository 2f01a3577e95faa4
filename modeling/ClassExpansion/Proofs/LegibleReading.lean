import ClassExpansion.Proofs.ParserRuns
import ClassExpansion.Proofs.PassedTokens
import ClassExpansion.Source.Grammar.Function
import Mathlib.Data.Option.Basic

set_option autoImplicit false

/- What parsers make of legible tokens. A judgement tells where a parser stands behind the tokens it
has passed, and what its value is like; there is one rule for each way to put parsers together. -/
namespace ClassExpansion

open Token (Legible LegibleBefore IsLegible)

theorem Token.legible_ident (name : String) (usable : Name.isUsable name = true) :
    Legible [ident name] := ⟨usable, trivial, trivial⟩

theorem Token.legible_literal (text : String) (known : Lexer.IsLiteral text) :
    Legible [literal text] := ⟨known, trivial, trivial⟩

theorem Token.Legible.group {body : Tokens} (legible : Legible body) (delimiter : Delimiter) :
    Legible [.group delimiter body] := (legible_group_iff delimiter body).mpr legible

/-- The characters of an operator that ask for nothing behind them. -/
def Token.isPlainSign (c : Char) : Bool :=
  Lexer.punctuation.contains c && c ≠ '\x27' && c ≠ '/'

theorem Token.legible_punct (c : Char) (joint : Bool) (isPlain : isPlainSign c = true) :
    Legible [punct c joint] := by
  simp only [isPlainSign, Bool.and_eq_true, decide_eq_true_eq, List.contains_iff_mem] at isPlain
  obtain ⟨⟨known, apostrophe⟩, slash⟩ := isPlain
  exact ⟨known, ⟨fun is => absurd is apostrophe, fun is => absurd is slash⟩, trivial⟩

theorem Token.legible_operator (chars : List Char) (plain : chars.all isPlainSign = true) :
    Legible (operator chars) := by
  induction chars with
  | nil => exact legible_nil
  | cons c rest ih =>
    rw [List.all_cons, Bool.and_eq_true] at plain
    cases rest with
    | nil => exact legible_punct c false plain.1
    | cons d more => exact (legible_punct c true plain.1).append (ih plain.2)

theorem Token.legible_op (text : String) (plain : text.toList.all isPlainSign = true) :
    Legible (op text) := legible_operator _ plain

theorem Token.legible_lifetime (name : String) (usable : Name.isUsable name = true) :
    Legible [.punct '\x27' true, .ident name] := by
  have known : '\x27' ∈ Lexer.punctuation := by decide
  refine ⟨known, ⟨fun _ => ⟨rfl, .ident name, rfl, trivial⟩, fun is => ?_⟩, usable, trivial, trivial⟩
  exact absurd is (by decide)

theorem Token.legible_flatMap {α : Type} (f : α → Tokens) (xs : List α)
    (each : ∀ x ∈ xs, Legible (f x)) :
    Legible (xs.flatMap f) := by
  induction xs with
  | nil => exact Token.legible_nil
  | cons x rest ih =>
    rw [List.forall_mem_cons] at each
    exact each.1.append (ih each.2)

theorem Token.legible_flatten (parts : List Tokens) (each : ∀ part ∈ parts, Legible part) :
    Legible parts.flatten := by
  have joined := legible_flatMap id parts each
  rwa [List.flatMap_id] at joined

theorem forall_mem_some {α : Type} {property : α → Prop} {value : α} (holds : property value) :
    ∀ x ∈ some value, property x := by
  rintro _ ⟨⟩
  exact holds

theorem legible_getD (found : Option Tokens) (known : ∀ tokens ∈ found, Legible tokens) :
    Legible (found.getD []) := by
  cases found with
  | none => exact Token.legible_nil
  | some tokens => exact known tokens rfl

namespace Parser

/-- How a parser stands behind what it has passed since it was at the marks. -/
structure Stands (footing : Footing) (marks : List Tokens) (rest : Tokens) : Prop where
  legible : Legible rest
  leaves : ∀ start ∈ marks, Leaves footing start rest

section Places

variable {footing : Footing} {marks : List Tokens} {rest : Tokens} {t : Token}

theorem stands_of_legible (legible : Legible rest) (footing : Footing) :
    Stands footing [] rest := ⟨legible, nofun⟩

theorem Stands.weaken (stands : Stands .firm marks rest) (footing : Footing) :
    Stands footing marks rest :=
  ⟨stands.legible, fun start member => (stands.leaves start member).weaken footing⟩

theorem Stands.mark (stands : Stands footing marks rest) : Stands footing (rest :: marks) rest := by
  refine ⟨stands.legible, fun start member => ?_⟩
  rcases List.mem_cons.mp member with rfl | member
  · exact leaves_start footing stands.legible
  · exact stands.leaves start member

theorem Stands.unmark {mark : Tokens} (stands : Stands footing (mark :: marks) rest) :
    Stands footing marks rest :=
  ⟨stands.legible, fun start member => stands.leaves start (List.mem_cons_of_mem _ member)⟩

theorem Stands.enter {last : Tokens} (stands : Stands footing marks rest)
    (passes : Passes rest [] last) : Stands footing marks last :=
  ⟨passes.legible stands.legible, fun start member => (stands.leaves start member).enter passes⟩

theorem Stands.opened (stands : Stands footing marks rest) :
    Stands footing marks (opened rest) := stands.enter (passes_opened rest)

theorem Stands.isLegible (stands : Stands footing marks (t :: rest)) : t.IsLegible :=
  (leaves_start footing stands.legible).isLegible

theorem Stands.step (stands : Stands footing marks (t :: rest)) : Stands .loose marks rest :=
  ⟨stands.legible.tail, fun start member => (stands.leaves start member).step⟩

/-- A token that asks for nothing can be passed. -/
theorem Stands.pass (stands : Stands footing marks (t :: rest)) (fits : t.FitsBefore none) :
    Stands .firm marks rest :=
  ⟨stands.legible.tail, fun start member => (stands.leaves start member).pass .firm fits⟩

theorem Stands.body {delimiter : Delimiter} {body : Tokens}
    (stands : Stands footing marks (.group delimiter body :: rest)) : Legible body :=
  stands.legible.body

/-- With the last token, all is passed. -/
theorem Stands.finish (stands : Stands footing marks rest) : Stands .firm marks [] := by
  induction rest generalizing footing with
  | nil =>
    refine ⟨stands.legible, fun start member => ?_⟩
    obtain ⟨legible, passed, passes, fits⟩ := stands.leaves start member
    refine ⟨legible, passed, passes, ?_⟩
    cases footing with
    | firm => exact fits
    | loose => exact fits
  | cons t rest ih => exact ih stands.step

end Places

section Judgement

variable {α β : Type} {before middle after : Footing} {marks : List Tokens}

/-- From where it stands the parser comes to stand as told, and its value is as the property
says. -/
def Yields (before after : Footing) (marks : List Tokens) (parser : Parser α)
    (property : α → Prop) : Prop :=
  ∀ s value t, Stands before marks s.rest → Reads parser s value t →
    Stands after marks t.rest ∧ property value

variable {property : α → Prop} {known : β → Prop}

theorem Yields.imp {other : α → Prop} {parser : Parser α}
    (yields : Yields before after marks parser property)
    (weaker : ∀ value, property value → other value) :
    Yields before after marks parser other := by
  intro s value t stands read
  obtain ⟨there, holds⟩ := yields s value t stands read
  exact ⟨there, weaker value holds⟩

theorem Yields.weaken {parser : Parser α} (yields : Yields before .firm marks parser property) :
    Yields before after marks parser property := by
  intro s value t stands read
  obtain ⟨there, holds⟩ := yields s value t stands read
  exact ⟨there.weaken after, holds⟩

theorem yields_pure {value : α} (holds : property value) :
    Yields before before marks (pure value) property := by
  intro s result t stands read
  obtain ⟨rfl, rfl⟩ := (reads_pure_iff _ _ _ _).mp read
  exact ⟨stands, holds⟩

theorem Yields.bind {first : Parser β} {next : β → Parser α}
    (begun : Yields before middle marks first known)
    (onward : ∀ value, known value → Yields middle after marks (next value) property) :
    Yields before after marks (first >>= next) property := by
  intro s result t stands read
  obtain ⟨value, m, first, done⟩ := (reads_bind_iff _ _ _ _ _).mp read
  obtain ⟨there, holds⟩ := begun s value m stands first
  exact onward value holds m result t there done

/-- Sequence, where the first part asks for nothing behind it. -/
theorem yields_bind (known : β → Prop) {first : Parser β} {next : β → Parser α}
    (begun : Yields before .firm marks first known)
    (onward : ∀ value, known value → Yields .firm after marks (next value) property) :
    Yields before after marks (first >>= next) property := begun.bind onward

theorem yields_ite {condition : Prop} [Decidable condition] {yes no : Parser α}
    (holds : condition → Yields before after marks yes property)
    (fails : ¬ condition → Yields before after marks no property) :
    Yields before after marks (if condition then yes else no) property := by
  split
  · next is => exact holds is
  · next is => exact fails is

/-- Two ways to come to a value. -/
theorem yields_either (known : β → Prop) {condition : Prop} [Decidable condition]
    {yes no : Parser β} {next : β → Parser α}
    (holds : Yields before middle marks yes known) (fails : Yields before middle marks no known)
    (onward : ∀ value, known value → Yields middle after marks (next value) property) :
    Yields before after marks (if condition then yes >>= next else no >>= next) property :=
  yields_ite (fun _ => holds.bind onward) fun _ => fails.bind onward

/-- A part that may be left out. -/
theorem yields_optionalPart {condition : Prop} [Decidable condition] {part : Parser Tokens}
    {next : Tokens → Parser α} (reads : Yields before before marks part Legible)
    (onward : ∀ tokens, Legible tokens → Yields before after marks (next tokens) property) :
    Yields before after marks (if condition then part >>= next else pure [] >>= next) property :=
  yields_either Legible reads (yields_pure Token.legible_nil) onward

theorem yields_failAt (text : String) : Yields before after marks (failAt text) property :=
  fun s value t _ read => absurd read (not_reads_failAt text s value t)

theorem yields_failHere (text : String) : Yields before after marks (failHere text) property :=
  fun s value t _ read => absurd read (not_reads_failHere text s value t)

theorem yields_pure_bind {value : β} {next : β → Parser α}
    (onward : Yields before after marks (next value) property) :
    Yields before after marks (pure value >>= next) property := onward

theorem yields_failAt_bind (text : String) (next : β → Parser α) :
    Yields before after marks (failAt text >>= next) property := by
  intro s value t _ read
  obtain ⟨_, _, failed, _⟩ := (reads_bind_iff _ _ _ _ _).mp read
  exact absurd failed (not_reads_failAt text s _ _)

theorem yields_failHere_bind (text : String) (next : β → Parser α) :
    Yields before after marks (failHere text >>= next) property := by
  intro s value t _ read
  obtain ⟨_, _, failed, _⟩ := (reads_bind_iff _ _ _ _ _).mp read
  exact absurd failed (not_reads_failHere text s _ _)

/-- The parser asks what comes next, and reads nothing. -/
def Asks (parser : Parser α) : Prop := ∀ s value t, Reads parser s value t → t = s

theorem Asks.bind {ask : Parser β} {next : β → Parser α} (asks : Asks ask)
    (onward : ∀ value, Yields before after marks (next value) property) :
    Yields before after marks (ask >>= next) property := by
  have still : Yields before before marks ask fun _ => True := by
    intro s value t stands read
    rw [asks s value t read]
    exact ⟨stands, trivial⟩
  exact still.bind fun value _ => onward value

theorem yields_get {next : ParseState → Parser α}
    (onward : ∀ s, Stands before marks s.rest → Yields before after marks (next s) property) :
    Yields before after marks (get >>= next) property := by
  intro s result t stands read
  obtain ⟨_, _, got, done⟩ := (reads_bind_iff _ _ _ _ _).mp read
  obtain ⟨rfl, rfl⟩ := (reads_get_iff _ _ _).mp got
  exact onward _ stands _ result t stands done

/-- The place may be asked for later. -/
theorem yields_mark {next : ParseState → Parser α}
    (onward : ∀ s, Yields before after (s.rest :: marks) (next s) property) :
    Yields before after marks (get >>= next) property := by
  intro s result t stands read
  obtain ⟨_, _, got, done⟩ := (reads_bind_iff _ _ _ _ _).mp read
  obtain ⟨rfl, rfl⟩ := (reads_get_iff _ _ _).mp got
  obtain ⟨there, holds⟩ := onward _ _ result t stands.mark done
  exact ⟨there.unmark, holds⟩

theorem yields_writtenSince {start : Tokens} (member : start ∈ marks) :
    Yields .firm .firm marks (writtenSince start) Legible := by
  unfold writtenSince
  refine yields_get fun s stands => yields_pure ?_
  exact (stands.leaves start member).legible_written

theorem yields_failExpecting (names : List String) :
    Yields before after marks (failExpecting names) property := by
  unfold failExpecting
  split
  · exact yields_get fun _ _ => yields_ite (fun _ => yields_failAt _) fun _ => yields_failAt _
  · exact yields_failHere _
  · exact yields_failHere _
  · exact yields_failHere _

theorem yields_failExpecting_bind (names : List String) (next : β → Parser α) :
    Yields before after marks (failExpecting names >>= next) property := by
  have fails : Yields before .firm marks (failExpecting names) fun _ : β => False :=
    yields_failExpecting names
  exact fails.bind fun _ impossible => impossible.elim

theorem yields_failExpectingOf (candidates : List (String × Peek)) :
    Yields before after marks (failExpectingOf candidates) property :=
  yields_get fun _ _ => yields_failExpecting _

theorem asks_pure (value : α) : Asks (pure value) :=
  fun _ _ _ read => ((reads_pure_iff _ _ _ _).mp read).2

theorem Asks.ask {first : Parser β} {next : β → Parser α} (asks : Asks first)
    (onward : ∀ value, Asks (next value)) : Asks (first >>= next) := by
  intro s result t read
  obtain ⟨value, m, begun, done⟩ := (reads_bind_iff _ _ _ _ _).mp read
  rw [onward value m result t done, asks s value m begun]

theorem asks_ite {condition : Prop} [Decidable condition] {yes no : Parser α} (holds : Asks yes)
    (fails : Asks no) : Asks (if condition then yes else no) := by
  split
  · exact holds
  · exact fails

theorem asks_get : Asks get := fun s result t read => ((reads_get_iff s result t).mp read).2

theorem asks_failHere (text : String) : Asks (failHere text : Parser α) :=
  fun s value t read => absurd read (not_reads_failHere text s value t)

theorem asks_peek (ask : Peek) : Asks (peek ask) := asks_get.ask fun _ => asks_pure _

theorem asks_peek2 (ask : Peek) : Asks (peek2 ask) := asks_get.ask fun _ => asks_pure _

theorem asks_peek3 (ask : Peek) : Asks (peek3 ask) := asks_get.ask fun _ => asks_pure _

theorem asks_peekAny (asks : List Peek) : Asks (peekAny asks) := asks_get.ask fun _ => asks_pure _

theorem asks_atEnd : Asks atEnd := asks_get.ask fun _ => asks_pure _

theorem asks_ahead (parser : Parser α) : Asks (ahead parser) := asks_get.ask fun _ => asks_pure _

/-- A question, whatever the answer. -/
theorem yields_ifPeek {ask : Peek} {condition : Bool → Prop} [∀ found, Decidable (condition found)]
    {yes no : Parser α} (holds : Yields before after marks yes property)
    (fails : Yields before after marks no property) :
    Yields before after marks (do if condition (← peek ask) then yes else no) property :=
  (asks_peek ask).bind fun _ => yields_ite (fun _ => holds) fun _ => fails

theorem Asks.yields {parser : Parser α} (asks : Asks parser) :
    Yields before before marks parser fun _ => True := by
  intro s value t stands read
  rw [asks s value t read]
  exact ⟨stands, trivial⟩

theorem yields_some {value : α} (holds : property value) :
    Yields before before marks (pure (some value)) fun found => ∀ x ∈ found, property x :=
  yields_pure (forall_mem_some holds)

theorem Yields.kept {parser : Parser α} {build : α → β}
    (yields : Yields before after marks parser property)
    (builds : ∀ value, property value → known (build value)) :
    Yields before after marks (parser >>= fun value => pure (some (build value)))
      fun found => ∀ x ∈ found, known x :=
  yields.bind fun value is => yields_some (builds value is)

theorem Yields.mapped {parser : Parser (Option α)} {build : α → β}
    (yields : Yields before after marks parser fun found => ∀ x ∈ found, property x)
    (builds : ∀ value, property value → known (build value)) :
    Yields before after marks (parser >>= fun found => pure (found.map build))
      fun found => ∀ x ∈ found, known x :=
  yields.bind fun _ are => yields_pure (Option.forall_mem_map.mpr fun value member =>
    builds value (are value member))

end Judgement

section Pieces

variable {α σ : Type} {before middle after : Footing} {marks : List Tokens}

theorem yields_setRest {rest : Tokens} (stands : Stands after marks rest) :
    Yields before after marks (setRest rest) fun _ => True := by
  intro s value t _ read
  cases read
  exact ⟨stands, trivial⟩

/-- The last character of an operator is passed last. -/
theorem Stands.afterOperator {rest : Tokens} (chars : List Char) (tokens : Tokens)
    (stands : Stands before marks tokens) (found : afterOperator chars tokens = some rest) :
    ∃ footing c joint, chars.getLast? = some c ∧ Stands footing marks (.punct c joint :: rest) := by
  induction chars generalizing before tokens with
  | nil => cases found
  | cons c more ih =>
    have opened := stands.opened
    cases more with
    | nil =>
      rw [Parser.afterOperator] at found
      split at found
      · next d joint behind first =>
        obtain ⟨rfl, same⟩ := Option.ite_none_right_eq_some.mp found
        cases same
        rw [first] at opened
        exact ⟨before, c, joint, rfl, opened⟩
      · cases found
    | cons d others =>
      rw [Parser.afterOperator] at found
      · split at found
        · next e behind first =>
          obtain ⟨rfl, onward⟩ := Option.ite_none_right_eq_some.mp found
          rw [first] at opened
          rw [List.getLast?_cons_cons]
          exact ih _ opened.step onward
        · cases found
      · nofun

/-- Behind some operators, such as that of a division, the next token is asked for. -/
theorem yields_anyOp (text : String) (legible : Legible (Token.op text)) :
    Yields before .loose marks (op text) Legible := by
  intro s value t stands read
  obtain ⟨rest, found, rfl, rfl⟩ := (reads_op_iff _ _ _ _).mp read
  obtain ⟨footing, c, joint, last, there⟩ := stands.afterOperator _ _ found
  exact ⟨there.step, legible⟩

theorem yields_op (text : String) (plain : text.toList.all Token.isPlainSign = true) :
    Yields before .firm marks (op text) Legible := by
  intro s value t stands read
  obtain ⟨rest, found, rfl, rfl⟩ := (reads_op_iff _ _ _ _).mp read
  obtain ⟨footing, c, joint, last, there⟩ := stands.afterOperator _ _ found
  have isPlain := List.all_eq_true.mp plain c (List.mem_of_getLast? last)
  have legible := Token.legible_punct c joint isPlain
  rw [Legible, LegibleBefore] at legible
  exact ⟨there.pass legible.2.1, Token.legible_op text plain⟩

theorem yields_optionalOp (text : String)
    (plain : text.toList.all Token.isPlainSign = true) :
    Yields before before marks (optionalOp text) Legible := by
  refine yields_ifPeek ?_ ?_
  · exact (yields_op text plain).weaken
  · exact yields_pure Token.legible_nil

theorem Stands.nextIdent? {tokens rest : Tokens} {name : String}
    (stands : Stands before marks tokens) (next : nextIdent? tokens = some (name, rest)) :
    Stands .firm marks rest ∧ Name.isUsable name = true := by
  unfold Parser.nextIdent? at next
  split at next
  · next word behind first =>
    cases next
    have opened := stands.opened
    rw [first] at opened
    exact ⟨opened.pass trivial, opened.isLegible⟩
  · cases next

theorem yields_anyIdent :
    Yields before .firm marks anyIdent fun name => Name.isUsable name = true := by
  unfold anyIdent
  refine yields_get fun s stands => ?_
  split
  · next name rest next =>
    obtain ⟨there, usable⟩ := stands.nextIdent? next
    exact (yields_setRest there).bind fun _ _ => yields_pure usable
  · exact yields_failHere _

theorem yields_ident : Yields before .firm marks ident fun name => Name.isUsable name = true := by
  unfold ident
  refine yields_get fun s stands => ?_
  split
  · next name rest next =>
    obtain ⟨there, usable⟩ := stands.nextIdent? next
    refine yields_ite (fun _ => yields_failHere _) fun _ => ?_
    exact (yields_setRest there).bind fun _ _ => yields_pure usable
  · exact yields_failHere _

theorem yields_name : Yields before .firm marks name Legible :=
  yields_ident.bind fun name usable => yields_pure (Token.legible_ident name usable)

theorem yields_anyName : Yields before .firm marks anyName Legible :=
  yields_anyIdent.bind fun name usable => yields_pure (Token.legible_ident name usable)

theorem yields_word (name : String) : Yields before .firm marks (word name) Legible := by
  intro s value t stands read
  unfold word at read
  rcases (reads_ifPeek_iff _ _ _ _ _ _).mp read with ⟨found, read⟩ | ⟨_, read⟩
  · unfold isWord at found
    split at found
    · next written rest next =>
      obtain ⟨there, usable⟩ := stands.nextIdent? next
      rw [beq_iff_eq] at found
      subst found
      obtain ⟨_, _, got, onward⟩ := (reads_bind_iff _ _ _ _ _).mp read
      obtain ⟨rfl, rfl⟩ := (reads_get_iff _ _ _).mp got
      rw [next] at onward
      obtain ⟨_, _, moved, done⟩ := (reads_bind_iff _ _ _ _ _).mp onward
      obtain ⟨rfl, rfl⟩ := (reads_pure_iff _ _ _ _).mp done
      cases moved
      exact ⟨there, Token.legible_ident written usable⟩
    · cases found
  · exact absurd read (not_reads_failHere _ _ _ _)

theorem yields_optionalWord (name : String) :
    Yields before before marks (optionalWord name) Legible := by
  refine yields_ifPeek ?_ ?_
  · exact (yields_word name).weaken
  · exact yields_pure Token.legible_nil

theorem yields_lifetime : Yields before .firm marks lifetime Legible := by
  unfold lifetime
  refine yields_get fun s stands => ?_
  split
  · next tokens rest next =>
    unfold nextLifetime? at next
    split at next
    · next behind first =>
      obtain ⟨⟨name, after⟩, named, same⟩ := Option.map_eq_some_iff.mp next
      cases same
      have opened := stands.opened
      rw [first] at opened
      obtain ⟨there, usable⟩ := opened.step.nextIdent? named
      exact (yields_setRest there).bind fun _ _ => yields_pure (Token.legible_lifetime name usable)
    · cases next
  · exact yields_failHere _

theorem Stands.nextLiteral? {tokens rest : Tokens} {literal : Literal}
    (stands : Stands before marks tokens) (next : nextLiteral? tokens = some (literal, rest)) :
    Stands .firm marks rest ∧ Legible literal.tokens := by
  have opened := stands.opened
  unfold Parser.nextLiteral? at next
  split at next
  · next text behind first =>
    cases next
    rw [first] at opened
    exact ⟨opened.pass trivial, Token.legible_literal text opened.isLegible⟩
  · next behind first =>
    cases next
    rw [first] at opened
    exact ⟨opened.pass trivial, Token.legible_ident "true" opened.isLegible⟩
  · next behind first =>
    cases next
    rw [first] at opened
    exact ⟨opened.pass trivial, Token.legible_ident "false" opened.isLegible⟩
  · next joint behind first =>
    rw [first] at opened
    have further := opened.step.opened
    split at next
    · next text after second =>
      rw [second] at further
      obtain ⟨negated, signed, same⟩ := Option.map_eq_some_iff.mp next
      obtain ⟨value, _, rfl⟩ := Option.map_eq_some_iff.mp signed
      cases same
      refine ⟨further.pass trivial, ?_⟩
      exact (Token.legible_punct '-' false rfl).append
        (Token.legible_literal text further.isLegible)
    · cases next
  · cases next

theorem yields_literal :
    Yields before .firm marks literal fun found => Legible found.tokens := by
  unfold literal
  refine yields_get fun s stands => ?_
  split
  · next found rest next =>
    obtain ⟨there, legible⟩ := stands.nextLiteral? next
    exact (yields_setRest there).bind fun _ _ => yields_pure legible
  · exact yields_failHere _

theorem yields_textLiteral :
    Yields before .firm marks textLiteral fun found => Legible found.tokens :=
  yields_ifPeek yields_literal (yields_failHere _)

variable {property : α → Prop}

theorem yields_inside {delimiter : Delimiter} {body : Parser α}
    (within : Yields .firm .firm [] body property) :
    Yields before .firm marks (inside delimiter body) property := by
  intro s value t stands read
  obtain ⟨content, rest, inner, found, inside, rfl⟩ := (reads_inside_iff _ _ _ _ _).mp read
  have there : Stands before marks (.group delimiter content :: rest) := by
    rw [← found]
    split
    · exact stands
    · exact stands.opened
  exact ⟨there.pass trivial, (within _ _ _ (stands_of_legible there.body .firm) inside).2⟩

theorem yields_group {delimiter : Delimiter} {body : Parser Tokens}
    (within : Yields .firm .firm [] body Legible) :
    Yields before .firm marks (group delimiter body) Legible :=
  (yields_inside within).bind fun _ legible => yields_pure (legible.group delimiter)

theorem yields_remaining : Yields before .firm marks remaining Legible := by
  unfold remaining
  refine yields_get fun s stands => ?_
  exact (yields_setRest stands.finish).bind fun _ _ => yields_pure stands.legible

theorem reads_foldlM_iff (parts : List (Parser Tokens)) (read : Tokens) (s : ParseState)
    (result : Tokens) (t : ParseState) :
    Reads (parts.foldlM (fun read part => return read ++ (← part)) read) s result t ↔
      ∃ more, Reads (seq parts) s more t ∧ result = read ++ more := by
  unfold seq
  induction parts generalizing read s result with
  | nil =>
    simp only [List.foldlM_nil, reads_pure_iff]
    constructor
    · rintro ⟨rfl, rfl⟩
      exact ⟨[], ⟨rfl, rfl⟩, (List.append_nil _).symm⟩
    · rintro ⟨_, ⟨rfl, rfl⟩, rfl⟩
      exact ⟨List.append_nil _, rfl⟩
  | cons part parts ih =>
    have step (start result : Tokens) :
        Reads ((part :: parts).foldlM (fun read part => return read ++ (← part)) start) s result t ↔
          ∃ first m, Reads part s first m ∧
            ∃ more, Reads (seq parts) m more t ∧ result = start ++ first ++ more := by
      rw [List.foldlM_cons, reads_bind_iff]
      simp only [reads_bind_iff, reads_pure_iff]
      constructor
      · rintro ⟨_, _, ⟨first, m, begun, rfl, rfl⟩, onward⟩
        exact ⟨first, _, begun, (ih _ _ _).mp onward⟩
      · rintro ⟨first, m, begun, onward⟩
        exact ⟨_, _, ⟨first, m, begun, rfl, rfl⟩, (ih _ _ _).mpr onward⟩
    simp only [step, List.nil_append]
    constructor
    · rintro ⟨first, m, begun, more, onward, rfl⟩
      exact ⟨first ++ more, ⟨first, m, begun, more, onward, rfl⟩, List.append_assoc _ _ _⟩
    · rintro ⟨_, ⟨first, m, begun, more, onward, rfl⟩, rfl⟩
      exact ⟨first, m, begun, more, onward, (List.append_assoc _ _ _).symm⟩

theorem yields_seq_nil : Yields before before marks (seq []) Legible :=
  yields_pure Token.legible_nil

/-- Parts in sequence, the first one of which may already settle what was passed before. -/
theorem Yields.seq {part : Parser Tokens} {parts : List (Parser Tokens)}
    (first : Yields before middle marks part Legible)
    (others : Yields middle after marks (seq parts) Legible) :
    Yields before after marks (Parser.seq (part :: parts)) Legible := by
  intro s value t stands read
  unfold Parser.seq at read
  rw [List.foldlM_cons, reads_bind_iff] at read
  obtain ⟨_, m, begun, onward⟩ := read
  simp only [reads_bind_iff, reads_pure_iff] at begun
  obtain ⟨found, _, begun, rfl, rfl⟩ := begun
  obtain ⟨more, further, rfl⟩ := (reads_foldlM_iff _ _ _ _ _).mp onward
  obtain ⟨there, legible⟩ := first _ _ _ stands begun
  obtain ⟨last, alsoLegible⟩ := others _ _ _ there further
  exact ⟨last, legible.append alsoLegible⟩

theorem yields_seq {part : Parser Tokens} {parts : List (Parser Tokens)}
    (first : Yields before .firm marks part Legible)
    (others : Yields .firm after marks (Parser.seq parts) Legible) :
    Yields before after marks (Parser.seq (part :: parts)) Legible := first.seq others

theorem yields_repeatStep {holds : σ → Prop} {step : σ → Parser (σ × Bool)}
    (each : ∀ value, holds value →
      Yields before before marks (step value) fun read => holds read.1) (fuel : Nat) :
    ∀ start, holds start → Yields before before marks (repeatStep step fuel start) holds := by
  induction fuel with
  | zero => exact fun start is => yields_pure is
  | succ fuel ih =>
    intro start is
    refine (each start is).bind ?_
    rintro ⟨value, more⟩ kept
    exact yields_ite (fun _ => ih value kept) fun _ => yields_pure kept

theorem yields_repeating {holds : σ → Prop} {step : σ → Parser (σ × Bool)} {start : σ}
    (is : holds start) (each : ∀ value, holds value →
      Yields before before marks (step value) fun read => holds read.1) :
    Yields before before marks (repeating step start) holds :=
  yields_get fun _ _ => yields_repeatStep each _ start is

/-- The first step of a repetition is always taken. -/
theorem yields_repeatingFirmly {holds : σ → Prop} {step : σ → Parser (σ × Bool)} {start : σ}
    (is : holds start) (each : ∀ before value, holds value →
      Yields before .firm marks (step value) fun read => holds read.1) :
    Yields before .firm marks (repeating step start) holds := by
  refine yields_get fun s _ => (each before start is).bind ?_
  rintro ⟨value, more⟩ kept
  refine yields_ite (fun _ => ?_) fun _ => yields_pure kept
  exact yields_repeatStep (each .firm) _ value kept

theorem yields_whilePeek {ask : Peek} {part : Parser Tokens}
    (each : Yields before before marks part Legible) :
    Yields before before marks (whilePeek ask part) Legible := by
  refine yields_repeating Token.legible_nil fun read legible => ?_
  refine yields_ifPeek ?_ (yields_pure legible)
  exact each.bind fun more also => yields_pure (legible.append also)

theorem yields_untilEnd {part : Parser α} (each : Yields before before marks part property) :
    Yields before before marks (untilEnd part) fun found => ∀ x ∈ found, property x := by
  refine yields_repeating (List.forall_mem_nil _) fun read holds => ?_
  refine asks_atEnd.bind fun _ => yields_ite (fun _ => yields_pure holds) fun _ => ?_
  refine each.bind fun x is => yields_pure ?_
  exact List.forall_mem_append.mpr ⟨holds, List.forall_mem_singleton.mpr is⟩

theorem yields_terminated {part : Parser α} (each : Yields .firm .firm marks part property) :
    Yields .firm .firm marks (terminated part) fun found => ∀ x ∈ found, property x.1 := by
  refine yields_repeating (List.forall_mem_nil _) fun read holds => ?_
  have add (x : α) (comma : Bool) (is : property x) :
      ∀ found ∈ read ++ [(x, comma)], property found.1 :=
    List.forall_mem_append.mpr ⟨holds, List.forall_mem_singleton.mpr is⟩
  refine asks_atEnd.bind fun _ => yields_ite (fun _ => yields_pure holds) fun _ => ?_
  refine each.bind fun x is => asks_atEnd.bind fun _ => ?_
  refine yields_ite (fun _ => yields_pure (add x false is)) fun _ => ?_
  exact (yields_op "," rfl).bind fun _ _ => yields_pure (add x true is)

theorem legible_commaAfter (comma : Bool) : Legible (commaAfter comma) := by
  cases comma with
  | false => exact Token.legible_nil
  | true => exact Token.legible_op "," rfl

theorem yields_terminatedTokens {part : Parser Tokens}
    (each : Yields .firm .firm marks part Legible) :
    Yields .firm .firm marks (terminatedTokens part) Legible := by
  refine (yields_terminated each).bind fun parts legible => yields_pure ?_
  exact Token.legible_flatMap _ _ fun x member => (legible x member).append (legible_commaAfter x.2)

/-- What a parser run apart would come to. -/
theorem yields_ahead {parser : Parser α} (yields : Yields before after marks parser property) :
    Yields before before marks (ahead parser) fun found => ∀ value reached,
      found = .ok (value, reached) → Stands after marks reached.rest ∧ property value := by
  refine yields_get fun s stands => yields_pure fun value reached found => ?_
  exact yields { s with leftover := none } value reached stands found

theorem yields_lookPast {parser : Parser α} (yields : Yields before after marks parser property) :
    Yields before before marks (lookPast parser) fun found =>
      property found.1 ∧ Stands after marks found.2.rest := by
  refine (yields_ahead yields).bind fun found known => ?_
  split
  · next result =>
    obtain ⟨there, holds⟩ := known result.1 result.2 rfl
    exact yields_pure ⟨holds, there⟩
  · intro s value t _ read
    cases read

theorem yields_advanceTo {reached : ParseState} (there : Stands after marks reached.rest) :
    Yields before after marks (advanceTo reached) fun _ => True := by
  intro s value t _ read
  cases read
  exact ⟨there, trivial⟩

/-- Whatever is done elsewhere, the parser is back where it was. -/
theorem asks_visiting (place : ParseState) (parser : Parser α) : Asks (visiting place parser) := by
  intro s value t read
  unfold visiting at read
  simp only [reads_bind_iff, reads_get_iff, reads_pure_iff] at read
  obtain ⟨_, _, ⟨rfl, rfl⟩, _, _, _, _, _, _, _, _, back, _, rfl⟩ := read
  cases back
  rfl

theorem yields_visiting {place : ParseState} {parser : Parser α}
    (there : Stands middle marks place.rest)
    (yields : Yields middle middle marks parser property) :
    Yields before before marks (visiting place parser) property := by
  intro s value t stands read
  unfold visiting at read
  simp only [reads_bind_iff, reads_get_iff, reads_pure_iff] at read
  obtain ⟨_, _, ⟨rfl, rfl⟩, _, _, set, found, m, read, _, _, back, rfl, rfl⟩ := read
  cases set
  cases back
  exact ⟨stands, (yields _ _ _ there read).2⟩

theorem yields_mapM {part : σ → Parser α} (xs : List σ)
    (each : ∀ x, Yields before before marks (part x) property) :
    Yields before before marks (xs.mapM part) fun found => ∀ y ∈ found, property y := by
  induction xs with
  | nil =>
    rw [List.mapM_nil]
    exact yields_pure nofun
  | cons x rest ih =>
    rw [List.mapM_cons]
    refine (each x).bind fun y is => ih.bind fun more are => yields_pure ?_
    exact List.forall_mem_cons.mpr ⟨is, are⟩

/-- The parser reads what is as told, or nothing at all. -/
def Tries (before : Footing) (marks : List Tokens) (parser : Parser (Option α))
    (property : α → Prop) : Prop :=
  ∀ s found t, Stands before marks s.rest → Reads parser s found t →
    (found = none ∧ t = s) ∨ ∃ value, found = some value ∧ Stands .firm marks t.rest ∧ property value

theorem tries_none : Tries before marks (pure none) property := by
  intro s found t _ read
  obtain ⟨rfl, rfl⟩ := (reads_pure_iff _ _ _ _).mp read
  exact Or.inl ⟨rfl, rfl⟩

theorem tries_get {next : ParseState → Parser (Option α)}
    (onward : ∀ s, Tries before marks (next s) property) :
    Tries before marks (get >>= next) property := by
  intro s found t stands read
  obtain ⟨_, _, got, done⟩ := (reads_bind_iff _ _ _ _ _).mp read
  obtain ⟨rfl, rfl⟩ := (reads_get_iff _ _ _).mp got
  exact onward _ _ found t stands done

theorem tries_of_yields {parser : Parser (Option α)}
    (yields : Yields before .firm marks parser fun found =>
      ∃ value, found = some value ∧ property value) : Tries before marks parser property := by
  intro s found t stands read
  obtain ⟨there, value, same, holds⟩ := yields s found t stands read
  exact Or.inr ⟨value, same, there, holds⟩

theorem Yields.tries {parser : Parser α} (yields : Yields before .firm marks parser property) :
    Tries before marks (return some (← parser)) property :=
  tries_of_yields (yields.bind fun value holds => yields_pure ⟨value, rfl, holds⟩)

theorem Tries.bind {found : Parser (Option σ)} {next : Option σ → Parser α} {known : σ → Prop}
    (tries : Tries before marks found known)
    (taken : ∀ value, known value → Yields .firm after marks (next (some value)) property)
    (left : Yields before after marks (next none) property) :
    Yields before after marks (found >>= next) property := by
  intro s result t stands read
  obtain ⟨value, m, first, done⟩ := (reads_bind_iff _ _ _ _ _).mp read
  rcases tries s value m stands first with ⟨rfl, rfl⟩ | ⟨x, rfl, there, holds⟩
  · exact left _ result t stands done
  · exact taken x holds m result t there done

end Pieces

end Parser

end ClassExpansion
