import ClassExpansion.Proofs.ParserRuns
import ClassExpansion.Source.Reading

set_option autoImplicit false

/- A literal in an expression has no sign of its own: the minus sign before it is an operator, whose
operand it is. -/
namespace ClassExpansion

namespace Parser

variable {α β : Type}

/-- Whatever the parser reads from the state is as the property says. -/
def GivesAt (parser : Parser α) (s : ParseState) (property : α → Prop) : Prop :=
  ∀ value t, Reads parser s value t → property value

/-- Whatever the parser reads is as the property says. -/
def Gives (parser : Parser α) (property : α → Prop) : Prop := ∀ s, GivesAt parser s property

theorem gives_pure {property : α → Prop} {value : α} (holds : property value) :
    Gives (pure value) property := by
  intro s result t read
  obtain ⟨rfl, -⟩ := (reads_pure_iff _ _ _ _).mp read
  exact holds

theorem gives_failAt (text : String) (property : α → Prop) : Gives (failAt text) property :=
  fun s value t read => absurd read (not_reads_failAt text s value t)

theorem gives_failHere (text : String) (property : α → Prop) : Gives (failHere text) property :=
  fun s value t read => absurd read (not_reads_failHere text s value t)

theorem Gives.bind {property : β → Prop} {known : α → Prop} {first : Parser α}
    {next : α → Parser β} (gives : Gives first known)
    (onward : ∀ value, known value → Gives (next value) property) :
    Gives (first >>= next) property := by
  intro s result t read
  obtain ⟨value, m, begun, done⟩ := (reads_bind_iff _ _ _ _ _).mp read
  exact onward value (gives s value m begun) m result t done

/-- What is read first does not matter. -/
theorem gives_bind {property : β → Prop} {first : Parser α} {next : α → Parser β}
    (onward : ∀ value, Gives (next value) property) : Gives (first >>= next) property := by
  have anything : Gives first fun _ => True := fun _ _ _ _ => trivial
  exact anything.bind fun value _ => onward value

theorem gives_ite {property : α → Prop} {condition : Prop} [Decidable condition]
    {yes no : Parser α} (holds : Gives yes property) (fails : Gives no property) :
    Gives (if condition then yes else no) property := by
  split
  · exact holds
  · exact fails

theorem givesAt_ifPeek {property : α → Prop} {ask : Peek} {s : ParseState} {yes no : Parser α}
    (holds : ask s.rest = true → GivesAt yes s property)
    (fails : ask s.rest = false → GivesAt no s property) :
    GivesAt (do if ← peek ask then yes else no) s property := by
  intro value t read
  rcases (reads_ifPeek_iff _ _ _ _ _ _).mp read with ⟨found, read⟩ | ⟨missing, read⟩
  · exact holds found value t read
  · exact fails missing value t read

theorem gives_inside {property : α → Prop} {delimiter : Delimiter} {body : Parser α}
    (gives : Gives body property) : Gives (inside delimiter body) property := by
  intro s value t read
  obtain ⟨_, _, _, _, read, _⟩ := (reads_inside_iff _ _ _ _ _).mp read
  exact gives _ _ _ read

theorem gives_repeatStep {property : α → Prop} {step : α → Parser (α × Bool)}
    (each : ∀ value, property value → Gives (step value) fun read => property read.1)
    (fuel : Nat) : ∀ start, property start → Gives (repeatStep step fuel start) property := by
  induction fuel with
  | zero => exact fun start holds => gives_pure holds
  | succ fuel ih =>
    intro start holds
    refine Gives.bind (each start holds) ?_
    rintro ⟨value, more⟩ kept
    exact gives_ite (ih value kept) (gives_pure kept)

/-- A repetition keeps what each step keeps. -/
theorem gives_repeating {property : α → Prop} {step : α → Parser (α × Bool)} {start : α}
    (holds : property start)
    (each : ∀ value, property value → Gives (step value) fun read => property read.1) :
    Gives (repeating step start) property :=
  gives_bind fun _ => gives_repeatStep each _ start holds

theorem Listed.forall_mem {property : α → Prop} {item : NamePath → Parser α} {fuel : Nat}
    {s t : ParseState} {xs : List α} (each : ∀ path, Gives (item path) property)
    (listed : Listed item fuel s xs t) : ∀ x ∈ xs, property x := by
  induction listed with
  | spent => nofun
  | last _ _ m e _ path x _ read _ =>
    intro y member
    rw [List.mem_singleton.mp member]
    exact each path m x e read
  | more _ _ m e _ _ path x _ _ read _ _ ih =>
    intro y member
    rcases List.mem_cons.mp member with rfl | later
    · exact each path m y e read
    · exact ih y later

theorem gives_anyEntries {property : α → Prop} {item : NamePath → Parser α}
    (each : ∀ path, Gives (item path) property) :
    Gives (anyEntries item) fun xs => ∀ x ∈ xs, property x := by
  intro s xs t read
  rcases (reads_anyEntries_iff item s xs t).mp read with ⟨_, rfl, _⟩ | read
  · nofun
  · exact ((reads_entries_iff item s xs t).mp read).forall_mem each

end Parser

open ClassExpansion.Parser

/-- The literal does not hold a minus sign. -/
def Literal.IsUnsigned (literal : Literal) : Prop :=
  ∀ value suffix, literal.value ≠ .integer true value suffix

namespace Literal

theorem number?_unsigned (text : List Char) (value : LiteralValue)
    (read : number? false text = some value) (whole : Nat) (suffix : String) :
    value ≠ .integer true whole suffix := by
  unfold number? at read
  split at read
  · cases read
    nofun
  · obtain ⟨_, _, rfl⟩ := Option.map_eq_some_iff.mp read
    nofun

theorem isUnsigned_ofText (text : String) : (Literal.ofText text).IsUnsigned := by
  intro whole suffix
  change valueOf text.toList ≠ _
  unfold valueOf textValue
  split
  · split <;> nofun
  · split <;> nofun
  · nofun
  · nofun
  · nofun
  · nofun
  · cases read : number? false text.toList with
    | none => nofun
    | some value => exact number?_unsigned _ value read whole suffix

theorem isUnsigned_ofBool (truth : Bool) : (Literal.ofBool truth).IsUnsigned := nofun

end Literal

/-- A literal where a minus sign could not stand. -/
theorem givesAt_literal (s : ParseState) (noMinus : isOp "-" s.rest = false) :
    GivesAt literal s Literal.IsUnsigned := by
  intro found t read
  unfold literal at read
  obtain ⟨_, _, got, onward⟩ := (reads_bind_iff _ _ _ _ _).mp read
  obtain ⟨rfl, rfl⟩ := (reads_get_iff _ _ _).mp got
  split at onward
  · next value rest next =>
    obtain ⟨_, _, _, done⟩ := (reads_bind_iff _ _ _ _ _).mp onward
    obtain ⟨rfl, -⟩ := (reads_pure_iff _ _ _ _).mp done
    unfold nextLiteral? at next
    split at next
    · cases next
      exact Literal.isUnsigned_ofText _
    · cases next
      exact Literal.isUnsigned_ofBool true
    · cases next
      exact Literal.isUnsigned_ofBool false
    · next opens =>
      unfold isOp at noMinus
      rw [show "-".toList = ['-'] by decide, afterOperator, opens] at noMinus
      cases noMinus
    · cases next
  · exact absurd onward (not_reads_failHere _ _ _ _)

namespace Expr

/-- The literal that signs and invisible groups enclose, if there is one, has no sign of its
own. -/
def IsUnsigned : Expr → Prop
  | lit _ literal => literal.IsUnsigned
  | group _ inner => inner.IsUnsigned
  | negated _ inner => inner.IsUnsigned
  | path _ _ | call _ _ _ | paren _ _ | other _ _ _ => True

theorem isUnsigned_addAttrs (more : Tokens) (e : Expr) (is : e.IsUnsigned) :
    (e.addAttrs more).IsUnsigned := by
  cases e with
  | lit attrs literal => exact is
  | group attrs inner => exact is
  | negated attrs inner => exact is
  | path | call | paren | other => trivial

end Expr

theorem gives_exprBy (kind : ExprKind) (body : Parser Tokens) :
    Gives (exprBy kind body) Expr.IsUnsigned := gives_bind fun _ => gives_pure trivial

namespace Grammar

/-- The expressions of the grammar hold no signed literals. -/
structure IsUnsigned (g : Grammar) : Prop where
  expr : ∀ struct, Gives (g.expr struct) Expr.IsUnsigned
  operand : ∀ struct, Gives (g.operand struct) Expr.IsUnsigned
  climb : ∀ left struct least, left.IsUnsigned → Gives (g.climb left struct least) Expr.IsUnsigned

variable {g : Grammar}

theorem gives_climbStep (struct : Bool) (least : Precedence) (left : Expr)
    (is : left.IsUnsigned) :
    Gives (g.climbStep struct least left) fun read => read.1.IsUnsigned := by
  unfold climbStep
  refine gives_bind fun state => gives_ite (gives_pure is) ?_
  split
  · refine gives_ite (gives_pure is) (gives_ite (gives_failHere _ _) ?_)
    exact gives_bind fun _ => gives_bind fun _ => gives_pure trivial
  · refine gives_ite ?_ (gives_ite ?_ (gives_ite ?_ (gives_pure is)))
    · exact gives_bind fun _ => gives_bind fun _ => gives_pure trivial
    · exact gives_bind fun _ => gives_pure trivial
    · exact gives_bind fun _ => gives_bind fun _ => gives_bind fun _ => gives_pure trivial

theorem gives_readClimb (left : Expr) (struct : Bool) (least : Precedence)
    (is : left.IsUnsigned) : Gives (g.readClimb left struct least) Expr.IsUnsigned :=
  gives_repeating is fun left is => gives_climbStep struct least left is

theorem gives_afterDot (receiver : Tokens) : Gives (g.afterDot receiver) Expr.IsUnsigned := by
  unfold afterDot
  refine gives_bind fun _ => gives_ite (gives_exprBy _ _) ?_
  have called (named : Member) (target turbofish : Tokens) :
      Gives (do
        let call ← peek (isGroup .paren)
        if named.isNamed && (!List.isEmpty turbofish || call) then
          exprBy .methodCall (return target ++ turbofish ++ (← g.callTokens))
        else return exprOf .field target) Expr.IsUnsigned :=
    gives_bind fun _ => gives_ite (gives_exprBy _ _) (gives_pure trivial)
  refine gives_bind fun named => gives_bind fun _ => gives_ite ?_ ?_
  · exact gives_bind fun _ => gives_bind fun turbofish => called named _ turbofish
  · exact gives_bind fun turbofish => called named _ turbofish

theorem gives_dotSuffix (e : Expr) : Gives (g.dotSuffix e) Expr.IsUnsigned := by
  unfold dotSuffix
  refine gives_bind fun _ => gives_bind fun _ => gives_ite ?_ (gives_afterDot _)
  refine gives_bind fun _ => gives_bind fun _ => ?_
  exact gives_ite (gives_afterDot _) (gives_pure trivial)

theorem gives_suffixes (e : Expr) (is : e.IsUnsigned) :
    Gives (g.suffixes e) Expr.IsUnsigned := by
  refine gives_repeating is fun e is => ?_
  refine gives_bind fun _ => gives_ite (gives_bind fun _ => gives_pure trivial) ?_
  refine gives_bind fun _ => gives_ite ?_ ?_
  · exact Gives.bind (gives_dotSuffix e) fun _ is => gives_pure is
  refine gives_bind fun _ => gives_ite (gives_bind fun _ => gives_pure trivial) ?_
  exact gives_bind fun _ => gives_ite (gives_bind fun _ => gives_pure trivial) (gives_pure is)

theorem gives_afterPath (path : Path) (struct : Bool) :
    Gives (g.afterPath path struct) Expr.IsUnsigned := by
  unfold afterPath
  refine gives_bind fun _ => gives_bind fun _ => gives_ite (gives_exprBy _ _) ?_
  exact gives_bind fun _ => gives_ite (gives_exprBy _ _) (gives_pure trivial)

/-- In a group stands any expression. -/
theorem gives_groupExpr (sound : g.IsUnsigned) (struct : Bool) :
    Gives (g.groupExpr struct) Expr.IsUnsigned := by
  unfold groupExpr
  refine Gives.bind (gives_inside (sound.expr true)) fun inner is => ?_
  split
  · refine gives_bind fun _ => Gives.bind (gives_afterPath _ struct) fun e is => ?_
    split
    · refine gives_pure ?_
      split <;> trivial
    · exact gives_pure is
  · exact gives_pure is

theorem gives_parenExpr : Gives g.parenExpr Expr.IsUnsigned := by
  unfold parenExpr
  refine gives_bind fun parts => ?_
  split
  · exact gives_pure trivial
  · exact gives_pure trivial

theorem gives_bracketExpr : Gives g.bracketExpr Expr.IsUnsigned :=
  gives_bind fun _ => gives_pure trivial

theorem gives_labeled : Gives g.labeled Expr.IsUnsigned := by
  unfold labeled
  refine gives_bind fun _ => gives_bind fun _ => gives_ite (gives_exprBy _ _) ?_
  refine gives_bind fun _ => gives_ite (gives_exprBy _ _) ?_
  refine gives_bind fun _ => gives_ite (gives_exprBy _ _) ?_
  exact gives_bind fun _ => gives_ite (gives_exprBy _ _) (gives_failHere _ _)

theorem gives_keywordExpr? (struct : Bool) :
    Gives (g.keywordExpr? struct) fun found => ∀ e ∈ found, e.IsUnsigned := by
  have given (kind : ExprKind) (body : Parser Tokens) :
      Gives (return some (← exprBy kind body) : Parser (Option Expr))
        fun found => ∀ e ∈ found, e.IsUnsigned := by
    refine Gives.bind (gives_exprBy kind body) fun e is => gives_pure ?_
    rintro _ ⟨⟩
    exact is
  unfold keywordExpr?
  refine gives_bind fun _ => ?_
  split
  case h_4 =>
    refine gives_bind fun _ => gives_bind fun _ => gives_bind fun _ => gives_pure ?_
    rintro _ ⟨⟩
    trivial
  case h_15 => exact gives_pure nofun
  all_goals exact given _ _

/-- A minus sign before a literal is no part of it, since operands begin with their operators. -/
theorem givesAt_atom (sound : g.IsUnsigned) (struct : Bool) (s : ParseState)
    (noMinus : isGroup .invisible s.rest = true ∨ isOp "-" s.rest = false) :
    GivesAt (g.atom struct) s Expr.IsUnsigned := by
  unfold atom
  refine givesAt_ifPeek (fun _ => gives_groupExpr sound struct s) fun noGroup => ?_
  have plain : isOp "-" s.rest = false := noMinus.resolve_left (by rw [noGroup]; decide)
  refine givesAt_ifPeek (fun _ => ?_) fun _ => ?_
  · intro e t read
    obtain ⟨found, _, first, done⟩ := (reads_bind_iff _ _ _ _ _).mp read
    obtain ⟨rfl, -⟩ := (reads_pure_iff _ _ _ _).mp done
    exact givesAt_literal s plain _ _ first
  · -- What is read from here on is no literal at all, or in parentheses.
    refine (?_ : Gives _ Expr.IsUnsigned) s
    refine gives_bind fun _ => gives_ite (gives_exprBy _ _) ?_
    refine gives_bind fun _ => gives_bind fun _ => gives_ite (gives_exprBy _ _) ?_
    refine gives_bind fun _ => gives_ite (gives_exprBy _ _) ?_
    refine gives_bind fun _ => gives_ite ?_ ?_
    · exact gives_bind fun _ => gives_bind fun _ => gives_bind fun _ => gives_pure trivial
    refine gives_bind fun _ => gives_ite (gives_bind fun _ => gives_afterPath _ struct) ?_
    refine gives_bind fun _ => gives_ite gives_parenExpr ?_
    refine gives_bind fun _ => gives_ite gives_bracketExpr ?_
    refine Gives.bind (gives_keywordExpr? struct) fun found is => ?_
    split
    · next e => exact gives_pure (is e rfl)
    refine gives_bind fun _ => gives_ite (gives_exprBy _ _) ?_
    refine gives_bind fun _ => gives_ite (gives_exprBy _ _) ?_
    exact gives_bind fun _ => gives_ite gives_labeled (gives_failHere _ _)

theorem givesAt_suffixed (sound : g.IsUnsigned) (start attrs : Tokens) (struct : Bool)
    (s : ParseState) (noMinus : isGroup .invisible s.rest = true ∨ isOp "-" s.rest = false) :
    GivesAt (g.suffixed start attrs struct) s Expr.IsUnsigned := by
  intro result t read
  unfold suffixed at read
  obtain ⟨first, m, begun, onward⟩ := (reads_bind_iff _ _ _ _ _).mp read
  have is := givesAt_atom sound struct s noMinus first m begun
  refine Gives.bind (gives_suffixes first is) (fun e is => ?_) _ _ _ onward
  refine gives_ite (gives_bind fun _ => gives_pure trivial) (gives_ite (gives_failAt _ _) ?_)
  exact gives_pure (e.isUnsigned_addAttrs attrs is)

theorem gives_referenceExpr (attrs : Tokens) (struct : Bool) :
    Gives (g.referenceExpr attrs struct) Expr.IsUnsigned := by
  unfold referenceExpr
  refine gives_bind fun _ => gives_bind fun _ => gives_bind fun _ => gives_ite ?_ ?_
  · exact gives_bind fun _ => gives_bind fun _ => gives_pure trivial
  refine gives_bind fun _ => gives_ite ?_ ?_
  · exact gives_bind fun _ => gives_bind fun _ => gives_pure trivial
  · exact gives_bind fun _ => gives_bind fun _ => gives_pure trivial

theorem gives_readOperand (sound : g.IsUnsigned) (struct : Bool) :
    Gives (g.readOperand struct) Expr.IsUnsigned := by
  unfold readOperand
  refine gives_bind fun _ => gives_bind fun attrs => fun s => ?_
  refine givesAt_ifPeek (fun group => givesAt_suffixed sound _ attrs struct s (.inl group))
    fun _ => ?_
  refine givesAt_ifPeek (fun _ => gives_referenceExpr attrs struct s) fun _ => ?_
  refine givesAt_ifPeek (fun _ => ?_) fun _ => givesAt_ifPeek (fun _ => ?_) fun _ => ?_
  · exact gives_bind (fun _ => gives_bind fun _ => gives_pure trivial) s
  · exact gives_bind (fun _ => gives_bind fun _ => gives_pure trivial) s
  refine givesAt_ifPeek (fun _ => ?_) fun noMinus =>
    givesAt_suffixed sound _ attrs struct s (.inr noMinus)
  have negates (inner : Expr) (is : inner.IsUnsigned) : (Expr.negated attrs inner).IsUnsigned := is
  exact gives_bind (fun _ => Gives.bind (sound.operand struct) fun inner is =>
    gives_pure (negates inner is)) s

theorem gives_readExpr (sound : g.IsUnsigned) (struct : Bool) :
    Gives (g.readExpr struct) Expr.IsUnsigned :=
  Gives.bind (sound.operand struct) fun first is => sound.climb first struct .jump is

theorem isUnsigned_ofDepth (depth : Nat) : (ofDepth depth).IsUnsigned := by
  -- Each rule asks the grammar of one level less, and a grammar without levels reads nothing.
  induction depth with
  | zero =>
    exact ⟨fun _ => gives_failAt _ _, fun _ => gives_failAt _ _, fun _ _ _ _ => gives_failAt _ _⟩
  | succ depth ih =>
    exact ⟨gives_readExpr ih, gives_readOperand ih,
      fun left struct least is => gives_readClimb left struct least is⟩

end Grammar

theorem gives_entryValue (tokens : Tokens) :
    Gives (entryValue (Grammar.ofTokens tokens)) Expr.IsUnsigned :=
  gives_bind fun _ => (Grammar.isUnsigned_ofDepth _).expr true

end ClassExpansion
