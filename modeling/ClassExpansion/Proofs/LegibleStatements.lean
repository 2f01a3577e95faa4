import ClassExpansion.Proofs.LegibleExpressions

set_option autoImplicit false

/- Statements, visibilities and functions that are read of legible tokens are legible. -/
namespace ClassExpansion

open ClassExpansion.Parser
open Token (Legible)

variable {g : Grammar} {before : Footing} {marks : List Tokens}

section Statements

/-- Behind the path of a macro call, what is read goes on as usual. -/
theorem yields_macroStart :
    Yields .firm .firm marks macroStart fun found => ∀ path reached,
      found = .statement path reached →
        Stands .firm marks reached.rest ∧ Legible path.tokens := by
  unfold macroStart
  refine (yields_ahead yields_namePath).bind fun found known => ?_
  split
  · exact yields_pure nofun
  · next path reached =>
    obtain ⟨there, usable⟩ := known path reached rfl
    refine yields_ite (fun _ => yields_pure nofun) fun _ => ?_
    refine yields_ite (fun _ => yields_pure nofun) fun _ => ?_
    refine yields_ite (fun _ => yields_pure ?_) fun _ => yields_pure nofun
    rintro _ _ ⟨⟩
    exact ⟨there, path.legible_tokens usable⟩

theorem asks_startsStaticItem : Asks startsStaticItem := by
  unfold startsStaticItem
  refine (asks_peek _).ask fun _ => asks_ite (asks_pure _) ?_
  refine (asks_peek2 _).ask fun _ => asks_ite (asks_pure _) ?_
  refine (asks_peek2 _).ask fun _ => (asks_peek3 _).ask fun _ => (asks_peek3 _).ask fun _ => ?_
  exact (asks_peek2 _).ask fun _ => asks_pure _

theorem asks_startsConstItem : Asks startsConstItem := by
  unfold startsConstItem
  refine (asks_peek _).ask fun _ => asks_ite (asks_pure _) ?_
  refine (asks_peek2 _).ask fun _ => asks_ite (asks_pure _) ?_
  refine (asks_peek2 _).ask fun _ => asks_ite (asks_pure _) ?_
  refine (asks_peek2 _).ask fun _ => asks_ite (asks_pure _) ?_
  refine (asks_peek2 _).ask fun _ => asks_ite (asks_pure _) ?_
  refine (asks_peek2 _).ask fun _ => asks_ite ?_ (asks_pure _)
  exact (asks_peek3 _).ask fun _ => (asks_peek3 _).ask fun _ => (asks_peek3 _).ask fun _ =>
    asks_pure _

theorem asks_startsItem : Asks startsItem := by
  unfold startsItem
  refine (asks_peekAny _).ask fun _ => asks_ite (asks_pure _) ?_
  refine asks_startsStaticItem.ask fun _ => asks_ite (asks_pure _) ?_
  refine asks_startsConstItem.ask fun _ => asks_ite (asks_pure _) ?_
  refine (asks_peek _).ask fun _ => (asks_peek2 _).ask fun _ => asks_ite (asks_pure _) ?_
  refine (asks_peek _).ask fun _ => (asks_peek2 _).ask fun _ => asks_ite (asks_pure _) ?_
  refine (asks_peek _).ask fun _ => asks_ite ?_ ?_
  · exact (asks_peek2 _).ask fun _ => (asks_peek2 _).ask fun _ => (asks_peek2 _).ask fun _ =>
      asks_pure _
  refine (asks_peek _).ask fun _ => asks_ite ((asks_peek2 _).ask fun _ => asks_pure _) ?_
  refine (asks_peek _).ask fun _ => asks_ite ((asks_peek2 _).ask fun _ => asks_pure _) ?_
  refine (asks_peek _).ask fun _ => asks_ite ?_ (asks_pure _)
  exact (asks_peek2 _).ask fun _ => (asks_peek2 _).ask fun _ => asks_pure _

namespace Grammar

variable (sound : g.IsLegible)
include sound

theorem yields_letStatement : Yields before .firm marks g.letStatement Legible := by
  unfold letStatement
  refine yields_bind Legible ?_ fun head legible => ?_
  · exact (yields_word "let").seq ((yields_patternTokens sound).seq yields_seq_nil)
  extract_lets typed
  have nothing := Token.legible_nil
  have behindType (ty : Tokens) (also : Legible ty) :
      Yields .firm .firm marks (typed ty) Legible := by
    unfold typed
    extract_lets finish
    have finished (value : Tokens) (last : Legible value) :
        Yields .firm .firm marks (finish value) Legible :=
      (yields_op ";" rfl).bind fun stop sign =>
        yields_pure (((legible.append also).append last).append sign)
    refine yields_ifPeek ?_ (yields_pure_bind (finished [] nothing))
    refine (yields_op "=" rfl).bind fun sign plain => (sound.expr true marks).bind fun e is => ?_
    refine (asks_peek _).bind fun _ => ?_
    extract_lets valued
    have behindValue (other : Tokens) (last : Legible other) :
        Yields .firm .firm marks (valued other) Legible :=
      yields_pure_bind (finished _ ((plain.append is.tokens).append last))
    refine yields_ite (fun _ => yields_bind Legible ?_ behindValue) fun _ => ?_
    · exact (yields_word "else").seq ((yields_blockTokens sound).seq yields_seq_nil)
    · exact yields_pure_bind (behindValue [] nothing)
  refine yields_ifPeek (yields_bind Legible ?_ behindType) (yields_pure_bind (behindType [] nothing))
  exact (yields_op ":" rfl).seq ((yields_typeTokens sound).seq yields_seq_nil)

theorem yields_exprStatement (attrs : Tokens) (legible : Legible attrs) :
    Yields .firm .firm marks (g.exprStatement attrs) fun s => Legible s.tokens := by
  unfold exprStatement
  refine (sound.statementExpr marks).bind fun e is => ?_
  extract_lets tokens
  have whole : Legible tokens :=
    legible_ifElse (is.addAttrs legible).tokens (legible.append is.tokens)
  refine yields_ifPeek ?_ (yields_pure whole)
  exact (yields_op ";" rfl).bind fun stop sign => yields_pure (whole.append sign)

theorem yields_statement :
    Yields .firm .firm marks g.statement fun s => Legible s.tokens := by
  unfold statement
  refine yields_mark fun s => (yields_outerAttributes sound).bind fun attrs legible => ?_
  have item : Yields .firm .firm (s.rest :: marks)
      (return ⟨(← g.itemAfterAttrs s.rest attrs).tokens, false⟩ : Parser Statement)
      fun s => Legible s.tokens :=
    (sound.itemAfterAttrs s.rest attrs _ List.mem_cons_self legible).bind fun read is =>
      yields_pure (Item.IsLegible.tokens read is)
  refine yields_macroStart.bind fun start known => ?_
  split
  · next path reached =>
    obtain ⟨there, named⟩ := known path reached rfl
    refine (yields_advanceTo there).bind fun _ _ => yields_bind Legible ?_ fun call also => ?_
    · exact (yields_op "!" rfl).seq <| yields_rawGroupTokens.seq <|
        (yields_optionalOp ";" rfl).seq yields_seq_nil
    · exact yields_pure ((legible.tokens.append named).append also)
  · exact item
  · refine (asks_peek _).bind fun _ => (asks_peek _).bind fun _ => ?_
    refine yields_ite (fun _ => ?_) fun _ => ?_
    · exact (yields_letStatement sound).bind fun read also =>
        yields_pure (legible.tokens.append also)
    refine asks_startsItem.bind fun _ => yields_ite (fun _ => item) fun _ => ?_
    exact yields_exprStatement sound _ legible.tokens

theorem yields_readStatements : Yields .firm .firm marks g.readStatements Legible := by
  refine yields_repeating Token.legible_nil fun read legible => ?_
  refine yields_ifPeek ?_ ?_
  · exact (yields_op ";" rfl).bind fun stop sign => yields_pure (legible.append sign)
  refine asks_atEnd.bind fun _ => yields_ite (fun _ => yields_pure legible) fun _ => ?_
  refine (yields_statement sound).bind fun next also => ?_
  have longer := legible.append also
  refine asks_atEnd.bind fun _ => yields_ite (fun _ => yields_pure longer) fun _ => ?_
  exact yields_ite (fun _ => yields_failHere _) fun _ => yields_pure longer

end Grammar

end Statements

section Functions

theorem legible_publicScope (tokens : Tokens) (legible : Legible tokens) :
    ∀ scope ∈ publicScope tokens, Legible scope := by
  unfold publicScope
  dsimp only
  split
  · next name next =>
    obtain ⟨-, usable⟩ := (stands_of_legible legible .firm).nextIdent? next
    split
    · exact forall_mem_some (Token.legible_ident name usable)
    · exact nofun
  · exact nofun

theorem yields_publicVisibility : Yields before .firm marks publicVisibility Legible := by
  unfold publicVisibility
  refine (yields_word "pub").bind fun head legible => yields_get fun s stands => ?_
  split
  · next body rest first =>
    have opened := stands.opened
    rw [first] at opened
    split
    · next scope isScope =>
      have known := legible_publicScope body opened.body scope isScope
      refine (yields_setRest (opened.pass trivial)).bind fun _ _ => yields_pure ?_
      exact legible.append (known.group .paren)
    · refine yields_ite (fun _ => ?_) fun _ => yields_pure legible
      refine yields_bind Legible (yields_group ?_) fun path also => yields_pure (legible.append also)
      refine (yields_word "in").seq (Yields.seq ?_ yields_seq_nil)
      exact yields_namePath.bind fun path usable => yields_pure (path.legible_tokens usable)
  · exact yields_pure legible

theorem yields_visibility : Yields .firm .firm marks visibility Legible := by
  unfold visibility
  refine yields_get fun s stands => ?_
  split
  · next rest first =>
    rw [first] at stands
    exact (yields_setRest (stands.pass trivial)).bind fun _ _ => yields_pure Token.legible_nil
  · exact yields_ifPeek yields_publicVisibility (yields_pure Token.legible_nil)

theorem asks_startsFunction (allowSafe : Bool) : Asks (startsFunction allowSafe) := by
  unfold startsFunction
  refine (asks_ahead _).ask fun found => ?_
  split
  · exact asks_pure _
  · exact asks_pure _

theorem asks_safeWord (allowed : Bool) : Asks (safeWord allowed) :=
  (asks_peek _).ask fun _ => asks_pure _

namespace Grammar

variable (sound : g.IsLegible)
include sound

theorem yields_receiver : Yields .firm .firm marks g.receiver Legible := by
  unfold receiver
  extract_lets onward
  have behind (reference : Tokens) (legible : Legible reference) :
      Yields .firm .firm marks (onward reference) Legible := by
    refine yields_bind Legible ?_ fun self_ also => ?_
    · exact (yields_optionalWord "mut").seq ((yields_word "self").seq yields_seq_nil)
    refine yields_ifPeek (yields_bind Legible ?_ fun ty last => ?_) ?_
    · exact (yields_op ":" rfl).seq ((yields_typeTokens sound).seq yields_seq_nil)
    · exact yields_pure (also.append last)
    · exact yields_pure (legible.append also)
  refine yields_ifPeek (yields_bind Legible ?_ behind) (yields_pure_bind (behind [] ?_))
  · exact (yields_op "&" rfl).seq (yields_optionalLifetime.seq yields_seq_nil)
  · exact Token.legible_nil

theorem yields_parameter :
    Yields .firm .firm marks g.parameter fun read => Legible read.2 := by
  unfold parameter
  refine (yields_ahead (yields_receiver sound)).bind fun found known => ?_
  split
  · next tokens reached =>
    obtain ⟨there, legible⟩ := known tokens reached rfl
    exact (yields_advanceTo there).bind fun _ _ => yields_pure legible
  · refine (asks_peek _).bind fun _ => (asks_peek2 _).bind fun _ => ?_
    refine yields_ite (fun _ => ?_) fun _ => ?_
    · refine (yields_typeTokens sound).bind fun ty legible => yields_pure ?_
      have unnamed := Token.legible_ident "_" (by decide)
      exact (unnamed.append (Token.legible_op ":" rfl)).append legible
    · refine yields_bind Legible ?_ fun head legible => yields_ifPeek ?_ ?_
      · exact (yields_patternTokens sound).seq ((yields_op ":" rfl).seq yields_seq_nil)
      · exact (yields_op "..." rfl).bind fun dots also => yields_pure (legible.append also)
      · exact (yields_typeTokens sound).bind fun ty also => yields_pure (legible.append also)

omit sound in
/-- A comma, unless all is read. -/
theorem yields_commaUnlessEnd {α : Type} {property : α → Prop} {finish : Tokens → Parser α}
    (finished : ∀ comma, Legible comma → Yields .firm .firm marks (finish comma) property) :
    Yields .firm .firm marks (do
      let comma ← if ← atEnd then pure [] else op ","
      finish comma) property := by
  refine asks_atEnd.bind fun _ => yields_ite (fun _ => ?_) fun _ => ?_
  · exact yields_pure_bind (finished [] Token.legible_nil)
  · exact (yields_op "," rfl).bind finished

theorem yields_parameterStep (read : ParametersRead) (legible : Legible read.tokens) :
    Yields .firm .firm marks (g.parameterStep read) fun next => Legible next.1.tokens := by
  unfold parameterStep
  refine asks_atEnd.bind fun _ => yields_ite (fun _ => yields_pure legible) fun _ => ?_
  refine (yields_outerTokens sound).bind fun attrs attrsLegible => ?_
  extract_lets onward
  have behind (found : ParameterKind × Tokens) (also : Legible found.2) :
      Yields .firm .firm marks (onward found) fun next => Legible next.1.tokens := by
    obtain ⟨kind, tokens⟩ := found
    have longer := (legible.append attrsLegible).append also
    refine yields_ite (fun _ => ?_) fun _ => ?_
    · exact yields_commaUnlessEnd fun comma sign => yields_pure (longer.append sign)
    refine yields_ite (fun _ => yields_failAt_bind _ _) fun _ => ?_
    refine yields_ite (fun _ => yields_failAt_bind _ _) fun _ => ?_
    exact yields_commaUnlessEnd fun comma sign => yields_pure (longer.append sign)
  refine yields_ifPeek ?_ ((yields_parameter sound).bind behind)
  exact (yields_op "..." rfl).bind fun dots sign => yields_pure_bind (behind (.variadic, dots) sign)

theorem yields_parameters : Yields .firm .firm marks g.parameters Legible := by
  refine yields_bind (fun read => Legible read.tokens) ?_ fun _ legible => yields_pure legible
  exact yields_repeating Token.legible_nil fun read legible =>
    yields_parameterStep sound read legible

theorem yields_functionHead (allowSafe : Bool) :
    Yields .firm .firm marks (g.functionHead allowSafe) fun head => Legible head.tokens := by
  unfold functionHead
  refine yields_bind Legible ?_ fun mode modeLegible => ?_
  · exact (yields_optionalWord "const").seq <| (yields_optionalWord "async").seq <|
      (yields_optionalWord "unsafe").seq yields_seq_nil
  refine (asks_safeWord _).bind fun isSafe => ?_
  extract_lets onward
  have behind : Yields .firm .firm marks (onward ()) fun head => Legible head.tokens := by
    refine yields_bind Legible ?_ fun linkage linkageLegible => ?_
    · exact yields_abi.seq ((yields_word "fn").seq yields_seq_nil)
    refine yields_ident.bind fun name usable => (yields_generics sound).bind fun generics also => ?_
    refine yields_bind Legible ?_ fun rest last => yields_pure ?_
    · exact (yields_group (yields_parameters sound)).seq <| (yields_returnType sound true).seq <|
        (yields_whereTokens sound).seq yields_seq_nil
    have named := Token.legible_ident name usable
    exact (((modeLegible.append linkageLegible).append named).append also).append last
  exact yields_ite (fun _ => (yields_word "safe").bind fun _ _ => behind) fun _ => behind

end Grammar

end Functions

end ClassExpansion
