import ClassExpansion.Proofs.LegiblePatterns

set_option autoImplicit false

/- Expressions that are read of legible tokens are legible. An operand may begin where the operator
before it asks for the next token. -/
namespace ClassExpansion

open ClassExpansion.Parser
open Token (Legible)

variable {g : Grammar} {before : Footing} {marks : List Tokens}

theorem Parser.Yields.exprBy {body : Parser Tokens} (yields : Yields before .firm marks body Legible)
    (kind : ExprKind) : Yields before .firm marks (ClassExpansion.exprBy kind body) Expr.IsLegible :=
  yields.bind fun _ legible => yields_pure (Expr.isLegible_exprOf kind legible)

theorem legible_binaryOperator (text : String) (precedence : Precedence)
    (member : (text, precedence) ∈ binaryOperators) : Legible (Token.op text) := by
  have all : binaryOperators.all (fun o =>
      o.1.toList.all Token.isPlainSign || o.1 == "/" || o.1 == "/=") = true := by decide
  have slash : '/' ∈ Lexer.punctuation := by decide
  have noApostrophe : ¬ '/' = '\x27' := by decide
  have known := List.all_eq_true.mp all _ member
  simp only [Bool.or_eq_true, beq_iff_eq] at known
  rcases known with (plain | rfl) | rfl
  · exact Token.legible_op text plain
  · exact ⟨slash, ⟨fun is => absurd is noApostrophe, nofun⟩, trivial⟩
  · -- No comment begins with the slash, since an equals sign follows it.
    have keeps : (Token.punct '=' false).KeepsSlash := ⟨by decide, by decide⟩
    refine ⟨slash, ⟨fun is => absurd is noApostrophe, fun _ _ => ⟨_, rfl, keeps⟩⟩, ?_⟩
    exact Token.legible_punct '=' false rfl

theorem yields_partNumber (text : String) :
    Yields before before marks (partNumber text) Legible := by
  unfold partNumber
  split
  · next tokens lexed =>
    have legible := Lexer.legible_tokens? text tokens lexed
    have reads : Yields .firm .firm [] (do
        if ← peek isIntegerLiteral then memberNumber (← literal)
        else failHere "expected integer literal") Legible :=
      yields_ifPeek (yields_literal.bind fun found _ => yields_memberNumber found)
        (yields_failHere _)
    split
    · next number run =>
      obtain ⟨t, read, _⟩ := (runAll_eq_ok_iff _ _ _).mp run
      exact yields_pure (reads _ _ _ (stands_of_legible legible .firm) read).2
    · exact yields_failAt _
  · exact yields_failAt _

namespace Grammar

theorem yields_fractionMembers (text : String) :
    Yields before before marks (fractionMembers text) fun read => Legible read.1 := by
  refine (yields_mapM _ yields_partNumber).bind fun numbers legible => yields_pure ?_
  exact Token.legible_flatMap _ _ fun number member =>
    (Token.legible_op "." rfl).append (legible number member)

theorem asks_checkCast : Asks checkCast := by
  unfold checkCast
  extract_lets refuse
  have refused (what : Option String) : Asks (refuse what) := by
    cases what with
    | none => exact asks_pure _
    | some text => exact asks_failHere _
  have left (what : Option String) : Asks (pure what >>= refuse) := refused what
  refine (asks_peek _).ask fun _ => (asks_peek _).ask fun _ => (asks_peek _).ask fun _ => ?_
  refine (asks_peek _).ask fun _ => asks_ite ?_ ?_
  · refine (asks_peek2 _).ask fun _ => asks_ite (left _) ?_
    refine (asks_peek2 _).ask fun _ => (asks_peek3 _).ask fun _ => (asks_peek3 _).ask fun _ => ?_
    exact asks_ite (left _) (left _)
  · exact asks_ite (left _) (asks_ite (left _) (asks_ite (left _) (left _)))

theorem asks_startsClosure : Asks startsClosure := by
  unfold startsClosure
  refine (asks_peekAny _).ask fun _ => asks_ite (asks_pure _) ?_
  refine (asks_peek _).ask fun _ => asks_chooseGenericsAfterWord.ask fun _ => ?_
  refine asks_ite (asks_pure _) <| (asks_peek _).ask fun _ => (asks_peek2 _).ask fun _ => ?_
  refine asks_ite (asks_pure _) <| (asks_peek _).ask fun _ => (asks_peek2 _).ask fun _ => ?_
  exact (asks_peek2 _).ask fun _ => asks_pure _

theorem asks_startsAsyncBlock : Asks startsAsyncBlock :=
  (asks_peek2 _).ask fun _ => (asks_peek3 _).ask fun _ => (asks_peek _).ask fun _ =>
    (asks_peek2 _).ask fun _ => asks_pure _

theorem asks_startsPath : Asks startsPath :=
  (asks_peek2 _).ask fun _ => (asks_peek2 _).ask fun _ => (asks_peek _).ask fun _ =>
    (asks_peek _).ask fun _ => asks_pure _

variable (sound : g.IsLegible)
include sound

section Operators

theorem yields_rightOperand (struct : Bool) (precedence : Precedence) :
    Yields before .firm marks (g.rightOperand struct precedence) Expr.IsLegible := by
  refine (sound.operand struct before marks).bind fun first legible => ?_
  refine yields_repeating legible fun right legible => yields_get fun s _ => ?_
  refine yields_ite (fun _ => ?_) fun _ => yields_pure legible
  refine (sound.climb right struct _ marks legible).bind fun longer also => ?_
  exact yields_get fun _ _ => yields_pure also

theorem yields_rangeAfter (struct : Bool) :
    Yields before .firm marks (g.rangeAfter struct) Legible := by
  refine yields_rangeLimits.bind fun limits legible => ?_
  refine yields_ifPeek (yields_pure legible) ?_
  refine (yields_rightOperand sound struct .range).bind fun last also => yields_pure ?_
  exact legible.append (legible_optionalOperand struct _ also.tokens)

theorem yields_climbStep (struct : Bool) (least : Precedence) (left : Expr)
    (legible : left.IsLegible) :
    Yields .firm .firm marks (g.climbStep struct least left) fun read => read.1.IsLegible := by
  have joined (kind : ExprKind) (sign right : Tokens) (signLegible : Legible sign)
      (rightLegible : Legible right) : (exprOf kind (left.tokens ++ sign ++ right)).IsLegible :=
    Expr.isLegible_exprOf kind ((legible.tokens.append signLegible).append rightLegible)
  unfold climbStep
  refine yields_get fun s _ => yields_ite (fun _ => yields_pure legible) fun _ => ?_
  split
  · next text precedence next =>
    have sign := legible_binaryOperator text precedence (List.mem_of_find?_eq_some next)
    refine yields_ite (fun _ => yields_pure legible) fun _ => ?_
    refine yields_ite (fun _ => yields_failHere _) fun _ => ?_
    refine (yields_anyOp text sign).bind fun found also => ?_
    refine (yields_rightOperand sound struct precedence).bind fun right last => yields_pure ?_
    exact joined _ found right.tokens also last.tokens
  · refine yields_ite (fun _ => ?_) fun _ => yields_ite (fun _ => ?_) fun _ =>
      yields_ite (fun _ => ?_) fun _ => yields_pure legible
    · refine (yields_op "=" rfl).bind fun sign plain => ?_
      refine (yields_rightOperand sound struct .assign).bind fun right last => yields_pure ?_
      exact joined _ sign right.tokens plain last.tokens
    · refine (yields_rangeAfter sound struct).bind fun range also => yields_pure ?_
      exact Expr.isLegible_exprOf _ (legible.tokens.append also)
    · refine yields_bind Legible ?_ fun target also => ?_
      · refine (yields_word "as").seq (Yields.seq ?_ yields_seq_nil)
        exact (sound.type false false marks).bind fun ty known =>
          yields_pure (Ty.IsLegible.tokens ty known)
      refine asks_checkCast.bind fun _ => (asks_peek _).bind fun _ => yields_pure ?_
      have body := legible.tokens.append also
      exact Expr.isLegible_exprOf _ (legible_ifElse (body.group .paren) body)

theorem yields_readClimb (left : Expr) (struct : Bool) (least : Precedence)
    (legible : left.IsLegible) :
    Yields .firm .firm marks (g.readClimb left struct least) Expr.IsLegible :=
  yields_repeating legible fun left legible => yields_climbStep sound struct least left legible

theorem yields_readExpr (struct : Bool) :
    Yields .firm .firm marks (g.readExpr struct) Expr.IsLegible :=
  (sound.operand struct .firm marks).bind fun left legible =>
    sound.climb left struct .jump marks legible

end Operators

section Suffixes

theorem yields_exprAttributes : Yields before before marks g.exprAttributes Legible :=
  (yields_outerAttributesWhile sound _).bind fun _ legible => yields_pure legible.tokens

theorem yields_callArguments :
    Yields before .firm marks g.callArguments fun found => ∀ a ∈ found, a.1.IsLegible :=
  yields_inside (yields_terminated (sound.expr true []))

theorem yields_callTokens : Yields before .firm marks g.callTokens Legible := by
  refine (yields_callArguments sound).bind fun arguments legible => yields_pure ?_
  exact (Expr.legible_argumentTokens arguments legible).group .paren

theorem yields_afterDot (receiver : Tokens) (legible : Legible receiver) :
    Yields .firm .firm marks (g.afterDot receiver) Expr.IsLegible := by
  have dotted := legible.append (Token.legible_op "." rfl)
  unfold afterDot
  refine yields_ifPeek (Yields.exprBy ?_ _) ?_
  · exact (yields_word "await").bind fun _ also => yields_pure (dotted.append also)
  refine yields_member.bind fun named also => ?_
  extract_lets target onward
  have targetLegible : Legible target := dotted.append also
  have behind (turbofish : Tokens) (last : Legible turbofish) :
      Yields .firm .firm marks (onward turbofish) Expr.IsLegible := by
    refine yields_ifPeek (Yields.exprBy ?_ _) (yields_pure ?_)
    · refine (yields_callTokens sound).bind fun call known => yields_pure ?_
      exact (targetLegible.append last).append known
    · exact Expr.isLegible_exprOf _ targetLegible
  refine yields_ifPeek (yields_bind Legible ?_ fun _ last => behind _ last) ?_
  · refine (yields_op "::" rfl).seq (Yields.seq ?_ yields_seq_nil)
    refine (yields_angledList sound).bind fun arguments known => yields_pure ?_
    refine PathArguments.IsLegible.tokens _ ?_
    rw [PathArguments.IsLegible]
    exact known
  · exact yields_pure_bind (behind [] Token.legible_nil)

theorem yields_dotSuffix (e : Expr) (legible : e.IsLegible) :
    Yields before .firm marks (g.dotSuffix e) Expr.IsLegible := by
  refine (yields_op "." rfl).bind fun _ _ => ?_
  refine yields_ifPeek ?_ (yields_afterDot sound _ legible.tokens)
  refine yields_literal.bind fun number _ => ?_
  refine (yields_fractionMembers _).bind fun read also => ?_
  obtain ⟨members, dangling⟩ := read
  have target := legible.tokens.append also
  exact yields_ite (fun _ => yields_afterDot sound _ target) fun _ =>
    yields_pure (Expr.isLegible_exprOf _ target)

theorem yields_suffixes (e : Expr) (legible : e.IsLegible) :
    Yields .firm .firm marks (g.suffixes e) Expr.IsLegible := by
  refine yields_repeating legible fun e legible => ?_
  have longer (kind : ExprKind) (more : Tokens) (also : Legible more) :
      (exprOf kind (e.tokens ++ more)).IsLegible :=
    Expr.isLegible_exprOf kind (legible.tokens.append also)
  refine yields_ifPeek ?_ <| yields_ifPeek ?_ <| yields_ifPeek ?_ <| yields_ifPeek ?_ ?_
  · refine (yields_callArguments sound).bind fun arguments also => yields_pure ?_
    exact ⟨Token.legible_nil, legible.tokens, Expr.legible_argumentTokens arguments also⟩
  · exact (yields_dotSuffix sound e legible).bind fun _ also => yields_pure also
  · exact (yields_group (yields_exprTokens sound)).bind fun index also =>
      yields_pure (longer .index index also)
  · exact (yields_op "?" rfl).bind fun mark also => yields_pure (longer .question mark also)
  · exact yields_pure legible

theorem yields_fieldValue : Yields .firm .firm marks g.fieldValue Legible := by
  refine (yields_outerTokens sound).bind fun attrs legible => ?_
  refine yields_member.bind fun named also => ?_
  have begun := legible.append also
  refine yields_ifPeek (yields_bind Legible ?_ fun value last => ?_) (yields_pure begun)
  · exact (yields_op ":" rfl).seq ((yields_exprTokens sound).seq yields_seq_nil)
  · exact yields_pure (begun.append last)

theorem yields_structFields : Yields .firm .firm marks g.structFields Legible := by
  refine yields_repeating Token.legible_nil fun read legible => ?_
  refine asks_atEnd.bind fun _ => yields_ite (fun _ => yields_pure legible) fun _ => ?_
  refine yields_ifPeek ?_ ?_
  · refine (yields_op ".." rfl).bind fun dots sign => ?_
    have dotted := legible.append sign
    refine asks_atEnd.bind fun _ => yields_ite (fun _ => yields_pure dotted) fun _ => ?_
    exact (yields_exprTokens sound).bind fun base also => yields_pure (dotted.append also)
  · refine (yields_fieldValue sound).bind fun field also => ?_
    have longer := legible.append also
    refine asks_atEnd.bind fun _ => yields_ite (fun _ => yields_pure longer) fun _ => ?_
    exact (yields_op "," rfl).bind fun comma sign => yields_pure (longer.append sign)

theorem yields_afterPath (path : Path) (legible : path.IsLegible) (struct : Bool) :
    Yields .firm .firm marks (g.afterPath path struct) Expr.IsLegible := by
  have after (parser : Parser Tokens) (yields : Yields .firm .firm marks parser Legible) :
      Yields .firm .firm marks (return path.tokens ++ (← parser)) Legible :=
    yields.bind fun _ also => yields_pure (legible.tokens.append also)
  refine (asks_peek _).bind fun _ => (asks_peek _).bind fun _ => ?_
  refine yields_ite (fun _ => (after _ ?_).exprBy _) fun _ => yields_ifPeek ?_ ?_
  · exact (yields_op "!" rfl).seq (yields_rawGroupTokens.seq yields_seq_nil)
  · exact (after _ (yields_group (yields_structFields sound))).exprBy _
  · exact yields_pure ⟨Token.legible_nil, legible⟩

end Suffixes

section Atoms

theorem yields_groupExpr (struct : Bool) :
    Yields before .firm marks (g.groupExpr struct) Expr.IsLegible := by
  have grouped (inner : Expr) (legible : inner.IsLegible) : (Expr.group [] inner).IsLegible :=
    ⟨Token.legible_nil, legible.tokens⟩
  refine (yields_inside (sound.expr true [])).bind fun inner legible => ?_
  split
  · next named =>
    refine (yields_segmentsAfter sound true).bind fun more also => ?_
    have longer := legible.2.addSegments more also
    refine (yields_afterPath sound _ longer struct).bind fun found known => ?_
    split
    · refine yields_pure ?_
      split
      · exact grouped _ known
      · exact known
    · exact yields_pure known
  · exact yields_pure (grouped inner legible)

theorem yields_parenExpr : Yields before .firm marks g.parenExpr Expr.IsLegible := by
  refine (yields_inside (yields_terminated (sound.expr true []))).bind fun parts legible => ?_
  split
  · next inner =>
    have only := legible (inner, false) (List.mem_singleton_self _)
    exact yields_pure ⟨Token.legible_nil, only.tokens⟩
  · have listed := Expr.legible_argumentTokens _ legible
    exact yields_pure (Expr.isLegible_exprOf .tuple (listed.group .paren))

theorem yields_bracketContent :
    Yields .firm .firm marks g.bracketContent fun read => Legible read.2 := by
  unfold bracketContent
  refine asks_atEnd.bind fun _ => yields_ite (fun _ => yields_pure Token.legible_nil) fun _ => ?_
  refine (yields_exprTokens sound).bind fun first legible => ?_
  refine asks_atEnd.bind fun _ => yields_ite (fun _ => yields_pure legible) fun _ => ?_
  refine yields_ifPeek ?_ <| yields_ifPeek (yields_bind Legible ?_ fun length also => ?_) ?_
  · refine (yields_op "," rfl).bind fun comma sign => ?_
    refine (yields_terminatedTokens (yields_exprTokens sound)).bind fun more also => yields_pure ?_
    exact (legible.append sign).append also
  · exact (yields_op ";" rfl).seq ((yields_exprTokens sound).seq yields_seq_nil)
  · exact yields_pure (legible.append also)
  · exact yields_failHere _

theorem yields_bracketExpr : Yields before .firm marks g.bracketExpr Expr.IsLegible := by
  refine (yields_inside (yields_bracketContent sound)).bind fun read legible => yields_pure ?_
  exact Expr.isLegible_exprOf read.1 (legible.group .bracket)

theorem yields_condition : Yields .firm .firm marks g.condition Legible :=
  (sound.expr false marks).bind fun _ legible => yields_pure legible.tokens

theorem yields_ifTokens : Yields before .firm marks g.ifTokens Legible := by
  refine (yields_outerTokens sound).bind fun attrs attrsLegible => ?_
  refine yields_bind Legible ?_ fun branches legible => yields_pure (attrsLegible.append legible)
  refine yields_repeatingFirmly Token.legible_nil fun before read legible => ?_
  refine yields_bind Legible ?_ fun branch also => ?_
  · exact (yields_word "if").seq <| (yields_condition sound).seq <|
      (yields_blockTokens sound).seq yields_seq_nil
  have longer := legible.append also
  refine yields_ifPeek ?_ (yields_pure longer)
  refine (yields_word "else").bind fun word other => ?_
  have onward := longer.append other
  refine yields_ifPeek (yields_pure onward) <| yields_ifPeek ?_ (yields_failExpecting _)
  exact (yields_blockTokens sound).bind fun last known => yields_pure (onward.append known)

theorem yields_whileTokens : Yields before .firm marks g.whileTokens Legible :=
  (yields_word "while").seq <| (yields_condition sound).seq <|
    (yields_attributedBlock sound).seq yields_seq_nil

theorem yields_forTokens : Yields before .firm marks g.forTokens Legible :=
  (yields_word "for").seq <| (yields_patternsTokens sound).seq <| (yields_word "in").seq <|
    (yields_condition sound).seq <| (yields_attributedBlock sound).seq yields_seq_nil

theorem yields_loopTokens : Yields before .firm marks g.loopTokens Legible :=
  (yields_word "loop").seq ((yields_attributedBlock sound).seq yields_seq_nil)

theorem yields_arm : Yields .firm .firm marks g.arm Legible := by
  unfold arm
  refine yields_bind Legible ?_ fun head legible => ?_
  · exact (yields_outerTokens sound).seq ((yields_patternsTokens sound).seq yields_seq_nil)
  extract_lets onward
  have behind (guard : Tokens) (also : Legible guard) :
      Yields .firm .firm marks (onward guard) Legible := by
    refine (yields_op "=>" rfl).bind fun arrow sign => ?_
    refine (sound.statementExpr marks).bind fun body last => asks_atEnd.bind fun _ => ?_
    extract_lets finish
    have finished (comma : Tokens) (known : Legible comma) :
        Yields .firm .firm marks (finish comma) Legible := by
      have headed := (legible.append also).append sign
      exact yields_pure ((headed.append last.tokens).append known)
    exact yields_ite (fun _ => (yields_op "," rfl).bind finished) fun _ =>
      (yields_optionalOp "," rfl).bind finished
  refine yields_ifPeek (yields_bind Legible ?_ behind) (yields_pure_bind (behind [] ?_))
  · exact (yields_word "if").seq ((yields_exprTokens sound).seq yields_seq_nil)
  · exact Token.legible_nil

theorem yields_arms : Yields .firm .firm marks g.arms Legible := by
  exact (yields_untilEnd (yields_arm sound)).bind fun parts legible =>
    yields_pure (Token.legible_flatten parts legible)

theorem yields_matchTokens : Yields before .firm marks g.matchTokens Legible :=
  (yields_word "match").seq <| (yields_condition sound).seq <|
    (yields_group ((yields_innerTokens sound).seq ((yields_arms sound).seq yields_seq_nil))).seq
      yields_seq_nil

theorem yields_labeled : Yields before .firm marks g.labeled Expr.IsLegible := by
  refine yields_bind Legible ?_ fun label legible => ?_
  · exact yields_lifetime.seq ((yields_op ":" rfl).seq yields_seq_nil)
  have after (kind : ExprKind) (parser : Parser Tokens)
      (yields : Yields .firm .firm marks parser Legible) :
      Yields .firm .firm marks (exprBy kind (return label ++ (← parser))) Expr.IsLegible :=
    Yields.exprBy (yields.bind fun _ also => yields_pure (legible.append also)) kind
  refine yields_ifPeek (after _ _ (yields_whileTokens sound)) ?_
  refine yields_ifPeek (after _ _ (yields_forTokens sound)) ?_
  refine yields_ifPeek (after _ _ (yields_loopTokens sound)) ?_
  exact yields_ifPeek (after _ _ (yields_attributedBlock sound)) (yields_failHere _)

theorem yields_closureParameter : Yields .firm .firm marks g.closureParameter Legible := by
  refine (yields_outerTokens sound).bind fun attrs legible => ?_
  refine (sound.pattern marks).bind fun pattern also => ?_
  refine yields_ifPeek (yields_bind Legible ?_ fun ty last => ?_) (yields_pure ?_)
  · exact (yields_op ":" rfl).seq ((yields_typeTokens sound).seq yields_seq_nil)
  · exact yields_pure ((legible.append also).append last)
  · exact Pattern.legible_withAttrs legible also

theorem yields_closureParameters : Yields .firm .firm marks g.closureParameters Legible := by
  refine yields_repeating Token.legible_nil fun read legible => ?_
  refine yields_ifPeek (yields_pure legible) ?_
  refine (yields_closureParameter sound).bind fun parameter also => ?_
  have longer := legible.append also
  refine yields_ifPeek (yields_pure longer) ?_
  exact (yields_op "," rfl).bind fun comma sign => yields_pure (longer.append sign)

theorem yields_closureTokens (struct : Bool) :
    Yields before .firm marks (g.closureTokens struct) Legible := by
  refine yields_bind Legible ?_ fun head legible => ?_
  · exact (yields_optionalBinder sound).seq <| (yields_optionalWord "const").seq <|
      (yields_optionalWord "static").seq <| (yields_optionalWord "async").seq <|
        (yields_optionalWord "move").seq <| (yields_op "|" rfl).seq <|
          (yields_closureParameters sound).seq <| (yields_op "|" rfl).seq yields_seq_nil
  refine yields_ifPeek (yields_bind Legible ?_ fun body also => ?_) ?_
  · exact (yields_op "->" rfl).seq <| (yields_typeTokens sound).seq <|
      (yields_blockTokens sound).seq yields_seq_nil
  · exact yields_pure (legible.append also)
  · exact (sound.expr struct marks).bind fun body also => yields_pure (legible.append also.tokens)

theorem yields_breakTokens (struct : Bool) :
    Yields before .firm marks (g.breakTokens struct) Legible := by
  unfold breakTokens
  refine (yields_word "break").bind fun head legible => ?_
  refine (asks_peek _).bind fun _ => (asks_peek2 _).bind fun _ => ?_
  refine yields_ite (fun _ => ?_) fun _ => ?_
  · exact (sound.expr true marks).bind fun _ _ => yields_failAt_bind _ _
  refine yields_optionalLifetime.bind fun label also => ?_
  have labeled := legible.append also
  refine (asks_peek _).bind fun _ => (asks_peek _).bind fun _ => ?_
  refine yields_ite (fun _ => ?_) fun _ => yields_pure labeled
  refine (yields_exprTokens sound).bind fun value last => yields_pure ?_
  exact labeled.append (legible_optionalOperand struct value last)

theorem yields_wordWithValue (name : String) :
    Yields before .firm marks (g.wordWithValue name) Legible := by
  refine (yields_word name).bind fun head legible => yields_ifPeek ?_ (yields_pure legible)
  exact (yields_exprTokens sound).bind fun value also => yields_pure (legible.append also)

theorem yields_letTokens (struct : Bool) :
    Yields before .firm marks (g.letTokens struct) Legible := by
  refine yields_bind Legible ?_ fun head legible => ?_
  · exact (yields_word "let").seq <| (yields_patternsTokens sound).seq <|
      (yields_op "=" rfl).seq yields_seq_nil
  refine (sound.operand struct .firm marks).bind fun left also => ?_
  refine (sound.climb left struct .compare marks also).bind fun value last => yields_pure ?_
  exact legible.append last.tokens

theorem yields_asyncTokens : Yields before .firm marks g.asyncTokens Legible :=
  (yields_word "async").seq <| (yields_optionalWord "move").seq <|
    (yields_blockTokens sound).seq yields_seq_nil

theorem tries_keywordExpr? (struct : Bool) :
    Tries before marks (g.keywordExpr? struct) Expr.IsLegible := by
  have given (kind : ExprKind) (body : Parser Tokens)
      (yields : Yields before .firm marks body Legible) :
      Tries before marks (return some (← exprBy kind body)) Expr.IsLegible :=
    (yields.exprBy kind).tries
  unfold keywordExpr?
  refine tries_get fun s => ?_
  split
  · exact given _ _ (yields_breakTokens sound struct)
  · exact given _ _ ((yields_word "continue").seq (yields_optionalLifetime.seq yields_seq_nil))
  · exact given _ _ (yields_wordWithValue sound "return")
  · refine tries_of_yields (yields_mark fun s => yields_bind Legible ?_ fun _ _ => ?_)
    · exact (yields_word "become").seq ((yields_exprTokens sound).seq yields_seq_nil)
    · exact (yields_writtenSince List.mem_cons_self).bind fun _ legible =>
        yields_pure ⟨_, rfl, Expr.isLegible_exprOf _ legible⟩
  · exact given _ _ (yields_letTokens sound struct)
  · exact given _ _ (yields_ifTokens sound)
  · exact given _ _ (yields_whileTokens sound)
  · exact given _ _ (yields_forTokens sound)
  · exact given _ _ (yields_loopTokens sound)
  · exact given _ _ (yields_matchTokens sound)
  · exact given _ _ (yields_wordWithValue sound "yield")
  · exact given _ _ ((yields_word "unsafe").seq ((yields_attributedBlock sound).seq yields_seq_nil))
  · exact given _ _ (yields_constBlock sound)
  · exact given _ _ (yields_word "_")
  · exact tries_none

theorem yields_atom (struct : Bool) :
    Yields before .firm marks (g.atom struct) Expr.IsLegible := by
  unfold atom
  refine yields_ifPeek (yields_groupExpr sound struct) <| yields_ifPeek ?_ ?_
  · exact yields_literal.bind fun _ legible => yields_pure ⟨Token.legible_nil, legible⟩
  refine asks_startsAsyncBlock.bind fun _ => yields_ite (fun _ => ?_) fun _ => ?_
  · exact (yields_asyncTokens sound).exprBy _
  refine (asks_peek _).bind fun _ => (asks_peek2 _).bind fun _ => yields_ite (fun _ => ?_) fun _ => ?_
  · exact Yields.exprBy ((yields_word "try").seq ((yields_blockTokens sound).seq yields_seq_nil)) _
  refine asks_startsClosure.bind fun _ => yields_ite (fun _ => ?_) fun _ => ?_
  · exact (yields_closureTokens sound struct).exprBy _
  refine asks_startsBuiltin.bind fun _ => yields_ite (fun _ => ?_) fun _ => ?_
  · refine yields_mark fun s => yields_builtinCall.bind fun _ _ => ?_
    exact (yields_writtenSince List.mem_cons_self).bind fun _ legible =>
      yields_pure (Expr.isLegible_exprOf _ legible)
  refine asks_startsPath.bind fun _ => yields_ite (fun _ => ?_) fun _ => ?_
  · exact (yields_qualifiedPath sound true).bind fun path legible =>
      yields_afterPath sound path legible struct
  refine yields_ifPeek (yields_parenExpr sound) <| yields_ifPeek (yields_bracketExpr sound) ?_
  refine (tries_keywordExpr? sound struct).bind (fun e legible => yields_pure legible) ?_
  refine yields_ifPeek ((yields_attributedBlock sound).exprBy _) ?_
  refine yields_ifPeek ((yields_rangeAfter sound struct).exprBy _) ?_
  exact yields_ifPeek (yields_labeled sound) (yields_failHere _)

end Atoms

section Operands

theorem yields_suffixed (start attrs : Tokens) (member : start ∈ marks) (legible : Legible attrs)
    (struct : Bool) :
    Yields before .firm marks (g.suffixed start attrs struct) Expr.IsLegible := by
  refine (yields_atom sound struct).bind fun first is => ?_
  refine (yields_suffixes sound first is).bind fun e also => ?_
  refine yields_ite (fun _ => ?_) fun _ => yields_ite (fun _ => yields_failAt _) fun _ => ?_
  · exact (yields_writtenSince member).bind fun _ written =>
      yields_pure (Expr.isLegible_exprOf _ written)
  · exact yields_pure (also.addAttrs legible)

theorem yields_referenceExpr (attrs : Tokens) (legible : Legible attrs) (struct : Bool) :
    Yields before .firm marks (g.referenceExpr attrs struct) Expr.IsLegible := by
  unfold referenceExpr
  refine (yields_op "&" rfl).bind fun sign plain => ?_
  have after (kind : ExprKind) (mode : Tokens) (also : Legible mode) :
      Yields .firm .firm marks
        (return .other attrs kind (sign ++ mode ++ (← g.operand struct).tokens))
        Expr.IsLegible := by
    refine (sound.operand struct .firm marks).bind fun e last => yields_pure ⟨legible, ?_⟩
    exact (plain.append also).append last.tokens
  refine (asks_peek _).bind fun _ => (asks_peek2 _).bind fun _ => ?_
  refine yields_ite (fun _ => yields_bind Legible ?_ (after _)) fun _ => ?_
  · exact (yields_word "raw").seq ((yields_word "mut").seq yields_seq_nil)
  refine (asks_peek2 _).bind fun _ => yields_ite (fun _ => yields_bind Legible ?_ (after _)) fun _ => ?_
  · exact (yields_word "raw").seq ((yields_word "const").seq yields_seq_nil)
  · exact (yields_optionalWord "mut").bind (after _)

theorem yields_readOperand (struct : Bool) :
    Yields before .firm marks (g.readOperand struct) Expr.IsLegible := by
  unfold readOperand
  refine yields_mark fun s => (yields_exprAttributes sound).bind fun attrs legible => ?_
  have suffixed : Yields before .firm (s.rest :: marks) (g.suffixed s.rest attrs struct)
      Expr.IsLegible := yields_suffixed sound s.rest attrs List.mem_cons_self legible struct
  have unary (sign : Tokens) (plain : Legible sign) :
      Yields .firm .firm (s.rest :: marks)
        (return .other attrs .unary (sign ++ (← g.operand struct).tokens)) Expr.IsLegible :=
    (sound.operand struct .firm _).bind fun e also =>
      yields_pure ⟨legible, plain.append also.tokens⟩
  refine yields_ifPeek suffixed <| yields_ifPeek (yields_referenceExpr sound attrs legible struct) ?_
  refine yields_ifPeek ((yields_op "*" rfl).bind unary) ?_
  refine yields_ifPeek ((yields_op "!" rfl).bind unary) <| yields_ifPeek ?_ suffixed
  refine (yields_op "-" rfl).bind fun _ _ => ?_
  exact (sound.operand struct .firm _).bind fun e also => yields_pure ⟨legible, also.tokens⟩

theorem yields_blockLike? :
    Yields .firm .firm marks g.blockLike? fun found => ∀ e ∈ found, e.IsLegible := by
  have given (parser : Parser Expr) (yields : Yields .firm .firm marks parser Expr.IsLegible) :
      Yields .firm .firm marks (return some (← parser) : Parser (Option Expr))
        fun found => ∀ e ∈ found, e.IsLegible := yields.kept fun _ legible => legible
  have nothing : Yields .firm .firm marks (return none : Parser (Option Expr))
      fun found => ∀ e ∈ found, e.IsLegible := yields_pure nofun
  unfold blockLike?
  refine yields_get fun s _ => ?_
  split
  · next name _ _ =>
    split
    · exact given _ ((yields_ifTokens sound).exprBy _)
    · exact given _ ((yields_whileTokens sound).exprBy _)
    · exact asks_chooseGenericsAfterWord.bind fun _ =>
        yields_ite (fun _ => nothing) fun _ => given _ ((yields_forTokens sound).exprBy _)
    · exact given _ ((yields_loopTokens sound).exprBy _)
    · exact given _ ((yields_matchTokens sound).exprBy _)
    · refine (asks_peek2 _).bind fun _ => yields_ite (fun _ => given _ (Yields.exprBy ?_ _)) fun _ => nothing
      exact (yields_word "try").seq ((yields_blockTokens sound).seq yields_seq_nil)
    · refine given _ (Yields.exprBy ?_ _)
      exact (yields_word "unsafe").seq ((yields_attributedBlock sound).seq yields_seq_nil)
    · exact (asks_peek2 _).bind fun _ =>
        yields_ite (fun _ => given _ ((yields_constBlock sound).exprBy _)) fun _ => nothing
    · exact nothing
  · refine yields_ifPeek (given _ ((yields_attributedBlock sound).exprBy _)) ?_
    exact yields_ifPeek (given _ (yields_labeled sound)) nothing

theorem yields_readStatementExpr :
    Yields .firm .firm marks g.readStatementExpr Expr.IsLegible := by
  unfold readStatementExpr
  refine (yields_exprAttributes sound).bind fun attrs legible => ?_
  extract_lets onward
  have behind (first : Expr) (is : first.IsLegible) :
      Yields .firm .firm marks (onward first) Expr.IsLegible := by
    refine yields_ite (fun _ => sound.climb _ true .jump marks (is.addAttrs legible)) fun _ => ?_
    refine (asks_peek _).bind fun _ => (asks_peek _).bind fun _ => ?_
    refine yields_ite (fun _ => ?_) fun _ => yields_pure (is.addAttrs legible)
    exact (yields_suffixes sound first is).bind fun e also =>
      sound.climb _ true .jump marks (also.addAttrs legible)
  refine yields_ifPeek ?_ ?_
  · refine (yields_groupExpr sound true).bind fun grouped is => ?_
    refine yields_ite (fun _ => yields_pure_bind (behind grouped is)) fun _ => ?_
    exact (yields_suffixes sound grouped is).bind behind
  · refine (yields_blockLike? sound).bind fun found legible => ?_
    split
    · next e => exact yields_pure_bind (behind e (legible e rfl))
    · exact (sound.operand true .firm marks).bind behind

end Operands

end Grammar

end ClassExpansion
