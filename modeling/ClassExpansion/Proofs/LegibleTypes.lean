import ClassExpansion.Proofs.LegiblePaths

set_option autoImplicit false

/- Types and generic parameters that are read of legible tokens are legible. -/
namespace ClassExpansion

open ClassExpansion.Parser
open Token (Legible)

variable {g : Grammar} {before : Footing} {marks : List Tokens}

section Types

theorem yields_abi : Yields .firm .firm marks Grammar.abi Legible := by
  refine yields_ifPeek ?_ (yields_pure Token.legible_nil)
  refine (yields_word "extern").bind fun linkage legible => (asks_peek _).bind fun _ => ?_
  refine yields_ite (fun _ => ?_) fun _ => yields_pure legible
  exact yields_literalTokens.bind fun text also => yields_pure (legible.append also)

theorem yields_nameColon : Yields .firm .firm marks Grammar.nameColon Legible :=
  yields_anyName.seq <| (yields_op ":" rfl).seq yields_seq_nil

theorem yields_variadicDots : Yields .firm .firm marks Grammar.variadicDots Legible := by
  refine (asks_peekAny _).bind fun _ => yields_seq ?_ <| (yields_op "..." rfl).seq <|
    (yields_optionalOp "," rfl).seq yields_seq_nil
  exact yields_ite (fun _ => yields_nameColon) fun _ => yields_pure Token.legible_nil

theorem asks_atVariadic : Asks Grammar.atVariadic :=
  (asks_peekAny _).ask fun _ => (asks_peek2 _).ask fun _ => (asks_peek3 _).ask fun _ =>
    (asks_peek _).ask fun _ => asks_pure _

theorem yields_builtinCall : Yields before .firm marks Grammar.builtinCall Legible :=
  (yields_word "builtin").seq <| (yields_op "#" rfl).seq <| yields_name.seq <|
    (yields_group yields_remaining).seq yields_seq_nil

theorem asks_startsBuiltin : Asks Grammar.startsBuiltin :=
  (asks_peek _).ask fun _ => (asks_peek2 _).ask fun _ => asks_pure _

namespace Grammar

variable (sound : g.IsLegible)
include sound

theorem yields_functionTypeParameter (first : Bool) :
    Yields .firm .firm marks (g.functionTypeParameter first) Legible := by
  unfold functionTypeParameter
  refine (yields_outerTokens sound).bind fun attrs attrsLegible => yields_mark fun s => ?_
  refine (asks_peek _).bind fun _ => (asks_peek2 _).bind fun _ => ?_
  extract_lets mutableSelf rest
  have written : Yields .firm .firm (s.rest :: marks)
      (return attrs ++ (← writtenSince s.rest)) Legible :=
    (yields_writtenSince List.mem_cons_self).bind fun _ legible =>
      yields_pure (attrsLegible.append legible)
  have behind : Yields .firm .firm (s.rest :: marks) (rest ()) Legible := by
    refine (asks_peek _).bind fun _ => (asks_peekAny _).bind fun _ => ?_
    refine (asks_peek2 _).bind fun _ => (asks_peek2 _).bind fun _ => ?_
    extract_lets named plainSelf labeled
    have typed (label : Tokens) (legible : Legible label) :
        Yields .firm .firm (s.rest :: marks) (labeled label) Legible := by
      refine (asks_peek _).bind fun _ => (asks_peek2 _).bind fun _ => ?_
      refine yields_ite (fun _ => ?_) fun _ => yields_ite (fun _ => ?_) fun _ => ?_
      · refine yields_bind Legible ?_ fun _ _ => written
        exact (yields_word "mut").seq ((yields_word "self").seq yields_seq_nil)
      · exact (yields_word "self").bind fun _ _ => written
      · refine (yields_typeTokens sound).bind fun ty also => ?_
        refine yields_ite (fun _ => written) fun _ => yields_pure ?_
        exact (attrsLegible.append legible).append also
    refine yields_ite (fun _ => ?_) fun _ => yields_pure_bind (typed [] Token.legible_nil)
    exact yields_nameColon.bind typed
  exact yields_ite (fun _ => (yields_word "mut").bind fun _ _ => behind) fun _ => behind

theorem yields_functionTypeParameters :
    Yields .firm .firm marks g.functionTypeParameters Legible := by
  unfold functionTypeParameters
  refine yields_bind (fun read => Legible read.1) ?_ fun read legible => yields_pure legible
  refine yields_repeating Token.legible_nil fun read legible => ?_
  obtain ⟨tokens, first⟩ := read
  refine asks_atEnd.bind fun _ => yields_ite (fun _ => yields_pure legible) fun _ => ?_
  refine (yields_outerTokens sound).bind fun attrs attrsLegible => ?_
  have before := legible.append attrsLegible
  refine asks_atVariadic.bind fun _ => yields_ite (fun _ => ?_) fun _ => ?_
  · exact yields_variadicDots.bind fun dots also => yields_pure (before.append also)
  refine (yields_functionTypeParameter sound first).bind fun parameter also => ?_
  have longer := before.append also
  refine asks_atEnd.bind fun _ => yields_ite (fun _ => yields_pure longer) fun _ => ?_
  exact (yields_op "," rfl).bind fun comma sign => yields_pure (longer.append sign)

theorem yields_functionType : Yields .firm .firm marks g.functionType Legible :=
  (yields_optionalWord "unsafe").seq <| yields_abi.seq <| (yields_word "fn").seq <|
    (yields_group (yields_functionTypeParameters sound)).seq <|
      (yields_returnType sound false).seq yields_seq_nil

theorem yields_typeAfterGroup (inner : Ty) (legible : inner.IsLegible) (groupArguments : Bool) :
    Yields .firm .firm marks (g.typeAfterGroup inner groupArguments) Ty.IsLegible := by
  have grouped : (Ty.group inner).IsLegible := by
    rw [Ty.IsLegible]
    exact legible
  unfold typeAfterGroup
  refine (asks_peek _).bind fun _ => (asks_peek _).bind fun _ => (asks_peek3 _).bind fun _ => ?_
  refine yields_ite (fun _ => ?_) fun _ => ?_
  · split
    · next qualified lead segments =>
      rw [Ty.IsLegible] at legible
      have isPath : (Path.mk qualified lead segments).IsLegible := ⟨legible.1, legible.2⟩
      refine (yields_segmentsAfter sound false).bind fun more also => yields_pure ?_
      exact (isPath.addSegments more also).toTy
    · refine (yields_path sound false).bind fun path also => yields_pure ?_
      have subject := Ty.IsLegible.tokens inner legible
      rw [Ty.IsLegible]
      refine ⟨?_, also.segments⟩
      have opened := (Token.legible_op "<" rfl).append subject
      exact (opened.append (Token.legible_op ">" rfl)).append also.lead
  refine (asks_peek3 _).bind fun _ => yields_ite (fun _ => ?_) fun _ => yields_pure grouped
  split
  · next qualified lead segments =>
    rw [Ty.IsLegible] at legible
    have isPath : (Path.mk qualified lead segments).IsLegible := ⟨legible.1, legible.2⟩
    refine yields_ite (fun _ => ?_) fun _ => yields_pure grouped
    refine (yields_angledArguments sound).bind fun arguments argumentsLegible => ?_
    refine (yields_segmentsAfter sound false).bind fun more also => yields_pure ?_
    exact ((isPath.withLastArguments arguments argumentsLegible).addSegments more also).toTy
  · exact yields_pure grouped

theorem yields_anyType : Yields .firm .firm marks g.anyType Ty.IsLegible :=
  sound.type true true marks

theorem yields_parenContent :
    Yields .firm .firm marks g.parenContent ParenContent.IsLegible := by
  unfold parenContent
  refine asks_atEnd.bind fun _ => yields_ite (fun _ => yields_pure Token.legible_nil) fun _ => ?_
  refine yields_ifPeek ?_ ?_
  · exact (yields_boundsOfTrait sound true false noTrait).bind fun _ legible => yields_pure legible
  refine yields_ifPeek ?_ ?_
  · refine (yields_traitBound sound false).bind fun found legible => yields_pure ?_
    cases found with
    | none => exact Token.legible_nil
    | some tokens => exact legible tokens rfl
  refine (yields_anyType sound).bind fun first legible => (asks_peek _).bind fun _ => ?_
  refine yields_ite (fun _ => ?_) fun _ => yields_pure legible
  refine (yields_op "," rfl).bind fun comma sign => ?_
  refine (yields_terminatedTokens (yields_typeTokens sound)).bind fun more also => yields_pure ?_
  exact ((Ty.IsLegible.tokens first legible).append sign).append also

theorem yields_parenType (plus : Bool) :
    Yields before .firm marks (g.parenType plus) Ty.IsLegible := by
  unfold parenType
  refine (yields_inside (yields_parenContent sound)).bind fun content legible => ?_
  split
  · next tokens => exact yields_pure (Ty.isLegible_other (legible.group .paren))
  · next tokens =>
    refine yields_pure ?_
    rw [Ty.IsLegible]
    exact Ty.isLegible_other legible
  · next tokens =>
    refine yields_ifPeek ?_ (yields_pure ?_)
    · refine (yields_boundsAfter sound).bind fun more also => yields_pure ?_
      exact Ty.isLegible_other ((legible.group .paren).append also)
    · rw [Ty.IsLegible]
      exact legible
  · next first =>
    have enclosed : (Ty.paren first).IsLegible := by
      rw [Ty.IsLegible]
      exact legible
    refine yields_ifPeek ?_ (yields_pure enclosed)
    split
    · next bound isBound =>
      refine (yields_boundsAfter sound).bind fun more also => yields_pure ?_
      exact Ty.isLegible_other ((legible_parenthesizedBound first legible bound isBound).append also)
    · exact yields_pure enclosed

theorem yields_pathType (binder : Tokens) (binderLegible : Legible binder) (plus : Bool) :
    Yields .firm .firm marks (g.pathType binder plus) Ty.IsLegible := by
  unfold pathType
  refine (yields_qualifiedPath sound false).bind fun path legible => ?_
  refine yields_ite (fun _ => yields_pure legible.toTy) fun _ => ?_
  refine (asks_peek _).bind fun _ => (asks_peek _).bind fun _ => yields_ite (fun _ => ?_) fun _ => ?_
  · refine yields_bind Legible ?_ fun call also => yields_pure ?_
    · exact (yields_op "!" rfl).seq (yields_rawGroupTokens.seq yields_seq_nil)
    · exact Ty.isLegible_other (legible.tokens.append also)
  refine (asks_peek _).bind fun _ => yields_ite (fun _ => ?_) fun _ => yields_pure legible.toTy
  have named := binderLegible.append legible.tokens
  extract_lets bounded
  have behind (rest : Tokens) (also : Legible rest) :
      Yields .firm .firm marks (bounded rest) Ty.IsLegible := by
    refine yields_ite (fun _ => yields_pure ?_) fun _ => ?_
    · rw [Ty.IsLegible]
      exact named
    · exact yields_pure (Ty.isLegible_other (named.append also))
  refine yields_ite (fun _ => ?_) fun _ => yields_pure_bind (behind [] Token.legible_nil)
  refine yields_bind Legible ?_ behind
  refine yields_repeating Token.legible_nil fun read legible => ?_
  refine yields_ifPeek ?_ (yields_pure legible)
  refine (yields_op "+" rfl).bind fun sign plain => ?_
  have longer := legible.append plain
  refine yields_ifPeek ?_ (yields_pure longer)
  exact (yields_boundTokens sound false).bind fun more also => yields_pure (longer.append also)

theorem yields_bracketType : Yields before .firm marks g.bracketType Legible := by
  refine yields_group ((yields_typeTokens sound).bind fun element legible => ?_)
  refine yields_ifPeek ?_ (yields_pure legible)
  refine yields_bind Legible ?_ fun length also => yields_pure (legible.append also)
  exact (yields_op ";" rfl).seq ((yields_exprTokens sound).seq yields_seq_nil)

theorem yields_pointerType : Yields before .firm marks g.pointerType Legible := by
  unfold pointerType
  refine (yields_op "*" rfl).bind fun star sign => ?_
  extract_lets pointee
  have behind (mode : Tokens) (legible : Legible mode) :
      Yields .firm .firm marks (pointee mode) Legible :=
    (yields_tightType sound).bind fun ty also => yields_pure ((sign.append legible).append also)
  refine (asks_peek _).bind fun _ => (asks_peek _).bind fun _ => ?_
  refine yields_ite (fun _ => (yields_word "const").bind behind) fun _ => ?_
  refine yields_ite (fun _ => (yields_word "mut").bind behind) fun _ => ?_
  exact yields_failExpecting_bind _ _

theorem yields_referenceType : Yields before .firm marks g.referenceType Legible :=
  (yields_op "&" rfl).seq <| yields_optionalLifetime.seq <| (yields_optionalWord "mut").seq <|
    (yields_tightType sound).seq yields_seq_nil

theorem yields_objectType (plus : Bool) :
    Yields .firm .firm marks (g.objectType plus) Legible := by
  unfold objectType
  refine yields_mark fun s => (yields_word "dyn").bind fun head legible => ?_
  refine (yields_optionalOp "*" rfl).bind fun star _ => ?_
  refine (yields_boundsOfTrait sound plus false noTrait).bind fun bounds also => ?_
  refine yields_ite (fun _ => yields_pure (legible.append also)) fun _ => ?_
  exact yields_writtenSince List.mem_cons_self

theorem yields_opaqueType (plus : Bool) :
    Yields before .firm marks (g.opaqueType plus) Legible := by
  refine (yields_word "impl").bind fun head legible => ?_
  refine (yields_boundsOfTrait sound plus true _).bind fun bounds also => yields_pure ?_
  exact legible.append also

theorem yields_ungroupedType (plus : Bool) :
    Yields .firm .firm marks (g.ungroupedType plus) Ty.IsLegible := by
  have keep (s : ParseState) (parser : Parser Tokens)
      (yields : Yields .firm .firm (s.rest :: marks) parser Legible) :
      Yields .firm .firm (s.rest :: marks) (return .other (← parser)) Ty.IsLegible :=
    yields.bind fun _ legible => yields_pure (Ty.isLegible_other legible)
  unfold ungroupedType
  refine yields_mark fun s => (yields_optionalBinder sound).bind fun binder legible => ?_
  extract_lets kind
  have kinds : Yields .firm .firm (s.rest :: marks) (kind ()) Ty.IsLegible := by
    refine yields_ifPeek (yields_parenType sound plus) <| yields_ifPeek ?_ ?_
    · refine (yields_functionType sound).bind fun function also => yields_pure ?_
      exact Ty.isLegible_other (legible.append also)
    refine asks_startsBuiltin.bind fun _ => yields_ite (fun _ => ?_) fun _ => ?_
    · exact yields_builtinCall.bind fun _ _ => keep s _ (yields_writtenSince List.mem_cons_self)
    refine yields_ifPeek (yields_pathType sound binder legible plus) ?_
    refine yields_ifPeek (keep s _ (yields_objectType sound plus)) ?_
    refine yields_ifPeek (keep s _ (yields_bracketType sound)) ?_
    refine yields_ifPeek (keep s _ (yields_pointerType sound)) ?_
    refine yields_ifPeek (keep s _ (yields_referenceType sound)) ?_
    refine (asks_peek _).bind fun _ => (asks_peek _).bind fun _ => ?_
    refine yields_ite (fun _ => keep s _ (yields_op "!" rfl)) fun _ => ?_
    refine yields_ifPeek (keep s _ (yields_opaqueType sound plus)) ?_
    refine yields_ifPeek (keep s _ (yields_word "_")) ?_
    exact yields_ifPeek (keep s _ (yields_boundsOfTrait sound true false noTrait))
      (yields_failExpecting _)
  refine yields_ite (fun _ => ?_) fun _ => kinds
  refine (asks_peek _).bind fun _ => (asks_peek _).bind fun _ => ?_
  exact yields_ite (fun _ => yields_failExpecting_bind _ _) fun _ => kinds

theorem yields_readType (plus groupArguments : Bool) :
    Yields .firm .firm marks (g.readType plus groupArguments) Ty.IsLegible := by
  refine yields_ifPeek ?_ (yields_ungroupedType sound plus)
  refine (yields_inside (yields_anyType sound)).bind fun inner legible => ?_
  exact yields_typeAfterGroup sound inner legible groupArguments

end Grammar

end Types

section Generics

theorem asks_chooseGenerics : Asks chooseGenerics := by
  unfold chooseGenerics
  refine (asks_peek _).ask fun _ => asks_ite (asks_pure _) ?_
  refine (asks_peek2 _).ask fun _ => asks_ite (asks_pure _) ?_
  refine (asks_peek2 _).ask fun _ => asks_ite (asks_pure _) ?_
  refine (asks_peek2 _).ask fun _ => asks_ite (asks_pure _) ?_
  refine (asks_peek2 _).ask fun _ => (asks_peek2 _).ask fun _ => (asks_peek3 _).ask fun _ => ?_
  exact (asks_peek3 _).ask fun _ => (asks_peek3 _).ask fun _ => (asks_peek3 _).ask fun _ =>
    asks_pure _

theorem asks_chooseGenericsAfterWord : Asks chooseGenericsAfterWord := by
  refine (asks_ahead _).ask fun found => ?_
  split
  · exact asks_pure _
  · exact asks_pure _

theorem legible_signBefore {sign rest : Tokens} (legible : Legible sign) (also : Legible rest) :
    Legible (Grammar.signBefore sign rest) :=
  legible_ifElse Token.legible_nil (legible.append also)

theorem yields_lifetimeBounds (stop : Peek) :
    Yields .firm .firm marks (Grammar.lifetimeBounds stop) Legible := by
  refine yields_repeating Token.legible_nil fun read legible => ?_
  refine yields_ifPeek (yields_pure legible) <| yields_lifetime.bind fun more also => ?_
  have longer := legible.append also
  refine yields_ifPeek ?_ (yields_pure longer)
  exact (yields_op "+" rfl).bind fun _ sign => yields_pure (longer.append sign)

theorem yields_lifetimeParameter :
    Yields .firm .firm marks Grammar.lifetimeParameter Legible := by
  refine yields_lifetime.bind fun named legible => yields_ifPeek ?_ (yields_pure legible)
  refine (yields_op ":" rfl).bind fun colon sign => ?_
  refine (yields_lifetimeBounds _).bind fun bounds also => yields_pure ?_
  exact legible.append (legible_signBefore sign also)

namespace Grammar

variable (sound : g.IsLegible)
include sound

theorem yields_typeParameter : Yields .firm .firm marks g.typeParameter Legible := by
  unfold typeParameter
  refine yields_name.bind fun named legible => ?_
  extract_lets defaulted
  have behind (bounds : Tokens) (also : Legible bounds) :
      Yields .firm .firm marks (defaulted bounds) Legible := by
    have bounded := legible.append also
    refine yields_ifPeek (yields_bind Legible ?_ fun value last => ?_) (yields_pure bounded)
    · exact (yields_op "=" rfl).seq ((yields_typeTokens sound).seq yields_seq_nil)
    · exact yields_pure (bounded.append last)
  refine yields_ifPeek ?_ (yields_pure_bind (behind [] Token.legible_nil))
  refine (yields_op ":" rfl).bind fun colon sign => ?_
  refine (yields_boundsUntil sound true _).bind fun bounds also => yields_pure_bind ?_
  exact behind _ (legible_signBefore sign also)

theorem yields_constParameter : Yields .firm .firm marks g.constParameter Legible := by
  refine yields_bind Legible ?_ fun head legible => yields_ifPeek ?_ (yields_pure legible)
  · exact (yields_word "const").seq <| yields_name.seq <| (yields_op ":" rfl).seq <|
      (yields_typeTokens sound).seq yields_seq_nil
  · refine yields_bind Legible ?_ fun value also => yields_pure (legible.append also)
    exact (yields_op "=" rfl).seq ((yields_constArgument sound).seq yields_seq_nil)

theorem yields_genericParameter :
    Yields .firm .firm marks g.genericParameter fun read => Legible read.2 := by
  refine yields_ifPeek ?_ <| yields_ifPeek ?_ <| yields_ifPeek ?_ <| yields_ifPeek ?_ ?_
  · exact yields_lifetimeParameter.bind fun _ legible => yields_pure legible
  · exact (yields_typeParameter sound).bind fun _ legible => yields_pure legible
  · exact (yields_constParameter sound).bind fun _ legible => yields_pure legible
  · exact yields_anyName.bind fun _ legible => yields_pure legible
  · exact yields_failExpecting _

theorem yields_readBoundParameter : Yields .firm .firm marks g.readBoundParameter Legible := by
  refine (yields_outerTokens sound).bind fun attrs legible => ?_
  have after (parser : Parser Tokens) (yields : Yields .firm .firm marks parser Legible) :
      Yields .firm .firm marks (return attrs ++ (← parser)) Legible :=
    yields.bind fun _ also => yields_pure (legible.append also)
  refine yields_ifPeek (after _ (yields_typeParameter sound)) ?_
  refine yields_ifPeek (after _ yields_lifetimeParameter) ?_
  exact yields_ifPeek (after _ (yields_constParameter sound)) (yields_failExpecting _)

theorem yields_generics :
    Yields .firm .firm marks g.generics fun read => Legible read.tokens := by
  unfold generics
  refine yields_ifPeek (yields_pure Token.legible_nil) ?_
  refine (yields_op "<" rfl).bind fun _ _ => ?_
  refine yields_bind (fun read => ∀ a ∈ read, Legible a.2.1) ?_ fun read legible => ?_
  · refine yields_repeating (List.forall_mem_nil _) fun read legible => ?_
    refine yields_ifPeek (yields_pure legible) ?_
    refine (yields_outerTokens sound).bind fun attrs attrsLegible => ?_
    refine (yields_genericParameter sound).bind fun parameter also => ?_
    obtain ⟨isLifetime, tokens⟩ := parameter
    have all := Token.legible_concat legible (attrsLegible.append also) isLifetime
    refine yields_ifPeek (yields_pure (all false)) ?_
    exact (yields_op "," rfl).bind fun _ _ => yields_pure (all true)
  · refine (yields_op ">" rfl).bind fun _ _ => yields_pure (legible_ifElse Token.legible_nil ?_)
    have listed := legible_lifetimesFirst read legible
    exact ((Token.legible_op "<" rfl).append listed).append (Token.legible_op ">" rfl)

theorem yields_wherePredicate : Yields .firm .firm marks g.wherePredicate Legible := by
  refine (asks_peek _).bind fun _ => (asks_peek2 _).bind fun _ => ?_
  refine yields_ite (fun _ => ?_) fun _ => ?_
  · exact yields_lifetime.seq <| (yields_op ":" rfl).seq <|
      (yields_lifetimeBounds _).seq yields_seq_nil
  · exact (yields_optionalBinder sound).seq <| (yields_typeTokens sound).seq <|
      (yields_op ":" rfl).seq <| (yields_boundsUntil sound true _).seq yields_seq_nil

theorem yields_whereClause : Yields .firm .firm marks g.whereClause Legible := by
  unfold whereClause
  refine (yields_word "where").bind fun head legible => asks_chooseGenerics.bind fun _ => ?_
  refine yields_ite (fun _ => yields_failHere_bind _ _) fun _ => ?_
  refine yields_bind Legible ?_ fun predicates also => ?_
  · refine yields_repeating Token.legible_nil fun read legible => ?_
    refine yields_ifPeek (yields_pure legible) ?_
    refine (yields_wherePredicate sound).bind fun more also => ?_
    have longer := legible.append also
    refine yields_ifPeek ?_ (yields_pure longer)
    exact (yields_op "," rfl).bind fun _ sign => yields_pure (longer.append sign)
  · exact yields_pure (legible_signBefore legible also)

theorem yields_optionalWhere :
    Yields .firm .firm marks g.optionalWhere fun read => Legible read.2 := by
  refine yields_ifPeek ?_ (yields_pure Token.legible_nil)
  exact (yields_whereClause sound).bind fun _ legible => yields_pure legible

theorem yields_whereTokens : Yields .firm .firm marks g.whereTokens Legible :=
  (yields_optionalWhere sound).bind fun _ legible => yields_pure legible

end Grammar

end Generics

end ClassExpansion
