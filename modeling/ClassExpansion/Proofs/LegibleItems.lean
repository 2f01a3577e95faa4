import ClassExpansion.Proofs.LegibleStatements
import ClassExpansion.Source.Reading

set_option autoImplicit false

/- Items that are read of legible tokens are legible, so a grammar of any depth reads what is
legible. -/
namespace ClassExpansion

open ClassExpansion.Parser
open Token (Legible)

variable {g : Grammar} {before : Footing} {marks : List Tokens}

namespace Grammar

/-- A type item with legible parts. -/
structure TypeRead.IsLegible (read : TypeRead) : Prop where
  head : Legible read.head
  name : Legible read.name
  bounds : Legible read.bounds
  clause : Legible read.clause
  value : Legible read.value
  stop : Legible read.stop

theorem yields_useRename : Yields before .firm marks useRename Legible := by
  refine (yields_word "as").bind fun keyword legible => (asks_peekAny _).bind fun _ => ?_
  refine yields_ite (fun _ => ?_) fun _ => yields_failHere _
  exact yields_anyName.bind fun named also => yields_pure (legible.append also)

theorem yields_externCrateTokens : Yields .firm .firm marks externCrateTokens Legible := by
  unfold externCrateTokens
  refine yields_bind Legible ?_ fun head legible => ?_
  · exact yields_visibility.seq <| (yields_word "extern").seq <|
      (yields_word "crate").seq yields_seq_nil
  extract_lets onward
  have behind (named : Tokens) (also : Legible named) :
      Yields .firm .firm marks (onward named) Legible := by
    unfold onward
    extract_lets finish
    have finished (renamed : Tokens) (last : Legible renamed) :
        Yields .firm .firm marks (finish renamed) Legible :=
      (yields_op ";" rfl).bind fun stop sign =>
        yields_pure (((legible.append also).append last).append sign)
    refine yields_ifPeek ?_ (yields_pure_bind (finished [] Token.legible_nil))
    refine (yields_word "as").bind fun keyword first => ?_
    have behindWord (found : Tokens) (last : Legible found) :=
      yields_pure_bind (finished (keyword ++ found) (first.append last))
    exact yields_ifPeek (yields_anyName.bind behindWord) (yields_name.bind behindWord)
  exact yields_ifPeek (yields_anyName.bind behind) (yields_name.bind behind)

theorem yields_macroTokens (named : Bool) :
    Yields .firm .firm marks (macroTokens named) Legible := by
  unfold macroTokens
  refine yields_namePath.bind fun path usable => (yields_op "!" rfl).bind fun bang sign => ?_
  have called := (path.legible_tokens usable).append sign
  refine (asks_peek _).bind fun _ => (asks_peek _).bind fun _ => ?_
  extract_lets onward
  have behind (name : Tokens) (also : Legible name) :
      Yields .firm .firm marks (onward name) Legible := by
    refine yields_rawGroup.bind fun read legible => ?_
    obtain ⟨delimiter, body⟩ := read
    have whole := (called.append also).append (legible.group delimiter)
    refine yields_ite (fun _ => yields_pure_bind (yields_pure ?_)) fun _ => ?_
    · exact whole.append Token.legible_nil
    · exact (yields_op ";" rfl).bind fun stop sign => yields_pure (whole.append sign)
  have unnamed := yields_pure_bind (behind [] Token.legible_nil)
  refine yields_ite (fun _ => unnamed) fun _ => yields_ite (fun _ => ?_) fun _ => ?_
  · exact yields_anyName.bind behind
  · exact yields_ite (fun _ => yields_name.bind behind) fun _ => unnamed

theorem yields_macroDefinition :
    Yields .firm .firm marks macroDefinition fun _ => True := by
  unfold macroDefinition
  refine yields_bind Legible ?_ fun _ _ => ?_
  · exact (yields_word "macro").seq (yields_name.seq yields_seq_nil)
  extract_lets onward
  have behind (parameters : Tokens) :
      Yields .firm .firm marks (onward parameters) fun _ => True := by
    refine yields_ifPeek ?_ (yields_failExpecting _)
    exact (yields_group yields_remaining).bind fun _ _ => yields_pure trivial
  refine yields_ifPeek ?_ (yields_pure_bind (behind []))
  exact (yields_group yields_remaining).bind fun parameters _ => behind parameters

variable (sound : g.IsLegible)
include sound

section Structs

theorem yields_readField : Yields .firm .firm marks g.readField StructField.IsLegible := by
  unfold readField
  refine (yields_outerAttributes sound).bind fun attrs attrsLegible => ?_
  refine yields_visibility.bind fun vis visLegible => (asks_peek _).bind fun unnamed => ?_
  extract_lets onward
  have behind (name : String) (usable : Name.isUsable name = true) :
      Yields .firm .firm marks (onward name) StructField.IsLegible := by
    have whole (ty : Ty) (legible : ty.IsLegible) : StructField.IsLegible ⟨attrs, vis, name, ty⟩ :=
      ⟨attrsLegible, visLegible, usable, legible⟩
    refine (yields_op ":" rfl).bind fun _ _ => ?_
    refine (asks_peek _).bind fun _ => (asks_peek _).bind fun _ => ?_
    refine (asks_peek2 _).bind fun _ => yields_ite (fun _ => yields_mark fun s => ?_) fun _ => ?_
    · refine yields_anyIdent.bind fun _ _ => ?_
      refine (yields_inside (yields_terminated (sound.field []))).bind fun _ _ => ?_
      exact (yields_writtenSince List.mem_cons_self).bind fun tokens written =>
        yields_pure (whole _ (Ty.isLegible_other written))
    · exact (yields_anyType sound).bind fun ty legible => yields_pure (whole ty legible)
  exact yields_ite (fun _ => yields_anyIdent.bind behind) fun _ => yields_ident.bind behind

theorem yields_namedFields :
    Yields before .firm marks g.namedFields fun fields => ∀ f ∈ fields, f.1.IsLegible :=
  yields_inside (yields_terminated (sound.field []))

theorem yields_namedFieldsTokens : Yields before .firm marks g.namedFieldsTokens Legible := by
  refine (yields_namedFields sound).bind fun fields legible => yields_pure ?_
  exact (legible_namedFieldTokens fields legible).group .brace

theorem yields_unnamedField : Yields .firm .firm marks g.unnamedField Legible :=
  (yields_outerTokens sound).seq <| yields_visibility.seq <|
    (yields_typeTokens sound).seq yields_seq_nil

theorem yields_unnamedFields : Yields before .firm marks g.unnamedFields Legible :=
  yields_group (yields_terminatedTokens (yields_unnamedField sound))

theorem yields_structRest :
    Yields .firm .firm marks g.structRest fun read => Legible read.2.2 ∧
      ∀ fields, read.1 = .named fields → ∀ f ∈ fields, f.ty.IsLegible := by
  unfold structRest
  refine (yields_optionalWhere sound).bind fun clause legible => ?_
  obtain ⟨constrained, clause⟩ := clause
  refine yields_ifPeek ?_ <| yields_ifPeek ?_ <| yields_ifPeek ?_ ?_
  · refine (yields_unnamedFields sound).bind fun fields fieldsLegible => ?_
    refine (yields_optionalWhere sound).bind fun later also => ?_
    refine yields_ifPeek ?_ ?_
    · refine (yields_op ";" rfl).bind fun stop sign => yields_pure ⟨?_, nofun⟩
      exact (fieldsLegible.append also).append sign
    · exact yields_ite (fun _ => yields_failExpecting _) fun _ => yields_failExpecting _
  · refine (yields_namedFields sound).bind fun fields known => yields_pure ⟨?_, ?_⟩
    · exact legible.append ((legible_namedFieldTokens fields known).group .brace)
    · rintro _ ⟨⟩
      exact List.forall_mem_map.mpr fun f member => (known f member).ty
  · exact (yields_op ";" rfl).bind fun stop sign => yields_pure ⟨legible.append sign, nofun⟩
  · exact yields_ite (fun _ => yields_failExpecting _) fun _ => yields_failExpecting _

theorem yields_structItem :
    Yields .firm .firm marks g.structItem StructItem.IsLegible := by
  refine yields_visibility.bind fun vis visLegible => ?_
  refine (yields_word "struct").bind fun keyword keywordLegible => ?_
  refine yields_ident.bind fun name usable => (yields_generics sound).bind fun generics also => ?_
  refine (yields_structRest sound).bind fun rest known => yields_pure ⟨nofun, ?_, known.2⟩
  have named := Token.legible_ident name usable
  exact (((visLegible.append keywordLegible).append named).append also).append known.1

theorem yields_variant : Yields .firm .firm marks g.variant Legible := by
  unfold variant
  refine (yields_outerTokens sound).bind fun attrs attrsLegible => ?_
  refine yields_visibility.bind fun _ _ => yields_name.bind fun named namedLegible => ?_
  have begun := attrsLegible.append namedLegible
  refine (asks_peek _).bind fun _ => (asks_peek _).bind fun _ => ?_
  extract_lets onward
  have behind (fields : Tokens) (also : Legible fields) :
      Yields .firm .firm marks (onward fields) Legible := by
    refine (asks_peek _).bind fun _ => yields_optionalPart ?_ fun value last => yields_pure ?_
    · exact (yields_op "=" rfl).seq ((yields_exprTokens sound).seq yields_seq_nil)
    · exact (begun.append also).append last
  refine yields_ite (fun _ => (yields_namedFieldsTokens sound).bind behind) fun _ => ?_
  exact yields_optionalPart (yields_unnamedFields sound) behind

theorem yields_genericsTokens : Yields .firm .firm marks g.genericsTokens Legible :=
  (yields_generics sound).bind fun _ legible => yields_pure legible

theorem yields_enumTokens : Yields .firm .firm marks g.enumTokens Legible :=
  yields_visibility.seq <| (yields_word "enum").seq <| yields_name.seq <|
    (yields_genericsTokens sound).seq <| (yields_whereTokens sound).seq <|
      (yields_group (yields_terminatedTokens (yields_variant sound))).seq yields_seq_nil

theorem yields_unionTokens : Yields .firm .firm marks g.unionTokens Legible :=
  yields_visibility.seq <| (yields_word "union").seq <| yields_name.seq <|
    (yields_genericsTokens sound).seq <| (yields_whereTokens sound).seq <|
      (yields_namedFieldsTokens sound).seq yields_seq_nil

end Structs

section Uses

theorem yields_useGroup (root : Bool) :
    Yields .firm .firm marks (g.useGroup root) fun read => Legible read.1 := by
  refine yields_repeating Token.legible_nil fun read legible => ?_
  refine asks_atEnd.bind fun _ => yields_ite (fun _ => yields_pure legible) fun _ => ?_
  extract_lets onward
  have behind (rooted : Bool) :
      Yields .firm .firm marks (onward rooted) fun next => Legible next.1.1 := by
    refine (sound.useTree (root && !rooted) marks).bind fun tree known => ?_
    have longer : Legible (read.1 ++ tree.getD []) := legible.append (legible_getD tree known)
    refine asks_atEnd.bind fun _ => yields_ite (fun _ => yields_pure longer) fun _ => ?_
    exact (yields_op "," rfl).bind fun comma sign => yields_pure (longer.append sign)
  refine yields_ite (fun _ => ?_) fun _ => yields_pure_bind (behind false)
  exact (yields_optionalOp "::" rfl).bind fun _ _ => yields_pure_bind (behind _)

theorem yields_readUseTree (root : Bool) :
    Yields .firm .firm marks (g.readUseTree root) fun found => ∀ tokens ∈ found, Legible tokens := by
  unfold readUseTree
  refine (asks_peekAny _).bind fun _ => yields_ite (fun _ => ?_) fun _ => ?_
  · refine yields_anyName.bind fun named legible => yields_ifPeek ?_ <| yields_ifPeek ?_ ?_
    · refine (yields_op "::" rfl).bind fun colons sign => ?_
      exact (sound.useTree false marks).mapped fun tokens also =>
        (legible.append sign).append also
    · exact yields_useRename.kept fun renamed also => legible.append also
    · exact yields_some legible
  refine yields_ifPeek ?_ <| yields_ifPeek ?_ (yields_failExpectingOf _)
  · exact (yields_op "*" rfl).kept fun star sign => sign
  · refine (yields_inside (yields_useGroup sound root)).bind fun read legible => ?_
    obtain ⟨tokens, rooted⟩ := read
    refine yields_pure ?_
    split
    · exact nofun
    · exact forall_mem_some (legible.group .brace)

theorem yields_useTokens :
    Yields .firm .firm marks g.useTokens fun found => ∀ tokens ∈ found, Legible tokens := by
  refine yields_bind Legible ?_ fun head headLegible => ?_
  · exact yields_visibility.seq ((yields_word "use").seq yields_seq_nil)
  refine (yields_optionalOp "::" rfl).bind fun lead leadLegible => ?_
  refine (sound.useTree lead.isEmpty marks).bind fun tree known => ?_
  refine (yields_op ";" rfl).bind fun stop sign => yields_pure ?_
  exact Option.forall_mem_map.mpr fun tokens member =>
    ((headLegible.append leadLegible).append (known tokens member)).append sign

end Uses

section Constants

theorem yields_staticTokens :
    Yields .firm .firm marks g.staticTokens fun found => ∀ tokens ∈ found, Legible tokens := by
  unfold staticTokens
  refine yields_bind Legible ?_ fun head legible => yields_ifPeek ?_ ?_
  · exact yields_visibility.seq <| (yields_word "static").seq <|
      (yields_optionalWord "mut").seq <| yields_name.seq yields_seq_nil
  · refine yields_bind Legible ?_ fun _ _ => yields_pure nofun
    exact (yields_op "=" rfl).seq <| (yields_exprTokens sound).seq <|
      (yields_op ";" rfl).seq yields_seq_nil
  · refine yields_bind Legible ?_ fun ty also => yields_ifPeek ?_ ?_
    · exact (yields_op ":" rfl).seq ((yields_typeTokens sound).seq yields_seq_nil)
    · exact (yields_op ";" rfl).bind fun _ _ => yields_pure nofun
    · refine yields_bind Legible ?_ fun value last => yields_some ?_
      · exact (yields_op "=" rfl).seq <| (yields_exprTokens sound).seq <|
          (yields_op ";" rfl).seq yields_seq_nil
      · exact (legible.append also).append last

theorem yields_constTokens (valueNeeded : Bool) :
    Yields .firm .firm marks (g.constTokens valueNeeded)
      fun found => ∀ tokens ∈ found, Legible tokens := by
  unfold constTokens
  refine (yields_word "const").bind fun keyword keywordLegible => (asks_peekAny _).bind fun _ => ?_
  refine yields_either Legible yields_anyName (yields_failExpecting _) fun named also => ?_
  refine (yields_generics sound).bind fun generics _ => yields_bind Legible ?_ fun ty tyLegible => ?_
  · exact (yields_op ":" rfl).seq ((yields_typeTokens sound).seq yields_seq_nil)
  refine (asks_peek _).bind fun _ => yields_optionalPart ?_ fun value last => ?_
  · exact (yields_op "=" rfl).seq ((yields_exprTokens sound).seq yields_seq_nil)
  refine (yields_optionalWhere sound).bind fun _ _ => (yields_op ";" rfl).bind fun stop sign => ?_
  refine yields_ite (fun _ => yields_pure nofun) fun _ => yields_some ?_
  exact (((keywordLegible.append also).append tyLegible).append last).append sign

theorem yields_typeRead (allowDefault : Bool) (place : WherePlace) :
    Yields .firm .firm marks (g.typeRead allowDefault place) TypeRead.IsLegible := by
  unfold typeRead
  refine yields_bind Legible ?_ fun head headLegible => ?_
  · refine yields_visibility.seq <| yields_seq ?_ <| (yields_word "type").seq yields_seq_nil
    exact yields_ite (fun _ => yields_optionalWord "default") fun _ => yields_pure Token.legible_nil
  refine yields_bind Legible ?_ fun named namedLegible => ?_
  · exact yields_name.seq ((yields_genericsTokens sound).seq yields_seq_nil)
  refine (asks_peek _).bind fun colon => yields_optionalPart ?_ fun bounds boundsLegible => ?_
  · exact (yields_op ":" rfl).seq ((yields_boundsUpTo sound true _).seq yields_seq_nil)
  refine yields_either (fun read => Legible read.2) (yields_pure Token.legible_nil)
    (yields_optionalWhere sound) fun clause clauseLegible => ?_
  obtain ⟨before, clause⟩ := clause
  refine (asks_peek _).bind fun _ => yields_optionalPart ?_ fun value valueLegible => ?_
  · exact (yields_op "=" rfl).seq ((yields_typeTokens sound).seq yields_seq_nil)
  refine yields_either Legible (yields_pure clauseLegible) (yields_whereTokens sound)
    fun clause clauseLegible => (yields_op ";" rfl).bind fun stop sign => yields_pure ?_
  exact ⟨headLegible, namedLegible, boundsLegible, clauseLegible, valueLegible, sign⟩

theorem yields_typeItem :
    Yields .firm .firm marks g.typeItem fun found => ∀ tokens ∈ found, Legible tokens := by
  refine (yields_typeRead sound false .beforeValue).bind fun read is => ?_
  refine yields_ite (fun _ => yields_pure nofun) fun _ => yields_some ?_
  exact (((is.head.append is.name).append is.clause).append is.value).append is.stop

end Constants

section Parts

theorem yields_bodyOf {part : Parser Tokens} (each : Yields .firm .firm [] part Legible) :
    Yields before .firm marks (g.bodyOf part) Legible := by
  refine yields_group ((yields_innerTokens sound).seq (Yields.seq ?_ yields_seq_nil))
  exact (yields_untilEnd each).bind fun parts legible =>
    yields_pure (Token.legible_flatten parts legible)

theorem yields_functionBody : Yields before .firm marks g.functionBody Legible :=
  yields_attributedBlock sound

theorem yields_foreignItem : Yields .firm .firm marks g.foreignItem Legible := by
  unfold foreignItem
  refine yields_mark fun s => (yields_outerTokens sound).bind fun attrs attrsLegible => ?_
  refine (yields_lookPast yields_visibility).bind fun found known => ?_
  obtain ⟨vis, reached⟩ := found
  obtain ⟨-, there⟩ := known
  refine (asks_visiting _ _).bind fun isStatic => (asks_visiting _ _).bind fun _ => ?_
  refine (asks_visiting _ _).bind fun _ => (asks_visiting _ _).bind fun _ => ?_
  extract_lets onward
  have behind (read : Option Tokens) (legible : ∀ tokens ∈ read, Legible tokens) :
      Yields .firm .firm (s.rest :: marks) (onward read) Legible := by
    cases read with
    | some tokens => exact yields_pure (attrsLegible.append (legible tokens rfl))
    | none => exact yields_writtenSince List.mem_cons_self
  have built (condition : Prop) [Decidable condition] (tokens : Tokens) (legible : Legible tokens) :
      Yields .firm .firm (s.rest :: marks)
        (pure (if condition then none else some tokens) >>= onward) Legible := by
    refine yields_pure_bind (behind _ ?_)
    split
    · exact nofun
    · exact forall_mem_some legible
  refine yields_ite (fun _ => ?_) fun _ => yields_ite (fun _ => ?_) fun _ =>
    yields_ite (fun _ => ?_) fun _ => yields_ite (fun _ => ?_) fun _ => ?_
  · refine yields_visibility.bind fun vis visLegible => ?_
    refine (yields_functionHead sound true).bind fun head legible => yields_ifPeek ?_ ?_
    · exact (yields_functionBody sound).bind fun _ _ => yields_pure_bind (behind none nofun)
    · exact (yields_op ";" rfl).bind fun stop sign =>
        built _ _ ((visLegible.append legible).append sign)
  · refine yields_visibility.bind fun vis visLegible => ?_
    refine (yields_optionalWord "unsafe").bind fun _ _ => ?_
    refine (yields_optionalWord "safe").bind fun _ _ => yields_bind Legible ?_ fun head legible => ?_
    · exact (yields_word "static").seq <| (yields_optionalWord "mut").seq <| yields_name.seq <|
        (yields_op ":" rfl).seq <| (yields_typeTokens sound).seq yields_seq_nil
    refine (asks_peek _).bind fun _ => yields_optionalPart ?_ fun value _ => ?_
    · exact (yields_op "=" rfl).seq ((yields_exprTokens sound).seq yields_seq_nil)
    · exact (yields_op ";" rfl).bind fun stop sign =>
        built _ _ ((visLegible.append legible).append sign)
  · refine (yields_typeRead sound false .both).bind fun read is => built _ _ ?_
    exact ((is.head.append is.name).append is.clause).append is.stop
  · exact (yields_macroTokens false).bind fun tokens legible =>
      yields_pure_bind (behind (some tokens) (forall_mem_some legible))
  · exact (yields_advanceTo there).bind fun _ _ => (yields_failExpectingOf _).bind behind

theorem yields_foreignModule : Yields .firm .firm marks g.foreignModule Legible := by
  refine (yields_optionalWord "unsafe").bind fun mode legible => ?_
  refine yields_ifPeek (yields_bind Legible ?_ fun body also => ?_) (yields_failHere _)
  · exact yields_abi.seq ((yields_bodyOf sound (yields_foreignItem sound)).seq yields_seq_nil)
  · exact yields_pure (legible.append also)

theorem yields_traitFunction : Yields .firm .firm marks g.traitFunction Legible := by
  refine (yields_functionHead sound false).bind fun head legible => ?_
  refine yields_ifPeek ?_ <| yields_ifPeek ?_ (yields_failExpecting _)
  · exact (yields_functionBody sound).bind fun body also => yields_pure (legible.append also)
  · exact (yields_op ";" rfl).bind fun stop sign => yields_pure (legible.append sign)

theorem yields_traitType : Yields .firm .firm marks g.traitType Legible := by
  refine (yields_typeRead sound false .afterValue).bind fun read is => yields_pure ?_
  have bounds : Legible (if read.bounds.length = 1 then [] else read.bounds) :=
    legible_ifElse Token.legible_nil is.bounds
  exact ((((is.head.append is.name).append bounds).append is.value).append is.clause).append is.stop

theorem yields_traitItem : Yields .firm .firm marks g.traitItem Legible := by
  unfold traitItem
  refine yields_mark fun s => (yields_outerTokens sound).bind fun attrs attrsLegible => ?_
  refine yields_visibility.bind fun vis visLegible => ?_
  refine (yields_optionalWord "default").bind fun mode modeLegible => ?_
  refine (asks_startsFunction _).bind fun _ => (asks_peek _).bind fun _ => ?_
  refine (asks_peek _).bind fun _ => (asks_peek _).bind fun _ => ?_
  extract_lets onward
  have behind (read : Option Tokens) (legible : ∀ tokens ∈ read, Legible tokens) :
      Yields .firm .firm (s.rest :: marks) (onward read) Legible := by
    unfold onward
    split
    · next tokens _ => exact yields_pure (attrsLegible.append (legible tokens rfl))
    · exact yields_writtenSince List.mem_cons_self
  have taken (tokens : Tokens) (legible : Legible tokens) :
      Yields .firm .firm (s.rest :: marks) (pure (some tokens) >>= onward) Legible :=
    yields_pure_bind (behind (some tokens) (forall_mem_some legible))
  refine yields_ite (fun _ => (yields_traitFunction sound).bind taken) fun _ => ?_
  refine yields_ite (fun _ => (yields_constTokens sound false).bind behind) fun _ => ?_
  refine yields_ite (fun _ => (yields_traitType sound).bind taken) fun _ => ?_
  refine yields_ite (fun _ => (yields_macroTokens false).bind taken) fun _ => ?_
  exact (yields_failExpectingOf _).bind behind

theorem yields_traitRest : Yields .firm .firm marks g.traitRest Legible := by
  unfold traitRest
  refine yields_bind Legible ?_ fun head headLegible => ?_
  · exact (yields_word "trait").seq <| yields_name.seq <|
      (yields_genericsTokens sound).seq yields_seq_nil
  extract_lets onward
  have behind (bounds : Tokens) (legible : Legible bounds) :
      Yields .firm .firm marks (onward bounds) Legible := by
    refine yields_bind Legible ?_ fun body also => ?_
    · exact (yields_whereTokens sound).seq <|
        (yields_bodyOf sound (yields_traitItem sound)).seq yields_seq_nil
    · exact yields_pure ((headLegible.append legible).append also)
  refine yields_ifPeek ?_ (yields_pure_bind (behind [] Token.legible_nil))
  refine (yields_op ":" rfl).bind fun colon sign => ?_
  exact (yields_boundsUpTo sound true _).bind fun bounds legible =>
    yields_pure_bind (behind _ (legible_signBefore sign legible))

theorem yields_traitOrAlias : Yields .firm .firm marks g.traitOrAlias Legible := by
  unfold traitOrAlias
  refine yields_visibility.bind fun vis legible => ?_
  have head : Yields .firm .firm marks (seq [word "trait", name, g.genericsTokens]) Legible :=
    (yields_word "trait").seq <| yields_name.seq <|
      (yields_genericsTokens sound).seq yields_seq_nil
  refine (yields_lookPast head).bind fun named known => (asks_visiting _ _).bind fun _ => ?_
  refine yields_ite (fun _ => ?_) fun _ => ?_
  · exact (yields_traitRest sound).bind fun rest also => yields_pure (legible.append also)
  refine (yields_advanceTo known.2).bind fun _ _ => yields_ifPeek ?_ (yields_failExpecting _)
  refine yields_bind Legible ?_ fun bounds also => ?_
  · exact (yields_op "=" rfl).seq <| (yields_boundsUpTo sound false _).seq <|
      (yields_whereTokens sound).seq <| (yields_op ";" rfl).seq yields_seq_nil
  · exact yields_pure ((legible.append known.1).append also)

theorem yields_traitTokens : Yields .firm .firm marks g.traitTokens Legible :=
  yields_visibility.seq <| (yields_optionalWord "unsafe").seq <|
    (yields_optionalWord "auto").seq <| (yields_traitRest sound).seq yields_seq_nil

theorem yields_implFunction :
    Yields .firm .firm marks g.implFunction fun found => ∀ part ∈ found, Legible part.tokens := by
  refine yields_bind Legible ?_ fun mode legible => ?_
  · exact yields_visibility.seq ((yields_optionalWord "default").seq yields_seq_nil)
  refine (yields_functionHead sound false).bind fun head also => yields_ifPeek ?_ ?_
  · exact (yields_op ";" rfl).bind fun _ _ => yields_pure nofun
  · exact (yields_functionBody sound).kept fun body last => (legible.append also).append last

theorem yields_implType :
    Yields .firm .firm marks g.implType fun found => ∀ tokens ∈ found, Legible tokens := by
  refine (yields_typeRead sound true .afterValue).bind fun read is => ?_
  refine yields_ite (fun _ => yields_pure nofun) fun _ => yields_some ?_
  exact (((is.head.append is.name).append is.value).append is.clause).append is.stop

omit sound in
theorem yields_implPartHead :
    Yields .firm .firm marks implPartHead fun head => Legible head.1 ∧ Legible head.2 := by
  refine yields_visibility.bind fun vis legible => ?_
  refine (asks_peek _).bind fun _ => (asks_peek2 _).bind fun _ => ?_
  exact yields_optionalPart (yields_word "default") fun mode also => yields_pure ⟨legible, also⟩

theorem yields_implPart :
    Yields .firm .firm marks g.implPart fun part => Legible part.tokens := by
  unfold implPart
  refine yields_mark fun s => (yields_outerTokens sound).bind fun attrs attrsLegible => ?_
  refine (yields_lookPast yields_implPartHead).bind fun found known => ?_
  obtain ⟨⟨vis, mode⟩, reached⟩ := found
  obtain ⟨⟨visLegible, modeLegible⟩, there⟩ := known
  refine (asks_visiting _ _).bind fun _ => (asks_visiting _ _).bind fun _ => ?_
  refine (asks_visiting _ _).bind fun _ => (asks_visiting _ _).bind fun _ => ?_
  extract_lets onward
  have behind (read : Kept ImplPart) (legible : ∀ part ∈ read, Legible part.tokens) :
      Yields .firm .firm (s.rest :: marks) (onward read) fun part => Legible part.tokens := by
    cases read with
    | some part => exact yields_pure (attrsLegible.append (legible part rfl))
    | none =>
      exact (yields_writtenSince List.mem_cons_self).bind fun _ written => yields_pure written
  refine yields_ite (fun _ => (yields_implFunction sound).bind behind) fun _ => ?_
  refine yields_ite (fun _ => ?_) fun _ => ?_
  · refine (yields_advanceTo there).bind fun _ _ => ?_
    refine (yields_constTokens sound true).bind fun found known => yields_pure_bind (behind _ ?_)
    exact Option.forall_mem_map.mpr fun tokens member =>
      (visLegible.append modeLegible).append (known tokens member)
  refine yields_ite (fun _ => ?_) fun _ => yields_ite (fun _ => ?_) fun _ => ?_
  · refine (yields_implType sound).bind fun found known => yields_pure_bind (behind _ ?_)
    exact Option.forall_mem_map.mpr known
  · exact (yields_macroTokens false).bind fun tokens legible =>
      yields_pure_bind (behind (some ⟨none, tokens⟩) (forall_mem_some legible))
  · exact (yields_advanceTo there).bind fun _ _ => (yields_failExpectingOf _).bind behind

end Parts

section Bodies

omit sound in
theorem legible_ungroupedPath (ty : Ty) (legible : ty.IsLegible) :
    ∀ tokens ∈ ungroupedPath? ty, Legible tokens := by
  fun_induction ungroupedPath? ty with
  | case1 inner ih =>
    rw [Ty.IsLegible] at legible
    exact ih legible
  | case2 lead segments =>
    rw [Ty.IsLegible] at legible
    exact forall_mem_some (legible.1.append (legible_segmentsTokens _ legible.2))
  | case3 => exact nofun

theorem yields_implItem :
    Yields .firm .firm marks g.implItem fun found => ∀ item ∈ found, ImplItem.IsLegible item := by
  unfold implItem
  refine yields_visibility.bind fun vis _ => yields_bind Legible ?_ fun head headLegible => ?_
  · exact (yields_optionalWord "default").seq <| (yields_optionalWord "unsafe").seq <|
      (yields_word "impl").seq yields_seq_nil
  refine asks_chooseGenerics.bind fun _ => ?_
  refine yields_either (fun read => Legible read.tokens) (yields_generics sound)
    (yields_pure Token.legible_nil) fun generics genericsLegible => ?_
  refine (asks_peek _).bind fun _ => (asks_peek2 _).bind fun _ => (asks_peek _).bind fun _ => ?_
  extract_lets isConst onward
  have behind : Yields .firm .firm marks (onward ()) fun found => ∀ item ∈ found, item.IsLegible := by
    refine yields_mark fun s => (asks_peek _).bind fun _ => (asks_peek2 _).bind fun _ => ?_
    refine yields_optionalPart (yields_op "!" rfl) fun negative negativeLegible => ?_
    refine (yields_anyType sound).bind fun first is => (asks_peek _).bind fun forTrait => ?_
    have namedLegible := legible_getD _ (legible_ungroupedPath first is)
    extract_lets named finish
    have finished (subject : Tokens) (self : Ty) (subjectLegible : Legible subject)
        (selfLegible : self.IsLegible) : Yields .firm .firm (s.rest :: marks)
          (pure (subject, self) >>= finish) fun found => ∀ item ∈ found, item.IsLegible := by
      refine yields_pure_bind ?_
      refine (yields_whereTokens sound).bind fun clause clauseLegible => ?_
      refine yields_bind (fun read => Legible read.1 ∧ ∀ part ∈ read.2, Legible part.tokens)
        (yields_inside ?_) fun body parts => ?_
      · refine (yields_innerTokens sound).bind fun inner innerLegible => ?_
        exact (yields_untilEnd (yields_implPart sound)).bind fun parts known =>
          yields_pure ⟨innerLegible, known⟩
      refine yields_ite (fun _ => yields_pure nofun) fun _ => yields_some ?_
      have opening := (headLegible.append genericsLegible).append subjectLegible
      have listed := parts.1.append (Token.legible_flatMap ImplPart.tokens body.2 parts.2)
      refine ⟨nofun, ((opening.append ?_).append clauseLegible).append (listed.group .brace)⟩
      exact Ty.IsLegible.tokens self selfLegible
    refine yields_ite (fun _ => ?_) fun _ => yields_ite (fun _ => ?_) fun _ => ?_
    · refine (yields_word "for").bind fun keyword keywordLegible => ?_
      refine (yields_anyType sound).bind fun self selfLegible => ?_
      exact finished _ self ((negativeLegible.append namedLegible).append keywordLegible) selfLegible
    · exact finished [] first Token.legible_nil is
    · exact (yields_writtenSince List.mem_cons_self).bind fun tokens written =>
        finished [] _ Token.legible_nil (Ty.isLegible_other written)
  refine yields_ite (fun _ => yields_bind Legible ?_ fun _ _ => behind) fun _ => behind
  exact (yields_optionalOp "?" rfl).seq ((yields_word "const").seq yields_seq_nil)

theorem yields_moduleItem : Yields .firm .firm marks g.moduleItem Item.IsLegible := by
  unfold moduleItem
  refine yields_bind Legible ?_ fun head headLegible => ?_
  · exact yields_visibility.seq <| (yields_optionalWord "unsafe").seq <|
      (yields_word "mod").seq yields_seq_nil
  refine (asks_peek _).bind fun _ => ?_
  refine yields_either Legible yields_anyName yields_name fun named namedLegible => ?_
  have opening := headLegible.append namedLegible
  refine yields_ifPeek ?_ <| yields_ifPeek ?_ (yields_failExpecting _)
  · refine (yields_op ";" rfl).bind fun _ _ => yields_pure ?_
    rw [Item.IsLegible]
    exact ⟨nofun, opening, Token.legible_nil⟩
  · refine yields_bind (fun read => Legible read.1 ∧ ∀ item ∈ read.2, item.IsLegible)
      (yields_inside ?_) fun body known => yields_pure ?_
    · refine (yields_innerTokens sound).bind fun inner innerLegible => ?_
      exact (yields_untilEnd (sound.item [])).bind fun items also =>
        yields_pure ⟨innerLegible, also⟩
    · rw [Item.IsLegible]
      exact ⟨⟨nofun, opening, known.1⟩, (Item.areLegible_iff _).mpr known.2⟩

theorem yields_externItem (reached : ParseState) (there : Stands .firm marks reached.rest) :
    Yields .firm .firm marks (g.externItem reached) Legible := by
  unfold externItem
  refine (yields_visiting there (yields_lookPast (yields_word "extern"))).bind fun past known => ?_
  refine (asks_visiting _ _).bind fun _ => yields_ite (fun _ => yields_externCrateTokens) fun _ => ?_
  refine (asks_visiting _ _).bind fun _ => yields_ite (fun _ => yields_foreignModule sound) fun _ => ?_
  refine (asks_visiting _ _).bind fun _ => yields_ite (fun _ => ?_) fun _ => ?_
  · refine (yields_visiting known.2 (yields_lookPast yields_textLiteral)).bind fun text also => ?_
    refine (asks_visiting _ _).bind fun _ => yields_ite (fun _ => yields_foreignModule sound) fun _ => ?_
    exact yields_visiting also.2 (yields_failExpecting _)
  · exact yields_visiting known.2 (yields_failExpecting _)

theorem yields_itemBody (vis : Tokens) (reached : ParseState)
    (there : Stands .firm marks reached.rest) :
    Yields .firm .firm marks (g.itemBody vis reached)
      fun found => ∀ item ∈ found, item.IsLegible := by
  unfold itemBody
  extract_lets next second isNext isSecond other
  have written (parser : Parser Tokens) (yields : Yields .firm .firm marks parser Legible) :
      Yields .firm .firm marks (return some (.other (← parser)) : Parser (Kept Item))
        fun found => ∀ item ∈ found, item.IsLegible :=
    yields.kept fun _ legible => Item.isLegible_other legible
  have kept (parser : Parser (Kept Tokens))
      (yields : Yields .firm .firm marks parser fun found => ∀ tokens ∈ found, Legible tokens) :
      Yields .firm .firm marks (return other (← parser))
        fun found => ∀ item ∈ found, item.IsLegible :=
    yields.mapped fun _ legible => Item.isLegible_other legible
  have implementation :
      Yields .firm .firm marks (return (← g.implItem).map .impl : Parser (Kept Item))
        fun found => ∀ item ∈ found, item.IsLegible :=
    (yields_implItem sound).mapped fun item legible => (Item.isLegible_impl_iff item).mpr legible
  have module : Yields .firm .firm marks (return some (← g.moduleItem) : Parser (Kept Item))
      fun found => ∀ item ∈ found, item.IsLegible :=
    (yields_moduleItem sound).kept fun _ legible => legible
  refine (asks_visiting _ _).bind fun _ => yields_ite (fun _ => ?_) fun _ => ?_
  · refine yields_visibility.bind fun vis visLegible => ?_
    refine (yields_functionHead sound false).bind fun head legible => yields_ifPeek ?_ ?_
    · exact (yields_op ";" rfl).bind fun _ _ => yields_pure nofun
    · exact (yields_functionBody sound).kept fun body also =>
        Item.isLegible_other ((visLegible.append legible).append also)
  refine yields_ite (fun _ => written _ (yields_externItem sound reached there)) fun _ => ?_
  refine yields_ite (fun _ => kept _ (yields_useTokens sound)) fun _ => ?_
  refine yields_ite (fun _ => kept _ (yields_staticTokens sound)) fun _ => ?_
  refine yields_ite (fun _ => ?_) fun _ => ?_
  · refine yields_visibility.bind fun vis visLegible => ?_
    exact (yields_constTokens sound true).mapped fun tokens legible =>
      Item.isLegible_other (visLegible.append legible)
  refine yields_ite (fun _ => ?_) fun _ => ?_
  · refine yields_ite (fun _ => written _ (yields_traitTokens sound)) fun _ => ?_
    refine yields_ite (fun _ => implementation) fun _ => ?_
    refine yields_ite (fun _ => written _ (yields_foreignModule sound)) fun _ => ?_
    refine yields_ite (fun _ => module) fun _ => ?_
    exact (yields_visiting there (yields_lookPast (yields_word "unsafe"))).bind fun past known =>
      yields_visiting known.2 (yields_failExpectingOf _)
  refine yields_ite (fun _ => module) fun _ => ?_
  refine yields_ite (fun _ => kept _ (yields_typeItem sound)) fun _ => ?_
  refine yields_ite (fun _ => ?_) fun _ => ?_
  · exact (yields_structItem sound).kept fun item legible =>
      (Item.isLegible_struct_iff item).mpr legible
  refine yields_ite (fun _ => written _ (yields_enumTokens sound)) fun _ => ?_
  refine yields_ite (fun _ => written _ (yields_unionTokens sound)) fun _ => ?_
  refine yields_ite (fun _ => written _ (yields_traitOrAlias sound)) fun _ => ?_
  refine yields_ite (fun _ => written _ (yields_traitTokens sound)) fun _ => ?_
  refine yields_ite (fun _ => implementation) fun _ => yields_ite (fun _ => ?_) fun _ => ?_
  · refine (yields_advanceTo there).bind fun _ _ => ?_
    exact yields_macroDefinition.bind fun _ _ => yields_pure nofun
  refine yields_ite (fun _ => written _ (yields_macroTokens true)) fun _ => ?_
  exact yields_visiting there (yields_failExpectingOf _)

theorem yields_readItemAfterAttrs (start : Tokens) (attrs : List Attribute) (member : start ∈ marks)
    (legible : Attribute.AreLegible attrs) :
    Yields .firm .firm marks (g.readItemAfterAttrs start attrs) Item.IsLegible := by
  unfold readItemAfterAttrs
  refine (yields_lookPast yields_visibility).bind fun found known => ?_
  obtain ⟨vis, reached⟩ := found
  refine (yields_itemBody sound vis reached known.2).bind fun found known => ?_
  split
  · next item => exact yields_pure (Item.IsLegible.addAttrs (known item rfl) legible)
  · exact (yields_writtenSince member).bind fun _ written => yields_pure (Item.isLegible_other written)

theorem yields_readItem : Yields .firm .firm marks g.readItem Item.IsLegible := by
  refine yields_mark fun s => (yields_outerAttributes sound).bind fun attrs legible => ?_
  exact yields_readItemAfterAttrs sound s.rest attrs List.mem_cons_self legible

end Bodies

end Grammar

/-- Each production asks the grammar of one depth less, and a grammar of no depth reads nothing. -/
theorem Grammar.isLegible_ofDepth (depth : Nat) : (ofDepth depth).IsLegible := by
  induction depth with
  | zero => exact {
      type := fun _ _ _ => yields_failAt _
      argument := fun _ => yields_failAt _
      boundParameter := fun _ => yields_failAt _
      expr := fun _ _ => yields_failAt _
      statementExpr := fun _ => yields_failAt _
      operand := fun _ _ _ => yields_failAt _
      climb := fun _ _ _ _ _ => yields_failAt _
      pattern := fun _ => yields_failAt _
      patterns := fun _ => yields_failAt _
      statements := fun _ => yields_failAt _
      field := fun _ => yields_failAt _
      item := fun _ => yields_failAt _
      itemAfterAttrs := fun _ _ _ _ _ => yields_failAt _
      useTree := fun _ _ => yields_failAt _ }
  | succ depth ih => exact {
      type := fun plus arguments _ => yields_readType ih plus arguments
      argument := fun _ => yields_readArgument ih
      boundParameter := fun _ => yields_readBoundParameter ih
      expr := fun struct _ => yields_readExpr ih struct
      statementExpr := fun _ => yields_readStatementExpr ih
      operand := fun struct _ _ => yields_readOperand ih struct
      climb := fun left struct least _ legible => yields_readClimb ih left struct least legible
      pattern := fun _ => yields_readPattern ih
      patterns := fun _ => yields_readPatterns ih
      statements := fun _ => yields_readStatements ih
      field := fun _ => yields_readField ih
      item := fun _ => yields_readItem ih
      itemAfterAttrs := fun start attrs _ member legible =>
        yields_readItemAfterAttrs ih start attrs member legible
      useTree := fun root _ => yields_readUseTree ih root }

end ClassExpansion
