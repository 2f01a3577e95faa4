import ClassExpansion.Proofs.LegibleSource

set_option autoImplicit false

/- Attributes, paths and bounds that are read of legible tokens are legible, if the grammar one level
below reads legible ones. -/
namespace ClassExpansion

open ClassExpansion.Parser
open Token (Legible)

/-- Of legible tokens the grammar reads what is legible. An operand may begin where the tokens
before it ask for the next one. -/
structure Grammar.IsLegible (g : Grammar) : Prop where
  type : ∀ plus arguments marks,
    Yields .firm .firm marks (g.type plus arguments) Ty.IsLegible
  argument : ∀ marks, Yields .firm .firm marks g.argument GenericArgument.IsLegible
  boundParameter : ∀ marks, Yields .firm .firm marks g.boundParameter Legible
  expr : ∀ struct marks, Yields .firm .firm marks (g.expr struct) Expr.IsLegible
  statementExpr : ∀ marks, Yields .firm .firm marks g.statementExpr Expr.IsLegible
  operand : ∀ struct before marks, Yields before .firm marks (g.operand struct) Expr.IsLegible
  climb : ∀ left struct least marks, left.IsLegible →
    Yields .firm .firm marks (g.climb left struct least) Expr.IsLegible
  pattern : ∀ marks, Yields .firm .firm marks g.pattern fun p => Legible p.tokens
  patterns : ∀ marks, Yields .firm .firm marks g.patterns fun p => Legible p.tokens
  statements : ∀ marks, Yields .firm .firm marks g.statements Legible
  field : ∀ marks, Yields .firm .firm marks g.field StructField.IsLegible
  item : ∀ marks, Yields .firm .firm marks g.item Item.IsLegible
  itemAfterAttrs : ∀ start attrs marks, start ∈ marks → Attribute.AreLegible attrs →
    Yields .firm .firm marks (g.itemAfterAttrs start attrs) Item.IsLegible
  useTree : ∀ root marks,
    Yields .firm .firm marks (g.useTree root) fun found => ∀ tokens ∈ found, Legible tokens

variable {g : Grammar} {before after : Footing} {marks : List Tokens}

section Attributes

theorem yields_namesWhile (more : Peek) :
    Yields .firm .firm marks (namesWhile more) fun read =>
      ∀ name ∈ read.names, Name.isUsable name = true := by
  refine yields_repeating (List.forall_mem_nil _) fun read usable => ?_
  refine yields_ifPeek ?_ (yields_pure usable)
  refine yields_anyIdent.bind fun name also => ?_
  have all := List.forall_mem_append.mpr ⟨usable, List.forall_mem_singleton.mpr also⟩
  refine yields_ifPeek ?_ (yields_pure all)
  exact (yields_op "::" rfl).bind fun _ _ => yields_pure all

theorem yields_namePath :
    Yields .firm .firm marks namePath fun path =>
      ∀ name ∈ path.names, Name.isUsable name = true := by
  unfold namePath
  refine (yields_optionalOp "::" rfl).bind fun _ _ => ?_
  refine (yields_namesWhile _).bind fun read usable => ?_
  refine yields_ite (fun _ => ?_) fun _ => yields_ite (fun _ => ?_) fun _ => yields_pure usable
  · exact yields_ident.bind fun _ _ => yields_pure usable
  · exact yields_failHere_bind _ _

theorem yields_rawGroup : Yields before .firm marks rawGroup fun read => Legible read.2 := by
  unfold rawGroup
  refine yields_get fun s stands => ?_
  split
  · next delimiter body rest first =>
    rw [first] at stands
    refine yields_ite (fun _ => yields_failHere _) fun _ => ?_
    exact (yields_setRest (stands.pass trivial)).bind fun _ _ => yields_pure stands.body
  · exact yields_failHere _

theorem yields_rawGroupTokens : Yields before .firm marks rawGroupTokens Legible :=
  yields_rawGroup.bind fun read legible => yields_pure (legible.group read.1)

namespace Grammar

variable (sound : g.IsLegible)
include sound

theorem yields_metaValue : Yields .firm .firm marks g.metaValue Expr.IsLegible := by
  unfold metaValue
  refine (yields_op "=" rfl).bind fun _ _ => yields_get fun s stands => ?_
  split
  · next value next =>
    obtain ⟨there, legible⟩ := stands.nextLiteral? next
    refine (yields_setRest there).bind fun _ _ => yields_pure ?_
    exact ⟨Token.legible_nil, legible⟩
  · refine (asks_peek _).bind fun _ => (asks_peek2 _).bind fun _ => ?_
    exact yields_ite (fun _ => yields_failHere _) fun _ => sound.expr true marks

theorem yields_metaItem :
    Yields .firm .firm marks g.metaItem fun item => Legible item.tokens := by
  have body (path : NamePath) (usable : ∀ name ∈ path.names, Name.isUsable name = true) :
      Yields .firm .firm marks (return ⟨path, ← g.metaBody isPlainEquals⟩ : Parser MetaItem)
        fun item => Legible item.tokens := by
    have named := path.legible_tokens usable
    refine yields_bind (fun body => Legible (MetaItem.tokens ⟨path, body⟩)) ?_
      fun body legible => yields_pure legible
    refine yields_ifPeek ?_ ?_
    · refine yields_rawGroup.bind fun read legible => yields_pure ?_
      exact named.append (legible.group read.1)
    refine yields_ifPeek ?_ ?_
    · refine (yields_metaValue sound).bind fun value legible => yields_pure ?_
      exact named.append ((Token.legible_op "=" rfl).append legible.tokens)
    · exact yields_pure (named.append Token.legible_nil)
  unfold metaItem
  refine (asks_peek _).bind fun _ => ?_
  refine yields_ite (fun _ => ?_) fun _ => yields_namePath.bind body
  have word : ∀ name ∈ ["unsafe"], Name.isUsable name = true := by decide
  exact (yields_word "unsafe").bind fun _ _ => yields_pure_bind (body ⟨false, ["unsafe"]⟩ word)

theorem yields_outerAttribute :
    Yields before .firm marks g.outerAttribute fun a => Legible a.tokens := by
  unfold outerAttribute
  refine (yields_op "#" rfl).bind fun _ _ => ?_
  refine (yields_inside (yields_metaItem sound)).bind fun item legible => yields_pure ?_
  exact Attribute.legible_tokens false item legible

theorem yields_innerAttribute :
    Yields .firm .firm marks g.innerAttribute fun a => Legible a.tokens := by
  unfold innerAttribute
  refine (yields_op "#" rfl).bind fun _ _ => (yields_op "!" rfl).bind fun _ _ => ?_
  refine (yields_inside (yields_metaItem sound)).bind fun item legible => yields_pure ?_
  exact Attribute.legible_tokens true item legible

theorem yields_outerAttributesWhile (more : Peek) :
    Yields before before marks (g.outerAttributesWhile more) Attribute.AreLegible := by
  refine yields_repeating (List.forall_mem_nil _) fun read legible => ?_
  refine yields_ifPeek ?_ (yields_pure legible)
  refine ((yields_outerAttribute sound).bind fun a also => yields_pure ?_).weaken
  exact legible.concat also

theorem yields_outerAttributes :
    Yields before before marks g.outerAttributes Attribute.AreLegible :=
  yields_outerAttributesWhile sound _

theorem yields_outerTokens : Yields before before marks g.outerTokens Legible :=
  (yields_outerAttributes sound).bind fun _ legible => yields_pure legible.tokens

theorem yields_innerAttributes :
    Yields .firm .firm marks g.innerAttributes Attribute.AreLegible := by
  refine yields_repeating (List.forall_mem_nil _) fun read legible => ?_
  refine (asks_peek _).bind fun _ => (asks_peek2 _).bind fun _ => ?_
  refine yields_ite (fun _ => ?_) fun _ => yields_pure legible
  refine (yields_innerAttribute sound).bind fun a also => yields_pure ?_
  exact legible.concat also

theorem yields_innerTokens : Yields .firm .firm marks g.innerTokens Legible :=
  (yields_innerAttributes sound).bind fun _ legible => yields_pure legible.tokens

end Grammar

end Attributes

section Paths

theorem yields_literalTokens : Yields before .firm marks Grammar.literalTokens Legible :=
  yields_literal.bind fun _ legible => yields_pure legible

theorem yields_optionalLifetime : Yields .firm .firm marks Grammar.optionalLifetime Legible := by
  refine yields_ifPeek yields_lifetime ?_
  exact yields_pure Token.legible_nil

theorem Token.legible_concat {read : List (Bool × Tokens × Bool)}
    (legible : ∀ a ∈ read, Legible a.2.1) {tokens : Tokens} (also : Legible tokens)
    (isLifetime comma : Bool) : ∀ a ∈ read ++ [(isLifetime, tokens, comma)], Legible a.2.1 :=
  List.forall_mem_append.mpr ⟨legible, List.forall_mem_singleton.mpr also⟩

/-- What captures are listed is read and put in order. -/
theorem yields_preciseCapture : Yields .firm .firm marks Grammar.preciseCapture Legible := by
  unfold Grammar.preciseCapture
  refine (yields_word "use").bind fun _ _ => (yields_op "<" rfl).bind fun _ _ => ?_
  refine yields_bind (fun read => ∀ a ∈ read, Legible a.2.1) ?_ ?_
  · refine yields_repeating (List.forall_mem_nil _) fun read legible => ?_
    have add (isLifetimeNext : Bool) (tokens : Tokens) (also : Legible tokens) :
        Yields .firm .firm marks (do
          if ← peek (isOp ",") then
            let _ ← op ","
            return (read ++ [(isLifetimeNext, tokens, true)], true)
          else if ← peek (isOp ">") then return (read ++ [(isLifetimeNext, tokens, false)], false)
          else failExpecting ["`,`", "`>`"])
          fun next => ∀ a ∈ next.1, Legible a.2.1 := by
      have all := Token.legible_concat legible also isLifetimeNext
      refine yields_ifPeek ?_ ?_
      · exact (yields_op "," rfl).bind fun _ _ => yields_pure (all true)
      · refine yields_ifPeek (yields_pure (all false)) ?_
        exact yields_failExpecting _
    refine (asks_peek _).bind fun _ => (asks_peekAny _).bind fun _ => (asks_peek _).bind fun _ => ?_
    refine yields_ite (fun _ => ?_) fun _ => yields_ite (fun _ => ?_) fun _ => ?_
    · exact yields_lifetime.bind fun tokens also => yields_pure_bind (add true tokens also)
    · exact yields_anyName.bind fun tokens also => yields_pure_bind (add false tokens also)
    · exact yields_ite (fun _ => yields_pure legible) fun _ => yields_failExpecting_bind _ _
  · intro captured legible
    refine (yields_op ">" rfl).bind fun close last => yields_pure ?_
    have head := (Token.legible_ident "use" (by decide)).append (Token.legible_op "<" rfl)
    exact (head.append (legible_lifetimesFirst captured legible)).append last

namespace Grammar

variable (sound : g.IsLegible)
include sound

theorem yields_typeTokens : Yields .firm .firm marks g.typeTokens Legible :=
  (sound.type true true marks).bind fun ty legible => yields_pure (Ty.IsLegible.tokens ty legible)

theorem yields_tightType : Yields .firm .firm marks g.tightType Legible :=
  (sound.type false true marks).bind fun ty legible => yields_pure (Ty.IsLegible.tokens ty legible)

theorem yields_exprTokens : Yields .firm .firm marks g.exprTokens Legible :=
  (sound.expr true marks).bind fun _ legible => yields_pure legible.tokens

theorem yields_returnType (plus : Bool) : Yields .firm .firm marks (g.returnType plus) Legible := by
  refine yields_ifPeek ?_ (yields_pure Token.legible_nil)
  refine (yields_op "->" rfl).seq (Yields.seq ?_ yields_seq_nil)
  exact (sound.type plus true marks).bind fun ty legible =>
    yields_pure (Ty.IsLegible.tokens ty legible)

theorem yields_blockTokens : Yields before .firm marks g.blockTokens Legible :=
  yields_group (sound.statements [])

theorem yields_attributedBlock : Yields before .firm marks g.attributedBlock Legible :=
  yields_group ((yields_innerTokens sound).seq ((sound.statements []).seq yields_seq_nil))

theorem yields_constArgument : Yields .firm .firm marks g.constArgument Legible := by
  refine yields_ifPeek yields_literalTokens ?_
  refine yields_ifPeek yields_name ?_
  refine yields_ifPeek (yields_attributedBlock sound) ?_
  exact yields_failExpecting _

theorem yields_binder : Yields before .firm marks g.binder Legible := by
  refine (yields_word "for").seq <| (yields_op "<" rfl).seq <| yields_seq ?_ <|
    (yields_op ">" rfl).seq yields_seq_nil
  refine yields_repeating Token.legible_nil fun read legible => ?_
  refine yields_ifPeek (yields_pure legible) ?_
  refine (sound.boundParameter marks).bind fun more also => ?_
  have longer := legible.append also
  refine yields_ifPeek (yields_pure longer) ?_
  exact (yields_op "," rfl).bind fun _ comma => yields_pure (longer.append comma)

theorem yields_optionalBinder : Yields before before marks g.optionalBinder Legible := by
  refine yields_ifPeek ?_ (yields_pure Token.legible_nil)
  exact (yields_binder sound).weaken

theorem yields_parenthesizedArguments :
    Yields .firm .firm marks g.parenthesizedArguments Legible :=
  (yields_group (yields_terminatedTokens (yields_typeTokens sound))).seq
    ((yields_returnType sound false).seq yields_seq_nil)

theorem yields_angledList :
    Yields .firm .firm marks g.angledList GenericArgument.AreLegible := by
  refine (yields_op "<" rfl).bind fun _ _ => ?_
  refine yields_bind (fun arguments => ∀ a ∈ arguments, a.IsLegible) ?_ fun arguments legible =>
    (yields_op ">" rfl).bind fun _ _ => yields_pure ((GenericArgument.areLegible_iff _).mpr legible)
  refine yields_repeating (List.forall_mem_nil _) fun read legible => ?_
  refine yields_ifPeek (yields_pure legible) ?_
  refine (sound.argument marks).bind fun next also => ?_
  have add (last : GenericArgument) (is : last.IsLegible) : ∀ a ∈ read ++ [last], a.IsLegible :=
    List.forall_mem_append.mpr ⟨legible, List.forall_mem_singleton.mpr is⟩
  refine yields_ifPeek (yields_pure (add next also)) ?_
  exact (yields_op "," rfl).bind fun _ _ => yields_pure (add _ (next.isLegible_withComma also))

theorem yields_angledArguments :
    Yields .firm .firm marks g.angledArguments PathArguments.IsLegible := by
  refine (yields_optionalOp "::" rfl).bind fun _ _ => ?_
  refine (yields_angledList sound).bind fun arguments legible => yields_pure ?_
  rw [PathArguments.IsLegible]
  exact legible

theorem yields_segment (inExpr : Bool) :
    Yields before .firm marks (g.segment inExpr) PathSegment.IsLegible := by
  have whole (name : String) (usable : Name.isUsable name = true) (arguments : PathArguments)
      (legible : arguments.IsLegible) : (PathSegment.mk name arguments).IsLegible := by
    rw [PathSegment.IsLegible]
    exact ⟨usable, legible⟩
  have bare : PathArguments.none.IsLegible := by
    rw [PathArguments.IsLegible]
    trivial
  unfold segment
  refine (asks_peekAny _).bind fun _ => yields_ite (fun _ => ?_) fun _ => ?_
  · exact yields_anyIdent.bind fun name usable => yields_pure (whole name usable _ bare)
  refine (asks_peek _).bind fun _ => ?_
  extract_lets onward
  have named (name : String) (usable : Name.isUsable name = true) :
      Yields .firm .firm marks (onward name) PathSegment.IsLegible := by
    refine (asks_peek _).bind fun _ => (asks_peek _).bind fun _ => (asks_peek3 _).bind fun _ => ?_
    refine yields_ite (fun _ => ?_) fun _ => yields_pure (whole name usable _ bare)
    exact (yields_angledArguments sound).bind fun arguments legible =>
      yields_pure (whole name usable arguments legible)
  exact yields_ite (fun _ => yields_anyIdent.bind named) fun _ => yields_ident.bind named

theorem yields_segmentsAfter (inExpr : Bool) :
    Yields .firm .firm marks (g.segmentsAfter inExpr) PathSegment.AreLegible := by
  refine yields_repeating trivial fun read legible => ?_
  refine (asks_peek _).bind fun _ => (asks_peek3 _).bind fun _ => ?_
  refine yields_ite (fun _ => ?_) fun _ => yields_pure legible
  refine (yields_op "::" rfl).bind fun _ _ => ?_
  exact (yields_segment sound inExpr).bind fun s also => yields_pure (legible.concat also)

theorem yields_path (inExpr : Bool) :
    Yields before .firm marks (g.path inExpr) Path.IsLegible := by
  refine (yields_optionalOp "::" rfl).bind fun lead colons => ?_
  refine (yields_segment sound inExpr).bind fun first is => ?_
  refine (yields_segmentsAfter sound inExpr).bind fun rest also => yields_pure ⟨colons, ?_⟩
  rw [PathSegment.AreLegible]
  exact ⟨is, also⟩

theorem yields_qualifiedPath (inExpr : Bool) :
    Yields before .firm marks (g.qualifiedPath inExpr) Path.IsLegible := by
  unfold qualifiedPath
  refine yields_ifPeek ?_ (yields_path sound inExpr)
  refine yields_bind Legible
    ((yields_op "<" rfl).seq <| (yields_typeTokens sound).seq yields_seq_nil)
    fun subject subjectLegible => (asks_peek _).bind fun _ => ?_
  extract_lets onward
  have behind (trait : Tokens) (legible : Legible trait) :
      Yields .firm .firm marks (onward trait) Path.IsLegible := by
    refine yields_bind Legible ((yields_op ">" rfl).seq <| (yields_op "::" rfl).seq yields_seq_nil)
      fun close closeLegible => ?_
    refine (yields_segment sound inExpr).bind fun first is => ?_
    refine yields_bind PathSegment.AreLegible ?_ fun rest also => yields_pure ⟨?_, ?_⟩
    · refine yields_repeating trivial fun read legible => ?_
      refine yields_ifPeek ?_ (yields_pure legible)
      refine (yields_op "::" rfl).bind fun _ _ => ?_
      exact (yields_segment sound inExpr).bind fun s also => yields_pure (legible.concat also)
    · exact (subjectLegible.append legible).append closeLegible
    · rw [PathSegment.AreLegible]
      exact ⟨is, also⟩
  refine yields_ite (fun _ => ?_) fun _ => yields_pure_bind (behind [] Token.legible_nil)
  refine yields_bind Legible ((yields_word "as").seq <| yields_seq ?_ yields_seq_nil) behind
  exact (yields_path sound false).bind fun path legible => yields_pure legible.tokens

theorem yields_traitBound (const : Bool) :
    Yields .firm .firm marks (g.traitBound const) fun found => ∀ tokens ∈ found, Legible tokens := by
  unfold traitBound
  refine (yields_optionalBinder sound).bind fun binder binderLegible => ?_
  refine (asks_peek _).bind fun conditional => (asks_peek _).bind fun unconditional => ?_
  extract_lets checked
  have rest : Yields .firm .firm marks (checked ()) fun found =>
      ∀ tokens ∈ found, Legible tokens := by
    refine (yields_optionalOp "?" rfl).bind fun modifier modifierLegible => ?_
    extract_lets bound
    have bounded (binder : Tokens) (binderLegible : Legible binder) :
        Yields .firm .firm marks (bound binder) fun found =>
          ∀ tokens ∈ found, Legible tokens := by
      refine (yields_path sound false).bind fun path pathLegible => ?_
      refine (asks_peek _).bind fun _ => (asks_peek _).bind fun _ => (asks_peek3 _).bind fun _ => ?_
      extract_lets called finish
      have finished (path : Path) (legible : path.IsLegible) :
          Yields .firm .firm marks (finish path) fun found =>
            ∀ tokens ∈ found, Legible tokens := by
        refine yields_ite (fun _ => yields_failAt_bind _ _) fun _ => ?_
        refine yields_ite (fun _ => yields_pure nofun) fun _ => yields_some ?_
        exact (binderLegible.append modifierLegible).append legible.tokens
      refine yields_ite (fun _ => ?_) fun _ => yields_pure_bind (finished path pathLegible)
      refine (yields_optionalOp "::" rfl).bind fun _ _ => ?_
      refine (yields_parenthesizedArguments sound).bind fun tokens legible => yields_pure_bind ?_
      refine finished _ (pathLegible.withLastArguments _ ?_)
      rw [PathArguments.IsLegible]
      exact legible
    refine yields_ite (fun _ => ?_) fun _ => yields_pure_bind (bounded binder binderLegible)
    exact (yields_optionalBinder sound).bind bounded
  refine yields_ite (fun _ => ?_) fun _ => yields_ite (fun _ => ?_) fun _ => rest
  · exact (yields_inside (yields_word "const")).bind fun _ _ =>
      yields_ite (fun _ => yields_failAt_bind _ _) fun _ => rest
  · exact (yields_word "const").bind fun _ _ =>
      yields_ite (fun _ => yields_failAt_bind _ _) fun _ => rest

theorem yields_bound (capture const : Bool) :
    Yields .firm .firm marks (g.bound capture const) fun read => Legible read.2 := by
  unfold bound
  refine yields_ifPeek ?_ ?_
  · exact yields_lifetime.bind fun _ legible => yields_pure legible
  refine yields_ifPeek ?_ ?_
  · refine yields_preciseCapture.bind fun _ legible => ?_
    exact yields_ite (fun _ => yields_pure legible) fun _ => yields_failAt _
  refine yields_mark fun s => (asks_peek _).bind fun _ => ?_
  extract_lets onward
  have known (read : Bool × Option Tokens) (legible : ∀ tokens ∈ read.2, Legible tokens) :
      Yields .firm .firm (s.rest :: marks) (onward read) fun read => Legible read.2 := by
    obtain ⟨enclosed, found⟩ := read
    cases found with
    | some tokens =>
      have is := legible tokens rfl
      exact yields_pure (legible_ifElse (is.group .paren) is)
    | none =>
      exact (yields_writtenSince List.mem_cons_self).bind fun _ legible => yields_pure legible
  refine yields_ite (fun _ => ?_) fun _ => ?_
  · exact (yields_inside (yields_traitBound sound const)).bind fun found legible =>
      yields_pure_bind (known (true, found) legible)
  · exact (yields_traitBound sound const).bind fun found legible =>
      yields_pure_bind (known (false, found) legible)

theorem yields_boundTokens (const : Bool) :
    Yields .firm .firm marks (g.boundTokens const) Legible :=
  (yields_bound sound false const).bind fun _ legible => yields_pure legible

theorem yields_boundsUntil (const : Bool) (stop : Peek) :
    Yields .firm .firm marks (g.boundsUntil const stop) Legible := by
  refine yields_repeating Token.legible_nil fun read legible => ?_
  refine yields_ifPeek (yields_pure legible) ?_
  refine (yields_boundTokens sound const).bind fun more also => (asks_peek _).bind fun _ => ?_
  have longer := legible.append also
  refine yields_ite (fun _ => ?_) fun _ => yields_pure longer
  exact (yields_op "+" rfl).bind fun _ sign => yields_pure (longer.append sign)

theorem yields_boundsUpTo (const : Bool) (stop : Peek) :
    Yields .firm .firm marks (g.boundsUpTo const stop) Legible := by
  refine yields_repeating Token.legible_nil fun read legible => ?_
  refine yields_ifPeek (yields_pure legible) ?_
  refine (yields_boundTokens sound const).bind fun more also => (asks_peek _).bind fun _ => ?_
  have longer := legible.append also
  refine yields_ite (fun _ => yields_pure longer) fun _ => ?_
  exact (yields_op "+" rfl).bind fun _ sign => yields_pure (longer.append sign)

theorem yields_boundsAfter : Yields .firm .firm marks g.boundsAfter Legible :=
  yields_whilePeek ((yields_op "+" rfl).seq ((yields_boundTokens sound false).seq yields_seq_nil))

theorem yields_boundsOfTrait (plus isOpaque : Bool) (reason : String) :
    Yields .firm .firm marks (g.boundsOfTrait plus isOpaque reason) Legible := by
  unfold boundsOfTrait
  refine yields_bind (fun read => Legible read.1) ?_ fun read legible => ?_
  · refine yields_repeating Token.legible_nil fun read legible => ?_
    refine (yields_bound sound isOpaque isOpaque).bind fun found also => ?_
    obtain ⟨kind, tokens⟩ := found
    have longer := legible.append also
    refine yields_ifPeek ?_ (yields_pure longer)
    refine (yields_op "+" rfl).bind fun sign plain => (asks_peek _).bind fun _ => ?_
    exact yields_pure (longer.append plain)
  · exact yields_ite (fun _ => yields_pure legible) fun _ => yields_failAt _

theorem yields_readArgument :
    Yields .firm .firm marks g.readArgument GenericArgument.IsLegible := by
  unfold readArgument
  refine (asks_peek _).bind fun _ => (asks_peek2 _).bind fun _ => ?_
  refine yields_ite (fun _ => ?_) fun _ => yields_ifPeek ?_ ?_
  · exact yields_lifetime.bind fun tokens legible =>
      yields_pure (GenericArgument.isLegible_lifetime legible false)
  · exact (yields_constArgument sound).bind fun tokens legible =>
      yields_pure (GenericArgument.isLegible_other legible false)
  refine (sound.type true true marks).bind fun ty legible => ?_
  have plain := GenericArgument.isLegible_type legible false
  split
  · next named isName =>
    have nameLegible := legible_argumentName ty legible named isName
    refine yields_ifPeek ?_ (yields_ifPeek ?_ (yields_pure plain))
    · refine (yields_op "=" rfl).bind fun sign signLegible => (asks_peek _).bind fun _ => ?_
      refine yields_either Legible (yields_constArgument sound) (yields_typeTokens sound)
        fun value also => yields_pure (GenericArgument.isLegible_other ?_ false)
      exact (nameLegible.append signLegible).append also
    · refine (yields_op ":" rfl).bind fun sign signLegible => ?_
      refine (yields_boundsUntil sound true _).bind fun bounds also => yields_pure ?_
      exact GenericArgument.isLegible_other ((nameLegible.append signLegible).append also) false
  · exact yields_pure plain

end Grammar

end Paths

end ClassExpansion
