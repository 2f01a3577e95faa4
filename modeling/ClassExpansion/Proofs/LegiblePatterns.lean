import ClassExpansion.Proofs.LegibleTypes
import ClassExpansion.Proofs.LexedTokens

set_option autoImplicit false

/- Members and patterns that are read of legible tokens are legible. -/
namespace ClassExpansion

open ClassExpansion.Parser
open Token (Legible)

namespace Lexer

variable {digits : List Char}

theorem fractionEnd_digits (all : ∀ c ∈ digits, c.isDigit = true) :
    fractionEnd false digits = none := by
  induction digits with
  | nil => rfl
  | cons c rest ih =>
    rw [List.forall_mem_cons] at all
    rw [fractionEnd, all.1, Bool.true_or, if_pos rfl]
    exact ih all.2

theorem digitsEnd_digits (empty : Bool) (filled : digits ≠ [] ∨ empty = false)
    (all : ∀ c ∈ digits, c.isDigit = true) : digitsEnd 10 empty digits = some [] := by
  induction digits generalizing empty with
  | nil =>
    rw [filled.resolve_left (absurd rfl)]
    rfl
  | cons c rest ih =>
    rw [List.forall_mem_cons] at all
    have member := mem_of_isDigit c all.1
    have step : digitsEnd 10 empty (c :: rest) = digitsEnd 10 false rest := by
      simp only [String.reduceToList, List.mem_cons, List.not_mem_nil, or_false] at member
      rcases member with rfl | rfl | rfl | rfl | rfl | rfl | rfl | rfl | rfl | rfl <;> rfl
    rw [step]
    exact ih false (Or.inr rfl) all.2

theorem radix_digits (all : ∀ c ∈ digits, c.isDigit = true) : radix digits = (10, digits) := by
  have unmarked (mark : String) (letter : mark.toList.all Char.isDigit = false) :
      ¬ startsWith mark digits = true := by
    intro begins
    obtain ⟨rest, rfl⟩ := (startsWith_iff mark digits).mp begins
    have digit : mark.toList.all Char.isDigit = true :=
      List.all_eq_true.mpr fun c member => all c (List.mem_append_left _ member)
    exact absurd (digit.symm.trans letter) (by decide)
  unfold radix
  rw [if_neg (unmarked "0x" (by decide)), if_neg (unmarked "0o" (by decide)),
    if_neg (unmarked "0b" (by decide))]

/-- Digits are a literal. -/
theorem isLiteral_toString (n : Nat) : IsLiteral (toString n) := by
  have all : ∀ c ∈ Nat.toDigits 10 n, c.isDigit = true := fun c member =>
    Nat.isDigit_of_mem_toDigits (by decide) (by decide) member
  have filled : Nat.toDigits 10 n ≠ [] := Nat.toDigits_ne_nil
  have whole : integerScan (Nat.toDigits 10 n) = some [] := by
    unfold integerScan
    rw [radix_digits all, digitsEnd_digits true (Or.inl filled) all]
    rfl
  refine Or.inr ⟨[], ?_⟩
  rw [List.append_nil, Nat.toString_eq_repr, Nat.toList_repr]
  obtain ⟨first, rest, is⟩ := List.exists_cons_of_ne_nil filled
  rw [is, List.forall_mem_cons] at all
  rw [is] at whole ⊢
  rw [literalScan_digit first rest all.1, whole, floatScan, if_pos all.1,
    fractionEnd_digits all.2]
  rfl

end Lexer

variable {g : Grammar} {before : Footing} {marks : List Tokens}

theorem yields_memberNumber (found : Literal) :
    Yields before before marks (memberNumber found) Legible := by
  unfold memberNumber
  split
  · next value suffix _ =>
    refine yields_ite (fun _ => yields_failAt _) fun _ => ?_
    refine yields_ite (fun _ => yields_failAt _) fun _ => ?_
    refine yields_ite (fun _ => yields_failAt _) fun _ => yields_pure ?_
    exact Token.legible_literal _ (Lexer.isLiteral_toString value)
  · exact yields_failAt _

theorem yields_member : Yields before .firm marks member fun named => Legible named.tokens := by
  refine yields_ifPeek (yields_name.bind fun _ legible => yields_pure legible) ?_
  refine yields_ifPeek (yields_literal.bind fun found _ => ?_) (yields_failHere _)
  exact (yields_memberNumber found).bind fun _ legible => yields_pure legible

theorem yields_rangeLimits :
    Yields before .firm marks rangeLimits fun read => Legible read.2 := by
  refine yields_ifPeek ((yields_op "..=" rfl).bind fun _ legible => yields_pure legible) ?_
  refine (asks_peek _).bind fun _ => (asks_peek _).bind fun _ => yields_ite (fun _ => ?_) fun _ => ?_
  · exact (yields_op ".." rfl).bind fun _ legible => yields_pure legible
  · exact yields_failExpectingOf _

theorem yields_patternRangeLimits :
    Yields before .firm marks patternRangeLimits fun read => Legible read.2 := by
  refine yields_ifPeek ((yields_op "..." rfl).bind fun _ _ => yields_pure ?_) yields_rangeLimits
  exact Token.legible_op "..=" rfl

namespace Grammar

variable (sound : g.IsLegible)
include sound

theorem yields_constBlock : Yields before .firm marks g.constBlock Legible :=
  (yields_word "const").seq ((yields_attributedBlock sound).seq yields_seq_nil)

theorem yields_rangeBound :
    Yields .firm .firm marks g.rangeBound fun found => ∀ tokens ∈ found, Legible tokens := by
  refine yields_ifPeek (yields_pure nofun) <| yields_ifPeek ?_ <| yields_ifPeek ?_ <|
    yields_ifPeek ?_ (yields_failExpecting _)
  · exact yields_literalTokens.kept fun _ legible => legible
  · exact (yields_qualifiedPath sound true).kept fun path legible => legible.tokens
  · exact (yields_constBlock sound).kept fun _ legible => legible

theorem yields_rangePattern (start : Tokens) (legible : Legible start) :
    Yields before .firm marks (g.rangePattern start) fun p => Legible p.tokens := by
  refine yields_patternRangeLimits.bind fun limits also => ?_
  have begun := legible.append also
  refine (yields_rangeBound sound).bind fun bound last => ?_
  split
  · next tokens => exact yields_pure (begun.append (last tokens rfl))
  · exact yields_ite (fun _ => yields_failHere _) fun _ => yields_pure begun

theorem yields_openRangePattern :
    Yields before .firm marks g.openRangePattern fun p => Legible p.tokens := by
  refine yields_rangeLimits.bind fun limits legible => ?_
  refine (yields_rangeBound sound).bind fun bound last => ?_
  split
  · next tokens => exact yields_pure (legible.append (last tokens rfl))
  · exact yields_ite (fun _ => yields_failHere _) fun _ => yields_pure legible

theorem yields_literalPattern :
    Yields .firm .firm marks g.literalPattern fun p => Legible p.tokens := by
  refine (yields_rangeBound sound).bind fun bound legible => ?_
  have start := legible_getD bound legible
  exact yields_ifPeek (yields_rangePattern sound _ start) (yields_pure start)

theorem yields_patternsTokens : Yields .firm .firm marks g.patternsTokens Legible :=
  (sound.patterns marks).bind fun _ legible => yields_pure legible

theorem yields_patternTokens : Yields .firm .firm marks g.patternTokens Legible :=
  (sound.pattern marks).bind fun _ legible => yields_pure legible

theorem yields_fieldPattern : Yields .firm .firm marks g.fieldPattern Legible := by
  unfold fieldPattern
  refine yields_mark fun s => (yields_optionalWord "box").bind fun box _ => ?_
  refine yields_bind Legible ?_ fun mode legible => ?_
  · exact (yields_optionalWord "ref").seq ((yields_optionalWord "mut").seq yields_seq_nil)
  extract_lets bare onward
  have behind (named : Member) (also : Legible named.tokens) :
      Yields .firm .firm (s.rest :: marks) (onward named) Legible := by
    refine yields_ifPeek ?_ <| yields_ite (fun _ => ?_) fun _ => ?_
    · refine yields_bind Legible ?_ fun more last => yields_pure (also.append last)
      exact (yields_op ":" rfl).seq ((yields_patternsTokens sound).seq yields_seq_nil)
    · exact yields_pure (legible.append also)
    · exact yields_writtenSince List.mem_cons_self
  refine yields_ite (fun _ => yields_member.bind behind) fun _ => ?_
  exact yields_name.bind fun named also => yields_pure_bind (behind ⟨true, named⟩ also)

theorem yields_structPatternFields :
    Yields .firm .firm marks g.structPatternFields Legible := by
  refine yields_repeating Token.legible_nil fun read legible => ?_
  refine asks_atEnd.bind fun _ => yields_ite (fun _ => yields_pure legible) fun _ => ?_
  refine (yields_outerTokens sound).bind fun attrs attrsLegible => ?_
  have begun := legible.append attrsLegible
  refine yields_ifPeek ?_ ?_
  · exact (yields_op ".." rfl).bind fun dots also => yields_pure (begun.append also)
  refine (yields_fieldPattern sound).bind fun field also => ?_
  have longer := begun.append also
  refine asks_atEnd.bind fun _ => yields_ite (fun _ => yields_pure longer) fun _ => ?_
  exact (yields_op "," rfl).bind fun comma sign => yields_pure (longer.append sign)

theorem yields_pathPattern :
    Yields before .firm marks g.pathPattern fun p => Legible p.tokens := by
  refine (yields_qualifiedPath sound true).bind fun path legible => ?_
  have after (parser : Parser Tokens) (yields : Yields .firm .firm marks parser Legible) :
      Yields .firm .firm marks (return .plain (path.tokens ++ (← parser)) : Parser Pattern)
        fun p => Legible p.tokens :=
    yields.bind fun _ also => yields_pure (legible.tokens.append also)
  refine (asks_peek _).bind fun _ => (asks_peek _).bind fun _ => yields_ite (fun _ => ?_) fun _ => ?_
  · exact after _ ((yields_op "!" rfl).seq (yields_rawGroupTokens.seq yields_seq_nil))
  refine yields_ifPeek (after _ (yields_group (yields_structPatternFields sound))) ?_
  refine yields_ifPeek ?_ ?_
  · exact after _ (yields_group (yields_terminatedTokens (yields_patternsTokens sound)))
  exact yields_ifPeek (yields_rangePattern sound _ legible.tokens) (yields_pure legible.tokens)

theorem yields_namePattern : Yields .firm .firm marks g.namePattern Legible := by
  unfold namePattern
  refine yields_bind Legible ?_ fun mode legible => ?_
  · exact (yields_optionalWord "ref").seq ((yields_optionalWord "mut").seq yields_seq_nil)
  extract_lets onward
  have behind (named : Tokens) (also : Legible named) :
      Yields .firm .firm marks (onward named) Legible := by
    have begun := legible.append also
    refine yields_ifPeek (yields_bind Legible ?_ fun p last => ?_) (yields_pure begun)
    · exact (yields_op "@" rfl).seq ((yields_patternTokens sound).seq yields_seq_nil)
    · exact yields_pure (begun.append last)
  exact yields_ifPeek (yields_anyName.bind behind) (yields_name.bind behind)

theorem yields_slicePattern : Yields before .firm marks g.slicePattern Legible := by
  refine yields_group (yields_terminatedTokens ?_)
  refine (sound.patterns []).bind fun element legible => ?_
  exact yields_ite (fun _ => yields_failAt _) fun _ => yields_pure legible

theorem yields_readPattern :
    Yields .firm .firm marks g.readPattern fun p => Legible p.tokens := by
  have keep (parser : Parser Tokens) (yields : Yields .firm .firm marks parser Legible) :
      Yields .firm .firm marks (return .plain (← parser) : Parser Pattern)
        fun p => Legible p.tokens :=
    yields.bind fun _ legible => yields_pure legible
  refine (asks_peek _).bind fun _ => (asks_peek2 _).bind fun _ => ?_
  refine (asks_peek _).bind fun _ => (asks_peek2 _).bind fun _ => ?_
  refine (asks_peekAny _).bind fun _ => ?_
  refine yields_ite (fun _ => yields_pathPattern sound) fun _ => ?_
  refine yields_ifPeek (keep _ (yields_word "_")) <| yields_ifPeek ?_ ?_
  · refine yields_mark fun s => yields_bind Legible ?_ fun _ _ => ?_
    · exact (yields_word "box").seq ((yields_patternTokens sound).seq yields_seq_nil)
    · exact (yields_writtenSince List.mem_cons_self).bind fun _ legible => yields_pure legible
  refine (asks_peekAny _).bind fun _ => ?_
  refine yields_ite (fun _ => yields_literalPattern sound) fun _ => ?_
  refine (asks_peekAny _).bind fun _ => ?_
  refine yields_ite (fun _ => keep _ (yields_namePattern sound)) fun _ => ?_
  refine yields_ifPeek (keep _ ?_) <| yields_ifPeek (keep _ ?_) ?_
  · exact (yields_op "&" rfl).seq <| (yields_optionalWord "mut").seq <|
      (yields_patternTokens sound).seq yields_seq_nil
  · exact yields_group (yields_terminatedTokens (yields_patternsTokens sound))
  refine yields_ifPeek (keep _ (yields_slicePattern sound)) ?_
  refine (asks_peek _).bind fun _ => (asks_peek _).bind fun _ => ?_
  exact yields_ite (fun _ => yields_openRangePattern sound) fun _ => yields_failExpectingOf _

theorem yields_readPatterns :
    Yields .firm .firm marks g.readPatterns fun p => Legible p.tokens := by
  refine (yields_optionalOp "|" rfl).bind fun lead leadLegible => ?_
  refine (sound.pattern marks).bind fun first legible => ?_
  refine yields_ifPeek (yields_pure legible) (yields_bind Legible ?_ fun rest also => ?_)
  · exact yields_whilePeek <|
      (yields_op "|" rfl).seq ((yields_patternTokens sound).seq yields_seq_nil)
  · exact yields_pure ((leadLegible.append legible).append also)

end Grammar

end ClassExpansion
