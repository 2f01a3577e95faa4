import ClassExpansion.Proofs.GluedTokens
import ClassExpansion.Proofs.LexedTokens
import ClassExpansion.Proofs.ReadTypes
import Mathlib.Data.List.Chain

set_option autoImplicit false

/- What the text of a type tells of its tokens. Spacing and invisible groups apart, it tells them
all, but for the blanks that are left out of literals. -/
namespace ClassExpansion

namespace TypeText

/-- Neither of the two is a blank that the other one leaves out. -/
def StandsBy (a b : Char) : Prop :=
  ¬ (a ∈ gluesRight ∧ b = ' ') ∧ ¬ (a = ' ' ∧ b ∈ gluesLeft)

instance (a b : Char) : Decidable (StandsBy a b) :=
  inferInstanceAs (Decidable (¬ (a ∈ gluesRight ∧ b = ' ') ∧ ¬ (a = ' ' ∧ b ∈ gluesLeft)))

/-- No blank of the text is left out, wherever the text stands. -/
def KeepsBlanks (text : String) : Prop := text.toList.IsChain StandsBy

instance (text : String) : Decidable (KeepsBlanks text) :=
  inferInstanceAs (Decidable (text.toList.IsChain StandsBy))

theorem isLeftOut_eq_false_iff (before : Option Char) (c : Char) (next : Option Char) :
    isLeftOut before c next = false ↔
      (∀ a ∈ before, ¬ (a ∈ gluesRight ∧ c = ' ')) ∧ ∀ b ∈ next, ¬ (c = ' ' ∧ b ∈ gluesLeft) := by
  cases before <;> cases next <;> by_cases blank : c = ' ' <;> simp [isLeftOut, blank]

theorem length_glue_le (before : Option Char) (text : List Char) :
    (glue before text).length ≤ text.length := by
  induction text generalizing before with
  | nil => exact Nat.le_refl 0
  | cons c rest ih =>
    have shorter := ih (some c)
    rw [glue_cons, List.length_append, List.length_cons]
    split
    · rw [List.length_nil]
      omega
    · rw [List.length_singleton]
      omega

theorem glue_eq_self_iff (before : Option Char) (text : List Char) :
    glue before text = text ↔
      (∀ a ∈ before, ∀ c ∈ text.head?, ¬ (a ∈ gluesRight ∧ c = ' ')) ∧ text.IsChain StandsBy := by
  induction text generalizing before with
  | nil => simp [glue]
  | cons c rest ih =>
    rw [glue_cons]
    by_cases dropped : isLeftOut before c rest.head? = true
    · rw [if_pos dropped, List.nil_append]
      constructor
      · intro same
        have shorter := length_glue_le (some c) rest
        rw [same, List.length_cons] at shorter
        omega
      · rintro ⟨first, chain⟩
        have kept : isLeftOut before c rest.head? = false :=
          (isLeftOut_eq_false_iff _ _ _).mpr ⟨fun a is => first a is c rfl,
            fun b is => ((List.isChain_cons.mp chain).1 b is).2⟩
        rw [kept] at dropped
        cases dropped
    · have kept := (isLeftOut_eq_false_iff _ _ _).mp (Bool.eq_false_iff.mpr dropped)
      rw [if_neg dropped, List.singleton_append, List.cons.injEq, ih, List.isChain_cons]
      constructor
      · rintro ⟨-, first, chain⟩
        refine ⟨fun a is d same => ?_, fun b is => ⟨first c rfl b is, kept.2 b is⟩, chain⟩
        cases same
        exact kept.1 a is
      · rintro ⟨-, next, chain⟩
        refine ⟨rfl, fun a is b same => ?_, chain⟩
        cases is
        exact (next b same).1

theorem glue_none_eq_self_iff (text : String) :
    String.ofList (glue none text.toList) = text ↔ KeepsBlanks text := by
  rw [← String.toList_inj, String.toList_ofList, glue_eq_self_iff]
  exact ⟨And.right, fun keeps => ⟨nofun, keeps⟩⟩

end TypeText

namespace Token

mutual

/-- The texts of the literals in the token. -/
def literals : Token → List String
  | ident _ => []
  | punct _ _ => []
  | literal text => [text]
  | group _ body => literalsAll body

def literalsAll : List Token → List String
  | [] => []
  | t :: rest => t.literals ++ literalsAll rest

end

theorem thinAll_append (a b : Tokens) : thinAll (a ++ b) = thinAll a ++ thinAll b := by
  induction a with
  | nil => rfl
  | cons t rest ih => rw [List.cons_append, thinAll, thinAll, ih, List.cons_append]

theorem literalsAll_append (a b : Tokens) :
    literalsAll (a ++ b) = literalsAll a ++ literalsAll b := by
  induction a with
  | nil => rfl
  | cons t rest ih => rw [List.cons_append, literalsAll, literalsAll, ih, List.append_assoc]

mutual

theorem thinAll_plain : (t : Token) → thinAll t.plain = t.thin.plain
  | ident _ => rfl
  | punct _ _ => rfl
  | literal _ => rfl
  | group .invisible body => by
    rw [plain, thin, plain]
    exact thinAll_plainAll body
  | group .paren body => by simp only [plain, thin, thinAll, thinAll_plainAll body]
  | group .brace body => by simp only [plain, thin, thinAll, thinAll_plainAll body]
  | group .bracket body => by simp only [plain, thin, thinAll, thinAll_plainAll body]

/-- It is the same whether blanks or spacing are taken away first. -/
theorem thinAll_plainAll : (tokens : List Token) →
    thinAll (plainAll tokens) = plainAll (thinAll tokens)
  | [] => rfl
  | t :: rest => by
    rw [plainAll, thinAll_append, thinAll_plain t, thinAll_plainAll rest, thinAll, plainAll]

end

mutual

theorem literalsAll_plain : (t : Token) → literalsAll t.plain = t.literals
  | ident _ => rfl
  | punct _ _ => rfl
  | literal _ => rfl
  | group .invisible body => by
    rw [plain, literals]
    exact literalsAll_plainAll body
  | group .paren body => by
    simp only [plain, literals, literalsAll, literalsAll_plainAll body, List.append_nil]
  | group .brace body => by
    simp only [plain, literals, literalsAll, literalsAll_plainAll body, List.append_nil]
  | group .bracket body => by
    simp only [plain, literals, literalsAll, literalsAll_plainAll body, List.append_nil]

theorem literalsAll_plainAll : (tokens : List Token) →
    literalsAll (plainAll tokens) = literalsAll tokens
  | [] => rfl
  | t :: rest => by
    rw [plainAll, literalsAll_append, literalsAll_plain t, literalsAll_plainAll rest, literalsAll]

end

mutual

theorem thin_eq_self_iff : (t : Token) →
    (t.thin = t ↔ ∀ text ∈ t.literals, TypeText.KeepsBlanks text)
  | ident _ => by simp [thin, literals]
  | punct _ _ => by simp [thin, literals]
  | literal text => by
    rw [thin, literal.injEq, TypeText.glue_none_eq_self_iff, literals, List.forall_mem_singleton]
  | group delimiter body => by
    rw [thin, group.injEq, eq_self_iff_true, true_and, literals]
    exact thinAll_eq_self_iff body

theorem thinAll_eq_self_iff : (tokens : List Token) →
    (thinAll tokens = tokens ↔ ∀ text ∈ literalsAll tokens, TypeText.KeepsBlanks text)
  | [] => by simp [thinAll, literalsAll]
  | t :: rest => by
    rw [thinAll, List.cons.injEq, thin_eq_self_iff t, thinAll_eq_self_iff rest, literalsAll,
      List.forall_mem_append]

end

/-- The tokens are what is left of them just where no literal loses a blank. -/
theorem plainAll_thinAll_eq_iff (tokens : Tokens) :
    plainAll (thinAll tokens) = plainAll tokens ↔
      ∀ text ∈ literalsAll tokens, TypeText.KeepsBlanks text := by
  rw [← thinAll_plainAll, thinAll_eq_self_iff, literalsAll_plainAll]

end Token

/-- The tokens are the same but for spacing, invisible groups and what blanks leave of literals, and
where no literal loses a blank, also in their literals. -/
structure Token.Agree (a b : Tokens) : Prop where
  thinned : thinAll (plainAll a) = thinAll (plainAll b)
  kept : (∀ text ∈ literalsAll a ++ literalsAll b, TypeText.KeepsBlanks text) →
    plainAll a = plainAll b

namespace Ty

open Token

theorem agree_of_text (a b : Tokens) (legible : Legible a) (alsoLegible : Legible b)
    (same : TypeText.ofTokens a = TypeText.ofTokens b) : Agree a b := by
  obtain ⟨back, read, is⟩ := tokens?_ofTokens a legible
  obtain ⟨other, alsoRead, alsoIs⟩ := tokens?_ofTokens b alsoLegible
  rw [same, alsoRead] at read
  cases read
  have thinned : plainAll (thinAll a) = plainAll (thinAll b) := is.symm.trans alsoIs
  constructor
  case thinned => rw [thinAll_plainAll, thinAll_plainAll, thinned]
  case kept =>
    intro keep
    obtain ⟨keeps, alsoKeeps⟩ := List.forall_mem_append.mp keep
    rw [(plainAll_thinAll_eq_iff a).mpr keeps, (plainAll_thinAll_eq_iff b).mpr alsoKeeps] at thinned
    exact thinned

/-- The text of a type is read as the tokens of the type, with some blanks left out of its
literals, and as its very tokens just where no literal loses a blank. Types of one text agree, also
where the text stands in a directory or, after a name, among the parameters of a signature. -/
theorem tokens_told_by_text (ty : Ty) (isRead : ty.IsRead) :
    (∃ back, Lexer.tokens? (TypeText.ofTokens ty.tokens) = some back ∧
      plainAll back = thinAll (plainAll ty.tokens) ∧
      (plainAll back = plainAll ty.tokens ↔
        ∀ text ∈ literalsAll ty.tokens, TypeText.KeepsBlanks text)) ∧
    (∀ other : Ty, other.IsRead →
      TypeText.ofTokens ty.tokens = TypeText.ofTokens other.tokens →
        Agree ty.tokens other.tokens) ∧
    ∀ field : Field, field.IsCollected →
      (field.info.typeText = TypeText.ofTokens ty.tokens → Agree field.ty.tokens ty.tokens) ∧
      (field.parameterText = field.name ++ ": " ++ TypeText.ofTokens ty.tokens →
        Agree field.valueTy.tokens ty.tokens) := by
  have legible := isRead.legible
  refine ⟨?_, ?_, ?_⟩
  · obtain ⟨back, read, is⟩ := tokens?_ofTokens ty.tokens legible
    refine ⟨back, read, is.trans (thinAll_plainAll _).symm, ?_⟩
    rw [is]
    exact plainAll_thinAll_eq_iff _
  · intro other alsoRead
    exact agree_of_text _ _ legible alsoRead.legible
  · intro field collected
    obtain ⟨declared, value⟩ := collected.isRead
    refine ⟨agree_of_text _ _ declared.legible legible, fun same => ?_⟩
    have text : TypeText.ofTokens field.valueTy.tokens = TypeText.ofTokens ty.tokens :=
      (String.append_right_inj _).mp same
    exact agree_of_text _ _ value.legible legible text

/-- An array as long as the byte string that the literal writes. -/
def arrayOfLength (text : String) : Tokens :=
  [.bracket [.ident "u8", .punct ';' false, .literal text, .punct '.' false, .ident "len",
    .paren []]]

theorem legible_arrayOfLength (text : String) (known : Lexer.IsLiteral text) :
    Legible (arrayOfLength text) := by
  have names : Name.isUsable "u8" = true ∧ Name.isUsable "len" = true := by decide
  have signs : ';' ∈ Lexer.punctuation ∧ '.' ∈ Lexer.punctuation := by decide
  simp [arrayOfLength, bracket, Token.paren, Legible, LegibleBefore, Token.IsLegible, FitsBefore,
    known, names, signs]

/-- A struct with such an array as its field. -/
def bufferTokens (text : String) : Tokens :=
  [.ident "struct", .ident "Buffer", .brace (.ident "bytes" :: .punct ':' false ::
    arrayOfLength text)]

theorem legible_bufferTokens (text : String) (known : Lexer.IsLiteral text) :
    Legible (bufferTokens text) := by
  have names : Name.isUsable "struct" = true ∧ Name.isUsable "Buffer" = true ∧
    Name.isUsable "bytes" = true := by decide
  have signs : ':' ∈ Lexer.punctuation := by decide
  have array := legible_arrayOfLength text known
  simp only [Legible] at array
  simp [bufferTokens, Token.brace, Legible, LegibleBefore, Token.IsLegible, FitsBefore, names,
    signs, array]

def bufferStruct (text : String) : StructItem :=
  ⟨[], [], "Buffer", false, .named [⟨[], [], "bytes", .other (arrayOfLength text)⟩],
    bufferTokens text⟩

def bufferClass (text : String) : ClassDecl :=
  ⟨"Buffer", [], [], [⟨"bytes", .other (arrayOfLength text), [], [], none⟩], none, none, .usual,
    false, ⟨false, false⟩⟩

set_option maxRecDepth 4000 in
/-- The directory leaves the blank out of the literal. -/
theorem exists_isCollected_buffer :
    ∃ field : Field, field.IsCollected ∧ field.info.typeText = "[u8 ; b\"a:b\" . len ()]" := by
  have legible := legible_bufferTokens "b\"a: b\"" (.inr ⟨[], rfl⟩)
  obtain ⟨fields, collected, shown⟩ := Attempt.exists_of_map_value?
    (fun fields => fields.map fun field => field.info.typeText)
    (FieldList.collect [bufferClass "b\"a: b\""] (bufferClass "b\"a: b\""))
    ["[u8 ; b\"a:b\" . len ()]"] (by decide +kernel)
  obtain ⟨field, rfl, text⟩ := List.map_eq_singleton_iff.mp shown
  refine ⟨field, ?_, text⟩
  exact .ofStruct _ [] _ _ _ legible (rfl : readItemOf _ = .ok (.struct (bufferStruct "b\"a: b\"")))
    rfl collected List.mem_cons_self

theorem tokens_told_by_text_length :
    (other (arrayOfLength "b\"a:b\"")).IsRead ∧
      (∃ back, Lexer.tokens? (TypeText.ofTokens (arrayOfLength "b\"a:b\"")) = some back ∧
        plainAll back = plainAll (arrayOfLength "b\"a:b\"")) ∧
      ∃ field : Field, field.IsCollected ∧ Agree field.ty.tokens (arrayOfLength "b\"a:b\"") := by
  have legible := legible_arrayOfLength "b\"a:b\"" (.inr ⟨[], rfl⟩)
  have isRead := isRead_of_readTypeOf _ legible (.other (arrayOfLength "b\"a:b\"")) rfl
  obtain ⟨⟨back, read, _, keeps⟩, _, told⟩ := tokens_told_by_text _ isRead
  refine ⟨isRead, ⟨back, read, keeps.mpr (by decide)⟩, ?_⟩
  obtain ⟨field, collected, text⟩ := exists_isCollected_buffer
  exact ⟨field, collected, (told field collected).1 (text.trans (by decide +kernel))⟩

/-- A blank that is left out of a literal is not in the text any more, so that arrays of different
lengths have one text. -/
theorem text_hides_blank :
    ∃ long short, readTypeOf (arrayOfLength "b\"a: b\"") = .ok long ∧
      readTypeOf (arrayOfLength "b\"a:b\"") = .ok short ∧
      TypeText.ofTokens long.tokens = TypeText.ofTokens short.tokens ∧
      plainAll long.tokens ≠ plainAll short.tokens ∧
      ∃ back, Lexer.tokens? (TypeText.ofTokens long.tokens) = some back ∧
        plainAll back ≠ plainAll long.tokens := by
  refine ⟨.other (arrayOfLength "b\"a: b\""), .other (arrayOfLength "b\"a:b\""), rfl, rfl, rfl,
    by simp [tokens, arrayOfLength, bracket, plain, plainAll], ?_⟩
  have legible := legible_arrayOfLength "b\"a: b\"" (.inr ⟨[], rfl⟩)
  obtain ⟨back, read, is⟩ := tokens?_ofTokens _ legible
  refine ⟨back, read, fun same => ?_⟩
  have keeps := (plainAll_thinAll_eq_iff _).mp (is.symm.trans same)
  exact absurd (keeps "b\"a: b\"" List.mem_cons_self) (by decide)

end Ty

end ClassExpansion
