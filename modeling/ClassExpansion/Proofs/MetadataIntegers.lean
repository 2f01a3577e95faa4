import ClassExpansion.Proofs.OptionOrder
import ClassExpansion.Proofs.UnsignedLiterals

set_option autoImplicit false

/- Whole numbers as metadata: which ones can be written, and what is made of them. -/
namespace ClassExpansion

open ClassExpansion.Parser

namespace Literal

theorem toNat_of_isDigit (c : Char) (digit : c.isDigit = true) :
    48 ≤ c.toNat ∧ c.toNat ≤ 57 := by
  simp only [Char.isDigit, Bool.and_eq_true, decide_eq_true_eq, ge_iff_le,
    UInt32.le_iff_toNat_le] at digit
  exact digit

theorem ne_of_isDigit (c other : Char) (digit : c.isDigit = true) (noDigit : ¬ other.isDigit) :
    c ≠ other := by
  rintro rfl
  exact noDigit digit

/-- Digits are added to the number that was read before them. -/
theorem integerDigits_append (digits rest : List Char) (value : Nat) (read : Bool)
    (all : ∀ c ∈ digits, c.isDigit = true) :
    integerDigits 10 value read (digits ++ rest) =
      integerDigits 10 (Nat.ofDigitChars 10 digits value) (read || !digits.isEmpty) rest := by
  induction digits generalizing value read with
  | nil => rw [List.nil_append, List.isEmpty_nil, Bool.not_true, Bool.or_false]; rfl
  | cons c digits ih =>
    have digit := all c List.mem_cons_self
    have noUnderscore := ne_of_isDigit c '_' digit (by decide)
    have noPoint := ne_of_isDigit c '.' digit (by decide)
    have noSmall := ne_of_isDigit c 'e' digit (by decide)
    have noLarge := ne_of_isDigit c 'E' digit (by decide)
    have below : ¬ 10 ≤ c.toNat - '0'.toNat := by
      have bounds := toNat_of_isDigit c digit
      change ¬ 10 ≤ c.toNat - 48
      omega
    rw [List.cons_append, integerDigits]
    simp only [noUnderscore, noPoint, noSmall, noLarge, Token.hexDigit?, digit, below, if_false,
      if_true, decide_false, Bool.false_and, Bool.or_self, Bool.not_true, Bool.false_eq_true]
    rw [ih _ _ fun d member => all d (List.mem_cons_of_mem c member), List.isEmpty_cons,
      Bool.true_or, Bool.not_false, Bool.or_true]
    rfl

/-- What may stand behind the digits of a number as it is written in code. -/
def wholeSuffixes : List String := ["", "i64"]

theorem integerDigits_suffix (value : Nat) (suffix : String) (known : suffix ∈ wholeSuffixes) :
    integerDigits 10 value true suffix.toList = some (value, suffix.toList) ∧
      isSuffix suffix.toList = true := by
  simp only [wholeSuffixes, List.mem_cons, List.not_mem_nil, or_false] at known
  rcases known with rfl | rfl
  · exact ⟨rfl, by decide⟩
  · exact ⟨rfl, by decide +kernel⟩

/-- Neither a digit nor a suffix begins with the letter of another base. -/
theorem head_of_digits (digits : List Char) (suffix : String) (known : suffix ∈ wholeSuffixes)
    (all : ∀ c ∈ digits, c.isDigit = true) (d : Char) (rest : List Char)
    (is : digits ++ suffix.toList = d :: rest) : d.isDigit = true ∨ d = 'i' := by
  cases digits with
  | cons c digits =>
    cases is
    exact .inl (all _ List.mem_cons_self)
  | nil =>
    simp only [wholeSuffixes, List.mem_cons, List.not_mem_nil, or_false] at known
    rcases known with rfl | rfl
    · cases is
    · cases is
      exact .inr rfl

theorem integer?_digits (digits : List Char) (suffix : String) (known : suffix ∈ wholeSuffixes)
    (filled : digits ≠ []) (all : ∀ c ∈ digits, c.isDigit = true) :
    integer? (digits ++ suffix.toList) = some (Nat.ofDigitChars 10 digits 0, suffix) := by
  obtain ⟨first, digits, rfl⟩ := List.exists_cons_of_ne_nil filled
  have digit := all first List.mem_cons_self
  have later : ∀ c ∈ digits, c.isDigit = true :=
    fun c member => all c (List.mem_cons_of_mem first member)
  have head := head_of_digits digits suffix known later
  have read := integerDigits_append (first :: digits) suffix.toList 0 false all
  obtain ⟨whole, good⟩ :=
    integerDigits_suffix (Nat.ofDigitChars 10 (first :: digits) 0) suffix known
  rw [List.isEmpty_cons, Bool.not_false, Bool.or_true, whole, List.cons_append] at read
  rw [List.cons_append]
  unfold integer?
  split
  · next rest is => exact absurd (head _ _ (List.cons.inj is).2) (by decide)
  · next rest is => exact absurd (head _ _ (List.cons.inj is).2) (by decide)
  · next rest is => exact absurd (head _ _ (List.cons.inj is).2) (by decide)
  · next c rest _ _ _ is =>
    cases is
    rw [if_pos digit, read]
    simp only [Option.bind_eq_bind, Option.bind_some, good, if_true, String.ofList_toList]
  · next is => cases is

theorem valueOf_of_isDigit (first : Char) (rest : List Char) (digit : first.isDigit = true) :
    valueOf (first :: rest) = (number? false (first :: rest)).getD .unreadable := by
  unfold valueOf
  split
  -- All other literals begin with a quote or a letter.
  case h_7 => rfl
  all_goals
    next is =>
      cases is
      exact absurd digit (by decide)

/-- The digits of a number are read as the number. -/
theorem value_ofText_digits (n : Nat) (suffix : String) (known : suffix ∈ wholeSuffixes) :
    (Literal.ofText (toString n ++ suffix)).value = .integer false n suffix := by
  have all : ∀ c ∈ Nat.toDigits 10 n, c.isDigit = true := fun c member =>
    Nat.isDigit_of_mem_toDigits (by decide) (by decide) member
  have read := integer?_digits _ suffix known Nat.toDigits_ne_nil all
  rw [Nat.ofDigitChars_toDigits (by decide) (by decide)] at read
  have text : (toString n ++ suffix).toList = Nat.toDigits 10 n ++ suffix.toList := by
    rw [String.toList_append, Nat.toString_eq_repr, Nat.toList_repr]
  obtain ⟨first, digits, is⟩ := List.exists_cons_of_ne_nil (Nat.toDigits_ne_nil (n := n) (b := 10))
  change valueOf _ = _
  rw [text, is, List.cons_append, valueOf_of_isDigit first _ (all first (is ▸ List.mem_cons_self)),
    number?, ← List.cons_append, ← is, read]
  rfl

end Literal

namespace Expr

/-- The whole number that the expression writes: a literal in minus signs and invisible groups. -/
def integer? : Expr → Option Int
  | lit _ literal =>
    match literal.value with
    | .integer negative value _ => some (MetaValue.signed negative value)
    | _ => none
  | group _ inner => inner.integer?
  | negated _ inner => inner.integer?.map fun value => -value
  | path _ _ | call _ _ _ | paren _ _ | other _ _ _ => none

/-- What minus signs and groups enclose, step by step. -/
def enclosed : Expr → List Expr
  | group attrs inner => .group attrs inner :: inner.enclosed
  | negated attrs inner => .negated attrs inner :: inner.enclosed
  | e => [e]

/-- A literal with the sign before it, if the number is negative. -/
def integer (n : Int) (suffix : String) : Expr :=
  if n < 0 then .negated [] (.number (toString n.natAbs ++ suffix))
  else .number (toString n.natAbs ++ suffix)

theorem integer?_integer (n : Int) (suffix : String) (known : suffix ∈ Literal.wholeSuffixes) :
    (integer n suffix).integer? = some n := by
  have magnitude :
      (Expr.number (toString n.natAbs ++ suffix)).integer? = some (n.natAbs : Int) := by
    rw [Expr.number, integer?, Literal.value_ofText_digits _ _ known]
    rfl
  unfold integer
  split
  · rw [integer?, magnitude, Option.map_some]
    congr 1
    omega
  · rw [magnitude]
    congr 1
    omega

end Expr

namespace MetaValue

theorem ofLiteral?_of_isUnsigned (literal : Literal) (plain : literal.IsUnsigned)
    (negative : Bool) (value : Nat) (suffix : String)
    (is : literal.value = .integer negative value suffix) :
    negative = false ∧
      ofLiteral? literal.value = if value < integerBound then some (.integer value) else none := by
  cases negative with
  | true => exact absurd is (plain value suffix)
  | false =>
    refine ⟨rfl, ?_⟩
    rw [is]
    simp only [ofLiteral?, Bool.false_eq_true, if_false, Int.ofNat_lt, Bool.and_eq_true,
      decide_eq_true_eq]
    congr 1
    rw [eq_iff_iff, and_iff_left_iff_imp]
    intro _
    omega

/-- A whole number is recorded as it is written if its magnitude is below the bound, with either
sign, and is refused otherwise: the magnitude is read before the sign. -/
theorem ofExpr?_of_integer? (e : Expr) (plain : e.IsUnsigned) (n : Int)
    (writes : e.integer? = some n) :
    ofExpr? e = if n.natAbs < integerBound then some (.integer n) else none := by
  fun_induction Expr.integer? e generalizing n with
  | case1 attrs literal negative value suffix is =>
    obtain ⟨rfl, read⟩ := ofLiteral?_of_isUnsigned literal plain negative value suffix is
    cases writes
    exact read
  | case2 attrs literal noInteger => cases writes
  | case3 attrs inner ih =>
    rw [ofExpr?]
    exact ih plain n writes
  | case4 attrs inner ih =>
    obtain ⟨m, inside, rfl⟩ := Option.map_eq_some_iff.mp writes
    rw [ofExpr?, ih plain m inside, Int.natAbs_neg]
    split
    · rfl
    · rfl
  | case5 | case6 | case7 | case8 => cases writes

/-- Only what writes a whole number is recorded as one. -/
theorem integer?_of_isWritten (e : Expr) (value : MetaValue) (written : IsWritten e value) (n : Int)
    (is : value = .integer n) : e.integer? = some n := by
  induction written generalizing n with
  | integer attrs literal negative value suffix same =>
    cases is
    rw [Expr.integer?, same]
  | group attrs inner value _ ih => exact ih n is
  | negatedInteger attrs inner value _ ih =>
    cases is
    rw [Expr.integer?, ih value rfl]
    rfl
  | text | number | boolean | negatedNumber => cases is

theorem natAbs_lt_of_ofExpr? (e : Expr) (plain : e.IsUnsigned) (n : Int)
    (read : ofExpr? e = some (.integer n)) : n.natAbs < integerBound := by
  have writes := integer?_of_isWritten e _ ((ofExpr?_eq_some_iff e _).mp read) n rfl
  rw [ofExpr?_of_integer? e plain n writes] at read
  exact (Option.ite_none_right_eq_some.mp read).1

end MetaValue

theorem Expr.isUnsigned_of_mem_enclosed (e : Expr) (plain : e.IsUnsigned) :
    ∀ part ∈ e.enclosed, part.IsUnsigned := by
  fun_induction Expr.enclosed e with
  | case1 attrs inner ih | case2 attrs inner ih =>
    intro part member
    rcases List.mem_cons.mp member with rfl | within
    · exact plain
    · exact ih plain part within
  | case3 =>
    intro part member
    rw [List.mem_singleton.mp member]
    exact plain

namespace FieldOption

theorem gives_readAfter (tokens : Tokens) (path : NamePath) :
    Gives (readAfter (Grammar.ofTokens tokens) path) fun o =>
      ∀ written ∈ o.listed, written.2.IsUnsigned := by
  have valued (path : NamePath) : Gives
      (do return (path, ← entryValue (Grammar.ofTokens tokens)) : Parser (NamePath × Expr))
        fun written => written.2.IsUnsigned :=
    Gives.bind (gives_entryValue tokens) fun value plain => gives_pure plain
  have bodies : Gives (readBody (Grammar.ofTokens tokens)) fun body =>
      ∀ written ∈ listed ⟨path, body⟩, written.2.IsUnsigned := by
    have unlisted : ∀ written ∈ ([] : List (NamePath × Expr)), written.2.IsUnsigned := by
      intro written member
      cases member
    unfold readBody
    refine gives_bind fun _ => gives_ite (gives_bind fun _ => gives_pure unlisted) ?_
    refine gives_bind fun _ => gives_ite ?_ (gives_pure unlisted)
    refine Gives.bind (gives_inside (gives_anyEntries valued)) fun listing plain => gives_pure ?_
    rw [listed]
    split
    · exact plain
    · exact unlisted
  exact Gives.bind bodies fun body plain => gives_pure plain

/-- In the values that an attribute lists for its metadata, no literal has a sign of its own. -/
theorem isUnsigned_of_listed (a : Attribute) (options : List FieldOption)
    (listing : readAll a = .ok options) (o : FieldOption) (member : o ∈ options) :
    ∀ written ∈ o.listed, written.2.IsUnsigned := by
  unfold readAll at listing
  split at listing
  · cases listing
    cases member
  · obtain ⟨_, tokens, _, run⟩ := (readArguments_eq_ok_iff _ _ _ _).mp listing
    obtain ⟨t, read, _⟩ := (runAll_eq_ok_iff _ _ _).mp run
    exact gives_anyEntries (gives_readAfter tokens) _ options t read o member

end FieldOption

namespace FieldSpec

/-- A number as it is written in code, its sign being a token of its own. -/
def decimal (n : Int) (suffix : String) : Tokens :=
  (if n < 0 then Token.op "-" else []) ++ [.literal (toString n.natAbs ++ suffix)]

/-- `metadata` with one key that is given the number. -/
def integerText (key : String) (n : Int) : Tokens := metadataText [assigned key (decimal n "")]

def integerOption (key : String) (n : Int) : FieldOption :=
  ⟨⟨false, ["metadata"]⟩, .list [(⟨false, [key]⟩, .integer n "")]⟩

theorem writes_integerText (key : String) (n : Int) :
    FieldOption.Writes (integerText key n) (integerOption key n) := by
  unfold integerText integerOption decimal Expr.integer
  split
  · rintro all _ _ (rfl | ⟨rest, rfl⟩)
    · rfl
    · rfl
  · rintro all _ _ (rfl | ⟨rest, rfl⟩)
    · rfl
    · rfl

theorem readExprOf_decimal (n : Int) (suffix : String) :
    readExprOf (decimal n suffix) = .ok (.integer n suffix) := by
  unfold decimal Expr.integer
  split
  · rfl
  · rfl

/-- The text of a number becomes its digits, with the sign before them. -/
theorem signedLiteral_toString (n : Int) (suffix : String) :
    MetaValue.signedLiteral (toString n) suffix = decimal n suffix := by
  rw [MetaValue.toString_eq, decimal]
  split
  · rw [MetaValue.signedLiteral, String.toList_append]
    change [Token.punct '-' false,
      Token.literal (String.ofList (toString n.natAbs).toList ++ suffix)] = _
    rw [String.ofList_toList]
    rfl
  · unfold MetaValue.signedLiteral
    split
    · next rest is =>
      rw [Nat.toString_eq_repr, Nat.toList_repr] at is
      have digit : ('-').isDigit = true :=
        Nat.isDigit_of_mem_toDigits (by decide) (by decide) (is ▸ List.mem_cons_self)
      cases digit
    · rfl

theorem readAll_integerText (key : String) (n : Int) :
    FieldOption.readAll (fieldAttribute [integerText key n]) = .ok [integerOption key n] :=
  FieldOption.readAll_of_writes _ _ _ _ _ (.cons (writes_integerText key n) .nil)

theorem not_read_of_out_of_range (a : Attribute) (options : List FieldOption)
    (listing : FieldOption.readAll a = .ok options) (o : FieldOption) (member : o ∈ options)
    (written : NamePath × Expr) (within : written ∈ o.listed) (n : Int)
    (writes : written.2.integer? = some n) (large : MetaValue.integerBound ≤ n.natAbs)
    (spec : FieldSpec) : read a ≠ .ok spec := by
  intro accepted
  obtain ⟨_, alsoListing, ⟨facts, all, _⟩, _⟩ := (read_records_iff a spec).mp accepted
  cases listing.symm.trans alsoListing
  obtain ⟨fact, _, tells⟩ := exists_mem_of_forall₂ _ _ _ all.flip o member
  obtain ⟨entry, _, _, _, _, value⟩ := exists_mem_of_forall₂ _ _ _ tells.entries.flip written within
  have plain := FieldOption.isUnsigned_of_listed a options listing o member written within
  have read := MetaValue.ofExpr?_of_integer? written.2 plain n writes
  rw [if_neg (Nat.not_lt.mpr large), (MetaValue.ofExpr?_eq_some_iff _ _).mpr value] at read
  cases read

theorem read_integerText (key : String) (n : Int) (small : n.natAbs < MetaValue.integerBound) :
    read (fieldAttribute [integerText key n]) =
      .ok { empty with metadata := [⟨Name.unraw key, .integer n⟩] } := by
  have value : MetaValue.ofExpr? (.integer n "") = some (.integer n) := by
    have plain : (Expr.integer n "").IsUnsigned := by
      unfold Expr.integer
      split <;> exact Literal.isUnsigned_ofText _
    rw [MetaValue.ofExpr?_of_integer? _ plain n
      (Expr.integer?_integer n "" (by decide)), if_pos small]
  have written : MetaEntry.IsWritten (⟨false, [key]⟩, .integer n "") ⟨Name.unraw key, .integer n⟩ :=
    ⟨key, rfl, rfl, (MetaValue.ofExpr?_eq_some_iff _ _).mp value⟩
  rw [read_eq_ok_iff]
  exact ⟨_, readAll_integerText key n, ⟨_, .cons (.metadata _ rfl _ (List.cons_ne_nil _ _) _
    (.cons written .nil)) .nil, .cons _ _ _ _ _ (.metadata _) (.nil _)⟩, rfl⟩

/-- A whole number below the bound is accepted with either sign, recorded as it is written, and
written again as the same number in the generated code. One whose magnitude is not below the bound
is refused, however many minus signs and invisible groups it stands in; among these is the least
number of 64 bits, for the magnitude is read without its sign. So no negation has too large a
result. -/
theorem read_integers (key : String) (n : Int) (a : Attribute) :
    (n.natAbs < MetaValue.integerBound →
      read (fieldAttribute [integerText key n]) =
        .ok { empty with metadata := [⟨Name.unraw key, .integer n⟩] }) ∧
    ((MetaValue.integer n).tokens = .ok (MetaValue.valueTokens "Int" (decimal n "i64")) ∧
      ∃ e, readExprOf (decimal n "i64") = .ok e ∧ e.integer? = some n) ∧
    (MetaValue.integerBound ≤ n.natAbs →
      ∀ spec, read (fieldAttribute [integerText key n]) ≠ .ok spec) ∧
    ∀ options, FieldOption.readAll a = .ok options → ∀ o ∈ options, ∀ written ∈ o.listed,
      (∀ m, written.2.integer? = some m →
        (m.natAbs < MetaValue.integerBound →
          MetaValue.ofExpr? written.2 = some (.integer m)) ∧
        (MetaValue.integerBound ≤ m.natAbs → ∀ spec, read a ≠ .ok spec)) ∧
      ∀ part ∈ written.2.enclosed, ∀ m, MetaValue.ofExpr? part = some (.integer m) →
        m.natAbs < MetaValue.integerBound := by
  refine ⟨read_integerText key n, ⟨?_, _, readExprOf_decimal n "i64",
    Expr.integer?_integer n "i64" (by decide)⟩, ?_, ?_⟩
  · rw [MetaValue.tokens, signedLiteral_toString]
    rfl
  · intro large
    exact not_read_of_out_of_range _ _ (readAll_integerText key n) _ List.mem_cons_self _
      List.mem_cons_self n (Expr.integer?_integer n "" (by decide)) large
  · intro options listing o member written within
    have plain := FieldOption.isUnsigned_of_listed a options listing o member written within
    constructor
    · intro m writes
      constructor
      · intro small
        rw [MetaValue.ofExpr?_of_integer? written.2 plain m writes, if_pos small]
      · exact not_read_of_out_of_range a options listing o member written within m writes
    · intro part enclosed m read
      exact MetaValue.natAbs_lt_of_ofExpr? part
        (written.2.isUnsigned_of_mem_enclosed plain part enclosed) m read

/-- The least number of 64 bits, with one minus sign outside of the invisible group. -/
def leastInGroup : Tokens :=
  [.punct '-' false, .group .invisible [.literal "9223372036854775808"]]

def leastOption : FieldOption :=
  ⟨⟨false, ["metadata"]⟩,
    .list [(⟨false, ["k"]⟩, .negated [] (.group [] (.number "9223372036854775808")))]⟩

theorem read_integers_least :
    (∃ spec, read (fieldAttribute [integerText "r#in" (-9223372036854775807)]) = .ok spec ∧
      MetaEntry.get? spec.metadata "in" = some (.integer (-9223372036854775807))) ∧
    ∀ spec, read (fieldAttribute [metadataText [assigned "k" leastInGroup]]) ≠ .ok spec := by
  obtain ⟨accepted, _, _, refused⟩ := read_integers "r#in" (-9223372036854775807)
    (fieldAttribute [metadataText [assigned "k" leastInGroup]])
  constructor
  · exact ⟨_, accepted (by decide), rfl⟩
  · exact ((refused [leastOption] rfl _ List.mem_cons_self _ List.mem_cons_self).1
      (-9223372036854775808) rfl).2 (by decide)

/-- The least number of 64 bits is written like any other, and is refused. -/
theorem read_refuses_least :
    readExprOf (decimal (-9223372036854775808) "") =
      .ok (.negated [] (.number "9223372036854775808")) ∧
    ¬ ∃ spec, read (fieldAttribute
      [metadataText [assigned "k" (decimal (-9223372036854775808) "")]]) = .ok spec :=
  ⟨rfl, nofun⟩

end FieldSpec

end ClassExpansion
