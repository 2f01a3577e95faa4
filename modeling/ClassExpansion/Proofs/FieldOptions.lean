import ClassExpansion.Proofs.FactoryCalls
import ClassExpansion.Proofs.ParserRuns
import Mathlib.Data.List.Forall2

set_option autoImplicit false

/- The options of a field as a list. They are read one by one without regard to their names, and
what each of them tells is added to what was told before. -/
namespace ClassExpansion

open ClassExpansion.Parser

/-- What stands behind the name of an option. -/
inductive OptionBody
  | bare
  | value (value : Expr)
  /-- Names with values in parentheses, of which there may be none. -/
  | list (written : List (NamePath × Expr))

/-- An option of a field as it is written. -/
structure FieldOption where
  path : NamePath
  body : OptionBody

/-- What an option tells of the field. -/
inductive FieldFact
  | default (value : Expr)
  | factory (callable : Expr)
  | metadata (entries : List MetaEntry)
  | property

namespace MetaValue

/-- The number that a literal with the sign is. -/
def signed (negative : Bool) (value : Nat) : Int := if negative then -value else value

/-- The expression writes the value: a literal of a kind that metadata holds, behind minus signs if
it is a number, and in invisible groups. -/
inductive IsWritten : Expr → MetaValue → Prop
  | text (attrs : Tokens) (literal : Literal) (value : String)
      (is : literal.value = .text value) : IsWritten (.lit attrs literal) (.text value)
  | integer (attrs : Tokens) (literal : Literal) (negative : Bool) (value : Nat) (suffix : String)
      (is : literal.value = .integer negative value suffix)
      (upper : signed negative value < integerBound)
      (lower : -integerBound ≤ signed negative value) :
      IsWritten (.lit attrs literal) (.integer (signed negative value))
  | number (attrs : Tokens) (literal : Literal) (digits suffix : String)
      (value : Number.Binary64) (is : literal.value = .fraction digits suffix)
      (read : Number.Binary64.read? digits = some value) :
      IsWritten (.lit attrs literal) (.number value)
  | boolean (attrs : Tokens) (literal : Literal) (value : Bool)
      (is : literal.value = .boolean value) : IsWritten (.lit attrs literal) (.boolean value)
  | group (attrs : Tokens) (inner : Expr) (value : MetaValue) (written : IsWritten inner value) :
      IsWritten (.group attrs inner) value
  | negatedInteger (attrs : Tokens) (inner : Expr) (value : Int)
      (written : IsWritten inner (.integer value)) :
      IsWritten (.negated attrs inner) (.integer (-value))
  | negatedNumber (attrs : Tokens) (inner : Expr) (value : Number.Binary64)
      (written : IsWritten inner (.number value)) :
      IsWritten (.negated attrs inner) (.number value.neg)

theorem integer_iff (negative : Bool) (value : Nat) (read : MetaValue) (suffix : String) :
    ofLiteral? (.integer negative value suffix) = some read ↔
      signed negative value < integerBound ∧ -integerBound ≤ signed negative value ∧
        read = .integer (signed negative value) := by
  simp only [ofLiteral?, Option.ite_none_right_eq_some, Bool.and_eq_true, decide_eq_true_eq,
    Option.some.injEq, and_assoc, signed, eq_comm (a := read)]

theorem isWritten_of_ofExpr? (value : MetaValue) : (e : Expr) → ofExpr? e = some value →
    IsWritten e value
  | .lit attrs literal, found => by
    rw [ofExpr?] at found
    cases is : literal.value with
    | text text =>
      rw [is] at found
      cases found
      exact .text attrs literal text is
    | integer negative whole suffix =>
      rw [is, integer_iff] at found
      obtain ⟨upper, lower, rfl⟩ := found
      exact .integer attrs literal negative whole suffix is upper lower
    | fraction digits suffix =>
      rw [is] at found
      obtain ⟨number, read, rfl⟩ := Option.map_eq_some_iff.mp found
      exact .number attrs literal digits suffix number is read
    | boolean truth =>
      rw [is] at found
      cases found
      exact .boolean attrs literal truth is
    | byteString | zeroEndedString | byte | character | unreadable =>
      rw [is] at found
      cases found
  | .group attrs inner, found => by
    rw [ofExpr?] at found
    exact .group attrs inner value (isWritten_of_ofExpr? value inner found)
  | .negated attrs inner, found => by
    rw [ofExpr?] at found
    obtain ⟨positive, read, negated⟩ := Option.bind_eq_some_iff.mp found
    have written := isWritten_of_ofExpr? positive inner read
    cases positive with
    | integer whole =>
      cases negated
      exact .negatedInteger attrs inner whole written
    | number number =>
      cases negated
      exact .negatedNumber attrs inner number written
    | text => cases negated
    | boolean => cases negated

theorem ofExpr?_eq_some_iff (e : Expr) (value : MetaValue) :
    ofExpr? e = some value ↔ IsWritten e value := by
  constructor
  · exact isWritten_of_ofExpr? value e
  · intro written
    induction written with
    | text attrs literal value is => rw [ofExpr?, is]; rfl
    | integer attrs literal negative value suffix is upper lower =>
      rw [ofExpr?, is, integer_iff]
      exact ⟨upper, lower, rfl⟩
    | number attrs literal digits suffix value is read => rw [ofExpr?, is, ofLiteral?, read]; rfl
    | boolean attrs literal value is => rw [ofExpr?, is]; rfl
    | group attrs inner value _ ih => rw [ofExpr?, ih]
    | negatedInteger attrs inner value _ ih => rw [ofExpr?, ih]; rfl
    | negatedNumber attrs inner value _ ih => rw [ofExpr?, ih]; rfl

end MetaValue

/-- The name is the key, without the mark of a raw name, and the expression writes the value. -/
def MetaEntry.IsWritten (written : NamePath × Expr) (entry : MetaEntry) : Prop :=
  ∃ key, written.1.name? = some key ∧ entry.key = Name.unraw key ∧
    MetaValue.IsWritten written.2 entry.value

namespace FieldOption

/-- What a well-formed option tells. -/
inductive Tells : FieldOption → FieldFact → Prop
  | default (path : NamePath) (named : path.name? = some "default") (value : Expr)
      (legal : value.HasLegalArity) : Tells ⟨path, .value value⟩ (.default value)
  | factory (path : NamePath) (named : path.name? = some "default_factory") (callable : Expr)
      (legal : callable.HasLegalArity) : Tells ⟨path, .value callable⟩ (.factory callable)
  | metadata (path : NamePath) (named : path.name? = some "metadata")
      (written : List (NamePath × Expr)) (some : written ≠ []) (entries : List MetaEntry)
      (each : List.Forall₂ MetaEntry.IsWritten written entries) :
      Tells ⟨path, .list written⟩ (.metadata entries)
  | property (path : NamePath) (named : path.name? = some "property") :
      Tells ⟨path, .bare⟩ .property

/-- By its form alone, the body of an option is a value, a list or nothing. -/
def readBody (g : Grammar) : Parser OptionBody := do
  if ← peek (isOp "=") then return .value (← entryValue g)
  else if ← peek (isGroup .paren) then
    return .list (← inside .paren (anyEntries fun path => return (path, ← entryValue g)))
  else return .bare

/-- An option behind its name, whatever the name is. -/
def readAfter (g : Grammar) (path : NamePath) : Parser FieldOption :=
  return ⟨path, ← readBody g⟩

/-- All options that an attribute lists. -/
def readAll (a : Attribute) : Except SyntaxFault (List FieldOption) :=
  if a.isBare then .ok []
  else readArguments a.item a.inner fun g => anyEntries (readAfter g)

theorem reads_readAfter_iff (g : Grammar) (path : NamePath) (s : ParseState) (o : FieldOption)
    (t : ParseState) :
    Reads (readAfter g path) s o t ↔ o.path = path ∧ Reads (readBody g) s o.body t := by
  unfold readAfter
  simp only [reads_bind_iff, reads_pure_iff]
  constructor
  · rintro ⟨_, _, read, rfl, rfl⟩
    exact ⟨rfl, read⟩
  · rintro ⟨rfl, read⟩
    exact ⟨o.body, t, read, rfl, rfl⟩

theorem isOp_of_reads_entryValue (g : Grammar) (s : ParseState) (value : Expr) (t : ParseState)
    (read : Reads (entryValue g) s value t) : isOp "=" s.rest = true := by
  obtain ⟨sign, m, equals, _⟩ := (reads_bind_iff _ _ _ _ _).mp read
  exact (exists_reads_op_iff "=" s).mp ⟨sign, m, equals⟩

/-- A group and a sign cannot stand in one place. -/
theorem isOp_of_isGroup (rest : Tokens) (group : isGroup .paren rest = true) :
    isOp "=" rest = false ∧ isOp "," rest = false := by
  unfold isGroup at group
  rw [if_neg (by decide)] at group
  split at group
  · next d content more found =>
    constructor
    · unfold isOp
      rw [show "=".toList = ['='] by decide, afterOperator, found]
      rfl
    · unfold isOp
      rw [show ",".toList = [','] by decide, afterOperator, found]
      rfl
  · cases group

/-- A comma is no equals sign. -/
theorem isOp_of_comma (rest : Tokens) (comma : isOp "," rest = true) :
    isOp "=" rest = false := by
  unfold isOp at comma ⊢
  rw [show ",".toList = [','] by decide, afterOperator] at comma
  rw [show "=".toList = ['='] by decide, afterOperator]
  split at comma
  · next d joint more found =>
    by_cases isComma : ',' = d
    · subst isComma
      rfl
    · rw [if_neg isComma] at comma
      cases comma
  · cases comma

/-- Behind what a separator follows, no body stands. -/
theorem bare_of_separated (s u : ParseState) (more : Bool) (separated : Separated s more u) :
    isOp "=" s.rest = false ∧ isGroup .paren s.rest = false := by
  cases separated with
  | ended ended =>
    rw [ended]
    decide
  | comma _ sign _ read =>
    have comma : isOp "," s.rest = true := (exists_reads_op_iff "," s).mp ⟨sign, u, read⟩
    refine ⟨isOp_of_comma _ comma, ?_⟩
    rw [← Bool.not_eq_true]
    intro group
    rw [(isOp_of_isGroup _ group).2] at comma
    cases comma

/-- The three forms of a body exclude each other. -/
theorem reads_readBody_iff (g : Grammar) (s : ParseState) (body : OptionBody) (t : ParseState) :
    Reads (readBody g) s body t ↔
      (∃ value, body = .value value ∧ Reads (entryValue g) s value t) ∨
      (∃ written, body = .list written ∧
        Reads (inside .paren (anyEntries fun path => return (path, ← entryValue g))) s written t) ∨
      (isOp "=" s.rest = false ∧ isGroup .paren s.rest = false ∧ body = .bare ∧ t = s) := by
  unfold readBody
  rw [reads_ifPeek_iff, reads_ifPeek_iff]
  simp only [reads_bind_iff, reads_pure_iff]
  constructor
  · rintro (⟨_, value, _, read, rfl, rfl⟩ |
      ⟨noValue, ⟨_, written, _, read, rfl, rfl⟩ | ⟨noList, rfl, rfl⟩⟩)
    · exact Or.inl ⟨value, rfl, read⟩
    · exact Or.inr (Or.inl ⟨written, rfl, read⟩)
    · exact Or.inr (Or.inr ⟨noValue, noList, rfl, rfl⟩)
  · rintro (⟨value, rfl, read⟩ | ⟨written, rfl, read⟩ | ⟨noValue, noList, rfl, rfl⟩)
    · exact Or.inl ⟨isOp_of_reads_entryValue g s value t read, value, t, read, rfl, rfl⟩
    · have group := isGroup_of_reads_inside .paren _ s written t read
      have noValue := (isOp_of_isGroup s.rest group).1
      exact Or.inr ⟨noValue, Or.inl ⟨group, written, t, read, rfl, rfl⟩⟩
    · exact Or.inr ⟨noValue, Or.inr ⟨noList, rfl, rfl⟩⟩

end FieldOption

namespace FieldSpec

/-- What an option tells is added to what is known. A default and a factory can be added once. -/
inductive Adds (spec : FieldSpec) : FieldFact → FieldSpec → Prop
  | default (value : Expr) (free : spec.default? = none) :
      Adds spec (.default value) { spec with default? := some value }
  | factory (callable : Expr) (free : spec.factory? = none) :
      Adds spec (.factory callable) { spec with factory? := some callable }
  | metadata (entries : List MetaEntry) :
      Adds spec (.metadata entries)
        { spec with metadata := entries.foldl MetaEntry.put spec.metadata }
  | property : Adds spec .property { spec with property := true }

theorem reads_optionValue_iff (g : Grammar) (s : ParseState) (value : Expr) (t : ParseState) :
    Reads (optionValue g) s value t ↔ Reads (entryValue g) s value t ∧ value.HasLegalArity := by
  unfold optionValue
  rw [reads_bind_iff]
  constructor
  · rintro ⟨e, m, read, onward⟩
    split at onward
    · next legal =>
      obtain ⟨rfl, rfl⟩ := (reads_pure_iff _ _ _ _).mp onward
      exact ⟨read, value.hasFactoryArity_iff.mp legal⟩
    · exact absurd onward (not_reads_failAt _ _ _ _)
  · rintro ⟨read, legal⟩
    refine ⟨value, t, read, ?_⟩
    rw [if_pos (value.hasFactoryArity_iff.mpr legal), reads_pure_iff]
    exact ⟨rfl, rfl⟩

theorem reads_metaEntry_iff (g : Grammar) (path : NamePath) (s : ParseState) (entry : MetaEntry)
    (t : ParseState) :
    Reads (metaEntry g path) s entry t ↔
      ∃ value, Reads (entryValue g) s value t ∧ MetaEntry.IsWritten (path, value) entry := by
  unfold metaEntry
  constructor
  · intro read
    split at read
    · exact absurd read (not_reads_failAt _ _ _ _)
    · next key named =>
      obtain ⟨value, m, valued, onward⟩ := (reads_bind_iff _ _ _ _ _).mp read
      split at onward
      · next written =>
        obtain ⟨rfl, rfl⟩ := (reads_pure_iff _ _ _ _).mp onward
        exact ⟨value, valued, key, named, rfl, (MetaValue.ofExpr?_eq_some_iff _ _).mp written⟩
      · exact absurd onward (not_reads_failAt _ _ _ _)
  · rintro ⟨value, valued, key, named, sameKey, written⟩
    rw [named]
    refine (reads_bind_iff _ _ _ _ _).mpr ⟨value, t, valued, ?_⟩
    rw [(MetaValue.ofExpr?_eq_some_iff _ _).mpr written]
    refine (reads_pure_iff _ _ _ _).mpr ⟨?_, rfl⟩
    rw [← sameKey]

/-- A list of metadata is read entry by entry, each being put among those before. -/
theorem reads_metadata_iff (g : Grammar) (before : List MetaEntry) (s : ParseState)
    (out : List MetaEntry) (t : ParseState) :
    Reads (inside .paren (nestedEntries (fun known path =>
        return MetaEntry.put known (← metaEntry g path)) before)) s out t ↔
      ∃ written told,
        Reads (inside .paren (anyEntries fun path => return (path, ← entryValue g))) s written t ∧
        written ≠ [] ∧ List.Forall₂ MetaEntry.IsWritten written told ∧
        out = told.foldl MetaEntry.put before := by
  have listed : ∀ m u, Reads (nestedEntries (fun known path =>
        return MetaEntry.put known (← metaEntry g path)) before) m out u ↔
      ∃ written, Reads (entries fun path => return (path, ← entryValue g)) m written u ∧
        ∃ told, List.Forall₂ MetaEntry.IsWritten written told ∧
          out = told.foldl MetaEntry.put before := by
    intro m u
    simp only [reads_entries_iff]
    rw [reads_nestedEntries_iff _ (fun path => return (path, ← entryValue g))
      fun known written next => ∃ entry, MetaEntry.IsWritten written entry ∧
        next = MetaEntry.put known entry]
    · simp only [chain_tells_iff, chain_foldl_iff]
    · intro known path _ next _ _ _ _
      simp only [reads_bind_iff, reads_pure_iff, reads_metaEntry_iff]
      constructor
      · rintro ⟨entry, _, ⟨value, read, written⟩, rfl, rfl⟩
        exact ⟨_, ⟨value, _, read, rfl, rfl⟩, entry, written, rfl⟩
      · rintro ⟨_, ⟨value, _, read, rfl, rfl⟩, entry, written, rfl⟩
        exact ⟨entry, _, ⟨value, read, written⟩, rfl, rfl⟩
  simp only [reads_inside_iff, listed]
  constructor
  · rintro ⟨content, rest, inner, found, ⟨written, read, told, each, same⟩, left⟩
    have some : written ≠ [] := (ne_nil_of_reads_entries _ _ _ _ read).2
    exact ⟨written, told,
      ⟨content, rest, inner, found, (reads_anyEntries_iff _ _ _ _).mpr (Or.inr read), left⟩,
      some, each, same⟩
  · rintro ⟨written, told, ⟨content, rest, inner, found, read, left⟩, some, each, same⟩
    rcases (reads_anyEntries_iff _ _ _ _).mp read with ⟨_, none, _⟩ | read
    · exact absurd none some
    · exact ⟨content, rest, inner, found, ⟨written, read, told, each, same⟩, left⟩

/-- A value that can be given once. -/
theorem reads_once_iff (g : Grammar) (given : Option Expr) (name : String)
    (add : Expr → FieldSpec) (s : ParseState) (out : FieldSpec) (t : ParseState) :
    Reads (if given.isSome then failAt (givenTwice name) else return add (← optionValue g))
        s out t ↔
      given = none ∧ ∃ value, Reads (entryValue g) s value t ∧ value.HasLegalArity ∧
        out = add value := by
  cases given with
  | some value =>
    rw [Option.isSome_some, if_pos rfl]
    constructor
    · intro read
      exact absurd read (not_reads_failAt _ _ _ _)
    · rintro ⟨impossible, _⟩
      cases impossible
  | none =>
    rw [Option.isSome_none, if_neg Bool.false_ne_true, reads_bind_iff]
    simp only [reads_optionValue_iff, reads_pure_iff, true_and]
    constructor
    · rintro ⟨value, _, ⟨read, legal⟩, rfl, rfl⟩
      exact ⟨value, read, legal, rfl⟩
    · rintro ⟨value, read, legal, rfl⟩
      exact ⟨value, t, ⟨read, legal⟩, rfl, rfl⟩

/-- An option is read by its name, which is as well as reading it by its form and then asking what
it tells. -/
theorem reads_option_iff (g : Grammar) (spec : FieldSpec) (path : NamePath) (s : ParseState)
    (out : FieldSpec) (t : ParseState) (more : Bool) (u : ParseState)
    (separated : Separated t more u) :
    Reads (option g spec path) s out t ↔
      ∃ o, Reads (FieldOption.readAfter g path) s o t ∧
        ∃ fact, o.Tells fact ∧ Adds spec fact out := by
  simp only [FieldOption.reads_readAfter_iff, FieldOption.reads_readBody_iff]
  constructor
  · intro read
    unfold option at read
    split at read
    · next named =>
      obtain ⟨free, value, valued, legal, rfl⟩ := (reads_once_iff _ _ _ _ _ _ _).mp read
      exact ⟨⟨path, .value value⟩, ⟨rfl, Or.inl ⟨value, rfl, valued⟩⟩, _,
        .default path named value legal, .default value free⟩
    · next named =>
      obtain ⟨free, value, valued, legal, rfl⟩ := (reads_once_iff _ _ _ _ _ _ _).mp read
      exact ⟨⟨path, .value value⟩, ⟨rfl, Or.inl ⟨value, rfl, valued⟩⟩, _,
        .factory path named value legal, .factory value free⟩
    · next named =>
      obtain ⟨_, _, known, done⟩ := (reads_bind_iff _ _ _ _ _).mp read
      obtain ⟨rfl, rfl⟩ := (reads_pure_iff _ _ _ _).mp done
      obtain ⟨written, told, listed, some, each, rfl⟩ := (reads_metadata_iff _ _ _ _ _).mp known
      exact ⟨⟨path, .list written⟩, ⟨rfl, Or.inr (Or.inl ⟨written, rfl, listed⟩)⟩, _,
        .metadata path named written some told each, .metadata told⟩
    · next named =>
      -- Nothing is read behind this name, so only the separator tells that no body stands there.
      obtain ⟨rfl, rfl⟩ := (reads_pure_iff _ _ _ _).mp read
      obtain ⟨noValue, noList⟩ := FieldOption.bare_of_separated _ _ _ separated
      exact ⟨⟨path, .bare⟩, ⟨rfl, Or.inr (Or.inr ⟨noValue, noList, rfl, rfl⟩)⟩, _,
        .property path named, .property⟩
    · exact absurd read (not_reads_failAt _ _ _ _)
  · rintro ⟨o, ⟨samePath, body⟩, fact, tells, adds⟩
    unfold option
    cases tells with
    | default _ named value legal =>
      obtain rfl : _ = path := samePath
      rw [named]
      rcases body with ⟨_, ⟨rfl⟩, valued⟩ | ⟨_, ⟨⟩, _⟩ | ⟨_, _, ⟨⟩, _⟩
      cases adds with
      | default _ free =>
        exact (reads_once_iff _ _ _ _ _ _ _).mpr ⟨free, value, valued, legal, rfl⟩
    | factory _ named callable legal =>
      obtain rfl : _ = path := samePath
      rw [named]
      rcases body with ⟨_, ⟨rfl⟩, valued⟩ | ⟨_, ⟨⟩, _⟩ | ⟨_, _, ⟨⟩, _⟩
      cases adds with
      | factory _ free =>
        exact (reads_once_iff _ _ _ _ _ _ _).mpr ⟨free, callable, valued, legal, rfl⟩
    | metadata _ named written some told each =>
      obtain rfl : _ = path := samePath
      rw [named]
      rcases body with ⟨_, ⟨⟩, _⟩ | ⟨_, ⟨rfl⟩, listed⟩ | ⟨_, _, ⟨⟩, _⟩
      cases adds with
      | metadata =>
        have known := (reads_metadata_iff g spec.metadata s _ t).mpr
          ⟨written, told, listed, some, each, rfl⟩
        exact (reads_bind_iff _ _ _ _ _).mpr ⟨_, t, known, (reads_pure_iff _ _ _ _).mpr ⟨rfl, rfl⟩⟩
    | property _ named =>
      obtain rfl : _ = path := samePath
      rw [named]
      rcases body with ⟨_, ⟨⟩, _⟩ | ⟨_, ⟨⟩, _⟩ | ⟨_, _, _, rfl⟩
      cases adds with
      | property => exact (reads_pure_iff _ _ _ _).mpr ⟨rfl, rfl⟩

end FieldSpec

theorem readArguments_eq_ok_iff {α : Type} (item : MetaItem) (inner : Bool)
    (parser : Grammar → Parser α) (result : α) :
    readArguments item inner parser = .ok result ↔
      ∃ delimiter tokens, item.body = .list delimiter tokens ∧
        runAll (parser (Grammar.ofTokens tokens)) tokens = .ok result := by
  unfold readArguments
  cases item.body with
  | list delimiter tokens =>
    constructor
    · intro read
      exact ⟨delimiter, tokens, rfl, read⟩
    · rintro ⟨_, _, same, read⟩
      cases same
      exact read
  | bare =>
    constructor
    · nofun
    · rintro ⟨_, _, impossible, _⟩
      cases impossible
  | value _ =>
    constructor
    · nofun
    · rintro ⟨_, _, impossible, _⟩
      cases impossible

namespace FieldOption

/-- The text is that of the option, whatever options stand beside it. -/
def Writes (text : Tokens) (o : FieldOption) : Prop :=
  ∀ all, Token.sizeAll text ≤ Token.sizeAll all →
    StandsFor (readAfter (Grammar.ofTokens all)) .invisible text o

/-- The options of an attribute are those of the texts between the commas, in their order. -/
theorem readAll_of_writes (inner : Bool) (path : NamePath) (delimiter : Delimiter)
    (texts : List Tokens) (options : List FieldOption)
    (each : List.Forall₂ Writes texts options) :
    readAll ⟨inner, ⟨path, .list delimiter (commaSeparated texts)⟩⟩ = .ok options := by
  have stand : List.Forall₂ (StandsFor (readAfter (Grammar.ofTokens (commaSeparated texts)))
      .invisible) texts options := by
    have small := (List.forall₂_and_left texts options).mpr
      ⟨fun text member => sizeAll_le_of_mem texts text member, each⟩
    exact small.imp fun text o both => both.2 _ both.1
  have read := (runAll_eq_ok_iff _ _ _).mpr
    ⟨_, reads_anyEntries_of_standsFor _ _ _ _ stand, rfl⟩
  change readArguments ⟨path, .list delimiter _⟩ inner (fun g => anyEntries (readAfter g)) = _
  rw [readArguments_eq_ok_iff]
  exact ⟨_, _, rfl, read⟩

end FieldOption

namespace FieldSpec

/-- In the parentheses of an attribute there may be nothing. -/
theorem reads_options_iff (g : Grammar) (s : ParseState) (spec : FieldSpec) (t : ParseState) :
    Reads (do if ← atEnd then return empty else nestedEntries (option g) empty) s spec t ↔
      ∃ options, Reads (anyEntries (FieldOption.readAfter g)) s options t ∧
        ∃ facts, List.Forall₂ FieldOption.Tells options facts ∧ Chain Adds empty facts spec := by
  have listed : Reads (nestedEntries (option g) empty) s spec t ↔
      ∃ options, Reads (entries (FieldOption.readAfter g)) s options t ∧
        ∃ facts, List.Forall₂ FieldOption.Tells options facts ∧ Chain Adds empty facts spec := by
    simp only [reads_entries_iff]
    rw [reads_nestedEntries_iff _ (FieldOption.readAfter g)
      fun spec o next => ∃ fact, o.Tells fact ∧ Adds spec fact next]
    · simp only [chain_tells_iff]
    · intro spec path s out t more u separated
      exact reads_option_iff g spec path s out t more u separated
  rw [reads_ifAtEnd_iff, reads_pure_iff]
  simp only [reads_anyEntries_iff]
  constructor
  · rintro (⟨ended, rfl, rfl⟩ | ⟨_, read⟩)
    · exact ⟨[], Or.inl ⟨ended, rfl, rfl⟩, [], .nil, .nil _⟩
    · obtain ⟨options, found, told⟩ := listed.mp read
      exact ⟨options, Or.inr found, told⟩
  · rintro ⟨options, ⟨ended, rfl, rfl⟩ | found, facts, each, chain⟩
    · cases each
      cases chain
      exact Or.inl ⟨ended, rfl, rfl⟩
    · have going := (ne_nil_of_reads_entries _ s options t found).1
      exact Or.inr ⟨going, listed.mpr ⟨options, found, facts, each, chain⟩⟩

/-- Whatever the attribute, its arguments say what the options listed there tell. -/
theorem readArguments_options_iff (item : MetaItem) (inner : Bool) (spec : FieldSpec) :
    readArguments item inner (fun g => do
        if ← atEnd then return empty else nestedEntries (option g) empty) = .ok spec ↔
      ∃ options, readArguments item inner (fun g => anyEntries (FieldOption.readAfter g)) =
          .ok options ∧
        ∃ facts, List.Forall₂ FieldOption.Tells options facts ∧ Chain Adds empty facts spec := by
  simp only [readArguments_eq_ok_iff, runAll_eq_ok_iff, reads_options_iff]
  constructor
  · rintro ⟨delimiter, tokens, is, t, ⟨options, read, told⟩, complete⟩
    exact ⟨options, ⟨delimiter, tokens, is, t, read, complete⟩, told⟩
  · rintro ⟨options, ⟨delimiter, tokens, is, t, read, complete⟩, told⟩
    exact ⟨delimiter, tokens, is, t, ⟨options, read, told⟩, complete⟩

/-- What an attribute says is what its options tell one after the other, as long as no property is
given a default. -/
theorem read_eq_ok_iff (a : Attribute) (spec : FieldSpec) :
    read a = .ok spec ↔
      ∃ options, FieldOption.readAll a = .ok options ∧
        (∃ facts, List.Forall₂ FieldOption.Tells options facts ∧ Chain Adds empty facts spec) ∧
        spec.hasConflict = false := by
  unfold read FieldOption.readAll
  by_cases bare : a.isBare = true
  · rw [if_pos bare, if_pos bare]
    constructor
    · intro same
      obtain rfl : empty = spec := Except.ok.inj same
      exact ⟨[], rfl, ⟨[], .nil, .nil _⟩, rfl⟩
    · rintro ⟨_, none, ⟨_, each, chain⟩, _⟩
      obtain rfl := Except.ok.inj none
      cases each
      cases chain
      rfl
  · rw [if_neg bare, if_neg bare]
    have told := readArguments_options_iff a.item a.inner
    constructor
    · intro done
      cases arguments : readArguments a.item a.inner (fun g => do
        if ← atEnd then return empty else nestedEntries (option g) empty) with
      | error fault =>
        rw [arguments] at done
        cases done
      | ok found =>
        rw [arguments] at done
        change (if found.hasConflict then _ else Except.ok found) = _ at done
        split at done
        · cases done
        · next free =>
          cases done
          obtain ⟨options, listed, facts⟩ := (told spec).mp arguments
          exact ⟨options, listed, facts, Bool.not_eq_true _ ▸ free⟩
    · rintro ⟨options, listed, facts, free⟩
      rw [(told spec).mpr ⟨options, listed, facts⟩]
      change (if spec.hasConflict then _ else Except.ok spec) = _
      rw [free, if_neg Bool.false_ne_true]

end FieldSpec

end ClassExpansion
