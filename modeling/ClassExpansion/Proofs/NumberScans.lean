import ClassExpansion.Proofs.GluedText
import ClassExpansion.Proofs.NameReading
import ClassExpansion.Token.Literal
import Mathlib.Data.Bool.AllAny

set_option autoImplicit false

/- Numbers as literals. A text that is taken for a number where one thing follows is taken for the
same number where another thing follows that could stand there in its place. -/
namespace ClassExpansion.Lexer

open Text (isIdentStart isIdentContinue isIdentText)
open TypeText (Stops gluesLeft gluesRight)

/-- No name goes on here. -/
def EndsName (text : List Char) : Prop := ∀ c ∈ text.head?, isIdentContinue c = false

/-- The same suffix, or none, with an end of it behind. -/
def SameSuffix (first second : List Char) : Prop :=
  ∃ suffix rest behind, Literal.isSuffix suffix = true ∧ EndsName rest ∧ Stops behind ∧
    first = suffix ++ rest ∧ second = suffix ++ behind

/-- A blank next to the character, behind it, stays. -/
def IsLoose (c : Char) : Prop := c ≠ ' ' ∧ c ∉ gluesRight

theorem stops_all (property : Char → Bool) (each : (' ' :: gluesLeft).all property = true)
    {text : List Char} (stops : Stops text) : ∀ c ∈ text.head?, property c = true :=
  fun c first => List.all_eq_true.mp each c (List.mem_cons.mpr (stops c first))

theorem endsName_of_stops {text : List Char} (stops : Stops text) : EndsName text := by
  intro c first
  have all := stops_all (fun c => !isIdentContinue c) (by decide) stops c first
  exact Bool.not_eq_true' _ ▸ all

theorem endsName_nil : EndsName [] := nofun

theorem isLoose_of_isIdentContinue (c : Char) (continues : isIdentContinue c = true) :
    IsLoose c := by
  have apart : ∀ d ∈ ' ' :: gluesRight, isIdentContinue d = false :=
    List.all_iff_forall_prop.mp (by decide)
  constructor
  · rintro rfl
    cases continues
  · intro member
    rw [apart c (List.mem_cons_of_mem _ member)] at continues
    cases continues

theorem isIdentContinue_of_hexDigit? (c : Char) (digit : Nat)
    (read : Token.hexDigit? c = some digit) : isIdentContinue c = true := by
  have spot : (48 ≤ c.toNat ∧ c.toNat ≤ 57) ∨ (97 ≤ c.toNat ∧ c.toNat ≤ 102) ∨
      (65 ≤ c.toNat ∧ c.toNat ≤ 70) := by
    have le_toNat (low high : Char) (le : low ≤ high) : low.toNat ≤ high.toNat :=
      UInt32.le_iff_toNat_le.mp le
    unfold Token.hexDigit? at read
    split at read
    · next isDigit =>
      simp only [Char.isDigit, Bool.and_eq_true, decide_eq_true_eq, ge_iff_le,
        UInt32.le_iff_toNat_le] at isDigit
      exact Or.inl isDigit
    split at read
    · next small =>
      rw [Bool.and_eq_true, decide_eq_true_eq, decide_eq_true_eq] at small
      exact Or.inr (Or.inl ⟨le_toNat _ _ small.1, le_toNat _ _ small.2⟩)
    · rw [Option.ite_none_right_eq_some, Bool.and_eq_true, decide_eq_true_eq,
        decide_eq_true_eq] at read
      exact Or.inr (Or.inr ⟨le_toNat _ _ read.1.1, le_toNat _ _ read.1.2⟩)
  have each : ∀ n < 128, (48 ≤ n ∧ n ≤ 57) ∨ (97 ≤ n ∧ n ≤ 102) ∨ (65 ≤ n ∧ n ≤ 70) →
      isIdentContinue (Char.ofNat n) = true := by decide +kernel
  have same := each c.toNat (by omega) spot
  rwa [Char.ofNat_toNat] at same

theorem isIdentContinue_of_isDigit (c : Char) (digit : c.isDigit = true) :
    isIdentContinue c = true := isIdentContinue_of_hexDigit? c _ (if_pos digit)

/-- Where the second text starts otherwise than the first, nothing follows a number there. -/
theorem SameSuffix.head {first second : List Char} (same : SameSuffix first second) :
    second.head? = first.head? ∧ first ≠ [] ∨ Stops second := by
  obtain ⟨suffix, rest, behind, _, _, stops, rfl, rfl⟩ := same
  cases suffix with
  | nil => exact Or.inr stops
  | cons c more => exact Or.inl ⟨rfl, List.cons_ne_nil _ _⟩

section Scans

variable {property : Char → Prop} {scan next : Scan} {c : Char} {text rest : List Char}

/-- The scan comes to the rest over characters with the property, and over the same characters to
whatever else may stand in its place. -/
def ScansTo (property : Char → Prop) (scan : Scan) (text rest : List Char) : Prop :=
  ∃ front, text = front ++ rest ∧ (∀ c ∈ front, property c) ∧
    ∀ behind, SameSuffix rest behind → scan (front ++ behind) = some behind

theorem scansTo_nil (atStop : ∀ behind, Stops behind → scan behind = some behind) :
    ScansTo property scan [] [] := by
  refine ⟨[], rfl, nofun, fun behind alike => ?_⟩
  rcases alike.head with ⟨_, filled⟩ | stops
  · exact absurd rfl filled
  · exact atStop behind stops

/-- The scan ends where it stands, before the same character or what stops it. -/
theorem scansTo_here (atStop : ∀ behind, Stops behind → scan behind = some behind)
    (here : ∀ text, SameSuffix (c :: rest) (c :: text) → scan (c :: text) = some (c :: text)) :
    ScansTo property scan (c :: rest) (c :: rest) := by
  refine ⟨[], rfl, nofun, fun behind alike => ?_⟩
  rcases alike.head with ⟨first, _⟩ | stops
  · obtain ⟨text, rfl⟩ := List.head?_eq_some_iff.mp first
    exact here text alike
  · exact atStop behind stops

theorem ScansTo.step (scans : ScansTo property next text rest) (holds : property c)
    (step : ∀ front behind, text = front ++ rest → SameSuffix rest behind →
      next (front ++ behind) = some behind → scan (c :: (front ++ behind)) = some behind) :
    ScansTo property scan (c :: text) rest := by
  obtain ⟨front, rfl, all, reads⟩ := scans
  refine ⟨c :: front, rfl, List.forall_mem_cons.mpr ⟨holds, all⟩, fun behind alike => ?_⟩
  exact step front behind rfl alike (reads behind alike)

theorem ScansTo.cons (scans : ScansTo property next text rest) (holds : property c)
    (step : ∀ text, scan (c :: text) = next text) : ScansTo property scan (c :: text) rest :=
  scans.step holds fun _ _ _ _ reads => (step _).trans reads

end Scans

section Suffix

theorem optionalSuffix_append (suffix rest : List Char) (is : Literal.isSuffix suffix = true)
    (ends : EndsName rest) : optionalSuffix (suffix ++ rest) = rest := by
  cases suffix with
  | nil =>
    cases rest with
    | nil => rfl
    | cons c more =>
      have noStart : isIdentStart c = false := by
        rw [← Bool.not_eq_true]
        intro start
        have continues := Text.isIdentContinue_of_isIdentStart c start
        rw [ends c rfl] at continues
        cases continues
      rw [List.nil_append, optionalSuffix, word, noStart]
      rfl
  | cons c more =>
    have named : isIdentText (c :: more) = true := is
    rw [isIdentText, Bool.and_eq_true, List.all_eq_true] at named
    have taken : (more ++ rest).dropWhile isIdentContinue = rest := by
      rw [List.dropWhile_append_of_pos named.2]
      cases rest with
      | nil => rfl
      | cons d behind => exact List.dropWhile_cons_of_neg (by rw [ends d rfl]; decide)
    rw [List.cons_append, optionalSuffix, word_cons c _ named.1, Option.getD_some, taken]

theorem isIdentContinue_of_mem_suffix (suffix : List Char) (is : Literal.isSuffix suffix = true)
    (c : Char) (member : c ∈ suffix) : isIdentContinue c = true := by
  cases suffix with
  | nil => cases member
  | cons d more =>
    have named : isIdentText (d :: more) = true := is
    exact ((Text.isIdentText_iff _).mp named).2 c member

theorem exists_optionalSuffix (text : List Char) :
    ∃ suffix, Literal.isSuffix suffix = true ∧ text = suffix ++ optionalSuffix text := by
  unfold optionalSuffix
  cases read : word text with
  | none => exact ⟨[], rfl, rfl⟩
  | some rest =>
    obtain ⟨name, is, named⟩ := exists_of_word text rest read
    refine ⟨name, ?_, is⟩
    rw [Literal.isSuffix, named, Bool.or_true]

theorem exists_of_numberEnd (text rest : List Char) (read : numberEnd text = some rest) :
    ∃ suffix, Literal.isSuffix suffix = true ∧ EndsName rest ∧ text = suffix ++ rest := by
  obtain ⟨suffix, is, same⟩ := exists_optionalSuffix text
  unfold numberEnd at read
  dsimp only at read
  rw [Option.ite_none_left_eq_some] at read
  obtain ⟨ends, done⟩ := read
  cases done
  refine ⟨suffix, is, fun c first => ?_, same⟩
  rw [first, Option.any_some, Bool.not_eq_true] at ends
  exact ends

theorem numberEnd_append (suffix rest : List Char) (is : Literal.isSuffix suffix = true)
    (ends : EndsName rest) : numberEnd (suffix ++ rest) = some rest := by
  unfold numberEnd
  rw [optionalSuffix_append suffix rest is ends]
  refine if_neg ?_
  rw [Option.any_eq_true]
  rintro ⟨c, first, continues⟩
  rw [ends c first] at continues
  cases continues

/-- Of characters of names, a number takes either all as its suffix, or none. -/
theorem isSome_numberEnd_append (suffix first second : List Char)
    (continues : ∀ c ∈ suffix, isIdentContinue c = true) (firstEnds : EndsName first)
    (secondEnds : EndsName second) :
    (numberEnd (suffix ++ first)).isSome = (numberEnd (suffix ++ second)).isSome := by
  cases suffix with
  | nil =>
    have is : Literal.isSuffix [] = true := rfl
    rw [numberEnd_append [] first is firstEnds, numberEnd_append [] second is secondEnds]
    rfl
  | cons c more =>
    by_cases start : isIdentStart c = true
    · have is : Literal.isSuffix (c :: more) = true := by
        have all := List.all_eq_true.mpr fun d member => continues d (List.mem_cons_of_mem c member)
        rw [Literal.isSuffix, isIdentText, start, all]
        rfl
      rw [numberEnd_append _ first is firstEnds, numberEnd_append _ second is secondEnds]
      rfl
    · have stuck (rest : List Char) : numberEnd (c :: (more ++ rest)) = none := by
        rw [numberEnd, optionalSuffix, word, if_neg start]
        exact if_pos (continues c List.mem_cons_self)
      rw [List.cons_append, List.cons_append, stuck, stuck]

end Suffix

section Fraction

theorem isLoose_of_isDigit (c : Char) (digit : c.isDigit = true) : IsLoose c :=
  isLoose_of_isIdentContinue c (isIdentContinue_of_isDigit c digit)

theorem exponentEnd_of_endsName (sign : Bool) (before : Option (List Char)) (rest : List Char)
    (ends : EndsName rest) : exponentEnd sign true before rest = some rest := by
  cases rest with
  | nil => rfl
  | cons c more =>
    have out := ends c rfl
    have noDigit : ¬ c.isDigit = true := fun digit => by
      rw [isIdentContinue_of_isDigit c digit] at out
      cases out
    have visible : c ≠ '_' := by
      rintro rfl
      cases out
    rw [exponentEnd, if_neg noDigit, if_neg visible]
    simp only [if_true, ite_self]

theorem exponentEnd_of_stops (sign : Bool) (before : Option (List Char)) (rest : List Char)
    (stops : Stops rest) : exponentEnd sign true before rest = some rest :=
  exponentEnd_of_endsName sign before rest (endsName_of_stops stops)

/-- What was read before comes back where there is no exponent. -/
theorem exponentEnd_eq_or (sign digit : Bool) (before : Option (List Char)) (text : List Char) :
    exponentEnd sign digit before text = (exponentEnd sign digit none text).or before := by
  induction text generalizing sign digit with
  | nil => cases digit <;> rfl
  | cons c rest ih =>
    rw [exponentEnd, exponentEnd]
    split
    · split
      · rfl
      split
      · rfl
      · exact ih true digit
    split
    · exact ih sign true
    split
    · exact ih sign digit
    · cases digit <;> rfl

theorem scansTo_of_exponentEnd (sign digit : Bool) (text rest : List Char)
    (read : exponentEnd sign digit none text = some rest) :
    ScansTo IsLoose (exponentEnd sign digit none) text rest := by
  induction text generalizing sign digit with
  | nil =>
    rw [exponentEnd, Option.ite_none_right_eq_some] at read
    obtain ⟨rfl, done⟩ := read
    cases done
    exact scansTo_nil (exponentEnd_of_stops sign none)
  | cons c more ih =>
    have stop (found : digit = true) (same : some (c :: more) = some rest)
        (step : ∀ text, exponentEnd sign digit none (c :: text) = some (c :: text)) :
        ScansTo IsLoose (exponentEnd sign digit none) (c :: more) rest := by
      subst found
      cases same
      exact scansTo_here (exponentEnd_of_stops sign none) fun text _ => step text
    rw [exponentEnd] at read
    split at read
    · next isSign =>
      have loose : IsLoose c := by
        rw [Bool.or_eq_true, decide_eq_true_eq, decide_eq_true_eq] at isSign
        rcases isSign with rfl | rfl <;> exact ⟨by decide, by decide⟩
      split at read
      · next found =>
        exact stop found read fun text => by rw [exponentEnd, if_pos isSign, if_pos found]
      next notFound =>
      rw [Option.ite_none_left_eq_some] at read
      exact (ih true digit read.2).cons loose fun text => by
        rw [exponentEnd, if_pos isSign, if_neg notFound, if_neg read.1]
    next noSign =>
    split at read
    · next isDigit =>
      exact (ih sign true read).cons (isLoose_of_isDigit c isDigit) fun text => by
        rw [exponentEnd, if_neg noSign, if_pos isDigit]
    next noDigit =>
    split at read
    · next underscore =>
      subst underscore
      exact (ih sign digit read).cons ⟨by decide, by decide⟩ fun text => rfl
    next visible =>
    rw [Option.ite_none_right_eq_some] at read
    exact stop read.1 read.2 fun text => by
      rw [exponentEnd, if_neg noSign, if_neg noDigit, if_neg visible, if_pos read.1]

/-- Among characters of names an exponent ends at the same place whatever follows them, or it is
none where it stops. -/
theorem exponentEnd_append (sign digit : Bool) (text first second : List Char)
    (continues : ∀ c ∈ text, isIdentContinue c = true) (stops : Stops first)
    (ends : EndsName second) :
    exponentEnd sign digit none (text ++ first) = none ∨
      ∃ suffix, (∀ c ∈ suffix, isIdentContinue c = true) ∧
        exponentEnd sign digit none (text ++ first) = some (suffix ++ first) ∧
        exponentEnd sign digit none (text ++ second) = some (suffix ++ second) := by
  induction text generalizing digit with
  | nil =>
    cases digit with
    | true =>
      exact Or.inr ⟨[], nofun, exponentEnd_of_stops sign none first stops,
        exponentEnd_of_endsName sign none second ends⟩
    | false =>
      left
      cases first with
      | nil => rfl
      | cons c more =>
        have other := stops_all (fun c => !(c.isDigit || c = '_' || c = '+' || c = '-'))
          (by decide) stops c rfl
        simp only [Bool.not_eq_true', Bool.or_eq_false_iff, decide_eq_false_iff_not] at other
        rw [List.nil_append, exponentEnd]
        simp only [other, decide_false, Bool.or_false, Bool.false_eq_true, if_false]
  | cons c more ih =>
    obtain ⟨inName, later⟩ := List.forall_mem_cons.mp continues
    have noSign : ¬ (c = '+' || c = '-') = true := by
      rw [Bool.or_eq_true, decide_eq_true_eq, decide_eq_true_eq]
      rintro (rfl | rfl) <;> cases inName
    rw [List.cons_append, List.cons_append, exponentEnd, exponentEnd, if_neg noSign, if_neg noSign]
    by_cases isDigit : c.isDigit = true
    · rw [if_pos isDigit, if_pos isDigit]
      exact ih true later
    by_cases underscore : c = '_'
    · rw [if_neg isDigit, if_neg isDigit, if_pos underscore, if_pos underscore]
      exact ih digit later
    rw [if_neg isDigit, if_neg isDigit, if_neg underscore, if_neg underscore]
    cases digit with
    | true => exact Or.inr ⟨c :: more, continues, rfl, rfl⟩
    | false => exact Or.inl rfl

theorem fractionEnd_of_stops (rest : List Char) (stops : Stops rest) :
    fractionEnd true rest = some rest ∧ fractionEnd false rest = none := by
  cases rest with
  | nil => exact ⟨rfl, rfl⟩
  | cons c more =>
    have other := stops_all
      (fun c => !(c.isDigit || c = '_' || c = '.' || c = 'e' || c = 'E'))
      (by decide) stops c rfl
    simp only [Bool.not_eq_true', Bool.or_eq_false_iff, decide_eq_false_iff_not] at other
    rw [fractionEnd, fractionEnd]
    simp only [other, decide_false, Bool.or_false, Bool.false_eq_true, if_false, if_true,
      and_self]

/-- A point that is no name and no range before the rest of the number is none before anything
else that may stand there. -/
theorem not_joins_of_sameSuffix (front : List Char) {rest behind : List Char}
    (free : ¬ (front ++ rest).head?.any (fun d => d = '.' || isIdentStart d) = true)
    (alike : SameSuffix rest behind) :
    ¬ (front ++ behind).head?.any (fun d => d = '.' || isIdentStart d) = true := by
  cases front with
  | cons d after => exact free
  | nil =>
    rw [List.nil_append] at free ⊢
    rcases alike.head with ⟨first, _⟩ | stops
    · rwa [first]
    · rw [Option.any_eq_true]
      rintro ⟨d, first, taken⟩
      have other := stops_all (fun d => !(d = '.' || isIdentStart d)) (by decide) stops d first
      rw [taken] at other
      cases other

/-- A letter that begins the suffix and no exponent does so before any end of the suffix. -/
theorem exponentEnd_eq_none_of_sameSuffix {c : Char} {rest text : List Char}
    (inName : isIdentContinue c = true) (read : exponentEnd false false none rest = none)
    (alike : SameSuffix (c :: rest) (c :: text)) : exponentEnd false false none text = none := by
  obtain ⟨suffix, after, behind, is, ends, stops, whole, alsoWhole⟩ := alike
  cases suffix with
  | nil =>
    have out := ends c (by rw [← List.nil_append after, ← whole]; rfl)
    rw [inName] at out
    cases out
  | cons d letters =>
    rw [List.cons_append, List.cons.injEq] at whole alsoWhole
    obtain ⟨rfl, rfl⟩ := whole
    obtain ⟨-, rfl⟩ := alsoWhole
    have inLetters (e : Char) (member : e ∈ letters) : isIdentContinue e = true :=
      isIdentContinue_of_mem_suffix _ is e (List.mem_cons_of_mem c member)
    rcases exponentEnd_append false false letters behind after inLetters stops ends with
      missing | ⟨_, _, _, reads⟩
    · exact missing
    · rw [read] at reads
      cases reads

/-- The same part of another text is read as a number with a point or an exponent. -/
theorem scansTo_of_fractionEnd (point : Bool) (text rest : List Char)
    (read : fractionEnd point text = some rest) :
    ScansTo IsLoose (fractionEnd point) text rest := by
  induction text generalizing point with
  | nil =>
    rw [fractionEnd, Option.ite_none_right_eq_some] at read
    obtain ⟨rfl, done⟩ := read
    cases done
    exact scansTo_nil fun behind stops => (fractionEnd_of_stops behind stops).1
  | cons c more ih =>
    have stop (found : point = true) (same : some (c :: more) = some rest)
        (step : ∀ text, SameSuffix (c :: more) (c :: text) →
          fractionEnd true (c :: text) = some (c :: text)) :
        ScansTo IsLoose (fractionEnd point) (c :: more) rest := by
      subst found
      cases same
      exact scansTo_here (fun behind stops => (fractionEnd_of_stops behind stops).1) step
    rw [fractionEnd] at read
    split at read
    · next inside =>
      have loose : IsLoose c := by
        rw [Bool.or_eq_true, decide_eq_true_eq] at inside
        rcases inside with digit | rfl
        · exact isLoose_of_isDigit c digit
        · exact ⟨by decide, by decide⟩
      exact (ih point read).cons loose fun text => by rw [fractionEnd, if_pos inside]
    next outside =>
    split at read
    · next isPoint =>
      subst isPoint
      split at read
      · next found => exact stop found read fun text _ => rfl
      next notFound =>
      rw [Option.ite_none_left_eq_some] at read
      obtain ⟨free, read⟩ := read
      refine (ih true read).step ⟨by decide, by decide⟩ fun front behind same alike reads => ?_
      rw [same] at free
      rw [fractionEnd, if_neg outside, if_pos rfl, if_neg notFound,
        if_neg (not_joins_of_sameSuffix front free alike), reads]
    next noPoint =>
    split at read
    · next isLetter =>
      have inName : isIdentContinue c = true := by
        rw [Bool.or_eq_true, decide_eq_true_eq, decide_eq_true_eq] at isLetter
        rcases isLetter with rfl | rfl <;> rfl
      have letter (point : Bool) (text : List Char) : fractionEnd point (c :: text) =
          (exponentEnd false false none text).or (if point then some (c :: text) else none) := by
        rw [fractionEnd, if_neg outside, if_neg noPoint, if_pos isLetter, exponentEnd_eq_or]
      rw [exponentEnd_eq_or, Option.or_eq_some_iff] at read
      rcases read with read | ⟨missing, read⟩
      · refine (scansTo_of_exponentEnd _ _ _ _ read).step (isLoose_of_isIdentContinue c inName) ?_
        intro front behind _ _ reads
        rw [letter, reads, Option.some_or]
      · -- The letter is no exponent but begins the suffix, and so it does before the other text.
        rw [Option.ite_none_right_eq_some] at read
        refine stop read.1 read.2 fun text alike => ?_
        rw [letter, exponentEnd_eq_none_of_sameSuffix inName missing alike, Option.none_or,
          if_pos rfl]
    next noLetter =>
    rw [Option.ite_none_right_eq_some] at read
    exact stop read.1 read.2 fun text _ => by
      rw [fractionEnd, if_neg outside, if_neg noPoint, if_neg noLetter, if_pos rfl]

/-- Characters of names are read as a number with an exponent whatever follows, or are not. -/
theorem fractionEnd_append (text first second : List Char)
    (continues : ∀ c ∈ text, isIdentContinue c = true) (stops : Stops first)
    (ends : EndsName second) :
    fractionEnd false (text ++ first) = none ∨
      ∃ suffix, (∀ c ∈ suffix, isIdentContinue c = true) ∧
        fractionEnd false (text ++ first) = some (suffix ++ first) ∧
        fractionEnd false (text ++ second) = some (suffix ++ second) := by
  induction text with
  | nil => exact Or.inl (fractionEnd_of_stops first stops).2
  | cons c more ih =>
    obtain ⟨inName, later⟩ := List.forall_mem_cons.mp continues
    have noPoint : c ≠ '.' := by
      rintro rfl
      cases inName
    rw [List.cons_append, List.cons_append, fractionEnd, fractionEnd]
    by_cases inside : (c.isDigit || c = '_') = true
    · rw [if_pos inside, if_pos inside]
      exact ih later
    rw [if_neg inside, if_neg inside, if_neg noPoint, if_neg noPoint]
    by_cases isLetter : (c = 'e' || c = 'E') = true
    · rw [if_pos isLetter, if_pos isLetter]
      exact exponentEnd_append false false more first second later stops ends
    · rw [if_neg isLetter]
      exact Or.inl rfl

end Fraction

section Numbers

variable {text rest behind : List Char}

theorem digitsEnd_of_stops (base : Nat) (rest : List Char) (stops : Stops rest) :
    digitsEnd base false rest = some rest := by
  cases rest with
  | nil => rfl
  | cons c more =>
    have other := stops_all (fun c => c ≠ '_' && (Token.hexDigit? c).isNone)
      (by decide) stops c rfl
    rw [Bool.and_eq_true, decide_eq_true_eq, Option.isNone_iff_eq_none] at other
    rw [digitsEnd, if_neg other.1, other.2]
    rfl

theorem scansTo_of_digitsEnd (base : Nat) (empty : Bool) (text rest : List Char)
    (read : digitsEnd base empty text = some rest) :
    ScansTo (isIdentContinue · = true) (digitsEnd base empty) text rest := by
  induction text generalizing empty with
  | nil =>
    rw [digitsEnd, Option.ite_none_left_eq_some, Bool.not_eq_true] at read
    obtain ⟨rfl, done⟩ := read
    cases done
    exact scansTo_nil (digitsEnd_of_stops base)
  | cons c more ih =>
    have stop (found : empty = false) (same : some (c :: more) = some rest)
        (step : ∀ text, digitsEnd base false (c :: text) = some (c :: text)) :
        ScansTo (isIdentContinue · = true) (digitsEnd base empty) (c :: more) rest := by
      subst found
      cases same
      exact scansTo_here (digitsEnd_of_stops base) fun text _ => step text
    rw [digitsEnd] at read
    split at read
    · next underscore =>
      rw [Option.ite_none_left_eq_some] at read
      subst underscore
      exact (ih empty read.2).cons rfl fun text => by
        rw [digitsEnd, if_pos rfl, if_neg read.1]
    next visible =>
    split at read
    · next digit known =>
      split at read
      · next small =>
        refine (ih false read).cons (isIdentContinue_of_hexDigit? c digit known) fun text => ?_
        rw [digitsEnd, if_neg visible, known]
        exact if_pos small
      next large =>
      rw [Option.ite_none_left_eq_some, Bool.or_eq_true, not_or, Bool.not_eq_true,
        Bool.not_eq_true] at read
      obtain ⟨⟨noDigit, found⟩, done⟩ := read
      refine stop found done fun text => ?_
      rw [digitsEnd, if_neg visible, known]
      dsimp only
      rw [if_neg large, noDigit]
      rfl
    next unknown =>
    rw [Option.ite_none_left_eq_some, Bool.not_eq_true] at read
    refine stop read.1 read.2 fun text => ?_
    rw [digitsEnd, if_neg visible, unknown]
    rfl

/-- Behind a number no digit follows, so that what begins with a digit is no end of one. -/
theorem exists_cons_of_digit (ends : EndsName rest) {c : Char} (first : (text ++ rest).head? = some c)
    (digit : c.isDigit = true) : ∃ more, text = c :: more := by
  cases text with
  | cons d more =>
    cases first
    exact ⟨more, rfl⟩
  | nil =>
    have out := ends c first
    rw [isIdentContinue_of_isDigit c digit] at out
    cases out

/-- A number with a point or an exponent is the same number before anything that stops it. -/
theorem floatScan_append (read : floatScan (text ++ rest) = some rest) :
    (∃ c ∈ text.head?, c.isDigit = true) ∧ (∀ c ∈ text, IsLoose c) ∧
      ∀ behind, Stops behind → floatScan (text ++ behind) = some behind := by
  cases whole : text ++ rest with
  | nil =>
    rw [whole] at read
    cases read
  | cons c after =>
    rw [whole, floatScan, Option.ite_none_right_eq_some] at read
    obtain ⟨digit, read⟩ := read
    obtain ⟨middle, fraction, ended⟩ := Option.bind_eq_some_iff.mp read
    obtain ⟨suffix, is, ends, rfl⟩ := exists_of_numberEnd _ _ ended
    obtain ⟨more, rfl⟩ := exists_cons_of_digit ends (congrArg List.head? whole) digit
    cases whole
    obtain ⟨front, same, loosely, reads⟩ := scansTo_of_fractionEnd _ _ _ fraction
    have parts : more = front ++ suffix := by
      rw [← List.append_assoc] at same
      exact List.append_cancel_right same
    subst parts
    have looseSuffix : ∀ c ∈ suffix, IsLoose c := fun c member =>
      isLoose_of_isIdentContinue c (isIdentContinue_of_mem_suffix suffix is c member)
    refine ⟨⟨c, rfl, digit⟩, List.forall_mem_cons.mpr ⟨isLoose_of_isDigit c digit,
      List.forall_mem_append.mpr ⟨loosely, looseSuffix⟩⟩, fun behind stops => ?_⟩
    have again := reads (suffix ++ behind) ⟨suffix, rest, behind, is, ends, stops, rfl, rfl⟩
    rw [List.cons_append, floatScan, if_pos digit, List.append_assoc, again, Option.bind_some]
    exact numberEnd_append suffix behind is (endsName_of_stops stops)

/-- A mark of characters of names that begins a text begins the name in front, if one ends there. -/
theorem prefix_of_prefix_append {mark text behind : List Char}
    (continues : ∀ c ∈ mark, isIdentContinue c = true) (ends : EndsName behind)
    (begins : mark <+: text ++ behind) : mark <+: text := by
  rcases List.prefix_or_prefix_of_prefix begins (List.prefix_append text behind) with
    within | ⟨further, rfl⟩
  · exact within
  · cases further with
    | nil => simp only [List.append_nil, List.prefix_rfl]
    | cons c more =>
      obtain ⟨after, rfl⟩ := (List.prefix_append_right_inj text).mp begins
      have out := ends c rfl
      rw [continues c (List.mem_append_right _ List.mem_cons_self)] at out
      cases out

theorem startsWith_append (mark : String) {text behind : List Char}
    (continues : mark.toList.all isIdentContinue = true) (ends : EndsName behind) :
    startsWith mark (text ++ behind) = startsWith mark text := by
  rw [Bool.eq_iff_iff, startsWith_iff, startsWith_iff]
  exact ⟨prefix_of_prefix_append (List.all_eq_true.mp continues) ends,
    fun begins => begins.trans (List.prefix_append _ _)⟩

theorem radix_append {text behind : List Char} (ends : EndsName behind) :
    radix (text ++ behind) = ((radix text).1, (radix text).2 ++ behind) := by
  have marked (mark : String) (two : mark.toList.length = 2) (begins : startsWith mark text = true) :
      (text ++ behind).drop 2 = text.drop 2 ++ behind := by
    obtain ⟨more, rfl⟩ := (startsWith_iff mark text).mp begins
    rw [List.append_assoc, ← two, List.drop_left, List.drop_left]
  unfold radix
  rw [startsWith_append "0x" (by decide) ends, startsWith_append "0o" (by decide) ends,
    startsWith_append "0b" (by decide) ends]
  split
  · next begins => rw [marked "0x" rfl begins]
  split
  · next begins => rw [marked "0o" rfl begins]
  split
  · next begins => rw [marked "0b" rfl begins]
  · rfl

/-- A number begins with a zero and a letter for its base, or has the base ten. -/
theorem exists_radix (text : List Char) :
    (∃ c, text = '0' :: c :: (radix text).2 ∧ isIdentContinue c = true) ∨
      radix text = (10, text) := by
  have marked (mark : String) (c : Char) (is : mark.toList = ['0', c])
      (begins : startsWith mark text = true) : text = '0' :: c :: text.drop 2 := by
    obtain ⟨more, rfl⟩ := (startsWith_iff mark text).mp begins
    rw [is]
    rfl
  unfold radix
  split
  · next begins => exact Or.inl ⟨'x', marked "0x" 'x' rfl begins, rfl⟩
  split
  · next begins => exact Or.inl ⟨'o', marked "0o" 'o' rfl begins, rfl⟩
  split
  · next begins => exact Or.inl ⟨'b', marked "0b" 'b' rfl begins, rfl⟩
  · exact Or.inr rfl

theorem exists_digit_of_integerScan (whole : List Char) (read : integerScan whole = some rest) :
    ∃ c, whole.head? = some c ∧ c.isDigit = true := by
  obtain ⟨middle, digits, _⟩ := Option.bind_eq_some_iff.mp read
  rcases exists_radix whole with ⟨c, same, _⟩ | ten
  · exact ⟨'0', by rw [same]; rfl, rfl⟩
  · rw [ten] at digits
    cases whole with
    | nil => cases digits
    | cons c more =>
      refine ⟨c, rfl, ?_⟩
      by_contra noDigit
      rw [Bool.not_eq_true] at noDigit
      -- Without being a digit, the character is none in base ten whatever letter it is.
      rw [digitsEnd] at digits
      split at digits
      · cases digits
      split at digits
      · next digit known =>
        have large := le_of_hexDigit? c noDigit digit known
        rw [if_neg (Nat.not_lt.mpr large), Bool.or_true] at digits
        cases digits
      · cases digits

/-- A whole number consists of characters of names, the first of which is a digit. It is the same
number before anything that stops it. -/
theorem integerScan_append (read : integerScan (text ++ rest) = some rest) :
    EndsName rest ∧ (∃ c ∈ text.head?, c.isDigit = true) ∧
      (∀ c ∈ text, isIdentContinue c = true) ∧
      ∀ behind, Stops behind → integerScan (text ++ behind) = some behind := by
  obtain ⟨c, first, digit⟩ := exists_digit_of_integerScan _ read
  obtain ⟨middle, digits, ended⟩ := Option.bind_eq_some_iff.mp read
  obtain ⟨suffix, is, ends, rfl⟩ := exists_of_numberEnd _ _ ended
  obtain ⟨more, begins⟩ := exists_cons_of_digit ends first digit
  rw [radix_append ends] at digits
  obtain ⟨front, same, inName, reads⟩ := scansTo_of_digitsEnd _ _ _ _ digits
  rw [← List.append_assoc, List.append_cancel_right_eq] at same
  have inBody : ∀ c ∈ (radix text).2, isIdentContinue c = true := by
    rw [same]
    exact List.forall_mem_append.mpr ⟨inName, isIdentContinue_of_mem_suffix suffix is⟩
  refine ⟨ends, ⟨c, by rw [begins]; rfl, digit⟩, ?_, fun behind stops => ?_⟩
  · rcases exists_radix text with ⟨d, whole, letter⟩ | ten
    · rw [whole]
      exact List.forall_mem_cons.mpr ⟨rfl, List.forall_mem_cons.mpr ⟨letter, inBody⟩⟩
    · rwa [ten] at inBody
  · have again := reads (suffix ++ behind) ⟨suffix, rest, behind, is, ends, stops, rfl, rfl⟩
    unfold integerScan
    rw [radix_append (endsName_of_stops stops), same, List.append_assoc, again, Option.bind_some]
    exact numberEnd_append suffix behind is (endsName_of_stops stops)

/-- Characters of names that are no fraction before one thing are none before another. -/
theorem floatScan_eq_none_append (read : floatScan (text ++ rest) = none) (filled : text ≠ [])
    (continues : ∀ c ∈ text, isIdentContinue c = true) (ends : EndsName rest)
    (stops : Stops behind) : floatScan (text ++ behind) = none := by
  obtain ⟨c, more, rfl⟩ := List.exists_cons_of_ne_nil filled
  rw [List.cons_append, floatScan] at read ⊢
  split
  · next digit =>
    rw [if_pos digit] at read
    have later := (List.forall_mem_cons.mp continues).2
    rcases fractionEnd_append more behind rest later stops ends with
      missing | ⟨suffix, inSuffix, found, also⟩
    · rw [missing]
      rfl
    · rw [also, Option.bind_some] at read
      rw [found, Option.bind_some, ← Option.not_isSome_iff_eq_none,
        isSome_numberEnd_append suffix behind rest inSuffix (endsName_of_stops stops) ends, read]
      exact Bool.false_ne_true
  · rfl

end Numbers

end ClassExpansion.Lexer
