import ClassExpansion.Proofs.GluedText
import ClassExpansion.Token.StringBody

set_option autoImplicit false

/- The shape of what a string literal holds, up to its closing quote. A text of that shape is read
whatever stands behind it, and keeps the shape when blanks are left out. -/
namespace ClassExpansion.Token

open TypeText (glue glue_cons glue_cons_of_ne)

/-- What may stand after a backslash, the end of a line apart. -/
structure IsEscape (kind : StringKind) (escape : List Char) : Prop where
  solid : ' ' ∉ escape
  begins : ∃ c more, escape = c :: more ∧ c ≠ '\n' ∧ c ≠ '\r'
  reads : ∀ rest, ∃ value, readEscape kind (escape ++ rest) = some (value, rest)

/-- The text up to the closing quote of a string with escapes. -/
inductive CookedBody (kind : StringKind) : List Char → Prop
  | close : CookedBody kind ['"']
  | plain (c : Char) (rest : List Char) (inner : c ≠ '"' ∧ c ≠ '\r' ∧ c ≠ '\\')
      (allowed : kind.allows c = true) (onward : CookedBody kind rest) :
      CookedBody kind (c :: rest)
  | line (rest : List Char) (onward : CookedBody kind rest) :
      CookedBody kind ('\r' :: '\n' :: rest)
  | escape (escape rest : List Char) (known : IsEscape kind escape)
      (onward : CookedBody kind rest) : CookedBody kind ('\\' :: (escape ++ rest))
  /-- Where a line is continued, the blanks behind its end count as characters of the string. -/
  | continued (lineEnd rest : List Char) (ends : lineEnd = ['\n'] ∨ lineEnd = ['\r', '\n'])
      (onward : CookedBody kind rest) : CookedBody kind ('\\' :: (lineEnd ++ rest))

/-- The text up to the closing hashes of a raw string. -/
inductive RawBody (kind : StringKind) (hashes : List Char) : List Char → Prop
  | close : RawBody kind hashes ('"' :: hashes)
  | plain (c : Char) (rest : List Char) (inner : c ≠ '\r') (allowed : kind.allows c = true)
      (isOpen : c = '"' → ¬ hashes <+: rest) (onward : RawBody kind hashes rest) :
      RawBody kind hashes (c :: rest)
  | line (rest : List Char) (onward : RawBody kind hashes rest) :
      RawBody kind hashes ('\r' :: '\n' :: rest)

theorem ne_blank_of_hexDigit? {c : Char} {digit : Nat} (read : hexDigit? c = some digit) :
    c ≠ ' ' := by
  rintro rfl
  cases read

theorem exists_of_codePointDigits (count value result : Nat) (text rest : List Char)
    (read : codePointDigits count value text = some (result, rest)) :
    ∃ digits, text = digits ++ rest ∧ ' ' ∉ digits ∧
      ∀ more, codePointDigits count value (digits ++ more) = some (result, more) := by
  induction text generalizing count value with
  | nil => cases read
  | cons c behind ih =>
    rw [codePointDigits] at read
    split at read
    · next underscore =>
      obtain ⟨digits, rfl, solid, reads⟩ := ih _ _ read
      have visible : ' ' ≠ c := by
        rintro rfl
        cases underscore
      refine ⟨c :: digits, rfl, List.not_mem_cons_of_ne_of_not_mem visible solid, fun more => ?_⟩
      rw [List.cons_append, codePointDigits, if_pos underscore, reads]
    split at read
    · next underscore close =>
      cases read
      have visible : ' ' ≠ c := by
        rintro rfl
        cases close
      refine ⟨[c], rfl, List.not_mem_cons_of_ne_of_not_mem visible List.not_mem_nil,
        fun more => ?_⟩
      rw [List.singleton_append, codePointDigits, if_neg underscore, if_pos close]
    · next underscore close =>
      split at read
      · next digit known =>
        split at read
        · cases read
        · next room =>
          obtain ⟨digits, rfl, solid, reads⟩ := ih _ _ read
          have visible := (ne_blank_of_hexDigit? known).symm
          refine ⟨c :: digits, rfl, List.not_mem_cons_of_ne_of_not_mem visible solid,
            fun more => ?_⟩
          rw [List.cons_append, codePointDigits, if_neg underscore, if_neg close, known]
          dsimp only
          rw [if_neg room, reads]
      · cases read

theorem isEscape_of_plain (kind : StringKind) (c value : Char)
    (known : plainEscapes.lookup c = some value) : IsEscape kind [c] := by
  have apart (other : Char) (missing : plainEscapes.lookup other = none) : c ≠ other := by
    rintro rfl
    rw [missing] at known
    cases known
  refine ⟨?_, ⟨c, [], rfl, apart '\n' rfl, apart '\r' rfl⟩, fun rest => ⟨[value], ?_⟩⟩
  · exact List.not_mem_cons_of_ne_of_not_mem (apart ' ' rfl).symm List.not_mem_nil
  · rw [List.singleton_append, readEscape, known]

theorem isEscape_zero (kind : StringKind) (ends : kind ≠ .zeroEnded) : IsEscape kind ['0'] := by
  refine ⟨by decide, ⟨'0', [], rfl, by decide, by decide⟩, fun rest => ⟨['\x00'], ?_⟩⟩
  cases kind with
  | zeroEnded => exact absurd rfl ends
  | text | bytes => rfl

theorem exists_of_hexEscape (kind : StringKind) (text rest : List Char) (value : Char)
    (read : hexEscape kind text = some (value, rest)) :
    ∃ digits, text = digits ++ rest ∧ IsEscape kind ('x' :: digits) := by
  unfold hexEscape at read
  split at read
  · next a b behind =>
    obtain ⟨high, first, read⟩ := Option.bind_eq_some_iff.mp read
    obtain ⟨low, second, read⟩ := Option.bind_eq_some_iff.mp read
    rw [Option.ite_none_right_eq_some] at read
    obtain ⟨good, same⟩ := read
    cases same
    refine ⟨[a, b], rfl, ?_, ⟨'x', [a, b], rfl, by decide, by decide⟩, fun more => ?_⟩
    · simp only [List.mem_cons, List.not_mem_nil, or_false, not_or]
      exact ⟨by decide, (ne_blank_of_hexDigit? first).symm, (ne_blank_of_hexDigit? second).symm⟩
    · have again : hexEscape kind (a :: b :: more) =
          some (Char.ofNat (16 * high + low), more) := by
        unfold hexEscape
        simp only [first, second, Option.bind_eq_bind, Option.bind_some]
        exact if_pos good
      refine ⟨[Char.ofNat (16 * high + low)], ?_⟩
      change (hexEscape kind (a :: b :: more)).map _ = _
      rw [again]
      rfl
  · cases read

theorem exists_of_codePointEscape (text rest : List Char) (value : Char)
    (read : codePointEscape text = some (value, rest)) :
    ∃ digits, text = digits ++ rest ∧ ' ' ∉ digits ∧
      ∀ more, codePointEscape (digits ++ more) = some (value, more) := by
  unfold codePointEscape at read
  split at read
  · next behind =>
    obtain ⟨⟨number, last⟩, known, read⟩ := Option.bind_eq_some_iff.mp read
    rw [Option.ite_none_right_eq_some] at read
    obtain ⟨valid, same⟩ := read
    cases same
    obtain ⟨digits, rfl, solid, reads⟩ := exists_of_codePointDigits _ _ _ _ _ known
    refine ⟨'\x7b' :: digits, rfl, List.not_mem_cons_of_ne_of_not_mem (by decide) solid,
      fun more => ?_⟩
    rw [List.cons_append, codePointEscape, reads]
    exact if_pos valid
  · cases read

theorem isEscape_codePoint (kind : StringKind) (notBytes : kind ≠ .bytes) (digits : List Char)
    (value : Char) (solid : ' ' ∉ digits) (ends : ¬ (kind = .zeroEnded && value = '\x00') = true)
    (reads : ∀ more, codePointEscape (digits ++ more) = some (value, more)) :
    IsEscape kind ('u' :: digits) := by
  refine ⟨List.not_mem_cons_of_ne_of_not_mem (by decide) solid,
    ⟨'u', digits, rfl, by decide, by decide⟩, fun more => ⟨[value], ?_⟩⟩
  have wide : (decide ('u' = 'u') && decide (kind ≠ .bytes)) = true := by
    simp only [notBytes, ne_eq, not_false_eq_true, decide_true, Bool.and_self]
  rw [List.cons_append, readEscape, reads]
  change (if (decide ('u' = 'u') && decide (kind ≠ .bytes)) = true then _ else _) = _
  rw [if_pos wide]
  exact if_neg ends

/-- After a backslash stands an escape, or the end of a line that is continued. -/
theorem exists_of_readEscape (kind : StringKind) (text value rest : List Char)
    (read : readEscape kind text = some (value, rest)) :
    (∃ escape, text = escape ++ rest ∧ IsEscape kind escape) ∨
      (∃ more, text = '\n' :: more ∧ skipContinuation false more = some rest) ∨
      (∃ more, text = '\r' :: more ∧ skipContinuation true more = some rest) := by
  cases text with
  | nil => cases read
  | cons c behind =>
    rw [readEscape] at read
    split at read
    · next plain known =>
      cases read
      exact Or.inl ⟨[c], rfl, isEscape_of_plain kind c plain known⟩
    split at read
    · next zero =>
      rw [Bool.and_eq_true, decide_eq_true_eq, decide_eq_true_eq] at zero
      obtain ⟨rfl, ends⟩ := zero
      cases read
      exact Or.inl ⟨['0'], rfl, isEscape_zero kind ends⟩
    split at read
    · next is =>
      subst is
      obtain ⟨⟨found, last⟩, known, same⟩ := Option.map_eq_some_iff.mp read
      cases same
      obtain ⟨digits, rfl, escape⟩ := exists_of_hexEscape kind _ _ _ known
      exact Or.inl ⟨'x' :: digits, rfl, escape⟩
    split at read
    · next is =>
      rw [Bool.and_eq_true, decide_eq_true_eq, decide_eq_true_eq] at is
      obtain ⟨rfl, notBytes⟩ := is
      split at read
      · next found last known =>
        split at read
        · cases read
        · next ends =>
          cases read
          obtain ⟨digits, rfl, solid, reads⟩ := exists_of_codePointEscape _ _ _ known
          exact Or.inl ⟨'u' :: digits, rfl,
            isEscape_codePoint kind notBytes digits found solid ends reads⟩
      · cases read
    split at read
    · next is =>
      subst is
      obtain ⟨_, skipped, same⟩ := Option.map_eq_some_iff.mp read
      cases same
      exact Or.inr (Or.inl ⟨behind, rfl, skipped⟩)
    split at read
    · next is =>
      subst is
      obtain ⟨_, skipped, same⟩ := Option.map_eq_some_iff.mp read
      cases same
      exact Or.inr (Or.inr ⟨behind, rfl, skipped⟩)
    · cases read

theorem exists_of_pushValue {value result rest : List Char} {read : Option (List Char × List Char)}
    (found : pushValue value read = some (result, rest)) :
    ∃ more, read = some (more, rest) := by
  obtain ⟨⟨more, last⟩, known, same⟩ := Option.map_eq_some_iff.mp found
  cases same
  exact ⟨more, known⟩

theorem allows_of_isBlank (kind : StringKind) (c : Char) (blank : c = ' ' ∨ c = '\t' ∨ c = '\n') :
    kind.allows c = true := by
  rcases blank with rfl | rfl | rfl <;> cases kind <;> decide

/-- What is passed over after the end of a continued line. After a carriage return, a newline
comes first. -/
theorem exists_of_skipContinuation (kind : StringKind) (afterReturn : Bool) (text rest : List Char)
    (skipped : skipContinuation afterReturn text = some rest) :
    ∃ blanks, text = (if afterReturn then ['\n'] else []) ++ blanks ++ rest ∧
      ∀ body, CookedBody kind body → CookedBody kind (blanks ++ body) := by
  induction text generalizing afterReturn with
  | nil => cases skipped
  | cons c behind ih =>
    rw [skipContinuation] at skipped
    split at skipped
    · next isAfter =>
      subst isAfter
      split at skipped
      · next is =>
        subst is
        obtain ⟨blanks, same, keeps⟩ := ih false skipped
        exact ⟨blanks, by rw [same]; rfl, keeps⟩
      · cases skipped
    · next isFirst =>
      rw [Bool.not_eq_true] at isFirst
      subst isFirst
      split at skipped
      · next is =>
        subst is
        obtain ⟨blanks, same, keeps⟩ := ih true skipped
        refine ⟨'\r' :: '\n' :: blanks, by rw [same]; rfl, fun body onward => ?_⟩
        exact .line _ (keeps body onward)
      split at skipped
      · next visible blank =>
        obtain ⟨blanks, same, keeps⟩ := ih false skipped
        refine ⟨c :: blanks, by rw [same]; rfl, fun body onward => ?_⟩
        simp only [Bool.or_eq_true, decide_eq_true_eq, or_assoc] at blank
        have inner : c ≠ '"' ∧ c ≠ '\r' ∧ c ≠ '\\' := by
          rcases blank with rfl | rfl | rfl <;> decide
        exact .plain c _ inner (allows_of_isBlank kind c blank) (keeps body onward)
      · cases skipped
        exact ⟨[], rfl, fun body onward => onward⟩

/-- What is read behind a backslash may stand there in a string. -/
theorem exists_of_readEscape_cooked (kind : StringKind) (text value rest : List Char)
    (read : readEscape kind text = some (value, rest)) :
    ∃ escape, text = escape ++ rest ∧
      ∀ body, CookedBody kind body → CookedBody kind ('\\' :: (escape ++ body)) := by
  rcases exists_of_readEscape kind text value rest read with
    ⟨escape, same, known⟩ | ⟨after, same, skipped⟩ | ⟨after, same, skipped⟩
  · exact ⟨escape, same, fun body shape => .escape escape body known shape⟩
  · obtain ⟨blanks, whole, keeps⟩ := exists_of_skipContinuation kind _ _ _ skipped
    refine ⟨'\n' :: blanks, by rw [same, whole]; rfl, fun body shape => ?_⟩
    exact .continued ['\n'] _ (Or.inl rfl) (keeps body shape)
  · obtain ⟨blanks, whole, keeps⟩ := exists_of_skipContinuation kind _ _ _ skipped
    refine ⟨'\r' :: '\n' :: blanks, by rw [same, whole]; rfl, fun body shape => ?_⟩
    exact .continued ['\r', '\n'] _ (Or.inr rfl) (keeps body shape)

theorem readCooked_cons (kind : StringKind) (fuel : Nat) (c : Char) (rest : List Char) :
    readCooked kind (fuel + 1) (c :: rest) =
      if c = '"' then some ([], rest)
      else if c = '\r' then
        match rest with
        | '\n' :: rest => pushValue ['\n'] (readCooked kind fuel rest)
        | _ => none
      else if c = '\\' then
        match readEscape kind rest with
        | some (value, rest) => pushValue value (readCooked kind fuel rest)
        | none => none
      else if kind.allows c then pushValue [c] (readCooked kind fuel rest)
      else none := rfl

theorem readCooked_backslash {kind : StringKind} {text value rest : List Char}
    (known : readEscape kind text = some (value, rest)) (fuel : Nat) :
    readCooked kind (fuel + 1) ('\\' :: text) = pushValue value (readCooked kind fuel rest) := by
  rw [readCooked_cons]
  simp only [Char.reduceEq, if_false, if_true, known]

/-- The end of a continued line has no value, nor have the blanks behind it. -/
theorem readEscape_lineEnd (kind : StringKind) {lineEnd : List Char}
    (ends : lineEnd = ['\n'] ∨ lineEnd = ['\r', '\n']) (text : List Char) :
    readEscape kind (lineEnd ++ text) = (skipContinuation false text).map ([], ·) := by
  rcases ends with rfl | rfl <;> cases kind <;> rfl

/-- What is read of a string with escapes has the shape of one. -/
theorem exists_of_readCooked (kind : StringKind) (fuel : Nat) (text value rest : List Char)
    (read : readCooked kind fuel text = some (value, rest)) :
    ∃ body, text = body ++ rest ∧ CookedBody kind body := by
  induction fuel generalizing text value with
  | zero => cases read
  | succ fuel ih =>
    cases text with
    | nil => cases read
    | cons c behind =>
      rw [readCooked_cons] at read
      split at read
      · next is =>
        subst is
        cases read
        exact ⟨['"'], rfl, .close⟩
      next notQuote =>
      split at read
      · next is =>
        subst is
        split at read
        · next more =>
          obtain ⟨_, onward⟩ := exists_of_pushValue read
          obtain ⟨body, rfl, shape⟩ := ih _ _ onward
          exact ⟨'\r' :: '\n' :: body, rfl, .line body shape⟩
        · cases read
      next notReturn =>
      split at read
      · next is =>
        subst is
        split at read
        · next escaped more known =>
          obtain ⟨_, onward⟩ := exists_of_pushValue read
          obtain ⟨body, rfl, shape⟩ := ih _ _ onward
          obtain ⟨escape, rfl, keeps⟩ := exists_of_readEscape_cooked kind _ _ _ known
          refine ⟨'\\' :: (escape ++ body), ?_, keeps body shape⟩
          rw [List.cons_append, List.append_assoc]
        · cases read
      next notBackslash =>
      rw [Option.ite_none_right_eq_some] at read
      obtain ⟨allowed, read⟩ := read
      obtain ⟨_, onward⟩ := exists_of_pushValue read
      obtain ⟨body, rfl, shape⟩ := ih _ _ onward
      exact ⟨c :: body, rfl, .plain c body ⟨notQuote, notReturn, notBackslash⟩ allowed shape⟩

/-- Where a line is continued, reading goes on with a shorter text of the same shape. -/
theorem CookedBody.skip {kind : StringKind} {body : List Char} (shape : CookedBody kind body) :
    ∃ left, CookedBody kind left ∧ left.length ≤ body.length ∧
      ∀ rest, skipContinuation false (body ++ rest) = some (left ++ rest) := by
  induction shape with
  | close => exact ⟨['"'], .close, Nat.le_refl _, fun rest => rfl⟩
  | plain c behind inner allowed onward ih =>
    by_cases blank : (c = ' ' || c = '\t' || c = '\n') = true
    · obtain ⟨left, kept, short, skips⟩ := ih
      refine ⟨left, kept, Nat.le_succ_of_le short, fun rest => ?_⟩
      rw [List.cons_append, skipContinuation, if_neg Bool.false_ne_true, if_neg inner.2.1,
        if_pos blank, skips]
    · refine ⟨c :: behind, .plain c behind inner allowed onward, Nat.le_refl _, fun rest => ?_⟩
      rw [List.cons_append, skipContinuation, if_neg Bool.false_ne_true, if_neg inner.2.1,
        if_neg blank]
  | line behind onward ih =>
    obtain ⟨left, kept, short, skips⟩ := ih
    refine ⟨left, kept, Nat.le_trans short (Nat.le_add_right _ 2), fun rest => ?_⟩
    exact skips rest
  | escape escape behind known onward =>
    exact ⟨_, .escape escape behind known onward, Nat.le_refl _, fun rest => rfl⟩
  | continued lineEnd behind ends onward =>
    exact ⟨_, .continued lineEnd behind ends onward, Nat.le_refl _, fun rest => rfl⟩

/-- A text of the shape is read up to its closing quote, whatever stands behind it. -/
theorem CookedBody.read {kind : StringKind} {body : List Char} (shape : CookedBody kind body)
    (rest : List Char) (fuel : Nat) (enough : body.length ≤ fuel) :
    ∃ value, readCooked kind fuel (body ++ rest) = some (value, rest) := by
  -- The text that is left after a continued line is shorter, though no part of the shape.
  induction n : body.length using Nat.strongRecOn generalizing body fuel with
  | ind n ih =>
    subst n
    have go (escaped : List Char) (left : List Char) (kept : CookedBody kind left)
        (less : left.length < body.length) (fuel : Nat) (enough : left.length ≤ fuel) :
        ∃ value, pushValue escaped (readCooked kind fuel (left ++ rest)) = some (value, rest) := by
      obtain ⟨value, onward⟩ := ih left.length less kept fuel enough rfl
      exact ⟨escaped ++ value, by rw [onward]; rfl⟩
    have positive : 0 < body.length := by
      cases shape <;> exact Nat.succ_pos _
    obtain ⟨fuel, rfl⟩ := Nat.exists_eq_add_one_of_ne_zero (by omega : fuel ≠ 0)
    cases shape with
    | close => exact ⟨[], rfl⟩
    | plain c behind inner allowed onward =>
      rw [List.cons_append, readCooked_cons, if_neg inner.1, if_neg inner.2.1, if_neg inner.2.2,
        if_pos allowed]
      exact go [c] behind onward (Nat.lt_succ_self _) fuel (Nat.le_of_succ_le_succ enough)
    | line behind onward =>
      rw [List.length_cons, List.length_cons] at enough
      exact go ['\n'] behind onward (Nat.lt_add_of_pos_right Nat.two_pos) fuel (by omega)
    | escape escape behind known onward =>
      obtain ⟨value, reads⟩ := known.reads (behind ++ rest)
      rw [List.length_cons, List.length_append] at enough
      have less : behind.length < ('\\' :: (escape ++ behind)).length := by
        rw [List.length_cons, List.length_append]
        omega
      rw [List.cons_append, List.append_assoc, readCooked_backslash reads]
      exact go value behind onward less fuel (by omega)
    | continued lineEnd behind ends onward =>
      obtain ⟨left, kept, short, skips⟩ := onward.skip
      rw [List.length_cons, List.length_append] at enough
      have less : left.length < ('\\' :: (lineEnd ++ behind)).length := by
        rw [List.length_cons, List.length_append]
        omega
      have reads : readEscape kind (lineEnd ++ (behind ++ rest)) = some ([], left ++ rest) := by
        rw [readEscape_lineEnd kind ends, skips]
        rfl
      rw [List.cons_append, List.append_assoc, readCooked_backslash reads]
      exact go [] left kept less fuel (by omega)

/-- Without some of its blanks, the text is still one of a string with escapes. -/
theorem CookedBody.glue {kind : StringKind} {body : List Char} (shape : CookedBody kind body)
    (before : Option Char) : CookedBody kind (TypeText.glue before body) := by
  induction shape generalizing before with
  | close => exact .close
  | plain c behind inner allowed onward ih =>
    rw [glue_cons]
    split
    · exact ih (some c)
    · exact .plain c _ inner allowed (ih (some c))
  | line behind onward ih => exact .line _ (ih (some '\n'))
  | escape escape behind known onward ih =>
    rw [glue_cons_of_ne _ _ _ (by decide),
      TypeText.glue_append_of_not_mem _ escape behind known.solid]
    exact .escape escape _ known (ih _)
  | continued lineEnd behind ends onward ih =>
    have solid : ' ' ∉ lineEnd := by rcases ends with rfl | rfl <;> decide
    rw [glue_cons_of_ne _ _ _ (by decide),
      TypeText.glue_append_of_not_mem _ lineEnd behind solid]
    exact .continued lineEnd _ ends (ih _)

theorem CookedBody.exists_eq_append {kind : StringKind} {body : List Char}
    (shape : CookedBody kind body) : ∃ inner, body = inner ++ ['"'] := by
  induction shape with
  | close => exact ⟨[], rfl⟩
  | plain c behind inner allowed onward ih =>
    obtain ⟨more, rfl⟩ := ih
    exact ⟨c :: more, rfl⟩
  | line behind onward ih =>
    obtain ⟨more, rfl⟩ := ih
    exact ⟨'\r' :: '\n' :: more, rfl⟩
  | escape escape behind known onward ih =>
    obtain ⟨more, rfl⟩ := ih
    exact ⟨'\\' :: (escape ++ more), by rw [List.cons_append, List.append_assoc]⟩
  | continued lineEnd behind ends onward ih =>
    obtain ⟨more, rfl⟩ := ih
    exact ⟨'\\' :: (lineEnd ++ more), by rw [List.cons_append, List.append_assoc]⟩

theorem RawBody.length_le {kind : StringKind} {hashes body : List Char}
    (shape : RawBody kind hashes body) : hashes.length < body.length := by
  induction shape with
  | close => exact Nat.lt_succ_self _
  | plain c behind inner allowed isOpen onward ih => exact Nat.lt_succ_of_lt ih
  | line behind onward ih => exact Nat.lt_succ_of_lt (Nat.lt_succ_of_lt ih)

/-- Whether the closing hashes stand at the start does not depend on what follows. -/
theorem RawBody.prefix_append_iff {kind : StringKind} {hashes body : List Char}
    (shape : RawBody kind hashes body) (rest : List Char) :
    hashes <+: body ++ rest ↔ hashes <+: body := by
  constructor
  · intro begins
    exact List.prefix_of_prefix_length_le begins (List.prefix_append body rest)
      (Nat.le_of_lt shape.length_le)
  · exact fun begins => begins.trans (List.prefix_append body rest)

/-- What is read of a raw string has the shape of one. -/
theorem exists_of_readRaw (kind : StringKind) (hashes text value rest : List Char)
    (read : readRaw kind hashes text = some (value, rest)) :
    ∃ body, text = body ++ rest ∧ RawBody kind hashes body := by
  fun_induction readRaw kind hashes text generalizing value with
  | case1 => cases read
  | case2 behind ih =>
    obtain ⟨_, onward⟩ := exists_of_pushValue read
    obtain ⟨body, rfl, shape⟩ := ih _ onward
    exact ⟨'\r' :: '\n' :: body, rfl, .line body shape⟩
  | case3 c behind notLine closes =>
    cases read
    rw [Bool.and_eq_true, decide_eq_true_eq, List.isPrefixOf_iff_prefix] at closes
    obtain ⟨rfl, more, rfl⟩ := closes
    exact ⟨'"' :: hashes, by rw [List.drop_left, List.cons_append], .close⟩
  | case4 => cases read
  | case5 c behind notLine isOpen notReturn allowed ih =>
    obtain ⟨_, onward⟩ := exists_of_pushValue read
    obtain ⟨body, rfl, shape⟩ := ih _ onward
    refine ⟨c :: body, rfl, .plain c body notReturn allowed (fun is begins => isOpen ?_) shape⟩
    rw [Bool.and_eq_true, decide_eq_true_eq, List.isPrefixOf_iff_prefix, shape.prefix_append_iff]
    exact ⟨is, begins⟩
  | case6 => cases read

/-- A raw text of the shape is read up to its closing hashes, whatever stands behind it. -/
theorem RawBody.read {kind : StringKind} {hashes body : List Char}
    (shape : RawBody kind hashes body) (rest : List Char) :
    ∃ value, readRaw kind hashes (body ++ rest) = some (value, rest) := by
  induction shape with
  | close =>
    refine ⟨[], ?_⟩
    rw [List.cons_append, readRaw]
    · have closes : ('"' = '"' && hashes.isPrefixOf (hashes ++ rest)) = true := by
        rw [Bool.and_eq_true, List.isPrefixOf_iff_prefix]
        exact ⟨rfl, List.prefix_append hashes rest⟩
      rw [if_pos closes, List.drop_left]
    · nofun
  | plain c behind inner allowed isOpen onward ih =>
    obtain ⟨value, reads⟩ := ih
    have stays : ¬ (c = '"' && hashes.isPrefixOf (behind ++ rest)) = true := by
      rw [Bool.and_eq_true, decide_eq_true_eq, List.isPrefixOf_iff_prefix,
        onward.prefix_append_iff]
      exact fun closes => isOpen closes.1 closes.2
    refine ⟨[c] ++ value, ?_⟩
    rw [List.cons_append, readRaw]
    · rw [if_neg stays, if_neg inner, if_pos allowed, reads]
      rfl
    · exact fun _ is => absurd is inner
  | line behind onward ih =>
    obtain ⟨value, reads⟩ := ih
    exact ⟨['\r', '\n'] ++ value, by
      rw [List.cons_append, List.cons_append, readRaw, reads]
      rfl⟩

/-- Leaving out blanks brings no hashes next to a quote or to other hashes. -/
theorem prefix_of_prefix_glue (hashes text : List Char) (before : Char)
    (alike : ∀ c ∈ hashes, c = '#') (loose : before ∉ TypeText.gluesRight)
    (begins : hashes <+: glue (some before) text) : hashes <+: text := by
  induction hashes generalizing text before with
  | nil => exact List.nil_prefix
  | cons h more ih =>
    obtain ⟨rfl, others⟩ := List.forall_mem_cons.mp alike
    cases text with
    | nil => cases List.prefix_nil.mp begins
    | cons c rest =>
      have first : (glue (some before) (c :: rest)).head? = some '#' := by
        obtain ⟨behind, same⟩ := begins
        rw [← same]
        rfl
      by_cases visible : c = ' '
      · subst visible
        have stops := TypeText.stops_glue before _ (TypeText.isGap_blank rest) loose '#' first
        exact absurd stops (by decide)
      · rw [glue_cons_of_ne _ c rest visible] at begins first
        cases first
        rw [List.cons_prefix_cons] at begins ⊢
        exact ⟨rfl, ih rest '#' others (by decide) begins.2⟩

/-- Without some of its blanks, the text is still one of a raw string with the same hashes. -/
theorem RawBody.glue {kind : StringKind} {hashes body : List Char}
    (shape : RawBody kind hashes body) (alike : ∀ c ∈ hashes, c = '#') (before : Option Char) :
    RawBody kind hashes (TypeText.glue before body) := by
  induction shape generalizing before with
  | close =>
    have solid : ' ' ∉ '"' :: hashes := by
      rw [List.mem_cons, not_or]
      exact ⟨by decide, fun member => absurd (alike _ member) (by decide)⟩
    rw [TypeText.glue_of_not_mem before _ solid]
    exact .close
  | plain c behind inner allowed isOpen onward ih =>
    rw [glue_cons]
    split
    · exact ih (some c)
    · refine .plain c _ inner allowed (fun is begins => isOpen is ?_) (ih (some c))
      subst is
      exact prefix_of_prefix_glue hashes behind '"' alike (by decide) begins
  | line behind onward ih => exact .line _ (ih (some '\n'))

theorem RawBody.exists_eq_append {kind : StringKind} {hashes body : List Char}
    (shape : RawBody kind hashes body) : ∃ inner, body = inner ++ '"' :: hashes := by
  induction shape with
  | close => exact ⟨[], rfl⟩
  | plain c behind inner allowed isOpen onward ih =>
    obtain ⟨more, rfl⟩ := ih
    exact ⟨c :: more, rfl⟩
  | line behind onward ih =>
    obtain ⟨more, rfl⟩ := ih
    exact ⟨'\r' :: '\n' :: more, rfl⟩

end ClassExpansion.Token
