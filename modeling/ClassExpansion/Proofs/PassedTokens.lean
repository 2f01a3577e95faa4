import ClassExpansion.Proofs.LegibleTokens

set_option autoImplicit false

/- The tokens between two places of a parser. Some parts of the source are kept as they are written,
which cuts the tokens off where the parser has come to. The cut is legible if nothing that was
passed asks for what comes next. -/
namespace ClassExpansion

open Token (Legible LegibleBefore FitsBefore IsLegible sizeAll)

/-- A group gives no token what it asks for, so nothing was asked. -/
theorem Token.FitsBefore.of_group {delimiter : Delimiter} {body : Tokens} {t : Token}
    (fits : t.FitsBefore (some (group delimiter body))) (next : Option Token) :
    t.FitsBefore next := by
  refine FitsBefore.mono ?_ next
  cases t with
  | punct c joint =>
    refine ⟨fun is => ?_, fun is isJoint => ?_⟩
    · obtain ⟨_, _, same, impossible⟩ := fits.1 is
      cases same
      exact impossible.elim
    · obtain ⟨_, same, impossible⟩ := fits.2 is isJoint
      cases same
      exact impossible.elim
  | ident | literal | group => trivial

theorem Token.LegibleBefore.of_group {delimiter : Delimiter} {body tokens : Tokens}
    (legible : LegibleBefore (some (group delimiter body)) tokens) : Legible tokens := by
  induction tokens with
  | nil => exact Token.legible_nil
  | cons t rest ih =>
    rw [LegibleBefore] at legible
    rw [Legible, LegibleBefore]
    refine ⟨legible.1, ?_, ih legible.2.2⟩
    cases rest with
    | nil => exact legible.2.1.of_group none
    | cons second more => exact legible.2.1

namespace Parser

/-- From the first tokens a parser comes to the last ones past the tokens between, and opens
invisible groups on its way. -/
inductive Passes : Tokens → Tokens → Tokens → Prop
  | done (rest : Tokens) : Passes rest [] rest
  | token (t : Token) (rest passed last : Tokens) (onward : Passes rest passed last) :
      Passes (t :: rest) (t :: passed) last
  | into (body rest passed last : Tokens) (onward : Passes (body ++ rest) passed last) :
      Passes (.group .invisible body :: rest) passed last

variable {start passed middle last rest : Tokens}

theorem Passes.trans {more : Tokens} (first : Passes start passed middle)
    (second : Passes middle more last) : Passes start (passed ++ more) last := by
  induction first with
  | done => exact second
  | token t rest passed middle _ ih => exact .token t rest _ last (ih second)
  | into body rest passed middle _ ih => exact .into body rest _ last (ih second)

theorem Passes.append (passes : Passes start passed last) (behind : Tokens) :
    Passes (start ++ behind) passed (last ++ behind) := by
  induction passes with
  | done => exact .done _
  | token t rest passed last _ ih => exact .token t _ _ _ ih
  | into body rest passed last _ ih =>
    rw [List.append_assoc] at ih
    exact .into body _ _ _ ih

theorem Passes.legible (passes : Passes start passed last) (legible : Legible start) :
    Legible last := by
  induction passes with
  | done => exact legible
  | token t rest passed last _ ih => exact ih legible.tail
  | into body rest passed last _ ih => exact ih legible.dissolve

/-- Whoever passes or opens something has less before him. -/
theorem Passes.cases_size (passes : Passes start passed last) :
    start = last ∧ passed = [] ∨ sizeAll last < sizeAll start := by
  induction passes with
  | done => exact Or.inl ⟨rfl, rfl⟩
  | token t rest passed last _ ih =>
    have positive := Token.size_pos t
    rw [sizeAll]
    rcases ih with ⟨rfl, -⟩ | smaller
    · exact Or.inr (by omega)
    · exact Or.inr (by omega)
  | into body rest passed last _ ih =>
    rw [Token.sizeAll_append] at ih
    rw [sizeAll, Token.size]
    rcases ih with ⟨rfl, -⟩ | smaller
    · rw [Token.sizeAll_append]
      exact Or.inr (by omega)
    · exact Or.inr (by omega)

theorem Passes.sizeAll_le (passes : Passes start passed last) : sizeAll last ≤ sizeAll start := by
  rcases passes.cases_size with ⟨rfl, -⟩ | smaller
  · exact Nat.le_refl _
  · exact Nat.le_of_lt smaller

/-- Who has come behind the first part has passed what he passed of the second one. -/
theorem Passes.split {behind : Tokens} (passes : Passes (start ++ behind) passed last)
    (left : sizeAll last ≤ sizeAll behind) :
    ∃ before after, passed = before ++ after ∧ Passes behind after last := by
  generalize whole : start ++ behind = tokens at passes
  induction passes generalizing start with
  | done =>
    subst whole
    rw [Token.sizeAll_append] at left
    have empty : start = [] := by
      cases start with
      | nil => rfl
      | cons t more =>
        have positive := Token.size_pos t
        rw [sizeAll] at left
        omega
    subst empty
    exact ⟨[], [], rfl, .done _⟩
  | token t rest passed last onward ih =>
    cases start with
    | nil =>
      subst whole
      exact ⟨[], _, rfl, .token t rest passed last onward⟩
    | cons first more =>
      obtain ⟨rfl, rfl⟩ := List.cons.inj whole
      obtain ⟨before, after, rfl, later⟩ := ih left rfl
      exact ⟨first :: before, after, rfl, later⟩
  | into body rest passed last onward ih =>
    cases start with
    | nil =>
      subst whole
      exact ⟨[], _, rfl, .into body rest passed last onward⟩
    | cons first more =>
      obtain ⟨rfl, rfl⟩ := List.cons.inj whole
      exact ih left (List.append_assoc body more behind)

mutual

theorem passes_openedOne : (t : Token) → Passes [t] [] (openedOne t)
  | .group .invisible body => by
    rw [openedOne]
    refine .into body [] _ _ ?_
    rw [List.append_nil]
    exact passes_opened body
  | .ident _ => .done _
  | .punct _ _ => .done _
  | .literal _ => .done _
  | .group .paren _ => .done _
  | .group .brace _ => .done _
  | .group .bracket _ => .done _

/-- To open groups passes nothing. -/
theorem passes_opened : (tokens : List Token) → Passes tokens [] (opened tokens)
  | [] => .done _
  | t :: rest => by
    have first := (passes_openedOne t).append rest
    rw [opened]
    split
    · next empty =>
      rw [empty] at first
      exact first.trans (passes_opened rest)
    · next c body full =>
      rw [full] at first
      exact first

end

theorem writtenBetween_of_le (fuel : Nat) (tokens : Tokens) (size : Nat)
    (left : sizeAll tokens ≤ size) : writtenBetween fuel tokens size = [] := by
  unfold writtenBetween
  split
  · rfl
  · rfl
  · rw [if_pos left]

/-- A group is opened just where the cut is inside of it. -/
theorem writtenBetween_invisible (fuel : Nat) (body rest : Tokens) (size : Nat)
    (more : size < sizeAll (.group .invisible body :: rest)) :
    writtenBetween (fuel + 1) (.group .invisible body :: rest) size =
      if sizeAll rest < size then writtenBetween fuel (body ++ rest) size
      else .group .invisible body :: writtenBetween fuel rest size := by
  rw [writtenBetween, if_neg (Nat.not_le.mpr more)]

theorem writtenBetween_cons (fuel : Nat) (t : Token) (rest : Tokens) (size : Nat)
    (whole : (∀ body, t ≠ .group .invisible body) ∨ size ≤ sizeAll rest)
    (more : size < sizeAll (t :: rest)) :
    writtenBetween (fuel + 1) (t :: rest) size = t :: writtenBetween fuel rest size := by
  by_cases invisible : ∃ body, t = .group .invisible body
  · obtain ⟨body, rfl⟩ := invisible
    have kept : ¬ sizeAll rest < size := by
      rcases whole with visible | left
      · exact absurd rfl (visible body)
      · omega
    rw [writtenBetween_invisible fuel body rest size more, if_neg kept]
  · rw [writtenBetween, if_neg (Nat.not_le.mpr more)]
    exact fun body is => invisible ⟨body, is⟩

/-- The cut is legible, and begins with what asks no more of the token before it. -/
theorem legible_writtenBetween (fuel : Nat) (start passed : Tokens)
    (passes : Passes start passed last) (legible : Legible start) (settled : Legible passed)
    (enough : sizeAll start ≤ fuel) :
    Legible (writtenBetween fuel start (sizeAll last)) ∧
      ∀ t : Token, t.FitsBefore start.head? → t.FitsBefore passed.head? →
        t.FitsBefore (writtenBetween fuel start (sizeAll last)).head? := by
  induction fuel generalizing start passed with
  | zero =>
    rcases passes.cases_size with ⟨rfl, rfl⟩ | smaller
    · rw [writtenBetween]
      exact ⟨Token.legible_nil, fun t _ fits => fits⟩
    · omega
  | succ fuel ih =>
    rcases passes.cases_size with ⟨rfl, rfl⟩ | smaller
    · rw [writtenBetween_of_le _ _ _ (Nat.le_refl _)]
      exact ⟨Token.legible_nil, fun t _ fits => fits⟩
    have keep (t : Token) (rest after : Tokens) (begins : start = t :: rest)
        (whole : (∀ body, t ≠ .group .invisible body) ∨ sizeAll last ≤ sizeAll rest)
        (later : Passes rest after last) (settledLater : Legible after)
        (fits : t.FitsBefore after.head?) :
        Legible (writtenBetween (fuel + 1) start (sizeAll last)) ∧
          ∀ u : Token, u.FitsBefore start.head? → u.FitsBefore passed.head? →
            u.FitsBefore (writtenBetween (fuel + 1) start (sizeAll last)).head? := by
      subst begins
      have positive := Token.size_pos t
      rw [sizeAll] at enough
      obtain ⟨written, asked⟩ := ih rest after later legible.tail settledLater (by omega)
      rw [writtenBetween_cons fuel t rest _ whole smaller]
      rw [Legible, LegibleBefore, Option.or_none] at legible ⊢
      exact ⟨⟨legible.1, asked t legible.2.1 fits, written⟩, fun u fitsBefore _ => fitsBefore⟩
    cases passes with
    | done => omega
    | token t rest after _ onward =>
      refine keep t rest after rfl (Or.inr onward.sizeAll_le) onward settled.tail ?_
      rw [Legible, LegibleBefore, Option.or_none] at settled
      exact settled.2.1
    | into body rest _ _ onward =>
      by_cases inside : sizeAll rest < sizeAll last
      · rw [sizeAll, Token.size] at enough
        obtain ⟨written, _⟩ := ih (body ++ rest) passed onward legible.dissolve settled
          (by rw [Token.sizeAll_append]; omega)
        rw [writtenBetween_invisible fuel body rest _ smaller, if_pos inside]
        exact ⟨written, fun u fits _ => fits.of_group _⟩
      · obtain ⟨before, after, rfl, later⟩ := onward.split (Nat.not_lt.mp inside)
        exact keep _ rest after rfl (Or.inr (Nat.not_lt.mp inside)) later
          settled.of_append_right trivial

/-- How a parser stands behind the tokens that it has passed. -/
inductive Footing
  /-- They ask for nothing. -/
  | firm
  /-- They may ask for the next token, as a joint slash does. -/
  | loose

def Footing.next : Footing → Tokens → Option Token
  | firm, _ => none
  | loose, rest => rest.head?

/-- Legible tokens were passed on the way, as far as the parser has come. -/
structure Leaves (footing : Footing) (start rest : Tokens) : Prop where
  legible : Legible start
  passed : ∃ passed, Passes start passed rest ∧ LegibleBefore (footing.next rest) passed

variable {footing : Footing}

theorem leaves_start (footing : Footing) (legible : Legible start) :
    Leaves footing start start := by
  exact ⟨legible, [], .done start, LegibleBefore.mono Token.legible_nil _⟩

theorem Leaves.rest_legible (leaves : Leaves footing start rest) : Legible rest := by
  obtain ⟨legible, _, passes, _⟩ := leaves
  exact passes.legible legible

theorem Leaves.weaken (leaves : Leaves .firm start rest) (footing : Footing) :
    Leaves footing start rest := by
  obtain ⟨legible, passed, passes, settled⟩ := leaves
  exact ⟨legible, passed, passes, LegibleBefore.mono settled _⟩

theorem Leaves.trans (first : Leaves .firm start middle) (second : Leaves footing middle rest) :
    Leaves footing start rest := by
  obtain ⟨legible, before, passes, settled⟩ := first
  obtain ⟨-, after, onward, fits⟩ := second
  refine ⟨legible, before ++ after, passes.trans onward, ?_⟩
  exact (Token.legibleBefore_append_iff _ _ _).mpr ⟨LegibleBefore.mono settled _, fits⟩

/-- Opening groups asks for nothing, and no token asks for a group. -/
theorem Leaves.enter (leaves : Leaves footing start middle) (passes : Passes middle [] rest) :
    Leaves footing start rest := by
  obtain ⟨legible, passed, before, fits⟩ := leaves
  have whole := before.trans passes
  rw [List.append_nil] at whole
  refine ⟨legible, passed, whole, ?_⟩
  cases passes with
  | done => exact fits
  | into body more _ _ onward =>
    cases footing with
    | firm => exact fits
    | loose => exact LegibleBefore.mono (LegibleBefore.of_group fits) _

theorem Leaves.opened (leaves : Leaves footing start rest) :
    Leaves footing start (opened rest) := leaves.enter (passes_opened rest)

variable {t : Token}

theorem Leaves.isLegible (leaves : Leaves footing start (t :: rest)) : t.IsLegible := by
  have legible := leaves.rest_legible
  rw [Legible, LegibleBefore] at legible
  exact legible.1

theorem Leaves.fits (leaves : Leaves footing start (t :: rest)) : t.FitsBefore rest.head? := by
  have legible := leaves.rest_legible
  rw [Legible, LegibleBefore, Option.or_none] at legible
  exact legible.2.1

theorem Leaves.pass (leaves : Leaves footing start (t :: rest)) (other : Footing)
    (fits : t.FitsBefore (other.next rest)) : Leaves other start rest := by
  have known := leaves.isLegible
  obtain ⟨legible, passed, passes, before⟩ := leaves
  refine ⟨legible, passed ++ [t], passes.trans (.token t rest [] rest (.done rest)), ?_⟩
  rw [Token.legibleBefore_append_iff, LegibleBefore, LegibleBefore]
  refine ⟨?_, known, fits, trivial⟩
  cases footing with
  | firm => exact LegibleBefore.mono before _
  | loose => exact before

/-- Any token can be passed if what comes next is looked at. -/
theorem Leaves.step (leaves : Leaves footing start (t :: rest)) : Leaves .loose start rest :=
  leaves.pass .loose leaves.fits

theorem Leaves.legible_written (leaves : Leaves .firm start rest) :
    Legible (writtenBetween (sizeAll start) start (sizeAll rest)) := by
  obtain ⟨legible, passed, passes, settled⟩ := leaves
  exact (legible_writtenBetween _ start passed passes legible settled (Nat.le_refl _)).1

end Parser

end ClassExpansion
