import ClassExpansion.Class.TypeText

set_option autoImplicit false

/- Leaving out blanks, piece by piece. A piece that does not end in a blank is dealt with apart from
what follows it, and a piece without blanks stays as it is. -/
namespace ClassExpansion.TypeText

/-- The text ends, or goes on with a blank or a character that no blank stands before. -/
def Stops (text : List Char) : Prop := ∀ c ∈ text.head?, c = ' ' ∨ c ∈ gluesLeft

/-- What is written after a token that is not joint: nothing, a blank, or the end of a group. -/
def IsGap (text : List Char) : Prop := ∀ c ∈ text.head?, c = ' ' ∨ c = ')' ∨ c = ']'

theorem stops_nil : Stops [] := nofun

theorem isGap_nil : IsGap [] := nofun

theorem isGap_blank (text : List Char) : IsGap (' ' :: text) := by
  intro c first
  cases first
  exact Or.inl rfl

/-- Whether the character is a blank that is left out between `before` and `next`. -/
def isLeftOut (before : Option Char) (c : Char) (next : Option Char) : Bool :=
  c = ' ' && (before.any gluesRight.contains || next.any gluesLeft.contains)

theorem glue_cons (before : Option Char) (c : Char) (rest : List Char) :
    glue before (c :: rest) =
      (if isLeftOut before c rest.head? then [] else [c]) ++ glue (some c) rest := by
  rw [glue]
  change (if isLeftOut before c rest.head? = true then _ else _) = _
  split <;> rfl

theorem glue_cons_of_ne (before : Option Char) (c : Char) (rest : List Char) (visible : c ≠ ' ') :
    glue before (c :: rest) = c :: glue (some c) rest := by
  have kept : isLeftOut before c rest.head? = false := by
    rw [isLeftOut, decide_eq_false visible, Bool.false_and]
  rw [glue_cons, kept]
  rfl

/-- A blank is left out or not, and the character after it has a blank before it all the same. -/
theorem glue_blank (before : Option Char) (rest : List Char) :
    glue before (' ' :: rest) = glue (some ' ') rest ∨
      glue before (' ' :: rest) = ' ' :: glue (some ' ') rest := by
  rw [glue_cons]
  split
  · exact Or.inl rfl
  · exact Or.inr rfl

/-- Only the last character of a piece decides about what follows it. -/
theorem glue_append (before : Option Char) (a b : List Char) (solid : a.getLast? ≠ some ' ') :
    glue before (a ++ b) = glue before a ++ glue (a.getLast?.or before) b := by
  induction a generalizing before with
  | nil => rfl
  | cons c rest ih =>
    cases rest with
    | nil =>
      have visible : c ≠ ' ' := fun is => solid (congrArg some is)
      rw [List.singleton_append, glue_cons_of_ne before c b visible,
        glue_cons_of_ne before c [] visible]
      rfl
    | cons d more =>
      rw [List.getLast?_cons_cons] at solid ⊢
      have onward := ih (some c) solid
      rw [List.getLast?_cons, Option.some_or] at onward ⊢
      rw [List.cons_append, glue_cons, glue_cons, onward, List.append_assoc]
      rfl

theorem glue_of_not_mem (before : Option Char) (text : List Char) (solid : ' ' ∉ text) :
    glue before text = text := by
  induction text generalizing before with
  | nil => rfl
  | cons c rest ih =>
    rw [List.mem_cons, not_or] at solid
    rw [glue_cons_of_ne before c rest (Ne.symm solid.1), ih _ solid.2]

theorem getLast?_ne_of_not_mem {c : Char} {text : List Char} (missing : c ∉ text) :
    text.getLast? ≠ some c := fun ends => missing (List.mem_of_getLast? ends)

theorem glue_append_of_not_mem (before : Option Char) (a b : List Char) (solid : ' ' ∉ a) :
    glue before (a ++ b) = a ++ glue (a.getLast?.or before) b := by
  rw [glue_append before a b (getLast?_ne_of_not_mem solid), glue_of_not_mem before a solid]

theorem stops_cons_of_mem (c : Char) (text : List Char) (sign : c ∈ gluesLeft) :
    Stops (c :: text) := by
  intro d first
  cases first
  exact Or.inr sign

theorem stops_blank (text : List Char) : Stops (' ' :: text) := by
  intro d first
  cases first
  exact Or.inl rfl

/-- What comes after a gap is not brought next to the token before it, a sign or an end apart. -/
theorem stops_glue (c : Char) (text : List Char) (gap : IsGap text) (loose : c ∉ gluesRight) :
    Stops (glue (some c) text) := by
  cases text with
  | nil => exact stops_nil
  | cons d rest =>
    rcases gap d rfl with rfl | close
    · rw [glue_cons]
      split
      · next out =>
        -- The blank is left out because of what comes after it.
        have notBefore : gluesRight.contains c = false := by
          rw [← Bool.not_eq_true, List.contains_iff_mem]
          exact loose
        rw [isLeftOut, decide_eq_true rfl, Bool.true_and, Option.any_some, notBefore,
          Bool.false_or] at out
        cases rest with
        | nil => cases out
        | cons e more =>
          have sign : e ∈ gluesLeft := List.contains_iff_mem.mp out
          have visible : e ≠ ' ' := by
            rintro rfl
            exact absurd sign (by decide)
          rw [List.nil_append, glue_cons_of_ne _ e more visible]
          exact stops_cons_of_mem e _ sign
      · exact stops_blank _
    · have visible : d ≠ ' ' := by rcases close with rfl | rfl <;> decide
      have sign : d ∈ gluesLeft := by rcases close with rfl | rfl <;> decide
      rw [glue_cons_of_ne _ d rest visible]
      exact stops_cons_of_mem d _ sign

end ClassExpansion.TypeText
