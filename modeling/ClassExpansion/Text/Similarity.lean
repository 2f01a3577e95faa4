set_option autoImplicit false

/- The Jaro-Winkler similarity of two words, by which a misspelt name finds the one that was
meant. Letters match if they are equal and not too far apart; letters out of order and a common
beginning count. -/
namespace ClassExpansion.Text

/-- The index of the first unused letter equal to `c` with an index from `low` to `high`. -/
def matchIndex? (c : Char) (low high : Nat) (word : Array Char) (used : Array Bool) : Option Nat :=
  (List.range word.size).find? fun j =>
    low ≤ j && j ≤ high && word[j]? == some c && used[j]? == some false

/-- Which letters of each word have a partner in the other. -/
def partners (a b : Array Char) : Array Bool × Array Bool :=
  let range := max a.size b.size / 2 - 1
  (List.range a.size).foldl (fun (left, right) i =>
    match matchIndex? (a.getD i ' ') (i - range) (i + range) b right with
    | some j => (left.push true, right.set! j true)
    | none => (left.push false, right)) (#[], Array.replicate b.size false)

def chosen (word : Array Char) (flags : Array Bool) : List Char :=
  ((word.toList.zip flags.toList).filter (·.2)).map (·.1)

def jaro (a b : Array Char) : Float :=
  if a.isEmpty && b.isEmpty then 1.0
  else
    let (left, right) := partners a b
    let first := chosen a left
    let second := chosen b right
    if first.isEmpty then 0.0
    else
      let swaps := ((first.zip second).filter fun p => p.1 != p.2).length / 2
      let count := first.length
      (count.toFloat / a.size.toFloat + count.toFloat / b.size.toFloat
        + (count - swaps).toFloat / count.toFloat) / 3.0

/-- The length of the common beginning, at most four. -/
def sharedStart (a b : List Char) : Nat :=
  (((a.take 4).zip b).takeWhile fun p => p.1 == p.2).length

def similarity (a b : String) : Float :=
  let plain := jaro a.toList.toArray b.toList.toArray
  if plain > 0.7 then
    plain + 0.1 * (sharedStart a.toList b.toList).toFloat * (1.0 - plain)
  else plain

/-- The first of the words that are most similar to `word`, if they are similar enough. -/
def closest? (word : String) (words : List String) : Option String :=
  (words.foldl (fun best candidate =>
    let score := similarity word candidate
    match best with
    | some (_, reached) =>
      if score > 0.8 && score > reached then some (candidate, score) else best
    | none => if score > 0.8 then some (candidate, score) else none)
    (none : Option (String × Float))).map (·.1)

end ClassExpansion.Text
