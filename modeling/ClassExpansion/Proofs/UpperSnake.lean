import ClassExpansion.Class.Name
import ClassExpansion.Text.UpperSnake
import Mathlib.Tactic.Tauto

set_option autoImplicit false

/- The UPPER_SNAKE form of a name is a name. Words are parted by underscores, and the capital and
small forms of an identifier character are identifier characters again. -/
namespace ClassExpansion.Text

/-- Every code point from `low` to `high` is a character beyond ASCII. -/
def isSpan (low high : Nat) : Bool :=
  128 ≤ low && (high < 0xd800 || (0xe000 ≤ low && high < 0x110000))

theorem toNat_ofNat_of_isSpan (low high n : Nat) (span : isSpan low high = true)
    (lower : low ≤ n) (upper : n ≤ high) : (Char.ofNat n).toNat = n ∧ 128 ≤ n := by
  simp only [isSpan, Bool.and_eq_true, Bool.or_eq_true, decide_eq_true_eq] at span
  have valid : n.isValidChar := by
    unfold Nat.isValidChar
    omega
  have opened : Char.ofNat n = Char.ofNatAux n valid := dif_pos valid
  constructor
  · rw [opened]
    rfl
  · omega

namespace CodeSet

/-- One of the intervals holds all code points from `low` to `high`. -/
def covers (set : CodeSet) (low high : Nat) : Bool :=
  set.intervals.any fun i => Nat.ble i.1 low && Nat.ble high i.2

theorem contains_of_covers (set : CodeSet) (low high : Nat) (covers : set.covers low high = true)
    (c : Char) (lower : low ≤ c.toNat) (upper : c.toNat ≤ high) : set.contains c = true := by
  obtain ⟨i, member, within⟩ := List.any_eq_true.mp covers
  rw [Bool.and_eq_true, Nat.ble_eq, Nat.ble_eq] at within
  exact (set.contains_iff c).mpr ⟨i, member, by omega, by omega⟩

/-- No interval has a code point from `low` to `high`. -/
def misses (set : CodeSet) (low high : Nat) : Bool :=
  set.intervals.all fun i => Nat.blt high i.1 || Nat.blt i.2 low

theorem contains_of_misses (set : CodeSet) (low high : Nat) (misses : set.misses low high = true)
    (c : Char) (lower : low ≤ c.toNat) (upper : c.toNat ≤ high) : set.contains c = false := by
  rw [← Bool.not_eq_true, contains_iff]
  intro ⟨i, member, within⟩
  have apart := List.all_eq_true.mp misses i member
  rw [Bool.or_eq_true, Nat.blt_eq, Nat.blt_eq] at apart
  omega

end CodeSet

namespace CaseRun

/-- All code points that the run sends to others are of no use in identifiers. -/
def isForeign (run : CaseRun) : Bool :=
  128 ≤ run.first && startSet.misses run.first run.last && continueSet.misses run.first run.last

/-- All images of the run are start characters. -/
def reachesStarts (run : CaseRun) : Bool :=
  let high := run.target + (run.last - run.first)
  isSpan run.target high && startSet.covers run.target high

/-- No identifier character is sent to anything but a start character. Most runs go into a single
interval of start characters; of a few the code points are tried one by one. -/
def keepsNames (run : CaseRun) : Bool :=
  run.reachesStarts || run.isForeign ||
    (List.range' run.first (run.last - run.first + 1)).all fun n =>
      (run.image? n).all fun m => isIdentStart (Char.ofNat m)

theorem image?_eq_some (run : CaseRun) (n m : Nat) (image : run.image? n = some m) :
    (run.first ≤ n ∧ n ≤ run.last) ∧ m = run.target + (n - run.first) := by
  unfold image? at image
  split at image
  · next inside =>
    cases image
    exact ⟨⟨inside.1, inside.2.1⟩, rfl⟩
  · cases image

theorem isIdentContinue_of_isForeign (run : CaseRun) (isForeign : run.isForeign = true) (c : Char)
    (lower : run.first ≤ c.toNat) (upper : c.toNat ≤ run.last) : isIdentContinue c = false := by
  unfold CaseRun.isForeign at isForeign
  rw [Bool.and_eq_true, Bool.and_eq_true, decide_eq_true_eq] at isForeign
  obtain ⟨⟨large, noStart⟩, noContinue⟩ := isForeign
  unfold isIdentContinue
  rw [if_neg (by omega), startSet.contains_of_misses _ _ noStart c lower upper,
    continueSet.contains_of_misses _ _ noContinue c lower upper]
  rfl

theorem isIdentStart_image (run : CaseRun) (keeps : run.keepsNames = true) (c : Char) (m : Nat)
    (part : isIdentContinue c = true) (image : run.image? c.toNat = some m) :
    isIdentStart (Char.ofNat m) = true := by
  obtain ⟨inside, same⟩ := run.image?_eq_some c.toNat m image
  unfold keepsNames at keeps
  rw [Bool.or_eq_true, Bool.or_eq_true] at keeps
  rcases keeps with (whole | isForeign) | each
  · obtain ⟨span, covers⟩ := (Bool.and_eq_true _ _).mp whole
    obtain ⟨code, large⟩ := toNat_ofNat_of_isSpan _ _ m span (by omega) (by omega)
    have member := startSet.contains_of_covers _ _ covers (Char.ofNat m) (by omega) (by omega)
    unfold isIdentStart
    rw [if_neg (by omega), member]
  · rw [run.isIdentContinue_of_isForeign isForeign c inside.1 inside.2] at part
    cases part
  · have listed : c.toNat ∈ List.range' run.first (run.last - run.first + 1) :=
      List.mem_range'_1.mpr (by omega)
    have kept := List.all_eq_true.mp each c.toNat listed
    rw [image] at kept
    exact kept

end CaseRun

/-- What comes in place of an identifier character is the character itself, or a name. -/
def KeepsNames (form : Char → List Char) : Prop :=
  ∀ c, isIdentContinue c = true → form c = [c] ∨ isIdentText (form c) = true

theorem CaseMap.keepsNames_apply (map : CaseMap)
    (runs : map.runs.all CaseRun.keepsNames = true)
    (expansions : (map.expansions.all fun e => isIdentText e.2) = true) :
    KeepsNames map.apply := by
  intro c part
  unfold CaseMap.apply
  split
  · next form found =>
    obtain ⟨front, back, split, _⟩ := List.lookup_eq_some_iff.mp found
    have member : (c.toNat, form) ∈ map.expansions := by
      rw [split]
      exact List.mem_append_right _ List.mem_cons_self
    exact Or.inr (List.all_eq_true.mp expansions _ member)
  · split
    · next m found =>
      obtain ⟨run, member, image⟩ := List.exists_of_findSome?_eq_some found
      have keeps := List.all_eq_true.mp runs run member
      have start := run.isIdentStart_image keeps c m part image
      exact Or.inr (by simp [isIdentText, start])
    · exact Or.inl rfl

theorem keepsNames_of_ascii (form : Char → List Char) (beyond : CaseMap)
    (keeps : KeepsNames beyond.apply)
    (ascii : ∀ n < 128, isIdentContinue (Char.ofNat n) = true →
      form (Char.ofNat n) = [Char.ofNat n] ∨ isIdentText (form (Char.ofNat n)) = true)
    (large : ∀ c, 128 ≤ c.toNat → form c = beyond.apply c) : KeepsNames form := by
  intro c part
  by_cases small : c.toNat < 128
  · have kept := ascii c.toNat small
    rw [Char.ofNat_toNat] at kept
    exact kept part
  · rw [large c (by omega)]
    exact keeps c part

set_option maxRecDepth 100000 in
theorem keepsNames_upperForm : KeepsNames upperForm := by
  apply keepsNames_of_ascii upperForm upperMap
  · exact upperMap.keepsNames_apply (by decide +kernel) (by decide +kernel)
  · decide +kernel
  · intro c large
    exact if_neg (by omega)

set_option maxRecDepth 100000 in
theorem keepsNames_lowerForm : KeepsNames lowerForm := by
  apply keepsNames_of_ascii lowerForm lowerMap
  · exact lowerMap.keepsNames_apply (by decide +kernel) (by decide +kernel)
  · decide +kernel
  · intro c large
    exact if_neg (by omega)

/-- The text begins with a start character and goes on with identifier characters. -/
theorem isIdentText_iff (text : List Char) :
    isIdentText text = true ↔
      (∃ c ∈ text.head?, isIdentStart c = true) ∧ ∀ c ∈ text, isIdentContinue c = true := by
  cases text with
  | nil => simp [isIdentText]
  | cons c rest =>
    have first := isIdentContinue_of_isIdentStart c
    simp only [isIdentText, Bool.and_eq_true, List.all_eq_true, List.head?_cons, Option.mem_def,
      Option.some.injEq, exists_eq_left', List.mem_cons, forall_eq_or_imp]
    tauto

theorem isIdentText_flatMap (form : Char → List Char) (keeps : KeepsNames form)
    (text : List Char) (named : isIdentText text = true) :
    isIdentText (text.flatMap form) = true := by
  obtain ⟨⟨c, isFirst, start⟩, each⟩ := (isIdentText_iff text).mp named
  obtain ⟨rest, rfl⟩ := List.head?_eq_some_iff.mp isFirst
  have part := isIdentContinue_of_isIdentStart c start
  rw [isIdentText_iff]
  constructor
  · -- The form of the first character decides how the whole begins.
    rw [List.flatMap_cons]
    rcases keeps c part with same | isText
    · rw [same]
      exact ⟨c, rfl, start⟩
    · obtain ⟨⟨d, isHead, startsWith⟩, _⟩ := (isIdentText_iff _).mp isText
      refine ⟨d, ?_, startsWith⟩
      rw [List.head?_append, isHead]
      rfl
  · intro d inForms
    obtain ⟨e, member, inForm⟩ := List.mem_flatMap.mp inForms
    rcases keeps e (each e member) with same | isText
    · rw [same, List.mem_singleton] at inForm
      exact inForm ▸ each e member
    · exact ((isIdentText_iff _).mp isText).2 d inForm

/-- The words with underscores between them. -/
def joined (words : List (List Char)) : List Char := (words.intersperse ['_']).flatten

theorem joined_cons (word : List Char) (more : List (List Char)) (nonempty : more ≠ []) :
    joined (word :: more) = word ++ '_' :: joined more := by
  obtain ⟨next, rest, rfl⟩ := List.exists_cons_of_ne_nil nonempty
  simp [joined]

theorem words_ne_nil (word : List Char) (ks : List Cluster) : words word ks ≠ [] := by
  induction ks generalizing word with
  | nil => exact List.cons_ne_nil _ _
  | cons k rest ih =>
    unfold words
    split
    · exact List.cons_ne_nil _ _
    · split
      · exact List.cons_ne_nil _ _
      · exact ih (word ++ k)

/-- The joined words begin with what is read of the first one. -/
theorem prefix_joined (word : List Char) (ks : List Cluster) : word <+: joined (words word ks) := by
  induction ks generalizing word with
  | nil => simp [words, joined]
  | cons k rest ih =>
    have read := List.prefix_append word k
    unfold words
    split
    · rw [joined_cons word _ (words_ne_nil [] rest)]
      exact List.prefix_append _ _
    · split
      · rw [joined_cons (word ++ k) _ (words_ne_nil [] rest)]
        exact read.trans (List.prefix_append _ _)
      · exact read.trans (ih (word ++ k))

/-- No characters but underscores are added where the words are joined. -/
theorem mem_joined (word : List Char) (ks : List Cluster) (c : Char)
    (member : c ∈ joined (words word ks)) : c = '_' ∨ c ∈ word ∨ c ∈ ks.flatten := by
  induction ks generalizing word with
  | nil =>
    right
    simpa [words, joined] using member
  | cons k rest ih =>
    rw [List.flatten_cons, List.mem_append]
    unfold words at member
    split at member
    · rw [joined_cons word _ (words_ne_nil [] rest), List.mem_append, List.mem_cons] at member
      have known := ih []
      have outside := List.not_mem_nil (a := c)
      tauto
    · split at member
      · rw [joined_cons (word ++ k) _ (words_ne_nil [] rest), List.mem_append, List.mem_append,
          List.mem_cons] at member
        have known := ih []
        have outside := List.not_mem_nil (a := c)
        tauto
      · have known := ih (word ++ k) member
        rw [List.mem_append] at known
        tauto

theorem exists_pushFront (c : Char) (glued : Bool) (rest : List Cluster) :
    ∃ marks others, pushFront c glued rest = (c :: marks) :: others := by
  cases rest with
  | nil => exact ⟨[], [], rfl⟩
  | cons k others =>
    cases glued with
    | false => exact ⟨[], k :: others, rfl⟩
    | true => exact ⟨k, others, rfl⟩

/-- The joined words begin with an underscore or with the first character of the name. -/
theorem head?_joined (c : Char) (rest : List Char) :
    (joined (words [] (clusters (c :: rest)))).head? = some '_' ∨
      (joined (words [] (clusters (c :: rest)))).head? = some c := by
  obtain ⟨marks, others, split⟩ : ∃ marks others, clusters (c :: rest) = (c :: marks) :: others :=
    exists_pushFront c _ _
  rw [split, words]
  split
  · left
    rw [joined_cons [] _ (words_ne_nil [] others)]
    rfl
  · right
    split
    · rw [joined_cons _ _ (words_ne_nil [] others)]
      rfl
    · obtain ⟨more, same⟩ := prefix_joined ([] ++ c :: marks) others
      rw [← same]
      rfl

theorem isIdentText_joined (text : List Char) (named : isIdentText text = true) :
    isIdentText (joined (words [] (clusters text))) = true := by
  obtain ⟨⟨c, isFirst, start⟩, each⟩ := (isIdentText_iff text).mp named
  obtain ⟨rest, rfl⟩ := List.head?_eq_some_iff.mp isFirst
  rw [isIdentText_iff]
  constructor
  · rcases head?_joined c rest with parted | same
    · exact ⟨'_', parted, by decide⟩
    · exact ⟨c, same, start⟩
  · intro d member
    rcases mem_joined [] (clusters (c :: rest)) d member with mark | inNone | inClusters
    · rw [mark]
      decide
    · cases inNone
    · rw [clusters_flatten] at inClusters
      exact each d inClusters

theorem isIdentText_upperSnake (name : String) (named : isIdentText name.toList = true) :
    isIdentText (upperSnake name).toList = true := by
  have parted := isIdentText_joined name.toList named
  have small := isIdentText_flatMap lowerForm keepsNames_lowerForm _ parted
  have large := isIdentText_flatMap upperForm keepsNames_upperForm _ small
  rw [List.flatMap_assoc] at large
  rw [upperSnake, String.toList_ofList]
  exact large

end ClassExpansion.Text

namespace ClassExpansion.Name

/-- The mark of a raw name is no part of a name. -/
theorem isUsable_of_isIdentText (text : String) (named : Text.isIdentText text.toList = true) :
    isUsable text = true := by
  unfold isUsable
  split
  · next rest marked =>
    obtain ⟨_, each⟩ := (Text.isIdentText_iff _).mp named
    have hash := each '#' (by rw [marked]; simp)
    exact absurd hash (by decide)
  · exact named

theorem isIdentText_unraw (name : String) (usable : isUsable name = true) :
    Text.isIdentText (unraw name).toList = true := by
  unfold isUsable at usable
  unfold unraw
  split at usable
  · rw [Bool.and_eq_true] at usable
    rw [String.toList_ofList]
    exact usable.1
  · exact usable

end ClassExpansion.Name
