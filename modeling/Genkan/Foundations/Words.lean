import Genkan.Foundations.Text
import Mathlib.Data.List.Chain

/-! # Words and the spaces between them

Splitting at whitespace, writing words with one space after each, and the texts in which nothing is
left to normalize: they are the ones that come back when their words are written again.
-/

namespace Foundations.Text

/-- The characters of the general category `Cc`. -/
def isControl (character : Char) : Bool :=
  let code := character.toNat
  code < 0x20 || (0x7F ≤ code && code ≤ 0x9F)

def splitWhitespace (text : List Char) : List (List Char) :=
  (text.splitOnP isWhitespace).filter fun word => !word.isEmpty

def trimEnd (text : List Char) : List Char := text.rdropWhile isWhitespace

/-- Every word is followed by a space. -/
def spaced (words : List (List Char)) : List Char := words.flatMap (· ++ [' '])

def Unspaced (word : List Char) : Prop := ∀ character ∈ word, isWhitespace character = false

@[simp] theorem Unspaced.nil : Unspaced [] := by
  intro character isIn
  cases isIn

theorem isWhitespace_space : isWhitespace ' ' = true := by decide

@[simp] theorem spaced_nil : spaced [] = [] := rfl

@[simp] theorem spaced_cons (word : List Char) (words : List (List Char)) :
    spaced (word :: words) = word ++ ' ' :: spaced words := by
  simp [spaced]

/-! ## The words of a text -/

theorem Unspaced.of_mem_splitOnP {text word : List Char} (member : word ∈ text.splitOnP isWhitespace) :
    Unspaced word := by
  induction text generalizing word with
  | nil =>
    rw [List.splitOnP_nil, List.mem_singleton] at member
    exact member ▸ Unspaced.nil
  | cons first rest inductionHypothesis =>
    rw [List.splitOnP_cons_eq_if_modifyHead] at member
    by_cases space : isWhitespace first
    · rw [if_pos space, List.mem_cons] at member
      cases member with
      | inl empty => exact empty ▸ Unspaced.nil
      | inr later => exact inductionHypothesis later
    · rw [if_neg space] at member
      cases words : rest.splitOnP isWhitespace with
      | nil => exact absurd words (List.splitOnP_ne_nil _ _)
      | cons head tail =>
        rw [words, List.modifyHead_cons, List.mem_cons] at member
        cases member with
        | inl isHead =>
          subst isHead
          intro character isIn
          cases isIn with
          | head => simpa using space
          | tail _ isIn => exact inductionHypothesis (words ▸ List.mem_cons_self) character isIn
        | inr later => exact inductionHypothesis (words ▸ List.mem_cons_of_mem _ later)

theorem Unspaced.of_mem_splitWhitespace {text word : List Char} (member : word ∈ splitWhitespace text) :
    Unspaced word :=
  .of_mem_splitOnP (List.mem_filter.mp member).1

theorem splitWhitespace_word {word : List Char} (unspaced : Unspaced word) (nonempty : word ≠ []) :
    splitWhitespace word = [word] := by
  simp [splitWhitespace, List.splitOnP_eq_singleton unspaced, nonempty]

theorem splitWhitespace_append {word : List Char} (unspaced : Unspaced word) (nonempty : word ≠ [])
    (rest : List Char) : splitWhitespace (word ++ ' ' :: rest) = word :: splitWhitespace rest := by
  rw [splitWhitespace, List.splitOnP_append_cons_of_forall_mem unspaced ' ' isWhitespace_space rest,
    List.filter_cons_of_pos (by simpa using nonempty)]
  rfl

/-! ## Trimming -/

theorem trimEnd_append (left right : List Char) :
    trimEnd (left ++ right) = if trimEnd right = [] then trimEnd left else left ++ trimEnd right := by
  simp only [trimEnd, List.rdropWhile, List.reverse_append, List.dropWhile_append, List.isEmpty_iff,
    List.reverse_eq_nil_iff]
  by_cases blank : right.reverse.dropWhile isWhitespace = []
  · simp [blank]
  · simp [blank]

theorem trimEnd_of_unspaced {word : List Char} (unspaced : Unspaced word) : trimEnd word = word := by
  rw [trimEnd, List.rdropWhile_eq_self_iff]
  intro nonempty
  simpa using unspaced _ (List.getLast_mem nonempty)

theorem trimEnd_space (rest : List Char) :
    trimEnd (' ' :: rest) = if trimEnd rest = [] then [] else ' ' :: trimEnd rest :=
  trimEnd_append [' '] rest

theorem trimEnd_word_space {word : List Char} (unspaced : Unspaced word) (rest : List Char) :
    trimEnd (word ++ ' ' :: rest) = if trimEnd rest = [] then word else word ++ ' ' :: trimEnd rest := by
  rw [trimEnd_append, trimEnd_space]
  by_cases blank : trimEnd rest = []
  · simp [blank, trimEnd_of_unspaced unspaced]
  · simp [blank]

/-! ## Texts without superfluous spaces -/

structure Tidy (text : List Char) : Prop where
  start : ∀ character ∈ text.head?, isWhitespace character = false
  finish : ∀ character ∈ text.getLast?, isWhitespace character = false
  single : text.IsChain fun left right => ¬ (left = ' ' ∧ right = ' ')

theorem Tidy.of_unspaced {word : List Char} (unspaced : Unspaced word) : Tidy word where
  start := fun _ isFirst => unspaced _ (List.mem_of_mem_head? isFirst)
  finish := fun _ isLast => unspaced _ (List.mem_of_mem_getLast? isLast)
  single := by
    refine List.Pairwise.isChain (List.pairwise_iff_forall_sublist.mpr ?_)
    intro left right sublist ⟨isSpace, _⟩
    subst isSpace
    have letter := unspaced _ (sublist.subset List.mem_cons_self)
    rw [isWhitespace_space] at letter
    cases letter

/-- The space is the only whitespace of the text. -/
def OnlySpaces (text : List Char) : Prop := ∀ character ∈ text, isWhitespace character = true → character = ' '

theorem OnlySpaces.of_subset {text part : List Char} (only : OnlySpaces text) (subset : part ⊆ text) :
    OnlySpaces part :=
  fun character isIn => only character (subset isIn)

theorem OnlySpaces.spaced {words : List (List Char)} (unspaced : ∀ word ∈ words, Unspaced word) :
    OnlySpaces (spaced words) := by
  intro character isIn space
  obtain ⟨word, isWord, isIn⟩ := List.mem_flatMap.mp isIn
  cases List.mem_append.mp isIn with
  | inl isLetter =>
    rw [unspaced word isWord character isLetter] at space
    cases space
  | inr isSpace => exact List.mem_singleton.mp isSpace

theorem Tidy.append {word rest : List Char} (unspaced : Unspaced word) (nonempty : word ≠ [])
    (continued : rest ≠ []) (tidy : Tidy rest) : Tidy (word ++ ' ' :: rest) where
  start := by
    obtain ⟨first, letters, rfl⟩ := List.exists_cons_of_ne_nil nonempty
    intro character isFirst
    cases isFirst
    exact unspaced first List.mem_cons_self
  finish := by
    obtain ⟨next, others, rfl⟩ := List.exists_cons_of_ne_nil continued
    intro character isLast
    rw [List.getLast?_append, List.getLast?_cons_cons, List.getLast?_cons, Option.some_or] at isLast
    exact tidy.finish character (by rwa [List.getLast?_cons])
  single := by
    obtain ⟨next, others, rfl⟩ := List.exists_cons_of_ne_nil continued
    refine List.isChain_append.mpr ⟨(Tidy.of_unspaced unspaced).single, ?_, ?_⟩
    · refine List.isChain_cons_cons.mpr ⟨?_, tidy.single⟩
      intro ⟨_, isSpace⟩
      have letter := tidy.start next rfl
      rw [isSpace, isWhitespace_space] at letter
      cases letter
    · intro last isLast space _ ⟨isSpace, _⟩
      have letter := unspaced last (List.mem_of_mem_getLast? isLast)
      rw [isSpace, isWhitespace_space] at letter
      cases letter

theorem Tidy.of_append {word rest : List Char} (only : OnlySpaces rest) (continued : rest ≠ [])
    (tidy : Tidy (word ++ ' ' :: rest)) : Tidy rest where
  start := by
    obtain ⟨next, others, rfl⟩ := List.exists_cons_of_ne_nil continued
    intro character isNext
    cases isNext
    have separate := (List.isChain_cons_cons.mp (List.isChain_append.mp tidy.single).2.1).1
    by_contra space
    exact separate ⟨rfl, only next List.mem_cons_self (by simpa using space)⟩
  finish := by
    obtain ⟨next, others, rfl⟩ := List.exists_cons_of_ne_nil continued
    intro character isLast
    apply tidy.finish character
    rw [List.getLast?_append, List.getLast?_cons_cons, isLast]
    rfl
  single := (List.isChain_append.mp tidy.single).2.1.of_cons

/-- A text is one word, or its first word ends at a whitespace. -/
theorem first_word (text : List Char) :
    Unspaced text ∨ ∃ word space rest, text = word ++ space :: rest ∧ Unspaced word ∧
      isWhitespace space = true := by
  induction text with
  | nil => exact .inl Unspaced.nil
  | cons first rest inductionHypothesis =>
    by_cases space : isWhitespace first = true
    · exact .inr ⟨[], first, rest, rfl, Unspaced.nil, space⟩
    · have grow : ∀ word, Unspaced word → Unspaced (first :: word) := by
        intro word unspaced character isIn
        cases isIn with
        | head => simpa using space
        | tail _ isIn => exact unspaced character isIn
      cases inductionHypothesis with
      | inl unspaced => exact .inl (grow rest unspaced)
      | inr split =>
        obtain ⟨word, space, others, isRest, unspaced, isSpace⟩ := split
        exact .inr ⟨first :: word, space, others, by rw [isRest, List.cons_append], grow word unspaced, isSpace⟩

/-- A text without superfluous spaces is made of its words. -/
theorem Tidy.spaced_splitWhitespace {text : List Char} (tidy : Tidy text) (only : OnlySpaces text)
    (nonempty : text ≠ []) : spaced (splitWhitespace text) = text ++ [' '] := by
  induction isLength : text.length using Nat.strong_induction_on generalizing text with
  | h length inductionHypothesis =>
    cases first_word text with
    | inl unspaced => rw [splitWhitespace_word unspaced nonempty, spaced_cons, spaced_nil]
    | inr split =>
      obtain ⟨word, space, rest, isText, unspaced, isSpace⟩ := split
      subst isText
      obtain rfl : space = ' ' := only space (by simp) isSpace
      have wordNonempty : word ≠ [] := by
        intro empty
        subst empty
        rw [tidy.start ' ' rfl] at isSpace
        cases isSpace
      have continued : rest ≠ [] := by
        intro empty
        subst empty
        rw [tidy.finish ' ' (by simp)] at isSpace
        cases isSpace
      have onlyRest : OnlySpaces rest := fun character isIn => only character (by simp [isIn])
      have shorter : rest.length < length := by
        simp only [List.length_append, List.length_cons] at isLength
        omega
      rw [splitWhitespace_append unspaced wordNonempty, spaced_cons,
        inductionHypothesis _ shorter (tidy.of_append onlyRest continued) onlyRest continued rfl,
        List.append_assoc, List.cons_append]

/-! ## Joining the words again -/

/-- The words of a text with one space between them. -/
def normalized (text : List Char) : List Char := [' '].intercalate (splitWhitespace text)

/-- Words that come back when the text that they are joined to is split. -/
structure Words (words : List (List Char)) : Prop where
  unspaced : ∀ word ∈ words, Unspaced word
  nonempty : ∀ word ∈ words, word ≠ []

theorem Words.of_splitWhitespace (text : List Char) : Words (splitWhitespace text) where
  unspaced := fun _ isWord => .of_mem_splitWhitespace isWord
  nonempty := fun _ isWord => by simpa using (List.mem_filter.mp isWord).2

theorem Words.of_cons {word : List Char} {words : List (List Char)} (all : Words (word :: words)) : Words words where
  unspaced := fun other isWord => all.unspaced other (List.mem_cons_of_mem _ isWord)
  nonempty := fun other isWord => all.nonempty other (List.mem_cons_of_mem _ isWord)

theorem intercalate_words (word next : List Char) (words : List (List Char)) :
    [' '].intercalate (word :: next :: words) = word ++ ' ' :: [' '].intercalate (next :: words) := by
  rw [List.intercalate_cons_cons, List.append_assoc, List.singleton_append]

theorem Words.splitWhitespace_intercalate {words : List (List Char)} (all : Words words) :
    splitWhitespace ([' '].intercalate words) = words := by
  induction words with
  | nil => rfl
  | cons word words inductionHypothesis =>
    have unspaced : Unspaced word := all.unspaced word List.mem_cons_self
    have nonempty : word ≠ [] := all.nonempty word List.mem_cons_self
    cases words with
    | nil => rw [List.intercalate_singleton, splitWhitespace_word unspaced nonempty]
    | cons next words =>
      rw [intercalate_words, splitWhitespace_append unspaced nonempty, inductionHypothesis all.of_cons]

theorem Words.tidy_intercalate {words : List (List Char)} (all : Words words) : Tidy ([' '].intercalate words) := by
  induction words with
  | nil => exact .of_unspaced Unspaced.nil
  | cons word words inductionHypothesis =>
    have unspaced : Unspaced word := all.unspaced word List.mem_cons_self
    have nonempty : word ≠ [] := all.nonempty word List.mem_cons_self
    cases words with
    | nil =>
      rw [List.intercalate_singleton]
      exact .of_unspaced unspaced
    | cons next words =>
      rw [intercalate_words]
      refine .append unspaced nonempty ?_ (inductionHypothesis all.of_cons)
      intro empty
      have split := all.of_cons.splitWhitespace_intercalate
      rw [empty] at split
      cases split

theorem Words.onlySpaces_intercalate {words : List (List Char)} (all : Words words) :
    OnlySpaces ([' '].intercalate words) := by
  intro character isIn space
  induction words with
  | nil => cases isIn
  | cons word words inductionHypothesis =>
    have letters : character ∉ word := by
      intro isLetter
      rw [all.unspaced word List.mem_cons_self character isLetter] at space
      cases space
    cases words with
    | nil =>
      rw [List.intercalate_singleton] at isIn
      exact absurd isIn letters
    | cons next words =>
      rw [intercalate_words, List.mem_append, List.mem_cons] at isIn
      rcases isIn with isLetter | isSpace | later
      · exact absurd isLetter letters
      · exact isSpace
      · exact inductionHypothesis all.of_cons later

/-- The line has the words of the text and nothing left to normalize. -/
structure Normalizes (text line : List Char) : Prop where
  words : splitWhitespace line = splitWhitespace text
  tidy : Tidy line
  onlySpaces : OnlySpaces line

theorem normalizes_normalized (text : List Char) : Normalizes text (normalized text) where
  words := (Words.of_splitWhitespace text).splitWhitespace_intercalate
  tidy := (Words.of_splitWhitespace text).tidy_intercalate
  onlySpaces := (Words.of_splitWhitespace text).onlySpaces_intercalate

theorem Normalizes.spaced_words {text line : List Char} (normalizes : Normalizes text line) (nonempty : line ≠ []) :
    spaced (splitWhitespace text) = line ++ [' '] := by
  rw [← normalizes.words]
  exact normalizes.tidy.spaced_splitWhitespace normalizes.onlySpaces nonempty

theorem Normalizes.eq_nil_iff {text line : List Char} (normalizes : Normalizes text line) :
    line = [] ↔ splitWhitespace text = [] := by
  constructor
  · intro empty
    rw [← normalizes.words, empty]
    rfl
  · intro wordless
    by_contra nonempty
    have words := normalizes.spaced_words nonempty
    rw [wordless, spaced_nil] at words
    exact List.append_ne_nil_of_right_ne_nil line (List.cons_ne_nil _ _) words.symm

/-- No other line has these words and nothing left to normalize. -/
theorem Normalizes.eq_normalized {text line : List Char} (normalizes : Normalizes text line) :
    line = normalized text := by
  have canonical := normalizes_normalized text
  by_cases wordless : splitWhitespace text = []
  · rw [normalizes.eq_nil_iff.mpr wordless, canonical.eq_nil_iff.mpr wordless]
  · have words := normalizes.spaced_words (mt normalizes.eq_nil_iff.mp wordless)
    rw [canonical.spaced_words (mt canonical.eq_nil_iff.mp wordless)] at words
    exact (List.append_cancel_right words).symm

end Foundations.Text
