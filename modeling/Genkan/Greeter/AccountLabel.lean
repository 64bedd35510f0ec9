import Genkan.Foundations.Words

/-! # Labels of accounts

A display name is split into words, characters without a shape are dropped, and the rest is cut to a
bound.  The words are separated before the characters are dropped, so a word can vanish and leave its
space behind; what follows says exactly when a label shows such a space.
-/

namespace Genkan.Greeter

open Foundations.Text

def maxLabelChars : Nat := 80

section Labels

-- Whether the general category of a character is `Cf`; the tables of Unicode are not part of the source.
variable (isFormatControl : Char → Bool)

def isVisible (character : Char) : Bool := !isControl character && !isFormatControl character

def presentationLabel (value : List Char) : Option (List Char) :=
  let label := (((splitWhitespace value).flatMap fun word => [word, [' ']]).flatten.filter
    (isVisible isFormatControl)).take maxLabelChars
  let label := trimEnd label
  if label = [] then none else some label

/-- What is left of the words. -/
def visibleWords (value : List Char) : List (List Char) :=
  (splitWhitespace value).map (·.filter (isVisible isFormatControl))

end Labels

/-! ## Cutting a text to a bound -/

def cut (bound : Nat) (words : List (List Char)) : List Char := trimEnd ((spaced words).take bound)

/-- Where the next word starts. -/
def nextStart (words : List (List Char)) : Nat := (spaced words).length

/-- No word that vanished stands before a word that is shown. -/
def NoGap (bound : Nat) (words : List (List Char)) : Prop :=
  ∀ before word after, words = before ++ word :: after → word ≠ [] → nextStart before < bound → [] ∉ before

/-- No word is shown. -/
def Blank (bound : Nat) (words : List (List Char)) : Prop :=
  ∀ before word after, words = before ++ word :: after → nextStart before < bound → word = []

theorem noGap_cons {bound : Nat} {first : List Char} {words : List (List Char)} :
    NoGap bound (first :: words) ↔ ∀ before word after, words = before ++ word :: after → word ≠ [] →
      first.length + 1 + nextStart before < bound → first ≠ [] ∧ [] ∉ before := by
  constructor
  · intro noGap before word after split shown starts
    have absent := noGap (first :: before) word after (by rw [split, List.cons_append]) shown
      (by simp only [nextStart, spaced_cons, List.length_append, List.length_cons] at starts ⊢; omega)
    rw [List.mem_cons, not_or] at absent
    exact ⟨Ne.symm absent.1, absent.2⟩
  · intro noGap before word after split shown starts
    cases before with
    | nil => exact List.not_mem_nil
    | cons head before =>
      rw [List.cons_append, List.cons.injEq] at split
      obtain ⟨isFirst, split⟩ := split
      subst isFirst
      obtain ⟨kept, absent⟩ := noGap before word after split shown
        (by simp only [nextStart, spaced_cons, List.length_append, List.length_cons] at starts ⊢; omega)
      rw [List.mem_cons, not_or]
      exact ⟨Ne.symm kept, absent⟩

theorem blank_cons {bound : Nat} {first : List Char} {words : List (List Char)} :
    Blank bound (first :: words) ↔ (0 < bound → first = []) ∧
      ∀ before word after, words = before ++ word :: after →
        first.length + 1 + nextStart before < bound → word = [] := by
  constructor
  · intro blank
    constructor
    · intro room
      exact blank [] first words rfl room
    · intro before word after split starts
      exact blank (first :: before) word after (by rw [split, List.cons_append])
        (by simp only [nextStart, spaced_cons, List.length_append, List.length_cons] at starts ⊢; omega)
  · intro ⟨blankFirst, blank⟩ before word after split starts
    cases before with
    | nil =>
      rw [List.nil_append, List.cons.injEq] at split
      rw [← split.1]
      exact blankFirst (by simpa [nextStart] using starts)
    | cons head before =>
      rw [List.cons_append, List.cons.injEq] at split
      obtain ⟨isFirst, split⟩ := split
      subst isFirst
      exact blank before word after split
        (by simp only [nextStart, spaced_cons, List.length_append, List.length_cons] at starts ⊢; omega)

theorem NoGap.of_kept {bound : Nat} {words : List (List Char)} (kept : [] ∉ words) : NoGap bound words := by
  intro before word after split _ _ member
  exact kept (by rw [split]; exact List.mem_append_left _ member)

/-! ## What the cut text starts with -/

@[simp] theorem cut_zero (words : List (List Char)) : cut 0 words = [] := rfl

@[simp] theorem cut_nil (bound : Nat) : cut bound [] = [] := by
  simp [cut, trimEnd]

theorem cut_cons_of_le {bound : Nat} {word : List Char} (unspaced : Unspaced word)
    (short : bound ≤ word.length) (words : List (List Char)) : cut bound (word :: words) = word.take bound := by
  rw [cut, spaced_cons, List.take_append_of_le_length short]
  exact trimEnd_of_unspaced fun character isIn => unspaced character (List.mem_of_mem_take isIn)

theorem cut_cons_of_lt {bound : Nat} {word : List Char} (unspaced : Unspaced word)
    (words : List (List Char)) :
    cut (word.length + (bound + 1)) (word :: words) =
      if cut bound words = [] then word else word ++ ' ' :: cut bound words := by
  rw [cut, spaced_cons, List.take_length_add_append, List.take_succ_cons, trimEnd_word_space unspaced]
  rfl

theorem cut_eq_nil_iff {bound : Nat} {words : List (List Char)} (unspaced : ∀ word ∈ words, Unspaced word) :
    cut bound words = [] ↔ Blank bound words := by
  induction words generalizing bound with
  | nil => simp [Blank]
  | cons first words inductionHypothesis =>
    have later := fun word isIn => unspaced word (List.mem_cons_of_mem first isIn)
    rw [blank_cons]
    by_cases short : bound ≤ first.length
    · rw [cut_cons_of_le (unspaced first List.mem_cons_self) short, List.take_eq_nil_iff]
      constructor
      · intro blank
        have empty : bound = 0 := by
          cases blank with
          | inl empty => exact empty
          | inr blank => simpa [blank] using short
        exact ⟨by omega, by omega⟩
      · intro ⟨blank, _⟩
        by_cases room : 0 < bound
        · exact .inr (blank room)
        · exact .inl (by omega)
    · obtain ⟨rest, isBound⟩ := Nat.exists_eq_add_of_lt (Nat.lt_of_not_le short)
      rw [Nat.add_assoc] at isBound
      subst isBound
      rw [cut_cons_of_lt (unspaced first List.mem_cons_self)]
      have others : Blank rest words ↔ ∀ before word after, words = before ++ word :: after →
          first.length + 1 + nextStart before < first.length + (rest + 1) → word = [] := by
        refine forall₄_congr fun before word after split => ?_
        rw [show first.length + 1 + nextStart before < first.length + (rest + 1) ↔ nextStart before < rest by omega]
      rw [← others, ← inductionHypothesis later]
      by_cases blank : cut rest words = []
      · simp only [blank, if_true, and_true]
        exact ⟨fun gone _ => gone, fun gone => gone (by omega)⟩
      · simp [blank]

theorem cut_subset (bound : Nat) (words : List (List Char)) : cut bound words ⊆ spaced words :=
  fun _ isIn => List.take_subset bound _ ((List.rdropWhile_prefix _ _).subset isIn)

theorem onlySpaces_cut {bound : Nat} {words : List (List Char)} (unspaced : ∀ word ∈ words, Unspaced word) :
    OnlySpaces (cut bound words) :=
  (OnlySpaces.spaced unspaced).of_subset (cut_subset bound words)

theorem tidy_cut_iff {bound : Nat} {words : List (List Char)} (unspaced : ∀ word ∈ words, Unspaced word) :
    Tidy (cut bound words) ↔ NoGap bound words := by
  induction words generalizing bound with
  | nil =>
    rw [cut_nil]
    exact ⟨fun _ => NoGap.of_kept List.not_mem_nil, fun _ => Tidy.of_unspaced Unspaced.nil⟩
  | cons first words inductionHypothesis =>
    have isWord := unspaced first List.mem_cons_self
    have later := fun word isIn => unspaced word (List.mem_cons_of_mem first isIn)
    rw [noGap_cons]
    by_cases short : bound ≤ first.length
    · rw [cut_cons_of_le isWord short]
      constructor
      · intro _ before word after _ _ starts
        omega
      · intro _
        exact .of_unspaced fun character isIn => isWord character (List.mem_of_mem_take isIn)
    · obtain ⟨rest, isBound⟩ := Nat.exists_eq_add_of_lt (Nat.lt_of_not_le short)
      rw [Nat.add_assoc] at isBound
      subst isBound
      rw [cut_cons_of_lt isWord]
      have starts : ∀ before, first.length + 1 + nextStart before < first.length + (rest + 1) ↔
          nextStart before < rest := by
        intro before
        omega
      simp only [starts]
      by_cases gone : first = []
      · -- The space of a word that vanished starts the text, unless nothing follows.
        have blank : Tidy (if cut rest words = [] then first else first ++ ' ' :: cut rest words) ↔
            cut rest words = [] := by
          by_cases blank : cut rest words = []
          · simp [blank, gone, Tidy.of_unspaced]
          · simp only [blank, gone, if_false, iff_false, List.nil_append]
            intro tidy
            exact absurd (tidy.start ' ' rfl) (by decide)
        rw [blank, cut_eq_nil_iff later]
        constructor
        · intro blank before word after split shown starts
          exact absurd (blank before word after split starts) shown
        · intro noGap before word after split starts
          by_contra shown
          exact (noGap before word after split shown starts).1 gone
      · have continued : Tidy (if cut rest words = [] then first else first ++ ' ' :: cut rest words) ↔
            Tidy (cut rest words) := by
          by_cases blank : cut rest words = []
          · simp [blank, Tidy.of_unspaced, isWord]
          · simp only [blank, if_false]
            exact ⟨Tidy.of_append (onlySpaces_cut later) blank, Tidy.append isWord gone blank⟩
        rw [continued, inductionHypothesis later]
        refine forall₄_congr fun before word after split => ?_
        simp [gone]

/-! ## The label -/

variable {isFormatControl : Char → Bool}

theorem unspaced_visibleWords (isFormatControl : Char → Bool) (value : List Char) :
    ∀ word ∈ visibleWords isFormatControl value, Unspaced word := by
  intro word member character isIn
  obtain ⟨whole, isWord, kept⟩ := List.mem_map.mp member
  subst kept
  exact Unspaced.of_mem_splitWhitespace isWord character (List.mem_filter.mp isIn).1

theorem isVisible_space (space : isFormatControl ' ' = false) : isVisible isFormatControl ' ' = true := by
  simp [isVisible, space, isControl]

theorem presentationLabel_eq (space : isFormatControl ' ' = false) (value : List Char) :
    presentationLabel isFormatControl value =
      if cut maxLabelChars (visibleWords isFormatControl value) = [] then none
      else some (cut maxLabelChars (visibleWords isFormatControl value)) := by
  have shows := isVisible_space space
  have kept : ∀ words : List (List Char),
      ((words.flatMap fun word => [word, [' ']]).flatten.filter (isVisible isFormatControl)) =
        spaced (words.map (·.filter (isVisible isFormatControl))) := by
    intro words
    induction words with
    | nil => rfl
    | cons word words inductionHypothesis =>
      simp only [List.flatMap_cons, List.cons_append, List.nil_append, List.flatten_cons, List.filter_append,
        inductionHypothesis, List.map_cons, spaced_cons, List.filter_cons_of_pos shows]
  simp only [presentationLabel, kept]
  rfl

theorem visible_cut (space : isFormatControl ' ' = false) (bound : Nat) (value : List Char) :
    ∀ character ∈ cut bound (visibleWords isFormatControl value), isVisible isFormatControl character = true := by
  intro character isIn
  obtain ⟨word, isWord, isIn⟩ := List.mem_flatMap.mp (cut_subset bound _ isIn)
  cases List.mem_append.mp isIn with
  | inl isLetter =>
    obtain ⟨whole, _, kept⟩ := List.mem_map.mp isWord
    subst kept
    exact (List.mem_filter.mp isLetter).2
  | inr isSpace =>
    rw [List.mem_singleton.mp isSpace]
    exact isVisible_space space

/-- A label without superfluous spaces is its own label. -/
theorem presentationLabel_of_tidy (space : isFormatControl ' ' = false) {label : List Char}
    (tidy : Tidy label) (only : OnlySpaces label) (nonempty : label ≠ []) (short : label.length ≤ maxLabelChars)
    (visible : ∀ character ∈ label, isVisible isFormatControl character = true) :
    presentationLabel isFormatControl label = some label := by
  have written := tidy.spaced_splitWhitespace only nonempty
  have kept : visibleWords isFormatControl label = splitWhitespace label := by
    refine (List.map_congr_left fun word isWord => ?_).trans (List.map_id _)
    refine List.filter_eq_self.mpr fun character isIn => ?_
    have member : character ∈ label ++ [' '] := by
      rw [← written]
      exact List.mem_flatMap.mpr ⟨word, isWord, List.mem_append_left _ isIn⟩
    cases List.mem_append.mp member with
    | inl isIn => exact visible character isIn
    | inr isSpace =>
      rw [List.mem_singleton.mp isSpace]
      exact isVisible_space space
  have trimmed : trimEnd label = label := by
    rw [trimEnd, List.rdropWhile_eq_self_iff]
    intro nonempty
    simpa using tidy.finish _ (List.getLast?_eq_some_getLast nonempty)
  have isCut : cut maxLabelChars (visibleWords isFormatControl label) = label := by
    rw [cut, kept, written]
    by_cases full : label.length = maxLabelChars
    · rw [← full, List.take_left, trimmed]
    · have whole : (label ++ [' ']).length ≤ maxLabelChars := by
        rw [List.length_append, List.length_singleton]
        omega
      rw [List.take_of_length_le whole, trimEnd_append, if_pos (by decide), trimmed]
  rw [presentationLabel_eq space, isCut, if_neg nonempty]

/-- What a label is for: it is short, shows nothing invisible, has no superfluous space, and is its own
label. -/
def Normalized (isFormatControl : Char → Bool) (value : List Char) : Prop :=
  ∀ label ∈ presentationLabel isFormatControl value,
    label.length ≤ maxLabelChars ∧
      (∀ character ∈ label, isControl character = false ∧ isFormatControl character = false) ∧
      Tidy label ∧ presentationLabel isFormatControl label = some label

theorem presentationLabel_normalized_iff (space : isFormatControl ' ' = false) (value : List Char) :
    Normalized isFormatControl value ↔ NoGap maxLabelChars (visibleWords isFormatControl value) := by
  have unspaced := unspaced_visibleWords isFormatControl value
  have isLabel := presentationLabel_eq space value
  rw [← tidy_cut_iff unspaced]
  by_cases blank : cut maxLabelChars (visibleWords isFormatControl value) = []
  · rw [if_pos blank] at isLabel
    rw [blank]
    constructor
    · intro _
      exact .of_unspaced .nil
    · intro _ label isSome
      rw [isLabel] at isSome
      cases isSome
  · rw [if_neg blank] at isLabel
    constructor
    · intro normalized
      exact (normalized _ isLabel).2.2.1
    · intro tidy label isSome
      rw [isLabel] at isSome
      cases isSome
      have short : (cut maxLabelChars (visibleWords isFormatControl value)).length ≤ maxLabelChars :=
        (List.rdropWhile_prefix _ _).length_le.trans (List.length_take_le _ _)
      have visible := visible_cut space maxLabelChars value
      refine ⟨short, ?_, tidy,
        presentationLabel_of_tidy space tidy (onlySpaces_cut unspaced) blank short visible⟩
      intro character isIn
      simpa [isVisible] using visible character isIn

/-- Five of the format characters. -/
def zeroWidth (character : Char) : Bool := 0x200B ≤ character.toNat && character.toNat ≤ 0x200F

/-- A format character inside a word leaves no space behind. -/
theorem presentationLabel_normalized_sample : Normalized zeroWidth "A\u200bda  Lovelace\n".toList :=
  (presentationLabel_normalized_iff (by decide) _).mpr (.of_kept (by decide))

/-- The space of a word that vanished stays. -/
theorem presentationLabel_leaves_gap : ¬ ∀ value, Normalized zeroWidth value := by
  intro normalized
  have label : presentationLabel zeroWidth "\u200b Ada".toList = some " Ada".toList := by decide
  exact absurd ((normalized _ _ label).2.2.1.start ' ' rfl) (by decide)

end Genkan.Greeter
