import Mathlib.Data.List.TakeWhile

/-! # The strict grammar of `Exec`

The value of `Exec` has two layers of escapes.  The first is that of any string in a desktop entry, and
resolving it gives units: a character, and whether a backslash stood before it.  The second is that of a
quoted argument.  The source walks over the units with an index; here the index is what is left of them.
-/

namespace Genkan.Sessions

abbrev ExecUnit := Char × Bool

def backtick : Char := Char.ofNat 0x60

def isExecSeparator (character : Char) : Bool := character ∈ [' ', '\t', '\n', '\r']

def isUnquotedReserved (character : Char) : Bool :=
  character ∈ ['\'', '\\', '>', '<', '~', '|', '&', ';', '$', '*', '?', '#', '(', ')', backtick]

def isAsciiControl (character : Char) : Bool := character.toNat < 0x20 || character.toNat == 0x7F

def isAscii (character : Char) : Bool := character.toNat < 0x80

/-- What a backslash and this character stand for. -/
def execEscape : Char → Option Char
  | 's' => some ' '
  | 'n' => some '\n'
  | 't' => some '\t'
  | 'r' => some '\r'
  | '\\' => some '\\'
  | _ => none

def execUnits : List Char → Option (List ExecUnit)
  | [] => some []
  | character :: rest =>
    if character ≠ '\\' then (execUnits rest).map ((character, false) :: ·)
    else
      match rest with
      | [] => none
      | escaped :: rest => do
        let resolved ← execEscape escaped
        let units ← execUnits rest
        pure ((resolved, true) :: units)

/-- The characters that a backslash may stand before in a quoted argument. -/
def isQuotedEscape (character : Char) : Bool := character ∈ ['"', backtick, '$', '\\']

/-- The inner loop behind an opening quote, up to what follows the closing one. -/
def quotedArgument : List ExecUnit → Option (List ExecUnit)
  | [] => none
  | (character, escaped) :: rest =>
    if character = '"' ∧ escaped = false then some rest
    else if character = '\\' ∧ escaped = true then
      match rest with
      | [] => none
      | (escapedCharacter, _) :: rest => if isQuotedEscape escapedCharacter then quotedArgument rest else none
    else if character = backtick ∨ character = '$' then none
    else quotedArgument rest

/-- The other inner loop, up to the separator that it stops at. -/
def unquotedArgument : List ExecUnit → Option (List ExecUnit)
  | [] => some []
  | (character, escaped) :: rest =>
    if isExecSeparator character then some ((character, escaped) :: rest)
    else if character = '"' ∨ isUnquotedReserved character then none
    else unquotedArgument rest

/-- What an argument may be followed by. -/
def Ends (units : List ExecUnit) : Prop := ∀ next ∈ units.head?, isExecSeparator next.1 = true

instance (units : List ExecUnit) : Decidable (Ends units) :=
  inferInstanceAs (Decidable (∀ next ∈ units.head?, _))

/-- The outer loop; every round takes at least one unit, so as many rounds as units are enough. -/
def execArguments : Nat → List ExecUnit → Option Unit
  | 0, _ => none
  | rounds + 1, units =>
    match units.dropWhile (isExecSeparator ·.1) with
    | [] => some ()
    | first :: rest =>
      if first = ('"', false) then
        (quotedArgument rest).bind fun after => if Ends after then execArguments rounds after else none
      else (unquotedArgument (first :: rest)).bind (execArguments rounds)

def strictExec (raw : List Char) : Option Unit :=
  if !raw.all isAscii || raw.any isAsciiControl then none
  else (execUnits raw).bind fun units => execArguments (units.length + 1) units

/-! ## The loops by what they read -/

theorem execUnits_plain {character : Char} (bare : character ≠ '\\') (rest : List Char) :
    execUnits (character :: rest) = (execUnits rest).map ((character, false) :: ·) := by
  rw [execUnits.eq_def]
  simp [bare]

theorem execUnits_escape {letter character : Char} (stands : execEscape letter = some character)
    (rest : List Char) :
    execUnits ('\\' :: letter :: rest) = (execUnits rest).map ((character, true) :: ·) := by
  rw [execUnits.eq_def]
  cases units : execUnits rest <;> simp [stands, units]

theorem quotedArgument_close (rest : List ExecUnit) : quotedArgument (('"', false) :: rest) = some rest := by
  rw [quotedArgument.eq_def]
  simp

theorem quotedArgument_escape {character : Char} (escapes : isQuotedEscape character = true) (escaped : Bool)
    (rest : List ExecUnit) :
    quotedArgument (('\\', true) :: (character, escaped) :: rest) = quotedArgument rest := by
  rw [quotedArgument.eq_def]
  simp [escapes]

theorem quotedArgument_plain {character : Char} (bare : isQuotedEscape character = false) (escaped : Bool)
    (rest : List ExecUnit) : quotedArgument ((character, escaped) :: rest) = quotedArgument rest := by
  simp only [isQuotedEscape, List.mem_cons, List.not_mem_nil, or_false, decide_eq_false_iff_not, not_or] at bare
  obtain ⟨notQuote, notTick, notDollar, notBackslash⟩ := bare
  rw [quotedArgument.eq_def]
  simp [notQuote, notTick, notDollar, notBackslash]

/-! ## The grammar -/

/-- The first layer: every backslash starts an escape. -/
inductive Resolves : List Char → List Char → Prop
  | nil : Resolves [] []
  | plain {character : Char} {raw resolved : List Char} (bare : character ≠ '\\') (rest : Resolves raw resolved) :
      Resolves (character :: raw) (character :: resolved)
  | escape {letter character : Char} {raw resolved : List Char} (stands : execEscape letter = some character)
      (rest : Resolves raw resolved) : Resolves ('\\' :: letter :: raw) (character :: resolved)

/-- What stands between the quotes of an argument. -/
inductive QuotedBody : List Char → Prop
  | nil : QuotedBody []
  | plain {character : Char} {body : List Char} (bare : isQuotedEscape character = false)
      (rest : QuotedBody body) : QuotedBody (character :: body)
  | escape {character : Char} {body : List Char} (escapes : isQuotedEscape character = true)
      (rest : QuotedBody body) : QuotedBody ('\\' :: character :: body)

/-- The characters of an argument without quotes. -/
def IsPlain (character : Char) : Prop :=
  isExecSeparator character = false ∧ character ≠ '"' ∧ isUnquotedReserved character = false

/-- The second layer. -/
inductive Arguments : List Char → Prop
  | done : Arguments []
  | separator {character : Char} {text : List Char} (separates : isExecSeparator character = true)
      (rest : Arguments text) : Arguments (character :: text)
  | unquoted {word text : List Char} (nonempty : word ≠ []) (plain : ∀ character ∈ word, IsPlain character)
      (ends : ∀ next ∈ text.head?, isExecSeparator next = true) (rest : Arguments text) :
      Arguments (word ++ text)
  | quoted {body text : List Char} (closed : QuotedBody body)
      (ends : ∀ next ∈ text.head?, isExecSeparator next = true) (rest : Arguments text) :
      Arguments ('"' :: body ++ '"' :: text)

/-! ## The first layer -/

/-- Only the escapes make a backslash, and none of them makes a quote. -/
def Marked (units : List ExecUnit) : Prop :=
  ∀ unit ∈ units, (unit.1 = '"' → unit.2 = false) ∧ (unit.1 = '\\' → unit.2 = true)

theorem execEscape_ne_quote {letter character : Char} (stands : execEscape letter = some character) :
    character ≠ '"' := by
  intro isQuote
  subst isQuote
  unfold execEscape at stands
  split at stands <;> cases stands

theorem Resolves.of_execUnits {raw : List Char} {units : List ExecUnit} (returns : execUnits raw = some units) :
    Resolves raw (units.map (·.1)) ∧ Marked units := by
  fun_induction execUnits raw generalizing units with
  | case1 =>
    cases returns
    exact ⟨.nil, fun unit isIn => by cases isIn⟩
  | case2 character rest bare inductionHypothesis =>
    obtain ⟨others, isOthers, isUnits⟩ := Option.map_eq_some_iff.mp returns
    subst isUnits
    obtain ⟨resolves, marked⟩ := inductionHypothesis isOthers
    refine ⟨.plain bare resolves, ?_⟩
    intro unit isIn
    cases isIn with
    | head => exact ⟨fun _ => rfl, fun isBackslash => absurd isBackslash bare⟩
    | tail _ isIn => exact marked unit isIn
  | case3 => cases returns
  | case4 character bare escaped rest inductionHypothesis =>
    obtain rfl : character = '\\' := by simpa using bare
    simp only [Option.bind_eq_bind, Option.bind_eq_some_iff, Option.pure_def, Option.some.injEq] at returns
    obtain ⟨resolved, stands, others, isOthers, isUnits⟩ := returns
    subst isUnits
    obtain ⟨resolves, marked⟩ := inductionHypothesis isOthers
    refine ⟨.escape stands resolves, ?_⟩
    intro unit isIn
    cases isIn with
    | head => exact ⟨fun isQuote => absurd isQuote (execEscape_ne_quote stands), fun _ => rfl⟩
    | tail _ isIn => exact marked unit isIn

theorem Resolves.execUnits_eq {raw resolved : List Char} (resolves : Resolves raw resolved) :
    ∃ units, execUnits raw = some units ∧ units.map (·.1) = resolved := by
  induction resolves with
  | nil => exact ⟨[], rfl, rfl⟩
  | @plain character _ _ bare _ inductionHypothesis =>
    obtain ⟨units, isUnits, isResolved⟩ := inductionHypothesis
    refine ⟨(character, false) :: units, ?_, by rw [List.map_cons, isResolved]⟩
    rw [execUnits_plain bare, isUnits, Option.map_some]
  | @escape letter character _ _ stands _ inductionHypothesis =>
    obtain ⟨units, isUnits, isResolved⟩ := inductionHypothesis
    refine ⟨(character, true) :: units, ?_, by rw [List.map_cons, isResolved]⟩
    rw [execUnits_escape stands, isUnits, Option.map_some]

theorem Marked.of_suffix {before after : List ExecUnit} (marked : Marked (before ++ after)) : Marked after :=
  fun unit isIn => marked unit (List.mem_append_right before isIn)

theorem Marked.tail {first : ExecUnit} {rest : List ExecUnit} (marked : Marked (first :: rest)) : Marked rest :=
  fun unit isIn => marked unit (List.mem_cons_of_mem first isIn)

/-! ## The arguments -/

theorem quotedArgument_sound {units after : List ExecUnit} (marked : Marked units)
    (returns : quotedArgument units = some after) :
    ∃ body, QuotedBody (body.map (·.1)) ∧ units = body ++ ('"', false) :: after := by
  fun_induction quotedArgument units with
  | case1 => cases returns
  | case2 character escaped rest closes =>
    cases returns
    obtain ⟨isQuote, unescaped⟩ := closes
    subst isQuote unescaped
    exact ⟨[], .nil, rfl⟩
  | case3 => cases returns
  | case4 character escaped opens backslash next nextEscaped rest escapes inductionHypothesis =>
    obtain ⟨isBackslash, isEscaped⟩ := backslash
    subst isBackslash isEscaped
    obtain ⟨body, closed, split⟩ := inductionHypothesis marked.tail.tail returns
    subst split
    exact ⟨('\\', true) :: (next, nextEscaped) :: body, .escape escapes closed, rfl⟩
  | case5 => cases returns
  | case6 => cases returns
  | case7 character escaped rest opens backslash bare inductionHypothesis =>
    obtain ⟨body, closed, split⟩ := inductionHypothesis marked.tail returns
    subst split
    refine ⟨(character, escaped) :: body, .plain ?_ closed, rfl⟩
    obtain ⟨quoteMark, backslashMark⟩ := marked _ List.mem_cons_self
    simp only [isQuotedEscape, List.mem_cons, List.not_mem_nil, or_false, decide_eq_false_iff_not, not_or]
    exact ⟨fun isQuote => opens ⟨isQuote, quoteMark isQuote⟩, fun isTick => bare (.inl isTick),
      fun isDollar => bare (.inr isDollar), fun isBackslash => backslash ⟨isBackslash, backslashMark isBackslash⟩⟩

theorem quotedArgument_complete {body : List Char} (closed : QuotedBody body) {units after : List ExecUnit}
    (marked : Marked (units ++ ('"', false) :: after)) (isBody : units.map (·.1) = body) :
    quotedArgument (units ++ ('"', false) :: after) = some after := by
  induction closed generalizing units with
  | nil =>
    rw [List.map_eq_nil_iff.mp isBody, List.nil_append, quotedArgument_close]
  | @plain character body bare _ inductionHypothesis =>
    obtain ⟨⟨_, escaped⟩, others, rfl, isCharacter, isRest⟩ := List.map_eq_cons_iff.mp isBody
    dsimp only at isCharacter
    subst isCharacter
    rw [List.cons_append, quotedArgument_plain bare]
    exact inductionHypothesis marked.tail isRest
  | @escape character body escapes _ inductionHypothesis =>
    obtain ⟨⟨_, escaped⟩, others, rfl, isBackslash, isRest⟩ := List.map_eq_cons_iff.mp isBody
    obtain ⟨⟨_, nextEscaped⟩, others, rfl, isCharacter, isOthers⟩ := List.map_eq_cons_iff.mp isRest
    dsimp only at isBackslash isCharacter
    subst isBackslash isCharacter
    have isEscaped : escaped = true := (marked _ List.mem_cons_self).2 rfl
    subst isEscaped
    rw [List.cons_append, List.cons_append, quotedArgument_escape escapes]
    exact inductionHypothesis marked.tail.tail isOthers

theorem unquotedArgument_sound {units after : List ExecUnit} (returns : unquotedArgument units = some after) :
    ∃ word, (∀ unit ∈ word, IsPlain unit.1) ∧ Ends after ∧ units = word ++ after := by
  fun_induction unquotedArgument units with
  | case1 =>
    cases returns
    exact ⟨[], by simp, by simp [Ends], rfl⟩
  | case2 character escaped rest separator =>
    cases returns
    refine ⟨[], by simp, ?_, rfl⟩
    intro next isNext
    cases isNext
    exact separator
  | case3 => cases returns
  | case4 character escaped rest letter plain inductionHypothesis =>
    obtain ⟨word, isWord, ends, split⟩ := inductionHypothesis returns
    subst split
    refine ⟨(character, escaped) :: word, ?_, ends, rfl⟩
    intro unit isIn
    cases isIn with
    | head =>
      rw [not_or] at plain
      exact ⟨by simpa using letter, plain.1, by simpa using plain.2⟩
    | tail _ isIn => exact isWord unit isIn

theorem unquotedArgument_complete {word after : List ExecUnit} (plain : ∀ unit ∈ word, IsPlain unit.1)
    (ends : Ends after) : unquotedArgument (word ++ after) = some after := by
  induction word with
  | nil =>
    cases after with
    | nil => rfl
    | cons next after => rw [List.nil_append, unquotedArgument, if_pos (ends next rfl)]
  | cons unit word inductionHypothesis =>
    obtain ⟨letter, notQuote, unreserved⟩ := plain unit List.mem_cons_self
    rw [List.cons_append, unquotedArgument, if_neg (by simp [letter]), if_neg (by simp [notQuote, unreserved])]
    exact inductionHypothesis fun other isIn => plain other (List.mem_cons_of_mem unit isIn)

/-! ## The outer loop -/

theorem execArguments_separator {character : Char} (separates : isExecSeparator character = true)
    (escaped : Bool) (rounds : Nat) (units : List ExecUnit) :
    execArguments rounds ((character, escaped) :: units) = execArguments rounds units := by
  cases rounds with
  | zero => rfl
  | succ rounds => simp only [execArguments, List.dropWhile_cons, separates, if_true]

theorem execArguments_quote (rounds : Nat) (units : List ExecUnit) :
    execArguments (rounds + 1) (('"', false) :: units) =
      (quotedArgument units).bind fun after => if Ends after then execArguments rounds after else none := by
  rw [execArguments, List.dropWhile_cons_of_neg (by decide)]
  rfl

theorem execArguments_unquoted {character : Char} (plain : IsPlain character) (escaped : Bool) (rounds : Nat)
    (units : List ExecUnit) :
    execArguments (rounds + 1) ((character, escaped) :: units) =
      (unquotedArgument ((character, escaped) :: units)).bind (execArguments rounds) := by
  obtain ⟨letter, notQuote, _⟩ := plain
  rw [execArguments, List.dropWhile_cons_of_neg (by simp [letter])]
  simp [notQuote]

theorem Arguments.of_separators {units after : List ExecUnit}
    (split : units.dropWhile (isExecSeparator ·.1) = after) (rest : Arguments (after.map (·.1))) :
    Arguments (units.map (·.1)) := by
  induction units with
  | nil => exact .done
  | cons unit units inductionHypothesis =>
    by_cases separates : isExecSeparator unit.1 = true
    · rw [List.dropWhile_cons, if_pos separates] at split
      exact .separator separates (inductionHypothesis split)
    · rw [List.dropWhile_cons, if_neg separates] at split
      exact split ▸ rest

theorem ends_map {units : List ExecUnit} :
    (∀ next ∈ (units.map (·.1)).head?, isExecSeparator next = true) ↔ Ends units := by
  cases units with
  | nil => simp [Ends]
  | cons unit units => simp [Ends]

theorem Arguments.of_execArguments {rounds : Nat} {units : List ExecUnit} (marked : Marked units)
    (returns : execArguments rounds units = some ()) : Arguments (units.map (·.1)) := by
  induction rounds generalizing units with
  | zero => cases returns
  | succ rounds inductionHypothesis =>
    rw [execArguments] at returns
    have suffix := List.dropWhile_suffix (isExecSeparator ·.1) (l := units)
    cases dropped : units.dropWhile (isExecSeparator ·.1) with
    | nil => exact .of_separators dropped .done
    | cons first rest =>
      apply Arguments.of_separators dropped
      have markedFirst : Marked (first :: rest) := fun unit isIn => marked unit (suffix.subset (dropped ▸ isIn))
      simp only [dropped] at returns
      by_cases opens : first = ('"', false)
      · rw [if_pos opens] at returns
        obtain ⟨after, isAfter, continues⟩ := Option.bind_eq_some_iff.mp returns
        obtain ⟨ends, continues⟩ := Option.ite_none_right_eq_some.mp continues
        obtain ⟨body, closed, split⟩ := quotedArgument_sound markedFirst.tail isAfter
        subst opens split
        have markedAfter : Marked after := markedFirst.tail.of_suffix.tail
        rw [List.map_cons, List.map_append, List.map_cons]
        exact .quoted closed (ends_map.mpr ends) (inductionHypothesis markedAfter continues)
      · rw [if_neg opens] at returns
        obtain ⟨after, isAfter, continues⟩ := Option.bind_eq_some_iff.mp returns
        obtain ⟨word, plain, ends, split⟩ := unquotedArgument_sound isAfter
        have letter : isExecSeparator first.1 = false := by
          have stops := List.head_dropWhile_not (isExecSeparator ·.1) (l := units) (by simp [dropped])
          simpa [dropped] using stops
        have nonempty : word ≠ [] := by
          intro empty
          subst empty
          rw [List.nil_append] at split
          subst split
          rw [ends first rfl] at letter
          cases letter
        rw [split] at markedFirst ⊢
        rw [List.map_append]
        refine .unquoted (by simpa using nonempty) ?_ (ends_map.mpr ends)
          (inductionHypothesis markedFirst.of_suffix continues)
        intro character isIn
        obtain ⟨unit, isUnit, isCharacter⟩ := List.mem_map.mp isIn
        subst isCharacter
        exact plain unit isUnit

theorem Arguments.execArguments_eq {text : List Char} (arguments : Arguments text) {rounds : Nat}
    {units : List ExecUnit} (marked : Marked units) (isText : units.map (·.1) = text)
    (enough : units.length < rounds) : execArguments rounds units = some () := by
  induction arguments generalizing rounds units with
  | done =>
    rw [List.map_eq_nil_iff.mp isText] at enough ⊢
    cases rounds with
    | zero => exact absurd enough (Nat.not_lt_zero 0)
    | succ rounds => rfl
  | @separator character text separates _ inductionHypothesis =>
    obtain ⟨⟨_, escaped⟩, others, rfl, isCharacter, isRest⟩ := List.map_eq_cons_iff.mp isText
    dsimp only at isCharacter
    subst isCharacter
    rw [execArguments_separator separates]
    exact inductionHypothesis marked.tail isRest (Nat.lt_of_succ_lt enough)
  | @unquoted word text nonempty plain ends _ inductionHypothesis =>
    obtain ⟨wordUnits, after, rfl, isWord, isAfter⟩ := List.map_eq_append_iff.mp isText
    have plainUnits : ∀ unit ∈ wordUnits, IsPlain unit.1 := by
      intro unit isIn
      exact plain unit.1 (isWord ▸ List.mem_map_of_mem isIn)
    have endsAfter : Ends after := ends_map.mp (isAfter ▸ ends)
    cases wordUnits with
    | nil => exact absurd isWord.symm nonempty
    | cons first others =>
      cases rounds with
      | zero => exact absurd enough (Nat.not_lt_zero _)
      | succ rounds =>
        rw [List.cons_append, execArguments_unquoted (plainUnits first List.mem_cons_self), ← List.cons_append,
          unquotedArgument_complete plainUnits endsAfter, Option.bind_some]
        rw [List.length_append, List.length_cons] at enough
        exact inductionHypothesis marked.of_suffix isAfter (by omega)
  | @quoted body text closed ends _ inductionHypothesis =>
    obtain ⟨opened, closing, rfl, isOpened, isClosing⟩ := List.map_eq_append_iff.mp isText
    obtain ⟨⟨_, openMark⟩, bodyUnits, rfl, isQuote, isBody⟩ := List.map_eq_cons_iff.mp isOpened
    obtain ⟨⟨_, closeMark⟩, after, rfl, isClose, isAfter⟩ := List.map_eq_cons_iff.mp isClosing
    dsimp only at isQuote isClose
    subst isQuote isClose
    -- No escape makes a quote, so both quotes are bare units.
    have openBare : openMark = false := (marked ('"', openMark) (by simp)).1 rfl
    have closeBare : closeMark = false := (marked ('"', closeMark) (by simp)).1 rfl
    subst openBare closeBare
    have endsAfter : Ends after := ends_map.mp (isAfter ▸ ends)
    cases rounds with
    | zero => exact absurd enough (Nat.not_lt_zero _)
    | succ rounds =>
      rw [List.cons_append] at marked enough ⊢
      rw [execArguments_quote, quotedArgument_complete closed marked.tail isBody, Option.bind_some,
        if_pos endsAfter]
      rw [List.length_cons, List.length_append, List.length_cons] at enough
      exact inductionHypothesis marked.tail.of_suffix.tail isAfter (by omega)

/-- The accepted values are those of the grammar. -/
theorem strictExec_isSome_iff (raw : List Char) :
    (strictExec raw).isSome ↔
      (∀ character ∈ raw, isAscii character = true ∧ isAsciiControl character = false) ∧
        ∃ resolved, Resolves raw resolved ∧ Arguments resolved := by
  have checks : (!raw.all isAscii || raw.any isAsciiControl) = false ↔
      ∀ character ∈ raw, isAscii character = true ∧ isAsciiControl character = false := by
    simp only [Bool.or_eq_false_iff, Bool.not_eq_eq_eq_not, Bool.not_false, List.all_eq_true, List.any_eq_false,
      Bool.not_eq_true]
    exact ⟨fun checks character isIn => ⟨checks.1 character isIn, checks.2 character isIn⟩,
      fun checks => ⟨fun character isIn => (checks character isIn).1, fun character isIn => (checks character isIn).2⟩⟩
  rw [← checks, strictExec]
  by_cases refused : (!raw.all isAscii || raw.any isAsciiControl) = true
  · simp [refused]
  · rw [Bool.not_eq_true] at refused
    simp only [refused, Bool.false_eq_true, if_false, true_and]
    constructor
    · intro accepted
      obtain ⟨_, isSome⟩ := Option.isSome_iff_exists.mp accepted
      obtain ⟨units, isUnits, accepts⟩ := Option.bind_eq_some_iff.mp isSome
      obtain ⟨resolves, marked⟩ := Resolves.of_execUnits isUnits
      exact ⟨_, resolves, .of_execArguments marked accepts⟩
    · intro ⟨resolved, resolves, arguments⟩
      obtain ⟨units, isUnits, isResolved⟩ := resolves.execUnits_eq
      have marked := (Resolves.of_execUnits isUnits).2
      rw [isUnits, Option.bind_some, arguments.execArguments_eq marked isResolved (Nat.lt_succ_self _)]
      rfl

end Genkan.Sessions
