import Genkan.Foundations.FirstWins
import Genkan.Sessions.DesktopEntry
import Mathlib.Data.String.Basic

/-! # Discovering sessions

The directories are read in the order of their precedence; the entries of one come in any order.  A
file name counts from its first occurrence on, whether or not a session comes out of it.
-/

namespace Genkan.Sessions

open Foundations Greeter

/-! ## The scan -/

/-- What reading a directory gives: nothing if it cannot be read, and an error for an entry that cannot. -/
structure Listing where
  directory : OsString
  entries : Option (List (Option OsString))

/-- `entries.flatten()` -/
def Listing.names (listing : Listing) : List OsString := (listing.entries.getD []).filterMap id

structure Discovered where
  seen : List String
  sessions : List Session

section

variable {Locale : Type} (parser : Parser Locale) (surroundings : Surroundings)

def Discovered.visit (directory : OsString) (discovered : Discovered) (name : OsString) : Discovered :=
  if (extension name).bind toStr ≠ some "desktop" then discovered
  else
    match toStr name with
    | none => discovered
    | some id =>
      if id ∈ discovered.seen then discovered
      else
        let discovered := { discovered with seen := id :: discovered.seen }
        match parseDesktopEntry parser surroundings ⟨directory, name⟩ with
        | some (.visible session) => { discovered with sessions := discovered.sessions ++ [session] }
        | some .hidden => discovered
        | none => discovered

def Discovered.read (discovered : Discovered) (listing : Listing) : Discovered :=
  listing.names.foldl (visit parser surroundings listing.directory) discovered

/-- By name, then by id. -/
def sessionLe (left right : Session) : Bool :=
  left.name < right.name || (left.name == right.name && left.sessionId ≤ right.sessionId)

def discoverIn (listings : List Listing) : List Session :=
  (listings.foldl (Discovered.read parser surroundings) { seen := [], sessions := [] }).sessions.mergeSort sessionLe

end

/-! ## Names of session files -/

def IsDesktop (name : OsString) : Prop :=
  (extension name).bind toStr = some "desktop" ∧ (toStr name).isSome

instance (name : OsString) : Decidable (IsDesktop name) := inferInstanceAs (Decidable (_ ∧ _))

theorem osString_toStr {name : OsString} {text : String} (reads : toStr name = some text) :
    osString text = name := by
  rw [toStr, String.fromUTF8?] at reads
  split at reads
  next valid =>
    have isText := Option.some.inj reads
    rw [← isText, osString, String.toUTF8_eq_toByteArray]
    rfl
  next => contradiction

theorem toStr_injective {left right : OsString} {text : String} (isLeft : toStr left = some text)
    (isRight : toStr right = some text) : left = right := by
  rw [← osString_toStr isLeft, ← osString_toStr isRight]

/-- A name with an extension is put together again by its dot. -/
theorem name_of_extension {name suffix : OsString} (isSuffix : extension name = some suffix) :
    ∃ stem, fileStem name = some stem ∧ name = stem ++ dot :: suffix := by
  obtain ⟨stem, isStem, isAfter⟩ := Option.bind_eq_some_iff.mp isSuffix
  refine ⟨stem, by simp [fileStem, isStem], ?_⟩
  have whole : name.rdropWhile (· != dot) ++ name.rtakeWhile (· != dot) = name := List.rdropWhile_append_rtakeWhile
  simp only [rsplitFileAtDot] at isStem isAfter
  by_cases parent : name = [dot, dot]
  · rw [if_pos parent] at isAfter
    cases isAfter
  · rw [if_neg parent] at isStem isAfter
    by_cases bare : name.rdropWhile (· != dot) = []
    · rw [if_pos bare] at isStem
      cases isStem
    · rw [if_neg bare] at isStem isAfter
      by_cases hidden : name.rdropWhile (· != dot) = [dot]
      · rw [if_pos hidden] at isAfter
        cases isAfter
      · rw [if_neg hidden] at isStem isAfter
        cases isStem
        cases isAfter
        have isDot : (name.rdropWhile (· != dot)).getLast bare = dot := by
          simpa using List.rdropWhile_last_not (· != dot) name bare
        have split := List.dropLast_append_getLast bare
        rw [isDot] at split
        rw [List.append_cons, split, whole]

theorem desktop_of_stem {left right : OsString} (isLeft : IsDesktop left) (isRight : IsDesktop right)
    (same : fileStem left = fileStem right) : left = right := by
  obtain ⟨leftSuffix, hasLeft, leftDesktop⟩ := Option.bind_eq_some_iff.mp isLeft.1
  obtain ⟨rightSuffix, hasRight, rightDesktop⟩ := Option.bind_eq_some_iff.mp isRight.1
  obtain ⟨leftStem, isLeftStem, leftWhole⟩ := name_of_extension hasLeft
  obtain ⟨rightStem, isRightStem, rightWhole⟩ := name_of_extension hasRight
  have sameSuffix : leftSuffix = rightSuffix := toStr_injective leftDesktop rightDesktop
  have sameStem : leftStem = rightStem := by
    rw [isLeftStem, isRightStem] at same
    exact Option.some.inj same
  rw [leftWhole, rightWhole, sameStem, sameSuffix]

/-! ## What the scan finds -/

section

variable {Locale : Type} {parser : Parser Locale} {surroundings : Surroundings}

/-- The session of an entry that is visible. -/
def visibleSession (parser : Parser Locale) (surroundings : Surroundings) (path : EntryPath) : Option Session :=
  match parseDesktopEntry parser surroundings path with
  | some (.visible session) => some session
  | _ => none

theorem visibleSession_eq_some {path : EntryPath} {session : Session} :
    visibleSession parser surroundings path = some session ↔
      parseDesktopEntry parser surroundings path = some (.visible session) := by
  rw [visibleSession]
  split
  next visible isVisible => simp [isVisible]
  next invisible =>
    constructor
    · intro isNone
      cases isNone
    · intro isVisible
      exact absurd isVisible (invisible session)

theorem readSession_id {file : DesktopFile Locale} {entry : Entry} {path : EntryPath} {locale : Option Locale}
    {session : Session} (reads : readSession surroundings file entry path locale = some session) :
    (fileStem path.fileName).bind toStr = some session.sessionId := by
  simp only [readSession, Option.bind_eq_bind, Option.bind_eq_some_iff, Option.pure_def, Option.some.injEq] at reads
  obtain ⟨_, _, _, _, _, _, _, _, _, _, _, _, _, _, stem, isStem, _, isId, isSession⟩ := reads
  rw [isStem, Option.bind_some, isId, ← isSession]

theorem visibleSession_id {path : EntryPath} {session : Session}
    (visible : visibleSession parser surroundings path = some session) :
    (fileStem path.fileName).bind toStr = some session.sessionId := by
  have parses := visibleSession_eq_some.mp visible
  simp only [parseDesktopEntry, parseDesktopEntryWithLocale, Option.bind_eq_bind, Option.bind_eq_some_iff] at parses
  obtain ⟨_, _, _, _, _, _, _, _, hidden, _, noDisplay, _, parses⟩ := parses
  by_cases masked : (hidden || noDisplay) = true
  · rw [if_pos masked] at parses
    cases parses
  · rw [if_neg masked] at parses
    obtain ⟨_, reads, isSession⟩ := Option.map_eq_some_iff.mp parses
    cases isSession
    exact readSession_id reads

theorem visit_other {directory name : OsString} (other : ¬ IsDesktop name) (discovered : Discovered) :
    discovered.visit parser surroundings directory name = discovered := by
  rw [Discovered.visit]
  by_cases suffix : (extension name).bind toStr = some "desktop"
  · have unreadable : toStr name = none := by
      rw [← Option.not_isSome_iff_eq_none]
      exact fun readable => other ⟨suffix, readable⟩
    rw [if_neg (not_not_intro suffix), unreadable]
  · rw [if_pos suffix]

theorem visit_desktop {directory name : OsString} {id : String} (suffix : IsDesktop name)
    (isId : toStr name = some id) (discovered : Discovered) :
    discovered.visit parser surroundings directory name =
      if id ∈ discovered.seen then discovered
      else
        { seen := id :: discovered.seen
          sessions := discovered.sessions ++ (visibleSession parser surroundings ⟨directory, name⟩).toList } := by
  simp only [Discovered.visit, if_neg (not_not_intro suffix.1), isId, visibleSession]
  by_cases known : id ∈ discovered.seen
  · rw [if_pos known, if_pos known]
  · rw [if_neg known, if_neg known]
    cases parseDesktopEntry parser surroundings ⟨directory, name⟩ with
    | none => simp
    | some entry =>
      cases entry with
      | hidden => simp
      | visible session => rfl

/-- The entries of a directory as paths. -/
def Listing.paths (listing : Listing) : List EntryPath :=
  listing.names.map fun name => ⟨listing.directory, name⟩

def isDesktop (path : EntryPath) : Bool := IsDesktop path.fileName

def desktopId (path : EntryPath) : Option String := toStr path.fileName

def Discovered.visitPath (parser : Parser Locale) (surroundings : Surroundings) (discovered : Discovered)
    (path : EntryPath) : Discovered :=
  discovered.visit parser surroundings path.directory path.fileName

theorem visitPaths_sessions (discovered : Discovered) (paths : List EntryPath) :
    (paths.foldl (Discovered.visitPath parser surroundings) discovered).sessions =
      discovered.sessions ++ (FirstWins.keepFirst desktopId (discovered.seen.map some)
        (paths.filter isDesktop)).filterMap (visibleSession parser surroundings) := by
  induction paths generalizing discovered with
  | nil => simp [FirstWins.keepFirst]
  | cons path paths inductionHypothesis =>
    rw [List.foldl_cons, inductionHypothesis]
    by_cases suffix : IsDesktop path.fileName
    · obtain ⟨id, isId⟩ := Option.isSome_iff_exists.mp suffix.2
      have key : desktopId path = some id := isId
      rw [Discovered.visitPath, visit_desktop suffix isId, List.filter_cons_of_pos (by simpa [isDesktop] using suffix),
        FirstWins.keepFirst, key]
      by_cases known : id ∈ discovered.seen
      · simp [known]
      · simp only [known, if_false, List.mem_map, Option.some.injEq, exists_eq_right, List.map_cons,
          List.filterMap_cons]
        cases visibleSession parser surroundings path with
        | none => simp
        | some session => simp
    · rw [Discovered.visitPath, visit_other suffix, List.filter_cons_of_neg (by simpa [isDesktop] using suffix)]

def candidates (listings : List Listing) : List (List EntryPath) :=
  listings.map fun listing => listing.paths.filter isDesktop

/-- The sessions before they are sorted. -/
def found (parser : Parser Locale) (surroundings : Surroundings) (listings : List Listing) : List Session :=
  (FirstWins.keepFirst desktopId [] (candidates listings).flatten).filterMap (visibleSession parser surroundings)

theorem discoverIn_eq (parser : Parser Locale) (surroundings : Surroundings) (listings : List Listing) :
    discoverIn parser surroundings listings = (found parser surroundings listings).mergeSort sessionLe := by
  have whole : listings.foldl (Discovered.read parser surroundings) { seen := [], sessions := [] } =
      (listings.flatMap Listing.paths).foldl (Discovered.visitPath parser surroundings)
        { seen := [], sessions := [] } := by
    rw [List.foldl_flatMap]
    congr 1
    funext discovered listing
    rw [Listing.paths, List.foldl_map]
    rfl
  have flat : (listings.flatMap Listing.paths).filter isDesktop = (candidates listings).flatten := by
    rw [List.flatMap_def, List.filter_flatten, List.map_map]
    rfl
  rw [discoverIn, whole, visitPaths_sessions, flat]
  rfl

theorem keyOn_candidates (listings : List Listing) :
    ∀ group ∈ candidates listings, FirstWins.KeyOn desktopId group := by
  intro group isGroup left isLeft right isRight same
  obtain ⟨listing, _, isCandidates⟩ := List.mem_map.mp isGroup
  subst isCandidates
  obtain ⟨leftPath, leftDesktop⟩ := List.mem_filter.mp isLeft
  obtain ⟨rightPath, _⟩ := List.mem_filter.mp isRight
  obtain ⟨leftName, _, rfl⟩ := List.mem_map.mp leftPath
  obtain ⟨rightName, _, rfl⟩ := List.mem_map.mp rightPath
  have readable : IsDesktop leftName := by simpa [isDesktop] using leftDesktop
  obtain ⟨id, isId⟩ := Option.isSome_iff_exists.mp readable.2
  simp only [desktopId, isId] at same
  rw [toStr_injective isId same.symm]

/-! ## The result -/

/-- The first of the directories that contains the name. -/
def FirstWith (listings : List Listing) (name : OsString) (listing : Listing) : Prop :=
  ∃ before after, listings = before ++ listing :: after ∧ name ∈ listing.names ∧
    ∀ earlier ∈ before, name ∉ earlier.names

theorem mem_found {listings : List Listing} {session : Session} :
    session ∈ found parser surroundings listings ↔
      ∃ listing name, IsDesktop name ∧ FirstWith listings name listing ∧
        parseDesktopEntry parser surroundings ⟨listing.directory, name⟩ = some (.visible session) := by
  rw [found, List.mem_filterMap]
  simp only [FirstWins.mem_keepFirst_flatten (keyOn_candidates listings), visibleSession_eq_some]
  constructor
  · -- A split of the candidates is a split of the listings, and the other way round below.
    rintro ⟨path, ⟨before, group, after, split, member, unseen⟩, parses⟩
    obtain ⟨beforeListings, rest, isListings, isBefore, isRest⟩ := List.map_eq_append_iff.mp split
    obtain ⟨listing, afterListings, isRestSplit, isGroup, _⟩ := List.map_eq_cons_iff.mp isRest
    subst isListings isRestSplit isGroup isBefore
    obtain ⟨isPath, suffix⟩ := List.mem_filter.mp member
    obtain ⟨name, isName, rfl⟩ := List.mem_map.mp isPath
    have desktop : IsDesktop name := by simpa [isDesktop] using suffix
    refine ⟨listing, name, desktop, ⟨beforeListings, afterListings, rfl, isName, ?_⟩, parses⟩
    intro earlier isEarlier present
    refine unseen (earlier.paths.filter isDesktop) (List.mem_map_of_mem isEarlier) ⟨earlier.directory, name⟩ ?_ rfl
    exact List.mem_filter.mpr ⟨List.mem_map_of_mem present, suffix⟩
  · rintro ⟨listing, name, desktop, ⟨before, after, split, isName, absent⟩, parses⟩
    subst split
    have suffix : isDesktop ⟨listing.directory, name⟩ = true := by simpa [isDesktop] using desktop
    refine ⟨⟨listing.directory, name⟩, ⟨before.map fun listing => listing.paths.filter isDesktop,
      listing.paths.filter isDesktop, after.map fun listing => listing.paths.filter isDesktop, ?_, ?_, ?_⟩, parses⟩
    · rw [candidates, List.map_append, List.map_cons]
    · exact List.mem_filter.mpr ⟨List.mem_map_of_mem isName, suffix⟩
    · intro group isGroup other isOther sameKey
      obtain ⟨earlier, isEarlier, isCandidates⟩ := List.mem_map.mp isGroup
      subst isCandidates
      obtain ⟨isPath, _⟩ := List.mem_filter.mp isOther
      obtain ⟨otherName, isOtherName, rfl⟩ := List.mem_map.mp isPath
      obtain ⟨id, isId⟩ := Option.isSome_iff_exists.mp desktop.2
      simp only [desktopId, isId] at sameKey
      exact absent earlier isEarlier (toStr_injective sameKey isId ▸ isOtherName)

theorem nodup_ids (parser : Parser Locale) (surroundings : Surroundings) (listings : List Listing) :
    ((found parser surroundings listings).map (·.sessionId)).Nodup := by
  have keys := FirstWins.nodup_keys desktopId [] (candidates listings).flatten
  rw [found, List.Nodup, List.pairwise_map, List.pairwise_filterMap]
  rw [List.Nodup, List.pairwise_map] at keys
  refine keys.imp_of_mem ?_
  intro left right isLeft isRight different leftSession leftVisible rightSession rightVisible sameId
  have desktop : ∀ path ∈ FirstWins.keepFirst desktopId [] (candidates listings).flatten, IsDesktop path.fileName := by
    intro path kept
    obtain ⟨group, isGroup, member⟩ := List.mem_flatten.mp (FirstWins.mem_keepFirst_fresh kept).2
    obtain ⟨listing, _, isCandidates⟩ := List.mem_map.mp isGroup
    subst isCandidates
    simpa [isDesktop] using (List.mem_filter.mp member).2
  have leftId := visibleSession_id leftVisible
  have rightId := visibleSession_id rightVisible
  rw [sameId] at leftId
  obtain ⟨leftStem, isLeftStem, leftText⟩ := Option.bind_eq_some_iff.mp leftId
  obtain ⟨rightStem, isRightStem, rightText⟩ := Option.bind_eq_some_iff.mp rightId
  have sameStem : fileStem left.fileName = fileStem right.fileName := by
    rw [isLeftStem, isRightStem, toStr_injective leftText rightText]
  exact different (congrArg toStr (desktop_of_stem (desktop left isLeft) (desktop right isRight) sameStem))

/-- A file name contributes a session when the file that counts is visible. -/
theorem contributes_iff {listings : List Listing} {name : OsString} (desktop : IsDesktop name) :
    (∃ session ∈ found parser surroundings listings, (fileStem name).bind toStr = some session.sessionId) ↔
      ∃ listing session, FirstWith listings name listing ∧
        parseDesktopEntry parser surroundings ⟨listing.directory, name⟩ = some (.visible session) := by
  constructor
  · intro ⟨session, isFound, isId⟩
    obtain ⟨listing, other, otherDesktop, first, parses⟩ := mem_found.mp isFound
    have otherId := visibleSession_id (visibleSession_eq_some.mpr parses)
    obtain ⟨stem, isStem, text⟩ := Option.bind_eq_some_iff.mp isId
    obtain ⟨otherStem, isOtherStem, otherText⟩ := Option.bind_eq_some_iff.mp otherId
    have same : name = other := by
      apply desktop_of_stem desktop otherDesktop
      rw [isStem, isOtherStem, toStr_injective text otherText]
    subst same
    exact ⟨listing, session, first, parses⟩
  · intro ⟨listing, session, first, parses⟩
    exact ⟨session, mem_found.mpr ⟨listing, name, desktop, first, parses⟩,
      visibleSession_id (visibleSession_eq_some.mpr parses)⟩

/-! ## The order -/

theorem sessionLe_iff {left right : Session} :
    sessionLe left right = true ↔
      left.name < right.name ∨ (left.name = right.name ∧ left.sessionId ≤ right.sessionId) := by
  simp [sessionLe]

theorem sessionLe_trans (left middle right : Session) (first : sessionLe left middle = true)
    (second : sessionLe middle right = true) : sessionLe left right = true := by
  rw [sessionLe_iff] at *
  cases first with
  | inl lower =>
    cases second with
    | inl next => exact .inl (lt_trans lower next)
    | inr same => exact .inl (same.1 ▸ lower)
  | inr equal =>
    cases second with
    | inl next => exact .inl (equal.1 ▸ next)
    | inr same => exact .inr ⟨equal.1.trans same.1, le_trans equal.2 same.2⟩

theorem sessionLe_total (left right : Session) : (sessionLe left right || sessionLe right left) = true := by
  rw [Bool.or_eq_true, sessionLe_iff, sessionLe_iff]
  cases lt_trichotomy left.name right.name with
  | inl lower => exact .inl (.inl lower)
  | inr rest =>
    cases rest with
    | inl equal =>
      cases le_total left.sessionId right.sessionId with
      | inl below => exact .inl (.inr ⟨equal, below⟩)
      | inr above => exact .inr (.inr ⟨equal.symm, above⟩)
    | inr higher => exact .inr (.inl higher)

theorem sessionId_eq_of_le {left right : Session} (first : sessionLe left right = true)
    (second : sessionLe right left = true) : left.sessionId = right.sessionId := by
  rw [sessionLe_iff] at *
  cases first with
  | inl lower =>
    cases second with
    | inl higher => exact absurd higher (lt_asymm lower)
    | inr same => exact absurd lower (same.1 ▸ lt_irrefl _)
  | inr equal =>
    cases second with
    | inl higher => exact absurd higher (equal.1 ▸ lt_irrefl _)
    | inr same => exact le_antisymm equal.2 same.2

theorem sorted_discoverIn (parser : Parser Locale) (surroundings : Surroundings) (listings : List Listing) :
    (discoverIn parser surroundings listings).Pairwise fun left right => sessionLe left right = true := by
  rw [discoverIn_eq]
  exact List.pairwise_mergeSort sessionLe_trans sessionLe_total _

theorem discoverIn_perm (parser : Parser Locale) (surroundings : Surroundings) (listings : List Listing) :
    (discoverIn parser surroundings listings).Perm (found parser surroundings listings) := by
  rw [discoverIn_eq]
  exact List.mergeSort_perm _ _

/-! ## Any order of the entries -/

/-- The same directory, enumerated in another order. -/
def Reordered (left right : Listing) : Prop :=
  left.directory = right.directory ∧ Option.Rel List.Perm left.entries right.entries

theorem Reordered.names {left right : Listing} (reordered : Reordered left right) :
    left.names.Perm right.names := by
  obtain ⟨leftDirectory, leftEntries⟩ := left
  obtain ⟨rightDirectory, rightEntries⟩ := right
  obtain ⟨_, entries⟩ := reordered
  rw [Listing.names, Listing.names]
  cases entries with
  | none => exact .refl _
  | some perm => exact perm.filterMap id

theorem candidates_perm {listings reordered : List Listing} (same : List.Forall₂ Reordered listings reordered) :
    List.Forall₂ List.Perm (candidates listings) (candidates reordered) := by
  rw [candidates, candidates, List.forall₂_map_left_iff, List.forall₂_map_right_iff]
  refine same.imp fun left right isReordered => ?_
  rw [Listing.paths, Listing.paths, isReordered.1]
  exact (isReordered.names.map _).filter _

theorem discoverIn_reordered {listings reordered : List Listing} (parser : Parser Locale)
    (surroundings : Surroundings) (same : List.Forall₂ Reordered listings reordered) :
    discoverIn parser surroundings reordered = discoverIn parser surroundings listings := by
  have perm : (discoverIn parser surroundings listings).Perm (discoverIn parser surroundings reordered) :=
    (discoverIn_perm parser surroundings listings).trans
      (((FirstWins.keepFirst_perm (candidates_perm same) (keyOn_candidates listings)).filterMap _).trans
        (discoverIn_perm parser surroundings reordered).symm)
  have distinct := nodup_ids parser surroundings listings
  refine (List.Perm.eq_of_pairwise ?_ (sorted_discoverIn parser surroundings listings)
    (sorted_discoverIn parser surroundings reordered) perm).symm
  intro left right isLeft isRight first second
  have leftFound := (discoverIn_perm parser surroundings listings).mem_iff.mp isLeft
  have rightFound := (discoverIn_perm parser surroundings listings).mem_iff.mp (perm.mem_iff.mpr isRight)
  exact List.inj_on_of_nodup_map distinct leftFound rightFound (sessionId_eq_of_le first second)

end

/-- `parser` is the parser of desktop files, which is not part of the source. -/
theorem discovery {Locale : Type} (parser : Parser Locale) (surroundings : Surroundings)
    (listings : List Listing) :
    (∀ reordered, List.Forall₂ Reordered listings reordered →
        discoverIn parser surroundings reordered = discoverIn parser surroundings listings) ∧
      ((discoverIn parser surroundings listings).Pairwise fun left right =>
        left.name < right.name ∨ (left.name = right.name ∧ left.sessionId ≤ right.sessionId)) ∧
      ((discoverIn parser surroundings listings).map (·.sessionId)).Nodup ∧
      (∀ session, session ∈ discoverIn parser surroundings listings ↔
        ∃ listing name, IsDesktop name ∧ FirstWith listings name listing ∧
          parseDesktopEntry parser surroundings ⟨listing.directory, name⟩ = some (.visible session)) ∧
      ∀ name, IsDesktop name →
        ((∃ session ∈ discoverIn parser surroundings listings,
            (fileStem name).bind toStr = some session.sessionId) ↔
          ∃ listing session, FirstWith listings name listing ∧
            parseDesktopEntry parser surroundings ⟨listing.directory, name⟩ = some (.visible session)) := by
  have same := fun session => (discoverIn_perm parser surroundings listings).mem_iff (a := session)
  refine ⟨fun reordered same => discoverIn_reordered parser surroundings same, ?_, ?_, ?_, ?_⟩
  · exact (sorted_discoverIn parser surroundings listings).imp sessionLe_iff.mp
  · exact ((discoverIn_perm parser surroundings listings).map _).nodup_iff.mpr
      (nodup_ids parser surroundings listings)
  · intro session
    rw [same]
    exact mem_found
  · intro name desktop
    simp only [same]
    exact contributes_iff desktop

end Genkan.Sessions
