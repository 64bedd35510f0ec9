import Genkan.Foundations.Text
import Genkan.Greeter.App
import Genkan.Sessions.StrictExec
import Mathlib.Data.Option.Basic

/-! # Reading a desktop entry

What a session file says is read by a parser that is not part of the source, so the file it returns is
a record of the answers that are asked for.  What the source checks of the text itself, and what it
makes of the answers, follows it.  The file system and the environment are the surroundings.
-/

namespace Genkan.Sessions

open Foundations.Text Greeter

/-! ## Names of files -/

/-- The bytes of a file name or of a path. -/
abbrev OsString := List UInt8

def dot : UInt8 := 46

def slash : UInt8 := 47

def colon : UInt8 := 58

def toStr (name : OsString) : Option String := String.fromUTF8? ⟨name.toArray⟩

def osString (text : String) : OsString := text.toUTF8.data.toList

/-- What stands before and behind the last dot of a file name. -/
def rsplitFileAtDot (name : OsString) : Option OsString × Option OsString :=
  if name = [dot, dot] then (some name, none)
  else
    let stem := name.rdropWhile (· != dot)
    if stem = [] then (none, some name)
    else if stem = [dot] then (some name, none)
    else (some stem.dropLast, some (name.rtakeWhile (· != dot)))

def fileStem (name : OsString) : Option OsString :=
  (rsplitFileAtDot name).1.or (rsplitFileAtDot name).2

def extension (name : OsString) : Option OsString :=
  (rsplitFileAtDot name).1.bind fun _ => (rsplitFileAtDot name).2

def join (directory name : OsString) : OsString :=
  if name.head? = some slash then name
  else if directory.getLast?.any (· != slash) then directory ++ slash :: name
  else directory ++ name

/-- The path of an entry of a directory. -/
structure EntryPath where
  directory : OsString
  fileName : OsString
  deriving DecidableEq, Repr

def EntryPath.whole (path : EntryPath) : OsString := join path.directory path.fileName

/-! ## Surroundings -/

structure Surroundings where
  /-- The contents of a file that can be read. -/
  read : OsString → Option (List UInt8)
  /-- A regular file that may be executed. -/
  isExecutable : OsString → Bool
  environment : String → Option OsString

namespace Surroundings

variable (surroundings : Surroundings)

def executableAvailable (program : String) : Bool :=
  if '/' ∈ program.toList then
    (osString program).head? == some slash && surroundings.isExecutable (osString program)
  else
    (surroundings.environment "PATH").any fun path =>
      (path.splitOn colon).any fun directory => surroundings.isExecutable (join directory (osString program))

/-- A variable that is set to something. -/
def nonempty (name : String) : Option String :=
  ((surroundings.environment name).bind toStr).filter (· ≠ "")

def localeName : Option String :=
  (surroundings.nonempty "LC_ALL").or ((surroundings.nonempty "LC_MESSAGES").or (surroundings.nonempty "LANG"))

end Surroundings

/-! ## The parser of desktop files -/

inductive FieldCode where
  | translatedName
  | desktopFileLocation
  | deprecated
  | singleFile
  | fileList
  | singleUrl
  | urlList
  | icon
  deriving DecidableEq, Repr

inductive ExecPiece where
  | char (character : Char)
  | field (code : FieldCode)
  /-- A piece that the source does not know. -/
  | other
  deriving DecidableEq, Repr

structure ExecArgument where
  quoted : Bool
  raw : String
  pieces : List (Option ExecPiece)

structure Exec where
  raw : String
  valid : Bool
  args : List (Option ExecArgument)

/-- The answers of a group; an inner `none` is an error. -/
structure Entry where
  boolean : String → Option (Option Bool)
  value : String → Option (Option String)
  list : String → Option (List (Option String))

structure DesktopFile (Locale : Type) where
  desktopEntry : Option Entry
  isApplication : Bool
  name : Option Locale → Option (Option String)
  exec : Option Exec

structure Parser (Locale : Type) where
  parse : List UInt8 → Option (DesktopFile Locale)
  locale : String → Option Locale

/-! ## Strictness of the text -/

/-- `line` is what has been read of the current line, backwards. -/
def linesFrom (line : List Char) : List Char → List (List Char)
  | [] => if line = [] then [] else [line.reverse]
  | character :: rest =>
    if character = '\n' then (if line.head? = some '\r' then line.tail else line).reverse :: linesFrom [] rest
    else linesFrom (character :: line) rest

def lines (text : List Char) : List (List Char) := linesFrom [] text

/-- The name between brackets. -/
def groupName (line : List Char) : Option (List Char) :=
  if line.head? = some '[' ∧ line.tail.getLast? = some ']' then some line.tail.dropLast else none

structure Names where
  groups : List (List Char)
  keys : List (List Char)

def Names.addLine (names : Names) (rawLine : List Char) : Option Names :=
  let line := trim rawLine
  if line = [] ∨ line.head? = some '#' then some names
  else
    match groupName line with
    | some group => if group ∈ names.groups then none else some { groups := group :: names.groups, keys := [] }
    | none =>
      if '=' ∈ rawLine then
        let key := trim (rawLine.takeWhile (· ≠ '='))
        if key ∈ names.keys then none else some { names with keys := key :: names.keys }
      else none

/-- `U+FEFF` -/
def byteOrderMark : Char := Char.ofNat 0xFEFF

def strictDesktopFile (contents : List UInt8) : Option Unit := do
  let source ← toStr contents
  let source := source.toList
  let source := if source.head? = some byteOrderMark then source.tail else source
  let _ ← (lines source).foldlM Names.addLine { groups := [], keys := [] }
  pure ()

/-! ## The command -/

def expandPiece (path : EntryPath) (name : String) : Option ExecPiece → Option String
  | some (.char character) => some (String.singleton character)
  | some (.field .translatedName) => some name
  | some (.field .desktopFileLocation) => toStr path.whole
  | some (.field .deprecated) => some ""
  | _ => none

/-- An argument that expands to nothing is dropped, unless it is an empty pair of quotes. -/
def expandArgument (path : EntryPath) (name : String) (command : List String) (argument : Option ExecArgument) :
    Option (List String) := do
  let argument ← argument
  let pieces ← argument.pieces.mapM (expandPiece path name)
  let expanded := pieces.foldl (· ++ ·) ""
  let keepEmpty := argument.quoted && argument.raw = ""
  pure (if expanded ≠ "" ∨ keepEmpty then command ++ [expanded] else command)

def expandExec {Locale : Type} (file : DesktopFile Locale) (path : EntryPath) (name : String) :
    Option (List String) := do
  let exec ← file.exec
  strictExec exec.raw.toList
  guard exec.valid
  let command ← exec.args.foldlM (expandArgument path name) []
  if command.head?.any (fun program => '=' ∉ program.toList) then some command else none

/-! ## The entry -/

inductive ParsedEntry where
  | hidden
  | visible (session : Session)
  deriving DecidableEq, Repr

section

variable {Locale : Type} (parser : Parser Locale) (surroundings : Surroundings)

/-- A key that is missing is false. -/
def flag (entry : Entry) (key : String) : Option Bool :=
  match entry.boolean key with
  | none => some false
  | some value => value

def checkTryExec (entry : Entry) : Option Unit :=
  match entry.value "TryExec" with
  | none => some ()
  | some tryExec => do
    let program ← tryExec
    guard (surroundings.executableAvailable program)

/-- What an entry that is not hidden has to offer. -/
def readSession (file : DesktopFile Locale) (entry : Entry) (path : EntryPath) (locale : Option Locale) :
    Option Session := do
  guard file.isApplication
  let name ← (← file.name locale)
  checkTryExec surroundings entry
  let command ← expandExec file path name
  guard (command.head?.any surroundings.executableAvailable)
  let desktopNames ← ((entry.list "DesktopNames").getD []).mapM id
  let stem ← fileStem path.fileName
  let sessionId ← toStr stem
  pure { name, command, sessionId, desktopNames }

def parseDesktopEntryWithLocale (path : EntryPath) (locale : Option Locale) : Option ParsedEntry := do
  let contents ← surroundings.read path.whole
  let file ← parser.parse contents
  strictDesktopFile contents
  let entry ← file.desktopEntry
  let hidden ← flag entry "Hidden"
  let noDisplay ← flag entry "NoDisplay"
  if hidden || noDisplay then pure .hidden
  else (readSession surroundings file entry path locale).map .visible

def parseDesktopEntry (path : EntryPath) : Option ParsedEntry :=
  parseDesktopEntryWithLocale parser surroundings path (surroundings.localeName.bind parser.locale)

end

end Genkan.Sessions
