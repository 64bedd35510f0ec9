import Genkan.DynamicWallpaper.Merging
import Genkan.DynamicWallpaper.PropertyList
import Genkan.DynamicWallpaper.Xmp

/-! # Parsing the properties of a wallpaper

A property list is checked before a library expands it, and each image that a property refers to is
looked up while the property is parsed.
-/

namespace Genkan.DynamicWallpaper

/-- The identifiers of the images that a schedule can refer to by position. -/
structure TopLevelImages where
  itemIds : List UInt32
  deriving DecidableEq, Repr

def TopLevelImages.resolve (images : TopLevelImages) (reference : ImageReference) : Option UInt32 :=
  images.itemIds[reference.position]?

namespace Heic

open Foundations.Bytes

/-! ## Values of a property list -/

/-- An integer is one of 64 bits with or without a sign, and a real is `none` when it is no finite
number.  Nothing is kept of values of the other kinds. -/
inductive Value where
  | array (values : List Value)
  | dictionary (entries : List (String × Value))
  | integer (value : Int)
  | real (value : Option ℚ)
  | other

abbrev Dictionary := List (String × Value)

namespace Value

def asArray : Value → Option (List Value)
  | array values => some values
  | dictionary _ | integer _ | real _ | other => none

def asDictionary : Value → Option Dictionary
  | dictionary entries => some entries
  | array _ | integer _ | real _ | other => none

def asSigned (value : Int) : Option Int :=
  if -(2 ^ 63) ≤ value ∧ value < 2 ^ 63 then some value else none

def asUnsigned (value : Int) : Option Nat :=
  if 0 ≤ value ∧ value < 2 ^ 64 then some value.toNat else none

def exactU64 : Value → Option Nat
  | integer value => asUnsigned value
  | array _ | dictionary _ | real _ | other => none

/-- The double nearest to an integer, which has 53 bits. -/
def toDouble (value : Int) : ℚ :=
  let unit : ℚ := 2 ^ (Nat.log2 value.natAbs - 52)
  roundHalfEven (value / unit) * unit

end Value

/-! ## Fields of a dictionary -/

/-- A refused value is reported with the text of the model's error. -/
def orMetadata {α : Type} (result : Except ModelError α) : Except Error α :=
  result.mapError fun error => .metadata error.toString

def requiredDictionary (value : Value) (label : String) : Except Error Dictionary :=
  okOr value.asDictionary (.metadata (label ++ " is not a dictionary"))

namespace Dictionary

variable (dictionary : Dictionary)

def get (key : String) : Option Value := dictionary.lookup key

def requiredArray (key : String) : Except Error (List Value) :=
  okOr ((get dictionary key).bind Value.asArray) (.metadata (key ++ " is not an array"))

def imageReference (key : String) (images : TopLevelImages) : Except Error ImageReference := do
  let position ← okOr ((get dictionary key).bind Value.exactU64)
    (.metadata (key ++ " is not a valid image index"))
  let index : ImageReference := { position }
  rejectIf (images.resolve index = none) (.metadata (key ++ " references a missing image"))
  pure index

def number (key : String) : Except Error ℚ := do
  let value ← okOr (get dictionary key) (.metadata ("missing " ++ key))
  let number ← match value with
    | .real value => pure value
    | .integer value => do
      let exact ← okOr ((Value.asSigned value).or ((Value.asUnsigned value).map Int.ofNat))
        (.metadata (key ++ " is outside its numeric domain"))
      pure (some (Value.toDouble exact))
    | .array _ | .dictionary _ | .other => throw (.metadata (key ++ " is not numeric"))
  okOr number (.metadata (key ++ " is not finite"))

def parseAppearance (images : TopLevelImages) : Except Error Appearance := do
  let dark ← imageReference dictionary "d" images
  let light ← imageReference dictionary "l" images
  pure { light, dark }

def optionalAppearance (images : TopLevelImages) : Except Error (Option Appearance) :=
  match get dictionary "ap" with
  | none => pure none
  | some value => do
    let dictionary ← requiredDictionary value "ap"
    let pair ← parseAppearance dictionary images
    pure (some pair)

/-- The images of a file with two of them are at the positions zero and one. -/
example : parseAppearance [("d", .integer 1), ("l", .integer 2)] ⟨[20, 21]⟩ =
    .error (.metadata "l references a missing image") := rfl

end Dictionary

/-! ## The three properties -/

/-- A schedule whose points are the entries of an array.  The two kinds of schedules differ in the key
of the array, in how a point is read, and in what their errors call it. -/
def parseSchedule {Point : Type} (key kind : String) (readPoint : Dictionary → Except Error Point)
    (dictionary : Dictionary) (images : TopLevelImages) (limits : Limits) :
    Except Error (Schedule Point) := do
  let points ← Dictionary.requiredArray dictionary key
  rejectIf (points = [] ∨ limits.maxSchedulePoints.toNat < points.length)
    (.metadata ("invalid " ++ kind ++ " point count"))
  let parsed ← points.mapM fun point => do
    let point ← requiredDictionary point (kind ++ " point")
    readPoint point
  let appearance ← Dictionary.optionalAppearance dictionary images
  orMetadata (Schedule.new parsed appearance)

def timePoint (images : TopLevelImages) (point : Dictionary) : Except Error TimePoint := do
  let image ← Dictionary.imageReference point "i" images
  let value ← Dictionary.number point "t"
  let time ← orMetadata (NormalizedTime.new value)
  pure { image, time }

def solarPoint (images : TopLevelImages) (point : Dictionary) : Except Error SolarPoint := do
  let image ← Dictionary.imageReference point "i" images
  let altitude ← Dictionary.number point "a"
  let azimuth ← Dictionary.number point "z"
  let position ← orMetadata (SolarPosition.new altitude azimuth)
  pure { image, position }

def parseH24 (dictionary : Dictionary) (images : TopLevelImages) (limits : Limits) :
    Except Error (AppleProperty × PropertyValue) := do
  let schedule ← parseSchedule "ti" "h24" (timePoint images) dictionary images limits
  pure (.time, .time schedule)

def parseSolar (dictionary : Dictionary) (images : TopLevelImages) (limits : Limits) :
    Except Error (AppleProperty × PropertyValue) := do
  let schedule ← parseSchedule "si" "solar" (solarPoint images) dictionary images limits
  pure (.solar, .solar schedule)

def parseApr (dictionary : Dictionary) (images : TopLevelImages) :
    Except Error (AppleProperty × PropertyValue) := do
  let pair ← Dictionary.parseAppearance dictionary images
  pure (.appearance, .appearance pair)

/-! ## The preflight of an XML property list -/

/-- The elements that become values, and keys. -/
def plistElements : List String :=
  ["dict", "array", "data", "date", "integer", "real", "string", "true", "false", "key"]

structure XmlCharges where
  depth : Nat := 0
  objects : Nat := 0
  expandedBytes : Nat := 0
  root : Bool := false
  deriving DecidableEq, Repr

def chargePlistElement (name : String) (limits : Limits) (charges : XmlCharges) :
    Except Error XmlCharges :=
  if name ∉ plistElements then pure charges
  else do
    let objects ← okOr (checkedAdd charges.objects 1) (.limit "expanded property list object count")
    rejectIf (limits.maxExpandedPlistObjects.toNat < objects)
      (.limit "expanded property list object count")
    let expandedBytes ← chargeExpandedBytes charges.expandedBytes 64 limits
    pure { charges with objects, expandedBytes }

/-- An empty element is one level deeper while it is checked. -/
def visitPlist (limits : Limits) (charges : XmlCharges) (event : XmlEvent) : Except Error XmlCharges :=
  match event with
  | .start tag => do
    let charges := { charges with root := true, depth := charges.depth + 1 }
    rejectIf (limits.maxPlistDepth.toNat < charges.depth) (.limit "property list nesting depth")
    chargePlistElement tag.name.name limits charges
  | .empty tag => do
    let charges := { charges with root := true }
    rejectIf (limits.maxPlistDepth.toNat < charges.depth + 1) (.limit "property list nesting depth")
    chargePlistElement tag.name.name limits charges
  | .finish => do
    rejectIf (charges.depth = 0) (.metadata "unbalanced XML property list")
    pure { charges with depth := charges.depth - 1 }
  | .text _ | .cData _ | .generalRef _ | .comment | .declaration | .processing | .docType => pure charges

def byteOrderMark : List UInt8 := [0xef, 0xbb, 0xbf]

def invalidXml (error : String) : Error := .metadata ("invalid XML property list: " ++ error)

def preflightXmlPlist (library : XmlLibrary) (slice : Slice) (limits : Limits) : Except Error Unit := do
  rejectIf (limits.maxPlistBytes.toNat < slice.length) (.limit "property list size")
  let content := if byteOrderMark.isPrefixOf slice.bytes then slice.bytes.drop byteOrderMark.length
    else slice.bytes
  let first ← okOr (content.find? fun byte => !isAsciiWhitespace byte.toNat)
    (.metadata "property is not a property list")
  -- A tag starts with the byte of `<`.
  rejectIf (first ≠ 60) (.metadata "property is not a property list")
  let final ← readEvents limits.maxXmlEvents.toNat (.limit "property list event count") invalidXml
    (visitPlist limits) 0 {} (library.events slice limits.maxXmlEvents.toNat)
  rejectIf (final.depth ≠ 0 ∨ final.root = false) (.metadata "unbalanced XML property list")

/-! ## A property -/

/-- The readers of both kinds of property lists. -/
structure PlistLibrary where
  fromReader : Slice → Except String Value
  fromReaderXml : Slice → Except String Value

def readPropertyList (xml : XmlLibrary) (plist : PlistLibrary) (slice : Slice) (limits : Limits) :
    Except Error Value :=
  if plistMagic.isPrefixOf slice.bytes then do
    preflightBinaryPlist slice limits
    (plist.fromReader slice).mapError fun error => .metadata ("invalid binary property list: " ++ error)
  else do
    preflightXmlPlist xml slice limits
    (plist.fromReaderXml slice).mapError invalidXml

def parseProperty (xml : XmlLibrary) (plist : PlistLibrary) (name : PropertyName) (slice : Slice)
    (images : TopLevelImages) (limits : Limits) : Except Error (AppleProperty × PropertyValue) := do
  let value ← readPropertyList xml plist slice limits
  let dictionary ← okOr value.asDictionary (.metadata "property list root is not a dictionary")
  match name with
  | .h24 => parseH24 dictionary images limits
  | .solar => parseSolar dictionary images limits
  | .apr => parseApr dictionary images

end Heic

end Genkan.DynamicWallpaper
