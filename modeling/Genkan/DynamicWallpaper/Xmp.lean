import Genkan.DynamicWallpaper.Parsing

/-! # The properties of an XMP packet

Properties of the wallpaper are attributes or elements in Apple's namespace, whose text is a property
list in Base64.  The events of the XML reader and the Base64 decoder are those of libraries.
-/

namespace Genkan.DynamicWallpaper.Heic

open Foundations.Bytes

/-! ## Events -/

/-- A name after its prefix was resolved; `space` is `none` unless the prefix is bound. -/
structure QualifiedName where
  space : Option String
  name : String
  deriving DecidableEq, Repr

structure Attribute where
  key : QualifiedName
  normalizedValue : Except String String

/-- The attributes as they are read with checks. -/
structure Tag where
  name : QualifiedName
  attributes : List (Except String Attribute)

/-- The end of the list of events is the end of the file. -/
inductive XmlEvent where
  | start (tag : Tag)
  | empty (tag : Tag)
  | finish
  | text (content : String)
  | cData (content : String)
  | generalRef (character : Except String (Option Char))
  | comment
  | declaration
  | processing
  | docType

/-- `events` gets the largest number of namespace bindings; `reserves` is what the allocator answers
when a text or a list of the first size is to grow by the second. -/
structure XmlLibrary where
  events : Slice → Nat → List (Except String XmlEvent)
  decodeBase64 : String → Except String Slice
  reserves : Nat → Nat → Bool

/-- The loop over the events of a reader, with the number of those that were read. -/
def readEvents {State : Type} (maxEvents : Nat) (tooMany : Error) (invalid : String → Error)
    (visit : State → XmlEvent → Except Error State) :
    Nat → State → List (Except String XmlEvent) → Except Error State
  | count, state, [] => do
    rejectIf (maxEvents < count + 1) tooMany
    pure state
  | count, state, event :: rest => do
    rejectIf (maxEvents < count + 1) tooMany
    let event ← event.mapError invalid
    let state ← visit state event
    readEvents maxEvents tooMany invalid visit (count + 1) state rest

/-! ## Properties -/

inductive PropertyName where
  | h24
  | solar
  | apr
  deriving DecidableEq, Repr

def appleDesktopNamespace : String := "http://ns.apple.com/namespace/1.0/"

def propertyName (name : QualifiedName) : Option PropertyName :=
  if name.space ≠ some appleDesktopNamespace then none
  else match name.name with
    | "h24" => some .h24
    | "solar" => some .solar
    | "apr" => some .apr
    | _ => none

def isAsciiWhitespace (byte : Nat) : Bool := byte ∈ [9, 10, 12, 13, 32]

section Packet

variable (library : XmlLibrary) (limits : Limits)

def reserveMetadataString (buffer : String) (length : Nat) : Except Error Unit :=
  rejectIf (library.reserves buffer.utf8ByteSize length = false) (.limit "metadata text")

def appendMetadataText (buffer fragment : String) : Except Error String := do
  reserveMetadataString library buffer fragment.utf8ByteSize
  pure (buffer ++ fragment)

/-- The properties so far, each with the bytes of its property list. -/
abbrev Properties := List (PropertyName × Slice)

def pushProperty (properties : Properties) (property : PropertyName × Slice) : Except Error Properties := do
  rejectIf (library.reserves properties.length 1 = false) (.limit "property count")
  pure (properties ++ [property])

def decodePlistBase64 (value : String) : Except Error Slice := do
  reserveMetadataString library "" value.utf8ByteSize
  let compact := String.ofList (value.toList.filter fun character => !isAsciiWhitespace character.toNat)
  let encodedLimit ← okOr ((checkedAdd limits.maxPlistBytes.toNat 2).bind fun value => checkedMul (value / 3) 4)
    (.limit "property list size")
  rejectIf (encodedLimit < compact.utf8ByteSize) (.limit "property list size")
  let decoded ← (library.decodeBase64 compact).mapError fun error =>
    .metadata ("invalid Base64 property: " ++ error)
  rejectIf (limits.maxPlistBytes.toNat < decoded.length) (.limit "property list size")
  pure decoded

/-- The property that is being read has the depth of its element and the text so far. -/
structure PacketState where
  depth : Nat := 0
  active : Option (PropertyName × Nat × String) := none
  properties : Properties := []

def decodeProperty (properties : Properties) (name : PropertyName) (value : String) :
    Except Error Properties := do
  let decoded ← decodePlistBase64 library limits value
  pushProperty library properties (name, decoded)

def visitAttribute (properties : Properties) (item : Except String Attribute) :
    Except Error Properties := do
  let item ← item.mapError .metadata
  match propertyName item.key with
  | none => pure properties
  | some name => do
    let value ← item.normalizedValue.mapError .metadata
    decodeProperty library limits properties name value

/-- What a start tag and an empty one have in common: the depth, the nesting and the attributes. -/
def visitTag (state : PacketState) (tag : Tag) : Except Error Properties := do
  rejectIf (limits.maxXmlDepth.toNat < state.depth + 1) (.limit "XMP nesting depth")
  rejectIf state.active.isSome (.metadata "nested markup in Apple property")
  tag.attributes.foldlM (visitAttribute library limits) state.properties

def visitText (state : PacketState) (content : String) : Except Error PacketState :=
  match state.active with
  | none => pure state
  | some (name, depth, value) => do
    let value ← appendMetadataText library value content
    pure { state with active := some (name, depth, value) }

/-- The end of the element of a property completes it. -/
def visitEnd (state : PacketState) : Except Error PacketState := do
  let state ← match state.active with
    | none => pure state
    | some (name, depth, value) =>
      if depth = state.depth then do
        let properties ← decodeProperty library limits state.properties name value
        pure { state with active := none, properties }
      else pure state
  rejectIf (state.depth = 0) (.metadata "unbalanced XMP")
  pure { state with depth := state.depth - 1 }

def visitReference (state : PacketState) (character : Except String (Option Char)) :
    Except Error PacketState :=
  match state.active with
  | none => pure state
  | some (name, depth, value) => do
    let resolved ← character.mapError .metadata
    let character ← okOr resolved (.metadata "entity in Apple property")
    reserveMetadataString library value character.utf8Size
    pure { state with active := some (name, depth, value.push character) }

def visitPacket (state : PacketState) (event : XmlEvent) : Except Error PacketState :=
  match event with
  | .start tag => do
    let properties ← visitTag library limits state tag
    let depth := state.depth + 1
    pure { depth, active := (propertyName tag.name).map fun name => (name, depth, ""), properties }
  | .empty tag => do
    let properties ← visitTag library limits state tag
    match propertyName tag.name with
    | none => pure { state with properties }
    | some name => do
      let properties ← decodeProperty library limits properties name ""
      pure { state with properties }
  | .text content | .cData content => visitText library state content
  | .finish => visitEnd library limits state
  | .docType => throw (.metadata "XMP DTD is not allowed")
  | .generalRef character => visitReference library state character
  | .comment | .processing => do
    rejectIf state.active.isSome (.metadata "markup in Apple property")
    pure state
  | .declaration => pure state

def parseXmp (slice : Slice) : Except Error Properties := do
  let final ← readEvents limits.maxXmlEvents.toNat (.limit "XMP event count") .metadata
    (visitPacket library limits) 0 {} (library.events slice limits.maxXmlEvents.toNat)
  rejectIf (final.depth ≠ 0 ∨ final.active.isSome) (.metadata "unbalanced XMP")
  pure final.properties

end Packet

end Genkan.DynamicWallpaper.Heic
