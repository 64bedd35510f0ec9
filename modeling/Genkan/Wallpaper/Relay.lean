import Genkan.DynamicWallpaper.Frames
import Genkan.Foundations.Bytes
import Genkan.Foundations.ByteStream

/-! # The relay of decoded frames

A helper process decodes the wallpaper and writes its frames to a pipe; a thread of the process that
owns the lock reads them and hands the latest to the consumer.
-/

namespace Genkan.Wallpaper

open DynamicWallpaper (RgbaFrame checkedMul)
open Foundations.Bytes Foundations.ByteStream

/-- `F`. -/
def heicFrameTag : UInt8 := 70

/-- `E`. -/
def heicFailedTag : UInt8 := 69

def heicHeaderBytes : Nat := 12

def maxHeicFrameDimension : Nat := 16384

def maxHeicFrameBytes : Nat := 256 * 1024 * 1024

structure Frame where
  width : Nat
  height : Nat
  pixels : List UInt8
  pts : Option Nat
  deriving DecidableEq, Repr

inductive Update where
  | frame (frame : Frame)
  | failed
  deriving DecidableEq, Repr

/-! ## The writer -/

inductive WriteError where
  | invalidData (message : String)
  | failed (message : String)
  deriving DecidableEq, Repr

/-- The bytes written; `write` is the failure of the pipe, if it fails. -/
def writeHeicFrame (frame : RgbaFrame) (write : Option String) : Except WriteError (List UInt8) :=
  if 2 ^ 32 ≤ frame.pixels.length then .error (.invalidData "decoded frame is too large")
  else match write with
    | some message => .error (.failed message)
    | none => .ok ([heicFrameTag] ++ toLittleEndian 4 frame.width ++ toLittleEndian 4 frame.height ++
        toLittleEndian 4 frame.pixels.length ++ frame.pixels)

/-- The bytes of frames that are written one after the other. -/
def writeHeicFrames : List RgbaFrame → Except WriteError (List UInt8)
  | [] => .ok []
  | frame :: frames => do
    let bytes ← writeHeicFrame frame none
    let rest ← writeHeicFrames frames
    pure (bytes ++ rest)

/-! ## What the reader and the consumer share

`signalled` is the last value of the watch channel, and `published` remembers every update that was
ever pending.
-/

structure HeicShared where
  pending : Option Update := none
  sequence : UInt64 := 0
  failed : Bool := false
  signalled : UInt64 := 0
  published : List Update := []
  deriving DecidableEq, Repr

namespace HeicShared

def store (shared : HeicShared) (update : Update) : HeicShared :=
  { shared with
    pending := some update
    sequence := shared.sequence + 1
    signalled := shared.sequence + 1
    published := shared.published ++ [update] }

/-- The consumer takes what is pending. -/
def takeLatest (shared : HeicShared) : Option Update × HeicShared :=
  (shared.pending, { shared with pending := none })

def emitHeicFrame (shared : HeicShared) (width height : Nat) (pixels : Option (List UInt8)) :
    Bool × HeicShared :=
  match pixels with
  | none => (false, shared)
  | some pixels =>
    if shared.failed then (false, shared)
    else (true, shared.store (.frame { width, height, pixels, pts := none }))

def failHeic (shared : HeicShared) : HeicShared :=
  if shared.failed then shared else { shared with failed := true }.store .failed

end HeicShared

/-! ## The reader -/

/-- What the reader meets on its way, by the number of frames it has relayed before. -/
structure Surroundings where
  /-- The consumer has cancelled. -/
  stopping : Nat → Bool
  /-- The allocator grants a buffer of this size. -/
  reserves : Nat → Nat → Bool
  /-- The consumer takes the update before the next one is stored. -/
  takes : Nat → Bool

/-- The length of the pixels that the dimensions ask for. -/
def expectedFrameBytes (width height : Nat) : Option Nat :=
  if width = 0 ∨ height = 0 then none
  else if maxHeicFrameDimension < width ∨ maxHeicFrameDimension < height then none
  else match (checkedMul width height).bind (checkedMul · 4) with
    | none => none
    | some bytes => if bytes ≤ maxHeicFrameBytes then some bytes else none

def readFrameBuffer (reserves : Nat → Bool) (stream : List Piece) (length : Nat) :
    Option (List UInt8 × List Piece) :=
  if reserves length then
    match readExact length stream with
    | (.ok buffer, stream) => some (buffer, stream)
    | (.error _, _) => none
  else none

/-- What one pass of the reader's loop takes off the pipe. -/
inductive Relayed where
  | frame (width height : Nat) (pixels : List UInt8) (stream : List Piece)
  | failed
  | broken

/-- The first four bytes of a header. -/
def headerWidth (header : List UInt8) : Nat := ofLittleEndian (header.take 4)

def headerHeight (header : List UInt8) : Nat := ofLittleEndian ((header.drop 4).take 4)

def headerLength (header : List UInt8) : Nat := ofLittleEndian ((header.drop 8).take 4)

/-- The part of a pass that follows the tag of a frame. -/
def readRelayedFrame (reserves : Nat → Bool) (stream : List Piece) : Relayed :=
  match readExact heicHeaderBytes stream with
  | (.error _, _) => .broken
  | (.ok header, stream) =>
    let width := headerWidth header
    let height := headerHeight header
    let length := headerLength header
    match expectedFrameBytes width height with
    | none => .broken
    | some expected =>
      if length ≠ expected then .broken
      else match readFrameBuffer reserves stream length with
        | none => .broken
        | some (pixels, stream) => .frame width height pixels stream

def readRelayed (reserves : Nat → Bool) (stream : List Piece) : Relayed :=
  match readExact 1 stream with
  | (.error _, _) => .broken
  | (.ok tag, stream) =>
    if tag = [heicFailedTag] then .failed
    else if tag ≠ [heicFrameTag] then .broken
    else readRelayedFrame reserves stream

/-- What follows the loop. -/
def leave (stopping : Bool) (shared : HeicShared) : HeicShared :=
  if stopping then shared else shared.failHeic

/-- The loop after `relayed` frames; `none` if the fuel runs out. -/
def relayLoop (surroundings : Surroundings) :
    Nat → Nat → List Piece → HeicShared → Option HeicShared
  | 0, _, _, _ => none
  | fuel + 1, relayed, stream, shared =>
    match readRelayed (surroundings.reserves relayed) stream with
    | .failed => some shared.failHeic
    | .broken => some (leave (surroundings.stopping relayed) shared)
    | .frame width height pixels stream =>
      -- A cancellation wins over a frame that was already read.
      if surroundings.stopping relayed then some (leave true shared)
      else
        let shared := (shared.emitHeicFrame width height (some pixels)).2
        let shared := if surroundings.takes relayed then shared.takeLatest.2 else shared
        relayLoop surroundings fuel (relayed + 1) stream shared

def runHeicReader (surroundings : Surroundings) (stream : List Piece) (shared : HeicShared) :
    Option HeicShared :=
  relayLoop surroundings ((delivered stream).length + 1) 0 stream shared

end Genkan.Wallpaper
