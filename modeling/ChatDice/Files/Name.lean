import ChatDice.Text.Raw
import ChatDice.Text.Utf8

/-!
# Names of files

To the operating system the name of a file is a row of bytes. Where the bytes are a text, the name
is this text; where they are not, every byte that belongs to no character is shown as half of a pair
that stands alone, one of those from U+DC80 to U+DCFF. So a raw text names a file if all halves that
stand alone in it are of these. Two raw texts may name the same file; `canonical` is the one that
shows the bytes.

`split` cuts the text of a path at its slashes.
-/

namespace ChatDice

open Text (Half Point Raw EncodeFault)

namespace Text

/-- Whether half of a pair shows a byte. -/
def Half.isEscape (half : Half) : Bool :=
  0xDC80 ≤ half.unit && half.unit < 0xDD00

/-- The half that shows a byte. -/
def Half.ofByte (byte : UInt8) : Half :=
  ⟨0xDC00 + byte.toNat, by omega, by have := byte.toNat_lt; omega⟩

end Text

namespace Name

/-- What keeps a raw text from being the name of a file, if anything does: the first halves that
show no bytes. -/
def fault? (points : List Point) : Option EncodeFault :=
  Text.faultFrom Half.isEscape 0 points

/-- The bytes of what stands at one place. -/
def pointBytes : Point → List UInt8
  | .char c => String.utf8EncodeChar c
  | .half half => [UInt8.ofNat (half.unit - 0xDC00)]

/-- The number of bytes of a name. -/
def size : Raw → Nat
  | .proper s => s.utf8ByteSize
  | text => (text.points.flatMap pointBytes).length

/-- The character that bytes begin with, and how many of them are its bytes. -/
def frontChar? (bytes : List UInt8) : Option (Char × Nat) :=
  [1, 2, 3, 4].findSome? fun count =>
    match (Text.Utf8.decode? ⟨(bytes.take count).toArray⟩).map String.toList with
    | some [c] => some (c, count)
    | _ => none

/-- What shows bytes, after some of them that have been shown already. -/
def showBytes : Nat → List UInt8 → List Point
  | _, [] => []
  | shown + 1, _ :: bytes => showBytes shown bytes
  | 0, byte :: bytes =>
    match frontChar? (byte :: bytes) with
    | some (c, count) => .char c :: showBytes (count - 1) bytes
    | none => .half (.ofByte byte) :: showBytes 0 bytes

/-- The raw text that shows the bytes of a name. -/
def canonical : Raw → Raw
  | .proper s => .proper s
  | text => .ofPoints (showBytes 0 (text.points.flatMap pointBytes))

/-- Cuts a list at some of its elements. -/
def parts {α : Type} [DecidableEq α] (cut : α) : List α → List (List α)
  | [] => [[]]
  | c :: s =>
    match parts cut s with
    | [] => [[c]]
    | part :: rest => if c = cut then [] :: part :: rest else (c :: part) :: rest

/-- Cuts a text at its slashes. -/
def split : Raw → List Raw
  | .proper s => (parts '/' s.toList).map fun part => .proper (String.ofList part)
  | text => (parts (.char '/') text.points).map .ofPoints

/-- Whether a text begins with a slash. -/
def isAbsolute (text : Raw) : Bool :=
  text.points.head? == some (.char '/')

/-- Whether a name is one dot or two, and so names a directory without its name. -/
def isDots (name : Raw) : Bool :=
  name == "." || name == ".."

/-- A text of characters alone can be the name of a file. -/
@[simp] theorem fault?_proper (s : String) : fault? (Raw.proper s).points = none :=
  Text.faultFrom_map_char _ _ _

end Name

end ChatDice
