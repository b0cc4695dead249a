import ChatDice.Text.Quoted

/-!
# Texts as bytes

Files hold bytes, and a text is kept in a file as UTF-8. `decode?` reads bytes back; `fault` says
where and why it cannot, in the words that are shown for it.

The place of a fault is found by a machine that takes one byte at a time. Between characters any
first byte of a character may come; inside a character the machine knows how many bytes are owed and
between which bounds the next one must lie.
-/

namespace ChatDice.Text.Utf8

/-- The bytes of a text. -/
def encode (s : String) : ByteArray :=
  s.toUTF8

/-- The text that bytes stand for, if they stand for one. -/
def decode? (bytes : ByteArray) : Option String :=
  String.fromUTF8? bytes

/-- A text can be read back from its bytes. -/
theorem decode?_encode (s : String) : decode? (encode s) = some s :=
  dif_pos s.isValidUTF8

/-- A character of which some bytes have been seen. -/
structure Open where
  /-- The position of its first byte. -/
  start : Nat
  /-- The value of its first byte. -/
  first : Nat
  /-- How many of its bytes have been seen. -/
  seen : Nat
  /-- How many bytes it has. -/
  length : Nat
  /-- The least value of its next byte. -/
  low : Nat
  /-- The greatest value of its next byte. -/
  high : Nat
deriving DecidableEq, Repr

/-- The length of a character with a given first byte, and the bounds of its second byte. -/
def shape? (first : Nat) : Option (Nat × Nat × Nat) :=
  if first < 0x80 then some (1, 0x80, 0xBF)
  else if first < 0xC2 then none
  else if first < 0xE0 then some (2, 0x80, 0xBF)
  else if first = 0xE0 then some (3, 0xA0, 0xBF)
  else if first = 0xED then some (3, 0x80, 0x9F)
  else if first < 0xF0 then some (3, 0x80, 0xBF)
  else if first = 0xF0 then some (4, 0x90, 0xBF)
  else if first < 0xF4 then some (4, 0x80, 0xBF)
  else if first = 0xF4 then some (4, 0x80, 0x8F)
  else none

/-- A place at which bytes stop being a text. -/
structure Fault where
  /-- The position of the first byte concerned. -/
  start : Nat
  /-- The value of that byte. -/
  first : Nat
  /-- How many bytes are concerned. -/
  count : Nat
  /-- What is wrong. -/
  reason : String
deriving DecidableEq, Repr

/-- The first place at which bytes stop being a text. -/
def faultFrom (position : Nat) : Option Open → List UInt8 → Option Fault
  | none, [] => none
  | some c, [] => some ⟨c.start, c.first, c.seen, "unexpected end of data"⟩
  | none, byte :: rest =>
    match shape? byte.toNat with
    | none => some ⟨position, byte.toNat, 1, "invalid start byte"⟩
    | some (length, low, high) =>
      faultFrom (position + 1)
        (if length = 1 then none else some ⟨position, byte.toNat, 1, length, low, high⟩) rest
  | some c, byte :: rest =>
    if byte.toNat < c.low ∨ c.high < byte.toNat then
      some ⟨c.start, c.first, c.seen, "invalid continuation byte"⟩
    else
      faultFrom (position + 1)
        (if c.seen + 1 = c.length then none
          else some { c with seen := c.seen + 1, low := 0x80, high := 0xBF }) rest

/-- The fault in words. -/
def Fault.text (fault : Fault) : String :=
  let place :=
    if fault.count = 1 then
      "byte 0x" ++ String.ofList (hexDigits 2 fault.first) ++ " in position " ++
        toString fault.start
    else
      "bytes in position " ++ toString fault.start ++ "-" ++
        toString (fault.start + fault.count - 1)
  "'utf-8' codec can't decode " ++ place ++ ": " ++ fault.reason

/-- Why bytes stand for no text, in words; empty when they do. -/
def faultText (bytes : ByteArray) : String :=
  ((faultFrom 0 none bytes.toList).map Fault.text).getD ""

end ChatDice.Text.Utf8
