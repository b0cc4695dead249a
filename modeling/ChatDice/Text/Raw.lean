import ChatDice.Text.Quoted

/-!
# Raw texts

A document can spell half of a pair of code units where the other half is missing. No character has
such a code point, so that a text with one in it consists of more than characters, and it cannot be
written as UTF-8.

A `Raw` text may have halves in it that stand alone. It is `proper` if it has none, and else
`broken` at the first of them. Every list of code points is one raw text and no other:
`Raw.ofPoints` and `Raw.points` undo each other.

`faultFrom` finds the first halves that keep a text from being written, and `EncodeFault.text` says
so in words.
-/

namespace ChatDice.Text

/-- Half of a pair of code units, by its code point. -/
structure Half where
  /-- The code point. -/
  unit : Nat
  /-- No character below it is half of a pair. -/
  low : 0xD800 ≤ unit
  /-- Characters begin again behind it. -/
  high : unit < 0xE000
deriving DecidableEq, Repr

/-- What stands at one place of a raw text. -/
inductive Point where
  /-- A character. -/
  | char (c : Char)
  /-- Half of a pair that stands alone. -/
  | half (half : Half)
deriving DecidableEq, Repr

/-- A text in which halves of pairs may stand alone. -/
inductive Raw where
  /-- Characters alone. -/
  | proper (s : String)
  /-- Characters, then the first half that stands alone, then anything. -/
  | broken (front : String) (half : Half) (rest : List Point)
deriving DecidableEq, Repr

instance : Inhabited Raw := ⟨.proper ""⟩

instance : Coe String Raw := ⟨.proper⟩

namespace Raw

/-- What stands in a text, from the front on. -/
def points : Raw → List Point
  | proper s => s.toList.map .char
  | broken front half rest => front.toList.map .char ++ .half half :: rest

/-- The characters at the front, and what stands after them. -/
def frontChars : List Point → List Char × List Point
  | .char c :: points =>
    let (front, rest) := frontChars points
    (c :: front, rest)
  | points => ([], points)

/-- The text in which given things stand. -/
def ofPoints (points : List Point) : Raw :=
  match frontChars points with
  | (front, .half half :: rest) => broken (String.ofList front) half rest
  | (front, _) => proper (String.ofList front)

/-- The text with characters after it. -/
def append (addition : String) : Raw → Raw
  | proper s => proper (s ++ addition)
  | broken front half rest => broken front half (rest ++ addition.toList.map .char)

/-- Whether a character stands in a text. -/
def contains (c : Char) : Raw → Bool
  | proper s => s.toList.contains c
  | broken front _ rest => front.toList.contains c || rest.contains (.char c)

/-- A text of characters alone. -/
def IsProper : Raw → Prop
  | proper _ => True
  | broken _ _ _ => False

/-- Characters come before the things that stand after them. -/
theorem frontChars_append (s : List Char) (points : List Point) :
    frontChars (s.map .char ++ points) =
      (s ++ (frontChars points).1, (frontChars points).2) := by
  induction s with
  | nil => rfl
  | cons c s ih => simp only [List.map_cons, List.cons_append, frontChars, ih]

/-- Characters alone are a proper text. -/
@[simp] theorem ofPoints_map_char (s : List Char) :
    ofPoints (s.map .char) = proper (String.ofList s) := by
  have h : frontChars (s.map .char) = (s, []) := by
    simpa [frontChars] using frontChars_append s []
  rw [ofPoints, h]

/-- A text is the one in which its things stand. -/
theorem ofPoints_points (text : Raw) : ofPoints text.points = text := by
  cases text with
  | proper s => rw [points, ofPoints_map_char, String.ofList_toList]
  | broken front half rest =>
    have h : frontChars (broken front half rest).points = (front.toList, .half half :: rest) := by
      rw [points, frontChars_append, frontChars, List.append_nil]
      rintro c points ⟨⟩
    rw [ofPoints, h]
    simp only [String.ofList_toList]

/-- The things that stand in a text are those that it was made of. -/
theorem points_ofPoints (points : List Point) : (ofPoints points).points = points := by
  have h : ∀ points : List Point,
      (frontChars points).1.map .char ++ (frontChars points).2 = points ∧
        ∀ c rest, (frontChars points).2 ≠ .char c :: rest := by
    intro points
    induction points with
    | nil => simp [frontChars]
    | cons point points ih =>
      cases point with
      | char c => exact ⟨congrArg (Point.char c :: ·) ih.1, ih.2⟩
      | half half => simp [frontChars]
  obtain ⟨happend, hrest⟩ := h points
  unfold ofPoints
  generalize frontChars points = parts at happend hrest
  obtain ⟨front, rest⟩ := parts
  dsimp only at happend hrest
  cases rest with
  | nil => simpa [Raw.points] using happend
  | cons point rest =>
    cases point with
    | char c => exact absurd rfl (hrest c rest)
    | half half => simpa [Raw.points] using happend

end Raw

/-! ## What cannot be written -/

/-- A place at which a text cannot be written. -/
structure EncodeFault where
  /-- The position of the first half concerned. -/
  start : Nat
  /-- That half. -/
  first : Half
  /-- How many halves are concerned. -/
  count : Nat
deriving DecidableEq, Repr

namespace EncodeFault

/-- The fault in words. -/
def text (fault : EncodeFault) : String :=
  let place :=
    if fault.count = 1 then
      "character '\\u" ++ String.ofList (hexDigits 4 fault.first.unit) ++ "' in position " ++
        toString fault.start
    else
      "characters in position " ++ toString fault.start ++ "-" ++
        toString (fault.start + fault.count - 1)
  "'utf-8' codec can't encode " ++ place ++ ": surrogates not allowed"

end EncodeFault

/-- Whether half of a pair stands at a place. -/
def Point.isHalf : Point → Bool
  | char _ => false
  | half _ => true

/-- The first halves in a row that keep a text from being written, where halves of some kind do not
when they come first. -/
def faultFrom (passes : Half → Bool) (position : Nat) : List Point → Option EncodeFault
  | [] => none
  | .char _ :: points => faultFrom passes (position + 1) points
  | .half half :: points =>
    if passes half then faultFrom passes (position + 1) points
    else some ⟨position, half, 1 + (points.takeWhile Point.isHalf).length⟩

/-- Characters alone can be written. -/
theorem faultFrom_map_char (passes : Half → Bool) (s : List Char) (position : Nat) :
    faultFrom passes position (s.map .char) = none := by
  induction s generalizing position with
  | nil => rfl
  | cons c s ih => exact ih (position + 1)

/-- A text can be written if all of its halves pass, and only then. -/
theorem faultFrom_eq_none_iff {passes : Half → Bool} {points : List Point} {position : Nat} :
    faultFrom passes position points = none ↔ ∀ half, .half half ∈ points → passes half = true := by
  induction points generalizing position with
  | nil => simp [faultFrom]
  | cons point points ih =>
    cases point with
    | char c => simp [faultFrom, ih]
    | half half =>
      by_cases h : passes half = true
      · simp [faultFrom, h, ih]
      · simp [faultFrom, h]

end ChatDice.Text
