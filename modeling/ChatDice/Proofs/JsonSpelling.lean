import ChatDice.Json.Reader
import ChatDice.Proofs.Numerals

/-!
# How JSON is spelled

The relations of this file say which texts of JSON stand for which values. They are written down
without the readers: a text is put together from its parts, left to right, and its meaning along
with it.

* `SpellsText`: the inside of a text with its code units. What code units stand for is `textOf`;
  they are `Paired` with characters if no half of a pair stands alone.
* `SpellsPlain`: a word, or a number with its sign, its digits, its fraction and its exponent.
* `Spells`: values, the items between the brackets of a list, and the members between those of an
  object, with blanks wherever they may stand.
* `SpellsObject`: a document that is one object, with its members as they are given.

An object may give a name more than once. The members as they are given are a `Given`, in the order
of the text; the object has of each name the value that comes last (`last?`, `collect`).
-/

namespace ChatDice.Json

open Numeral (Digits IsNumeral)

/-- Blanks, possibly none. -/
def Spaces (s : List Char) : Prop :=
  ∀ c ∈ s, isSpace c = true

instance (s : List Char) : Decidable (Spaces s) :=
  List.decidableBAll (fun c : Char => isSpace c = true) s

/-! ### Texts -/

/-- The inside of a text with its code units. A character that is no quote, no backslash and no
control character may stand as it is, some characters have an escape with a letter, and every unit
can be written in four digits. -/
inductive SpellsText : List Char → List Nat → Prop
  | empty : SpellsText [] []
  | plain {c : Char} {s : List Char} {units : List Nat} (hquote : c ≠ '"') (hslash : c ≠ '\\')
      (hc : 0x20 ≤ c.toNat) (h : SpellsText s units) : SpellsText (c :: s) (c.toNat :: units)
  | escape {letter c : Char} {s : List Char} {units : List Nat}
      (hletter : simpleEscape? letter = some c) (h : SpellsText s units) :
      SpellsText ('\\' :: letter :: s) (c.toNat :: units)
  | codePoint {a b c d : Char} {unit : Nat} {s : List Char} {units : List Nat}
      (hunit : codeUnit? a b c d = some unit) (h : SpellsText s units) :
      SpellsText ('\\' :: 'u' :: a :: b :: c :: d :: s) (unit :: units)

/-- Code units with the characters that they encode: a character is its code point, or the two
halves of a pair, and no half stands alone. -/
inductive Paired : List Nat → List Char → Prop
  | empty : Paired [] []
  | single (c : Char) {units : List Nat} {s : List Char} (h : Paired units s) :
      Paired (c.toNat :: units) (c :: s)
  | pair {high low : Nat} {units : List Nat} {s : List Char} (hhigh : isHigh high = true)
      (hlow : isLow low = true) (h : Paired units s) :
      Paired (high :: low :: units)
        (Char.ofNat (0x10000 + (high - 0xD800) * 0x400 + (low - 0xDC00)) :: s)

/-! ### Words and numbers -/

/-- A sign before a number, with whether it is a minus. -/
inductive SpellsSign : List Char → Bool → Prop
  | absent : SpellsSign [] false
  | minus : SpellsSign ['-'] true

/-- The digits before the point: one zero, or digits of which the first is none. -/
inductive SpellsWhole : List Char → Prop
  | zero : SpellsWhole ['0']
  | digits {c : Char} {digits : List Char} (hc : c.isDigit = true) (hne : c ≠ '0')
      (h : Digits digits) : SpellsWhole (c :: digits)

/-- A fraction with its digits: nothing, or a point and a numeral. -/
inductive SpellsFraction : List Char → List Char → Prop
  | absent : SpellsFraction [] []
  | present {digits : List Char} (h : IsNumeral digits) : SpellsFraction ('.' :: digits) digits

/-- The sign of an exponent, with whether it is a minus. -/
inductive SpellsExponentSign : List Char → Bool → Prop
  | absent : SpellsExponentSign [] false
  | plus : SpellsExponentSign ['+'] false
  | minus : SpellsExponentSign ['-'] true

/-- An exponent: nothing, or a letter, a sign and a numeral. -/
inductive SpellsExponent : List Char → Option Int → Prop
  | absent : SpellsExponent [] none
  | present {c : Char} {sign digits : List Char} {negative : Bool} (hc : c = 'e' ∨ c = 'E')
      (hsign : SpellsExponentSign sign negative) (h : IsNumeral digits) :
      SpellsExponent (c :: (sign ++ digits))
        (some (if negative then -(Numeral.value digits : Int) else Numeral.value digits))

/-- A word, or a number that has a value. -/
inductive SpellsPlain : List Char → Value → Prop
  | word {s : List Char} {value : Value} (h : (s, value) ∈ wordValues) : SpellsPlain s value
  | number {sign whole fraction exponent digits : List Char} {negative : Bool} {power : Option Int}
      {value : Value} (hsign : SpellsSign sign negative) (hwhole : SpellsWhole whole)
      (hfraction : SpellsFraction fraction digits) (hexponent : SpellsExponent exponent power)
      (hvalue : numberValue negative whole digits power = .ok value) :
      SpellsPlain (sign ++ (whole ++ (fraction ++ exponent))) value

/-! ### Lists and objects -/

/-- A value as it is given: a text in code units, or another value. -/
inductive Source where
  /-- A text. -/
  | text (units : List Nat)
  /-- A value that is no text. -/
  | other (value : Value)

/-- The value that is given. -/
def Source.value : Source → Value
  | text units => .text (textOf units)
  | other value => value

/-- What a value that is given means, unless it is a text in which half of a pair stands alone. -/
inductive Source.Means : Source → Value → Prop
  | text {units : List Nat} {s : String} (h : Paired units s.toList) :
      Means (.text units) (.string s)
  | other (value : Value) : Means (.other value) value

/-- The members of an object as they are given, in order. -/
abbrev Given := List (Text.Raw × Source)

/-- What a name is given last, if it is given anything. -/
def last? (name : Text.Raw) : Given → Option Source
  | [] => none
  | member :: given => last? name given <|> if member.1 = name then some member.2 else none

/-- The members of an object, one for each name, after those already known. -/
def collect (known : Members) (given : Given) : Members :=
  given.foldl (fun known member => known.put member.1 member.2.value) known

/-- What an object says about a name: what the last value means that the name is given, or a
standard value if it is given none. -/
inductive Given.Says (given : Given) (name : Text.Raw) (standard : Value) : Value → Prop
  | last {source : Source} {value : Value} (hlast : last? name given = some source)
      (h : source.Means value) : Says given name standard value
  | absent (hlast : last? name given = none) : Says given name standard standard

/-- The parts of a document that other parts stand in. -/
inductive Part where
  /-- A value. -/
  | value (source : Source)
  /-- The items between the brackets of a list, at least one. -/
  | items (values : List Value)
  /-- The members between the brackets of an object, at least one. -/
  | members (given : Given)

/-- The text of a part, in which lists and objects nest at most `room` deep. -/
inductive Spells : Nat → List Char → Part → Prop
  | plain {room : Nat} {s : List Char} {value : Value} (h : SpellsPlain s value) :
      Spells room s (.value (.other value))
  | text {room : Nat} {s : List Char} {units : List Nat} (h : SpellsText s units) :
      Spells room ('"' :: (s ++ ['"'])) (.value (.text units))
  | emptyList {room : Nat} {w : List Char} (hw : Spaces w) :
      Spells (room + 1) ('[' :: (w ++ [']'])) (.value (.other (.array [])))
  | list {room : Nat} {s : List Char} {values : List Value} (h : Spells room s (.items values)) :
      Spells (room + 1) ('[' :: (s ++ [']'])) (.value (.other (.array values)))
  | emptyObject {room : Nat} {w : List Char} (hw : Spaces w) :
      Spells (room + 1) ('{' :: (w ++ ['}'])) (.value (.other (.object [])))
  | object {room : Nat} {s : List Char} {given : Given} (h : Spells room s (.members given)) :
      Spells (room + 1) ('{' :: (s ++ ['}'])) (.value (.other (.object (collect [] given))))
  | lastItem {room : Nat} {w₁ s w₂ : List Char} {source : Source} (hw₁ : Spaces w₁)
      (h : Spells room s (.value source)) (hw₂ : Spaces w₂) :
      Spells room (w₁ ++ (s ++ w₂)) (.items [source.value])
  | nextItem {room : Nat} {w₁ s w₂ t : List Char} {source : Source} {values : List Value}
      (hw₁ : Spaces w₁) (h : Spells room s (.value source)) (hw₂ : Spaces w₂)
      (ht : Spells room t (.items values)) :
      Spells room (w₁ ++ (s ++ (w₂ ++ ',' :: t))) (.items (source.value :: values))
  | lastMember {room : Nat} {w₁ name w₂ w₃ s w₄ : List Char} {units : List Nat} {source : Source}
      (hw₁ : Spaces w₁) (hname : SpellsText name units) (hw₂ : Spaces w₂) (hw₃ : Spaces w₃)
      (h : Spells room s (.value source)) (hw₄ : Spaces w₄) :
      Spells room (w₁ ++ '"' :: (name ++ '"' :: (w₂ ++ ':' :: (w₃ ++ (s ++ w₄)))))
        (.members [(textOf units, source)])
  | nextMember {room : Nat} {w₁ name w₂ w₃ s w₄ t : List Char} {units : List Nat} {source : Source}
      {given : Given} (hw₁ : Spaces w₁) (hname : SpellsText name units) (hw₂ : Spaces w₂)
      (hw₃ : Spaces w₃) (h : Spells room s (.value source)) (hw₄ : Spaces w₄)
      (ht : Spells room t (.members given)) :
      Spells room (w₁ ++ '"' :: (name ++ '"' :: (w₂ ++ ':' :: (w₃ ++ (s ++ (w₄ ++ ',' :: t))))))
        (.members ((textOf units, source) :: given))

/-- A document that is one object, with blanks around it, and the members that it gives. In the
object, lists and objects nest at most `room` deep. -/
inductive SpellsObject (room : Nat) : List Char → Given → Prop
  | empty {w₁ w₂ w₃ : List Char} (hw₁ : Spaces w₁) (hw₂ : Spaces w₂) (hw₃ : Spaces w₃) :
      SpellsObject room (w₁ ++ ('{' :: (w₂ ++ ['}']) ++ w₃)) []
  | members {w₁ s w₃ : List Char} {given : Given} (hw₁ : Spaces w₁)
      (h : Spells room s (.members given)) (hw₃ : Spaces w₃) :
      SpellsObject room (w₁ ++ ('{' :: (s ++ ['}']) ++ w₃)) given

/-! ### What is given last -/

/-- Of the values that a name is given, the last one is left. -/
theorem get?_collect (name : Text.Raw) (known : Members) (given : Given) :
    (collect known given).get? name =
      ((last? name given).map Source.value <|> known.get? name) := by
  induction given generalizing known with
  | nil => rfl
  | cons member given ih =>
    show (collect (known.put member.1 member.2.value) given).get? name = _
    rw [ih, last?]
    cases last? name given with
    | some source => rfl
    | none =>
      by_cases hname : member.1 = name
      · subst hname
        simp
      · simp [hname, Members.get?_put_of_ne (Ne.symm hname)]

/-! ### Pairs -/

/-- No character is half of a pair. -/
theorem toNat_lt_or_le (c : Char) : c.toNat < 0xD800 ∨ 0xE000 ≤ c.toNat := by
  have h : c.toNat.isValidChar := c.valid
  unfold Nat.isValidChar at h
  omega

/-- The code point of a character is no first half of a pair. -/
theorem isHigh_toNat (c : Char) : isHigh c.toNat = false := by
  have h := toNat_lt_or_le c
  simp only [isHigh, Bool.and_eq_false_iff, decide_eq_false_iff_not]
  omega

/-- A code point stands for its character. -/
theorem unitPoint_toNat (c : Char) : unitPoint c.toNat = .char c := by
  have h := toNat_lt_or_le c
  have hhalf : ¬(0xD800 ≤ c.toNat ∧ c.toNat < 0xE000) := by omega
  rw [unitPoint, dif_neg hhalf, Char.ofNat_toNat]

/-- A code point stands for its character, whatever comes after it. -/
theorem joinUnits_toNat_cons (c : Char) (units : List Nat) :
    joinUnits (c.toNat :: units) = .char c :: joinUnits units := by
  cases units with
  | nil =>
    show [unitPoint c.toNat] = [.char c]
    rw [unitPoint_toNat]
  | cons unit units =>
    have hpair : ¬(isHigh c.toNat && isLow unit) = true := by simp [isHigh_toNat]
    rw [joinUnits, if_neg hpair, unitPoint_toNat]

/-- Units stand for the characters that they are paired with. -/
theorem Paired.joinUnits_eq {units : List Nat} {s : List Char} (h : Paired units s) :
    joinUnits units = s.map .char := by
  induction h with
  | empty => rfl
  | single c h ih => rw [joinUnits_toNat_cons, ih, List.map_cons]
  | pair hhigh hlow h ih => rw [joinUnits, if_pos (by simp [hhigh, hlow]), ih, List.map_cons]

/-- No half of a pair stands alone in what units stand for that are paired with characters. -/
theorem Paired.textOf_eq {units : List Nat} {s : String} (h : Paired units s.toList) :
    textOf units = .proper s := by
  rw [textOf, h.joinUnits_eq, Text.Raw.ofPoints_map_char, String.ofList_toList]

/-- The value that is given is what it means. -/
theorem Source.Means.value_eq {source : Source} {value : Value} (h : source.Means value) :
    source.value = value := by
  cases h with
  | text h => exact congrArg Value.text h.textOf_eq
  | other => rfl

/-- Characters of which each is its code point. -/
theorem paired_map_toNat (s : List Char) : Paired (s.map Char.toNat) s := by
  induction s with
  | nil => exact .empty
  | cons c s ih => exact .single c ih

/-- What an object says about a name is the value that it has there, or else the standard one. -/
theorem Given.Says.getD_get? {given : Given} {name : String} {standard value : Value}
    (h : given.Says name standard value) :
    ((collect [] given).get? name).getD standard = value := by
  rw [get?_collect]
  cases h with
  | last hlast h => simp [hlast, h.value_eq]
  | absent hlast => simp [hlast, Members.get?]

/-- A text in which nothing has to be escaped spells itself. -/
theorem spellsText_of_plain {s : List Char}
    (h : ∀ c ∈ s, c ≠ '"' ∧ c ≠ '\\' ∧ 0x20 ≤ c.toNat) : SpellsText s (s.map Char.toNat) := by
  induction s with
  | nil => exact .empty
  | cons c s ih =>
    obtain ⟨⟨hquote, hslash, hc⟩, hs⟩ := List.forall_mem_cons.mp h
    exact .plain hquote hslash hc (ih hs)

end ChatDice.Json
