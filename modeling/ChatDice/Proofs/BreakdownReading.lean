import ChatDice.Dice.Evaluation
import ChatDice.Proofs.Spelling
import ChatDice.Proofs.TermReading
import Mathlib.Algebra.Ring.Int.Defs

/-!
# Reading a breakdown

A breakdown shows a fragment for every term, a number or the dice that count, with the operators
between the fragments. The plus sign stands between two fragments and also between two dice of one
group. The relations of this file say which texts show which fragments, and `read?` reads a text
from left to right.

Main statement (`read?_eq_some_iff`): the two are the same, and so a text shows its fragments in one
way only. A numeral reaches as far as there are digits (`numeral?_eq_some_iff`), a parenthesis is
only ever the first or the last character of a group, and so every fragment ends where it must.

Numbers are printed without a sign here, and what is printed in this way shows what was printed
(`showsFragment_text`). A breakdown grows at its end, by a sign and a fragment (`Shows.concat`).
-/

namespace ChatDice

/-- What a breakdown shows of one term. -/
inductive Fragment where
  /-- A number. -/
  | number (n : Int)
  /-- The dice that count, in the order in which they are shown. -/
  | dice (selected : List Int)
deriving DecidableEq, Repr

namespace Fragment

/-- The number that a fragment stands for. -/
def value : Fragment → Int
  | number n => n
  | dice selected => selected.sum

/-- The text of a fragment. -/
def text : Fragment → String
  | number n => toString n
  | dice selected => showDice selected

/-- A fragment in which nothing is below zero. -/
def Unsigned : Fragment → Prop
  | number n => 0 ≤ n
  | dice selected => ∀ face ∈ selected, 0 ≤ face

end Fragment

namespace Breakdown

open Numeral (IsNumeral toList_toString_natCast)

/-! ### Texts of fragments -/

/-- The dice of a group between the parentheses: at least one numeral, with plus signs between. -/
inductive ShowsFaces : List Char → List Int → Prop
  | last {digits : List Char} (h : IsNumeral digits) : ShowsFaces digits [(Numeral.value digits : Int)]
  | next {digits rest : List Char} {faces : List Int} (h : IsNumeral digits)
      (hrest : ShowsFaces rest faces) :
      ShowsFaces (digits ++ ' ' :: '+' :: ' ' :: rest) ((Numeral.value digits : Int) :: faces)

/-- A fragment: a numeral, or dice between parentheses, perhaps none. -/
inductive ShowsFragment : List Char → Fragment → Prop
  | number {digits : List Char} (h : IsNumeral digits) :
      ShowsFragment digits (.number (Numeral.value digits))
  | noDice : ShowsFragment ['(', ')'] (.dice [])
  | dice {text : List Char} {faces : List Int} (h : ShowsFaces text faces) :
      ShowsFragment ('(' :: (text ++ [')'])) (.dice faces)

/-- Operators with fragments, each operator between two spaces. -/
inductive ShowsLinks : List Char → List (Operator × Fragment) → Prop
  | none : ShowsLinks [] []
  | link {sign : Char} {operator : Operator} {text rest : List Char} {fragment : Fragment}
      {links : List (Operator × Fragment)} (hsign : Operator.ofChar? sign = some operator)
      (h : ShowsFragment text fragment) (hrest : ShowsLinks rest links) :
      ShowsLinks (' ' :: sign :: ' ' :: (text ++ rest)) ((operator, fragment) :: links)

/-- A breakdown: a fragment, which is added, and what is linked to it. -/
inductive Shows : List Char → List (Operator × Fragment) → Prop
  | intro {text rest : List Char} {fragment : Fragment} {links : List (Operator × Fragment)}
      (h : ShowsFragment text fragment) (hrest : ShowsLinks rest links) :
      Shows (text ++ rest) ((.add, fragment) :: links)

/-! ### Numerals -/

/-- Reads a numeral off the front of a text, as far as there are digits. -/
def numeral? (s : List Char) : Option (Nat × List Char) :=
  if s.takeWhile Char.isDigit = [] then none
  else some (Numeral.value (s.takeWhile Char.isDigit), s.dropWhile Char.isDigit)

/-- A numeral is read that no digit follows. -/
theorem numeral?_eq_some_iff {s rest : List Char} {n : Nat} :
    numeral? s = some (n, rest) ↔
      ∃ digits, IsNumeral digits ∧ Numeral.value digits = n ∧ s = digits ++ rest ∧
        ∀ c ∈ rest.head?, c.isDigit = false := by
  unfold numeral?
  constructor
  · intro h
    split at h
    · cases h
    · next hne =>
      cases h
      refine ⟨_, ⟨hne, fun c hc => List.mem_takeWhile_imp hc⟩, rfl,
        List.takeWhile_append_dropWhile.symm, fun c hc => ?_⟩
      have hhead := List.head?_dropWhile_not Char.isDigit s
      rw [show (s.dropWhile Char.isDigit).head? = some c from hc] at hhead
      exact hhead
  · rintro ⟨digits, hdigits, rfl, rfl, hrest⟩
    rw [Command.takeWhile_append_of_head hdigits.digits hrest,
      Command.dropWhile_append_of_head hdigits.digits hrest, if_neg hdigits.ne_nil]

/-- Reading a numeral passes over at least one character. -/
theorem length_lt_of_numeral? {s rest : List Char} {n : Nat} (h : numeral? s = some (n, rest)) :
    rest.length < s.length := by
  obtain ⟨digits, hdigits, -, rfl, -⟩ := numeral?_eq_some_iff.mp h
  have hpos := List.length_pos_of_ne_nil hdigits.ne_nil
  rw [List.length_append]
  omega

/-! ### Groups of dice -/

/-- Reads the dice of a group, with the closing parenthesis. -/
def faces? (s : List Char) : Option (List Int × List Char) :=
  match _h : numeral? s with
  | some (n, ')' :: rest) => some ([(n : Int)], rest)
  | some (n, ' ' :: '+' :: ' ' :: rest) =>
    (faces? rest).map fun (faces, rest) => ((n : Int) :: faces, rest)
  | _ => none
termination_by s.length
decreasing_by
  have hlt := length_lt_of_numeral? _h
  simp only [List.length_cons] at hlt
  omega

/-- A numeral before the closing bracket is the last die. -/
theorem faces?_of_last {s rest : List Char} {n : Nat} (h : numeral? s = some (n, ')' :: rest)) :
    faces? s = some ([(n : Int)], rest) := by
  rw [faces?]
  split <;> simp_all

/-- After a numeral and a plus sign the other dice are read. -/
theorem faces?_of_next {s rest : List Char} {n : Nat}
    (h : numeral? s = some (n, ' ' :: '+' :: ' ' :: rest)) :
    faces? s = (faces? rest).map fun (faces, rest) => ((n : Int) :: faces, rest) := by
  rw [faces?]
  split <;> simp_all

/-- A group is read to its closing parenthesis, whatever stands after it. -/
theorem faces?_of_shows {text : List Char} {faces : List Int} (h : ShowsFaces text faces)
    (rest : List Char) : faces? (text ++ ')' :: rest) = some (faces, rest) := by
  induction h with
  | @last digits h =>
    refine faces?_of_last (numeral?_eq_some_iff.mpr ⟨digits, h, rfl, rfl, ?_⟩)
    rintro c ⟨⟩
    rfl
  | @next digits text faces h hrest ih =>
    have hread : numeral? (digits ++ ' ' :: '+' :: ' ' :: (text ++ ')' :: rest)) =
        some (Numeral.value digits, ' ' :: '+' :: ' ' :: (text ++ ')' :: rest)) := by
      refine numeral?_eq_some_iff.mpr ⟨digits, h, rfl, rfl, ?_⟩
      rintro c ⟨⟩
      rfl
    rw [List.append_assoc]
    simp only [List.cons_append]
    rw [faces?_of_next hread, ih]
    rfl

/-- What is read as dice shows them, up to the closing bracket. -/
theorem shows_of_faces? {s rest : List Char} {faces : List Int} (h : faces? s = some (faces, rest)) :
    ∃ text, ShowsFaces text faces ∧ s = text ++ ')' :: rest := by
  fun_induction faces? s generalizing faces with
  | case1 s n rest' hread =>
    cases h
    obtain ⟨digits, hdigits, rfl, rfl, -⟩ := numeral?_eq_some_iff.mp hread
    exact ⟨digits, .last hdigits, rfl⟩
  | case2 s n rest' hread ih =>
    obtain ⟨digits, hdigits, rfl, rfl, -⟩ := numeral?_eq_some_iff.mp hread
    obtain ⟨⟨faces', rest''⟩, hfaces, heq⟩ := Option.map_eq_some_iff.mp h
    cases heq
    obtain ⟨text, htext, rfl⟩ := ih hfaces
    exact ⟨_, .next hdigits htext, by simp⟩
  | case3 => cases h

/-! ### Fragments -/

/-- Reads a fragment off the front of a text. -/
def fragment? : List Char → Option (Fragment × List Char)
  | '(' :: ')' :: rest => some (.dice [], rest)
  | '(' :: s => (faces? s).map fun (faces, rest) => (.dice faces, rest)
  | s => (numeral? s).map fun (n, rest) => (.number n, rest)

/-- A text that shows dice begins with a digit. -/
theorem ShowsFaces.head_ne {text : List Char} {faces : List Int} (h : ShowsFaces text faces) :
    ∃ c s, text = c :: s ∧ c.isDigit = true := by
  obtain ⟨digits, rest, hdigits, rfl⟩ : ∃ digits rest, IsNumeral digits ∧ text = digits ++ rest := by
    cases h with
    | last h => exact ⟨_, [], h, (List.append_nil _).symm⟩
    | next h hrest => exact ⟨_, _, h, rfl⟩
  obtain ⟨c, s, rfl⟩ := List.exists_cons_of_ne_nil hdigits.ne_nil
  exact ⟨c, s ++ rest, rfl, hdigits.digits c List.mem_cons_self⟩

/-- A fragment is read to its end if no digit follows, which could belong to a numeral. -/
theorem fragment?_of_shows {text rest : List Char} {fragment : Fragment}
    (h : ShowsFragment text fragment) (hrest : ∀ c ∈ rest.head?, c.isDigit = false) :
    fragment? (text ++ rest) = some (fragment, rest) := by
  cases h with
  | number hdigits =>
    have hread : numeral? (text ++ rest) = some (Numeral.value text, rest) :=
      numeral?_eq_some_iff.mpr ⟨text, hdigits, rfl, rfl, hrest⟩
    obtain ⟨c, s, rfl⟩ := List.exists_cons_of_ne_nil hdigits.ne_nil
    have hc : c ≠ '(' := by
      rintro rfl
      exact absurd (hdigits.digits _ List.mem_cons_self) (by decide)
    unfold fragment?
    split <;> simp_all
  | noDice => rfl
  | dice hfaces =>
    have hread := faces?_of_shows hfaces rest
    obtain ⟨c, s, rfl, hc⟩ := hfaces.head_ne
    have hc' : c ≠ ')' := by
      rintro rfl
      exact absurd hc (by decide)
    unfold fragment?
    split <;> simp_all

/-- What is read as a fragment shows it. -/
theorem shows_of_fragment? {s rest : List Char} {fragment : Fragment}
    (h : fragment? s = some (fragment, rest)) :
    ∃ text, ShowsFragment text fragment ∧ text ≠ [] ∧ s = text ++ rest := by
  unfold fragment? at h
  split at h
  · cases h
    exact ⟨_, .noDice, List.cons_ne_nil _ _, rfl⟩
  · obtain ⟨⟨faces, rest'⟩, hfaces, heq⟩ := Option.map_eq_some_iff.mp h
    cases heq
    obtain ⟨text, htext, rfl⟩ := shows_of_faces? hfaces
    exact ⟨_, .dice htext, List.cons_ne_nil _ _, by simp⟩
  · obtain ⟨⟨n, rest'⟩, hread, heq⟩ := Option.map_eq_some_iff.mp h
    cases heq
    obtain ⟨digits, hdigits, rfl, rfl, -⟩ := numeral?_eq_some_iff.mp hread
    exact ⟨digits, .number hdigits, hdigits.ne_nil, rfl⟩

/-- Reading a fragment passes over at least one character. -/
theorem length_lt_of_fragment? {s rest : List Char} {fragment : Fragment}
    (h : fragment? s = some (fragment, rest)) : rest.length < s.length := by
  obtain ⟨text, -, hne, rfl⟩ := shows_of_fragment? h
  have hpos := List.length_pos_of_ne_nil hne
  rw [List.length_append]
  omega

/-! ### Breakdowns -/

/-- Reads operators with fragments up to the end of a text. -/
def links? : List Char → Option (List (Operator × Fragment))
  | [] => some []
  | ' ' :: sign :: ' ' :: s =>
    match Operator.ofChar? sign, _h : fragment? s with
    | some operator, some (fragment, rest) => (links? rest).map ((operator, fragment) :: ·)
    | _, _ => none
  | _ => none
termination_by s => s.length
decreasing_by
  have hlt := length_lt_of_fragment? _h
  simp only [List.length_cons]
  omega

/-- Reads a breakdown. The first fragment is added. -/
def read? (s : List Char) : Option (List (Operator × Fragment)) :=
  match fragment? s with
  | some (fragment, rest) => (links? rest).map ((.add, fragment) :: ·)
  | none => none

/-- What is linked to a fragment begins with a space, so no digit follows the fragment. -/
theorem ShowsLinks.head?_isDigit {rest : List Char} {links : List (Operator × Fragment)}
    (h : ShowsLinks rest links) : ∀ c ∈ rest.head?, c.isDigit = false := by
  cases h with
  | none => rintro c ⟨⟩
  | link hsign hfragment hrest =>
    rintro c ⟨⟩
    rfl

/-- A link is read before the links after it. -/
theorem links?_of_link {sign : Char} {operator : Operator} {fragment : Fragment}
    {s rest : List Char} (hsign : Operator.ofChar? sign = some operator)
    (h : fragment? s = some (fragment, rest)) :
    links? (' ' :: sign :: ' ' :: s) = (links? rest).map ((operator, fragment) :: ·) := by
  rw [links?]
  split <;> simp_all

/-- Exactly the texts that show links are read as those links. -/
theorem links?_eq_some_iff {s : List Char} {links : List (Operator × Fragment)} :
    links? s = some links ↔ ShowsLinks s links := by
  constructor
  · intro h
    fun_induction links? s generalizing links with
    | case1 =>
      cases h
      exact .none
    | case2 sign s operator fragment rest hread hsign ih =>
      obtain ⟨links', hlinks, rfl⟩ := Option.map_eq_some_iff.mp h
      obtain ⟨text, htext, -, rfl⟩ := shows_of_fragment? hread
      exact .link hsign htext (ih hlinks)
    | case3 => cases h
    | case4 => cases h
  · intro h
    induction h with
    | none => rw [links?]
    | link hsign hfragment hrest ih =>
      have hread := fragment?_of_shows hfragment hrest.head?_isDigit
      rw [links?_of_link hsign hread, ih]
      rfl

/-- A text is read as the fragments that it shows, so it shows no others. -/
theorem read?_eq_some_iff {s : List Char} {items : List (Operator × Fragment)} :
    read? s = some items ↔ Shows s items := by
  unfold read?
  constructor
  · intro h
    split at h
    · next fragment rest hread =>
      obtain ⟨links, hlinks, rfl⟩ := Option.map_eq_some_iff.mp h
      obtain ⟨text, htext, -, rfl⟩ := shows_of_fragment? hread
      exact .intro htext (links?_eq_some_iff.mp hlinks)
    · cases h
  · rintro ⟨hfragment, hrest⟩
    rw [fragment?_of_shows hfragment hrest.head?_isDigit]
    simp only [links?_eq_some_iff.mpr hrest, Option.map_some]

/-! ### One more fragment -/

/-- One more link may be shown at the end. -/
theorem ShowsLinks.concat {text t : List Char} {links : List (Operator × Fragment)} {sign : Char}
    {operator : Operator} {fragment : Fragment} (h : ShowsLinks text links)
    (hsign : Operator.ofChar? sign = some operator) (ht : ShowsFragment t fragment) :
    ShowsLinks (text ++ ' ' :: sign :: ' ' :: t) (links ++ [(operator, fragment)]) := by
  induction h with
  | none => simpa using ShowsLinks.link hsign ht .none
  | link hsign' hfragment hrest ih => simpa using ShowsLinks.link hsign' hfragment ih

/-- A sign and a fragment written after a breakdown are shown after what it shows. -/
theorem Shows.concat {text t : List Char} {items : List (Operator × Fragment)} {sign : Char}
    {operator : Operator} {fragment : Fragment} (h : Shows text items)
    (hsign : Operator.ofChar? sign = some operator) (ht : ShowsFragment t fragment) :
    Shows (text ++ ' ' :: sign :: ' ' :: t) (items ++ [(operator, fragment)]) := by
  obtain ⟨hfirst, hlinks⟩ := h
  rw [List.append_assoc]
  exact .intro hfirst (hlinks.concat hsign ht)

/-! ### What is printed -/

/-- A numeral shows its number. -/
theorem showsFragment_number {n : Int} (h : 0 ≤ n) :
    ShowsFragment (toString n).toList (.number n) := by
  obtain ⟨n, rfl⟩ := Int.eq_ofNat_of_zero_le h
  have hshows := ShowsFragment.number (Numeral.isNumeral_toDigits n)
  rw [Numeral.value_toDigits] at hshows
  rw [toList_toString_natCast]
  exact hshows

/-- Dice that are written with plus signs between them are shown. -/
theorem showsFaces_intercalate {faces : List Int} (hne : faces ≠ []) (h : ∀ face ∈ faces, 0 ≤ face) :
    ShowsFaces (" + ".intercalate (faces.map toString)).toList faces := by
  induction faces with
  | nil => exact absurd rfl hne
  | cons face faces ih =>
    obtain ⟨hface, hfaces⟩ := List.forall_mem_cons.mp h
    obtain ⟨n, rfl⟩ := Int.eq_ofNat_of_zero_le hface
    have hdigits := Numeral.isNumeral_toDigits n
    cases faces with
    | nil =>
      have hshows := ShowsFaces.last hdigits
      rw [Numeral.value_toDigits] at hshows
      rw [List.map_singleton, String.intercalate_singleton, toList_toString_natCast]
      exact hshows
    | cons face' faces =>
      have hshows := ShowsFaces.next hdigits (ih (List.cons_ne_nil _ _) hfaces)
      have htext : (" + ".intercalate (((n : Int) :: face' :: faces).map toString)).toList =
          Nat.toDigits 10 n ++
            ' ' :: '+' :: ' ' :: (" + ".intercalate ((face' :: faces).map toString)).toList := by
        simp only [List.map_cons, String.intercalate_cons_cons, String.toList_append,
          toList_toString_natCast, List.append_assoc]
        rfl
      rw [Numeral.value_toDigits] at hshows
      rw [htext]
      exact hshows

/-- An unsigned fragment in print shows the fragment. -/
theorem showsFragment_text {fragment : Fragment} (h : fragment.Unsigned) :
    ShowsFragment fragment.text.toList fragment := by
  cases fragment with
  | number n => exact showsFragment_number h
  | dice selected =>
    simp only [Fragment.text, showDice, String.toList_append]
    by_cases hne : selected = []
    · subst hne
      exact .noDice
    · exact .dice (showsFaces_intercalate hne h)

end Breakdown

end ChatDice
