import ChatDice.Text.Blank
import ChatDice.Text.Lines
import ChatDice.Text.Utf8

/-!
# The environment file

The token that the program signs in with comes from the environment. A file of assignments may add
to the environment, but it never replaces a variable that is set already, not even one that is set
to nothing. How such a file is read is the matter of a library: the program works with any `Loader`,
of which nothing is known but that. The rest of this module is one, `Loader.reader`.

An assignment is a name, an equals sign and a value, perhaps with the word `export` before it. The
value may stand between single quotes or double quotes, which keep blanks and number signs as they
are; without quotes it ends before a number sign with a blank before it. A line that begins with a
number sign says nothing, and a line that is no assignment is passed over, as is a byte order mark
at the front. Of several assignments to one name the last one counts.

A value may refer to other variables: a dollar sign and a name between braces stand for the value of
that name, and after a colon and a hyphen the braces may hold what to put where there is no such
variable. `expand` puts the values in, with or without quotes. A reference sees the environment
first and then the assignments above it.

`readLines` works through the text. Its recursion is on a budget of steps; each step passes over at
least one character, so the length of the text is enough.
-/

namespace ChatDice.Bot.Environment

open Text

/-- A name with the value assigned to it, if one is. -/
abbrev Assignment := List Char × Option (List Char)

/-- A character that ends a line. -/
def isLineEnd (c : Char) : Bool :=
  c == '\n' || c == '\r'

/-- A blank within a line. -/
def isInnerBlank (c : Char) : Bool :=
  isBlank c && !isLineEnd c

/-- The text after the blanks within the line. -/
def skipInner (s : List Char) : List Char :=
  s.dropWhile isInnerBlank

/-- The rest of a text after a word that it starts with. -/
def afterWord? : List Char → List Char → Option (List Char)
  | [], s => some s
  | _ :: _, [] => none
  | w :: word, c :: s => if c = w then afterWord? word s else none

/-- The text after the word `export` and the blanks that must follow it, or the text itself. -/
def skipExport (s : List Char) : List Char :=
  match afterWord? "export".toList s with
  | some (c :: rest) => if isInnerBlank c then skipInner rest else s
  | _ => s

/-- Whether a character may stand in a name that is not quoted. -/
def isNameChar (c : Char) : Bool :=
  c != '=' && c != '#' && !isBlank c

/-- Reads a name, and gives the text after it. -/
def name? (s : List Char) : Option (List Char × List Char) :=
  match s with
  | '\'' :: rest =>
    let name := rest.takeWhile (· != '\'')
    match rest.dropWhile (· != '\'') with
    | _ :: rest => if name = [] then none else some (name, rest)
    | [] => none
  | _ =>
    let name := s.takeWhile isNameChar
    if name = [] then none else some (name, s.dropWhile isNameChar)

/-- The character that a backslash and another one stand for between double quotes. -/
def doubleEscape? : Char → Option Char
  | '\\' => some '\\'
  | '\'' => some '\''
  | '"' => some '"'
  | 'a' => some '\x07'
  | 'b' => some '\x08'
  | 'f' => some '\x0c'
  | 'n' => some '\n'
  | 'r' => some '\r'
  | 't' => some '\t'
  | 'v' => some '\x0b'
  | _ => none

/-- The character that a backslash and another one stand for between single quotes. -/
def singleEscape? : Char → Option Char
  | '\\' => some '\\'
  | '\'' => some '\''
  | _ => none

/-- The text up to the first quote without a backslash directly before it, and the text after it. -/
def bareQuote? (quote : Char) : List Char → Option (List Char × List Char)
  | [] => none
  | '\\' :: c :: rest =>
    if c = quote then (bareQuote? quote rest).map fun (body, after) => ('\\' :: c :: body, after)
    else (bareQuote? quote (c :: rest)).map fun (body, after) => ('\\' :: body, after)
  | c :: rest =>
    if c = quote then some ([], rest)
    else (bareQuote? quote rest).map fun (body, after) => (c :: body, after)

/-- The text up to the last quote, and the text after it. -/
def lastQuote? (quote : Char) (s : List Char) : Option (List Char × List Char) :=
  match s.reverse.dropWhile (· != quote) with
  | [] => none
  | _ :: front => some (front.reverse, (s.reverse.takeWhile (· != quote)).reverse)

/-- A text with its escapes replaced by the characters that they stand for. -/
def unescape (escape? : Char → Option Char) : List Char → List Char
  | [] => []
  | '\\' :: c :: rest =>
    match escape? c with
    | some e => e :: unescape escape? rest
    | none => '\\' :: unescape escape? (c :: rest)
  | c :: rest => c :: unescape escape? rest

/-- Reads a quoted value after its opening quote, and gives the text after it. The value ends at the
first quote without a backslash before it; where there is none, it ends at the last quote. -/
def quotedValue? (quote : Char) (escape? : Char → Option Char) (s : List Char) :
    Option (List Char × List Char) :=
  (bareQuote? quote s <|> lastQuote? quote s).map fun (body, rest) => (unescape escape? body, rest)

/-- The part of a value before a number sign that has a blank before it. -/
def beforeComment : List Char → List Char
  | [] => []
  | c :: rest =>
    if isBlank c && (trimStart (c :: rest)).head? == some '#' then [] else c :: beforeComment rest

/-- Reads the value after an equals sign, and gives the text after it. A number sign that only has
blanks between it and the equals sign begins a comment like any other. -/
def value? (s : List Char) : Option (List Char × List Char) :=
  match skipInner s with
  | '\'' :: rest => quotedValue? '\'' singleEscape? rest
  | '"' :: rest => quotedValue? '"' doubleEscape? rest
  | _ => some (trim (beforeComment (s.takeWhile (!isLineEnd ·))), s.dropWhile (!isLineEnd ·))

/-- The text after an optional comment and the end of the line, if nothing else stands there. -/
def lineEnd? (s : List Char) : Option (List Char) :=
  let rest := match skipInner s with
    | '#' :: rest => rest.dropWhile (!isLineEnd ·)
    | rest => rest
  match rest with
  | [] => some []
  | c :: rest => if isLineEnd c then some rest else none

/-- The text after the end of the line. -/
def skipLine (s : List Char) : List Char :=
  (s.dropWhile (!isLineEnd ·)).drop 1

/-- An assignment whose line ends here, and the text after the line; where something else stands on
the line, there is no assignment. -/
def finish (assignment : Assignment) (s : List Char) : Option Assignment × List Char :=
  match lineEnd? s with
  | some rest => (some assignment, rest)
  | none => (none, skipLine s)

/-- Reads an assignment and the text after its line. Where there is none, the line on which that
shows is passed over; quoted names and values may have reached further by then. -/
def readAssignment (s : List Char) : Option Assignment × List Char :=
  match name? (skipExport s) with
  | none => (none, skipLine s)
  | some (name, rest) =>
    match skipInner rest with
    | '=' :: rest =>
      match value? rest with
      | none => (none, skipLine rest)
      | some (value, rest) => finish (name, some value) rest
    | rest => finish (name, none) rest

/-- Reads all assignments within a budget of steps. -/
def readLines : Nat → List Char → List Assignment
  | 0, _ => []
  | fuel + 1, s =>
    match trimStart s with
    | [] => []
    | '#' :: rest => readLines fuel (skipLine rest)
    | rest =>
      let (assignment?, rest) := readAssignment rest
      assignment?.toList ++ readLines fuel rest

/-- The assignments of a file. -/
def assignments (text : String) : List Assignment :=
  let chars := match text.toList with
    | '\ufeff' :: rest => rest
    | chars => chars
  readLines chars.length chars

/-! ## References -/

/-- A reference to a variable. -/
structure Reference where
  /-- The name of the variable. -/
  name : List Char
  /-- What stands for it where there is no such variable. -/
  fallback : List Char
deriving DecidableEq, Repr

/-- Reads a reference after its dollar sign and its opening brace, and gives the text after it. -/
def reference? (s : List Char) : Option (Reference × List Char) :=
  let name := s.takeWhile fun c => c != '}' && c != ':'
  match s.dropWhile fun c => c != '}' && c != ':' with
  | '}' :: rest => some (⟨name, []⟩, rest)
  | ':' :: '-' :: rest =>
    match rest.dropWhile (· != '}') with
    | _ :: after => some (⟨name, rest.takeWhile (· != '}')⟩, after)
    | [] => none
  | _ => none

/-- Reading a reference passes over at least one character. -/
theorem length_of_reference? {s rest : List Char} {reference : Reference}
    (h : reference? s = some (reference, rest)) : rest.length < s.length := by
  unfold reference? at h
  dsimp only at h
  have hle := (List.dropWhile_sublist (l := s) fun c => c != '}' && c != ':').length_le
  split at h
  · rename_i after hd
    rw [hd] at hle
    simp at h hle
    rw [← h.2]
    omega
  · rename_i after hd
    rw [hd] at hle
    have hle' := (List.dropWhile_sublist (l := after) fun c => c != '}').length_le
    split at h
    · rename_i ha
      rw [ha] at hle'
      simp at h hle hle'
      rw [← h.2]
      omega
    · simp at h
  · simp at h

/-- A text with its references replaced by what they stand for. -/
def expand (meaning : Reference → List Char) : List Char → List Char
  | [] => []
  | '$' :: '{' :: s =>
    match _h : reference? s with
    | some (reference, rest) => meaning reference ++ expand meaning rest
    | none => '$' :: '{' :: expand meaning s
  | c :: s => c :: expand meaning s
termination_by s => s.length
decreasing_by
  · have := length_of_reference? _h
    simp
    omega
  all_goals simp; try omega

/-! ## Variables -/

/-- Variables with their values. -/
abbrev Variables := List (String × String)

/-- What a reference stands for: the value in the environment, or the one last assigned, or the
fallback. A name assigned without a value stands for nothing. -/
def meaning (known : Variables) (above : List Assignment) (reference : Reference) : List Char :=
  match known.lookup (String.ofList reference.name), above.lookup reference.name with
  | some value, _ => value.toList
  | none, some value? => value?.getD []
  | none, none => reference.fallback

/-- The assignments with their references replaced, the last one first. -/
def expandAll (known : Variables) (assignments : List Assignment) : List Assignment :=
  assignments.foldl
    (fun above assignment =>
      (assignment.1, assignment.2.map (expand (meaning known above))) :: above)
    []

/-- The value that a file assigns to a name last. -/
def assigned? (known : Variables) (text name : String) : Option String :=
  ((expandAll known (assignments text)).lookup name.toList).bind fun value? =>
    value?.map String.ofList

/-- Why a variable cannot be set. -/
inductive VariableError where
  /-- Its name or its value holds a zero character. -/
  | zeroCharacter
  /-- Its name holds an equals sign. -/
  | equalsSign
deriving DecidableEq, Repr

/-- The error in words. -/
def VariableError.cause : VariableError → String
  | zeroCharacter => "embedded null byte"
  | equalsSign => "illegal environment variable name"

/-- Why a variable cannot be set to a value, if it cannot. -/
def variableError? (name value : List Char) : Option VariableError :=
  if name.contains '\x00' || value.contains '\x00' then some .zeroCharacter
  else if name.contains '=' then some .equalsSign
  else none

/-- Why the variables of a file cannot be set, if one of them cannot. Variables that are set already
and names without a value are passed over. -/
def obstacle? (known : Variables) (text : String) : Option VariableError :=
  let expanded := expandAll known (assignments text)
  (expanded.reverse.map (·.1)).findSome? fun name =>
    match known.lookup (String.ofList name), expanded.lookup name with
    | none, some (some value) => variableError? name value
    | _, _ => none

/-! ## Loading -/

/-- Why an environment file cannot be loaded. -/
inductive LoadError where
  /-- Something has a wrong value; the cause is known in words. -/
  | value (cause : String)
  /-- Anything else. -/
  | other
deriving DecidableEq, Repr

/-- The cause of an error in words, where the error is one about the value of something. -/
def LoadError.cause? : LoadError → Option String
  | value cause => some cause
  | other => none

/-- Something that loads environment files. -/
structure Loader where
  /-- The variables that are set after a file with the given bytes has been loaded. -/
  load : Variables → ByteArray → Except LoadError Variables
  /-- A variable that is set keeps its value. -/
  keeps : ∀ {known after : Variables} {bytes : ByteArray} {name value : String},
    load known bytes = .ok after → known.lookup name = some value → after.lookup name = some value

/-- The variables that are set once those of a text are. -/
def added (known : Variables) (text : String) : Variables :=
  known ++ (assignments text).filterMap fun assignment =>
    let name := String.ofList assignment.1
    (assigned? known text name).map (name, ·)

/-- Loads the text that bytes stand for. -/
def read (known : Variables) (bytes : ByteArray) : Except LoadError Variables :=
  match Text.Utf8.decode? bytes with
  | none => .error (.value (Text.Utf8.faultText bytes))
  | some text =>
    let text := String.ofList (Text.unifyLineEnds text.toList)
    match obstacle? known text with
    | some why => .error (.value why.cause)
    | none => .ok (added known text)

/-- The reader of this module. -/
def Loader.reader : Loader where
  load := read
  keeps := by
    intro known after bytes name value hread hname
    unfold read at hread
    split at hread
    · cases hread
    · dsimp only at hread
      split at hread
      · cases hread
      · cases hread
        rw [added, List.lookup_append, hname]
        rfl

/-- The names that a text refers to. -/
def mentioned : List Char → List String
  | [] => []
  | c :: s =>
    let rest := mentioned s
    match c :: s with
    | '$' :: '{' :: s =>
      match reference? s with
      | some (reference, _) => String.ofList reference.name :: rest
      | none => rest
    | _ => rest

end ChatDice.Bot.Environment
