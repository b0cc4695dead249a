import ChatDice.Files.Name

/-!
# Paths

A path is written with slashes. A dot stands for the directory it is in, two dots for the one around
it, and a path that begins with a slash begins at the root of all files instead of the working
directory.

A `Path` is where such a text leads: the names from the root inwards. `Path.resolve` reads a text by
its words alone, without asking what is there.
-/

namespace ChatDice

open Text (Point Raw)

/-- A path: its names from the root inwards. -/
abbrev Path := List Raw

namespace Path

/-- The greatest size of a name, in bytes. -/
def maxNameSize : Nat := 255

/-- The greatest size of the text of a path, in bytes. -/
def maxTextSize : Nat := 4095

/-- Where a text starts: at the root if it begins with a slash, and else in the working directory.
-/
def start (home : Path) (text : Raw) : Path :=
  if Name.isAbsolute text then [] else home

/-- The directory around a path. There is none around the root. -/
def around (path : Path) : Path :=
  path.dropLast

/-- Goes one name further. -/
def step (path : Path) (name : Raw) : Path :=
  if name = "" ∨ name = "." then path
  else if name = ".." then path.around
  else path ++ [name]

/-- The path that a text describes, from a working directory. -/
def resolve (home : Path) (text : Raw) : Path :=
  (Name.split text).foldl step (start home text)

/-- What stands in the text of a path. -/
def points (path : Path) : List Point :=
  if path = [] then [.char '/'] else path.flatMap fun name => .char '/' :: name.points

/-- What stands in the text of the path that a text describes. Two slashes at its very front stay
two, whatever they mean. -/
def resolvedPoints (home : Path) (text : Raw) : List Point :=
  let doubled := text.points.take 2 == [.char '/', .char '/'] && text.points[2]? != some (.char '/')
  (if doubled then [.char '/'] else []) ++ (resolve home text).points

/-- The size of the text of a path, in bytes. -/
def size : Path → Nat
  | [] => 0
  | name :: path => 1 + Name.size name + size path

/-- Whether the last name of a path is longer than names may be. -/
def hasLongName (path : Path) : Bool :=
  path.getLast?.any fun name => maxNameSize < Name.size name

/-- The directories around a path, the nearest first. -/
def ancestors (path : Path) : List Path :=
  (List.range path.length).reverse.map path.take

/-- The path with something added to its last name. -/
def extend (path : Path) (addition : String) : Path :=
  match path.getLast? with
  | none => []
  | some name => path.dropLast ++ [name.append addition]

/-- A path inside another one, or the other one itself, when the other one is moved. -/
def relocate (source target path : Path) : Path :=
  if source.isPrefixOf path then target ++ path.drop source.length else path

/-- A name that is no dots leads to itself. -/
theorem step_name (path : Path) {name : Raw} (hne : name ≠ "") (h : Name.isDots name = false) :
    path.step name = path ++ [name] := by
  simp only [Name.isDots, Bool.or_eq_false_iff, beq_eq_false_iff_ne] at h
  simp [step, hne, h]

end Path

end ChatDice
