import ChatDice.Files.Path

/-!
# Files

The program keeps its settings and its log in files. `Files` is a tree of directories and files: the
working directory, the paths of the directories that have been made, and the paths of the files with
the bytes that they hold. The working directory and the directories around it are always there, up
to the root; of what else may be outside the working directory nothing is known.

Files are used in two ways. By the text of their path: `Files.locate` walks along such a text, and
every name but the last must be a directory that is there, and so must the last one if it is dots.
What the last name may be is up to the use that is made of it:

* `read` wants a file, `write` a file or nothing, `remove` a file, and `makeDirectory` nothing;
* a slash at the end says that a directory is meant, so that no file can be used under such a text.

And by a path that has been resolved before, as the log file is: `reach` says whether a file can be
written there. Such a file is written at its end (`append`), and it is moved out of the way
(`shift`, `supplant`).

Every operation that can fail says why. One that fails leaves the tree as it was, those apart that
move files: they leave what they have done. The lemmas say what reading finds after writing.
-/

namespace ChatDice

open Text (Raw EncodeFault)

/-- Why a file cannot be used. -/
inductive FileError where
  /-- There is no such file, or no such directory to hold it. -/
  | notFound
  /-- It is a directory. -/
  | isDirectory
  /-- A part of the path that should be a directory is a file. -/
  | notDirectory
  /-- There is such a file or directory already. -/
  | alreadyExists
  /-- The path or a name in it is longer than paths and names may be. -/
  | nameTooLong
  /-- The path holds a zero character. -/
  | zeroCharacter
  /-- Half of a pair that shows no byte stands alone in the path. -/
  | notEncodable (fault : EncodeFault)
deriving DecidableEq, Repr

/-- The cause of an error in words, where the error is one about the value of something. -/
def FileError.cause? : FileError → Option String
  | zeroCharacter => some "embedded null byte"
  | notEncodable fault => some fault.text
  | _ => none

/-- A tree of directories and files. -/
structure Files where
  /-- The working directory. -/
  home : Path
  /-- The directories that have been made. -/
  directories : List Path
  /-- The files with what they hold. -/
  contents : List (Path × ByteArray)

/-- Where the text of a path leads. -/
inductive Place where
  /-- To a directory that is there, which the text does not name. -/
  | directory (path : Path)
  /-- To a name in a directory that is there, perhaps with a slash after it. -/
  | entry (path : Path) (slash : Bool)
deriving DecidableEq, Repr

namespace Files

/-- The empty root, which is the working directory. -/
def empty : Files := ⟨[], [], []⟩

/-! ## What is at a path -/

/-- Whether a path is a directory. -/
def isDirectory (files : Files) (path : Path) : Bool :=
  path.isPrefixOf files.home || files.directories.contains path

/-- What a file holds. -/
def find? (files : Files) (path : Path) : Option ByteArray :=
  (files.contents.find? fun entry => entry.1 == path).map (·.2)

/-- Whether there is anything at a path. -/
def occupied (files : Files) (path : Path) : Bool :=
  files.isDirectory path || (files.find? path).isSome

/-- The size of a file, zero if it is not there. -/
def size (files : Files) (path : Path) : Nat :=
  ((files.find? path).getD .empty).size

/-- Puts bytes at a path, in the place of what was there. -/
def put (files : Files) (path : Path) (bytes : ByteArray) : Files :=
  { files with
    contents := files.contents.filter (fun entry => entry.1 != path) ++ [(path, bytes)] }

/-- Takes the file at a path away. -/
def drop (files : Files) (path : Path) : Files :=
  { files with contents := files.contents.filter fun entry => entry.1 != path }

/-- The files in the working directory and below it, with their names from there on. -/
def inside (files : Files) : List (Path × ByteArray) :=
  (files.contents.filter fun entry => files.home.isPrefixOf entry.1).map fun entry =>
    (entry.1.drop files.home.length, entry.2)

/-! ## The way to a path -/

/-- Why a path is no directory. -/
def barrier (files : Files) (path : Path) : FileError :=
  if path.hasLongName then .nameTooLong
  else if (files.find? path).isSome then .notDirectory
  else .notFound

/-- Goes from a directory one name further, to a directory that must be there. -/
def enter (files : Files) (here : Path) (name : Raw) : Except FileError Path :=
  let next := here.step name
  if files.isDirectory next then .ok next else .error (files.barrier next)

/-- Goes along names through directories that must be there. -/
def walk (files : Files) : Path → List Raw → Except FileError Path
  | here, [] => .ok here
  | here, name :: names =>
    match files.enter here name with
    | .error why => .error why
    | .ok next => walk files next names

/-- Where names, the last one first, lead from a directory. -/
def locateNames (files : Files) (here : Path) (slash : Bool) : List Raw → Except FileError Place
  | [] => .ok (.directory here)
  | last :: front =>
    match files.walk here front.reverse with
    | .error why => .error why
    | .ok around =>
      if Name.isDots last then (files.enter around last).map .directory
      else .ok (.entry (around.step last) slash)

/-- Where the text of a path leads. -/
def locate (files : Files) (text : Raw) : Except FileError Place :=
  match Name.fault? text.points with
  | some fault => .error (.notEncodable fault)
  | none =>
    if text.contains '\x00' then .error .zeroCharacter
    else if text = "" then .error .notFound
    else if Path.maxTextSize < Name.size text then .error .nameTooLong
    else
      let names := Name.split text
      files.locateNames (Path.start files.home text) (names.getLast? == some (.proper ""))
        ((names.filter fun name => name ≠ .proper "").map Name.canonical).reverse

/-- The path of the file that a text names, if a file can be written there. -/
def target (files : Files) (text : Raw) : Except FileError Path :=
  match files.locate text with
  | .error why => .error why
  | .ok (.directory _) => .error .isDirectory
  | .ok (.entry path slash) =>
    if slash then .error .isDirectory
    else if path.hasLongName then .error .nameTooLong
    else if files.isDirectory path then .error .isDirectory
    else .ok path

/-! ## Files by the texts of their paths -/

/-- Whether a text names something that is there. -/
def holds (files : Files) (text : Raw) : Bool :=
  match files.locate text with
  | .error _ => false
  | .ok (.directory _) => true
  | .ok (.entry path slash) => files.isDirectory path || (!slash && (files.find? path).isSome)

/-- Reads a file. -/
def read (files : Files) (text : Raw) : Except FileError ByteArray :=
  match files.locate text with
  | .error why => .error why
  | .ok (.directory _) => .error .isDirectory
  | .ok (.entry path slash) =>
    if path.hasLongName then .error .nameTooLong
    else if files.isDirectory path then .error .isDirectory
    else
      match files.find? path with
      | none => .error .notFound
      | some bytes => if slash then .error .notDirectory else .ok bytes

/-- Writes a file, in the place of one that is there. -/
def write (files : Files) (text : Raw) (bytes : ByteArray) : Except FileError Files :=
  (files.target text).map fun path => files.put path bytes

/-- Takes a file away. -/
def remove (files : Files) (text : Raw) : Except FileError Files :=
  match files.locate text with
  | .error why => .error why
  | .ok (.directory _) => .error .isDirectory
  | .ok (.entry path slash) =>
    if path.hasLongName then .error .nameTooLong
    else if files.isDirectory path then .error .isDirectory
    else if (files.find? path).isNone then .error .notFound
    else if slash then .error .notDirectory
    else .ok (files.drop path)

/-- Makes a directory. -/
def makeDirectory (files : Files) (text : Raw) : Except FileError Files :=
  match files.locate text with
  | .error why => .error why
  | .ok (.directory _) => .error .alreadyExists
  | .ok (.entry path _) =>
    if path.hasLongName then .error .nameTooLong
    else if files.occupied path then .error .alreadyExists
    else .ok { files with directories := files.directories ++ [path] }

/-! ## Files by their paths -/

/-- What stands in the way to a path, if anything does. -/
def obstacle? (files : Files) (path : Path) : Option FileError :=
  if path.any (·.contains '\x00') then some .zeroCharacter
  else if Path.maxTextSize < path.size then some .nameTooLong
  else
    match path.ancestors.reverse.find? fun around => !files.isDirectory around with
    | some around => some (files.barrier around)
    | none => if path.hasLongName then some .nameTooLong else none

/-- Whether a file can be written at a path. -/
def reach (files : Files) (path : Path) : Except FileError Unit :=
  match files.obstacle? path with
  | some why => .error why
  | none => if files.isDirectory path then .error .isDirectory else .ok ()

/-- The path that a text describes by its words alone, if a file can be written there. -/
def resolve (files : Files) (text : Raw) : Except FileError Path :=
  match Name.fault? (Path.resolvedPoints files.home text) with
  | some fault => .error (.notEncodable fault)
  | none =>
    let path := (Path.resolve files.home text).map Name.canonical
    (files.reach path).map fun _ => path

/-- Writes at the end of a file, which is made if it is not there. -/
def append (files : Files) (path : Path) (bytes : ByteArray) : Except FileError Files :=
  (files.reach path).map fun _ => files.put path (((files.find? path).getD .empty) ++ bytes)

/-- Whether something is found at a path. -/
def isThere (files : Files) (path : Path) : Bool :=
  (files.obstacle? path).isNone && files.occupied path

/-- Takes away the file at a path, if anything is there. A directory cannot be taken away. -/
def clear (files : Files) (path : Path) : Except FileError Files :=
  if files.isThere path then
    if files.isDirectory path then .error .isDirectory else .ok (files.drop path)
  else .ok files

/-- The tree in which what is at a path, with all that is in it, is at another path. -/
def relocate (files : Files) (source target : Path) : Files where
  home := Path.relocate source target files.home
  directories := files.directories.map (Path.relocate source target)
  contents := files.contents.map fun entry => (Path.relocate source target entry.1, entry.2)

/-- Moves what is at a path to another path where nothing is. -/
def rename (files : Files) (source target : Path) : Except FileError Files :=
  match files.obstacle? source, files.obstacle? target with
  | some why, _ => .error why
  | none, some why => .error why
  | none, none =>
    if !files.occupied source then .error .notFound
    else if files.occupied target then .error .alreadyExists
    else .ok (files.relocate source target)

/-- Takes away what is at one path, and then moves what is at another one there, if there is
anything: how that went, and the files afterwards. -/
def supplant (files : Files) (source target : Path) : Except FileError Unit × Files :=
  match files.clear target with
  | .error why => (.error why, files)
  | .ok cleared =>
    if cleared.isThere source then
      match cleared.rename source target with
      | .error why => (.error why, cleared)
      | .ok moved => (.ok (), moved)
    else (.ok (), cleared)

/-- Moves what is at a path to another one, in the place of what is there; nothing is done if there
is nothing to move. -/
def shift (files : Files) (source target : Path) : Except FileError Unit × Files :=
  if files.isThere source then files.supplant source target else (.ok (), files)

/-! ## Reading what was written -/

/-- A file holds what was put there. -/
theorem find?_put_self (files : Files) (path : Path) (bytes : ByteArray) :
    (files.put path bytes).find? path = some bytes := by
  have h : (files.contents.filter fun entry => entry.1 != path).find?
      (fun entry => entry.1 == path) = none := by
    simp
  simp [find?, put, List.find?_append, h]

/-- Putting a file somewhere makes no directory. -/
@[simp] theorem isDirectory_put (files : Files) (path other : Path) (bytes : ByteArray) :
    (files.put path bytes).isDirectory other = files.isDirectory other :=
  rfl

/-- A name can be entered if it leads to a directory. -/
theorem enter_eq_ok_iff {files : Files} {here next : Path} {name : Raw} :
    files.enter here name = .ok next ↔
      here.step name = next ∧ files.isDirectory (here.step name) = true := by
  unfold enter
  by_cases h : files.isDirectory (here.step name) = true <;> simp [h]

section directories

variable {files files' : Files}

/-! Which ways are open is settled by the directories alone: files only say why another is not. -/

/-- Two trees with the same directories. -/
structure SameDirectories (files files' : Files) : Prop where
  home : files'.home = files.home
  directories : files'.directories = files.directories

/-- The same paths are directories. -/
theorem SameDirectories.isDirectory_eq (h : files.SameDirectories files') (path : Path) :
    files'.isDirectory path = files.isDirectory path := by
  rw [isDirectory, isDirectory, h.home, h.directories]

/-- Putting a file somewhere makes no directory and takes none away. -/
theorem sameDirectories_put (files : Files) (path : Path) (bytes : ByteArray) :
    files.SameDirectories (files.put path bytes) :=
  ⟨rfl, rfl⟩

/-- The same names can be entered. -/
theorem SameDirectories.enter (hsame : files.SameDirectories files') {here next : Path} {name : Raw}
    (h : files.enter here name = .ok next) : files'.enter here name = .ok next := by
  rw [enter_eq_ok_iff] at h ⊢
  rwa [hsame.isDirectory_eq]

/-- The same ways can be walked. -/
theorem SameDirectories.walk (hsame : files.SameDirectories files') {here there : Path}
    {names : List Raw} (h : files.walk here names = .ok there) :
    files'.walk here names = .ok there := by
  induction names generalizing here with
  | nil => exact h
  | cons name names ih =>
    unfold Files.walk at h ⊢
    cases he : files.enter here name with
    | error why => simp [he] at h
    | ok next =>
      rw [he] at h
      rw [hsame.enter he]
      exact ih h

/-- Names that lead somewhere lead to the same place. -/
theorem SameDirectories.locateNames (hsame : files.SameDirectories files') {here : Path}
    {slash : Bool} {names : List Raw} {place : Place}
    (h : files.locateNames here slash names = .ok place) :
    files'.locateNames here slash names = .ok place := by
  cases names with
  | nil => exact h
  | cons last front =>
    unfold Files.locateNames at h ⊢
    cases hw : files.walk here front.reverse with
    | error why => simp [hw] at h
    | ok around =>
      simp only [hw] at h
      simp only [hsame.walk hw]
      cases hd : Name.isDots last with
      | false => simpa [hd] using h
      | true =>
        simp only [hd, if_true] at h ⊢
        cases he : files.enter around last with
        | error why => simp [he, Except.map] at h
        | ok next => simpa [he, hsame.enter he] using h

/-- A text that leads somewhere leads to the same place in every tree with these directories. -/
theorem SameDirectories.locate (hsame : files.SameDirectories files') {text : Raw} {place : Place}
    (h : files.locate text = .ok place) : files'.locate text = .ok place := by
  unfold Files.locate at h ⊢
  cases hf : Name.fault? text.points with
  | some fault => simp [hf] at h
  | none =>
    by_cases hz : text.contains '\x00' = true
    · simp [hf, hz] at h
    · by_cases he : text = ""
      · simp only [hf, if_neg hz, if_pos he] at h
        cases h
      · by_cases hl : Path.maxTextSize < Name.size text
        · simp [hf, hz, he, hl] at h
        · simp only [hf, hz, he, hl, if_false, Bool.false_eq_true] at h ⊢
          rw [hsame.home]
          exact hsame.locateNames h

/-- Writing a file does not change where a text leads that led somewhere before. -/
theorem locate_put {text : Raw} {place : Place} (h : files.locate text = .ok place) (path : Path)
    (bytes : ByteArray) : (files.put path bytes).locate text = .ok place :=
  (sameDirectories_put files path bytes).locate h

end directories

/-- A file can be written under a text exactly if the text leads to a name that is not too long and
no directory. -/
theorem target_eq_ok_iff {files : Files} {text : Raw} {path : Path} :
    files.target text = .ok path ↔
      files.locate text = .ok (.entry path false) ∧ path.hasLongName = false ∧
        files.isDirectory path = false := by
  unfold target
  cases files.locate text with
  | error why => simp
  | ok place =>
    cases place with
    | directory inner => simp
    | entry inner slash =>
      cases slash with
      | true => simp
      | false =>
        by_cases hl : inner.hasLongName = true
        · simp only [hl, if_true, Bool.false_eq_true, if_false]
          constructor
          · simp
          · rintro ⟨h, hn, -⟩
            cases h
            simp [hl] at hn
        · by_cases hd : files.isDirectory inner = true
          · simp only [hl, hd, if_true, Bool.false_eq_true, if_false]
            constructor
            · simp
            · rintro ⟨h, -, hn⟩
              cases h
              simp [hd] at hn
          · simp only [hl, hd, Bool.false_eq_true, if_false]
            constructor
            · intro h
              cases h
              simp [hl, hd]
            · rintro ⟨h, -, -⟩
              cases h
              rfl

/-- A file that has been written holds what was written. -/
theorem read_put {files : Files} {text : Raw} {path : Path}
    (h : files.target text = .ok path) (bytes : ByteArray) :
    (files.put path bytes).read text = .ok bytes := by
  obtain ⟨hl, hn, hd⟩ := target_eq_ok_iff.1 h
  simp [read, locate_put hl, hn, hd, find?_put_self]

end Files

end ChatDice
