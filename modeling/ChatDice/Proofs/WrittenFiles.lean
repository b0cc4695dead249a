import ChatDice.Files

/-!
# Files that have been written

What writing a file changes and what it does not: the text of its path leads where it led before
(`Files.target_put`), the file is there (`Files.holds_put`), and of two writings only the later one
counts (`Files.put_put`). A file that can be read can be written (`Files.exists_target_of_read`),
and where nothing is there, there are no bytes (`Files.find?_of_not_holds`). A file that is there
can be taken away (`Files.remove_of_find?`).

A text with no slash in it that is not dots leads to a name in the working directory, whatever else
is in the tree (`Files.locate_name`), and unless a directory of this name has been made, it is a
file that can be written (`Files.target_name`).
-/

namespace ChatDice

/-- Where a list is not cut, it is one part. -/
theorem Name.parts_of_not_mem {α : Type} [DecidableEq α] {cut : α} {s : List α} (h : cut ∉ s) :
    Name.parts cut s = [s] := by
  induction s with
  | nil => rfl
  | cons c s ih =>
    simp only [List.mem_cons, not_or] at h
    rw [Name.parts, ih h.2]
    exact if_neg (Ne.symm h.1)

namespace Path

/-- A text that is a single name. -/
structure IsName (text : String) : Prop where
  slash : '/' ∉ text.toList
  zero : '\x00' ∉ text.toList
  ne_empty : text ≠ ""
  dots : Name.isDots text = false
  size : text.utf8ByteSize ≤ maxNameSize

instance (text : String) : Decidable (IsName text) :=
  decidable_of_iff
    ('/' ∉ text.toList ∧ '\x00' ∉ text.toList ∧ text ≠ "" ∧ Name.isDots text = false ∧
      text.utf8ByteSize ≤ maxNameSize)
    ⟨fun ⟨slash, zero, ne_empty, dots, size⟩ => ⟨slash, zero, ne_empty, dots, size⟩,
      fun h => ⟨h.slash, h.zero, h.ne_empty, h.dots, h.size⟩⟩

variable {text : String} {path : Path}

/-- A single name does not begin with a slash. -/
theorem IsName.start_eq (h : IsName text) (home : Path) : start home text = home := by
  have hhead : text.toList.head? ≠ some '/' := fun hhead => h.slash (List.mem_of_head? hhead)
  have habsolute : Name.isAbsolute text = false := by
    simpa [Name.isAbsolute, Text.Raw.points, Option.map_eq_some_iff] using hhead
  rw [start, habsolute]
  rfl

/-- A single name is not cut. -/
theorem IsName.split_eq (h : IsName text) : Name.split text = [.proper text] := by
  rw [Name.split, Name.parts_of_not_mem h.slash, List.map_singleton, String.ofList_toList]

/-- A single name leads to itself. -/
theorem IsName.step_eq (h : IsName text) (path : Path) : path.step text = path ++ [.proper text] :=
  step_name path (by simpa using h.ne_empty) h.dots

/-- A single name is not too long. -/
theorem IsName.hasLongName_append (h : IsName text) (path : Path) :
    Path.hasLongName (path ++ [.proper text]) = false := by
  simpa [Path.hasLongName, Name.size] using h.size

end Path

namespace Files

variable {files : Files} {path : Path}

section names

variable {text : String}

/-- A text of characters alone that is neither too long nor empty is walked along. -/
theorem locate_eq (hzero : '\x00' ∉ text.toList) (hne : text ≠ "")
    (hsize : text.utf8ByteSize ≤ Path.maxTextSize) (files : Files) :
    files.locate text =
      files.locateNames (Path.start files.home text)
        ((Name.split text).getLast? == some (.proper ""))
        (((Name.split text).filter fun name => name ≠ .proper "").map Name.canonical).reverse := by
  have hzero : ¬Text.Raw.contains '\x00' text = true := by
    simpa [Text.Raw.contains] using hzero
  have hne : ¬Text.Raw.proper text = .proper "" := by simpa using hne
  have hsize : ¬Path.maxTextSize < Name.size text := Nat.not_lt.mpr hsize
  simp only [locate, Name.fault?_proper, if_neg hzero, if_neg hne, if_neg hsize]

/-- A single name leads into the working directory. -/
theorem locate_name (h : Path.IsName text) (files : Files) :
    files.locate text = .ok (.entry (files.home ++ [.proper text]) false) := by
  have hsize : text.utf8ByteSize ≤ Path.maxTextSize := Nat.le_trans h.size (by decide)
  have hne : ¬Text.Raw.proper text = .proper "" := by simpa using h.ne_empty
  rw [locate_eq h.zero h.ne_empty hsize, h.split_eq, h.start_eq]
  simp [hne, Name.canonical, locateNames, walk, h.dots, h.step_eq]

/-- A single name is a directory if one of this name has been made. -/
theorem isDirectory_name (text : String) (files : Files) :
    files.isDirectory (files.home ++ [.proper text]) =
      files.directories.contains (files.home ++ [.proper text]) := by
  have hprefix : (files.home ++ [Text.Raw.proper text]).isPrefixOf files.home = false := by
    rw [← Bool.not_eq_true, List.isPrefixOf_iff_prefix]
    intro h
    have hlength := h.length_le
    rw [List.length_append, List.length_singleton] at hlength
    omega
  rw [isDirectory, hprefix, Bool.false_or]

/-- A file can be written under a single name unless a directory of this name has been made. -/
theorem target_name (h : Path.IsName text)
    (hmade : files.home ++ [.proper text] ∉ files.directories) :
    files.target text = .ok (files.home ++ [.proper text]) := by
  refine target_eq_ok_iff.mpr ⟨locate_name h files, h.hasLongName_append files.home, ?_⟩
  simpa [isDirectory_name] using hmade

/-- Under a single name something is there if a file is, unless a directory has been made. -/
theorem holds_name (h : Path.IsName text)
    (hmade : files.home ++ [.proper text] ∉ files.directories) :
    files.holds text = (files.find? (files.home ++ [.proper text])).isSome := by
  have hdirectory : files.isDirectory (files.home ++ [.proper text]) = false := by
    simpa [isDirectory_name] using hmade
  rw [holds, locate_name h files]
  simp [hdirectory]

/-- Where the root is the working directory, a single name describes the file of this name in it. -/
theorem resolve_name (h : Path.IsName text) (hhome : files.home = [])
    (hmade : [.proper text] ∉ files.directories) :
    files.resolve text = .ok [.proper text] := by
  have hpath : Path.resolve [] text = [.proper text] := by
    rw [Path.resolve, h.split_eq, h.start_eq, List.foldl_cons, List.foldl_nil, h.step_eq,
      List.nil_append]
  have hfault : Name.fault? (Path.resolvedPoints [] text) = none := by
    have hpoints : Path.resolvedPoints [] text = ('/' :: text.toList).map .char := by
      have hne : text.toList ≠ [] := by simpa using h.ne_empty
      obtain ⟨c, s, htext⟩ := List.exists_cons_of_ne_nil hne
      have hc : c ≠ '/' := by
        rintro rfl
        exact h.slash (htext ▸ List.mem_cons_self)
      simp [Path.resolvedPoints, hpath, Path.points, Text.Raw.points, htext, hc]
    rw [hpoints]
    exact Text.faultFrom_map_char _ _ _
  have hdirectory : files.isDirectory [.proper text] = false := by
    have hname := isDirectory_name text files
    rw [hhome, List.nil_append] at hname
    simpa [hname] using hmade
  have hobstacle : files.obstacle? [.proper text] = none := by
    have hzero : Text.Raw.contains '\x00' (.proper text) = false := by
      simpa [Text.Raw.contains] using h.zero
    have hsize : ¬Path.maxTextSize < Path.size [.proper text] := by
      have hsize := h.size
      simp only [Path.size, Name.size, Path.maxTextSize, Path.maxNameSize] at hsize ⊢
      omega
    have hlong : Path.hasLongName [.proper text] = false := h.hasLongName_append []
    simp [obstacle?, hzero, hsize, hlong, Path.ancestors, isDirectory]
  have hreach : files.reach [.proper text] = .ok () := by simp [reach, hobstacle, hdirectory]
  rw [resolve, hhome, hfault, hpath]
  simp [Name.canonical, hreach, Except.map]

end names

/-! ### Reaching -/

/-- A path can be reached for writing if nothing stands in the way and it is no directory. -/
theorem reach_eq_ok_iff :
    files.reach path = .ok () ↔ files.obstacle? path = none ∧ files.isDirectory path = false := by
  unfold reach
  cases files.obstacle? path with
  | some why => simp
  | none => cases files.isDirectory path <;> simp

/-- Nothing stands in the way to a path of names that are neither too long nor too many, and have no
zero characters in them, if all directories on the way are there. -/
theorem obstacle?_eq_none_iff :
    files.obstacle? path = none ↔
      path.any (·.contains '\x00') = false ∧ path.size ≤ Path.maxTextSize ∧
        (∀ around ∈ path.ancestors, files.isDirectory around = true) ∧
        path.hasLongName = false := by
  unfold obstacle?
  cases hzero : path.any (·.contains '\x00') with
  | true => simp
  | false =>
    by_cases hsize : Path.maxTextSize < path.size
    · simp [hsize, Nat.not_le.mpr hsize]
    · cases hfind : path.ancestors.reverse.find? fun around => !files.isDirectory around with
      | some around =>
        have hmem : around ∈ path.ancestors := List.mem_reverse.mp (List.mem_of_find?_eq_some hfind)
        have hnot : files.isDirectory around = false := by simpa using List.find?_some hfind
        simp only [if_neg hsize, Bool.false_eq_true, if_false, reduceCtorEq, true_and, false_iff]
        exact fun h => absurd (h.2.1 around hmem) (by simp [hnot])
      | none =>
        have hall : ∀ around ∈ path.ancestors, files.isDirectory around = true := by
          simpa using hfind
        cases hlong : path.hasLongName with
        | true => simp [hsize]
        | false => simpa [hsize, Nat.not_lt.mp hsize] using hall

/-- The same paths can be reached in a tree with the same directories. -/
theorem SameDirectories.reach {files' : Files} (hsame : files.SameDirectories files')
    (h : files.reach path = .ok ()) : files'.reach path = .ok () := by
  simpa only [reach_eq_ok_iff, obstacle?_eq_none_iff, hsame.isDirectory_eq] using h

/-! ### Resolving -/

section resolve

variable {text : Text.Raw} {why : FileError}

/-- A file that has been resolved can be written, and is where the words of the text lead. -/
theorem resolve_eq_ok_iff :
    files.resolve text = .ok path ↔
      Name.fault? (Path.resolvedPoints files.home text) = none ∧
        path = (Path.resolve files.home text).map Name.canonical ∧ files.reach path = .ok () := by
  unfold resolve
  cases hfault : Name.fault? (Path.resolvedPoints files.home text) with
  | some fault => simp
  | none =>
    dsimp only
    cases hreach : files.reach ((Path.resolve files.home text).map Name.canonical) with
    | error why =>
      simp only [Except.map, reduceCtorEq, true_and, false_iff, not_and]
      rintro rfl
      simp [hreach]
    | ok _ =>
      simp only [Except.map, Except.ok.injEq, true_and]
      constructor
      · rintro rfl
        exact ⟨rfl, hreach⟩
      · exact fun h => h.1.symm

/-- What stands in the way to a path keeps the text from being resolved. -/
theorem resolve_of_obstacle (path : Path)
    (hfault : Name.fault? (Path.resolvedPoints files.home text) = none)
    (hpath : (Path.resolve files.home text).map Name.canonical = path)
    (hobstacle : files.obstacle? path = some why) : files.resolve text = .error why := by
  rw [resolve, hfault]
  dsimp only
  rw [hpath, reach, hobstacle]
  rfl

end resolve

variable {text : Text.Raw}

/-! ### Writing -/

/-- Of two files at one path the later one is left. -/
@[simp] theorem put_put (files : Files) (path : Path) (bytes bytes' : ByteArray) :
    (files.put path bytes).put path bytes' = files.put path bytes' := by
  simp [put, List.filter_append, List.filter_filter]

/-- A text under which a file can be written names the same file after another one was written. -/
theorem target_put (h : files.target text = .ok path) (other : Path) (bytes : ByteArray) :
    (files.put other bytes).target text = .ok path := by
  obtain ⟨hlocate, hname, hdirectory⟩ := target_eq_ok_iff.mp h
  exact target_eq_ok_iff.mpr ⟨locate_put hlocate other bytes, hname, hdirectory⟩

/-- A file that has been written is there. -/
theorem holds_put (h : files.target text = .ok path) (bytes : ByteArray) :
    (files.put path bytes).holds text = true := by
  obtain ⟨hlocate, -, -⟩ := target_eq_ok_iff.mp h
  simp [holds, locate_put hlocate, find?_put_self]

/-- Where nothing is there, there are no bytes. -/
theorem find?_of_not_holds (h : files.target text = .ok path) (hholds : files.holds text = false) :
    files.find? path = none := by
  obtain ⟨hlocate, -, hdirectory⟩ := target_eq_ok_iff.mp h
  simpa [holds, hlocate, hdirectory] using hholds

/-- A file that is there can be taken away. -/
theorem remove_of_find? {bytes : ByteArray} (h : files.target text = .ok path)
    (hfind : files.find? path = some bytes) : files.remove text = .ok (files.drop path) := by
  obtain ⟨hlocate, hname, hdirectory⟩ := target_eq_ok_iff.mp h
  simp [remove, hlocate, hname, hdirectory, hfind]

/-- A file that can be read is there, and can be written. -/
theorem exists_target_of_read {bytes : ByteArray} (h : files.read text = .ok bytes) :
    ∃ path, files.target text = .ok path ∧ files.find? path = some bytes := by
  unfold read at h
  cases hlocate : files.locate text with
  | error why => simp [hlocate] at h
  | ok place =>
    cases place with
    | directory inner => simp [hlocate] at h
    | entry path slash =>
      -- A long name, a directory and a slash at the end are all refused by reading, too.
      cases hname : path.hasLongName with
      | true => simp [hlocate, hname] at h
      | false =>
        cases hdirectory : files.isDirectory path with
        | true => simp [hlocate, hname, hdirectory] at h
        | false =>
          cases hfind : files.find? path with
          | none => simp [hlocate, hname, hdirectory, hfind] at h
          | some held =>
            cases slash with
            | true => simp [hlocate, hname, hdirectory, hfind] at h
            | false =>
              obtain rfl : held = bytes := by simpa [hlocate, hname, hdirectory, hfind] using h
              exact ⟨path, target_eq_ok_iff.mpr ⟨hlocate, hname, hdirectory⟩, hfind⟩

/-- A file that can be read is there. -/
theorem holds_of_read {bytes : ByteArray} (h : files.read text = .ok bytes) :
    files.holds text = true := by
  obtain ⟨path, htarget, hfind⟩ := exists_target_of_read h
  obtain ⟨hlocate, -, -⟩ := target_eq_ok_iff.mp htarget
  simp [holds, hlocate, hfind]

end Files

end ChatDice
