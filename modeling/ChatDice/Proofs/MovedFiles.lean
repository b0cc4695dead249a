import ChatDice.Proofs.WrittenFiles
import Mathlib.Data.List.Find

/-!
# Files that have been moved

What is at a path is moved to a path beside it, with all that is in it, and what was there before is
taken away. Every file holds afterwards what some file held before (`Files.OnlyMoved`), and a file
beside both paths is left alone, can be reached as before (`Beside.reach_relocate`) and holds what
it held (`Beside.find?_relocate`).

Moving may fail on the way. What it can do is said once (`Files.Supplanting`), whether or not it
succeeds.
-/

namespace ChatDice

namespace Path

/-- Paths of names in one directory. -/
def Together (path other : Path) : Prop :=
  ∃ front name name', path = front ++ [name] ∧ other = front ++ [name']

/-- Paths of different names in one directory. -/
structure Beside (path other : Path) : Prop where
  together : Together path other
  ne : path ≠ other

variable {path other source target : Path}

/-- A path is in one directory with itself. -/
theorem Together.left (h : Together path other) : Together path path := by
  obtain ⟨front, name, name', rfl, rfl⟩ := h
  exact ⟨front, name, name, rfl, rfl⟩

/-- Paths in one directory with the same path are in one directory. -/
theorem Together.trans (h : Together path source) (h' : Together source target) :
    Together path target := by
  obtain ⟨front, name, name', rfl, rfl⟩ := h
  obtain ⟨front', name'', target', hsource, rfl⟩ := h'
  obtain ⟨rfl, -⟩ := List.append_inj' hsource rfl
  exact ⟨front, name, target', rfl, rfl⟩

/-- Of two paths beside each other each is beside the other. -/
theorem Beside.symm (h : Beside path other) : Beside other path := by
  obtain ⟨⟨front, name, name', rfl, rfl⟩, hne⟩ := h
  exact ⟨⟨front, name', name, rfl, rfl⟩, hne.symm⟩

/-- A path beside another one is not inside it. -/
theorem Beside.not_prefix (h : Beside path other) : ¬other <+: path := by
  obtain ⟨⟨front, name, name', rfl, rfl⟩, hne⟩ := h
  rw [List.prefix_append_right_inj]
  simpa using hne.symm

/-- A path that is not inside what is moved stays. -/
theorem relocate_of_not_prefix (h : ¬source <+: path) (target : Path) :
    relocate source target path = path :=
  if_neg (by rwa [List.isPrefixOf_iff_prefix])

/-- A path inside what is moved is where it is moved to. -/
theorem relocate_append (source target rest : Path) :
    relocate source target (source ++ rest) = target ++ rest := by
  have h : source.isPrefixOf (source ++ rest) = true :=
    List.isPrefixOf_iff_prefix.mpr (List.prefix_append _ _)
  rw [relocate, if_pos h, List.drop_left]

/-- A path is inside what is moved, or it stays. -/
theorem relocate_cases (source target path : Path) :
    (∃ rest, path = source ++ rest ∧ relocate source target path = target ++ rest) ∨
      ¬source <+: path ∧ relocate source target path = path := by
  by_cases h : source <+: path
  · obtain ⟨rest, rfl⟩ := h
    exact .inl ⟨rest, rfl, relocate_append source target rest⟩
  · exact .inr ⟨h, relocate_of_not_prefix h target⟩

/-- The directories around a path are those on the way to its last name. -/
theorem mem_ancestors_append_singleton {front around : Path} {name : Text.Raw} :
    around ∈ ancestors (front ++ [name]) ↔ around <+: front := by
  simp only [ancestors, List.mem_map, List.mem_reverse, List.mem_range, List.length_append,
    List.length_singleton]
  constructor
  · rintro ⟨n, hn, rfl⟩
    rw [List.take_append_of_le_length (Nat.lt_succ_iff.mp hn)]
    exact List.take_prefix _ _
  · intro h
    refine ⟨around.length, Nat.lt_succ_of_le h.length_le, ?_⟩
    rw [List.take_append_of_le_length h.length_le, ← List.prefix_iff_eq_take.mp h]

/-- A directory around a path is around all that is in one directory with it, and so stays around
what is moved there. -/
theorem Together.prefix_relocate (htarget : Together path target) {around : Path}
    (haround : around ∈ path.ancestors) (h : around <+: other) :
    around <+: relocate source target other := by
  rcases relocate_cases source target other with ⟨rest, rfl, hmoved⟩ | ⟨-, hstays⟩
  · obtain ⟨front, name, name', rfl, rfl⟩ := htarget
    have hfront := mem_ancestors_append_singleton.mp haround
    rw [hmoved]
    exact (hfront.trans (List.prefix_append _ _)).trans (List.prefix_append _ _)
  · rwa [hstays]

/-- A directory around a path is not inside what is in one directory with the path. -/
theorem Together.relocate_ancestor (hsource : Together path source) {around : Path}
    (haround : around ∈ path.ancestors) (target : Path) :
    relocate source target around = around := by
  obtain ⟨front, name, name', rfl, rfl⟩ := hsource
  refine relocate_of_not_prefix (fun h => ?_) target
  have hinside := h.length_le
  have hfront := (mem_ancestors_append_singleton.mp haround).length_le
  rw [List.length_append, List.length_singleton] at hinside
  omega

/-- Nothing that is moved comes to be at a path beside the one where it is moved to. -/
theorem Beside.relocate_eq_iff (hsource : Beside path source) (htarget : Beside path target) :
    relocate source target other = path ↔ other = path := by
  rcases relocate_cases source target other with ⟨rest, rfl, hmoved⟩ | ⟨-, hstays⟩
  · rw [hmoved]
    constructor
    · rintro rfl
      exact absurd (List.prefix_append _ _) htarget.not_prefix
    · rintro rfl
      exact absurd (List.prefix_append _ _) hsource.not_prefix
  · rw [hstays]

end Path

namespace Files

open ChatDice.Path (Beside)

variable {files files' files'' : Files} {path source target : Path} {bytes : ByteArray}
  {why : FileError}

/-! ### Taking files away -/

/-- A file that was taken away is not there. -/
theorem find?_drop_self (files : Files) (path : Path) : (files.drop path).find? path = none := by
  simp [find?, drop]

/-- Every other file holds what it held. -/
theorem find?_drop_of_ne (h : path ≠ source) (files : Files) :
    (files.drop source).find? path = files.find? path := by
  simp only [find?, drop, List.find?_filter]
  congr 2
  funext entry
  by_cases hentry : entry.1 = path <;> simp [hentry, h]

/-! ### Moving files -/

/-- What a file holds is what the file held that was moved to its path. -/
theorem find?_relocate (files : Files) (source target path : Path) :
    (files.relocate source target).find? path =
      (files.contents.find? fun entry => Path.relocate source target entry.1 == path).map (·.2) := by
  simp [find?, relocate, List.find?_map, Function.comp_def]

/-- A file beside what is moved, and beside where it is moved to, holds what it held. -/
theorem find?_relocate_of_beside (hsource : Beside path source) (htarget : Beside path target)
    (files : Files) : (files.relocate source target).find? path = files.find? path := by
  rw [find?_relocate, find?]
  congr 2
  funext entry
  rw [Bool.eq_iff_iff, beq_iff_eq, beq_iff_eq]
  exact hsource.relocate_eq_iff htarget

/-- A path is a directory if it is around the working directory or has been made. -/
theorem isDirectory_iff :
    files.isDirectory path = true ↔ path <+: files.home ∨ path ∈ files.directories := by
  rw [isDirectory, Bool.or_eq_true, List.isPrefixOf_iff_prefix, List.contains_iff_mem]

/-- A path is no directory if it is not around the working directory and has not been made. -/
theorem isDirectory_eq_false_iff :
    files.isDirectory path = false ↔ ¬(path <+: files.home ∨ path ∈ files.directories) := by
  rw [← Bool.not_eq_true, isDirectory_iff]

/-- A path in one directory with what is moved, and with where it is moved to, can be reached as
before, if it does not become a directory. -/
theorem reach_relocate (hsource : Path.Together path source) (htarget : Path.Together path target)
    (hfree : (files.relocate source target).isDirectory path = false)
    (h : files.reach path = .ok ()) : (files.relocate source target).reach path = .ok () := by
  rw [reach_eq_ok_iff, obstacle?_eq_none_iff] at h ⊢
  obtain ⟨⟨hzero, hsize, haround, hlong⟩, -⟩ := h
  refine ⟨⟨hzero, hsize, fun around hmem => ?_, hlong⟩, hfree⟩
  rw [isDirectory_iff]
  rcases isDirectory_iff.mp (haround around hmem) with hhome | hmade
  · exact .inl (htarget.prefix_relocate hmem hhome)
  · exact .inr (List.mem_map.mpr ⟨around, hmade, hsource.relocate_ancestor hmem target⟩)

/-- No path beside the one where something is moved to becomes a directory, if nothing comes to be
there. -/
theorem isDirectory_relocate_of_beside (htarget : Beside path target)
    (hfree : ∀ {other}, Path.relocate source target other = path → other = path)
    (h : files.isDirectory path = false) :
    (files.relocate source target).isDirectory path = false := by
  rw [isDirectory_eq_false_iff] at h ⊢
  rintro (hhome | hmade)
  · -- The working directory may be inside what is moved, but is not inside the path then.
    refine h (.inl ?_)
    change path <+: Path.relocate source target files.home at hhome
    rcases Path.relocate_cases source target files.home with ⟨rest, -, hmoved⟩ | ⟨-, hstays⟩
    · rw [hmoved] at hhome
      obtain ⟨front, name, name', rfl, rfl⟩ := htarget.together
      have hequal := (List.prefix_of_prefix_length_le hhome (List.prefix_append _ _)
        (by simp)).eq_of_length (by simp)
      exact absurd hequal htarget.ne
    · rwa [hstays] at hhome
  · obtain ⟨directory, hmem, hmoved⟩ := List.mem_map.mp hmade
    rw [hfree hmoved] at hmem
    exact h (.inr hmem)

/-- Every file holds what some file held before. -/
def OnlyMoved (files files' : Files) : Prop :=
  ∀ path bytes, files'.find? path = some bytes → ∃ source, files.find? source = some bytes

/-- Nothing has changed. -/
theorem OnlyMoved.refl (files : Files) : files.OnlyMoved files :=
  fun path _ h => ⟨path, h⟩

/-- What is moved twice is moved. -/
theorem OnlyMoved.trans (h : files.OnlyMoved files') (h' : files'.OnlyMoved files'') :
    files.OnlyMoved files'' := by
  intro path bytes hfind
  obtain ⟨source, hsource⟩ := h' path bytes hfind
  exact h source bytes hsource

/-- Taking a file away gives no file anything new. -/
theorem onlyMoved_drop (files : Files) (path : Path) : files.OnlyMoved (files.drop path) := by
  intro other bytes h
  by_cases hother : other = path
  · rw [hother, find?_drop_self] at h
    cases h
  · exact ⟨other, by rwa [find?_drop_of_ne hother] at h⟩

/-- Moving gives no file anything new. -/
theorem onlyMoved_relocate (files : Files) (source target : Path) :
    files.OnlyMoved (files.relocate source target) := by
  intro path bytes h
  rw [find?_relocate, Option.map_eq_some_iff] at h
  obtain ⟨entry, hfind, rfl⟩ := h
  obtain ⟨hentry, front, back, hcontents, hfront⟩ := List.find?_eq_some_iff_append.mp hfind
  refine ⟨entry.1, ?_⟩
  -- An earlier file at the path of this one would have been moved to the same path.
  have hfirst : files.contents.find? (fun other => other.1 == entry.1) = some entry := by
    refine List.find?_eq_some_iff_append.mpr ⟨beq_self_eq_true _, front, back, hcontents, ?_⟩
    intro other hother
    rw [Bool.not_eq_true', beq_eq_false_iff_ne]
    rintro hsame
    have hmoved := hfront other hother
    rw [hsame] at hmoved
    simp [hentry] at hmoved
  rw [find?, hfirst]
  rfl

/-! ### Taking the place of a file -/

/-- How it can go to take away what is at one path and to move there what is at another. -/
inductive Supplanting (files : Files) (source target : Path) :
    Except FileError Unit × Files → Prop
  /-- What is in the place cannot be taken away. -/
  | stuck {why : FileError} (hclear : files.clear target = .error why) :
      Supplanting files source target (.error why, files)
  /-- There is nothing to move. -/
  | vacant {cleared : Files} (hclear : files.clear target = .ok cleared)
      (hthere : cleared.isThere source = false) :
      Supplanting files source target (.ok (), cleared)
  /-- What there is to move cannot be moved. -/
  | refused {cleared : Files} {why : FileError} (hclear : files.clear target = .ok cleared)
      (hthere : cleared.isThere source = true)
      (hrename : cleared.rename source target = .error why) :
      Supplanting files source target (.error why, cleared)
  /-- It is moved. -/
  | moved {cleared : Files} (hclear : files.clear target = .ok cleared)
      (hthere : cleared.isThere source = true) (htarget : cleared.find? target = none) :
      Supplanting files source target (.ok (), cleared.relocate source target)

/-- What is moved is moved to a path where nothing is. -/
theorem rename_eq_ok (h : files.rename source target = .ok files') :
    files' = files.relocate source target ∧ files.find? target = none := by
  unfold rename at h
  split at h
  · cases h
  · cases h
  · split at h
    · cases h
    · split at h
      · cases h
      · next hfree =>
        cases h
        rw [Bool.not_eq_true, occupied, Bool.or_eq_false_iff] at hfree
        exact ⟨rfl, by simpa using hfree.2⟩

/-- It goes in one of these ways. -/
theorem supplanting (files : Files) (source target : Path) :
    Supplanting files source target (files.supplant source target) := by
  unfold supplant
  cases hclear : files.clear target with
  | error why => exact .stuck hclear
  | ok cleared =>
    dsimp only
    cases hthere : cleared.isThere source with
    | false => exact .vacant hclear hthere
    | true =>
      rw [if_pos rfl]
      cases hrename : cleared.rename source target with
      | error why => exact .refused hclear hthere hrename
      | ok moved =>
        obtain ⟨rfl, htarget⟩ := rename_eq_ok hrename
        exact .moved hclear hthere htarget

/-- A path is cleared by taking away the file there, or nothing is there to be taken away. -/
theorem clear_eq_ok (h : files.clear path = .ok files') :
    files' = files.drop path ∨ files' = files := by
  unfold clear at h
  split at h
  · split at h <;> cases h
    exact .inl rfl
  · cases h
    exact .inr rfl

/-- What clearing one path leaves of a file at another. -/
theorem find?_clear (h : files.clear target = .ok files') (hne : path ≠ target) :
    files'.find? path = files.find? path := by
  rcases clear_eq_ok h with rfl | rfl
  · exact find?_drop_of_ne hne files
  · rfl

/-- Clearing a path gives no file anything new. -/
theorem onlyMoved_clear (h : files.clear path = .ok files') : files.OnlyMoved files' := by
  rcases clear_eq_ok h with rfl | rfl
  · exact onlyMoved_drop files path
  · exact .refl files'

/-- Clearing a path makes no directory and takes none away. -/
theorem sameDirectories_clear (h : files.clear path = .ok files') :
    files.SameDirectories files' := by
  rcases clear_eq_ok h with rfl | rfl <;> exact ⟨rfl, rfl⟩

end Files

end ChatDice
