import ChatDice.Proofs.OpenBrackets
import ChatDice.Proofs.WrittenFiles
import ChatDice.Settings.Store

/-!
# How saving and loading settings can go

Saving opens the file before it looks at the settings (`Store.Saving`): a path that cannot be
written leaves the files alone, but settings that cannot be saved leave something behind
(`Unsavable`). Where they nest too deep it is an empty file, and where a value cannot be written it
is a document that ends there. Neither gives settings (`Unsavable.ofBytes_eq_error`). Loading from a
file that is not there is saving (`Store.Loading`), and everything else that loading does leaves the
files alone.

Replacing settings changes the memory before it saves. So a replacement that fails is in force all
the same, and what is in memory is then nowhere to be loaded from.

Main statement (`Store.replaced_even_if_unsaved`): what a replacement leaves in memory and in the
files, whether or not it succeeds.
-/

namespace ChatDice.Settings

/-! ### Settings that cannot be saved -/

/-- Why settings cannot be saved, and what their file holds after an attempt. -/
inductive Unsavable (settings : Settings) : SettingsError → ByteArray → Prop
  /-- They nest too deep, and the file is empty. -/
  | tooDeep (hdeep : settings.isTooDeep = true) : Unsavable settings .tooDeep .empty
  /-- A value cannot be written, and the file holds what comes before it. -/
  | unwritable {why : Json.WriteError} (hdeep : settings.isTooDeep = false)
      (hstop : Json.stop? (.object settings.members) = some why) :
      Unsavable settings (.unwritable why) settings.bytes

variable {settings : Settings} {bytes : ByteArray} {cause : SettingsError}

/-- Settings that cannot be saved have a reason for it. -/
theorem unsavable_of_saveError? (h : settings.saveError? = some cause) :
    settings.Unsavable cause settings.saved := by
  unfold saveError? at h
  unfold saved
  cases hdeep : settings.isTooDeep with
  | true =>
    rw [hdeep] at h
    cases h
    exact .tooDeep hdeep
  | false =>
    rw [hdeep] at h
    obtain ⟨why, hstop, rfl⟩ := Option.map_eq_some_iff.mp h
    exact .unwritable hdeep hstop

/-- Settings that can be saved do not nest too deep, and nothing stops their writing. -/
theorem isSavable_iff :
    settings.isSavable = true ↔
      settings.isTooDeep = false ∧ Json.stop? (.object settings.members) = none := by
  cases hdeep : settings.isTooDeep <;> simp [isSavable, saveError?, hdeep]

/-- Settings that can be saved are saved as a whole. -/
theorem saved_of_isSavable (h : settings.isSavable = true) : settings.saved = settings.bytes := by
  rw [saved, (isSavable_iff.mp h).1]
  rfl

/-- Settings for which there is a reason cannot be saved. -/
theorem Unsavable.isSavable_eq (h : settings.Unsavable cause bytes) :
    settings.isSavable = false := by
  rw [← Bool.not_eq_true, isSavable_iff]
  rintro ⟨hshallow, hwritten⟩
  cases h with
  | tooDeep hdeep => cases hdeep.symm.trans hshallow
  | unwritable _ hstop => cases hstop.symm.trans hwritten

/-- An empty file gives no settings. -/
theorem ofBytes_empty : ofBytes .empty = .error (.notJson [] (.malformed .noValue [])) := by
  have hdecode : Text.Utf8.decode? .empty = some "" := Text.Utf8.decode?_encode ""
  rw [ofBytes, hdecode]
  rfl

/-- What settings that cannot be saved leave behind gives no settings. -/
theorem Unsavable.ofBytes_eq_error (h : settings.Unsavable cause bytes) :
    ∃ why, ofBytes bytes = .error why := by
  cases h with
  | tooDeep => exact ⟨_, ofBytes_empty⟩
  | unwritable _ hstop =>
    obtain ⟨why, hread⟩ := Json.read_of_stop? (by rw [hstop]; exact Option.some_ne_none _)
    rw [Settings.bytes, ofBytes, Text.Utf8.decode?_encode]
    dsimp only
    rw [ofDocument, hread]
    cases why <;> exact ⟨_, rfl⟩

namespace Store

variable {store : Store} {files : Files} {path : Path} {why : FileError}

/-! ### Saving -/

/-- How saving can go, with the files afterwards. -/
inductive Saving (store : Store) (files : Files) : Except SettingsError Unit × Files → Prop
  /-- The settings are saved. -/
  | saved {path : Path} (htarget : files.target store.path = .ok path)
      (hsavable : store.settings.isSavable = true) :
      Saving store files (.ok (), files.put path store.settings.bytes)
  /-- The settings cannot be saved, and the file is not as it was. -/
  | unsaved {path : Path} {cause : SettingsError} {bytes : ByteArray}
      (htarget : files.target store.path = .ok path)
      (hunsavable : store.settings.Unsavable cause bytes) :
      Saving store files (.error cause, files.put path bytes)
  /-- The path cannot be written, and nothing is changed. -/
  | refused {why : FileError} (htarget : files.target store.path = .error why) :
      Saving store files (.error (.file why), files)

/-- Nothing is saved at a path that cannot be written. -/
theorem save_of_target_error (htarget : files.target store.path = .error why) :
    store.save files = (.error (.file why), files) := by
  rw [save, htarget]

/-- Settings that can be saved are saved at a path that can be written. -/
theorem save_of_savable (htarget : files.target store.path = .ok path)
    (hsavable : store.settings.isSavable = true) :
    store.save files = (.ok (), files.put path store.settings.bytes) := by
  have hnone : store.settings.saveError? = none := by simpa [isSavable] using hsavable
  rw [save, htarget, hnone, saved_of_isSavable hsavable]

/-- Settings that cannot be saved leave something at a path that can be written. -/
theorem save_of_saveError? (htarget : files.target store.path = .ok path)
    (herror : store.settings.saveError? = some cause) :
    store.save files = (.error cause, files.put path store.settings.saved) := by
  rw [save, htarget, herror]

/-- Settings that nest too deep leave an empty file. -/
theorem save_of_isTooDeep (htarget : files.target store.path = .ok path)
    (hdeep : store.settings.isTooDeep = true) :
    store.save files = (.error .tooDeep, files.put path .empty) := by
  rw [save, htarget, saveError?, saved, hdeep]
  rfl

/-- Saving goes in one of these ways. -/
theorem saving (store : Store) (files : Files) : Saving store files (store.save files) := by
  cases htarget : files.target store.path with
  | error why =>
    rw [save_of_target_error htarget]
    exact .refused htarget
  | ok path =>
    cases herror : store.settings.saveError? with
    | none =>
      have hsavable : store.settings.isSavable = true := by rw [isSavable, herror]; rfl
      rw [save_of_savable htarget hsavable]
      exact .saved htarget hsavable
    | some cause =>
      rw [save_of_saveError? htarget herror]
      exact .unsaved htarget (unsavable_of_saveError? herror)

/-! ### Loading -/

/-- How loading can go, with the files afterwards. -/
inductive Loading (store : Store) (files : Files) : Except SettingsError Store × Files → Prop
  /-- The file gives settings. -/
  | loaded {bytes : ByteArray} {settings : Settings} (hholds : files.holds store.path = true)
      (hread : files.read store.path = .ok bytes) (hsettings : ofBytes bytes = .ok settings) :
      Loading store files (.ok { store with settings }, files)
  /-- What is at the path cannot be read. -/
  | unreadable {why : FileError} (hholds : files.holds store.path = true)
      (hread : files.read store.path = .error why) : Loading store files (.error (.file why), files)
  /-- The file gives no settings. -/
  | unfit {bytes : ByteArray} {why : SettingsError} (hholds : files.holds store.path = true)
      (hread : files.read store.path = .ok bytes) (hsettings : ofBytes bytes = .error why) :
      Loading store files (.error why, files)
  /-- There is no file, and the settings in memory are saved. -/
  | made {path : Path} (hholds : files.holds store.path = false)
      (htarget : files.target store.path = .ok path) (hsavable : store.settings.isSavable = true) :
      Loading store files (.ok store, files.put path store.settings.bytes)
  /-- There is no file, the settings in memory cannot be saved, and there is a file now. -/
  | unsaved {path : Path} {cause : SettingsError} {bytes : ByteArray}
      (hholds : files.holds store.path = false) (htarget : files.target store.path = .ok path)
      (hunsavable : store.settings.Unsavable cause bytes) :
      Loading store files (.error cause, files.put path bytes)
  /-- There is no file, and there cannot be one. -/
  | refused {why : FileError} (hholds : files.holds store.path = false)
      (htarget : files.target store.path = .error why) :
      Loading store files (.error (.file why), files)

/-- Where there is no file, loading is saving. -/
theorem load_of_not_holds (hholds : files.holds store.path = false) :
    store.load files = ((store.save files).1.map fun _ => store, (store.save files).2) := by
  rw [load, hholds]
  rfl

/-- Where a file can be read, its bytes settle what is loaded. -/
theorem load_of_read (hholds : files.holds store.path = true)
    (hread : files.read store.path = .ok bytes) :
    store.load files = ((ofBytes bytes).map fun settings => { store with settings }, files) := by
  rw [load, if_pos hholds, hread]

/-- Loading goes in one of these ways. -/
theorem loading (store : Store) (files : Files) : Loading store files (store.load files) := by
  cases hholds : files.holds store.path with
  | true =>
    cases hread : files.read store.path with
    | error why =>
      rw [load, if_pos hholds, hread]
      exact .unreadable hholds hread
    | ok bytes =>
      rw [load_of_read hholds hread]
      cases hsettings : ofBytes bytes with
      | error why => exact .unfit hholds hread hsettings
      | ok settings => exact .loaded hholds hread hsettings
  | false =>
    rw [load_of_not_holds hholds]
    have hsaving := saving store files
    generalize store.save files = outcome at hsaving ⊢
    cases hsaving with
    | saved htarget hsavable => exact .made hholds htarget hsavable
    | unsaved htarget hunsavable => exact .unsaved hholds htarget hunsavable
    | refused htarget => exact .refused hholds htarget

/-- Nothing is loaded from a path that cannot be written. -/
theorem load_of_target_error (store : Store) (htarget : files.target store.path = .error why) :
    ∃ cause, (store.load files).1 = .error cause := by
  have hloading := loading store files
  generalize store.load files = outcome at hloading ⊢
  cases hloading with
  | loaded hholds hread hsettings =>
    obtain ⟨path, hpath, -⟩ := Files.exists_target_of_read hread
    rw [htarget] at hpath
    cases hpath
  | made hholds hpath hsavable =>
    rw [htarget] at hpath
    cases hpath
  | unreadable | unfit | unsaved | refused => exact ⟨_, rfl⟩

/-- Nothing is loaded from what settings that cannot be saved leave behind. -/
theorem load_put_of_unsavable (store : Store) (htarget : files.target store.path = .ok path)
    (h : settings.Unsavable cause bytes) :
    ∃ cause, (store.load (files.put path bytes)).1 = .error cause := by
  obtain ⟨why, hwhy⟩ := h.ofBytes_eq_error
  rw [load_of_read (Files.holds_put htarget _) (Files.read_put htarget _), hwhy]
  exact ⟨why, rfl⟩

/-! ### Replacing -/

/-- Replacing puts the settings into memory, and then it is saving. -/
theorem replace_eq (store : Store) (settings : Settings) (files : Files) :
    store.replace settings files =
      ((save ⟨store.path, settings⟩ files).1, ⟨store.path, settings⟩,
        (save ⟨store.path, settings⟩ files).2) :=
  rfl

/-- **A replacement is in force even where it is not saved.** The memory holds the new settings
afterwards in every case. Where the path can be written and the settings can be saved, the file
holds them too. Else replacing fails, and nothing can be loaded from the files that it leaves: these
are the files as they were where the path cannot be written; where the settings nest too deep the
file has been emptied, and where a value cannot be written it has been cut off before the value. -/
theorem replaced_even_if_unsaved (store : Store) (settings : Settings) (files : Files) :
    ∃ saved files', store.replace settings files = (saved, ⟨store.path, settings⟩, files') ∧
      ((saved = .ok () ∧ settings.isSavable = true ∧ files'.read store.path = .ok settings.bytes ∧
          ∃ path, files.target store.path = .ok path ∧ files' = files.put path settings.bytes) ∨
        (∃ cause, saved = .error cause ∧
          ((∃ why, cause = .file why ∧ files.target store.path = .error why ∧ files' = files) ∨
            (cause = .tooDeep ∧ settings.isTooDeep = true ∧
              ∃ path, files.target store.path = .ok path ∧ files' = files.put path .empty) ∨
            (∃ why, cause = .unwritable why ∧ settings.isTooDeep = false ∧
              Json.stop? (.object settings.members) = some why ∧
              ∃ path, files.target store.path = .ok path ∧ files' = files.put path settings.bytes)) ∧
          ∀ memory, ∃ cause, (load ⟨store.path, memory⟩ files').1 = .error cause)) := by
  refine ⟨_, _, replace_eq store settings files, ?_⟩
  have hsaving := saving ⟨store.path, settings⟩ files
  generalize save ⟨store.path, settings⟩ files = outcome at hsaving ⊢
  cases hsaving with
  | saved htarget hsavable =>
    exact .inl ⟨rfl, hsavable, Files.read_put htarget _, _, htarget, rfl⟩
  | unsaved htarget hunsavable =>
    refine .inr ⟨_, rfl, .inr ?_, fun memory =>
      load_put_of_unsavable ⟨store.path, memory⟩ htarget hunsavable⟩
    cases hunsavable with
    | tooDeep hdeep => exact .inl ⟨rfl, hdeep, _, htarget, rfl⟩
    | unwritable hshallow hstop => exact .inr ⟨_, rfl, hshallow, hstop, _, htarget, rfl⟩
  | refused htarget =>
    exact .inr ⟨_, rfl, .inl ⟨_, rfl, htarget, rfl⟩,
      fun memory => load_of_target_error ⟨store.path, memory⟩ htarget⟩

/-- Where a directory has taken the place of the file, a new sign before the commands is refused and
in force. -/
theorem replaced_where_a_directory_stands :
    replace ⟨"config.json", standard⟩ { standard with commandPrefix := .string "?" }
        ⟨[], [["config.json"]], []⟩ =
      (.error (.file .isDirectory),
        ⟨"config.json", { standard with commandPrefix := .string "?" }⟩,
        ⟨[], [["config.json"]], []⟩) ∧
      ({ standard with commandPrefix := .string "?" } : Settings) ≠ standard := by
  have htarget : Files.target ⟨[], [["config.json"]], []⟩ "config.json" = .error .isDirectory := by
    rw [Files.target, Files.locate_name (by decide)]
    rfl
  refine ⟨?_, fun h => ?_⟩
  · rw [replace_eq, save_of_target_error htarget]
  · simpa [standard] using congrArg commandPrefix h

end Store

end ChatDice.Settings
