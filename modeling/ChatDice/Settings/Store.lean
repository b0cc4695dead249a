import ChatDice.Settings.Basic

/-!
# Settings in a file

A `Store` is a file of settings that has been opened: its path and the settings in memory. Opening a
file that is not there makes it, with the settings in memory.

Loading changes the memory only if it succeeds. Replacing the settings changes the memory first and
saves afterwards, so that a replacement is in force even where it cannot be saved. Saving opens the
file before it looks at the settings, so that settings that cannot be saved leave an empty file or
the beginning of a document.

A `Desk` is a tree of files with perhaps one store open on it, and `Desk.act` is one thing done to
them; what happens over time to files and settings is a list of such acts.
-/

namespace ChatDice.Settings

/-- An open file of settings. -/
structure Store where
  /-- The path of the file, as it was given. -/
  path : Text.Raw
  /-- The settings in memory. -/
  settings : Settings
deriving Repr

namespace Store

/-- Saves the settings: how that went, and the files afterwards. A file that can be written is
emptied first, and holds what has been written by then where the settings cannot be saved. -/
def save (store : Store) (files : Files) : Except SettingsError Unit × Files :=
  match files.target store.path with
  | .error why => (.error (.file why), files)
  | .ok path =>
    let result :=
      match store.settings.saveError? with
      | none => .ok ()
      | some why => .error why
    (result, files.put path store.settings.saved)

/-- Loads the settings, or saves those in memory if there is no file: the store with the settings
loaded, and the files afterwards. -/
def load (store : Store) (files : Files) : Except SettingsError Store × Files :=
  if files.holds store.path then
    match files.read store.path with
    | .error why => (.error (.file why), files)
    | .ok bytes => ((ofBytes bytes).map fun settings => { store with settings }, files)
  else
    let (saved, files) := store.save files
    (saved.map fun _ => store, files)

/-- Replaces the settings in memory and saves them: how saving went, the store afterwards and the
files afterwards. -/
def replace (store : Store) (settings : Settings) (files : Files) :
    Except SettingsError Unit × Store × Files :=
  let store := { store with settings }
  let (saved, files) := store.save files
  (saved, store, files)

/-- Opens a file of settings: the store, and the files afterwards. -/
def openAt (path : Text.Raw) (files : Files) : Except SettingsError Store × Files :=
  load ⟨path, standard⟩ files

end Store

/-- A tree of files and the store that is open. -/
structure Desk where
  /-- The files. -/
  files : Files
  /-- The open store. -/
  store : Option Store

/-- Something done to files and settings. -/
inductive Act where
  /-- Writes a file. -/
  | write (path : Text.Raw) (bytes : ByteArray)
  /-- Makes a directory. -/
  | makeDirectory (path : Text.Raw)
  /-- Takes a file away. -/
  | remove (path : Text.Raw)
  /-- Opens a file of settings in the place of the one that is open. -/
  | openAt (path : Text.Raw)
  /-- Makes settings and puts them nowhere. -/
  | make (given : Json.Members)
  /-- Replaces the settings by new ones and saves them. -/
  | replace (given : Json.Members)
  /-- Loads the settings. -/
  | load
  /-- Saves the settings. -/
  | save
  /-- Changes the settings in memory, unchecked. -/
  | assign (given : Json.Members)

namespace Desk

/-- The empty desk. -/
def empty : Desk := ⟨.empty, none⟩

/-- Does something to the files. -/
def withFiles (desk : Desk) (change : Files → Except FileError Files) :
    Except SettingsError Unit × Desk :=
  match change desk.files with
  | .error why => (.error (.file why), desk)
  | .ok files => (.ok (), { desk with files := files })

/-- Does something with the open store. -/
def withStore (desk : Desk) (change : Store → Except SettingsError Unit × Desk) :
    Except SettingsError Unit × Desk :=
  match desk.store with
  | none => (.error .nothingOpen, desk)
  | some store => change store

/-- Puts a store on the desk if it was to be had. -/
def withOpened (desk : Desk) : Except SettingsError Store × Files →
    Except SettingsError Unit × Desk
  | (.error why, files) => (.error why, { desk with files := files })
  | (.ok store, files) => (.ok (), ⟨files, some store⟩)

/-- One act: how it went, and the desk after it. -/
def act (desk : Desk) : Act → Except SettingsError Unit × Desk
  | .write path bytes => desk.withFiles fun files => files.write path bytes
  | .makeDirectory path => desk.withFiles fun files => files.makeDirectory path
  | .remove path => desk.withFiles fun files => files.remove path
  | .openAt path => desk.withOpened (Store.openAt path desk.files)
  | .make given => ((ofMembers given).map fun _ => (), desk)
  | .replace given =>
    desk.withStore fun store =>
      match ofMembers given with
      | .error why => (.error why, desk)
      | .ok settings =>
        let (saved, store, files) := store.replace settings desk.files
        (saved, ⟨files, some store⟩)
  | .load => desk.withStore fun store => desk.withOpened (store.load desk.files)
  | .save =>
    desk.withStore fun store =>
      let (saved, files) := store.save desk.files
      (saved, { desk with files := files })
  | .assign given =>
    desk.withStore fun store =>
      (.ok (), { desk with store := some { store with settings := store.settings.assign given } })

end Desk

end ChatDice.Settings
