import ChatDice.Proofs.SavedSettings

/-!
# What happens to a desk over time

Files are written, made and taken away, and settings are opened, made, replaced, loaded and saved,
in any order (`Desk.run`). Settings come to the desk only after their limit has been looked at, and
so the limit in memory is in range at all times; one step keeps this (`Desk.inRange_act`), and so do
all (`Desk.inRange_run`). Unchecked assignment is left out.

An act that looks for settings and fails leaves the desk as it was, with one exception
(`Store.load_failed`): where there is no file, loading saves the settings in memory, and if these
cannot be saved, a file stays behind that is empty or ends too early. Settings that nest too deep to
be saved can be had from a file that is read, as lists are read to about twice the depth to which
they are saved (`ofDocument_deepDocument`).

Main statement (`Desk.limit_in_range_and_what_failures_change`): both hold after every run.
-/

namespace ChatDice

/-! ### Lists in lists -/

namespace Json

/-- A list in a list, and so on, the innermost one empty. -/
def nested : ℕ → Value
  | 0 => .array []
  | n + 1 => .array [nested n]

/-- The shortest text of such a list. -/
def nestedText : ℕ → List Char
  | 0 => ['[', ']']
  | n + 1 => '[' :: (nestedText n ++ [']'])

/-- Nested lists are as deep as they are many. -/
theorem depth_nested (n : ℕ) : (nested n).depth = n + 1 := by
  induction n with
  | zero => rfl
  | succ n ih => rw [nested, Value.depth, Value.depthOfItems, ih, Value.depthOfItems, Nat.max_zero]

/-- Their text is made of brackets. -/
theorem mem_nestedText {n : ℕ} {c : Char} (h : c ∈ nestedText n) : c = '[' ∨ c = ']' := by
  induction n with
  | zero => simpa [nestedText] using h
  | succ n ih =>
    simp only [nestedText, List.mem_cons, List.mem_append, List.not_mem_nil, or_false] at h
    rcases h with h | h | h
    · exact .inl h
    · exact ih h
    · exact .inr h

/-- The text spells the lists. -/
theorem spells_nestedText (n : ℕ) :
    Spells (n + 1) (nestedText n) (.value (.other (nested n))) := by
  induction n with
  | zero => exact .emptyList spaces_nil
  | succ n ih =>
    have hitems := Spells.lastItem spaces_nil ih spaces_nil
    rw [List.nil_append, List.append_nil] at hitems
    exact .list hitems

end Json

namespace Settings

open Json (nested nestedText depth_nested)

variable {settings : Settings} {why : SettingsError}

/-- A document that gives a list in lists as the level of the log, and nothing else. -/
def deepDocument (n : ℕ) : List Char :=
  '{' :: (Json.textChars "log_level" ++ ':' :: ' ' :: (nestedText n ++ ['}']))

/-- The settings that such a document gives. -/
def deep (n : ℕ) : Settings :=
  { standard with logLevel := nested n }

/-- A document may have nested lists for the level of the log. -/
theorem spellsObject_deepDocument (n : ℕ) :
    Json.SpellsObject (n + 1) (deepDocument n) [(.proper "log_level", .other (nested n))] := by
  have hblank : Json.Spaces [' '] := by decide
  have hname := Json.spellsText_flatMap_writeChar "log_level".toList
  have hmember := Json.Spells.lastMember Json.spaces_nil hname Json.spaces_nil hblank
    (Json.spells_nestedText n) Json.spaces_nil
  rw [Json.textOf_map_toNat] at hmember
  have hobject := Json.SpellsObject.members Json.spaces_nil hmember Json.spaces_nil
  simpa [deepDocument, Json.textChars] using hobject

/-- Such a document can be read unless the lists nest too deep for that. -/
theorem read_deepDocument {n : ℕ} (h : n + 2 ≤ Json.maxDepth) :
    Json.read (deepDocument n) = .ok (.object [(.proper "log_level", nested n)]) :=
  Json.read_of_spellsObject (spellsObject_deepDocument n) h

/-- Lists are read to a depth to which they are not saved. -/
theorem ofDocument_deepDocument {n : ℕ} (h : n + 2 ≤ Json.maxDepth) :
    ofDocument (deepDocument n) = .ok (deep n) := by
  have hrange : (deep n).InRange := ⟨1000, rfl, by norm_num, by norm_num⟩
  rw [ofDocument, read_deepDocument h]
  exact check_of_inRange hrange

/-- A file with such a document in it holds settings. -/
theorem ofBytes_deepDocument {n : ℕ} (h : n + 2 ≤ Json.maxDepth) :
    ofBytes (Text.Utf8.encode (String.ofList (deepDocument n))) = .ok (deep n) := by
  have hreturn : '\r' ∉ deepDocument n := by
    have hname : '\r' ∉ Json.textChars "log_level" := by decide
    have hnested : '\r' ∉ nestedText n := by
      intro hmem
      rcases Json.mem_nestedText hmem with h | h <;> cases h
    simp [deepDocument, hname, hnested]
  rw [ofBytes, Text.Utf8.decode?_encode]
  dsimp only
  rw [String.toList_ofList, Text.unifyLineEnds_of_not_mem hreturn, ofDocument_deepDocument h]

/-- Lists in lists that are deep enough are too deep to be saved. -/
theorem isTooDeep_deep {n : ℕ} (h : maxSavedDepth ≤ n) : (deep n).isTooDeep = true := by
  have hdepth : maxSavedDepth < (nested n).depth := by
    rw [depth_nested]
    omega
  simp [isTooDeep, deep, members, hdepth]

/-! ### Where settings come from -/

/-- The standard limit is in range. -/
theorem inRange_standard : standard.InRange :=
  ⟨1000, rfl, by norm_num, by norm_num⟩

/-- Settings are made only with a limit in range. -/
theorem inRange_of_ofMembers {given : Json.Members} (h : ofMembers given = .ok settings) :
    settings.InRange := by
  unfold ofMembers at h
  split at h
  · cases h
  · obtain ⟨rfl, hrange⟩ := check_eq_ok_iff.mp h
    exact hrange

/-- Only settings with a limit in range are found in a file. -/
theorem inRange_of_ofBytes {bytes : ByteArray} (h : ofBytes bytes = .ok settings) :
    settings.InRange := by
  unfold ofBytes at h
  split at h
  · cases h
  · unfold ofDocument at h
    split at h
    · cases h
    · cases h
    · exact inRange_of_ofMembers h
    · cases h

namespace Store

variable {store store' : Store} {files : Files}

/-- Loading gives a limit in range if the one in memory is. -/
theorem inRange_load (hrange : store.settings.InRange) (h : (store.load files).1 = .ok store') :
    store'.settings.InRange := by
  have hloading := loading store files
  generalize store.load files = outcome at hloading h
  cases hloading with
  | loaded hholds hread hsettings =>
    cases h
    exact inRange_of_ofBytes hsettings
  | made hholds htarget hsavable =>
    cases h
    exact hrange
  | unreadable | unfit | unsaved | refused => cases h

/-- Loading that fails changes no file, or makes one where there was none. -/
theorem load_failed (h : (store.load files).1 = .error why) :
    (store.load files).2 = files ∨
      ∃ path bytes, store.settings.Unsavable why bytes ∧ files.target store.path = .ok path ∧
        files.find? path = none ∧ (store.load files).2 = files.put path bytes := by
  have hloading := loading store files
  generalize store.load files = outcome at hloading h ⊢
  cases hloading with
  | loaded hholds hread hsettings => exact .inl rfl
  | made hholds htarget hsavable => cases h
  | unreadable | unfit | refused => exact .inl rfl
  | unsaved hholds htarget hunsavable =>
    cases h
    exact .inr ⟨_, _, hunsavable, htarget, Files.find?_of_not_holds htarget hholds, rfl⟩

end Store

/-! ### Single acts -/

/-- An act after which the settings in memory have been looked at: any but unchecked assignment. -/
def Act.IsChecked : Act → Prop
  | .assign _ => False
  | _ => True

/-- An act that looks for settings. -/
inductive Act.Seeks : Act → Prop
  | openAt (path : Text.Raw) : Seeks (.openAt path)
  | make (given : Json.Members) : Seeks (.make given)
  | load : Seeks .load

namespace Desk

variable {desk : Desk} {act : Act}

/-- The settings in memory, if there are any, have a limit in range. -/
def InRange (desk : Desk) : Prop :=
  ∀ store, desk.store = some store → store.settings.InRange

/-- What is done to the files alone keeps the limit in range. -/
theorem inRange_withFiles (h : desk.InRange) (change : Files → Except FileError Files) :
    (desk.withFiles change).2.InRange := by
  unfold withFiles
  cases change desk.files <;> exact h

/-- What is done with the open store keeps the limit in range if it does so for any store. -/
theorem inRange_withStore (h : desk.InRange) {change : Store → Except SettingsError Unit × Desk}
    (hchange : ∀ store, desk.store = some store → (change store).2.InRange) :
    (desk.withStore change).2.InRange := by
  unfold withStore
  cases hstore : desk.store with
  | none => exact h
  | some store => exact hchange store hstore

/-- A store that is put on the desk brings its limit with it. -/
theorem inRange_withOpened (h : desk.InRange) {outcome : Except SettingsError Store × Files}
    (hopened : ∀ store, outcome.1 = .ok store → store.settings.InRange) :
    (desk.withOpened outcome).2.InRange := by
  obtain ⟨opened, files⟩ := outcome
  cases opened with
  | error why => exact h
  | ok store =>
    rintro _ ⟨⟩
    exact hopened store rfl

/-- One act keeps the limit in range, as long as nothing is assigned unchecked. -/
theorem inRange_act (h : desk.InRange) (hact : act.IsChecked) : (desk.act act).2.InRange := by
  cases act with
  | write | makeDirectory | remove => exact inRange_withFiles h _
  | openAt path => exact inRange_withOpened h fun store => Store.inRange_load inRange_standard
  | make given => exact h
  | replace given =>
    refine inRange_withStore h fun store hstore => ?_
    cases hmade : ofMembers given with
    | error why => exact h
    | ok settings =>
      rintro _ ⟨⟩
      exact inRange_of_ofMembers hmade
  | load =>
    exact inRange_withStore h fun store hstore =>
      inRange_withOpened h fun store' => Store.inRange_load (h store hstore)
  | save => exact inRange_withStore h fun store hstore => h
  | assign given => exact hact.elim

/-- Putting a store on the desk fails if there is none to be had. -/
theorem withOpened_eq_error_iff {outcome : Except SettingsError Store × Files}
    {why : SettingsError} :
    (desk.withOpened outcome).1 = .error why ↔ outcome.1 = .error why := by
  obtain ⟨opened, files⟩ := outcome
  cases opened with
  | error why' => simp [withOpened]
  | ok store => simp [withOpened]

/-- Then the files alone may change. -/
theorem withOpened_of_error {outcome : Except SettingsError Store × Files} {why : SettingsError}
    (h : outcome.1 = .error why) :
    (desk.withOpened outcome).2 = { desk with files := outcome.2 } := by
  obtain ⟨opened, files⟩ := outcome
  cases h
  rfl

/-- Loading is done with the open store. -/
theorem act_load {store : Store} (h : desk.store = some store) :
    desk.act .load = desk.withOpened (store.load desk.files) := by
  simp only [act, withStore, h]

/-- An act that looks for settings and fails leaves the desk as it was, but for a file where
settings that cannot be saved were to be saved for want of one. -/
theorem act_failed {why : SettingsError} (hseeks : act.Seeks)
    (h : (desk.act act).1 = .error why) :
    (desk.act act).2 = desk ∨
      act = .load ∧ ∃ store path bytes, desk.store = some store ∧
        store.settings.Unsavable why bytes ∧ desk.files.target store.path = .ok path ∧
        desk.files.find? path = none ∧
        (desk.act act).2 = { desk with files := desk.files.put path bytes } := by
  cases hseeks with
  | make given => exact .inl rfl
  | openAt path =>
    have hload := withOpened_eq_error_iff.mp h
    have hdesk : (desk.withOpened (Store.openAt path desk.files)).2 =
        { desk with files := (Store.openAt path desk.files).2 } := withOpened_of_error hload
    -- The standard settings are in memory here, and they can be saved.
    rcases Store.load_failed hload with hfiles | ⟨_, _, hunsavable, -⟩
    · exact .inl (hdesk.trans (congrArg (Desk.mk · desk.store) hfiles))
    · cases isSavable_standard.symm.trans hunsavable.isSavable_eq
  | load =>
    cases hstore : desk.store with
    | none =>
      left
      simp only [act, withStore, hstore]
    | some store =>
      rw [act_load hstore] at h ⊢
      have hload := withOpened_eq_error_iff.mp h
      rw [withOpened_of_error hload]
      rcases Store.load_failed hload with hfiles | ⟨path, bytes, hunsavable, htarget, hfind, hfiles⟩
      · exact .inl (congrArg (Desk.mk · desk.store) hfiles)
      · exact .inr ⟨rfl, store, path, bytes, rfl, hunsavable, htarget, hfind, by rw [hfiles, hstore]⟩

/-! ### Runs -/

/-- Does one act after another, whether or not they succeed. -/
def run (acts : List Act) (desk : Desk) : Desk :=
  acts.foldl (fun desk act => (desk.act act).2) desk

/-- Without acts the desk is as it was. -/
@[simp] theorem run_nil (desk : Desk) : run [] desk = desk :=
  rfl

/-- The first act is done before the others. -/
@[simp] theorem run_cons (act : Act) (acts : List Act) (desk : Desk) :
    run (act :: acts) desk = run acts (desk.act act).2 :=
  rfl

/-- **All along a run** of checked acts the limit stays in range. -/
theorem inRange_run {acts : List Act} (h : desk.InRange) (hacts : ∀ act ∈ acts, act.IsChecked) :
    (run acts desk).InRange := by
  induction acts generalizing desk with
  | nil => exact h
  | cons act acts ih =>
    rw [List.forall_mem_cons] at hacts
    exact ih (inRange_act h hacts.1) hacts.2

/-- Settings stay in memory when the file that they were read from is taken away. -/
theorem run_of_file_taken_away {bytes : ByteArray} (hbytes : ofBytes bytes = .ok settings) :
    run [.write "config.json" bytes, .openAt "config.json", .remove "config.json"] .empty =
      ⟨.empty, some ⟨"config.json", settings⟩⟩ := by
  have htarget : Files.empty.target "config.json" = .ok ["config.json"] :=
    Files.target_name (by decide) List.not_mem_nil
  have hwrite : Files.empty.write "config.json" bytes =
      .ok (Files.empty.put ["config.json"] bytes) := by
    rw [Files.write, htarget]
    rfl
  have hopen : Store.openAt "config.json" (Files.empty.put ["config.json"] bytes) =
      (.ok ⟨"config.json", settings⟩, Files.empty.put ["config.json"] bytes) := by
    rw [Store.openAt, Store.load_of_read (Files.holds_put htarget _) (Files.read_put htarget _),
      hbytes]
    rfl
  have hremove : (Files.empty.put ["config.json"] bytes).remove "config.json" = .ok .empty :=
    Files.remove_of_find? (Files.target_put htarget _ _) (Files.find?_put_self _ _ _)
  simp [act, withFiles, withOpened, empty, hwrite, hopen, hremove]

/-- **The limit is in range at all times, and what fails changes nothing, with one exception.**
Start with any files and no store, and do anything except unchecked assignment. If there is a store
then, its limit is a number from one up to a billion, the billion excluded. If opening, making or
loading settings fails then, the files, the store and its settings are as they were before, or
loading has found no file and settings in memory that cannot be saved, and there is a file now that
is empty or ends too early. -/
theorem limit_in_range_and_what_failures_change (files : Files) (acts : List Act)
    (hacts : ∀ act ∈ acts, act.IsChecked) :
    let desk := run acts ⟨files, none⟩
    (∀ store, desk.store = some store →
      ∃ v, store.settings.limit?.bind Limit.value? = some v ∧ 1 ≤ v ∧ v < 10 ^ 9) ∧
      ∀ act why, act.Seeks → (desk.act act).1 = .error why →
        (desk.act act).2 = desk ∨
          act = .load ∧ ∃ store path bytes, desk.store = some store ∧
            store.settings.Unsavable why bytes ∧ desk.files.target store.path = .ok path ∧
            desk.files.find? path = none ∧
            (desk.act act).2 = { desk with files := desk.files.put path bytes } := by
  have hstart : InRange ⟨files, none⟩ := by
    rintro _ ⟨⟩
  exact ⟨inRange_run hstart hacts, fun act why hseeks h => act_failed hseeks h⟩

/-- A store is opened, and then another one in a directory that is not there: the first one stays,
with its limit in range. -/
theorem opening_in_a_missing_directory :
    let desk := run [.openAt "config.json"] .empty
    desk.store = some ⟨"config.json", standard⟩ ∧
      (∃ v, standard.limit?.bind Limit.value? = some v ∧ 1 ≤ v ∧ v < 10 ^ 9) ∧
      desk.act (.openAt "missing/config.json") = (.error (.file .notFound), desk) := by
  intro desk
  have hholds : Files.empty.holds "config.json" = false :=
    Files.holds_name (by decide) List.not_mem_nil
  have hdesk : desk =
      ⟨Files.empty.put ["config.json"] standard.bytes, some ⟨"config.json", standard⟩⟩ := by
    have hopen := Store.openAt_of_not_holds hholds (Files.target_name (by decide) List.not_mem_nil)
    rw [show desk = (Desk.empty.withOpened (Store.openAt "config.json" .empty)).2 from rfl, hopen]
    rfl
  have hmissing : desk.files.locate "missing/config.json" = .error .notFound := by
    rw [hdesk, Files.locate_eq (by decide) (by decide) (by decide)]
    rfl
  have hfails : (desk.act (.openAt "missing/config.json")).1 = .error (.file .notFound) := by
    have hholds : desk.files.holds "missing/config.json" = false := by rw [Files.holds, hmissing]
    have htarget : desk.files.target "missing/config.json" = .error .notFound := by
      rw [Files.target, hmissing]
    have hopen : Store.openAt "missing/config.json" desk.files =
        (.error (.file .notFound), desk.files) := by
      rw [Store.openAt, Store.load_of_not_holds hholds, Store.save_of_target_error htarget]
      rfl
    rw [act, hopen]
    rfl
  obtain ⟨hrange, hfailures⟩ := limit_in_range_and_what_failures_change .empty
    [.openAt "config.json"] (List.forall_mem_singleton.mpr trivial)
  have hstore : desk.store = some ⟨"config.json", standard⟩ := by rw [hdesk]
  refine ⟨hstore, hrange _ hstore, Prod.ext hfails ?_⟩
  rcases hfailures _ _ (.openAt _) hfails with hsame | ⟨hact, -⟩
  · exact hsame
  · cases hact

/-- Settings that nest five hundred lists deep are read from a file, which is then taken away.
Loading fails, but there is an empty file now, and opening it fails. -/
theorem loading_leaves_an_empty_file :
    let desk := run [.write "config.json" (Text.Utf8.encode (String.ofList (deepDocument 499))),
      .openAt "config.json", .remove "config.json"] .empty
    desk = ⟨.empty, some ⟨"config.json", deep 499⟩⟩ ∧
      desk.act .load =
        (.error .tooDeep, { desk with files := Files.empty.put ["config.json"] .empty }) ∧
      ∃ why, ((desk.act .load).2.act (.openAt "config.json")).1 = .error why := by
  intro desk
  have htarget : Files.empty.target "config.json" = .ok ["config.json"] :=
    Files.target_name (by decide) List.not_mem_nil
  have hdesk : desk = ⟨.empty, some ⟨"config.json", deep 499⟩⟩ :=
    run_of_file_taken_away (ofBytes_deepDocument (by decide))
  have hload : desk.act .load =
      (.error .tooDeep, { desk with files := Files.empty.put ["config.json"] .empty }) := by
    have hholds : Files.empty.holds "config.json" = false :=
      Files.holds_name (by decide) List.not_mem_nil
    have hsave : Store.save ⟨"config.json", deep 499⟩ .empty =
        (.error .tooDeep, Files.empty.put ["config.json"] .empty) :=
      Store.save_of_isTooDeep htarget (isTooDeep_deep (by decide))
    have hfails : Store.load ⟨"config.json", deep 499⟩ .empty =
        (.error .tooDeep, Files.empty.put ["config.json"] .empty) := by
      rw [Store.load_of_not_holds hholds, hsave]
      rfl
    rw [hdesk, act_load rfl, hfails]
    rfl
  refine ⟨hdesk, hload, ?_⟩
  obtain ⟨why, hwhy⟩ := Store.load_put_of_unsavable ⟨"config.json", standard⟩ htarget
    (.tooDeep (isTooDeep_deep (n := 499) (by decide)))
  rw [hload]
  exact ⟨why, withOpened_eq_error_iff.mpr hwhy⟩

end Desk

end Settings

end ChatDice
