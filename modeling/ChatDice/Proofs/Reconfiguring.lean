import ChatDice.Log.Journal
import ChatDice.Proofs.WrittenFiles

/-!
# Setting up the journal anew

Setting up anew takes the handlers away, opens the log file, adds handlers and only then looks at
the level. How far it comes is all that matters for what it leaves (`Journal.Configuring`): without
a file there are no handlers, and without a level there are the new handlers and the old level. The
handlers that were there before are gone in every case.

A journal without handlers writes to no file: one record does not
(`Journal.files_write_of_no_handlers`), and so no records do
(`Journal.files_writeAll_of_no_handlers`).

Main statement (`Journal.configured_in_part`): what setting up anew leaves, whether or not it
succeeds.
-/

namespace ChatDice.Log.Journal

variable {journal : Journal} {files : Files} {file : Text.Raw} {path : Path} {why : FileError}

/-! ### Adding handlers -/

/-- No handlers are added where the log file cannot be opened. -/
theorem addHandlers_of_resolve_error (h : files.resolve file = .error why) (journal : Journal) :
    journal.addHandlers files file = .error why := by
  rw [addHandlers, h]
  rfl

/-- Two handlers are added where the log file can be opened. -/
theorem addHandlers_of_resolve (h : files.resolve file = .ok path) (journal : Journal) :
    journal.addHandlers files file =
      .ok ({ journal with handlers := journal.handlers ++ [.file path, .console] },
        files.put path ((files.find? path).getD .empty)) := by
  rw [addHandlers, h]
  rfl

/-! ### How far it comes -/

/-- How setting up anew can go, with the journal and the files afterwards. -/
inductive Configuring (journal : Journal) (files : Files) :
    Json.Value → Json.Value → Except JournalError Unit × Journal × Files → Prop
  /-- Everything is new. -/
  | configured {file word : Text.Raw} {path : Path} (hresolve : files.resolve file = .ok path) :
      Configuring journal files (.text file) (.text word)
        (.ok (), ⟨[.file path, .console], levelNamed word⟩,
          files.put path ((files.find? path).getD .empty))
  /-- The level is no text, and only the handlers are new. -/
  | levelNotText {file : Text.Raw} {level : Json.Value} {path : Path}
      (hlevel : ∀ word, level ≠ .text word) (hresolve : files.resolve file = .ok path) :
      Configuring journal files (.text file) level
        (.error .levelNotText, ⟨[.file path, .console], journal.level⟩,
          files.put path ((files.find? path).getD .empty))
  /-- The log file cannot be opened, and there are no handlers. -/
  | refused {file : Text.Raw} {level : Json.Value} {why : FileError}
      (hresolve : files.resolve file = .error why) :
      Configuring journal files (.text file) level
        (.error (.file why), ⟨[], journal.level⟩, files)
  /-- The name of the log file is no text, and there are no handlers. -/
  | fileNotText {name level : Json.Value} (hname : ∀ file, name ≠ .text file) :
      Configuring journal files name level (.error .fileNotText, ⟨[], journal.level⟩, files)

/-- Setting up anew goes in one of these ways. -/
theorem configuring (journal : Journal) (files : Files) (name level : Json.Value) :
    Configuring journal files name level (journal.configure files name level) := by
  cases name with
  | text file =>
    cases hresolve : files.resolve file with
    | error why =>
      simp only [configure, addHandlers_of_resolve_error hresolve]
      exact .refused hresolve
    | ok path =>
      simp only [configure, addHandlers_of_resolve hresolve, List.nil_append]
      cases level with
      | text word => exact .configured hresolve
      | _ => exact .levelNotText (by rintro word ⟨⟩) hresolve
  | _ => exact .fileNotText (by rintro file ⟨⟩)

/-- What is needed for a way to go is enough for it to be gone. -/
theorem Configuring.configure_eq {name level : Json.Value}
    {outcome : Except JournalError Unit × Journal × Files}
    (h : Configuring journal files name level outcome) :
    journal.configure files name level = outcome := by
  cases h with
  | configured hresolve => simp only [configure, addHandlers_of_resolve hresolve, List.nil_append]
  | levelNotText hlevel hresolve =>
    simp only [configure, addHandlers_of_resolve hresolve, List.nil_append]
  | refused hresolve => simp only [configure, addHandlers_of_resolve_error hresolve]
  | fileNotText hname =>
    cases name with
    | text file => exact absurd rfl (hname file)
    | _ => rfl

/-! ### Writing -/

/-- A line goes to the end of a log file that can be reached. -/
theorem writeEnd_of_reach {text : String} (h : files.reach path = .ok ()) :
    writeEnd files path text =
      (.ok (), files.put path ((files.find? path).getD .empty ++ Text.Utf8.encode text)) := by
  rw [writeEnd, Files.append, h]
  rfl

/-- A line that does not fill the log file goes to its end. -/
theorem writeFile_of_lt {text : String} (hsize : files.size path + text.length < maxFileSize) :
    writeFile files path text = writeEnd files path text := by
  have hdue : isDue files path text = false := by
    simp [isDue, Nat.not_le.mpr hsize]
  rw [writeFile, hdue]
  rfl

/-- What a record that is not passed over does where there are two handlers. -/
theorem write_of_handlers (h : journal.handlers = [.file path, .console]) (moment : Moment)
    (files : Files) {record : Record} (traced : Bool)
    (hlevel : journal.effectiveLevel ≤ record.level.rank) :
    journal.write moment files record traced =
      ((writeFile files path (line moment.stamp record traced)).2,
        moment.told (line moment.stamp record traced)
            (writeFile files path (line moment.stamp record traced)).1 ++
          line moment.stamp record traced) := by
  simp only [write, if_neg (Int.not_lt.mpr hlevel), h, reduceCtorEq, if_false, List.foldl_cons,
    List.foldl_nil, handle, String.empty_append]

/-- Without handlers a record changes no file. -/
theorem files_write_of_no_handlers (h : journal.handlers = []) (moment : Moment) (files : Files)
    (record : Record) (traced : Bool) : (journal.write moment files record traced).1 = files := by
  unfold write
  by_cases hlevel : record.level.rank < journal.effectiveLevel
  · rw [if_pos hlevel]
  · rw [if_neg hlevel, if_pos h]
    split <;> rfl

/-- Without handlers no records change a file. -/
theorem files_writeAll_of_no_handlers (h : journal.handlers = []) (moment : Moment) (files : Files)
    (records : List Record) : (journal.writeAll moment files records).1 = files := by
  unfold writeAll
  generalize "" = console
  induction records generalizing console with
  | nil => rfl
  | cons record records ih =>
    rw [List.foldl_cons]
    have hfiles := files_write_of_no_handlers h moment files record false
    generalize journal.write moment files record false = written at hfiles ⊢
    obtain ⟨files', text⟩ := written
    subst hfiles
    exact ih _

/-! ### Setting up anew -/

/-- **A journal that cannot be set up anew is not as it was.** If both the log file and the level
are to be had, both are new. If only the log file is, records go to it from then on at the level as
before. If the log file is not to be had, there are no handlers, the level and the files are as
before, and no record reaches any file from then on. -/
theorem configured_in_part (journal : Journal) (files : Files) (name level : Json.Value) :
    ∃ configured journal' files',
      journal.configure files name level = (configured, journal', files') ∧
      ((∃ file word path, name = .text file ∧ level = .text word ∧
          files.resolve file = .ok path ∧ configured = .ok () ∧
          journal' = ⟨[.file path, .console], levelNamed word⟩ ∧
          files' = files.put path ((files.find? path).getD .empty)) ∨
        (∃ file path, name = .text file ∧ (∀ word, level ≠ .text word) ∧
          files.resolve file = .ok path ∧ configured = .error .levelNotText ∧
          journal' = ⟨[.file path, .console], journal.level⟩ ∧
          files' = files.put path ((files.find? path).getD .empty)) ∨
        (((∀ file, name ≠ .text file) ∧ configured = .error .fileNotText ∨
            ∃ file why, name = .text file ∧ files.resolve file = .error why ∧
              configured = .error (.file why)) ∧
          journal' = ⟨[], journal.level⟩ ∧ files' = files ∧
          ∀ moment files'' records, (journal'.writeAll moment files'' records).1 = files'')) := by
  have hconfiguring := configuring journal files name level
  generalize journal.configure files name level = outcome at hconfiguring ⊢
  refine ⟨outcome.1, outcome.2.1, outcome.2.2, rfl, ?_⟩
  have hnowhere : ∀ moment files'' records,
      (writeAll ⟨[], journal.level⟩ moment files'' records).1 = files'' :=
    fun moment files'' records => files_writeAll_of_no_handlers rfl moment files'' records
  cases hconfiguring with
  | configured hresolve => exact .inl ⟨_, _, _, rfl, rfl, hresolve, rfl, rfl, rfl⟩
  | levelNotText hlevel hresolve => exact .inr (.inl ⟨_, _, rfl, hlevel, hresolve, rfl, rfl, rfl⟩)
  | refused hresolve =>
    exact .inr (.inr ⟨.inr ⟨_, _, rfl, hresolve, rfl⟩, rfl, rfl, hnowhere⟩)
  | fileNotText hname => exact .inr (.inr ⟨.inl ⟨hname, rfl⟩, rfl, rfl, hnowhere⟩)

/-- A log file in a directory that is not there is asked for. The next record would have reached the
log file in use, and does not. -/
theorem record_lost_to_a_missing_directory :
    let started : Journal := ⟨[.file ["bot.log"], .console], 20⟩
    let files := Files.empty.put ["bot.log"] .empty
    let moment : Moment := ⟨"", fun _ _ => ""⟩
    initial.start .empty (.string "bot.log") 20 = (.ok (), started, files) ∧
      started.configure files (.string "missing/x.log") (.string "INFO") =
        (.error (.file .notFound), ⟨[], 20⟩, files) ∧
      (started.write moment files (.info "x") false).1.find? ["bot.log"] =
        some (Text.Utf8.encode "RPGDiceBot - INFO - x\n") ∧
      (write ⟨[], 20⟩ moment files (.info "x") false).1.find? ["bot.log"] = some .empty := by
  intro started files moment
  have hempty : Files.empty.resolve "bot.log" = .ok ["bot.log"] :=
    Files.resolve_name (by decide) rfl List.not_mem_nil
  refine ⟨?_, ?_, ?_, ?_⟩
  · have hadd : addHandlers ⟨[], 20⟩ .empty "bot.log" = .ok (started, files) := by
      rw [addHandlers_of_resolve hempty]
      rfl
    simp only [start, initial, ne_eq, not_true_eq_false, if_false, hadd]
  · have hmissing : files.resolve "missing/x.log" = .error .notFound :=
      Files.resolve_of_obstacle ["missing", "x.log"] (by decide) (by decide) (by decide)
    simp only [configure, addHandlers_of_resolve_error hmissing, started]
  · have hline : line "" (.info "x") false = "RPGDiceBot - INFO - x\n" := by decide
    have hwrite : writeFile files ["bot.log"] "RPGDiceBot - INFO - x\n" =
        (.ok (), files.put ["bot.log"] (Text.Utf8.encode "RPGDiceBot - INFO - x\n")) := by
      have hsize : (Files.empty.put ["bot.log"] .empty).size ["bot.log"] +
          "RPGDiceBot - INFO - x\n".length < maxFileSize := by decide
      have hreach : files.reach ["bot.log"] = .ok () :=
        (Files.sameDirectories_put _ _ _).reach (Files.resolve_eq_ok_iff.mp hempty).2.2
      rw [writeFile_of_lt hsize, writeEnd_of_reach hreach, Files.find?_put_self, Option.getD_some,
        ByteArray.empty_append]
    rw [write_of_handlers rfl moment files false (by decide), hline, hwrite]
    exact Files.find?_put_self _ _ _
  · rw [files_write_of_no_handlers rfl]
    exact Files.find?_put_self _ _ _

end ChatDice.Log.Journal
