import ChatDice.Bot.Program
import ChatDice.Proofs.Reconfiguring
import ChatDice.Proofs.SettingsContents

/-!
# Which settings files end the program

With a token and a settings file that can be read, the bytes of this file and the files that are
there settle whether a bot can be made (`Outfit`): settings must come of the bytes, their log file
must be one that can be written, and the name of their level must be a text. A variable that is set
already is the token whatever an environment file says (`token_of_lookup`).

Where a bot cannot be made, the error is explained or not. What is explained is a wrong value
(`Explained`): bytes that are no text, a text that is not JSON, a limit out of range, a zero
character in the name of the log file, or half of a pair in it that shows no byte. What is not
explained is a value of a wrong kind, too deep nesting, and a log file that cannot be opened for
another reason (`Unexplained`). There is nothing else (`Outfit.explained_or_unexplained`).

All of this holds whatever the libraries do that load environment files and keep the connection, as
long as they keep their laws.

Main statement (`Program.run_settled_by_settings_file`): the program runs the bot, or ends with a
note of the cause and the status `1`, or ends in an error that is not explained; and which it is. So
it is not true that every bad settings file ends it with a note: a limit that is written as a text
does not (`Program.unexplained_limit_in_quotes`).
-/

namespace ChatDice

open Log (Level Record Journal JournalError)
open Log.Journal (Configuring)

namespace Bot

open Settings (Content document?_write)

/-! ### What is needed for a bot -/

/-- What comes of the bytes of a settings file: settings for a bot, or what stands in its way. -/
inductive Outfit (files : Files) (bytes : ByteArray) : Except BuildError Settings → Prop
  /-- There are no settings. -/
  | noSettings {why : SettingsError} (hcontent : Content bytes (.error why)) :
      Outfit files bytes (.error (.settings why))
  /-- The name of the log file is no text. -/
  | fileNotText {settings : Settings} (hcontent : Content bytes (.ok settings))
      (hname : ∀ name, settings.logFile ≠ .text name) :
      Outfit files bytes (.error (.journal .fileNotText))
  /-- The log file cannot be opened. -/
  | refused {settings : Settings} {name : Text.Raw} {why : FileError}
      (hcontent : Content bytes (.ok settings)) (hname : settings.logFile = .text name)
      (hresolve : files.resolve name = .error why) :
      Outfit files bytes (.error (.journal (.file why)))
  /-- The name of the level is no text. -/
  | levelNotText {settings : Settings} {name : Text.Raw} {path : Path}
      (hcontent : Content bytes (.ok settings)) (hname : settings.logFile = .text name)
      (hresolve : files.resolve name = .ok path) (hlevel : ∀ word, settings.logLevel ≠ .text word) :
      Outfit files bytes (.error (.journal .levelNotText))
  /-- Nothing is missing. -/
  | complete {settings : Settings} {name word : Text.Raw} {path : Path}
      (hcontent : Content bytes (.ok settings)) (hname : settings.logFile = .text name)
      (hresolve : files.resolve name = .ok path) (hlevel : settings.logLevel = .text word) :
      Outfit files bytes (.ok settings)

/-- An error that is explained, with its cause in words. -/
inductive Explained : BuildError → String → Prop
  | notText (why : String) : Explained (.settings (.notText why)) why
  | notJson (document : List Char) {why : Json.Error} (hwhy : why ≠ .tooDeep) :
      Explained (.settings (.notJson document why)) (why.message document)
  | limitOutOfRange : Explained (.settings .limitOutOfRange) Settings.limitMessage
  | zeroCharacter : Explained (.journal (.file .zeroCharacter)) "embedded null byte"
  | notEncodable (fault : Text.EncodeFault) :
      Explained (.journal (.file (.notEncodable fault))) fault.text

/-- An error that is not explained. -/
inductive Unexplained : BuildError → Prop
  | tooDeep : Unexplained (.settings .tooDeep)
  | notObject : Unexplained (.settings .notObject)
  | limitNotNumber : Unexplained (.settings .limitNotNumber)
  | fileNotText : Unexplained (.journal .fileNotText)
  | file {why : FileError} (hzero : why ≠ .zeroCharacter)
      (hfault : ∀ fault, why ≠ .notEncodable fault) : Unexplained (.journal (.file why))
  | levelNotText : Unexplained (.journal .levelNotText)

variable {files : Files} {journal : Journal} {bytes : ByteArray} {settings : Settings}
  {why : BuildError} {cause : String}

/-- Something comes of all bytes. -/
theorem exists_outfit (files : Files) (bytes : ByteArray) :
    ∃ outfit, Outfit files bytes outfit := by
  cases houtcome : Settings.ofBytes bytes with
  | error why => exact ⟨_, .noSettings (Settings.content_iff.mpr houtcome)⟩
  | ok settings =>
    have hcontent : Content bytes (.ok settings) := Settings.content_iff.mpr houtcome
    by_cases hname : ∃ name, settings.logFile = .text name
    · obtain ⟨name, hname⟩ := hname
      cases hresolve : files.resolve name with
      | error why => exact ⟨_, .refused hcontent hname hresolve⟩
      | ok path =>
        by_cases hlevel : ∃ word, settings.logLevel = .text word
        · obtain ⟨word, hlevel⟩ := hlevel
          exact ⟨_, .complete hcontent hname hresolve hlevel⟩
        · exact ⟨_, .levelNotText hcontent hname hresolve (not_exists.mp hlevel)⟩
    · exact ⟨_, .fileNotText hcontent (not_exists.mp hname)⟩

/-- The cause of an error that is explained is known. -/
theorem Explained.cause?_eq (h : Explained why cause) : why.cause? = some cause := by
  cases h <;> rfl

/-- No cause is known of an error that is not explained. -/
theorem Unexplained.cause?_eq (h : Unexplained why) : why.cause? = none := by
  cases h with
  | @file why hzero hfault =>
    cases why with
    | zeroCharacter => exact absurd rfl hzero
    | notEncodable fault => exact absurd rfl (hfault fault)
    | _ => rfl
  | _ => rfl

/-- An error about a log file is explained or not. -/
theorem explained_or_unexplained_file (why : FileError) :
    (∃ cause, Explained (.journal (.file why)) cause) ∨ Unexplained (.journal (.file why)) := by
  cases why with
  | zeroCharacter => exact .inl ⟨_, .zeroCharacter⟩
  | notEncodable fault => exact .inl ⟨_, .notEncodable fault⟩
  | _ => exact .inr (.file nofun nofun)

/-- What stands in the way of a bot is explained or not. -/
theorem Outfit.explained_or_unexplained (h : Outfit files bytes (.error why)) :
    (∃ cause, Explained why cause) ∨ Unexplained why := by
  cases h with
  | noSettings hcontent =>
    cases hcontent with
    | notText hdocument => exact .inl ⟨_, .notText _⟩
    | notJson hdocument hread hwhy => exact .inl ⟨_, .notJson _ hwhy⟩
    | tooDeep => exact .inr .tooDeep
    | notObject => exact .inr .notObject
    | limitNotNumber => exact .inr .limitNotNumber
    | limitOutOfRange => exact .inl ⟨_, .limitOutOfRange⟩
  | fileNotText => exact .inr .fileNotText
  | @refused settings name why => exact explained_or_unexplained_file why
  | levelNotText => exact .inr .levelNotText

/-! ### Making a bot -/

/-- What comes of the bytes of a file is what opening it gives. -/
theorem openAt_of_content {text : Text.Raw} {outcome : Except SettingsError Settings}
    (hread : files.read text = .ok bytes) (hcontent : Content bytes outcome) :
    Settings.Store.openAt text files = (outcome.map fun settings => ⟨text, settings⟩, files) := by
  rw [Settings.Store.openAt, Settings.Store.load_of_read (Files.holds_of_read hread) hread,
    hcontent.ofBytes_eq]

section build

variable {σ : Type} {loader : Environment.Loader} {known : Environment.Variables} {token : String}

/-- A token that is set is the token, if an environment file that is there can be loaded. -/
theorem token_of_lookup (hlookup : known.lookup tokenName = some token) (hne : token ≠ "")
    (hload : ∀ bytes, files.find? (environmentPath files) = some bytes →
      ∃ after, loader.load known bytes = .ok after) :
    Bot.token loader known files = .ok token := by
  have htoken {known : Environment.Variables} (h : known.lookup tokenName = some token) :
      tokenOf known = .ok token := by
    have hfilter : (known.lookup tokenName).filter (· ≠ "") = some token := by simp [h, hne]
    rw [tokenOf, hfilter]
  unfold Bot.token
  cases hfile : files.find? (environmentPath files) with
  | none => exact htoken hlookup
  | some bytes =>
    obtain ⟨after, hafter⟩ := hload bytes hfile
    dsimp only
    rw [hafter]
    exact htoken (loader.keeps hafter hlookup)

/-- Without settings there is no bot. -/
theorem build_of_settings_error (htoken : Bot.token loader known files = .ok token)
    (hread : files.read settingsFile = .ok bytes) {why : SettingsError}
    (hcontent : Content bytes (.error why)) (journal : Journal) (dice : σ) :
    build loader known ⟨files, journal⟩ dice = (.error (.settings why), ⟨files, journal⟩) := by
  simp only [build, htoken, openAt_of_content hread hcontent, Except.map]

/-- Without a journal there is no bot. -/
theorem build_of_journal_error (htoken : Bot.token loader known files = .ok token)
    (hread : files.read settingsFile = .ok bytes) (hcontent : Content bytes (.ok settings))
    {why : JournalError} {journal' : Journal} {files' : Files}
    (hconfiguring : Configuring journal files settings.logFile settings.logLevel
      (.error why, journal', files')) (dice : σ) :
    build loader known ⟨files, journal⟩ dice = (.error (.journal why), ⟨files', journal'⟩) := by
  simp only [build, htoken, openAt_of_content hread hcontent, Except.map, hconfiguring.configure_eq]

/-- With settings and a journal there is a bot. -/
theorem build_of_journal (htoken : Bot.token loader known files = .ok token)
    (hread : files.read settingsFile = .ok bytes) (hcontent : Content bytes (.ok settings))
    {journal' : Journal} {files' : Files}
    (hconfiguring : Configuring journal files settings.logFile settings.logLevel
      (.ok (), journal', files')) (dice : σ) :
    build loader known ⟨files, journal⟩ dice =
      (.ok ⟨token, ⟨settingsFile, settings⟩, .initial, dice⟩, ⟨files', journal'⟩) := by
  simp only [build, htoken, openAt_of_content hread hcontent, Except.map, hconfiguring.configure_eq]

/-- What stands in the way of a bot is what making one fails for, and the level stays as it was. -/
theorem Outfit.build_eq_error (h : Outfit files bytes (.error why))
    (htoken : Bot.token loader known files = .ok token)
    (hread : files.read settingsFile = .ok bytes) (journal : Journal) (dice : σ) :
    ∃ files' handlers, build loader known ⟨files, journal⟩ dice =
      (.error why, ⟨files', ⟨handlers, journal.level⟩⟩) := by
  cases h with
  | noSettings hcontent =>
    exact ⟨_, _, build_of_settings_error htoken hread hcontent journal dice⟩
  | fileNotText hcontent hname =>
    exact ⟨_, _, build_of_journal_error htoken hread hcontent (.fileNotText hname) dice⟩
  | @refused settings name why hcontent hname hresolve =>
    have hconfiguring : Configuring journal files settings.logFile settings.logLevel
        (.error (.file why), ⟨[], journal.level⟩, files) := by
      rw [hname]
      exact .refused hresolve
    exact ⟨_, _, build_of_journal_error htoken hread hcontent hconfiguring dice⟩
  | @levelNotText settings name path hcontent hname hresolve hlevel =>
    have hconfiguring : Configuring journal files settings.logFile settings.logLevel
        (.error .levelNotText, ⟨[.file path, .console], journal.level⟩,
          files.put path ((files.find? path).getD .empty)) := by
      rw [hname]
      exact .levelNotText hlevel hresolve
    exact ⟨_, _, build_of_journal_error htoken hread hcontent hconfiguring dice⟩

/-- Where nothing is missing, a bot is made, and the level of the settings is in force. -/
theorem Outfit.build_eq_ok (h : Outfit files bytes (.ok settings))
    (htoken : Bot.token loader known files = .ok token)
    (hread : files.read settingsFile = .ok bytes) (journal : Journal) (dice : σ) :
    ∃ word files' handlers, settings.logLevel = .text word ∧
      build loader known ⟨files, journal⟩ dice =
        (.ok ⟨token, ⟨settingsFile, settings⟩, .initial, dice⟩,
          ⟨files', ⟨handlers, Journal.levelNamed word⟩⟩) := by
  cases h with
  | @complete settings name word path hcontent hname hresolve hlevel =>
    have hconfiguring : Configuring journal files settings.logFile settings.logLevel
        (.ok (), ⟨[.file path, .console], Journal.levelNamed word⟩,
          files.put path ((files.find? path).getD .empty)) := by
      rw [hname, hlevel]
      exact .configured hresolve
    exact ⟨word, _, _, hlevel, build_of_journal htoken hread hcontent hconfiguring dice⟩

/-! A token in the environment, and no file but one of settings. -/

/-- There is a token then, whatever library loads environment files. -/
theorem token_put_settingsFile (loader : Environment.Loader) (bytes : ByteArray) :
    Bot.token loader [("DISCORD_TOKEN", "abc")] (Files.empty.put ["config.json"] bytes) =
      .ok "abc" :=
  token_of_lookup rfl (by decide) (by rintro _ ⟨⟩)

/-- The settings file can be read then. -/
theorem read_put_settingsFile (bytes : ByteArray) :
    (Files.empty.put ["config.json"] bytes).read settingsFile = .ok bytes :=
  Files.read_put (Files.target_name (by decide) List.not_mem_nil) bytes

end build

namespace Program

/-! ### Runs -/

variable {σ : Type} {loader : Environment.Loader} {known : Environment.Variables} {world : World}
  {token : String} {dice : σ}

/-- A new bot signs in once and is closed in the end. -/
theorem exists_runBot_eq (service : Service) (g : Generator σ) (token : String)
    (store : Settings.Store) (dice : σ) :
    ∃ connection, runBot service g ⟨token, store, .initial, dice⟩ =
        (1, ⟨token, store, connection, dice⟩) ∧ connection.closed = true := by
  refine ⟨service.close { Connection.initial with loaded := true }, ?_,
    service.closed_close _⟩
  simp only [runBot, take, State.load, service.load_initial, Option.map_some]
  rfl

/-- No level has the number zero, which would stand for another one. -/
theorem visible_levelNamed (handlers : List Log.Handler) (word : Text.Raw) (records : List Record) :
    Journal.visible ⟨handlers, Journal.levelNamed word⟩ records =
      Log.atLeast (Journal.levelNamed word) records := by
  have hne : Journal.levelNamed word ≠ 0 := by
    unfold Journal.levelNamed
    split
    · next name => cases (Level.ofName? name).getD .info <;> decide
    · decide
  exact congrArg (Log.atLeast · records) (if_neg hne)

/-- The note of a cause is not passed over if errors are not. -/
theorem visible_causeNote (handlers : List Log.Handler)
    (hlevel : journal.effectiveLevel ≤ Level.error.rank) (cause : String) :
    Journal.visible ⟨handlers, journal.level⟩ [causeNote cause] = [causeNote cause] := by
  have hvisible : Journal.effectiveLevel ⟨handlers, journal.level⟩ ≤ (causeNote cause).level.rank :=
    hlevel
  simp only [Journal.visible, Log.atLeast, List.filter_cons, hvisible, decide_true, if_true,
    List.filter_nil]

/-- Without a bot nothing is started. -/
theorem run_of_build_error {world' : World}
    (h : build loader known world dice = (.error why, world')) (service : Service)
    (g : Generator σ) (ending : Ending) :
    run loader service g known world ending dice =
      ⟨(refusal why).exit, 0, none,
        world.journal.visible [startNote] ++ world'.journal.visible (refusal why).notes⟩ := by
  simp only [run, launch, h]

/-- A bot is started once and closed. -/
theorem run_of_build {world' : World} {store : Settings.Store}
    (h : build loader known world dice = (.ok ⟨token, store, .initial, dice⟩, world'))
    (service : Service) (g : Generator σ) (ending : Ending) :
    run loader service g known world ending dice =
      ⟨exitAfter ending, 1, some true,
        world.journal.visible [startNote] ++ world'.journal.visible (notesAfter ending)⟩ := by
  obtain ⟨connection, hrun, hclosed⟩ := exists_runBot_eq service g token store dice
  simp only [run, launch, h, hrun, hclosed]

/-- **A bad settings file ends the program with a note of the cause only if it is one that is
explained.** Say that there is a token, that the settings file holds some bytes, and that the level
of the journal lets errors through. If a bot can be made, it is run and closed. If not, and the
error is explained, the program notes its cause, ends with the status `1` and starts nothing. If the
error is not explained, it ends the program as it is; nothing is noted, and nothing is started. One
of the three is the case. -/
theorem run_settled_by_settings_file (loader : Environment.Loader) (service : Service)
    (g : Generator σ) (htoken : Bot.token loader known files = .ok token)
    (hread : files.read settingsFile = .ok bytes)
    (hlevel : journal.effectiveLevel ≤ Level.error.rank) (ending : Ending) (dice : σ) :
    let run := Program.run loader service g known ⟨files, journal⟩ ending dice
    let opening := journal.visible [startNote]
    (∀ settings, Outfit files bytes (.ok settings) → ∃ word, settings.logLevel = .text word ∧
        run = ⟨exitAfter ending, 1, some true,
          opening ++ Log.atLeast (Journal.levelNamed word) (notesAfter ending)⟩) ∧
      (∀ why cause, Outfit files bytes (.error why) → Explained why cause →
        run = ⟨.status 1, 0, none, opening ++ [causeNote cause]⟩) ∧
      (∀ why, Outfit files bytes (.error why) → Unexplained why →
        run = ⟨.unexplained why, 0, none, opening⟩) ∧
      ((∃ settings, Outfit files bytes (.ok settings)) ∨
        (∃ why cause, Outfit files bytes (.error why) ∧ Explained why cause) ∨
        ∃ why, Outfit files bytes (.error why) ∧ Unexplained why) := by
  intro run opening
  refine ⟨?_, ?_, ?_, ?_⟩
  · intro settings houtfit
    obtain ⟨word, files', handlers, hword, hbuild⟩ := houtfit.build_eq_ok htoken hread journal dice
    refine ⟨word, hword, ?_⟩
    rw [show run = _ from run_of_build hbuild service g ending, visible_levelNamed]
  · intro why cause houtfit hexplained
    obtain ⟨files', handlers, hbuild⟩ := houtfit.build_eq_error htoken hread journal dice
    rw [show run = _ from run_of_build_error hbuild service g ending, refusal, hexplained.cause?_eq]
    dsimp only
    rw [visible_causeNote handlers hlevel]
  · intro why houtfit hunexplained
    obtain ⟨files', handlers, hbuild⟩ := houtfit.build_eq_error htoken hread journal dice
    rw [show run = _ from run_of_build_error hbuild service g ending, refusal,
      hunexplained.cause?_eq]
    exact congrArg _ (List.append_nil _)
  · obtain ⟨outfit, houtfit⟩ := exists_outfit files bytes
    cases outfit with
    | ok settings => exact .inl ⟨settings, houtfit⟩
    | error why =>
      rcases houtfit.explained_or_unexplained with ⟨cause, hexplained⟩ | hunexplained
      · exact .inr (.inl ⟨why, cause, houtfit, hexplained⟩)
      · exact .inr (.inr ⟨why, houtfit, hunexplained⟩)

/-- A limit of zero is out of range, and this is noted. -/
theorem explained_limit_of_zero :
    let bytes := Text.Utf8.encode (Json.write (.object [(.proper "max_dice_count", .whole 0)]))
    let files := Files.empty.put ["config.json"] bytes
    Bot.token .reader [("DISCORD_TOKEN", "abc")] files = .ok "abc" ∧
      files.read settingsFile = .ok bytes ∧
      Journal.initial.effectiveLevel ≤ Level.error.rank ∧
      run .reader .discord Generator.congruential [("DISCORD_TOKEN", "abc")] ⟨files, .initial⟩
          .finished 0 =
        ⟨.status 1, 0, none, [startNote, causeNote Settings.limitMessage]⟩ := by
  intro bytes files
  have hcontent : Content bytes (.error .limitOutOfRange) := by
    have hexact : (Json.Value.object [(.proper "max_dice_count", .whole 0)]).IsExact :=
      ⟨by decide, ⟨trivial, (by decide : Numeral.digitCount 0 ≤ Numeral.maxPrintedDigits)⟩, trivial⟩
    refine .limitOutOfRange (document?_write hexact) (Json.read_write hexact (by decide)) rfl ?_
    rintro ⟨v, ⟨⟩, hlow, -⟩
    norm_num at hlow
  have hlevel : Journal.initial.effectiveLevel ≤ Level.error.rank := by decide
  obtain ⟨-, hexplained, -⟩ := run_settled_by_settings_file .reader .discord
    Generator.congruential (token_put_settingsFile .reader bytes) (read_put_settingsFile bytes) hlevel
    .finished 0
  refine ⟨token_put_settingsFile .reader bytes, read_put_settingsFile bytes, hlevel, ?_⟩
  rw [hexplained _ _ (.noSettings hcontent) .limitOutOfRange]
  rfl

/-- A limit that is written as a text is no number. Nothing is noted, and the program does not end
with a status. -/
theorem unexplained_limit_in_quotes :
    let bytes := Text.Utf8.encode (Json.write (.object [(.proper "max_dice_count", .string "9")]))
    let files := Files.empty.put ["config.json"] bytes
    Bot.token .reader [("DISCORD_TOKEN", "abc")] files = .ok "abc" ∧
      files.read settingsFile = .ok bytes ∧
      run .reader .discord Generator.congruential [("DISCORD_TOKEN", "abc")] ⟨files, .initial⟩
          .finished 0 =
        ⟨.unexplained (.settings .limitNotNumber), 0, none, [startNote]⟩ := by
  intro bytes files
  have hcontent : Content bytes (.error .limitNotNumber) := by
    have hexact : (Json.Value.object [(.proper "max_dice_count", .string "9")]).IsExact :=
      ⟨by decide, ⟨trivial, trivial⟩, trivial⟩
    exact .limitNotNumber (document?_write hexact) (Json.read_write hexact (by decide)) rfl
  have hbuild := build_of_settings_error (token_put_settingsFile .reader bytes)
    (read_put_settingsFile bytes) hcontent Journal.initial 0
  refine ⟨token_put_settingsFile .reader bytes, read_put_settingsFile bytes, ?_⟩
  rw [run_of_build_error hbuild]
  rfl

end Program

end Bot

end ChatDice
