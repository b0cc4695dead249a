import ChatDice.Proofs.JsonReading
import ChatDice.Proofs.SettingsContents

/-!
# Settings from a file that somebody wrote

Whoever writes a settings file may give members in any order, give a name more than once, and give
any names that are no settings, with any values. None of this matters: of a file that is one object,
only the last value of each setting counts, and the standard one for a setting that is not given
(`assign_collect`).

Main statement (`Store.loaded_settings_settle`): if these are three texts and an integer in range,
they are what is loaded, whatever was in memory. Once they have been saved, they load back, and
saving them again changes nothing.
-/

namespace ChatDice.Settings

open Json (Given SpellsObject collect)

variable {given : Given} {commandPrefix logFile logLevel : String} {n : ℤ}

/-- Of all that is given, what is said about the settings is what they become. -/
theorem assign_collect
    (hcommand : given.Says "command_prefix" (.string "!") (.string commandPrefix))
    (hlimit : given.Says "max_dice_count" (.whole 1000) (.whole n))
    (hfile : given.Says "log_file" (.string "bot.log") (.string logFile))
    (hlevel : given.Says "log_level" (.string "INFO") (.string logLevel)) :
    standard.assign (collect [] given) = ofTexts commandPrefix n logFile logLevel := by
  simp only [assign, standard, hcommand.getD_get?, hlimit.getD_get?, hfile.getD_get?,
    hlevel.getD_get?, ofTexts]

namespace Store

variable {files : Files} {bytes : ByteArray} {document : List Char} {room : ℕ}

/-- **Loading depends on the last value of each setting, and settles.** Let a file hold one object,
in which lists and objects do not nest too deep. Its members may stand in any order, names may come
again, and there may be any others. If what it says about the settings, each by its last value or
by none, is three texts and an integer in range, these are loaded, whatever was in memory. The file
that they are then saved in gives them back to everybody, and saving them again changes nothing. -/
theorem loaded_settings_settle (store : Store) (hread : files.read store.path = .ok bytes)
    (hdocument : document? bytes = some document) (hobject : SpellsObject room document given)
    (hroom : room < Json.maxDepth)
    (hcommand : given.Says "command_prefix" (.string "!") (.string commandPrefix))
    (hlimit : given.Says "max_dice_count" (.whole 1000) (.whole n)) (hlow : 1 ≤ n)
    (hhigh : n < 10 ^ 9) (hfile : given.Says "log_file" (.string "bot.log") (.string logFile))
    (hlevel : given.Says "log_level" (.string "INFO") (.string logLevel)) :
    let settings := ofTexts commandPrefix n logFile logLevel
    store.load files = (.ok ⟨store.path, settings⟩, files) ∧
      ∃ files', save ⟨store.path, settings⟩ files = (.ok (), files') ∧
        files'.read store.path = .ok settings.bytes ∧
        (∀ memory, load ⟨store.path, memory⟩ files' = (.ok ⟨store.path, settings⟩, files')) ∧
        save ⟨store.path, settings⟩ files' = (.ok (), files') := by
  intro settings
  have hkept : settings.IsKept := isKept_ofTexts hlow hhigh
  have hsavable : settings.isSavable = true := isSavable_ofTexts hlow hhigh
  have hassign : standard.assign (collect [] given) = settings :=
    assign_collect hcommand hlimit hfile hlevel
  have hbytes : ofBytes bytes = .ok settings := by
    have hgiven := Json.read_of_spellsObject hobject hroom
    rw [ofBytes_of_document? hdocument, ofDocument_of_object hgiven, hassign]
    exact check_of_inRange hkept.inRange
  obtain ⟨path, htarget, -⟩ := Files.exists_target_of_read hread
  have hsave : save ⟨store.path, settings⟩ files = (.ok (), files.put path settings.bytes) :=
    save_of_savable htarget hsavable
  have hagain : save ⟨store.path, settings⟩ (files.put path settings.bytes) =
      (.ok (), (files.put path settings.bytes).put path settings.bytes) :=
    save_of_savable (Files.target_put htarget path _) hsavable
  refine ⟨?_, files.put path settings.bytes, hsave, Files.read_put htarget _, ?_, ?_⟩
  · rw [load_of_read (Files.holds_of_read hread) hread, hbytes]
    rfl
  · exact fun memory => load_put_bytes ⟨store.path, memory⟩ htarget hkept
  · rw [hagain, Files.put_put]

/-- A document that gives the level twice, in the end by an escape, and a member that is no setting
and gives a name of its own twice. -/
def repetitiveDocument : String :=
  "\x7b\"log_level\": 9, \"x\": [\x7b\"x\": 0, \"x\": null\x7d],\r\n\"log_level\": \"\\u0057\"\x7d"

/-- Whatever is repeated in such a file, the last level is loaded. -/
theorem loaded_settings_settle_repetitive :
    let files := Files.empty.put ["config.json"] (Text.Utf8.encode repetitiveDocument)
    let settings := ofTexts "!" 1000 "bot.log" "W"
    load ⟨"config.json", ofTexts "?" 5 "" ""⟩ files = (.ok ⟨"config.json", settings⟩, files) ∧
      ∃ files', save ⟨"config.json", settings⟩ files = (.ok (), files') ∧
        load ⟨"config.json", ofTexts "?" 5 "" ""⟩ files' =
          (.ok ⟨"config.json", settings⟩, files') := by
  intro files settings
  have htarget : Files.empty.target "config.json" = .ok ["config.json"] :=
    Files.target_name (by decide) List.not_mem_nil
  -- Blanks, names and words.
  have hblank : Json.Spaces [' '] := by decide
  have hfeed : Json.Spaces ['\n'] := by decide
  have hnone := Json.spaces_nil
  have hlevel := Json.spellsText_of_plain (s := "log_level".toList) (by simp)
  have hx := Json.spellsText_of_plain (s := ['x']) (by simp)
  have hzero : Json.Spells 0 ['0'] (.value (.other (.whole 0))) :=
    .plain (.number .absent .zero .absent .absent rfl)
  have hnull : Json.Spells 0 "null".toList (.value (.other .null)) :=
    .plain (.word List.mem_cons_self)
  -- The values of the members.
  have hnine : Json.Spells 2 ['9'] (.value (.other (.whole 9))) :=
    .plain (.number .absent (.digits rfl (by decide) Numeral.digits_nil) .absent .absent rfl)
  have hinner := Json.Spells.nextMember hnone hx hnone hblank hzero hnone
    (.lastMember hblank hx hnone hblank hnull hnone)
  have hother := Json.Spells.list (.lastItem hnone (.object hinner) hnone)
  have hescape : Json.Spells 2 "\"\\u0057\"".toList (.value (.text [0x57])) :=
    .text (.codePoint rfl .empty)
  have hmembers := Json.Spells.nextMember hnone hlevel hnone hblank hnine hnone
    (.nextMember hblank hx hnone hblank hother hnone
      (.lastMember hfeed hlevel hnone hblank hescape hnone))
  have hobject := SpellsObject.members hnone hmembers hnone
  have hpaired : Json.Paired [0x57] "W".toList := .single 'W' .empty
  have hdocument := document?_encode repetitiveDocument
  obtain ⟨hload, files', hsave, -, hagain, -⟩ :=
    loaded_settings_settle ⟨"config.json", ofTexts "?" 5 "" ""⟩ (Files.read_put htarget _)
      (hdocument.trans (by decide +kernel)) hobject (by decide) (.absent rfl) (.absent rfl)
      (by decide) (by decide) (.absent rfl) (.last rfl (.text hpaired))
  exact ⟨hload, files', hsave, hagain _⟩

end Store

end ChatDice.Settings
