import ChatDice.Proofs.JsonRoundTrip
import ChatDice.Proofs.LimitValue
import ChatDice.Proofs.Saving

/-!
# Settings that have been saved

Settings are made exactly if their limit is a number in range (`check_eq_ok_iff`). If in addition
their values are kept exactly and nest no deeper than can be read, the bytes that they are saved as
give them back (`IsKept.ofBytes_bytes`): JSON reads what it wrote, there is no line end to change
and nothing to be decoded wrongly, every member is the setting of its name, and the limit passes
again. Settings that can be saved never nest too deep to be read (`depth_le_of_isSavable`).

Three texts, whatever characters they have, and an integer in range are such settings
(`isKept_ofTexts`).

Main statement (`Store.replaced_settings_load_back`): once they have replaced the settings of a
store, they are what is loaded, by this store and by any other on the same path, and saving them
again changes nothing.
-/

namespace ChatDice.Settings

open Json (Value MembersExact)
open Numeral (digitCount digitCount_le_iff maxPrintedDigits)

variable {settings settings' : Settings}

/-! ### The limit -/

/-- The limit is a number from one up to a billion, the billion excluded. -/
def InRange (settings : Settings) : Prop :=
  ∃ v, settings.limit?.bind Limit.value? = some v ∧ 1 ≤ v ∧ v < 10 ^ 9

/-- Settings pass the check unchanged, exactly if their limit is in range. -/
theorem check_eq_ok_iff :
    settings.check = .ok settings' ↔ settings' = settings ∧ settings.InRange := by
  unfold check InRange
  cases hlimit : settings.limit? with
  | none => simp
  | some limit =>
    have hbetween : limit.between 1 limitBound = true ↔
        ∃ v, limit.value? = some v ∧ 1 ≤ v ∧ v < 10 ^ 9 := by
      rw [Limit.between_iff]
      norm_num [limitBound]
    dsimp only [Option.bind_some]
    rw [← hbetween]
    by_cases h : limit.between 1 limitBound = true
    · rw [if_pos h, Except.ok.injEq, eq_comm]
      exact (and_iff_left h).symm
    · rw [if_neg h]
      constructor
      · rintro ⟨⟩
      · exact fun hrange => absurd hrange.2 h

/-- Settings with a limit in range pass the check. -/
theorem check_of_inRange (h : settings.InRange) : settings.check = .ok settings :=
  check_eq_ok_iff.mpr ⟨rfl, h⟩

/-- Settings made from all their members are those settings, checked. -/
theorem ofMembers_members (settings : Settings) : ofMembers settings.members = settings.check :=
  rfl

/-! ### What a file gives back -/

/-- Settings that the file gives back that they are saved in. -/
structure IsKept (settings : Settings) : Prop where
  exact : MembersExact settings.members
  depth : (Value.object settings.members).depth ≤ Json.maxDepth
  inRange : settings.InRange

/-- No two settings have the same name. -/
theorem nodup_names_members (settings : Settings) : settings.members.names.Nodup :=
  (by decide : names.Nodup)

/-- There is no line end in a written value that is not a line feed. -/
theorem unifyLineEnds_write {value : Value} (h : value.IsExact) :
    Text.unifyLineEnds (Json.write value).toList = (Json.write value).toList := by
  apply Text.unifyLineEnds_of_not_mem
  intro hmem
  rcases Json.plain_write h _ hmem with hfeed | hplain
  · exact absurd hfeed (by decide)
  · exact absurd hplain (by decide)

/-- Settings that are kept are what their bytes give. -/
theorem IsKept.ofBytes_bytes (h : settings.IsKept) : ofBytes settings.bytes = .ok settings := by
  have hexact : (Value.object settings.members).IsExact :=
    ⟨nodup_names_members settings, h.exact⟩
  have hread := Json.read_write hexact h.depth
  rw [ofBytes, bytes, Text.Utf8.decode?_encode]
  dsimp only
  rw [unifyLineEnds_write hexact, ofDocument, hread]
  -- All members are settings, so that none is passed over.
  exact (ofMembers_members settings).trans (check_of_inRange h.inRange)

/-- What can be saved can be read, as far as its depth goes. -/
theorem depth_le_of_isSavable (h : settings.isSavable = true) :
    (Value.object settings.members).depth ≤ Json.maxDepth := by
  have hall : ∀ member ∈ settings.members, member.2.depth ≤ maxSavedDepth := by
    simpa [isTooDeep] using (isSavable_iff.mp h).1
  simp only [members, List.forall_mem_cons, maxSavedDepth] at hall
  simp only [members, Value.depth, Value.depthOfMembers, Json.maxDepth]
  omega

/-! ### Three texts and an integer -/

/-- Settings that are three texts and an integer. -/
def ofTexts (commandPrefix : String) (maxDiceCount : ℤ) (logFile logLevel : String) : Settings where
  commandPrefix := .string commandPrefix
  maxDiceCount := .whole maxDiceCount
  logFile := .string logFile
  logLevel := .string logLevel

variable {commandPrefix logFile logLevel : String} {n : ℤ}

/-- An integer below a billion has no more digits than are printed. -/
theorem exact_ofTexts (hlow : 1 ≤ n) (hhigh : n < 10 ^ 9) :
    MembersExact (ofTexts commandPrefix n logFile logLevel).members := by
  have hnine : digitCount n ≤ 9 := (digitCount_le_iff (by decide)).mpr (by omega)
  have hdigits : digitCount n ≤ maxPrintedDigits := hnine.trans (by decide)
  exact ⟨⟨trivial, trivial⟩, ⟨trivial, hdigits⟩, ⟨trivial, trivial⟩, ⟨trivial, trivial⟩, trivial⟩

/-- Such settings can be saved. -/
theorem isSavable_ofTexts (hlow : 1 ≤ n) (hhigh : n < 10 ^ 9) :
    (ofTexts commandPrefix n logFile logLevel).isSavable = true := by
  refine isSavable_iff.mpr ⟨?_, Json.stop?_of_isExact
    ⟨nodup_names_members _, exact_ofTexts hlow hhigh⟩⟩
  simp [isTooDeep, ofTexts, members, Value.depth]

/-- Their limit is in range. -/
theorem inRange_ofTexts (hlow : 1 ≤ n) (hhigh : n < 10 ^ 9) :
    (ofTexts commandPrefix n logFile logLevel).InRange :=
  ⟨n, rfl, mod_cast hlow, mod_cast hhigh⟩

/-- Their file gives them back. -/
theorem isKept_ofTexts (hlow : 1 ≤ n) (hhigh : n < 10 ^ 9) :
    (ofTexts commandPrefix n logFile logLevel).IsKept where
  exact := exact_ofTexts hlow hhigh
  depth := depth_le_of_isSavable (isSavable_ofTexts hlow hhigh)
  inRange := inRange_ofTexts hlow hhigh

/-- The standard settings can be saved. -/
theorem isSavable_standard : standard.isSavable = true :=
  isSavable_ofTexts (n := 1000) (by decide) (by decide)

namespace Store

variable {store : Store} {files : Files} {path : Path}

/-- Opening a path where nothing is makes a file of the standard settings. -/
theorem openAt_of_not_holds {text : Text.Raw} (hholds : files.holds text = false)
    (htarget : files.target text = .ok path) :
    openAt text files = (.ok ⟨text, standard⟩, files.put path standard.bytes) := by
  have hsave : save ⟨text, standard⟩ files = (.ok (), files.put path standard.bytes) :=
    save_of_savable htarget isSavable_standard
  rw [openAt, load_of_not_holds hholds, hsave]
  rfl

/-- Settings that are kept are loaded from the file that holds their bytes. -/
theorem load_put_bytes (store : Store) (htarget : files.target store.path = .ok path)
    (h : settings.IsKept) :
    store.load (files.put path settings.bytes) =
      (.ok { store with settings }, files.put path settings.bytes) := by
  rw [load_of_read (Files.holds_put htarget _) (Files.read_put htarget _), h.ofBytes_bytes]
  rfl

/-- **What has been saved loads back.** Let the settings of a store be replaced by three texts and
an integer in range, at a path that can be written. Such settings can be made. The replacement
succeeds, the file then holds their bytes, and whether this store loads, another store on the same
path does or the path is opened anew: the settings are there again and the files stay as they are.
Saving after that writes the same file. -/
theorem replaced_settings_load_back (store : Store) (commandPrefix : String) (n : ℤ)
    (logFile logLevel : String) (hlow : 1 ≤ n) (hhigh : n < 10 ^ 9)
    (htarget : files.target store.path = .ok path) :
    let settings := ofTexts commandPrefix n logFile logLevel
    ofMembers settings.members = .ok settings ∧
      ∃ files', store.replace settings files = (.ok (), ⟨store.path, settings⟩, files') ∧
        files'.read store.path = .ok settings.bytes ∧
        (∀ memory, load ⟨store.path, memory⟩ files' = (.ok ⟨store.path, settings⟩, files')) ∧
        openAt store.path files' = (.ok ⟨store.path, settings⟩, files') ∧
        save ⟨store.path, settings⟩ files' = (.ok (), files') := by
  intro settings
  have hkept : settings.IsKept := isKept_ofTexts hlow hhigh
  have hsavable : settings.isSavable = true := isSavable_ofTexts hlow hhigh
  have hsave : save ⟨store.path, settings⟩ files = (.ok (), files.put path settings.bytes) :=
    save_of_savable htarget hsavable
  have hagain : save ⟨store.path, settings⟩ (files.put path settings.bytes) =
      (.ok (), (files.put path settings.bytes).put path settings.bytes) :=
    save_of_savable (Files.target_put htarget path _) hsavable
  have hmade : ofMembers settings.members = .ok settings :=
    (ofMembers_members settings).trans (check_of_inRange hkept.inRange)
  refine ⟨hmade, files.put path settings.bytes, ?_, Files.read_put htarget _, ?_, ?_, ?_⟩
  · rw [replace_eq, hsave]
  · exact fun memory => load_put_bytes ⟨store.path, memory⟩ htarget hkept
  · exact load_put_bytes ⟨store.path, standard⟩ htarget hkept
  · rw [hagain, Files.put_put]

/-- Quotes, backslashes, control characters, line separators and characters beyond the first plane
load back. -/
theorem awkward_settings_load_back :
    let settings := ofTexts "\"\\\x00\r\n" 999999999 "log\u2028\u007f.txt" "🎲"
    ∃ files', replace ⟨"config.json", standard⟩ settings .empty =
        (.ok (), ⟨"config.json", settings⟩, files') ∧
      openAt "config.json" files' = (.ok ⟨"config.json", settings⟩, files') := by
  have htarget : Files.empty.target "config.json" = .ok ["config.json"] :=
    Files.target_name (by decide) List.not_mem_nil
  obtain ⟨-, files', hreplace, -, -, hopen, -⟩ :=
    replaced_settings_load_back ⟨"config.json", standard⟩ "\"\\\x00\r\n" 999999999
      "log\u2028\u007f.txt" "🎲" (by decide) (by decide) htarget
  exact ⟨files', hreplace, hopen⟩

end Store

end ChatDice.Settings
