import ChatDice.Proofs.SavedSettings

/-!
# What a settings file can hold

A settings file can hold any bytes. What comes of them is settled by the first thing that is wrong
(`Content`, `content_iff`): they are no text, the text is not JSON, lists and objects nest too deep,
the value has no members, the limit among the members is no number, or it is out of range. Else they
are settings.

Only members that are named after settings matter (`assign_filter`), so that settings are the
standard ones with the members assigned (`ofMembers_filter`).
-/

namespace ChatDice

open Json (Value Members)

/-- Members that are passed over are not those that are kept. -/
theorem Json.Members.get?_filter (keep : Text.Raw → Bool) {name : Text.Raw} (h : keep name = true)
    (members : Members) :
    Members.get? name (members.filter fun member => keep member.1) = Members.get? name members := by
  unfold Members.get?
  rw [List.find?_filter]
  congr 2
  funext member
  by_cases hname : member.1 = name <;> simp [hname, h]

namespace Settings

variable {bytes : ByteArray} {settings : Settings}

/-! ### Members -/

/-- Members that are no settings are not assigned. -/
theorem assign_filter (settings : Settings) (given : Members) :
    settings.assign (given.filter fun member => names.contains member.1) = settings.assign given := by
  have hknown (name : Text.Raw) (h : names.contains name = true) :=
    Members.get?_filter names.contains h given
  simp only [assign, hknown "command_prefix" (by decide), hknown "max_dice_count" (by decide),
    hknown "log_file" (by decide), hknown "log_level" (by decide)]

/-- Of any members, those that are settings are assigned and checked. -/
theorem ofMembers_filter (given : Members) :
    ofMembers (given.filter fun member => names.contains member.1) =
      (standard.assign given).check := by
  have hall : (Members.names (given.filter fun member => names.contains member.1)).find?
      (fun name => !names.contains name) = none := by
    rw [List.find?_eq_none]
    intro name hname
    obtain ⟨member, hmember, rfl⟩ := List.mem_map.mp hname
    simpa using (List.mem_filter.mp hmember).2
  rw [ofMembers, hall]
  dsimp only
  rw [assign_filter]

/-! ### The limit -/

/-- Without a number for a limit the check says so. -/
theorem check_of_limit?_eq_none (h : settings.limit? = none) :
    settings.check = .error .limitNotNumber := by
  rw [check, h]

/-- With a number out of range for a limit the check says that. -/
theorem check_of_not_inRange {limit : Limit} (hlimit : settings.limit? = some limit)
    (hrange : ¬settings.InRange) : settings.check = .error .limitOutOfRange := by
  have hbetween : ¬limit.between 1 limitBound = true := by
    intro h
    have hcheck : settings.check = .ok settings := by
      rw [check, hlimit]
      exact if_pos h
    exact hrange (check_eq_ok_iff.mp hcheck).2
  rw [check, hlimit]
  exact if_neg hbetween

/-! ### Bytes -/

/-- The document that bytes hold, if they are a text. -/
def document? (bytes : ByteArray) : Option (List Char) :=
  (Text.Utf8.decode? bytes).map fun text => Text.unifyLineEnds text.toList

/-- What the bytes of a text hold is that text, with its line ends made one. -/
theorem document?_encode (text : String) :
    document? (Text.Utf8.encode text) = some (Text.unifyLineEnds text.toList) := by
  rw [document?, Text.Utf8.decode?_encode, Option.map_some]

/-- A saved value has no line ends to be made one. -/
theorem document?_write {value : Value} (h : value.IsExact) :
    document? (Text.Utf8.encode (Json.write value)) = some (Json.write value).toList := by
  rw [document?_encode, unifyLineEnds_write h]

/-- What bytes can be, with what comes of them. -/
inductive Content (bytes : ByteArray) : Except SettingsError Settings → Prop
  /-- They are no text. -/
  | notText (hdocument : document? bytes = none) :
      Content bytes (.error (.notText (Text.Utf8.faultText bytes)))
  /-- The text is not JSON. -/
  | notJson {document : List Char} {why : Json.Error} (hdocument : document? bytes = some document)
      (hread : Json.read document = .error why) (hwhy : why ≠ .tooDeep) :
      Content bytes (.error (.notJson document why))
  /-- The value nests too deep. -/
  | tooDeep {document : List Char} (hdocument : document? bytes = some document)
      (hread : Json.read document = .error .tooDeep) : Content bytes (.error .tooDeep)
  /-- The value has no members. -/
  | notObject {document : List Char} {value : Value} (hdocument : document? bytes = some document)
      (hread : Json.read document = .ok value) (hvalue : ∀ given, value ≠ .object given) :
      Content bytes (.error .notObject)
  /-- The limit is no number. -/
  | limitNotNumber {document : List Char} {given : Members}
      (hdocument : document? bytes = some document)
      (hread : Json.read document = .ok (.object given))
      (hlimit : (standard.assign given).limit? = none) : Content bytes (.error .limitNotNumber)
  /-- The limit is a number out of range. -/
  | limitOutOfRange {document : List Char} {given : Members} {limit : Limit}
      (hdocument : document? bytes = some document)
      (hread : Json.read document = .ok (.object given))
      (hlimit : (standard.assign given).limit? = some limit)
      (hrange : ¬(standard.assign given).InRange) : Content bytes (.error .limitOutOfRange)
  /-- They are settings. -/
  | settings {document : List Char} {given : Members} (hdocument : document? bytes = some document)
      (hread : Json.read document = .ok (.object given)) (hrange : (standard.assign given).InRange) :
      Content bytes (.ok (standard.assign given))

/-- Bytes that hold a document hold the settings of the document. -/
theorem ofBytes_of_document? {document : List Char} (h : document? bytes = some document) :
    ofBytes bytes = ofDocument document := by
  obtain ⟨text, htext, rfl⟩ := Option.map_eq_some_iff.mp h
  rw [ofBytes, htext]

/-- A document that is an object holds the settings assigned in it, checked. -/
theorem ofDocument_of_object {document : List Char} {given : Members}
    (h : Json.read document = .ok (.object given)) :
    ofDocument document = (standard.assign given).check := by
  rw [ofDocument, h]
  exact ofMembers_filter given

/-- What a file is said to hold is what is found in it. -/
theorem Content.ofBytes_eq {outcome : Except SettingsError Settings} (h : Content bytes outcome) :
    ofBytes bytes = outcome := by
  cases h with
  | notText hdocument =>
    rw [ofBytes, Option.map_eq_none_iff.mp hdocument]
  | @notJson document why hdocument hread hwhy =>
    rw [ofBytes_of_document? hdocument, ofDocument, hread]
    cases why with
    | tooDeep => exact absurd rfl hwhy
    | malformed | tooManyDigits => rfl
  | tooDeep hdocument hread =>
    rw [ofBytes_of_document? hdocument, ofDocument, hread]
  | @notObject document value hdocument hread hvalue =>
    rw [ofBytes_of_document? hdocument, ofDocument, hread]
    cases value with
    | object given => exact absurd rfl (hvalue given)
    | _ => rfl
  | limitNotNumber hdocument hread hlimit =>
    rw [ofBytes_of_document? hdocument, ofDocument_of_object hread,
      check_of_limit?_eq_none hlimit]
  | limitOutOfRange hdocument hread hlimit hrange =>
    rw [ofBytes_of_document? hdocument, ofDocument_of_object hread,
      check_of_not_inRange hlimit hrange]
  | settings hdocument hread hrange =>
    rw [ofBytes_of_document? hdocument, ofDocument_of_object hread, check_of_inRange hrange]

/-- Of every file there is something to say. -/
theorem exists_content (bytes : ByteArray) : ∃ outcome, Content bytes outcome := by
  cases hdocument : document? bytes with
  | none => exact ⟨_, .notText hdocument⟩
  | some document =>
    cases hread : Json.read document with
    | error why =>
      by_cases hwhy : why = .tooDeep
      · subst hwhy
        exact ⟨_, .tooDeep hdocument hread⟩
      · exact ⟨_, .notJson hdocument hread hwhy⟩
    | ok value =>
      by_cases hvalue : ∃ given, value = .object given
      · obtain ⟨given, rfl⟩ := hvalue
        by_cases hrange : (standard.assign given).InRange
        · exact ⟨_, .settings hdocument hread hrange⟩
        cases hlimit : (standard.assign given).limit? with
        | none => exact ⟨_, .limitNotNumber hdocument hread hlimit⟩
        | some limit => exact ⟨_, .limitOutOfRange hdocument hread hlimit hrange⟩
      · exact ⟨_, .notObject hdocument hread (not_exists.mp hvalue)⟩

/-- The first thing that is wrong with bytes is what is said about them. -/
theorem content_iff {outcome : Except SettingsError Settings} :
    Content bytes outcome ↔ ofBytes bytes = outcome := by
  refine ⟨Content.ofBytes_eq, ?_⟩
  rintro rfl
  obtain ⟨outcome, hcontent⟩ := exists_content bytes
  rwa [hcontent.ofBytes_eq]

end Settings

end ChatDice
