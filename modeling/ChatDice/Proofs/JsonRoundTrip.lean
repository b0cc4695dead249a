import ChatDice.Proofs.JsonAtoms
import ChatDice.Proofs.JsonReading

/-!
# Reading JSON that was written

Writing and reading again gives the value that was written. Lists and objects are kept if they do
not nest too deep and no object gives a name twice; what stands in them is kept if it is a word, a
text of characters alone, or an integer of no more digits than can be read. Numbers with a fraction
or an exponent are left out here.

Main statements: nothing stops the writing of such a value (`stop?_of_isExact`), and the value is
what its text is read as (`read_write`). What is written is said once (`Text.Renders`): it spells
the value, and what is spelled is read.

A written value has no control characters but line feeds (`plain_write`), so that a file can hold it
whatever is done to line ends.
-/

namespace ChatDice.Json

open Numeral

/-! ### Values that are kept -/

mutual

/-- A value that is kept exactly: its texts are of characters alone, its integers have no more
digits than can be read, its objects give no name twice, and it has no number with a fraction or an
exponent in it. -/
def Value.IsExact : Value → Prop
  | .whole n => digitCount n ≤ maxPrintedDigits
  | .real _ => False
  | .text text => text.IsProper
  | .array items => ItemsExact items
  | .object members => (Members.names members).Nodup ∧ MembersExact members
  | _ => True

/-- Values that are all kept exactly. -/
def ItemsExact : List Value → Prop
  | [] => True
  | item :: items => item.IsExact ∧ ItemsExact items

/-- Named values that are all kept exactly, with names of characters alone. -/
def MembersExact : List (Text.Raw × Value) → Prop
  | [] => True
  | (name, value) :: members => (name.IsProper ∧ value.IsExact) ∧ MembersExact members

end

/-! ### Lists and objects -/

namespace Members

/-- A name that is not there yet comes to stand at the end. -/
theorem put_of_not_mem {name : Text.Raw} {members : Members} (h : name ∉ members.names)
    (value : Value) : members.put name value = members ++ [(name, value)] := by
  induction members with
  | nil => rfl
  | cons member members ih =>
    obtain ⟨other, old⟩ := member
    simp only [names, List.map_cons, List.mem_cons, not_or] at h
    rw [put, if_neg (Ne.symm h.1), ih h.2]
    rfl

/-- A name that does not come again was not there. -/
theorem put_of_nodup {known members : Members} {name : Text.Raw} {value : Value}
    (h : (names (known ++ (name, value) :: members)).Nodup) :
    known.put name value = known ++ [(name, value)] := by
  apply put_of_not_mem
  simp only [names, List.map_append, List.map_cons, List.nodup_append] at h
  intro hmem
  exact h.2.2 name hmem name List.mem_cons_self rfl

end Members

/-- Members of which no name comes again are left as they are given. -/
theorem collect_of_nodup {known : Members} {given : Given}
    (h : (Members.names (known ++ given.map fun member => (member.1, member.2.value))).Nodup) :
    collect known given = known ++ given.map fun member => (member.1, member.2.value) := by
  induction given generalizing known with
  | nil => exact (List.append_nil known).symm
  | cons member given ih =>
    have hput := Members.put_of_nodup h
    show collect (known.put member.1 member.2.value) given = _
    rw [List.map_cons, List.append_cons, ← hput] at h
    rw [ih h, hput, List.map_cons, List.append_assoc, List.singleton_append]

/-! ### What is written -/

/-- A text that stands for a value, without control characters but line feeds. -/
structure Renders (room : Nat) (s : List Char) (value : Value) : Prop where
  spells : ∃ source, Spells room s (.value source) ∧ source.value = value
  plain : Plain s

/-- Items between brackets, from the first one on. -/
structure RendersItems (room : Nat) (s : List Char) (items : List Value) : Prop where
  spells : ∀ {w₁ w₂ : List Char}, Spaces w₁ → Spaces w₂ →
    Spells room (w₁ ++ (s ++ w₂)) (.items items)
  plain : Plain s

/-- Members between brackets, from the first one on. -/
structure RendersMembers (room : Nat) (s : List Char) (members : Members) : Prop where
  spells : ∀ {w₁ w₂ : List Char}, Spaces w₁ → Spaces w₂ → ∃ given : Given,
    Spells room (w₁ ++ (s ++ w₂)) (.members given) ∧
      (given.map fun member => (member.1, member.2.value)) = members
  plain : Plain s

variable {room : Nat} {s t : List Char} {value : Value} {items : List Value} {members : Members}
  {name : String}

/-- Brackets around lines have no control characters but line feeds if the lines have none. -/
theorem plain_bracketed {first last : Char} {inner outer : Nat} (hfirst : 0x20 ≤ first.toNat)
    (h : Plain s) (hlast : 0x20 ≤ last.toNat) :
    Plain (first :: (newLine inner ++ (s ++ (newLine outer ++ [last])))) :=
  plain_cons.mpr ⟨.inr hfirst, plain_append.mpr ⟨plain_newLine inner, plain_append.mpr
    ⟨h, plain_append.mpr ⟨plain_newLine outer, plain_cons.mpr ⟨.inr hlast, plain_nil⟩⟩⟩⟩⟩

/-- A word stands for its value. -/
theorem renders_word (h : (s, value) ∈ wordValues) : Renders room s value where
  spells := ⟨.other value, .plain (.word h), rfl⟩
  plain := by
    simp only [wordValues, List.mem_cons, List.not_mem_nil, or_false, Prod.mk.injEq] at h
    rcases h with ⟨rfl, -⟩ | ⟨rfl, -⟩ | ⟨rfl, -⟩ | ⟨rfl, -⟩ | ⟨rfl, -⟩ | ⟨rfl, -⟩ <;> decide

/-- A printed integer stands for itself. -/
theorem renders_whole {n : Int} (h : digitCount n ≤ maxPrintedDigits) :
    Renders room (toString n).toList (.whole n) :=
  ⟨⟨.other (.whole n), .plain (spellsPlain_toString h), rfl⟩, plain_toString n⟩

/-- A text between quotes stands for itself. -/
theorem renders_string (text : String) : Renders room (textChars text) (.string text) :=
  ⟨⟨_, spells_textChars room text, congrArg Value.text (textOf_map_toNat text)⟩,
    plain_textChars text⟩

/-- Items on lines of their own between brackets are a list. -/
theorem RendersItems.array (h : RendersItems room s items) (inner outer : Nat) :
    Renders (room + 1) ('[' :: (newLine inner ++ (s ++ (newLine outer ++ [']'])))) (.array items)
    where
  spells := by
    have hlist := Spells.list (h.spells (spaces_newLine inner) (spaces_newLine outer))
    exact ⟨.other (.array items), by simpa only [List.append_assoc] using hlist, rfl⟩
  plain := plain_bracketed (by decide) h.plain (by decide)

/-- Members on lines of their own between brackets are an object. -/
theorem RendersMembers.object (h : RendersMembers room s members)
    (hnodup : members.names.Nodup) (inner outer : Nat) :
    Renders (room + 1) ('{' :: (newLine inner ++ (s ++ (newLine outer ++ ['}'])))) (.object members)
    where
  spells := by
    obtain ⟨given, hgiven, hvalues⟩ := h.spells (spaces_newLine inner) (spaces_newLine outer)
    have hcollect : collect [] given = members := by
      rw [← hvalues] at hnodup ⊢
      exact collect_of_nodup hnodup
    refine ⟨.other (.object (collect [] given)), ?_, congrArg Value.object hcollect⟩
    simpa only [List.append_assoc] using Spells.object hgiven
  plain := plain_bracketed (by decide) h.plain (by decide)

/-- The last item stands alone. -/
theorem Renders.lastItem (h : Renders room s value) : RendersItems room s [value] where
  spells := by
    rintro w₁ w₂ hw₁ hw₂
    obtain ⟨source, hspells, rfl⟩ := h.spells
    exact .lastItem hw₁ hspells hw₂
  plain := h.plain

/-- Before other items stands a comma after an item. -/
theorem Renders.nextItem (h : Renders room s value) (ht : RendersItems room t items)
    (depth : Nat) : RendersItems room (s ++ ',' :: (newLine depth ++ t)) (value :: items) where
  spells := by
    rintro w₁ w₂ hw₁ hw₂
    obtain ⟨source, hspells, rfl⟩ := h.spells
    have hnext := Spells.nextItem hw₁ hspells spaces_nil (ht.spells (spaces_newLine depth) hw₂)
    simpa only [List.cons_append, List.append_assoc, List.nil_append] using hnext
  plain := plain_append.mpr ⟨h.plain, plain_cons.mpr ⟨.inr (by decide),
    plain_append.mpr ⟨plain_newLine depth, ht.plain⟩⟩⟩

/-- A name, a colon, a blank and a value have no control characters but line feeds. -/
theorem Renders.plain_member (h : Renders room s value) (name : String) :
    Plain (textChars name ++ ':' :: ' ' :: s) :=
  plain_append.mpr ⟨plain_textChars name, plain_cons.mpr ⟨.inr (by decide),
    plain_cons.mpr ⟨.inr (by decide), h.plain⟩⟩⟩

/-- The last member stands alone. -/
theorem Renders.lastMember (h : Renders room s value) (name : String) :
    RendersMembers room (textChars name ++ ':' :: ' ' :: s) [(name, value)] where
  spells := by
    rintro w₁ w₂ hw₁ hw₂
    obtain ⟨source, hspells, rfl⟩ := h.spells
    have hname := spellsText_flatMap_writeChar name.toList
    have hblank : Spaces [' '] := by decide
    have hlast := Spells.lastMember hw₁ hname spaces_nil hblank hspells hw₂
    rw [textOf_map_toNat] at hlast
    exact ⟨_, by simpa [textChars] using hlast, rfl⟩
  plain := h.plain_member name

/-- Before other members stands a comma after a member. -/
theorem Renders.nextMember (h : Renders room s value) (ht : RendersMembers room t members)
    (name : String) (depth : Nat) :
    RendersMembers room (textChars name ++ ':' :: ' ' :: s ++ ',' :: (newLine depth ++ t))
      ((.proper name, value) :: members) where
  spells := by
    rintro w₁ w₂ hw₁ hw₂
    obtain ⟨source, hspells, rfl⟩ := h.spells
    obtain ⟨given, hgiven, rfl⟩ := ht.spells (spaces_newLine depth) hw₂
    have hname := spellsText_flatMap_writeChar name.toList
    have hblank : Spaces [' '] := by decide
    have hnext := Spells.nextMember hw₁ hname spaces_nil hblank hspells spaces_nil hgiven
    rw [textOf_map_toNat] at hnext
    exact ⟨_, by simpa [textChars] using hnext, rfl⟩
  plain := plain_append.mpr ⟨h.plain_member name, plain_cons.mpr ⟨.inr (by decide),
    plain_append.mpr ⟨plain_newLine depth, ht.plain⟩⟩⟩

/-- A name of characters alone is one piece. -/
theorem piece_writeText (name : String) :
    Written.piece (writeText (.proper name)) = .all (textChars name) := by
  rw [writeText_proper, Written.piece_map_char]

mutual

/-- Nothing stops the writing of a value that is kept exactly, and what is written stands for the
value, if there is room for the depth of the value. -/
theorem exists_renders_writeAt (value : Value) {room : Nat} (hexact : value.IsExact)
    (hdepth : value.depth ≤ room) (depth : Nat) :
    ∃ s, Renders room s value ∧ ∀ before, writeAt depth before value = .all (before ++ s) := by
  match value with
  | .null => exact ⟨"null".toList, renders_word (by simp [wordValues]), fun _ => rfl⟩
  | .bool true => exact ⟨"true".toList, renders_word (by simp [wordValues]), fun _ => rfl⟩
  | .bool false => exact ⟨"false".toList, renders_word (by simp [wordValues]), fun _ => rfl⟩
  | .whole n =>
    refine ⟨_, renders_whole hexact, fun before => ?_⟩
    rw [writeAt, if_pos (isPrintable_iff_digitCount_le.mpr hexact)]
  | .real _ => exact hexact.elim
  | .text (.proper text) =>
    refine ⟨_, renders_string text, fun before => ?_⟩
    rw [writeAt, writeText_proper, ← List.map_append, Written.piece_map_char]
  | .text (.broken _ _ _) => exact hexact.elim
  | .array items =>
    rw [Value.depth] at hdepth
    obtain ⟨room, rfl⟩ : ∃ n, room = n + 1 := ⟨room - 1, by omega⟩
    match items with
    | [] =>
      exact ⟨['[', ']'], ⟨⟨.other (.array []), .emptyList spaces_nil, rfl⟩, by decide⟩,
        fun _ => rfl⟩
    | item :: items =>
      obtain ⟨s, hs, hwrite⟩ := exists_renders_items (item :: items) (List.cons_ne_nil _ _) hexact
        (Nat.le_of_succ_le_succ hdepth) (depth + 1)
      refine ⟨_, hs.array (depth + 1) depth, fun before => ?_⟩
      rw [writeAt, List.isEmpty_cons, if_neg Bool.false_ne_true, hwrite]
      simp only [Written.all_append_all, List.append_assoc, List.cons_append]
  | .object members =>
    rw [Value.depth] at hdepth
    obtain ⟨room, rfl⟩ : ∃ n, room = n + 1 := ⟨room - 1, by omega⟩
    match members with
    | [] =>
      exact ⟨['{', '}'], ⟨⟨.other (.object []), .emptyObject spaces_nil, rfl⟩, by decide⟩,
        fun _ => rfl⟩
    | member :: members =>
      obtain ⟨s, hs, hwrite⟩ := exists_renders_members (member :: members)
        (List.cons_ne_nil _ _) hexact.2 (Nat.le_of_succ_le_succ hdepth) (depth + 1)
      refine ⟨_, hs.object hexact.1 (depth + 1) depth, fun before => ?_⟩
      rw [writeAt, List.isEmpty_cons, if_neg Bool.false_ne_true, hwrite]
      simp only [Written.all_append_all, List.append_assoc, List.cons_append]

/-- Items are written one after another, each but the first with a comma before it. -/
theorem exists_renders_items (items : List Value) {room : Nat} (hne : items ≠ [])
    (hexact : ItemsExact items) (hdepth : Value.depthOfItems items ≤ room) (depth : Nat) :
    ∃ s, RendersItems room s items ∧
      ∀ before, writeItems depth before items = .all (before ++ s) := by
  match items with
  | [] => exact absurd rfl hne
  | item :: items =>
    obtain ⟨hitem, hitems⟩ := Nat.max_le.mp hdepth
    obtain ⟨s, hs, hwrite⟩ := exists_renders_writeAt item hexact.1 hitem depth
    match items with
    | [] =>
      refine ⟨s, hs.lastItem, fun before => ?_⟩
      rw [writeItems, hwrite, writeItems, Written.all_append_all, List.append_nil]
    | next :: items =>
      obtain ⟨t, ht, hrest⟩ := exists_renders_items (next :: items) (List.cons_ne_nil _ _) hexact.2
        hitems depth
      refine ⟨_, hs.nextItem ht depth, fun before => ?_⟩
      rw [writeItems, hwrite, hrest, Written.all_append_all]
      simp only [List.append_assoc, List.cons_append]

/-- Members are written one after another, each but the first with a comma before it. -/
theorem exists_renders_members (members : List (Text.Raw × Value)) {room : Nat}
    (hne : members ≠ []) (hexact : MembersExact members)
    (hdepth : Value.depthOfMembers members ≤ room) (depth : Nat) :
    ∃ s, RendersMembers room s members ∧
      ∀ before, writeMembers depth before members = .all (before ++ s) := by
  match members with
  | [] => exact absurd rfl hne
  | (.broken _ _ _, _) :: _ => exact hexact.1.1.elim
  | (.proper name, value) :: members =>
    obtain ⟨hvalue, hmembers⟩ := Nat.max_le.mp hdepth
    obtain ⟨s, hs, hwrite⟩ := exists_renders_writeAt value hexact.1.2 hvalue depth
    match members with
    | [] =>
      refine ⟨_, hs.lastMember name, fun before => ?_⟩
      rw [writeMembers, piece_writeText, hwrite, writeMembers]
      simp only [Written.all_append_all, List.append_assoc, List.cons_append, List.nil_append,
        List.append_nil]
    | next :: members =>
      obtain ⟨t, ht, hrest⟩ := exists_renders_members (next :: members) (List.cons_ne_nil _ _)
        hexact.2 hmembers depth
      refine ⟨_, hs.nextMember ht name depth, fun before => ?_⟩
      rw [writeMembers, piece_writeText, hwrite, hrest]
      simp only [Written.all_append_all, List.append_assoc, List.cons_append, List.nil_append]

end

/-- Nothing stops the writing of a value that is kept exactly. -/
theorem stop?_of_isExact {value : Value} (h : value.IsExact) : stop? value = none := by
  obtain ⟨s, -, hwrite⟩ := exists_renders_writeAt value h (Nat.le_refl _) 0
  rw [stop?, hwrite]
  rfl

/-- What is written of a value that is kept exactly stands for the value. -/
theorem renders_write {value : Value} (hexact : value.IsExact) (hdepth : value.depth ≤ room) :
    Renders room (write value).toList value := by
  obtain ⟨s, hs, hwrite⟩ := exists_renders_writeAt value hexact hdepth 0
  rw [write, hwrite, String.toList_ofList]
  exact hs

/-- **Reading undoes writing.** A value that is kept exactly, and does not nest too deep to be read,
is what its text is read as. -/
theorem read_write {value : Value} (hexact : value.IsExact) (hdepth : value.depth ≤ maxDepth) :
    read (write value).toList = .ok value := by
  obtain ⟨source, hspells, hvalue⟩ := (renders_write hexact hdepth).spells
  have hread := read_of_spells spaces_nil hspells spaces_nil
  rwa [List.nil_append, List.append_nil, hvalue] at hread

/-- A value that is kept exactly is written without control characters but line feeds. -/
theorem plain_write {value : Value} (h : value.IsExact) : Plain (write value).toList :=
  (renders_write h (Nat.le_refl _)).plain

end ChatDice.Json
