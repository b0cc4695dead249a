import ChatDice.Proofs.TermReading

/-!
# Reading a command

Here the reader of commands is compared with the spellings of `SpellsTerms` and `Invokes`: the
expression of a command is what `expression?` finds (`expression?_eq_some_iff`), and `readTermsWith`
succeeds exactly on the commands that spell some terms, and gives those (`readTermsWith_eq_ok_iff`).
Where it fails, the fault is one of form (`found_of_readTermsWith`).

Both directions go along the operators of an expression. An operator with a body at the end of an
expression is one more slice at the end (`slices_append_sign`), so a spelling is read by induction
on how it was put together. The other way round the pieces of `cut` are taken up one after another,
and what has been taken up so far is a spelling followed by blanks.
-/

namespace ChatDice.Command

open Numeral (IsNumeral Digits cap value)
open Text (Blanks Tight isBlank trim trimStart trimEnd)

/-! ### The command word -/

/-- A word is stripped, in letters of either case, from exactly the texts that begin with it. -/
theorem stripWord?_eq_some_iff {word s rest : List Char} :
    stripWord? word s = some rest ↔ ∃ p, p.map Char.toLower = word ∧ s = p ++ rest := by
  fun_induction stripWord? word s with
  | case1 s =>
    constructor
    · rintro ⟨⟩
      exact ⟨[], rfl, rfl⟩
    · rintro ⟨p, hp, rfl⟩
      rw [List.map_eq_nil_iff.mp hp, List.nil_append]
  | case2 w word =>
    constructor
    · intro h
      cases h
    · rintro ⟨p, hp, hs⟩
      rw [(List.append_eq_nil_iff.mp hs.symm).1] at hp
      cases hp
  | case3 word c s ih =>
    rw [ih]
    constructor
    · rintro ⟨p, rfl, rfl⟩
      exact ⟨c :: p, rfl, rfl⟩
    · rintro ⟨p, hp, hs⟩
      cases p with
      | nil => cases hp
      | cons d p =>
        obtain ⟨rfl, rfl⟩ := List.cons.inj hs
        exact ⟨p, (List.cons.inj hp).2, rfl⟩
  | case4 w word c s hne =>
    constructor
    · intro h
      cases h
    · rintro ⟨p, hp, hs⟩
      cases p with
      | nil => cases hp
      | cons d p =>
        obtain ⟨rfl, rfl⟩ := List.cons.inj hs
        exact absurd (List.cons.inj hp).1 hne

/-- An argument is what follows at least one blank, and begins with none. -/
theorem argument?_eq_some_iff {s expr : List Char} :
    argument? s = some expr ↔
      ∃ w, w ≠ [] ∧ Blanks w ∧ s = w ++ expr ∧ expr ≠ [] ∧ ∀ c ∈ expr.head?, isBlank c = false := by
  constructor
  · intro h
    cases s with
    | nil => cases h
    | cons c s =>
      simp only [argument?] at h
      split at h
      · next hc =>
        split at h
        · cases h
        · next hne =>
          cases h
          obtain ⟨w, hw, hs⟩ := Text.exists_eq_append_trimStart s
          refine ⟨c :: w, List.cons_ne_nil _ _, Text.blanks_cons.mpr ⟨hc, hw⟩, ?_, hne,
            Text.head?_trimStart s⟩
          rw [List.cons_append, ← hs]
      · cases h
  · rintro ⟨w, hne, hw, rfl, hexpr, hhead⟩
    cases w with
    | nil => exact absurd rfl hne
    | cons c w =>
      obtain ⟨hc, hw⟩ := Text.blanks_cons.mp hw
      have htrim : trimStart (w ++ expr) = expr := by
        rw [Text.trimStart_append hw, Text.trimStart_eq_self hhead]
      rw [List.cons_append, argument?, if_pos hc, htrim]
      cases expr with
      | nil => exact absurd rfl hexpr
      | cons d expr => rfl

/-- A blank has no case. -/
theorem toLower_eq_self_of_isBlank {c : Char} (h : isBlank c = true) : c.toLower = c := by
  unfold Char.toLower
  split
  · next hcase =>
    have hvisible := Text.isBlank_eq_false_of_visible (c := c)
      (le_trans (by decide) (UInt32.le_iff_toNat_le.mp hcase.1))
      (le_trans (UInt32.le_iff_toNat_le.mp hcase.2) (by decide))
    rw [h] at hvisible
    cases hvisible
  · rfl

/-- No blank is an `o` in any case. -/
theorem toLower_ne_of_isBlank {c : Char} (h : isBlank c = true) : c.toLower ≠ 'o' := by
  rw [toLower_eq_self_of_isBlank h]
  rintro rfl
  exact absurd h (by decide)

/-- A command word has no blank in it. -/
theorem isBlank_eq_false_of_mem_word {word : List Char} (h : word.map Char.toLower ∈ words) :
    ∀ c ∈ word, isBlank c = false := by
  have hwords : words.flatten.any isBlank = false := by decide
  intro c hc
  rw [← Bool.not_eq_true]
  intro hblank
  have hlower : ¬isBlank c.toLower = true :=
    List.any_eq_false.mp hwords _ (List.mem_flatten.mpr ⟨_, h, List.mem_map_of_mem hc⟩)
  rw [toLower_eq_self_of_isBlank hblank] at hlower
  exact hlower hblank

/-- With a blank after the word there is at most one command word that it can be. -/
theorem findSome?_words {word w expr : List Char} (hword : word.map Char.toLower ∈ words)
    (hne : w ≠ []) (hw : Blanks w) (hexpr : expr ≠ [])
    (hhead : ∀ c ∈ expr.head?, isBlank c = false) :
    (words.findSome? fun candidate =>
      (stripWord? candidate (word ++ (w ++ expr))).bind argument?) = some expr := by
  have harg : argument? (w ++ expr) = some expr :=
    argument?_eq_some_iff.mpr ⟨w, hne, hw, rfl, hexpr, hhead⟩
  have hstrip : stripWord? (word.map Char.toLower) (word ++ (w ++ expr)) = some (w ++ expr) :=
    stripWord?_eq_some_iff.mpr ⟨word, rfl, rfl⟩
  simp only [words, List.mem_cons, List.not_mem_nil, or_false] at hword
  rcases hword with hlong | hshort
  · rw [hlong] at hstrip
    simp [words, hstrip, harg]
  · -- The longer word goes on with an `o` where this one has a blank.
    have hnone : stripWord? ['r', 'o', 'l', 'a', 'r'] (word ++ (w ++ expr)) = none := by
      obtain ⟨c, rfl⟩ : ∃ c, word = [c] := by
        rw [← List.length_eq_one_iff, ← List.length_map Char.toLower, hshort]
        rfl
      obtain ⟨b, w, rfl⟩ := List.exists_cons_of_ne_nil hne
      have hb : b.toLower ≠ 'o' := toLower_ne_of_isBlank (Text.blanks_cons.mp hw).1
      simp [stripWord?, hb]
    rw [hshort] at hstrip
    simp [words, hnone, hstrip, harg]

/-- The expression of a command is the one that the command invokes. -/
theorem expression?_eq_some_iff {command expr : List Char} :
    expression? command = some expr ↔ Invokes command expr := by
  constructor
  · intro h
    obtain ⟨w₁, w₃, hw₁, hw₃, hcommand⟩ := Text.exists_eq_append_trim command
    have htight := Text.tight_trim command
    unfold expression? at h
    split at h
    · next rest hrest =>
      obtain ⟨candidate, hmem, hfound⟩ := List.exists_of_findSome?_eq_some h
      obtain ⟨after, hstrip, harg⟩ := Option.bind_eq_some_iff.mp hfound
      obtain ⟨word, rfl, rfl⟩ := stripWord?_eq_some_iff.mp hstrip
      obtain ⟨w₂, hne, hw₂, rfl, hexpr, hhead⟩ := argument?_eq_some_iff.mp harg
      have hlast : ∀ c ∈ expr.getLast?, isBlank c = false := by
        have := htight.2
        rwa [hrest, ← List.cons_append, ← List.append_assoc,
          List.getLast?_append_of_ne_nil _ hexpr] at this
      rw [hcommand, hrest]
      simp only [List.cons_append, List.append_assoc]
      exact .intro hw₁ hmem hne hw₂ hexpr ⟨hhead, hlast⟩ hw₃
    · cases h
  · rintro ⟨hw₁, hword, hne, hw₂, hexpr, htight, hw₃⟩
    next w₁ word w₂ w₃ =>
    have hmiddle : Tight ('/' :: (word ++ w₂) ++ expr) :=
      Text.Tight.append (by rintro c ⟨⟩; rfl) (List.cons_ne_nil _ _) hexpr htight.2
    have htrim : trim (w₁ ++ '/' :: (word ++ (w₂ ++ (expr ++ w₃)))) =
        '/' :: (word ++ (w₂ ++ expr)) := by
      have := Text.trim_append_append hw₁ hmiddle hw₃
      simpa only [List.cons_append, List.append_assoc] using this
    rw [expression?, htrim]
    exact findSome?_words hword hne hw₂ hexpr htight.1

/-! ### Slices -/

/-- Induction along a text, a character at a time, as `cut` goes. -/
@[elab_as_elim]
theorem signInduction {motive : List Char → Prop} (nil : motive [])
    (sign : ∀ c s, Operator.isSign c = true → motive s → motive (c :: s))
    (plain : ∀ c s, Operator.isSign c = false → motive s → motive (c :: s)) (s : List Char) :
    motive s := by
  induction s with
  | nil => exact nil
  | cons c s ih =>
    cases hc : Operator.isSign c with
    | true => exact sign c s hc ih
    | false => exact plain c s hc ih

/-- Characters without a sign among them go to the first piece. -/
theorem cut_append_of_forall_not_sign {head : List Char}
    (h : ∀ c ∈ head, Operator.isSign c = false) (s : List Char) :
    cut (head ++ s) = (head ++ (cut s).1, (cut s).2) := by
  induction head with
  | nil => rfl
  | cons c head ih =>
    obtain ⟨hc, hhead⟩ := List.forall_mem_cons.mp h
    rw [List.cons_append, cut_cons_of_not_sign hc, ih hhead, List.cons_append]

/-- A text without a sign is one piece. -/
theorem cut_of_forall_not_sign {s : List Char} (h : ∀ c ∈ s, Operator.isSign c = false) :
    cut s = (s, []) := by
  have happend := cut_append_of_forall_not_sign h []
  rwa [List.append_nil, cut_nil, List.append_nil] at happend

/-- A sign with a body at the end of a text is one more piece at the end. -/
theorem cut_append_sign {body : List Char} {sign : Char} (hsign : Operator.isSign sign = true)
    (hbody : ∀ c ∈ body, Operator.isSign c = false) (s : List Char) :
    cut (s ++ sign :: body) = ((cut s).1, (cut s).2 ++ [(sign, body)]) := by
  induction s using signInduction with
  | nil => rw [List.nil_append, cut_cons_of_sign hsign, cut_of_forall_not_sign hbody]; rfl
  | sign c s hc ih => rw [List.cons_append, cut_cons_of_sign hc, cut_cons_of_sign hc, ih]; rfl
  | plain c s hc ih =>
    rw [List.cons_append, cut_cons_of_not_sign hc, cut_cons_of_not_sign hc, ih]

/-- The head has no sign, and every piece begins with one. -/
theorem isSign_of_cut (s : List Char) :
    (∀ c ∈ (cut s).1, Operator.isSign c = false) ∧
      ∀ piece ∈ (cut s).2, Operator.isSign piece.1 = true := by
  induction s using signInduction with
  | nil => exact ⟨List.forall_mem_nil _, List.forall_mem_nil _⟩
  | sign c s hc ih =>
    rw [cut_cons_of_sign hc]
    exact ⟨List.forall_mem_nil _, List.forall_mem_cons.mpr ⟨hc, ih.2⟩⟩
  | plain c s hc ih =>
    rw [cut_cons_of_not_sign hc]
    exact ⟨List.forall_mem_cons.mpr ⟨hc, ih.1⟩, ih.2⟩

/-- The slice of a piece: its sign and its body without the blanks around it. -/
def pieceSlice (piece : Char × List Char) : List Char :=
  piece.1 :: trim piece.2

/-- The slices are the first piece, unless it is blank, and all the others. -/
theorem slices_eq (expr : List Char) :
    slices expr = (if trim (cut expr).1 = [] then [] else [trim (cut expr).1]) ++
      (cut expr).2.map pieceSlice :=
  rfl

/-- A sign and what follows it, up to the end, are one more slice. -/
theorem slices_append_sign {body : List Char} {sign : Char} (hsign : Operator.isSign sign = true)
    (hbody : ∀ c ∈ body, Operator.isSign c = false) (s : List Char) :
    slices (s ++ sign :: body) = slices s ++ [sign :: trim body] := by
  rw [slices_eq, slices_eq, cut_append_sign hsign hbody, List.map_append, List.append_assoc]
  rfl

/-- A body is its own slice. -/
theorem slices_of_body {body w : List Char} {p : Payload} {readCount : List Char → Nat}
    (h : SpellsPayload readCount body p) (hw : Blanks w) : slices (body ++ w) = [body] := by
  have hsign : ∀ c ∈ body ++ w, Operator.isSign c = false :=
    List.forall_mem_append.mpr
      ⟨h.forall_isSign_eq_false, fun c hc => isSign_eq_false_of_isBlank (hw c hc)⟩
  have htrim : trim (body ++ w) = body := Text.trim_append_append Text.blanks_nil h.tight hw
  rw [slices_eq, cut_of_forall_not_sign hsign, htrim, if_neg h.ne_nil]
  rfl

/-- An operator at the front is split off. -/
theorem splitOperator_of_sign {sign : Char} {operator : Operator} (s : List Char)
    (h : Operator.ofChar? sign = some operator) : splitOperator (sign :: s) = (operator, s) := by
  simp only [splitOperator, h]

/-- Without a sign at the front the operator is that of a sum. -/
theorem splitOperator_of_not_sign {s : List Char}
    (h : ∀ c ∈ s.head?, Operator.isSign c = false) : splitOperator s = (.add, s) := by
  cases s with
  | nil => rfl
  | cons c s =>
    have hc : Operator.ofChar? c = none := by
      simpa [Operator.isSign] using h c rfl
    simp only [splitOperator, hc]

/-! ### From spellings to readings -/

variable {readCount : List Char → Nat}

/-- A step that succeeds after others that do gives one more result. -/
theorem mapM_append_singleton {σ τ ε : Type} {f : σ → Except ε τ} {xs : List σ} {ys : List τ}
    {x : σ} {y : τ} (hxs : xs.mapM f = .ok ys) (hx : f x = .ok y) :
    (xs ++ [x]).mapM f = .ok (ys ++ [y]) := by
  rw [List.mapM_append, List.mapM_cons, List.mapM_nil, hxs, hx]
  rfl

/-- A body is read as the first term. -/
theorem readFirst_of_spells {body : List Char} {p : Payload}
    (h : SpellsPayload readCount body p) : readFirst readCount body = .ok ⟨.add, p⟩ := by
  have hhead : ∀ c ∈ body.head?, Operator.isSign c = false := fun c hc =>
    h.forall_isSign_eq_false c (List.mem_of_mem_head? hc)
  rw [readFirst, if_neg]
  · exact (readTerm_eq_ok_iff (splitOperator_of_not_sign hhead) h.tight).mpr
      ⟨p, h, fun hfirst => (nomatch hfirst), rfl⟩
  · rw [Option.any_eq_true]
    rintro ⟨c, hc, hsign⟩
    rw [hhead c hc] at hsign
    cases hsign

/-- A spelling is read slice by slice as what it spells. Blanks may follow, which is what carries
the induction: those before the next operator are the ones after the expression so far. -/
theorem SpellsTerms.exists_slices {expr : List Char} {terms : List Term}
    (h : SpellsTerms readCount expr terms) {w : List Char} (hw : Blanks w) :
    ∃ slice rest first others, slices (expr ++ w) = slice :: rest ∧
      readFirst readCount slice = .ok first ∧ rest.mapM (readTerm readCount false) = .ok others ∧
      terms = first :: others := by
  induction h generalizing w with
  | @first body p hbody =>
    exact ⟨body, [], ⟨.add, p⟩, [], slices_of_body hbody hw, readFirst_of_spells hbody, rfl, rfl⟩
  | @next expr w₁ w₂ body terms sign operator p h hw₁ hsign hw₂ hbody hp ih =>
    obtain ⟨slice, rest, first, others, hslices, hfirst, hothers, rfl⟩ := ih hw₁
    have hisSign : Operator.isSign sign = true := by
      rw [Operator.isSign, hsign]
      rfl
    have hnone : ∀ c ∈ w₂ ++ (body ++ w), Operator.isSign c = false := by
      simp only [List.forall_mem_append]
      exact ⟨fun c hc => isSign_eq_false_of_isBlank (hw₂ c hc), hbody.forall_isSign_eq_false,
        fun c hc => isSign_eq_false_of_isBlank (hw c hc)⟩
    refine ⟨slice, rest ++ [sign :: body], first, others ++ [⟨operator, p⟩], ?_, hfirst, ?_, rfl⟩
    · have hslice := slices_append_sign hisSign hnone (expr ++ w₁)
      rw [hslices, Text.trim_append_append hw₂ hbody.tight hw] at hslice
      simpa only [List.append_assoc, List.cons_append] using hslice
    · exact mapM_append_singleton hothers
        ((readTerm_eq_ok_iff (splitOperator_of_sign body hsign) hbody.tight).mpr
          ⟨p, hbody, fun _ => hp, rfl⟩)

/-! ### From readings to spellings -/

/-- Taking up pieces one after another. What has been taken up so far is a spelling `expr` with
blanks `w` after it. -/
theorem exists_spells_of_pieces {pieces : List (Char × List Char)} {expr w : List Char}
    {terms others : List Term} (hsigns : ∀ piece ∈ pieces, Operator.isSign piece.1 = true)
    (h : SpellsTerms readCount expr terms) (hw : Blanks w)
    (hothers : (pieces.map pieceSlice).mapM (readTerm readCount false) = .ok others) :
    ∃ expr' w', expr ++ (w ++ pieces.flatMap fun piece => piece.1 :: piece.2) = expr' ++ w' ∧
      Blanks w' ∧ SpellsTerms readCount expr' (terms ++ others) := by
  induction pieces generalizing expr w terms others with
  | nil =>
    cases hothers
    exact ⟨expr, w, by simp, hw, by simpa using h⟩
  | cons piece pieces ih =>
    obtain ⟨sign, body⟩ := piece
    rw [List.map_cons, List.mapM_cons] at hothers
    obtain ⟨term, hterm, hothers⟩ := bind_eq_ok_iff.mp hothers
    obtain ⟨others, hrest, hothers⟩ := bind_eq_ok_iff.mp hothers
    cases hothers
    obtain ⟨operator, hsign⟩ := Option.isSome_iff_exists.mp (hsigns _ List.mem_cons_self)
    obtain ⟨p, hp, hplain, rfl⟩ := (readTerm_eq_ok_iff
      (splitOperator_of_sign (trim body) hsign) (Text.tight_trim body)).mp hterm
    obtain ⟨w₂, w₃, hw₂, hw₃, hbody⟩ := Text.exists_eq_append_trim body
    obtain ⟨expr', w', htext, hw', hspell⟩ :=
      ih (fun piece hmem => hsigns piece (List.mem_cons_of_mem _ hmem))
        (.next h hw hsign hw₂ hp (hplain rfl)) hw₃ hrest
    refine ⟨expr', w', ?_, hw', by simpa using hspell⟩
    rw [← htext, List.flatMap_cons]
    simp only [List.append_assoc, List.cons_append]
    rw [← List.append_assoc (trim body), ← List.append_assoc w₂, ← hbody]

/-- A first slice is read as a body; an operator before it is refused. -/
theorem spells_of_readFirst {slice : List Char} {term : Term} (ht : Tight slice)
    (h : readFirst readCount slice = .ok term) :
    ∃ p, SpellsPayload readCount slice p ∧ term = ⟨.add, p⟩ := by
  unfold readFirst at h
  split at h
  · cases h
  · next hsign =>
    have hhead : ∀ c ∈ slice.head?, Operator.isSign c = false := by
      intro c hc
      rw [← Bool.not_eq_true]
      exact fun hcon => hsign ((Option.any_eq_true _ _).mpr ⟨c, hc, hcon⟩)
    obtain ⟨p, hp, -, rfl⟩ := (readTerm_eq_ok_iff (splitOperator_of_not_sign hhead) ht).mp h
    exact ⟨p, hp, rfl⟩

/-- An expression that is read slice by slice is a spelling of what is read. -/
theorem spellsTerms_of_slices {expr slice : List Char} {rest : List (List Char)} {first : Term}
    {others : List Term} (ht : Tight expr) (hslices : slices expr = slice :: rest)
    (hfirst : readFirst readCount slice = .ok first)
    (hothers : rest.mapM (readTerm readCount false) = .ok others) :
    SpellsTerms readCount expr (first :: others) := by
  have hcut := cut_append expr
  obtain ⟨-, hsigns⟩ := isSign_of_cut expr
  rw [slices_eq] at hslices
  split at hslices
  · -- Without a head the first slice begins with a sign, and that is refused.
    rw [List.nil_append] at hslices
    obtain ⟨piece, hmem, rfl⟩ : ∃ piece ∈ (cut expr).2, pieceSlice piece = slice :=
      List.mem_map.mp (hslices ▸ List.mem_cons_self)
    rw [readFirst, if_pos (by simp [pieceSlice, hsigns piece hmem])] at hfirst
    cases hfirst
  · obtain ⟨rfl, rfl⟩ := List.cons.inj hslices
    obtain ⟨p, hp, rfl⟩ := spells_of_readFirst (Text.tight_trim _) hfirst
    obtain ⟨w₁, w₂, hw₁, hw₂, hhead⟩ := Text.exists_eq_append_trim (cut expr).1
    have hstart : w₁ = [] := by
      rw [← hcut, hhead, List.append_assoc] at ht
      exact Text.eq_nil_of_tight_append_left hw₁ ht
    obtain ⟨expr', w', htext, hw', hspell⟩ :=
      exists_spells_of_pieces hsigns (.first hp) hw₂ hothers
    rw [hstart, List.nil_append] at hhead
    rw [← List.append_assoc, ← hhead, hcut] at htext
    subst htext
    rw [Text.eq_nil_of_tight_append_right hw' ht, List.append_nil]
    exact hspell

/-- A command is read slice by slice, the first one as the first term. -/
theorem readTermsWith_of_slices {command expr slice : List Char} {rest : List (List Char)}
    (hexpr : expression? command = some expr) (hslices : slices expr = slice :: rest) :
    readTermsWith readCount command = (do
      let term ← readFirst readCount slice
      let terms ← rest.mapM (readTerm readCount false)
      return term :: terms) := by
  simp only [readTermsWith, hexpr, hslices]

/-- **Reading a command.** The reader succeeds on the commands that spell terms, with those terms,
and on no others. -/
theorem readTermsWith_eq_ok_iff {command : List Char} {terms : List Term} :
    readTermsWith readCount command = .ok terms ↔ Spells readCount command terms := by
  constructor
  · intro h
    cases hexpr : expression? command with
    | none => simp [readTermsWith, hexpr] at h
    | some expr =>
      have hinvokes := expression?_eq_some_iff.mp hexpr
      cases hslices : slices expr with
      | nil => simp [readTermsWith, hexpr, hslices] at h
      | cons slice rest =>
        rw [readTermsWith_of_slices hexpr hslices] at h
        obtain ⟨first, hfirst, h⟩ := bind_eq_ok_iff.mp h
        obtain ⟨others, hothers, h⟩ := bind_eq_ok_iff.mp h
        cases h
        refine ⟨expr, hinvokes, spellsTerms_of_slices ?_ hslices hfirst hothers⟩
        cases hinvokes with
        | intro _ _ _ _ _ htight _ => exact htight
  · rintro ⟨expr, hinvokes, hspell⟩
    obtain ⟨slice, rest, first, others, hslices, hfirst, hothers, rfl⟩ :=
      hspell.exists_slices Text.blanks_nil
    rw [List.append_nil] at hslices
    rw [readTermsWith_of_slices (expression?_eq_some_iff.mpr hinvokes) hslices]
    exact bind_eq_ok_iff.mpr ⟨first, hfirst, bind_eq_ok_iff.mpr ⟨others, hothers, rfl⟩⟩

/-! ### What goes wrong -/

/-- A slice is a sign or nothing, and then a tight body. -/
theorem exists_splitOperator_of_mem_slices {expr slice : List Char} (h : slice ∈ slices expr) :
    ∃ operator body, splitOperator slice = (operator, body) ∧ Tight body := by
  obtain ⟨hhead, hsigns⟩ := isSign_of_cut expr
  rw [slices_eq] at h
  rcases List.mem_append.mp h with h | h
  · split at h
    · cases h
    · obtain rfl := List.mem_singleton.mp h
      refine ⟨.add, _, splitOperator_of_not_sign ?_, Text.tight_trim _⟩
      obtain ⟨w₁, w₂, -, -, heq⟩ := Text.exists_eq_append_trim (cut expr).1
      intro c hc
      apply hhead c
      rw [heq]
      exact List.mem_append_right _ (List.mem_append_left _ (List.mem_of_mem_head? hc))
  · obtain ⟨piece, hmem, rfl⟩ := List.mem_map.mp h
    obtain ⟨operator, hsign⟩ := Option.isSome_iff_exists.mp (hsigns piece hmem)
    exact ⟨operator, _, splitOperator_of_sign _ hsign, Text.tight_trim _⟩

/-- A list of steps fails by one of them. -/
theorem exists_of_mapM_eq_error {σ τ ε : Type} {f : σ → Except ε τ} {xs : List σ} {e : ε}
    (h : xs.mapM f = .error e) : ∃ x ∈ xs, f x = .error e := by
  induction xs with
  | nil => cases h
  | cons x xs ih =>
    rw [List.mapM_cons] at h
    rcases bind_eq_error_iff.mp h with hx | ⟨y, -, h⟩
    · exact ⟨x, List.mem_cons_self, hx⟩
    rcases bind_eq_error_iff.mp h with hxs | ⟨ys, -, h⟩
    · obtain ⟨x', hmem, hx'⟩ := ih hxs
      exact ⟨x', List.mem_cons_of_mem _ hmem, hx'⟩
    · cases h

/-- The first term can only have a fault of form. -/
theorem found_of_readFirst {slice body : List Char} {operator : Operator} {failure : Failure}
    (hslice : splitOperator slice = (operator, body)) (ht : Tight body)
    (h : readFirst readCount slice = .error failure) : failure.IsFound := by
  unfold readFirst at h
  split at h
  · cases h
    exact ⟨_, rfl, trivial⟩
  · exact found_of_readTerm hslice ht h

/-- Whatever goes wrong in reading the form of a command is a fault of form. -/
theorem found_of_readTermsWith {command : List Char} {failure : Failure}
    (h : readTermsWith readCount command = .error failure) : failure.IsFound := by
  cases hexpr : expression? command with
  | none =>
    simp only [readTermsWith, hexpr] at h
    cases h
    exact ⟨_, rfl, trivial⟩
  | some expr =>
    cases hslices : slices expr with
    | nil =>
      simp only [readTermsWith, hexpr, hslices] at h
      cases h
      exact ⟨_, rfl, trivial⟩
    | cons slice rest =>
      have hsplit : ∀ s ∈ slice :: rest, ∃ operator body,
          splitOperator s = (operator, body) ∧ Tight body := fun s hs =>
        exists_splitOperator_of_mem_slices (hslices ▸ hs)
      rw [readTermsWith_of_slices hexpr hslices] at h
      rcases bind_eq_error_iff.mp h with hfirst | ⟨first, -, h⟩
      · obtain ⟨operator, body, hbody, ht⟩ := hsplit slice List.mem_cons_self
        exact found_of_readFirst hbody ht hfirst
      rcases bind_eq_error_iff.mp h with hothers | ⟨others, -, h⟩
      · obtain ⟨s, hs, hfail⟩ := exists_of_mapM_eq_error hothers
        obtain ⟨operator, body, hbody, ht⟩ := hsplit s (List.mem_cons_of_mem _ hs)
        exact found_of_readTerm hbody ht hfail
      · cases h

/-- A command can only have a fault of form, until ranges are looked at. -/
theorem malformed_of_readTermsWith {command : List Char} {failure : Failure}
    (h : readTermsWith readCount command = .error failure) : failure.IsMalformed :=
  (found_of_readTermsWith h).isMalformed

end ChatDice.Command
