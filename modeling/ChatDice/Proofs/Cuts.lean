import ChatDice.Proofs.CommandReading

/-!
# What is lost at the cuts

An expression is cut before its signs, and the slices are trimmed. Put together again they are not
the expression that was cut, for the trimming loses something. It loses blanks only, and not all of
them: those that lead to an end of the expression or to a sign, on either side of it. `dropLoose`
takes just these away, in one walk over the expression and without any cutting, and
`flatten_slices` says that this is what the slices together spell.

The proof of `flatten_slices` walks along the expression. How the blanks at hand are treated depends
on what stood before them, so its invariant is about an expression with any text in front of it
(`dropLoose_eq`): at a border the next head is trimmed on both sides, elsewhere at its end only.

The remaining facts are read off the pieces of `cut`, which are the only way to write a text as a
head without signs and signs with bodies without signs (`cut_of_signFree`).
-/

namespace ChatDice.Command

open Text (Blanks isBlank trim trimStart trimEnd)

/-! ### Signs -/

/-- A text without a sign in it. -/
def SignFree (s : List Char) : Prop :=
  ∀ c ∈ s, Operator.isSign c = false

/-- A text with a sign at its start and no other. -/
def IsSigned (s : List Char) : Prop :=
  ∃ sign body, s = sign :: body ∧ Operator.isSign sign = true ∧ SignFree body

/-- Trimming adds no signs. -/
theorem SignFree.trim {s : List Char} (h : SignFree s) : SignFree (trim s) :=
  fun c hc => h c (Text.mem_of_mem_trim hc)

/-- There is no sign in the first piece. -/
theorem signFree_head_cut (s : List Char) : SignFree (cut s).1 :=
  (isSign_of_cut s).1

/-- Every other piece has no sign after its own. -/
theorem signFree_body_of_cut (s : List Char) : ∀ piece ∈ (cut s).2, SignFree piece.2 := by
  induction s using signInduction with
  | nil => exact List.forall_mem_nil _
  | sign c s hc ih =>
    rw [cut_cons_of_sign hc]
    exact List.forall_mem_cons.mpr ⟨signFree_head_cut s, ih⟩
  | plain c s hc ih =>
    rw [cut_cons_of_not_sign hc]
    exact ih

/-- Every slice after the first piece begins with its sign and has no other. -/
theorem isSigned_pieceSlice {s : List Char} {piece : Char × List Char} (h : piece ∈ (cut s).2) :
    IsSigned (pieceSlice piece) :=
  ⟨piece.1, trim piece.2, rfl, (isSign_of_cut s).2 piece h, (signFree_body_of_cut s piece h).trim⟩

/-- The head of a text is what stands before its first sign. -/
theorem head_cut (s : List Char) : (cut s).1 = s.takeWhile fun c => !Operator.isSign c := by
  induction s using signInduction with
  | nil => rfl
  | sign c s hc ih => rw [cut_cons_of_sign hc, List.takeWhile_cons_of_neg (by simp [hc])]
  | plain c s hc ih =>
    rw [cut_cons_of_not_sign hc, List.takeWhile_cons_of_pos (by simp [hc]), ← ih]

/-- There is one piece for every sign. -/
theorem length_pieces_cut (s : List Char) : (cut s).2.length = s.countP Operator.isSign := by
  induction s using signInduction with
  | nil => rfl
  | sign c s hc ih => rw [cut_cons_of_sign hc, List.countP_cons_of_pos hc, List.length_cons, ih]
  | plain c s hc ih => rw [cut_cons_of_not_sign hc, List.countP_cons_of_neg (by simp [hc]), ih]

/-- A text is a head without signs and signs with bodies without signs in one way only. -/
theorem cut_of_signFree {head : List Char} {pieces : List (Char × List Char)}
    (hhead : SignFree head) (hsigns : ∀ piece ∈ pieces, Operator.isSign piece.1 = true)
    (hbodies : ∀ piece ∈ pieces, SignFree piece.2) :
    cut (head ++ pieces.flatMap fun piece => piece.1 :: piece.2) = (head, pieces) := by
  induction pieces generalizing head with
  | nil =>
    rw [List.flatMap_nil, List.append_nil]
    exact cut_of_forall_not_sign hhead
  | cons piece pieces ih =>
    obtain ⟨hsign, hsigns⟩ := List.forall_mem_cons.mp hsigns
    obtain ⟨hbody, hbodies⟩ := List.forall_mem_cons.mp hbodies
    rw [cut_append_of_forall_not_sign hhead, List.flatMap_cons, List.cons_append,
      cut_cons_of_sign hsign,
      ih hbody hsigns hbodies, List.append_nil]

/-! ### Loose blanks -/

/-- The blanks that a text begins with, if any, lead to a sign or to the end of the text. -/
def atBorder (s : List Char) : Bool :=
  (trimStart s).head?.all Operator.isSign

/-- The text that is left of `s` without its loose blanks, those which lead to an end or to a sign
on either side. What stands in front of `s` is `before`, read backwards. -/
def dropLoose (before : List Char) : List Char → List Char
  | [] => []
  | c :: s =>
    if isBlank c && (atBorder before || atBorder s) then dropLoose (c :: before) s
    else c :: dropLoose (c :: before) s

/-- The end of the text is a border. -/
@[simp] theorem atBorder_nil : atBorder [] = true := rfl

/-- A blank does not change whether a border follows. -/
theorem atBorder_cons_of_blank {c : Char} (h : isBlank c = true) (s : List Char) :
    atBorder (c :: s) = atBorder s := by
  rw [atBorder, Text.trimStart_cons_of_blank h]
  rfl

/-- Of all other characters the signs are borders. -/
theorem atBorder_cons_of_not_blank {c : Char} (h : isBlank c = false) (s : List Char) :
    atBorder (c :: s) = Operator.isSign c := by
  rw [atBorder, Text.trimStart_cons_of_not_blank h]
  rfl

/-- A sign is not blank. -/
theorem isBlank_eq_false_of_isSign {c : Char} (h : Operator.isSign c = true) :
    isBlank c = false := by
  rw [← Bool.not_eq_true]
  intro hblank
  rw [isSign_eq_false_of_isBlank hblank] at h
  cases h

/-- A text begins at a border when its head is blank. -/
theorem atBorder_iff {s : List Char} : atBorder s = true ↔ Blanks (cut s).1 := by
  induction s using signInduction with
  | nil => simp
  | sign c s hc ih =>
    rw [atBorder_cons_of_not_blank (isBlank_eq_false_of_isSign hc), cut_cons_of_sign hc, hc]
    simp
  | plain c s hc ih =>
    rw [cut_cons_of_not_sign hc, Text.blanks_cons, ← ih]
    cases hb : isBlank c with
    | true => simp [atBorder_cons_of_blank hb]
    | false => simp [atBorder_cons_of_not_blank hb, hc]

/-- A character that is not blank stays. -/
theorem dropLoose_cons_of_not_blank {c : Char} (h : isBlank c = false) (before s : List Char) :
    dropLoose before (c :: s) = c :: dropLoose (c :: before) s := by
  rw [dropLoose, h, Bool.false_and]
  rfl

/-- A blank is dropped if it leads to a border on either side, and else it stays. -/
theorem dropLoose_cons_of_blank {c : Char} (h : isBlank c = true) (before s : List Char) :
    dropLoose before (c :: s) =
      if atBorder before || atBorder s then dropLoose (c :: before) s
      else c :: dropLoose (c :: before) s := by
  rw [dropLoose, h, Bool.true_and]

/-- What is left of a head: at a border its blanks go on both sides, elsewhere at its end only. -/
def trimHead (border : Bool) (head : List Char) : List Char :=
  if border then trim head else trimEnd head

/-- Where no blank stands in front only the end is trimmed. -/
theorem trimHead_cons_of_not_blank {c : Char} (h : isBlank c = false) (border : Bool)
    (head : List Char) : trimHead border (c :: head) = c :: trimEnd head := by
  have hend : trimEnd (c :: head) = c :: trimEnd head := by
    by_cases hhead : Blanks head
    · rw [Text.trimEnd_eq_nil_iff.mpr hhead, ← List.singleton_append, Text.trimEnd_append hhead]
      exact Text.trimEnd_append_of_not_blank h []
    · exact Text.trimEnd_append_of_not_blanks hhead [c]
  rw [trimHead, trim, Text.trimStart_cons_of_not_blank h, hend, ite_self]

/-- A blank in front of a head goes when it is at a border on its left or on its right. -/
theorem trimHead_cons_of_blank {c : Char} (h : isBlank c = true) (border : Bool)
    (head : List Char) :
    trimHead border (c :: head) =
      if border ∨ Blanks head then trimHead border head else c :: trimHead border head := by
  cases border with
  | true =>
    rw [if_pos (Or.inl rfl), trimHead, if_pos rfl, trim, Text.trimStart_cons_of_blank h]
    rfl
  | false =>
    by_cases hhead : Blanks head
    · have hcons : Blanks (c :: head) := Text.blanks_cons.mpr ⟨h, hhead⟩
      rw [if_pos (Or.inr hhead)]
      exact (Text.trimEnd_eq_nil_iff.mpr hcons).trans (Text.trimEnd_eq_nil_iff.mpr hhead).symm
    · rw [if_neg (by simp [hhead])]
      exact Text.trimEnd_append_of_not_blanks hhead [c]

/-- The walk over a text: what is left of its head depends on what stood in front, and the pieces
after it are left with their bodies trimmed. -/
theorem dropLoose_eq (before s : List Char) :
    dropLoose before s =
      trimHead (atBorder before) (cut s).1 ++ (cut s).2.flatMap pieceSlice := by
  induction s using signInduction generalizing before with
  | nil => simp [dropLoose, trimHead, Text.trim]
  | sign c s hc ih =>
    have hblank : isBlank c = false := isBlank_eq_false_of_isSign hc
    rw [dropLoose_cons_of_not_blank hblank, ih, atBorder_cons_of_not_blank hblank, hc,
      cut_cons_of_sign hc]
    simp [trimHead, pieceSlice, Text.trim]
  | plain c s hc ih =>
    rw [cut_cons_of_not_sign hc]
    cases hblank : isBlank c with
    | false =>
      rw [dropLoose_cons_of_not_blank hblank, ih, atBorder_cons_of_not_blank hblank, hc,
        trimHead_cons_of_not_blank hblank]
      rfl
    | true =>
      have hborder : (atBorder before || atBorder s) = true ↔
          atBorder before = true ∨ Blanks (cut s).1 := by
        rw [Bool.or_eq_true, atBorder_iff (s := s)]
      rw [dropLoose_cons_of_blank hblank, ih, atBorder_cons_of_blank hblank,
        trimHead_cons_of_blank hblank]
      by_cases h : atBorder before = true ∨ Blanks (cut s).1
      · rw [if_pos h, if_pos (hborder.mpr h)]
      · rw [if_neg h, if_neg (mt hborder.mp h)]
        rfl

/-! ### The slices together -/

/-- The slices together are the first piece, trimmed, and the others behind their signs. -/
theorem flatten_slices_eq (expr : List Char) :
    (slices expr).flatten = trim (cut expr).1 ++ (cut expr).2.flatMap pieceSlice := by
  rw [slices_eq, List.flatten_append, ← List.flatMap_def]
  split
  · next h => rw [h, List.flatten_nil]
  · rw [List.flatten_singleton]

/-- Put together again, the slices spell the expression without its loose blanks. -/
theorem flatten_slices (expr : List Char) : (slices expr).flatten = dropLoose [] expr := by
  rw [flatten_slices_eq, dropLoose_eq]
  rfl

/-- Cutting the slices put together finds the trimmed head and the trimmed bodies. -/
theorem cut_flatten_slices (expr : List Char) :
    cut (slices expr).flatten =
      (trim (cut expr).1, (cut expr).2.map fun piece => (piece.1, trim piece.2)) := by
  have hpieces : (cut expr).2.flatMap pieceSlice =
      ((cut expr).2.map fun piece => (piece.1, trim piece.2)).flatMap
        fun piece => piece.1 :: piece.2 := by
    rw [List.flatMap_map]
    rfl
  rw [flatten_slices_eq, hpieces]
  apply cut_of_signFree (signFree_head_cut expr).trim
  · intro piece hpiece
    obtain ⟨original, hmem, rfl⟩ := List.mem_map.mp hpiece
    exact (isSign_of_cut expr).2 original hmem
  · intro piece hpiece
    obtain ⟨original, hmem, rfl⟩ := List.mem_map.mp hpiece
    exact (signFree_body_of_cut expr original hmem).trim

/-- Trimming twice is trimming once. -/
theorem trim_trim (s : List Char) : trim (trim s) = trim s :=
  Text.trim_eq_self (Text.tight_trim s)

/-- Slices are cut where they were put together. -/
theorem slices_flatten_slices (expr : List Char) :
    slices (slices expr).flatten = slices expr := by
  rw [slices_eq, cut_flatten_slices, trim_trim, List.map_map, slices_eq]
  congr 2
  funext piece
  exact congrArg (List.cons piece.1) (trim_trim piece.2)

/-- There is a slice for every sign, and one more for a head that is not blank. -/
theorem length_slices (expr : List Char) :
    (slices expr).length = expr.countP Operator.isSign +
      if Blanks (expr.takeWhile fun c => !Operator.isSign c) then 0 else 1 := by
  rw [slices_eq, List.length_append, List.length_map, length_pieces_cut, Nat.add_comm, ← head_cut]
  congr 1
  by_cases h : Blanks (cut expr).1
  · rw [if_pos h, if_pos (Text.trim_eq_nil_iff.mpr h), List.length_nil]
  · rw [if_neg h, if_neg (mt Text.trim_eq_nil_iff.mp h), List.length_singleton]

/-- Every slice after the first begins with its only sign. -/
theorem isSigned_of_mem_tail_slices {expr slice : List Char} (h : slice ∈ (slices expr).tail) :
    IsSigned slice := by
  have hmem : slice ∈ (cut expr).2.map pieceSlice := by
    rw [slices_eq] at h
    split at h
    · exact List.mem_of_mem_tail h
    · exact h
  obtain ⟨piece, hpiece, rfl⟩ := List.mem_map.mp hmem
  exact isSigned_pieceSlice hpiece

/-- When the first character that is not blank is a sign, the first slice begins there. -/
theorem isSigned_of_mem_head?_slices {expr slice : List Char} {c : Char}
    (hslice : slice ∈ (slices expr).head?) (hc : c ∈ (trimStart expr).head?)
    (hsign : Operator.isSign c = true) : IsSigned slice ∧ slice.head? = some c := by
  obtain ⟨w, hw, hexpr⟩ := Text.exists_eq_append_trimStart expr
  obtain ⟨rest, hrest⟩ := List.head?_eq_some_iff.mp hc
  have hfree : SignFree w := fun b hb => isSign_eq_false_of_isBlank (hw b hb)
  have hcut : cut expr = (w, (c, (cut rest).1) :: (cut rest).2) := by
    rw [hexpr, hrest, cut_append_of_forall_not_sign hfree, cut_cons_of_sign hsign, List.append_nil]
  have hfirst : pieceSlice (c, (cut rest).1) = slice := by
    rw [slices_eq, hcut, if_pos (Text.trim_eq_nil_iff.mpr hw)] at hslice
    exact Option.some.inj hslice
  have hpiece : (c, (cut rest).1) ∈ (cut expr).2 := by
    rw [hcut]
    exact List.mem_cons_self
  rw [← hfirst]
  exact ⟨isSigned_pieceSlice hpiece, rfl⟩

/-- When the first character that is not blank is none, the first slice is the head. -/
theorem signFree_of_mem_head?_slices {expr slice : List Char}
    (hslice : slice ∈ (slices expr).head?)
    (hsign : ∀ c ∈ (trimStart expr).head?, Operator.isSign c = false) : SignFree slice := by
  rw [slices_eq] at hslice
  split at hslice
  · next hhead =>
    -- The first slice would be that of a piece, and its sign the first character not blank.
    cases hpieces : (cut expr).2 with
    | nil =>
      rw [hpieces] at hslice
      cases hslice
    | cons piece pieces =>
      have hmem : piece ∈ (cut expr).2 := by
        rw [hpieces]
        exact List.mem_cons_self
      have hpiece := (isSign_of_cut expr).2 piece hmem
      have hstart : trimStart expr = piece.1 :: (piece.2 ++ pieces.flatMap fun piece =>
          piece.1 :: piece.2) := by
        rw [← cut_append expr, hpieces, Text.trimStart_append (Text.trim_eq_nil_iff.mp hhead)]
        exact Text.trimStart_cons_of_not_blank (isBlank_eq_false_of_isSign hpiece) _
      have hnot : Operator.isSign piece.1 = false := hsign piece.1 (by rw [hstart]; rfl)
      rw [hpiece] at hnot
      cases hnot
  · rw [← Option.some.inj hslice]
    exact (signFree_head_cut expr).trim

/-- **Cutting loses loose blanks only.** The slices of any text, put together again, are the text
without the blanks at its ends and around its signs, and are cut from that once more. Every slice
after the first is a sign with a body that has none; the first is one too when the text begins with
a sign, and has no sign otherwise. There is a slice for each sign, and one for what stands before
the first, unless that is blank. -/
theorem slices_keep_all_but_loose_blanks (expr : List Char) :
    (slices expr).flatten = dropLoose [] expr ∧
      (∀ slice ∈ (slices expr).tail, IsSigned slice) ∧
      (∀ slice ∈ (slices expr).head?,
        if (trimStart expr).head?.any Operator.isSign then
          IsSigned slice ∧ slice.head? = (trimStart expr).head?
        else SignFree slice) ∧
      (slices expr).length = expr.countP Operator.isSign +
        (if Blanks (expr.takeWhile fun c => !Operator.isSign c) then 0 else 1) ∧
      slices (slices expr).flatten = slices expr := by
  refine ⟨flatten_slices expr, fun slice hslice => isSigned_of_mem_tail_slices hslice, ?_,
    length_slices expr, slices_flatten_slices expr⟩
  intro slice hslice
  split
  · next hsign =>
    obtain ⟨c, hc, hsign⟩ := (Option.any_eq_true _ _).mp hsign
    rw [hc]
    exact isSigned_of_mem_head?_slices hslice hc hsign
  · next hsign =>
    apply signFree_of_mem_head?_slices hslice
    intro c hc
    rw [← Bool.not_eq_true]
    exact fun h => hsign ((Option.any_eq_true _ _).mpr ⟨c, hc, h⟩)

/-- The blank inside a body stays, also where no body may have one; those on both sides of a lone
sign go. -/
theorem slices_keep_all_but_loose_blanks_signs :
    dropLoose [] " + 2 d6  -\t*3 ".toList = "+2 d6-*3".toList ∧
      slices "+2 d6-*3".toList = ["+2 d6".toList, "-".toList, "*3".toList] ∧
      slices " + 2 d6  -\t*3 ".toList = ["+2 d6".toList, "-".toList, "*3".toList] := by
  obtain ⟨hflatten, -, -, -, hagain⟩ := slices_keep_all_but_loose_blanks " + 2 d6  -\t*3 ".toList
  have hslices : slices " + 2 d6  -\t*3 ".toList = ["+2 d6".toList, "-".toList, "*3".toList] := rfl
  rw [hslices] at hflatten hagain
  exact ⟨hflatten.symm, hagain, hslices⟩

end ChatDice.Command
