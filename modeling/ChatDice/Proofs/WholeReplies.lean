import ChatDice.Proofs.LeftToRight
import ChatDice.Proofs.Magnitude
import ChatDice.Proofs.Replies

/-!
# What a reply shows whole

A success begins with who rolled and what the total is, and it ends in the announcement of an
outstanding roll. The beginning is whole exactly if it is no longer than a message may be
(`Reply.head_isPrefix_fit_iff`). The announcement is whole if nothing has to be shortened, or if
there is room for the beginning, the mark of a shortened breakdown and the announcement together,
and in no other case (`Reply.announcement_isSuffix_fit_iff`): where the three are too long, the text
is cut at its end, even if the beginning and the announcement alone have room.

Main statement (`DiceTable.total_and_announcement_whole`): this for the answers to commands. Since
totals are bounded by the text, a command of at most 2127 characters has both in its answer, whole.
A longer one need not (`DiceTable.announcement_cut_though_it_has_room`).
-/

namespace ChatDice

open Numeral (digitCount maxPrintedDigits)

/-! ### The beginning and the end of a shortened text -/

namespace Reply

variable {head breakdown foot : List Char} {n : Nat}

/-- The beginning is whole exactly if a message has room for it. -/
theorem head_isPrefix_fit_iff :
    head <+: fit head breakdown foot (some n) ↔ head.length ≤ n := by
  constructor
  · intro h
    exact Nat.le_trans h.length_le length_fit_le
  · intro h
    rcases Nat.lt_or_ge n (head.length + breakdown.length + foot.length) with hlt | hge
    · rw [fit_of_lt hlt, List.prefix_take_iff, List.append_assoc]
      exact ⟨List.prefix_append _ _, h⟩
    · rw [fit_of_le hge, List.append_assoc]
      exact List.prefix_append _ _

/-- The end is whole if nothing is shortened, or if there is room for the mark. -/
theorem foot_isSuffix_fit
    (h : head.length + breakdown.length + foot.length ≤ n ∨
      head.length + foot.length + shortened.length ≤ n) :
    foot <:+ fit head breakdown foot (some n) := by
  rcases Nat.lt_or_ge n (head.length + breakdown.length + foot.length) with hlt | hge
  · have hroom := h.resolve_left (Nat.not_le.mpr hlt)
    rw [fit_of_room hlt hroom]
    exact List.suffix_append _ _
  · rw [fit_of_le hge]
    exact List.suffix_append _ _

/-- A text that ends in a mark does not do so after it has been cut, if the first character of the
mark does not stand in what the cut moves to its place. -/
theorem not_isSuffix_take {lead body mark : List Char} {c : Char} (hbody : c ∉ body)
    (hlead : lead.length + (c :: mark).length ≤ n)
    (hlt : n < lead.length + body.length + (c :: mark).length) :
    ¬(c :: mark) <:+ (lead ++ body ++ c :: mark).take n := by
  rintro ⟨before, hbefore⟩
  have hlength : before.length + (c :: mark).length = n := by
    have h := congrArg List.length hbefore
    rw [List.length_append, List.length_take, List.length_append, List.length_append] at h
    omega
  -- Where the mark would begin, the text before the cut has a character of its middle part.
  have hget : (lead ++ body ++ c :: mark)[before.length]? = some c := by
    have hlt : before.length < n := by
      rw [← hlength, List.length_cons]
      omega
    rw [← List.getElem?_take_of_lt hlt, ← hbefore, List.getElem?_append_right (Nat.le_refl _)]
    simp
  rw [List.append_assoc, List.getElem?_append_right (by omega),
    List.getElem?_append_left (by omega)] at hget
  exact hbody (List.mem_of_getElem? hget)

/-! ### The head and the announcement of a roll -/

/-- The head is as long as the name and the total, and twelve characters more. -/
theorem length_head (name total : String) :
    (Reply.head name total).length = name.length + total.length + 12 := by
  have hdie : "🎲 ".length = 2 := rfl
  have hverb : " rolou:\n".length = 8 := rfl
  have hblank : "\n\n".length = 2 := rfl
  unfold Reply.head
  rw [String.length_append, String.length_append, String.length_append, String.length_append, hdie,
    hverb, hblank]
  clear hdie hverb hblank
  omega

/-- The foot of an outstanding roll is its message on a line of its own. -/
theorem foot_note_some (critical : Critical) :
    Reply.foot (Critical.note (some critical)) = "\n" ++ critical.message := by
  cases critical <;> rfl

/-- A message about an outstanding roll has at most 29 characters. -/
theorem length_message_le (critical : Critical) : critical.message.length ≤ 29 := by
  cases critical <;> decide

/-- With its line feed it has at most 30. -/
theorem length_announcement_le (critical : Critical) :
    ("\n" ++ critical.message).length ≤ 30 := by
  have hfeed : "\n".length = 1 := rfl
  rw [String.length_append, hfeed, Nat.add_comm]
  exact Nat.succ_le_succ (length_message_le critical)

/-- What stands between a name and an announcement where nothing of the breakdown is left. -/
def between (total : Int) : List Char :=
  " rolou:\n".toList ++ ((toString total).toList ++ ("\n\n".toList ++ (shortened ++ "\n".toList)))

/-- A reply without any of its breakdown, from the name to the announcement. -/
theorem head_append_shortened_append (name : String) (total : Int) (critical : Critical) :
    (Reply.head name (toString total)).toList ++ shortened ++ ("\n" ++ critical.message).toList =
      ("🎲 " ++ name).toList ++ between total ++ critical.message.toList := by
  unfold between Reply.head
  simp only [String.toList_append, List.append_assoc]

/-- A character that is in none of its parts does not stand between a name and an announcement. -/
theorem not_mem_between {c : Char} (hdigit : c.isDigit = false) (hminus : c ≠ '-')
    (hwords : c ∉ " rolou:\n".toList ++ ("\n\n".toList ++ (shortened ++ "\n".toList)))
    (total : Int) : c ∉ between total := by
  have htotal : c ∉ (toString total).toList := by
    intro hmem
    rcases Numeral.isDigit_or_eq_minus_of_mem_toString hmem with hdigit' | hminus'
    · rw [hdigit] at hdigit'
      cases hdigit'
    · exact hminus hminus'
  unfold between
  simp only [List.mem_append, not_or] at hwords ⊢
  exact ⟨hwords.1, htotal, hwords.2⟩

/-- An announcement begins with a character that stands neither in a total nor in the words around
it. -/
theorem exists_message_eq_cons (critical : Critical) :
    ∃ c mark, critical.message.toList = c :: mark ∧ ∀ total, c ∉ between total := by
  cases critical with
  | success => exact ⟨'🎯', _, rfl, not_mem_between (by decide) (by decide) (by decide)⟩
  | failure => exact ⟨'💀', _, rfl, not_mem_between (by decide) (by decide) (by decide)⟩

/-- The announcement of a roll is whole if nothing is shortened, or if there is room for the mark,
and in no other case. -/
theorem announcement_isSuffix_fit_iff {name : String} {total : Int} {critical : Critical}
    (hname : name.length + 31 ≤ n) :
    ("\n" ++ critical.message).toList <:+
        fit (Reply.head name (toString total)).toList breakdown
          ("\n" ++ critical.message).toList (some n) ↔
      (Reply.head name (toString total)).length + breakdown.length +
          ("\n" ++ critical.message).length ≤ n ∨
        (Reply.head name (toString total)).length + ("\n" ++ critical.message).length +
          shortened.length ≤ n := by
  have hlead : ("🎲 " ++ name).toList.length + critical.message.toList.length ≤ n := by
    have hdie : "🎲 ".length = 2 := rfl
    have hmessage := length_message_le critical
    rw [String.length_toList, String.length_append, hdie, String.length_toList]
    omega
  simp only [← String.length_toList]
  refine ⟨fun h => ?_, foot_isSuffix_fit⟩
  by_contra hnot
  obtain ⟨hlong, hcrowded⟩ := not_or.mp hnot
  rw [fit_of_crowded (Nat.not_le.mp hlong) (Nat.not_le.mp hcrowded)] at h
  have htext := head_append_shortened_append name total critical
  have hlt : n < ("🎲 " ++ name).toList.length + (between total).length +
      critical.message.toList.length := by
    have hlength := congrArg List.length htext
    simp only [List.length_append] at hlength
    rw [← hlength, Nat.add_right_comm]
    exact Nat.not_le.mp hcrowded
  have hsuffix : critical.message.toList <:+ ("\n" ++ critical.message).toList := by
    rw [String.toList_append]
    exact List.suffix_append _ _
  obtain ⟨c, mark, hmessage, hc⟩ := exists_message_eq_cons critical
  rw [htext] at h
  rw [hmessage] at hlead hlt hsuffix h
  exact not_isSuffix_take (hc total) hlead hlt (hsuffix.trans h)

end Reply

/-! ### Totals and the length of commands -/

variable {σ : Type} {g : Generator σ} {limit : Limit} {command : String} {s : σ}
  {result : RollResult}

/-- The digits of a total are accounted for by the text of the command. -/
theorem digitCount_total_le_of_evaluate (hg : g.InRange) (hlimit : limit.BelowCap)
    (h : (evaluate g limit command s).outcome = .ok result) :
    10 * digitCount result.total + 18 ≤ 9 * command.length := by
  obtain ⟨terms, hparse, hterms⟩ := exists_parse_of_evaluate h
  obtain ⟨account, htally, rfl⟩ := exists_account_of_evaluateTerms hterms
  obtain ⟨expr, hinvokes, hall⟩ := Command.exists_fits_of_parse hg hlimit hparse
  have hlength := hinvokes.length_add_three_le
  rw [String.length_toList] at hlength
  rcases hall s with hzero | ⟨account', htally', hfits⟩
  · rw [htally] at hzero
    cases hzero
  · rw [htally] at htally'
    cases htally'
    unfold Fits at hfits
    show 10 * digitCount account.total + 18 ≤ 9 * command.length
    omega

/-- The total of a command that is not too long leaves room for an announcement and the mark of a
shortened breakdown. -/
theorem length_head_le_of_evaluate (hg : g.InRange) (hlimit : limit.BelowCap) {name : String}
    (hname : name.length ≤ 32) (h : (evaluate g limit command s).outcome = .ok result)
    (hlength : command.length ≤ 2127) :
    (Reply.head name (toString result.total)).length ≤ 1957 := by
  have hdigits := digitCount_total_le_of_evaluate hg hlimit h
  have hprint := Numeral.length_toString_le result.total
  rw [Reply.length_head]
  omega

/-! ### Commands that multiply again and again -/

/-- A text with the same addition written after it some number of times. -/
def Command.repeated (command more : List Char) (count : Nat) : List Char :=
  command ++ (List.replicate count more).flatten

/-- The text is as long as the command and all the additions. -/
theorem Command.length_repeated (command more : List Char) (count : Nat) :
    (repeated command more count).length = command.length + count * more.length := by
  simp [repeated]

/-- An operator and a body in range, written after a command again and again, are read as one more
term each time. -/
theorem Command.parse_repeated (hlimit : limit.BelowCap) {command body : List Char}
    {terms : List Term} {sign : Char} {operator : Operator} {p : Payload}
    (h : parse limit command = .ok terms) (hsign : Operator.ofChar? sign = some operator)
    (hbody : SpellsPayload Numeral.value body p) (hplain : p.IsPlain) (hp : p.WellFormed limit)
    (count : Nat) :
    parse limit (repeated command (sign :: body) count) =
      .ok (terms ++ List.replicate count ⟨operator, p⟩) := by
  induction count with
  | zero => simpa [repeated] using h
  | succ count ih =>
    have hnext := parse_append hlimit ih Text.blanks_nil hsign Text.blanks_nil hbody hplain hp
    simpa [repeated, List.replicate_succ'] using hnext

/-- A breakdown only grows. -/
theorem Tally.length_breakdown_le_of_add {account next : Tally} {operator : Operator}
    {term : Appraisal} (h : account.add operator term = .ok next) :
    account.result.breakdown.length ≤ next.result.breakdown.length := by
  obtain ⟨shown, -, -, hbreakdown, -⟩ := exists_of_add_eq_ok h
  unfold result
  rw [hbreakdown]
  cases account.breakdown with
  | none => exact Nat.zero_le _
  | some breakdown =>
    simp only [extend, Option.getD_some, String.length_append]
    omega

/-- Multiplying by a literal again and again gives its power, and announces nothing new. -/
theorem exists_tally_replicate_mul (g : Generator σ) {factor : Int}
    (hfactor : Numeral.isPrintable factor = true) (count : Nat) (account : Tally) (s : σ) :
    ∃ next, (tally g (List.replicate count ⟨.mul, .literal factor⟩) account s).outcome = .ok next ∧
      next.total = account.total * factor ^ count ∧ next.critical = account.critical ∧
      account.result.breakdown.length ≤ next.result.breakdown.length := by
  induction count generalizing account with
  | zero =>
    refine ⟨account, rfl, ?_, rfl, Nat.le_refl _⟩
    rw [Int.pow_zero, Int.mul_one]
  | succ count ih =>
    obtain ⟨mid, hadd, hmid, hmid'⟩ : ∃ mid : Tally,
        account.add .mul ((Payload.literal factor).appraise g s).1 = .ok mid ∧
          mid.total = account.total * factor ∧ mid.critical = account.critical := by
      have hshown : ((Payload.literal factor).appraise g s).1.shown = .ok (toString factor) :=
        compose_of_forall (List.forall_mem_singleton.mpr hfactor) _
      exact ⟨_, Tally.add_of_apply_eq_ok hshown rfl, rfl, rfl⟩
    obtain ⟨next, htally, htotal, hcritical, hlength⟩ := ih mid
    refine ⟨next, ?_, ?_, hcritical.trans hmid',
      Nat.le_trans (Tally.length_breakdown_le_of_add hadd) hlength⟩
    · rw [List.replicate_succ, outcome_tally_cons, hadd]
      exact htally
    · rw [htotal, hmid, Int.pow_succ', Int.mul_assoc]

/-- A command that gives a result gives a multiple of it, with the same announcement and no shorter
breakdown, once it is multiplied by a literal again and again. -/
theorem exists_evaluate_repeated_mul (hlimit : limit.BelowCap)
    (h : (evaluate g limit command s).outcome = .ok result) {digits : List Char}
    (hdigits : Numeral.IsNumeral digits) (hlt : Numeral.value digits < Numeral.cap) (count : Nat)
    (hprint : digitCount (result.total * (Numeral.value digits : Int) ^ count) ≤
      maxPrintedDigits) :
    ∃ next, (evaluate g limit
        (String.ofList (Command.repeated command.toList ('*' :: digits) count)) s).outcome =
          .ok next ∧
      next.total = result.total * (Numeral.value digits : Int) ^ count ∧
      next.critical = result.critical ∧ result.breakdown.length ≤ next.breakdown.length := by
  obtain ⟨terms, hparse, hterms⟩ := exists_parse_of_evaluate h
  obtain ⟨account, htally, rfl⟩ := exists_account_of_evaluateTerms hterms
  have hfactor : Numeral.isPrintable (Numeral.value digits) = true :=
    Numeral.isPrintable_of_natAbs_le_cap (Nat.le_of_lt hlt)
  obtain ⟨next, hnext, htotal, hcritical, hlength⟩ := exists_tally_replicate_mul g hfactor count
    account (tally g terms .empty s).dice
  have hparse' : Command.parse limit
      (String.ofList (Command.repeated command.toList ('*' :: digits) count)).toList =
        .ok (terms ++ List.replicate count ⟨.mul, .literal (Numeral.value digits)⟩) := by
    rw [String.toList_ofList]
    exact Command.parse_repeated hlimit hparse rfl (.literal hdigits hlt) trivial
      ⟨Int.natCast_nonneg _, Int.ofNat_lt.mpr hlt⟩ count
  refine ⟨next.result, ?_, htotal, hcritical, hlength⟩
  rw [outcome_evaluate_of_parse hparse']
  refine outcome_evaluateTerms_of_ok ?_ (by rw [htotal]; exact hprint)
  rw [tally_append_of_ok htally]
  exact hnext

/-- A natural twenty, multiplied by 999999999 again and again. -/
theorem exists_evaluate_twenty_mul (count : Nat)
    (hprint : digitCount (20 * 999999999 ^ count) ≤ maxPrintedDigits) :
    ∃ result, (evaluate .highest (.whole 1000)
        (String.ofList (Command.repeated "/r 1d20".toList "*999999999".toList count)) ()).outcome =
          .ok result ∧
      result.total = 20 * 999999999 ^ count ∧ result.critical = some .success ∧
      0 < result.breakdown.length := by
  have htwenty : (evaluate .highest (.whole 1000) "/r 1d20" ()).outcome =
      .ok ⟨20, "(20)", some .success⟩ := by decide +kernel
  have hnumeral : Numeral.IsNumeral "999999999".toList := by decide
  have hvalue : Numeral.value "999999999".toList = 999999999 := by decide +kernel
  obtain ⟨result, hresult, htotal, hcritical, hlength⟩ := exists_evaluate_repeated_mul (by decide)
    htwenty hnumeral (by decide) count (by rw [hvalue]; exact hprint)
  rw [hvalue] at htotal
  have hshown : 4 ≤ result.breakdown.length := hlength
  exact ⟨result, hresult, htotal, hcritical, by omega⟩

/-! ### Answers -/

namespace DiceTable

/-- **Total and announcement.** With dice in range, a roll is answered with a text that begins with
who rolled and the whole total exactly if a message has room for that. The text ends in the
announcement of an outstanding roll exactly if nothing of it is shortened, or a message has room
for the beginning, the announcement and the mark of a shortened breakdown. Both are so for every
command of at most 2127 characters. -/
theorem total_and_announcement_whole (hg : g.InRange) (hlimit : limit.BelowCap) {name : String}
    (hname : name.length ≤ 32) (h : (evaluate g limit command s).outcome = .ok result) :
    ∃ reply, (answer g limit name command s).outcome = .ok reply ∧
      ((Reply.head name (toString result.total)).toList <+: reply.toList ↔
        (Reply.head name (toString result.total)).length ≤ 2000) ∧
      (∀ critical, result.critical = some critical →
        (("\n" ++ critical.message).toList <:+ reply.toList ↔
          (Reply.head name (toString result.total)).length + result.breakdown.length +
              ("\n" ++ critical.message).length ≤ 2000 ∨
            (Reply.head name (toString result.total)).length + ("\n" ++ critical.message).length +
              Reply.shortened.length ≤ 2000)) ∧
      (command.length ≤ 2127 →
        (Reply.head name (toString result.total)).toList <+: reply.toList ∧
          ∀ critical, result.critical = some critical →
            ("\n" ++ critical.message).toList <:+ reply.toList) := by
  have hhead : ∀ foot, (Reply.head name (toString result.total)).toList <+:
        Reply.fit (Reply.head name (toString result.total)).toList result.breakdown.toList foot
          (some (2000 : Nat)) ↔
      (Reply.head name (toString result.total)).length ≤ 2000 := by
    intro foot
    rw [Reply.head_isPrefix_fit_iff, String.length_toList]
  refine ⟨_, outcome_answer_of_ok h, ?_⟩
  rw [String.toList_ofList]
  refine ⟨hhead _, fun critical hcritical => ?_, fun hlength => ⟨?_, fun critical hcritical => ?_⟩⟩
  · rw [hcritical, Reply.foot_note_some, Reply.announcement_isSuffix_fit_iff (by omega),
      String.length_toList]
  · rw [hhead]
    have hshort := length_head_le_of_evaluate hg hlimit hname h hlength
    omega
  · rw [hcritical, Reply.foot_note_some, Reply.announcement_isSuffix_fit_iff (by omega)]
    have hshort := length_head_le_of_evaluate hg hlimit hname h hlength
    have hnote := Reply.length_announcement_le critical
    have hmark : Reply.shortened.length = 13 := rfl
    exact .inr (by omega)

/-- The longest command for which this is promised; its breakdown is shortened. -/
theorem total_and_announcement_whole_longest :
    Generator.highest.InRange ∧ (Limit.whole 1000).BelowCap ∧ "Ana".length ≤ 32 ∧
      ∃ command result reply,
        command = String.ofList (Command.repeated "/r 1d20".toList "*999999999".toList 212) ∧
        command.length = 2127 ∧
        (evaluate .highest (.whole 1000) command ()).outcome = .ok result ∧
        result.critical = some .success ∧
        (answer .highest (.whole 1000) "Ana" command ()).outcome = .ok reply ∧
        (Reply.head "Ana" (toString result.total)).toList <+: reply.toList ∧
        ("\n" ++ Critical.success.message).toList <:+ reply.toList := by
  have hlimit : (Limit.whole 1000).BelowCap := by decide
  have hname : "Ana".length ≤ 32 := by decide
  have hlength : (String.ofList
      (Command.repeated "/r 1d20".toList "*999999999".toList 212)).length = 2127 := by
    rw [String.length_ofList, Command.length_repeated]
    rfl
  have hprint : digitCount (20 * 999999999 ^ 212) ≤ maxPrintedDigits := by
    rw [Numeral.digitCount_le_iff (by decide)]
    decide +kernel
  obtain ⟨result, heval, -, hcritical, -⟩ := exists_evaluate_twenty_mul 212 hprint
  obtain ⟨reply, hreply, -, -, hwhole⟩ :=
    total_and_announcement_whole Generator.inRange_highest hlimit hname heval
  obtain ⟨hhead, hnote⟩ := hwhole (Nat.le_of_eq hlength)
  exact ⟨Generator.inRange_highest, hlimit, hname, _, result, reply, rfl, hlength, heval, hcritical,
    hreply, hhead, hnote _ hcritical⟩

/-- **Cut though it has room.** A natural twenty, multiplied by 999999999 as often as here, has a
total with which the beginning and the announcement fill a message exactly. But the mark is put
between them, and so the end of the announcement is cut off. -/
theorem announcement_cut_though_it_has_room :
    Generator.highest.InRange ∧ (Limit.whole 1000).BelowCap ∧ "Ana".length ≤ 32 ∧
      ∃ command result reply,
        command = String.ofList (Command.repeated "/r 1d20".toList "*999999999".toList 217) ∧
        (evaluate .highest (.whole 1000) command ()).outcome = .ok result ∧
        result.critical = some .success ∧
        (answer .highest (.whole 1000) "Ana" command ()).outcome = .ok reply ∧
        (Reply.head "Ana" (toString result.total)).length +
          ("\n" ++ Critical.success.message).length = 2000 ∧
        ¬("\n" ++ Critical.success.message).toList <:+ reply.toList := by
  have hlimit : (Limit.whole 1000).BelowCap := by decide
  have hname : "Ana".length ≤ 32 := by decide
  have hdigits : digitCount (20 * 999999999 ^ 217) = 1955 := by
    have hle : digitCount (20 * 999999999 ^ 217) ≤ 1955 := by
      rw [Numeral.digitCount_le_iff (by decide)]
      decide +kernel
    have hgt : ¬digitCount (20 * 999999999 ^ 217) ≤ 1954 := by
      rw [Numeral.digitCount_le_iff (by decide)]
      decide +kernel
    exact Nat.le_antisymm hle (Nat.not_le.mp hgt)
  obtain ⟨result, heval, htotal, hcritical, hshown⟩ :=
    exists_evaluate_twenty_mul 217 (by rw [hdigits]; decide)
  have hhead : (Reply.head "Ana" (toString result.total)).length = 1970 := by
    have hnonneg : 0 ≤ result.total := by
      rw [htotal]
      decide +kernel
    rw [Reply.length_head, Numeral.length_toString_of_nonneg hnonneg, htotal, hdigits]
    rfl
  have hnote : ("\n" ++ Critical.success.message).length = 30 := rfl
  have hmark : Reply.shortened.length = 13 := rfl
  refine ⟨Generator.inRange_highest, hlimit, hname, _, result, _, rfl, heval, hcritical,
    outcome_answer_of_ok heval, ?_, ?_⟩
  · rw [hhead, hnote]
  · rw [String.toList_ofList, hcritical, Reply.foot_note_some,
      Reply.announcement_isSuffix_fit_iff (by decide), hhead, hnote, hmark, String.length_toList]
    omega

end DiceTable

end ChatDice
