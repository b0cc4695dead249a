import ChatDice.Chat.DiceTable
import ChatDice.Proofs.Capping
import ChatDice.Proofs.Rejections

/-!
# Replies and the length of a message

A success that is too long for a message is shortened in its breakdown, and where head, mark and
foot alone are too long, the whole text is cut (`Reply.fit_of_le`, `Reply.fit_of_room`,
`Reply.fit_of_crowded`). So it is never too long (`Reply.length_fit_le`). A failure is a few fixed
words with the numbers of the rejection in them, and these are short: a count above the cap is read
as the cap, and the limit is below it (`Rejection.IsBrief.length_message_le`).

Main statement (`DiceTable.answer_within_limit`): every command is answered, and the answer is no
longer than a message may be, whatever the dice. A total that an evaluation gives has been printed
before, so it can be printed again.
-/

namespace ChatDice

open Numeral (cap)

/-! ### Shortening a success -/

namespace Reply

variable {head breakdown foot : List Char} {n : Nat}

/-- What is not too long is not shortened. -/
theorem fit_of_le (h : head.length + breakdown.length + foot.length ≤ n) :
    fit head breakdown foot (some n) = head ++ breakdown ++ foot := by
  have hnot : ¬(n : Int) < head.length + breakdown.length + foot.length := by omega
  simp only [fit, if_neg hnot]

/-- What is too long has its breakdown shortened, and is then cut at the length. -/
theorem fit_of_lt (h : n < head.length + breakdown.length + foot.length) :
    fit head breakdown foot (some n) =
      (head ++ (breakdown.take (n - head.length - foot.length - shortened.length) ++ shortened) ++
        foot).take n := by
  have hlt : (n : Int) < head.length + breakdown.length + foot.length := by omega
  have hroom : ((n : Int) - head.length - foot.length - shortened.length).toNat =
      n - head.length - foot.length - shortened.length := by omega
  simp only [fit, if_pos hlt, hroom, Slice.upTo_natCast]

/-- Where the mark has room, the breakdown makes way for it, and head and foot are whole. -/
theorem fit_of_room (h : n < head.length + breakdown.length + foot.length)
    (hroom : head.length + foot.length + shortened.length ≤ n) :
    fit head breakdown foot (some n) =
      head ++ (breakdown.take (n - head.length - foot.length - shortened.length) ++ shortened) ++
        foot := by
  rw [fit_of_lt h]
  apply List.take_of_length_le
  simp only [List.length_append, List.length_take]
  omega

/-- Where the mark has no room, nothing of the breakdown is left, and the text is cut. -/
theorem fit_of_crowded (h : n < head.length + breakdown.length + foot.length)
    (hcrowded : n < head.length + foot.length + shortened.length) :
    fit head breakdown foot (some n) = (head ++ shortened ++ foot).take n := by
  have hzero : n - head.length - foot.length - shortened.length = 0 := by omega
  rw [fit_of_lt h, hzero, List.take_zero, List.nil_append]

/-- The reply is no longer than asked for. -/
theorem length_fit_le : (fit head breakdown foot (some n)).length ≤ n := by
  rcases Nat.lt_or_ge n (head.length + breakdown.length + foot.length) with hlt | hge
  · rw [fit_of_lt hlt]
    exact List.length_take_le _ _
  · rw [fit_of_le hge]
    simp only [List.length_append]
    omega

end Reply

/-! ### What is said about a rejection -/

/-- A rejection that shows no number of a command that is longer than a count may be: it shows the
limit, or counts up to the cap, or no number of the command at all. -/
def Rejection.IsBrief (limit : Limit) : Rejection → Prop
  | .tooManyDice shown => shown = limit
  | .modifierTooLarge selected dice => 0 ≤ dice ∧ dice ≤ cap ∧ 0 ≤ selected ∧ selected ≤ cap
  | _ => True

/-- How commands are written takes at most 250 characters. -/
theorem Rejection.length_usage_le : usage.length ≤ 250 := by
  unfold usage
  rw [String.length_append, String.length_append, String.length_append, String.length_append]
  decide +kernel

/-- The message of such a rejection is short, if the limit is. -/
theorem Rejection.IsBrief.length_message_le {n : Int} (hnonneg : 0 ≤ n) (hle : n ≤ cap)
    {why : Rejection} (h : why.IsBrief (.whole n)) : why.message.length ≤ 250 := by
  cases why with
  | malformed fault => exact length_usage_le
  | tooManyDice shown =>
    have hshown : shown = .whole n := h
    have hnumber := Numeral.length_toString_le_of_le_cap hnonneg hle
    have hwords : "O número de dados não pode ser maior que ".length = 41 := rfl
    rw [hshown]
    calc ("O número de dados não pode ser maior que " ++ toString n).length
        = 41 + (toString n).length := by rw [String.length_append, hwords]
      _ ≤ 41 + 11 := Nat.add_le_add_left hnumber 41
      _ ≤ 250 := by decide
  | noDice =>
    have hwords : noDice.message.length ≤ 250 := by decide +kernel
    exact hwords
  | badSides sides =>
    have hwords : "O número de lados deve ser maior que zero.".length ≤ 250 := by decide +kernel
    exact hwords
  | modifierTooLarge selected dice =>
    obtain ⟨hdice, hdice', hselected, hselected'⟩ := h
    have hdice := Numeral.length_toString_le_of_le_cap hdice hdice'
    have hselected := Numeral.length_toString_le_of_le_cap hselected hselected'
    have htext : (modifierTooLarge selected dice).message =
        "O modificador não pode manter ou soltar mais dados (" ++ toString selected ++
          ") do que os rolados (" ++ toString dice ++ ")." := rfl
    have hwords : "O modificador não pode manter ou soltar mais dados (".length = 52 := rfl
    have hwords' : ") do que os rolados (".length = 21 := rfl
    have hwords'' : ").".length = 2 := rfl
    rw [htext, String.length_append, String.length_append, String.length_append,
      String.length_append, hwords, hwords', hwords'']
    -- What is left is about the two numbers only.
    clear htext hwords hwords' hwords''
    omega
  | divisionByZero =>
    have hwords : divisionByZero.message.length ≤ 250 := by decide +kernel
    exact hwords

/-- A group of dice with counts up to the cap is out of range for counts up to the cap. -/
theorem DiceSpec.isBrief_of_check_capCounts {spec : DiceSpec} {limit : Limit} {why : Rejection}
    (h : spec.capCounts.check limit = .error (.rejected why)) : why.IsBrief limit := by
  obtain ⟨count, sides, m⟩ := spec
  have hcap : (0 : Int) ≤ cap := by decide
  cases m with
  | none =>
    unfold check capCounts at h
    dsimp only [Option.map_none] at h
    repeat' split at h
    all_goals cases h
    · trivial
    · rfl
    · trivial
  | some m =>
    unfold check capCounts Modifier.capCount at h
    dsimp only [Option.map_some] at h
    repeat' split at h
    all_goals cases h
    · trivial
    · rfl
    · trivial
    · refine ⟨?_, Int.min_le_right _ _, ?_, Int.min_le_right _ _⟩ <;> omega

namespace Command

/-- What the reader reports is brief. -/
theorem isBrief_of_parse {limit : Limit} {command : List Char} {why : Rejection}
    (h : parse limit command = .error (.rejected why)) : why.IsBrief limit := by
  obtain ⟨_, heq, -, h⟩ | ⟨hcon, -⟩ := rejected_or_unprintable_of_parse h
  case inr => cases hcon
  cases heq
  cases hread : readTerms command with
  | error failure =>
    obtain ⟨fault, rfl⟩ := malformed_of_readTermsWith hread
    rw [parseWith_of_error hread] at h
    cases h
    trivial
  | ok terms =>
    obtain ⟨full, rfl⟩ := exists_capCounts_of_readTerms hread
    rw [parseWith_of_ok limit hread] at h
    rcases bind_eq_error_iff.mp h with hcheck | ⟨_, -, h⟩
    · obtain ⟨term, hmem, hterm⟩ := exists_mem_of_checkTerms hcheck
      obtain ⟨⟨operator, p⟩, -, rfl⟩ := List.mem_map.mp hmem
      cases p with
      | literal n => cases hterm
      | dice spec => exact DiceSpec.isBrief_of_check_capCounts hterm
    · cases h

end Command

section evaluation

variable {σ : Type} {g : Generator σ} {limit : Limit} {command : String} {s : σ}

/-- What a command is turned down for is told in brief, whatever the dice. -/
theorem Rejection.isBrief_of_evaluate {why : Rejection}
    (h : (evaluate g limit command s).outcome = .error (.rejected why)) : why.IsBrief limit := by
  cases hparse : Command.parse limit command.toList with
  | error failure =>
    rw [outcome_evaluate_of_error hparse] at h
    cases h
    exact Command.isBrief_of_parse hparse
  | ok terms =>
    rw [outcome_evaluate_of_parse hparse, outcome_evaluateTerms_eq_rejected_iff] at h
    have hmem := (Command.wellFormed_of_parse hparse).operator_mem
    rcases unprintable_or_divisionByZero_of_tally hmem h with hwhy | hwhy
    · cases hwhy
    · cases hwhy
      trivial

/-- A roll that succeeds has printed its total. -/
theorem isPrintable_of_evaluateTerms {terms : List Term} {result : RollResult}
    (h : (evaluateTerms g terms s).outcome = .ok result) :
    Numeral.isPrintable result.total = true := by
  unfold evaluateTerms at h
  dsimp only at h
  split at h
  · cases h
  next account htally =>
  cases hprint : account.result.printTotal with
  | error failure =>
    simp only [hprint] at h
    cases h
  | ok text =>
    simp only [hprint] at h
    cases h
    exact (compose_eq_ok_iff.mp hprint).1 _ List.mem_cons_self

/-- A command that gives a result has printed its total. -/
theorem isPrintable_of_evaluate {result : RollResult}
    (h : (evaluate g limit command s).outcome = .ok result) :
    Numeral.isPrintable result.total = true := by
  obtain ⟨terms, -, hterms⟩ := exists_parse_of_evaluate h
  exact isPrintable_of_evaluateTerms hterms

/-- So the total can be printed again. -/
theorem print?_of_evaluate {result : RollResult}
    (h : (evaluate g limit command s).outcome = .ok result) :
    Numeral.print? result.total = some (toString result.total) :=
  Numeral.print?_of_isPrintable (isPrintable_of_evaluate h)

/-- And it can be put into a text. -/
theorem printTotal_of_evaluate {result : RollResult}
    (h : (evaluate g limit command s).outcome = .ok result) :
    result.printTotal = .ok (toString result.total) :=
  compose_of_forall (List.forall_mem_singleton.mpr (isPrintable_of_evaluate h)) _

end evaluation

/-! ### Answers -/

namespace Reply

/-- The length of a message as a number of characters. -/
theorem messageLimit_eq : messageLimit = ((2000 : Nat) : Int) := rfl

/-- The length of a reply that explains a failure. -/
theorem length_failure (name message : String) :
    (failure name message).length = name.length + message.length + 31 := by
  have hwords : ", aconteceu um erro interno...\n".length = 31 := rfl
  rw [failure, String.length_append, String.length_append, hwords]
  exact Nat.add_right_comm _ _ _

end Reply

namespace DiceTable

variable {σ : Type} {g : Generator σ} {limit : Limit} {command : String} {s : σ} {name : String}

/-- A roll is answered with its total, its breakdown and its announcement. -/
theorem outcome_answer_of_ok {result : RollResult}
    (h : (evaluate g limit command s).outcome = .ok result) :
    (answer g limit name command s).outcome =
      .ok (String.ofList (Reply.fit (Reply.head name (toString result.total)).toList
        result.breakdown.toList (Reply.foot (Critical.note result.critical)).toList
        (some (2000 : Nat)))) := by
  simp only [answer, toPlay_evaluateWith_none, h, printTotal_of_evaluate h]
  unfold Reply.success
  rw [print?_of_evaluate h, Reply.messageLimit_eq]

/-- A rejection is explained. -/
theorem outcome_answer_of_rejected {why : Rejection}
    (h : (evaluate g limit command s).outcome = .error (.rejected why)) :
    (answer g limit name command s).outcome = .ok (Reply.failure name why.message) := by
  simp only [answer, toPlay_evaluateWith_none, h]

/-- Any other failure is passed over in general terms. -/
theorem outcome_answer_of_unforeseen {failure : Failure}
    (h : (evaluate g limit command s).outcome = .error failure)
    (hne : ∀ why, failure ≠ .rejected why) :
    (answer g limit name command s).outcome = .ok (Reply.failure name genericMessage) := by
  cases failure with
  | rejected why => exact absurd rfl (hne why)
  | notNumeral text => simp only [answer, toPlay_evaluateWith_none, h]
  | unprintable => simp only [answer, toPlay_evaluateWith_none, h]

/-- **Always answered, and never at too great a length.** Whatever the command and however its dice
fall, within their range or not, a person with a name of at most thirty-two characters is answered,
in at most two thousand characters. A roll is answered with its total in print, a rejection with its
message, and any other failure in general terms. -/
theorem answer_within_limit {n : Int} (hone : 1 ≤ n) (hlt : n < cap) {name : String}
    (hname : name.length ≤ 32) (g : Generator σ) (command : String) (s : σ) :
    (∃ reply, (answer g (.whole n) name command s).outcome = .ok reply ∧ reply.length ≤ 2000) ∧
    (∀ result, (evaluate g (.whole n) command s).outcome = .ok result →
      Numeral.print? result.total = some (toString result.total)) ∧
    (∀ why, (evaluate g (.whole n) command s).outcome = .error (.rejected why) →
      (answer g (.whole n) name command s).outcome = .ok (Reply.failure name why.message)) ∧
    ∀ failure, (evaluate g (.whole n) command s).outcome = .error failure →
      (∀ why, failure ≠ .rejected why) →
        (answer g (.whole n) name command s).outcome =
          .ok (Reply.failure name genericMessage) := by
  refine ⟨?_, fun result => print?_of_evaluate, fun why => outcome_answer_of_rejected,
    fun failure => outcome_answer_of_unforeseen⟩
  cases heval : (evaluate g (.whole n) command s).outcome with
  | ok result =>
    refine ⟨_, outcome_answer_of_ok heval, ?_⟩
    rw [String.length_ofList]
    exact Reply.length_fit_le
  | error failure =>
    by_cases hrejected : ∃ why, failure = .rejected why
    · obtain ⟨why, rfl⟩ := hrejected
      refine ⟨_, outcome_answer_of_rejected heval, ?_⟩
      have hmessage := (Rejection.isBrief_of_evaluate heval).length_message_le
        (Int.le_trans (by decide) hone) (Int.le_of_lt hlt)
      rw [Reply.length_failure]
      omega
    · refine ⟨_, outcome_answer_of_unforeseen heval fun why h => hrejected ⟨why, h⟩, ?_⟩
      have hwords : genericMessage.length = 28 := rfl
      rw [Reply.length_failure]
      omega

/-- A modifier that counts more dice than can be reported is explained, with the cap in its place.
-/
theorem answer_within_limit_modifier :
    (1 : Int) ≤ 1000 ∧ (1000 : Int) < cap ∧ "Ana".length ≤ 32 ∧
      (evaluate .highest (.whole 1000) "/r 2d6m12345678901" ()).outcome =
        .error (.rejected (.modifierTooLarge 1000000000 2)) ∧
      ∃ reply, (answer .highest (.whole 1000) "Ana" "/r 2d6m12345678901" ()).outcome = .ok reply ∧
        reply.length ≤ 2000 ∧
        reply = Reply.failure "Ana" (Rejection.modifierTooLarge 1000000000 2).message := by
  have hone : (1 : Int) ≤ 1000 := by decide
  have hlt : (1000 : Int) < cap := by decide
  have hname : "Ana".length ≤ 32 := by decide
  have heval : (evaluate .highest (.whole 1000) "/r 2d6m12345678901" ()).outcome =
      .error (.rejected (.modifierTooLarge 1000000000 2)) := by decide +kernel
  obtain ⟨⟨reply, hreply, hlength⟩, -, hrejected, -⟩ := answer_within_limit hone hlt hname
    .highest "/r 2d6m12345678901" ()
  have hsame := hreply.symm.trans (hrejected _ heval)
  exact ⟨hone, hlt, hname, heval, reply, hreply, hlength, Except.ok.inj hsame⟩

end DiceTable

end ChatDice
