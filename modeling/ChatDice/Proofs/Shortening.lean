import ChatDice.Proofs.Replies

/-!
# How a success is shortened

A success is head, breakdown and foot. Where these fit within the length that is allowed, they are
the text; where no length is given, they always are. Where they do not fit, a mark takes the place
of the end of the breakdown, and as much of the breakdown stays as leaves the text just as long as
it may be (`Reply.fit_eq_shown`). Where the mark has no room even with nothing of the breakdown
left, the text is cut at its end (`Reply.fit_of_crowded`).

Main statement (`Reply.success_shortened_exactly`): this for every name, breakdown and announcement
and every total that can be printed.
-/

namespace ChatDice.Reply

open Numeral (digitCount maxPrintedDigits)

variable {head breakdown foot : List Char} {n : Nat}

/-! ### Texts as lists -/

/-- A text is whole exactly if it fits. -/
theorem fit_eq_whole_iff :
    fit head breakdown foot (some n) = head ++ breakdown ++ foot ↔
      head.length + breakdown.length + foot.length ≤ n := by
  constructor
  · intro h
    have hlength : (fit head breakdown foot (some n)).length ≤ n := length_fit_le
    rwa [h, List.length_append, List.length_append] at hlength
  · exact fit_of_le

/-- A text that does not fit, with room for the mark, is as long as it may be, and shows a proper
part of the breakdown. -/
theorem fit_eq_shown (h : n < head.length + breakdown.length + foot.length)
    (hroom : head.length + foot.length + shortened.length ≤ n) :
    (fit head breakdown foot (some n)).length = n ∧
      ∃ shown rest, breakdown = shown ++ rest ∧ rest ≠ [] ∧
        fit head breakdown foot (some n) = head ++ shown ++ shortened ++ foot := by
  obtain ⟨room, hn⟩ : ∃ room, n = head.length + foot.length + shortened.length + room :=
    Nat.exists_eq_add_of_le hroom
  have hlt : room < breakdown.length := by omega
  have hfit : fit head breakdown foot (some n) =
      head ++ breakdown.take room ++ shortened ++ foot := by
    have htake : n - head.length - foot.length - shortened.length = room := by omega
    rw [fit_of_room h hroom, htake, ← List.append_assoc]
  refine ⟨?_, breakdown.take room, breakdown.drop room, (List.take_append_drop _ _).symm, ?_, hfit⟩
  · rw [hfit]
    simp only [List.length_append, List.length_take]
    omega
  · intro hnil
    exact absurd (List.drop_eq_nil_iff.mp hnil) (Nat.not_le.mpr hlt)

/-! ### Successes -/

/-- A success whose total can be printed is head, breakdown and foot, fitted to the length. -/
theorem success_of_digitCount_le {total : Int} (h : digitCount total ≤ maxPrintedDigits)
    (name breakdown note : String) (length : Option Int) :
    success name total breakdown note length =
      .ok (String.ofList (fit (Reply.head name (toString total)).toList breakdown.toList
        (Reply.foot note).toList length)) := by
  unfold success
  rw [Numeral.print?_of_digitCount_le h]

/-- **Shortened exactly.** Let the total have at most 4300 digits. Without a length the text is
head, breakdown and foot. With one it is never longer, and it is head, breakdown and foot exactly if
these fit. Else, if there is room for head, mark and foot, it is as long as it may be and consists
of the head, a proper beginning of the breakdown, the mark and the foot; and if there is not, it is
as much as is allowed of head, mark and foot. -/
theorem success_shortened_exactly (name breakdown note : String) {total : Int}
    (htotal : digitCount total ≤ maxPrintedDigits) :
    let head := Reply.head name (toString total)
    let foot := Reply.foot note
    let mark := String.ofList shortened
    success name total breakdown note none = .ok (head ++ breakdown ++ foot) ∧
      ∀ n : ℕ, ∃ text, success name total breakdown note (some n) = .ok text ∧
        text.length ≤ n ∧
        (text = head ++ breakdown ++ foot ↔
          head.length + breakdown.length + foot.length ≤ n) ∧
        (n < head.length + breakdown.length + foot.length →
          (head.length + foot.length + mark.length ≤ n →
            text.length = n ∧ ∃ shown rest, breakdown = shown ++ rest ∧ rest ≠ "" ∧
              text = head ++ shown ++ mark ++ foot) ∧
          (n < head.length + foot.length + mark.length →
            text = String.ofList ((head ++ mark ++ foot).toList.take n))) := by
  intro head foot mark
  have hmark : mark.toList = shortened := String.toList_ofList
  refine ⟨?_, fun n => ⟨_, success_of_digitCount_le htotal name breakdown note (some n), ?_, ?_,
    fun hlt => ⟨fun hroom => ?_, fun hcrowded => ?_⟩⟩⟩
  · rw [success_of_digitCount_le htotal]
    simp only [fit, ← String.toList_append, String.ofList_toList, head, foot]
  · rw [String.length_ofList]
    exact length_fit_le
  · rw [← String.toList_inj, String.toList_ofList, String.toList_append, String.toList_append,
      fit_eq_whole_iff]
    simp only [String.length_toList, head, foot]
  · simp only [← String.length_toList, hmark] at hlt hroom
    obtain ⟨hlength, shown, rest, hbreakdown, hne, hfit⟩ := fit_eq_shown hlt hroom
    refine ⟨by rwa [String.length_ofList], String.ofList shown, String.ofList rest, ?_, ?_, ?_⟩
    · rw [← String.ofList_append, ← hbreakdown, String.ofList_toList]
    · simpa [← String.toList_inj] using hne
    · rw [hfit, ← String.toList_inj]
      simp only [String.toList_append, String.toList_ofList, hmark, head, foot]
  · simp only [← String.length_toList, hmark] at hlt hcrowded
    rw [fit_of_crowded hlt hcrowded]
    simp only [String.toList_append, hmark, head, foot]

/-- Most of a breakdown of seven dice makes way for the mark. -/
theorem success_shortened_exactly_seven_dice :
    digitCount 7 ≤ maxPrintedDigits ∧
      32 < (Reply.head "Ana" "7").length + "(1 + 1 + 1 + 1 + 1 + 1 + 1)".length +
        (Reply.foot "").length ∧
      (Reply.head "Ana" "7").length + (Reply.foot "").length +
        (String.ofList shortened).length ≤ 32 ∧
      ∃ text shown rest, success "Ana" 7 "(1 + 1 + 1 + 1 + 1 + 1 + 1)" "" (some (32 : ℕ)) =
          .ok text ∧
        text.length = 32 ∧ "(1 + 1 + 1 + 1 + 1 + 1 + 1)" = shown ++ rest ∧ rest ≠ "" ∧
        text = Reply.head "Ana" "7" ++ shown ++ String.ofList shortened ++ Reply.foot "" := by
  have hdigits : digitCount 7 ≤ maxPrintedDigits := by decide
  have hlong : 32 < (Reply.head "Ana" "7").length + "(1 + 1 + 1 + 1 + 1 + 1 + 1)".length +
      (Reply.foot "").length := by decide
  have hroom : (Reply.head "Ana" "7").length + (Reply.foot "").length +
      (String.ofList shortened).length ≤ 32 := by decide
  obtain ⟨-, hall⟩ :=
    success_shortened_exactly "Ana" "(1 + 1 + 1 + 1 + 1 + 1 + 1)" "" hdigits
  obtain ⟨text, htext, -, -, hcut⟩ := hall 32
  obtain ⟨hlength, shown, rest, hbreakdown, hne, heq⟩ := (hcut hlong).1 hroom
  exact ⟨hdigits, hlong, hroom, text, shown, rest, htext, hlength, hbreakdown, hne, heq⟩

end ChatDice.Reply
