import ChatDice.Dice.Limit
import ChatDice.Text.Quoted

/-!
# Why a command is turned down

A command that cannot be rolled is *rejected*: its text is malformed, one of its numbers is out of
range, or it divides by zero. Every rejection has a message for the person who typed the command
and a detail for the log. The two agree except for malformed texts: there the person is shown how
commands are written, and the log is told what was wrong.

`Failure` adds the two ways in which a computation can stop that are nobody's mistake to explain: a
text that was expected to be a numeral and is none, and a number with too many digits to be printed
where it was to stand in a text. Every text with numbers in it is composed by `compose`, and the
message of a rejection, too, is composed before anybody is told (`Failure.reported`).
-/

namespace ChatDice

/-- What is wrong with a malformed text. -/
inductive FormatFault where
  /-- There is no command word, or no expression after it. -/
  | missingExpression (command : List Char)
  /-- The expression has no term. -/
  | noTerms (command : List Char)
  /-- The first term has an operator before it. -/
  | leadingOperator (slice : List Char)
  /-- A term that names dice does not describe a group of dice. -/
  | malformedDice (body : List Char)
  /-- The letters of a modifier stand for none. -/
  | unknownModifier (letters : List Char)
  /-- A term after the first has a modifier. -/
  | lateModifier (slice : List Char)
  /-- A term without dice is not a numeral. -/
  | malformedLiteral (body : List Char)
  /-- The sides of a die or a literal have too many digits. -/
  | tooManyDigits (digits : List Char)
  /-- A term is combined by a sign that is no operator. -/
  | unknownOperator (sign : String)
deriving DecidableEq, Repr

/-- How much of an overlong numeral its fault shows. -/
def shownDigits : Nat := 20

/-- The fault as the log tells it. Whatever a person may have typed freely is quoted. -/
def FormatFault.detail : FormatFault → String
  | missingExpression command => "prefixo ou expressão ausente: " ++ Text.quote command
  | noTerms command => "expressão vazia: " ++ Text.quote command
  | leadingOperator slice => "operador antes do primeiro termo: " ++ Text.quote slice
  | malformedDice body => "definição de dados inválida: " ++ Text.quote body
  | unknownModifier letters => "modificador inválido: " ++ Text.quote letters
  | lateModifier slice => "modificador fora do primeiro termo: " ++ Text.quote slice
  | malformedLiteral body => "valor numérico inválido: " ++ Text.quote body
  | tooManyDigits digits =>
    "número grande demais: " ++ String.ofList (digits.take shownDigits) ++ "..."
  | unknownOperator sign => "operador desconhecido: " ++ Text.quote sign.toList

/-- Why a command is turned down. -/
inductive Rejection where
  /-- The text is malformed. -/
  | malformed (fault : FormatFault)
  /-- A group has more dice than the limit. -/
  | tooManyDice (limit : Limit)
  /-- A group has no dice. -/
  | noDice
  /-- A die has no sides. -/
  | badSides (sides : Int)
  /-- A modifier counts more dice than the group has. -/
  | modifierTooLarge (selected dice : Int)
  /-- A total is divided by zero. -/
  | divisionByZero
deriving DecidableEq, Repr

namespace Rejection

/-- The message for every malformed command: how commands are written. -/
def usage : String :=
  "Formato de comando inválido. Exemplos:\n" ++
  "/r 2d20m1 (rola 2d20 mantendo o maior)\n" ++
  "/r 2d20mm1 (rola 2d20 mantendo o menor)\n" ++
  "/r 2d20sM1 (rola 2d20 soltando o maior)\n" ++
  "/r 2d20sm1 (rola 2d20 soltando o menor)"

/-- Whether every number in the message can be printed. -/
def isPrintable : Rejection → Bool
  | tooManyDice limit => limit.isPrintable
  | modifierTooLarge selected dice => Numeral.isPrintable selected && Numeral.isPrintable dice
  | _ => true

/-- The rejection as the person who typed the command is told. -/
def message : Rejection → String
  | malformed _ => usage
  | tooManyDice limit => "O número de dados não pode ser maior que " ++ limit.text
  | noDice => "O número de dados deve ser pelo menos 1"
  | badSides _ => "O número de lados deve ser maior que zero."
  | modifierTooLarge selected dice =>
    "O modificador não pode manter ou soltar mais dados (" ++ toString selected ++
      ") do que os rolados (" ++ toString dice ++ ")."
  | divisionByZero => "Não é possível dividir por zero."

/-- The rejection as the log is told. -/
def detail : Rejection → String
  | malformed fault => fault.detail
  | other => other.message

end Rejection

/-- Why a computation stops. -/
inductive Failure where
  /-- The command is turned down. -/
  | rejected (why : Rejection)
  /-- A text that should be a numeral is none. -/
  | notNumeral (text : List Char)
  /-- A number has too many digits to be printed. -/
  | unprintable
deriving DecidableEq, Repr

namespace Failure

/-- A command turned down because of its text. -/
abbrev malformed (fault : FormatFault) : Failure :=
  rejected (.malformed fault)

/-- The failure in words. -/
def text : Failure → String
  | rejected why => why.message
  | notNumeral text => "invalid literal for int() with base 10: " ++ Text.quote text
  | unprintable => Numeral.unprintableMessage

/-- The failure that is met where this one is reported. The message of a rejection is composed
first, and if a number in it cannot be printed, that is the failure. -/
def reported : Failure → Failure
  | rejected why => if why.isPrintable then rejected why else unprintable
  | other => other

/-- A rejection whose message can be composed is reported as it is. -/
theorem reported_rejected {why : Rejection} (h : why.isPrintable = true) :
    (rejected why).reported = rejected why :=
  if_pos h

/-- A limit that cannot be printed is met in place of its message. -/
theorem reported_tooManyDice {limit : Limit} (h : limit.isPrintable = false) :
    (rejected (.tooManyDice limit)).reported = unprintable := by
  have hwhy : (Rejection.tooManyDice limit).isPrintable = false := h
  rw [reported, hwhy]
  rfl

/-- A malformed text is reported as it is: its message holds no numbers. -/
@[simp] theorem reported_malformed (fault : FormatFault) :
    (malformed fault).reported = malformed fault :=
  rfl

end Failure

/-! ## Texts with numbers -/

/-- A text in which numbers stand. It cannot be composed if one of them has too many digits to be
printed. -/
def compose (numbers : List Int) (text : String) : Except Failure String :=
  if numbers.all Numeral.isPrintable then .ok text else .error .unprintable

/-- A text whose numbers can all be printed is composed. -/
theorem compose_of_forall {numbers : List Int} (h : ∀ n ∈ numbers, Numeral.isPrintable n = true)
    (text : String) : compose numbers text = .ok text :=
  if_pos (List.all_eq_true.2 h)

/-- What a text is composed from matters only as far as all of it can be printed. -/
theorem compose_congr {ms ns : List Int}
    (h : (∀ m ∈ ms, Numeral.isPrintable m = true) ↔ ∀ n ∈ ns, Numeral.isPrintable n = true)
    (text : String) : compose ms text = compose ns text := by
  have hall : ms.all Numeral.isPrintable = ns.all Numeral.isPrintable := by
    rw [Bool.eq_iff_iff, List.all_eq_true, List.all_eq_true]
    exact h
  rw [compose, compose, hall]

/-- A text that is composed after another one needs the numbers of both. -/
theorem compose_bind_compose (ms ns : List Int) (text text' : String) :
    ((compose ms text).bind fun _ => compose ns text') = compose (ms ++ ns) text' := by
  unfold compose
  rw [List.all_append]
  cases ms.all Numeral.isPrintable <;> rfl

/-- A text is not composed only because one of its numbers cannot be printed. -/
theorem compose_eq_error_iff {numbers : List Int} {text : String} {failure : Failure} :
    compose numbers text = .error failure ↔
      (∃ n ∈ numbers, Numeral.isPrintable n = false) ∧ failure = .unprintable := by
  unfold compose
  split
  · next h =>
    rw [List.all_eq_true] at h
    refine ⟨fun hcon => (nomatch hcon), ?_⟩
    rintro ⟨⟨n, hmem, hlong⟩, -⟩
    rw [h n hmem] at hlong
    cases hlong
  · next h =>
    rw [Bool.not_eq_true, List.all_eq_false] at h
    obtain ⟨n, hmem, hlong⟩ := h
    rw [Bool.not_eq_true] at hlong
    refine ⟨fun heq => ⟨⟨n, hmem, hlong⟩, (Except.error.inj heq).symm⟩, ?_⟩
    rintro ⟨-, rfl⟩
    rfl

/-- A composed text is the text, and all its numbers can be printed. -/
theorem compose_eq_ok_iff {numbers : List Int} {text text' : String} :
    compose numbers text = .ok text' ↔
      (∀ n ∈ numbers, Numeral.isPrintable n = true) ∧ text' = text := by
  unfold compose
  split
  · next h => exact ⟨fun heq => ⟨List.all_eq_true.1 h, (Except.ok.inj heq).symm⟩,
      fun ⟨_, heq⟩ => heq ▸ rfl⟩
  · next h => exact ⟨fun hcon => (nomatch hcon), fun hcon => absurd (List.all_eq_true.2 hcon.1) h⟩

end ChatDice
