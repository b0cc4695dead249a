import ChatDice.Binary64
import ChatDice.Binary64.Shortest
import ChatDice.Bot.Basic
import ChatDice.Bot.Environment
import ChatDice.Bot.Program
import ChatDice.Bot.Root
import ChatDice.Chat.DiceTable
import ChatDice.Chat.Help
import ChatDice.Chat.Reply
import ChatDice.Command.Expression
import ChatDice.Command.Slices
import ChatDice.Command.TermText
import ChatDice.Command.Terms
import ChatDice.Dice.Arithmetic
import ChatDice.Dice.Evaluation
import ChatDice.Dice.Generator
import ChatDice.Dice.Limit
import ChatDice.Dice.Rejection
import ChatDice.Dice.Selection
import ChatDice.Dice.Term
import ChatDice.Files
import ChatDice.Files.Name
import ChatDice.Files.Path
import ChatDice.Json.Reader
import ChatDice.Json.Value
import ChatDice.Json.Writer
import ChatDice.Log.Journal
import ChatDice.Log.Record
import ChatDice.Main
import ChatDice.Numeral
import ChatDice.Proofs.Accounts
import ChatDice.Proofs.BetterDice
import ChatDice.Proofs.Blanks
import ChatDice.Proofs.BreakdownReading
import ChatDice.Proofs.CanonicalForm
import ChatDice.Proofs.Capping
import ChatDice.Proofs.CommandReading
import ChatDice.Proofs.CriticalRolls
import ChatDice.Proofs.Cuts
import ChatDice.Proofs.DeskRuns
import ChatDice.Proofs.Division
import ChatDice.Proofs.Draws
import ChatDice.Proofs.FormFirst
import ChatDice.Proofs.Grammar
import ChatDice.Proofs.Isolation
import ChatDice.Proofs.JournalRuns
import ChatDice.Proofs.JsonAtoms
import ChatDice.Proofs.JsonReading
import ChatDice.Proofs.JsonRoundTrip
import ChatDice.Proofs.JsonSoundness
import ChatDice.Proofs.JsonSpelling
import ChatDice.Proofs.KeptDice
import ChatDice.Proofs.Launching
import ChatDice.Proofs.LeftToRight
import ChatDice.Proofs.LimitValue
import ChatDice.Proofs.LoadedSettings
import ChatDice.Proofs.LogAndReply
import ChatDice.Proofs.LogFiles
import ChatDice.Proofs.LogLines
import ChatDice.Proofs.LoneTerms
import ChatDice.Proofs.Magnitude
import ChatDice.Proofs.MovedFiles
import ChatDice.Proofs.Numerals
import ChatDice.Proofs.OpenBrackets
import ChatDice.Proofs.Ranges
import ChatDice.Proofs.Recomputation
import ChatDice.Proofs.Reconfiguring
import ChatDice.Proofs.Rejections
import ChatDice.Proofs.Replies
import ChatDice.Proofs.Rolls
import ChatDice.Proofs.RoundTrip
import ChatDice.Proofs.SavedSettings
import ChatDice.Proofs.Saving
import ChatDice.Proofs.SettingsContents
import ChatDice.Proofs.Shortening
import ChatDice.Proofs.Spelling
import ChatDice.Proofs.TableSteps
import ChatDice.Proofs.TermByTerm
import ChatDice.Proofs.TermReading
import ChatDice.Proofs.WaysOfAsking
import ChatDice.Proofs.WholeReplies
import ChatDice.Proofs.WrittenFiles
import ChatDice.Settings.Basic
import ChatDice.Settings.Store
import ChatDice.Slice
import ChatDice.Text.Blank
import ChatDice.Text.Lines
import ChatDice.Text.Printable
import ChatDice.Text.Printable.Ranges
import ChatDice.Text.Quoted
import ChatDice.Text.Raw
import ChatDice.Text.Utf8
