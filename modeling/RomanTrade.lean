import RomanTrade.Text.Blank
import RomanTrade.Text.Uppercase
import RomanTrade.Numeral.Validity
import RomanTrade.Numeral.Value
import RomanTrade.Interpreter
import RomanTrade.Number.Binary64
import RomanTrade.Json.Text
import RomanTrade.Json.Number
import RomanTrade.Json.Skim
import RomanTrade.Settings.Document
import RomanTrade.Host.Desk
import RomanTrade.Settings.File
import RomanTrade.Dialogue
import RomanTrade.Main
import RomanTrade.Proofs.StatementGrammar
import RomanTrade.Proofs.InterpreterStep
import RomanTrade.Proofs.InterpreterRun
import RomanTrade.Proofs.StatementFrame
import RomanTrade.Proofs.SessionInvariant
import RomanTrade.Proofs.DialogueRun
import RomanTrade.Proofs.StraightLine
import RomanTrade.Proofs.WaitingInvariant
import RomanTrade.Proofs.NumeralRules
import RomanTrade.Proofs.NumeralLanguage
import RomanTrade.Proofs.NumeralTotal
import RomanTrade.Proofs.UnitPrice
import RomanTrade.Proofs.SessionAgreement
import RomanTrade.Proofs.PriceReadBack
import RomanTrade.Proofs.Quantity
import RomanTrade.Proofs.ZeroQuantity
import RomanTrade.Proofs.Refusal
import RomanTrade.Proofs.Resumption
import RomanTrade.Proofs.QuestionOrder
import RomanTrade.Proofs.ConsoleOutput
import RomanTrade.Proofs.WaitingConsole
import RomanTrade.Proofs.StatementNames
import RomanTrade.Proofs.Repetition
import RomanTrade.Proofs.ValuesAndPrices
import RomanTrade.Proofs.SessionEnding
import RomanTrade.Proofs.EscapedText
import RomanTrade.Proofs.SettingsDocument
import RomanTrade.Proofs.FileContent
import RomanTrade.Proofs.SettingsChanges
import RomanTrade.Proofs.SingleLines
import RomanTrade.Proofs.LogFileWarning
import RomanTrade.Proofs.LineReplies
import RomanTrade.Proofs.FileLoggingUnseen
import RomanTrade.Proofs.PriceDisplay
import RomanTrade.Proofs.PriceAnswers
import RomanTrade.Proofs.WholeCredits
import RomanTrade.Proofs.FileGrowth
import RomanTrade.Proofs.LogFileGrowth
import RomanTrade.Proofs.SessionRecords
import RomanTrade.Proofs.SessionFiles
import RomanTrade.Proofs.LogFileContent
import RomanTrade.Proofs.DialogueEvents
import RomanTrade.Proofs.SessionTranscript
import RomanTrade.Proofs.LineClassification
import RomanTrade.Proofs.NumeralGroups
import RomanTrade.Proofs.CanonicalNumerals
import RomanTrade.Proofs.NumeralRuns
import RomanTrade.Proofs.FirstViolation
import RomanTrade.Proofs.EchoedTokens
import RomanTrade.Proofs.AmountReading
import RomanTrade.Proofs.LoopTranscript
import RomanTrade.Proofs.DecimalPlaces
import RomanTrade.Proofs.PriceText
import RomanTrade.Proofs.ControlSequences
import RomanTrade.Proofs.Centering
import RomanTrade.Proofs.RefusedDefinitions
import RomanTrade.Proofs.JournalCalls
import RomanTrade.Proofs.LogFileAttempt
