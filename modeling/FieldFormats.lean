import FieldFormats.Alpha3
import FieldFormats.Calendar.Moment
import FieldFormats.Calendar.Temporal
import FieldFormats.Calendar.WordDate
import FieldFormats.Currency.Verdict
import FieldFormats.Iban.PatternReading
import FieldFormats.Iban.Verdict
import FieldFormats.OneOf
import FieldFormats.Phone
import FieldFormats.Proofs.ActiveTables
import FieldFormats.Proofs.AsciiText
import FieldFormats.Proofs.CallEffects
import FieldFormats.Proofs.CheckNumeral
import FieldFormats.Proofs.CountryRestriction
import FieldFormats.Proofs.CurrencyIndexes
import FieldFormats.Proofs.FailedLogging
import FieldFormats.Proofs.FirstBuild
import FieldFormats.Proofs.FirstUseOrder
import FieldFormats.Proofs.GrammarCompilation
import FieldFormats.Proofs.GrammarReading
import FieldFormats.Proofs.IbanVerdicts
import FieldFormats.Proofs.IssuedIbans
import FieldFormats.Proofs.MaskedLogs
import FieldFormats.Proofs.NumberReading
import FieldFormats.Proofs.PresenceContract
import FieldFormats.Proofs.Provenance
import FieldFormats.Proofs.RegistryContents
import FieldFormats.Proofs.RegistryLoading
import FieldFormats.Proofs.TableReading
import FieldFormats.Session.Step
import FieldFormats.Iban.WordRemainder
import FieldFormats.Proofs.ExactRemainder
import FieldFormats.Proofs.TypingErrors
import FieldFormats.Session.Replacement
import FieldFormats.Proofs.ReplacementEffects
import FieldFormats.Proofs.ReplacementOrder
import FieldFormats.Iban.WordGrammar
import FieldFormats.Proofs.GrammarAcceptance
import FieldFormats.Proofs.RecordPlaces
import FieldFormats.Proofs.RecordLines
import FieldFormats.Proofs.FinalNewline
import FieldFormats.Proofs.InstantVerdicts
import FieldFormats.Proofs.IsoForms
import FieldFormats.Proofs.DateReading
import FieldFormats.Proofs.DateTimeReading
import FieldFormats.Proofs.DayCount
import FieldFormats.Proofs.CodeSearch
import FieldFormats.Proofs.Faults
import FieldFormats.Proofs.FaultOrder
import FieldFormats.Proofs.ReportedEvents
import FieldFormats.Proofs.InstallationLog
import FieldFormats.Proofs.LoggedValues
import FieldFormats.Proofs.JsonReading
