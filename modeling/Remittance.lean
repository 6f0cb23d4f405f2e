import Remittance.Report.Payload
import Remittance.Service
import Remittance.Settings
import Remittance.Settlement.Unscreened
import Remittance.Proofs.UpperCase
import Remittance.Proofs.SentencePositions
import Remittance.Proofs.SentenceForms
import Remittance.Proofs.Requirement
import Remittance.Proofs.Acceptance
import Remittance.Proofs.Screening
import Remittance.Proofs.Settlement
import Remittance.Proofs.Judgement
import Remittance.Proofs.Precedence
import Remittance.Proofs.Conservation
import Remittance.Proofs.Timing
import Remittance.Proofs.FailureReport
import Remittance.Proofs.DecimalText
import Remittance.Proofs.Rounding
import Remittance.Proofs.FractionalAmount
import Remittance.Proofs.Conversions
import Remittance.Proofs.Conformance
import Remittance.Proofs.Outcomes
import Remittance.Proofs.FormSymmetry
import Remittance.Proofs.TrailHistory
import Remittance.Proofs.Notices
import Remittance.Proofs.ReportDigits
import Remittance.Proofs.Posting
import Remittance.Proofs.Accounting
import Remittance.Proofs.Comparison
import Remittance.Proofs.Bystanders
import Remittance.Proofs.AccountOrder
import Remittance.Proofs.WordRuns
import Remittance.Proofs.Spacing
import Remittance.Proofs.DayText
import Remittance.Proofs.Deferral
import Remittance.Proofs.ReadBack
import Remittance.Proofs.NormalForm
import Remittance.Proofs.OneCurrency
import Remittance.Proofs.Reversal
import Remittance.Proofs.WholeMagnitude
import Remittance.Proofs.DecimalInteger
import Remittance.Proofs.DaySpelling
import Remittance.Proofs.ScreeningVerdict
import Remittance.Proofs.SettlementOutcome
import Remittance.Proofs.SentenceVerdict
import Remittance.Proofs.NumberBases
import Remittance.Proofs.FloatText
import Remittance.Proofs.AmountWords
import Remittance.Proofs.ShortestText
import Remittance.Proofs.ShownAmount
import Remittance.Proofs.CalendarRules
import Remittance.Proofs.MaximalRuns
import Remittance.Proofs.LetterCase
import Remittance.Proofs.OutcomeRecords
import Remittance.Proofs.Containment
