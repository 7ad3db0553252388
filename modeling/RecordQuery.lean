import RecordQuery.Json.Query
import RecordQuery.Main
import RecordQuery.Proofs.LongestKey
import RecordQuery.Proofs.ConditionText
import RecordQuery.Proofs.Traversal
import RecordQuery.Proofs.TestMaking
import RecordQuery.Proofs.Chain
import RecordQuery.Proofs.Coercion
import RecordQuery.Proofs.Refusal
import RecordQuery.Proofs.FieldKinds
import RecordQuery.Proofs.Selection
import RecordQuery.Proofs.FilterStages
import RecordQuery.Proofs.QueryText
import RecordQuery.Proofs.SpelledLiteral
import RecordQuery.Proofs.Transmission
import RecordQuery.Proofs.OperandShape
import RecordQuery.Proofs.Wildcards
import RecordQuery.Proofs.PatternExpression
import RecordQuery.Proofs.PatternSize
import RecordQuery.Proofs.TextToFilter
import RecordQuery.Proofs.Construction
import RecordQuery.Proofs.Membership
import RecordQuery.Proofs.Comparison
import RecordQuery.Proofs.Exchange
import RecordQuery.Proofs.JoinedText
import RecordQuery.Proofs.Searches
import RecordQuery.Proofs.NearestRank
import RecordQuery.Proofs.RoundedInteger
import RecordQuery.Proofs.NumberOrder
import RecordQuery.Proofs.ExactValue
import RecordQuery.Proofs.IntegerText
import RecordQuery.Proofs.DecimalForms
import RecordQuery.Proofs.ListElements
import RecordQuery.Proofs.Diagnosis
import RecordQuery.Proofs.DateFields
import RecordQuery.Proofs.MissingFields
import RecordQuery.Proofs.ClockTimes
import RecordQuery.Proofs.CalendarDays
import RecordQuery.Proofs.DateText
import RecordQuery.Proofs.JsonText
import RecordQuery.Proofs.SameMoment
import RecordQuery.Proofs.CheckForms
import RecordQuery.Proofs.SaturatedTimes
import RecordQuery.Proofs.JsonShape
import RecordQuery.Proofs.FramedNumbers
import RecordQuery.Proofs.JsonNumbers
import RecordQuery.Proofs.Refiltering
