import RequestQuery.CommandLine
import RequestQuery.Engine
import RequestQuery.Main
import RequestQuery.Proofs.PredicateTree
import RequestQuery.Proofs.Traversal
import RequestQuery.Statement.Render
import RequestQuery.Proofs.FilterTree
import RequestQuery.Proofs.FilterMeaning
import RequestQuery.Proofs.NamedSource
import RequestQuery.Proofs.FilterAccess
import RequestQuery.Proofs.StatementTokens
import RequestQuery.Proofs.TokenPhrases
import RequestQuery.Proofs.Rendering
import RequestQuery.Proofs.TokenInduction
import RequestQuery.Proofs.StatementText
import RequestQuery.Proofs.Placeholders
import RequestQuery.Proofs.StatementWords
import RequestQuery.Proofs.ConditionGrammar
import RequestQuery.Proofs.ConditionReading
import RequestQuery.Proofs.Edits
import RequestQuery.Proofs.CallEdits
import RequestQuery.Proofs.CallHistory
import RequestQuery.Proofs.FieldCondition
import RequestQuery.Proofs.Writability
import RequestQuery.Proofs.RequestCalls
import RequestQuery.Proofs.FilterAcceptance
import RequestQuery.Proofs.SortSteps
import RequestQuery.Proofs.StatementNames
import RequestQuery.Proofs.ValueIndependence
import RequestQuery.Proofs.NullValues
import RequestQuery.Proofs.SubqueryScopes
import RequestQuery.Proofs.CharacterTables
import RequestQuery.Proofs.FoldedText
import RequestQuery.Proofs.SpacedText
import RequestQuery.Proofs.SearchTerms
import RequestQuery.Proofs.CallEffects
import RequestQuery.Proofs.StoreIndependence
import RequestQuery.Proofs.FilterParameters
import RequestQuery.Proofs.ReservedNames
import RequestQuery.Proofs.OperatorParameters
import RequestQuery.Proofs.OperatorFamilies
import RequestQuery.Proofs.PredicateForm
import RequestQuery.Proofs.StatementConstants
import RequestQuery.Proofs.PredicateDepth
import RequestQuery.Proofs.SettingsStore
import RequestQuery.Proofs.SettingsShape
import RequestQuery.Proofs.SettingsRoundTrip
import RequestQuery.Proofs.SettingsKeys
import RequestQuery.Proofs.FilterRoundTrip
import RequestQuery.Proofs.PatternLanguage
import RequestQuery.Proofs.PatternMatching
import RequestQuery.Proofs.CivilCalendar
import RequestQuery.Proofs.DateRanges
import RequestQuery.Proofs.PeriodDays
import RequestQuery.Proofs.DateTexts
import RequestQuery.Proofs.SearchMeaning
import RequestQuery.Proofs.SearchTokens
import RequestQuery.Proofs.RangeBounds
import RequestQuery.Proofs.SortPlans
import RequestQuery.Proofs.SortDirectives
import RequestQuery.Proofs.SortTexts
import RequestQuery.Proofs.DecimalRounding
import RequestQuery.Proofs.DecimalNumerals
import RequestQuery.Proofs.IntegerCast
import RequestQuery.Proofs.PathResolution
import RequestQuery.Proofs.PageWindows
import RequestQuery.Proofs.NegatedOperators
import RequestQuery.Proofs.ImpliedOperators
import RequestQuery.Proofs.CalendarLimits
import RequestQuery.Proofs.OperandShapes
import RequestQuery.Proofs.JsonEquality
import RequestQuery.Proofs.MembershipValues
