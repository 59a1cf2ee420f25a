import Triparse.Script
import Triparse.Settings.Reader
import Triparse.Text.Index
import Triparse.Proofs.CountCheck
import Triparse.Proofs.CursorBounds
import Triparse.Proofs.SeparatedLists
import Triparse.Proofs.Termination
import Triparse.Proofs.Translation
import Triparse.Proofs.SettingsIndependence
import Triparse.Proofs.Spelling
import Triparse.Proofs.Erasure
import Triparse.Proofs.FailureUpdates
import Triparse.Proofs.InputShapes
import Triparse.Proofs.RecursiveDefinitions
import Triparse.Proofs.Reuse
import Triparse.Proofs.RulePrograms
import Triparse.Proofs.Payloads
import Triparse.Proofs.FailurePlaces
import Triparse.Proofs.ExactNumbers
import Triparse.Proofs.OrderedChoice
import Triparse.Proofs.IgnoredValues
import Triparse.Proofs.Scanning
import Triparse.Proofs.FixedCounts
import Triparse.Proofs.OptionalMatches
import Triparse.Proofs.Parentheses
import Triparse.Proofs.NestedGroups
import Triparse.Proofs.MissingClose
import Triparse.Proofs.OptionalShapes
import Triparse.Proofs.Rounds
import Triparse.Proofs.PatternGroups
import Triparse.Proofs.AnchoredPatterns
import Triparse.Proofs.CharacterRuns
import Triparse.Proofs.Regrouping
import Triparse.Proofs.Snippets
import Triparse.Proofs.TextIndex
