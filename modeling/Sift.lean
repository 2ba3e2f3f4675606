import Sift.Main
import Sift.Proofs.CommandLine.Selections
import Sift.Proofs.Expression.Acceptance
import Sift.Proofs.Expression.Alternatives
import Sift.Proofs.Expression.Arena
import Sift.Proofs.Expression.Checking
import Sift.Proofs.Expression.Completeness
import Sift.Proofs.Expression.Connectives
import Sift.Proofs.Expression.Depth
import Sift.Proofs.Expression.Division
import Sift.Proofs.Expression.Dumping
import Sift.Proofs.Expression.Information
import Sift.Proofs.Expression.Insertion
import Sift.Proofs.Expression.Levels
import Sift.Proofs.Expression.Lookups
import Sift.Proofs.Expression.Paths
import Sift.Proofs.Expression.Ranges
import Sift.Proofs.Expression.Regrouping
import Sift.Proofs.Expression.Runs
import Sift.Proofs.Expression.Soundness
import Sift.Proofs.Expression.Spines
import Sift.Proofs.Expression.Wrapping
import Sift.Proofs.Language.Completeness
import Sift.Proofs.Language.Grammar
import Sift.Proofs.Language.Layout
import Sift.Proofs.Language.Lines
import Sift.Proofs.Language.Literals
import Sift.Proofs.Language.Phrases
import Sift.Proofs.Language.Progress
import Sift.Proofs.Language.Sentences
import Sift.Proofs.Language.Soundness
import Sift.Proofs.Language.Viability
import Sift.Proofs.Lookup
import Sift.Proofs.Pattern.Direct
import Sift.Proofs.Pattern.Like
import Sift.Proofs.Pattern.Reading
import Sift.Proofs.Query.Binding
import Sift.Proofs.Query.Dependence
import Sift.Proofs.Query.Resolution
import Sift.Proofs.Query.Selection
import Sift.Proofs.Query.Strategies
import Sift.Proofs.Reflection.Ancestry
import Sift.Proofs.Reflection.Assignment
import Sift.Proofs.Reflection.Memory
import Sift.Proofs.Reflection.Overloads
import Sift.Proofs.Reflection.Reach
import Sift.Proofs.Staff.Generation
import Sift.Proofs.Staff.Saving
import Sift.Proofs.Staff.Traits
import Sift.Proofs.Value.Order
import Sift.Record
import Sift.Reflection.Summary
