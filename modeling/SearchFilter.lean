import SearchFilter.Main
import SearchFilter.ConditionTree.Navigation
import SearchFilter.Registry.Index
import SearchFilter.Proofs.Catalog.Acceptance
import SearchFilter.Proofs.Catalog.Built
import SearchFilter.Proofs.Catalog.Policies
import SearchFilter.Proofs.ConditionKey.Binds
import SearchFilter.Proofs.ConditionKey.Composition
import SearchFilter.Proofs.ConditionTree.Binds
import SearchFilter.Proofs.ConditionTree.Emptiness
import SearchFilter.Proofs.ConditionTree.EntryPoints
import SearchFilter.Proofs.ConditionTree.Groups
import SearchFilter.Proofs.ConditionTree.Invariants
import SearchFilter.Proofs.ConditionTree.Navigation
import SearchFilter.Proofs.ConditionTree.Order
import SearchFilter.Proofs.ConditionTree.Permission
import SearchFilter.Proofs.ConditionTree.Placeholders
import SearchFilter.Proofs.ConditionTree.Protection
import SearchFilter.Proofs.ConditionTree.Reapplying
import SearchFilter.Proofs.ConditionTree.Restoring
import SearchFilter.Proofs.ConditionTree.Structure
import SearchFilter.Proofs.ConditionTree.Templates
import SearchFilter.Proofs.ConditionTree.WellFormed
import SearchFilter.Proofs.ConditionTree.Withholding
import SearchFilter.Proofs.Fragment.Clauses
import SearchFilter.Proofs.Fragment.Nesting
import SearchFilter.Proofs.Vocabulary.Admissible
import SearchFilter.Proofs.Vocabulary.Identity
import SearchFilter.Proofs.Vocabulary.Preference
import SearchFilter.Proofs.Registry.Acceptance
import SearchFilter.Proofs.Registry.Naming
import SearchFilter.Proofs.ConditionTree.Following
import SearchFilter.Proofs.ConditionTree.Assignment
import SearchFilter.Proofs.ConditionTree.Writing
import SearchFilter.Proofs.ConditionTree.Independence
import SearchFilter.Proofs.ConditionTree.Neutrality
import SearchFilter.Proofs.Catalog.Declarations
import SearchFilter.Proofs.ConditionTree.Declarations
import SearchFilter.Proofs.Json.Ordered
import SearchFilter.Proofs.Json.Parts
import SearchFilter.Proofs.Numeric.Exact
import SearchFilter.Proofs.Params.Conversion
import SearchFilter.Proofs.Value.Integers
import SearchFilter.Proofs.Value.IntegerTexts
import SearchFilter.Proofs.Value.TimestampTexts
import SearchFilter.Proofs.CommandLine.Binds
import SearchFilter.Proofs.Identifier.Quoting
import SearchFilter.Proofs.Identifier.TableNames
import SearchFilter.Proofs.Value.Flags
import SearchFilter.Proofs.Time.Exclusion
