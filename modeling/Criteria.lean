import Criteria.Derive.EntityCode
import Criteria.Derive.QueryCode
import Criteria.Settings
import Criteria.Statement
import Criteria.Proofs.Compilation.Contributions
import Criteria.Proofs.Compilation.Runs
import Criteria.Proofs.Compilation.Queries
import Criteria.Proofs.Compilation.Operations
import Criteria.Proofs.Naming.Alphabet
import Criteria.Proofs.Naming.Planned
import Criteria.Proofs.Placeholders.Conditions
import Criteria.Proofs.Paths.Database
import Criteria.Proofs.Paths.Meaning
import Criteria.Proofs.Parentheses.Outside
import Criteria.Proofs.Parentheses.Clauses
import Criteria.Proofs.Compilation.Groups
import Criteria.Proofs.Parentheses.Connectives
import Criteria.Proofs.Parentheses.Conditions
import Criteria.Proofs.Naming.Columns
import Criteria.Proofs.Rows.Pairs
import Criteria.Proofs.Rows.Statements
import Criteria.Proofs.Compilation.Traces
import Criteria.Proofs.Compilation.Shelves
import Criteria.Proofs.Compilation.Caches
import Criteria.Proofs.Compilation.Reports
import Criteria.Proofs.Compilation.Demands
import Criteria.Proofs.Patterns.Matching
import Criteria.Proofs.Templates.Readings
import Criteria.Proofs.Templates.Conditions
import Criteria.Proofs.Compilation.Accumulation
import Criteria.Proofs.Compilation.Misfits
import Criteria.Proofs.Compilation.Recasting
import Criteria.Proofs.Compilation.Locality
import Criteria.Proofs.Compilation.Flattening
import Criteria.Proofs.Naming.Cutting
import Criteria.Proofs.Naming.Suffixes
import Criteria.Proofs.Derive.Readings
import Criteria.Proofs.Naming.Qualifiers
import Criteria.Proofs.Orders.Items
import Criteria.Proofs.Derive.Implementations
import Criteria.Proofs.Derive.Families
import Criteria.Proofs.Rows.Identities
import Criteria.Proofs.Naming.Longest
import Criteria.Proofs.Paths.Tokens
import Criteria.Proofs.Paths.Positions
import Criteria.Proofs.Paths.Filters
import Criteria.Proofs.Compilation.Hops
import Criteria.Proofs.Rows.Agreements
import Criteria.Proofs.Naming.Verbatim
import Criteria.Proofs.Text.Parts
import Criteria.Proofs.Orders.Strictness
import Criteria.Proofs.Paths.Bridges
import Criteria.Proofs.Paths.Texts
import Criteria.Proofs.Paths.Identifiers
import Criteria.Proofs.Orders.Spellings
import Criteria.Proofs.Pages.Windows
import Criteria.Proofs.Parentheses.Paths
import Criteria.Proofs.Subqueries.Annotations
import Criteria.Proofs.Naming.Entities
import Criteria.Proofs.Naming.SnakeCase
import Criteria.Proofs.Naming.Overrides
import Criteria.Proofs.Naming.Compounds
import Criteria.Proofs.Derive.Lists
import Criteria.Proofs.Naming.Initials
