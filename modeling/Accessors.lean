import Accessors.Getters.Derivation
import Accessors.Json.Value
import Accessors.Property.Catalogue
import Accessors.Service.Health
import Accessors.Service.Logging
import Accessors.Proofs.Getters.CamelCase
import Accessors.Proofs.Property.Lookup
import Accessors.Proofs.Token.Leaves
import Accessors.Proofs.Token.WellFormed
import Accessors.Proofs.Grammar.Leaves
import Accessors.Proofs.Declaration.Leaves
import Accessors.Proofs.Getters.Kept
import Accessors.Proofs.Getters.SnakeCase
import Accessors.Proofs.Grammar.Taken
import Accessors.Proofs.Token.Pieces
import Accessors.Proofs.Token.StringValue
import Accessors.Proofs.Grammar.TypeTaken
import Accessors.Proofs.Grammar.Runs
import Accessors.Proofs.Declaration.Fields
import Accessors.Proofs.Getters.Outline
import Accessors.Proofs.Getters.ReadBack
import Accessors.Proofs.Text.CaseTables
import Accessors.Proofs.Text.Capitals
import Accessors.Proofs.Getters.Words
import Accessors.Proofs.Getters.Underscores
import Accessors.Proofs.Getters.Identified
import Accessors.Proofs.Getters.Collisions
import Accessors.Proofs.Declaration.Undecorated
import Accessors.Proofs.Property.TwoWays
import Accessors.Proofs.Getters.Verdict
import Accessors.Proofs.Text.Digits
import Accessors.Proofs.Text.Folded
import Accessors.Proofs.Service.Settings
import Accessors.Proofs.Token.Spacing
import Accessors.Proofs.Grammar.Settled
import Accessors.Proofs.Grammar.TypeSettled
import Accessors.Proofs.Declaration.Headers
import Accessors.Proofs.Getters.Unseen
import Accessors.Proofs.Service.Loading
import Accessors.Proofs.Json.ReadBack
import Accessors.Proofs.FirstError
import Accessors.Proofs.Property.Outcome
import Accessors.Proofs.Service.Directives
import Accessors.Proofs.Service.Starting
import Accessors.Proofs.Json.Object
import Accessors.Proofs.Service.Answers
import Accessors.Proofs.Getters.SkipItems
import Accessors.Proofs.Getters.SkipReading
import Accessors.Proofs.Property.FixedNames
import Accessors.Proofs.Getters.ValidNames
import Accessors.Proofs.Grammar.LawfulRules
import Accessors.Proofs.Grammar.Printed
import Accessors.Proofs.Property.Renamed
import Accessors.Proofs.Property.Displayed
import Accessors.Proofs.Property.Rendered
import Accessors.Proofs.Text.Utf8
import Accessors.Proofs.Property.Ordered
import Accessors.Proofs.Service.Deciding
import Accessors.Proofs.Service.InForce
import Accessors.Proofs.Service.PortVariable
import Accessors.Proofs.Service.Precedence
import Accessors.Proofs.Declaration.Written
import Accessors.Proofs.Getters.Returned
import Accessors.Proofs.Grammar.Depth
import Accessors.Proofs.Declaration.Pieces
import Accessors.Proofs.Declaration.Parameters
import Accessors.Proofs.Declaration.Repeated
import Accessors.Proofs.Declaration.ReadAgain
import Accessors.Proofs.Getters.Declared
