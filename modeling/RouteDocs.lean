import RouteDocs.App.Route
import RouteDocs.CommandLine.Run
import RouteDocs.Main
import RouteDocs.Proofs.Document.Assembled
import RouteDocs.Proofs.Document.BodyFields
import RouteDocs.Proofs.Response.Envelope
import RouteDocs.Proofs.Rule.Arrangement
import RouteDocs.Proofs.Rule.Exclusivity
import RouteDocs.Proofs.Rule.Growth
import RouteDocs.Proofs.Rule.Rereading
import RouteDocs.Proofs.Schema.Consistency
import RouteDocs.Proofs.Schema.Lossless
import RouteDocs.Proofs.Schema.Order
import RouteDocs.Rule.Attribute
import RouteDocs.Proofs.Rule.Refusal
import RouteDocs.Proofs.Response.Exhaustion
import RouteDocs.Proofs.Response.WriteOnce
import RouteDocs.Proofs.Schema.Conformance
import RouteDocs.Proofs.Document.OperationIds
import RouteDocs.Proofs.Document.Media
import RouteDocs.Proofs.Document.Repetition
import RouteDocs.Proofs.Document.Responses
import RouteDocs.Proofs.Document.Tags
import RouteDocs.Proofs.CommandLine.Output
import RouteDocs.Proofs.Field.TextSample
import RouteDocs.Proofs.Rule.DigitCounts
import RouteDocs.Proofs.Schema.Bounds
import RouteDocs.Proofs.Schema.Naming
import RouteDocs.Proofs.Schema.Refusal
import RouteDocs.Proofs.Rule.Pattern
import RouteDocs.Proofs.Rule.Parts
import RouteDocs.Proofs.Document.Placeholders
import RouteDocs.Proofs.Document.QueryNames
import RouteDocs.Proofs.App.Docstring.Written
import RouteDocs.Proofs.App.Docstring.Following
import RouteDocs.Proofs.Field.Enriched
import RouteDocs.Proofs.Rule.NearDates
import RouteDocs.Proofs.Rule.DateFormats
import RouteDocs.Proofs.Rule.Sentence
import RouteDocs.Proofs.Field.Requests
import RouteDocs.Proofs.Rule.Names
