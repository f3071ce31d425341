import ResultGateway.Main
import ResultGateway.Proofs.CommandLine.BadInput
import ResultGateway.Proofs.CommandLine.Displays
import ResultGateway.Proofs.CommandLine.Hints
import ResultGateway.Proofs.CommandLine.Outcome
import ResultGateway.Proofs.CommandLine.PaddedSettings
import ResultGateway.Proofs.CommandLine.PortSources
import ResultGateway.Proofs.CommandLine.Queries
import ResultGateway.Proofs.CommandLine.ReplyDocument
import ResultGateway.Proofs.CommandLine.Reports
import ResultGateway.Proofs.CommandLine.ResultSets
import ResultGateway.Proofs.CommandLine.RunAnswers
import ResultGateway.Proofs.CommandLine.SetSources
import ResultGateway.Proofs.CommandLine.UnusedSettings
import ResultGateway.Proofs.Gateway.BaseUrls
import ResultGateway.Proofs.Gateway.Bodies
import ResultGateway.Proofs.Gateway.Complaints
import ResultGateway.Proofs.Gateway.Endpoints
import ResultGateway.Proofs.Gateway.Failures
import ResultGateway.Proofs.Gateway.Posts
import ResultGateway.Proofs.Gateway.Replies
import ResultGateway.Proofs.Gateway.RunUrls
import ResultGateway.Proofs.Gateway.Tokens
import ResultGateway.Proofs.GraphQl.Meanings
import ResultGateway.Proofs.GraphQl.Wire
import ResultGateway.Proofs.Json.Documents
import ResultGateway.Proofs.Json.Images
import ResultGateway.Proofs.Json.Meanings
import ResultGateway.Proofs.Json.NullMembers
import ResultGateway.Proofs.Json.ReadBack
import ResultGateway.Proofs.Json.ShapeMeanings
import ResultGateway.Proofs.Json.Shapes
import ResultGateway.Proofs.Json.Skips
import ResultGateway.Proofs.Store.Misses
import ResultGateway.Proofs.Store.Places
import ResultGateway.Proofs.Store.Projection
import ResultGateway.Proofs.Store.Refusals
import ResultGateway.Proofs.Store.Sets
import ResultGateway.Proofs.Store.Table
import ResultGateway.Proofs.Store.UniqueKeys
import ResultGateway.Proofs.Store.Updates
import ResultGateway.Proofs.Wire
import ResultGateway.Proofs.CommandLine.Reports
