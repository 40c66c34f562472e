import SearchQuery.Json.Reader
import SearchQuery.Request.Wire
import SearchQuery.Search.Operation
import SearchQuery.Settings.File
import SearchQuery.Proofs.Condition.Record
import SearchQuery.Proofs.Condition.Replay
import SearchQuery.Proofs.Query.Meaning
import SearchQuery.Proofs.Query.Leaves
import SearchQuery.Proofs.Query.WellFormed
import SearchQuery.Proofs.Query.Rearrangement
import SearchQuery.Proofs.Search.Refusal
import SearchQuery.Proofs.Request.Assembly
import SearchQuery.Proofs.Search.Call
import SearchQuery.Proofs.Request.Bulk
import SearchQuery.Proofs.Search.Reachable
import SearchQuery.Proofs.Search.Safety
import SearchQuery.Proofs.Search.Exchange
import SearchQuery.Proofs.Search.Independence
import SearchQuery.Proofs.Json.Same
import SearchQuery.Proofs.Request.Body
import SearchQuery.Proofs.Request.Effective
import SearchQuery.Proofs.Search.Erasure
import SearchQuery.Proofs.Json.Path
import SearchQuery.Proofs.List.FirstUse
import SearchQuery.Proofs.Reply.Grouping
import SearchQuery.Proofs.Search.Replies
import SearchQuery.Proofs.Json.Distinct
import SearchQuery.Proofs.Reply.Counts
import SearchQuery.Proofs.Reply.Merging
import SearchQuery.Proofs.Search.ReadBack
import SearchQuery.Proofs.Query.Log
import SearchQuery.Proofs.Search.Residue
import SearchQuery.Proofs.Condition.Negation
import SearchQuery.Proofs.Condition.Calls
import SearchQuery.Proofs.Condition.Overriding
import SearchQuery.Proofs.Condition.Spelling
import SearchQuery.Proofs.Query.Membership
import SearchQuery.Proofs.Query.Boost
import SearchQuery.Proofs.Request.Grouped
import SearchQuery.Proofs.Search.Bulk
import SearchQuery.Proofs.Reply.Sources
import SearchQuery.Proofs.Settings.Override
