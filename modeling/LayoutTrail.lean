import LayoutTrail.Main
import LayoutTrail.Proofs.ReadingOrder
import LayoutTrail.Proofs.WordCounts
import LayoutTrail.Proofs.Candidates
import LayoutTrail.Proofs.Selection
import LayoutTrail.Proofs.Anchoring
import LayoutTrail.Proofs.Blocks
import LayoutTrail.Proofs.Checking
import LayoutTrail.Proofs.Locality
import LayoutTrail.Proofs.Growth
import LayoutTrail.Proofs.PageShift
import LayoutTrail.Proofs.Fields
import LayoutTrail.Proofs.Extraction
import LayoutTrail.Proofs.TemplateFaults
import LayoutTrail.Proofs.PageLists
import LayoutTrail.Proofs.Json.Numbers
import LayoutTrail.Proofs.Json.Placement
import LayoutTrail.Proofs.Json.RoundTrip
import LayoutTrail.Proofs.Json.MemberOrder
import LayoutTrail.Proofs.Json.Decoding
import LayoutTrail.Proofs.Json.Skipping
import LayoutTrail.Proofs.StoredAnchors
import LayoutTrail.Proofs.AnchorReading
import LayoutTrail.Proofs.Resumption
import LayoutTrail.Proofs.StoredDocuments
import LayoutTrail.Proofs.StoredResults
import LayoutTrail.Proofs.StoredTemplates
import LayoutTrail.Proofs.BatchReports
import LayoutTrail.Proofs.Counting
import LayoutTrail.Proofs.MatchOrder
import LayoutTrail.Proofs.SplitPhrases
import LayoutTrail.Proofs.StaleAnchors
import LayoutTrail.Proofs.Pattern.Matching
import LayoutTrail.Proofs.Pattern.Wrapping
import LayoutTrail.Proofs.Pattern.Anchored
import LayoutTrail.Proofs.Acceptance
import LayoutTrail.Proofs.Listings
import LayoutTrail.Proofs.GuardedSearch
import LayoutTrail.Proofs.AllOrNothing
import LayoutTrail.Proofs.Json.Refusals
import LayoutTrail.Proofs.StoredSteps
