import SpannerDialect.Staleness

/-! # Settings

    What statements are rendered, planned and synthesized with. -/

namespace SpannerDialect

/-- The settings of a dialect. -/
structure Config where
  /-- The most mutations of one commit. -/
  budget : Nat := 80000
  /-- Data boost of reads that do not say. -/
  dataBoost : Bool := false
  /-- The bound of reads that have none. -/
  staleness : Option StalenessBound := none
  /-- Where local times are read. -/
  timezone : Calendar.Offset := .utc

end SpannerDialect
