/-!
# Options

The options of a generation run.
-/

namespace RegisterHeaders

/-- The options of a generation run. -/
structure Options where
  /-- The greatest width of a field that gets one constant per number. -/
  narrowFieldMaxWidth : UInt32 := 5
  /-- The width in bytes at which the descriptions of banners are wrapped. -/
  bannerWidth : UInt64 := 62
  /-- Whether fields of different widths in one group are an error. -/
  strictEnumWidths : Bool := false
  /-- Whether enumeration headers that exist are replaced. -/
  overwriteEnumerations : Bool := false
  deriving Repr, DecidableEq

end RegisterHeaders
