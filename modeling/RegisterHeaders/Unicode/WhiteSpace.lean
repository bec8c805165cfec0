import RegisterHeaders.Unicode.Ranges

/-!
# White space

`isWhiteSpace` decides the Unicode property White_Space.
-/

namespace RegisterHeaders.Unicode

/-- The ranges of white-space characters, in ascending order. -/
def whiteSpaceRanges : Ranges :=
  [(0x0009, 0x000D), (0x0020, 0x0020), (0x0085, 0x0085), (0x00A0, 0x00A0), (0x1680, 0x1680),
   (0x2000, 0x200A), (0x2028, 0x2029), (0x202F, 0x202F), (0x205F, 0x205F), (0x3000, 0x3000)]

/-- Whether `c` is white space. -/
def isWhiteSpace (c : Char) : Bool :=
  whiteSpaceRanges.contain c.toNat

/-- The text without the white space at its two ends. -/
def trim (text : String) : String :=
  String.ofList
    (((text.toList.dropWhile isWhiteSpace).reverse.dropWhile isWhiteSpace).reverse)

end RegisterHeaders.Unicode
