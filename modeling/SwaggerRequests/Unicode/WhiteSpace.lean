import SwaggerRequests.Unicode.CodePoints

/-!
# White space

The Unicode property `White_Space`, as the predicate `isWhiteSpace` on characters, and `isBlank`,
the strings that consist of white space. `functionName` and `Operation.doc` treat a blank text like
an absent one, and `VersionDeclaration.isSupported` allows white space around a version.

`whiteSpaceRanges` lists the code points above ASCII. Below 128 the property holds of the space and
of the five control characters from the tab to the carriage return.
-/

namespace SwaggerRequests.Unicode

/-- The code points of `White_Space` above ASCII. -/
def whiteSpaceRanges : Ranges := [
  (0x85, 0x85), (0xA0, 0xA0), (0x1680, 0x1680), (0x2000, 0x200A), (0x2028, 0x2029),
  (0x202F, 0x202F), (0x205F, 0x205F), (0x3000, 0x3000)]

/-- The property `White_Space`: the space and the code points 9 to 13 in ASCII, `whiteSpaceRanges`
above. -/
def isWhiteSpace (c : Char) : Bool :=
  if c.val < 128 then c.val == 32 || 9 ≤ c.val && c.val ≤ 13 else whiteSpaceRanges.holds c.toNat

/-- Every character of `s` satisfies `isWhiteSpace`; the empty string is blank. -/
def isBlank (s : String) : Bool := s.toList.all isWhiteSpace

end SwaggerRequests.Unicode
