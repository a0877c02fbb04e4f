/-
CodegenRun/Text/Ranges.lean

Sets of characters as ranges of code points.
-/

namespace CodegenRun

namespace Text

/-- Whether a code point lies in one of the ranges, each from its first to its last code point
and each beyond the one before. -/
def inRanges (code : Nat) : List (Nat × Nat) → Bool
  | [] => false
  | (first, last) :: rest =>
    if code < first then false else if code ≤ last then true else inRanges code rest

end Text

end CodegenRun
