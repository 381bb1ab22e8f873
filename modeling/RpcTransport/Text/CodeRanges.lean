/-!
# Ranges of code points

Properties of characters are given as tables of ranges, each by its first and its last code point,
in ascending order and without overlap.
-/

namespace RpcTransport

/-- A set of code points. -/
abbrev CodeRanges := List (Nat × Nat)

namespace CodeRanges

def contains (table : CodeRanges) (n : Nat) : Bool :=
  table.any fun (first, last) ↦ first ≤ n && n ≤ last

end CodeRanges

end RpcTransport
