/-! Classes of characters that are given by ranges of codes. -/

namespace AppSync.Text

/-- Whether a character's code is in one of several ranges, whose ends are both within them. -/
def isAmong (ranges : Array (Nat × Nat)) (c : Char) : Bool :=
  ranges.any fun range => range.1 ≤ c.toNat && c.toNat ≤ range.2

end AppSync.Text
