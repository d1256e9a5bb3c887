/-!
# Characters as rows of bytes

The UTF-8 forms of a run of characters are covered by rows of byte ranges: a form belongs to the run where each of its
bytes lies in the range that stands at its place in one of the rows.
-/

namespace Reroute.Text

/-- A range of bytes for every byte of a character. -/
abbrev ByteRow := List (Nat × Nat)

/-- The rows for the numbers from `first` to `last` written with six bits in each of the `further` bytes behind the
leading one; `mark` is added to the leading byte. -/
def byteRows : Nat → Nat → Nat → Nat → List ByteRow
  | 0, mark, first, last => [[(mark + first, mark + last)]]
  | further + 1, mark, first, last =>
    let unit := Nat.pow 64 (further + 1)
    let low := first / unit
    let high := last / unit
    if low = high then (byteRows further 128 (first % unit) (last % unit)).map ((mark + low, mark + low) :: ·)
    else
      let isWholeLow := first % unit = 0
      let isWholeHigh := last % unit = unit - 1
      let below :=
        if isWholeLow then [] else (byteRows further 128 (first % unit) (unit - 1)).map ((mark + low, mark + low) :: ·)
      let above :=
        if isWholeHigh then [] else (byteRows further 128 0 (last % unit)).map ((mark + high, mark + high) :: ·)
      let start := if isWholeLow then low else low + 1
      let stop := if isWholeHigh then high + 1 else high
      let between :=
        if start < stop then [(mark + start, mark + stop - 1) :: List.replicate (further + 1) (128, 191)] else []
      below ++ between ++ above

/-- The code points with one, two, three and four bytes, and the mark of their leading byte. -/
def byteLengths : List (Nat × Nat × Nat × Nat) :=
  [(0, 0, 0, 127), (1, 192, 128, 2047), (2, 224, 2048, 65535), (3, 240, 65536, 1114111)]

/-- The rows of the code points from `first` to `last`, in increasing order. -/
def ByteRow.ofRun (first last : Nat) : List ByteRow :=
  byteLengths.flatMap fun (further, mark, low, high) =>
    if max first low ≤ min last high then byteRows further mark (max first low) (min last high) else []

/-! ### Rows as trees -/

/-- Groups rows that begin in the same way. -/
def ByteRow.groups (rows : List ByteRow) : List (List ByteRow) := rows.splitBy fun left right => left.head? == right.head?

/-- How many rows share their beginnings: the ranges that are left where each beginning is written once. -/
def ByteRow.beginnings : ByteRow → List ByteRow → Nat
  | _, [] => 0
  | before, row :: rows =>
    let shared := ((before.zip row).takeWhile fun (left, right) => left == right).length
    row.length - shared + beginnings row rows

/-- The rows, and what is left of them behind each beginning, down to so many ranges. -/
def ByteRow.rests : Nat → List ByteRow → List (List ByteRow)
  | 0, _ => []
  | depth + 1, rows =>
    rows :: (groups rows).flatMap fun group =>
      let tails := group.map List.tail
      if tails.all List.isEmpty then [] else rests depth tails

end Reroute.Text
