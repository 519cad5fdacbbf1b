import CommandShell.Bytes

/-!
# Names in columns

Several names stand in a line: in columns, which are as narrow as their names allow and as many as
fit into the line, or one after the other with commas between them.
-/

namespace CommandShell.Tool.Listing

/-- A line and how blanks are written in it. -/
structure Page where
  /-- The width of a line; lines have no end if it is zero. -/
  width : Nat
  /-- The distance of the places that tabs reach; there are no tabs if it is zero. -/
  tab : Nat

/-- The widths of the columns of names, if there are so many. No column is narrower than three. -/
def columnWidths (names : List Bytes) (count : Nat) (down : Bool) : List Nat :=
  let height := (names.length + count - 1) / count
  let place := fun (i : Nat) => if down then i / height else i % count
  let placed := names.zipIdx.map fun n => (place n.2, n.1.length)
  (List.range count).map fun c =>
    ((placed.filter (·.1 = c)).map fun n => if c + 1 = count then n.2 else n.2 + 2).foldl max 3

/-- Whether so many columns fit into a line. -/
def columnsFit (width : Nat) (names : List Bytes) (down : Bool) (count : Nat) : Bool :=
  decide (sumOf (columnWidths names count down) < width)

/-- Blanks from one position to another, with tabs where these reach. -/
def gap (tab : Nat) (start goal : Nat) : Nat → Bytes
  | 0 => []
  | fuel + 1 =>
    if goal ≤ start then []
    else if tab ≠ 0 ∧ (start + 1) / tab < goal / tab then
      0x09 :: gap tab ((start / tab + 1) * tab) goal fuel
    else 0x20 :: gap tab (start + 1) goal fuel

/-- The names of a line, each with its column, and what is between them. -/
def spread (tab : Nat) (widths : List Nat) : List (Bytes × Nat) → Nat → Bytes
  | [], _ => []
  | [(n, _)], _ => n
  | (n, c) :: rest, start =>
    let next := start + (widths[c]?).getD 0
    n ++ gap tab (start + n.length) next (next + 1) ++ spread tab widths rest next

/-- Names one after the other, with something behind each but the last, and a blank or a new
line. -/
def inARow (behind : Bytes) (width : Nat) : List Bytes → Nat → Bytes
  | [], _ => []
  | [n], _ => n
  | n :: next :: rest, position =>
    let finish := position + n.length
    let stays := width = 0 ∨ finish + next.length + 2 < width
    n ++ behind ++ [if stays then (0x20 : UInt8) else 0x0A] ++
      inARow behind width (next :: rest) (if stays then finish + 2 else 0)

/-- Names in columns, line by line. -/
def inColumns (page : Page) (names : List Bytes) (down : Bool) : List Bytes :=
  if page.width = 0 then [inARow [0x20] 0 names 0]
  else
    let most := min names.length (page.width / 3)
    let counts := (List.range most).reverse.map (· + 1)
    let count := (counts.find? (columnsFit page.width names down)).getD 1
    let widths := columnWidths names count down
    let height := (names.length + count - 1) / count
    (List.range height).map fun row =>
      let line := (List.range count).filterMap fun c =>
        (names[if down then c * height + row else row * count + c]?).map fun n => (n, c)
      spread page.tab widths line 0

end CommandShell.Tool.Listing
