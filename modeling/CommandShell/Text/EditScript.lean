import CommandShell.Bytes

/-!
# How one list becomes another

What has to be taken from one list and added to come to another is found as a shortest way through a
grid: a step to the right takes an item away, a step down adds one, and a diagonal step keeps an
item that is in both. The search goes from both corners at once, and where it meets, it is repeated
in both halves. Runs of changes are then moved as far down as they can be, or next to a run in the
other list. Items are numbers, so that two of them are the same if these are.
-/

namespace CommandShell.Text.EditScript

/-- Which items of two lists are changed. -/
structure Changes where
  /-- Those that are taken from the first. -/
  first : Array Bool
  /-- Those that are added in the second. -/
  second : Array Bool

/-- Whether an item of a list is changed. -/
def isChanged (flags : Array Bool) (n : Int) : Bool :=
  if n < 0 then false else flags.getD n.toNat false

/-! ### The shortest way -/

/-- A number on a diagonal. -/
def onDiagonal (values : Array Int) (shift d : Int) : Int :=
  values.getD (d + shift).toNat 0

/-- Sets a number on a diagonal. -/
def setDiagonal (values : Array Int) (shift d value : Int) : Array Int :=
  values.setIfInBounds (d + shift).toNat value

/-- A part of the grid. -/
structure Window where
  /-- The left side. -/
  left : Int
  /-- The right side. -/
  right : Int
  /-- The upper side. -/
  top : Int
  /-- The lower side. -/
  bottom : Int

/-- How far a search has come in one direction: a column for each diagonal from a least one to a
greatest one. -/
structure Front where
  /-- The columns. -/
  columns : Array Int
  /-- The least diagonal. -/
  least : Int
  /-- The greatest diagonal. -/
  greatest : Int

/-- Widens a search by a diagonal at both ends, or narrows it where the grid ends. The places beside
the new ends have a number that no search reaches. -/
def Front.widen (f : Front) (shift lowest highest beside : Int) : Front :=
  let (f, least) :=
    if lowest < f.least then
      ({ f with columns := setDiagonal f.columns shift (f.least - 2) beside }, f.least - 1)
    else (f, f.least + 1)
  let (f, greatest) :=
    if f.greatest < highest then
      ({ f with columns := setDiagonal f.columns shift (f.greatest + 2) beside }, f.greatest + 1)
    else (f, f.greatest - 1)
  { f with least := least, greatest := greatest }

/-- How far diagonal steps go from a place. -/
def slide (same : Int → Int → Bool) (w : Window) (d : Int) : Nat → Int → Int
  | 0, x => x
  | fuel + 1, x =>
    if x < w.right ∧ x - d < w.bottom ∧ same x (x - d) then slide same w d fuel (x + 1) else x

/-- How far diagonal steps go back from a place. -/
def slideBack (same : Int → Int → Bool) (w : Window) (d : Int) : Nat → Int → Int
  | 0, x => x
  | fuel + 1, x =>
    if w.left < x ∧ w.top < x - d ∧ same (x - 1) (x - d - 1) then slideBack same w d fuel (x - 1)
    else x

/-- Goes a step on, on each diagonal down from one; ends where the other search is met. -/
def advance (same : Int → Int → Bool) (w : Window) (shift : Int) (odd : Bool) (other : Front)
    (size : Nat) : Nat → Int → Front → Front × Option (Int × Int)
  | 0, _, f => (f, none)
  | fuel + 1, d, f =>
    if d < f.least then (f, none)
    else
      let low := onDiagonal f.columns shift (d - 1)
      let high := onDiagonal f.columns shift (d + 1)
      let x := slide same w d size (if low < high then high else low + 1)
      let f := { f with columns := setDiagonal f.columns shift d x }
      if odd ∧ other.least ≤ d ∧ d ≤ other.greatest ∧ onDiagonal other.columns shift d ≤ x then
        (f, some (x, x - d))
      else advance same w shift odd other size fuel (d - 2) f

/-- Goes a step back, on each diagonal down from one; ends where the other search is met. -/
def retreat (same : Int → Int → Bool) (w : Window) (shift : Int) (odd : Bool) (other : Front)
    (size : Nat) : Nat → Int → Front → Front × Option (Int × Int)
  | 0, _, f => (f, none)
  | fuel + 1, d, f =>
    if d < f.least then (f, none)
    else
      let low := onDiagonal f.columns shift (d - 1)
      let high := onDiagonal f.columns shift (d + 1)
      let x := slideBack same w d size (if low < high then low else high - 1)
      let f := { f with columns := setDiagonal f.columns shift d x }
      if !odd ∧ other.least ≤ d ∧ d ≤ other.greatest ∧ x ≤ onDiagonal other.columns shift d then
        (f, some (x, x - d))
      else retreat same w shift odd other size fuel (d - 2) f

/-- Where the searches from both corners meet. -/
def meeting (same : Int → Int → Bool) (w : Window) (shift : Int) (size : Nat) (odd : Bool) :
    Nat → Front → Front → Int × Int
  | 0, _, _ => (w.left, w.top)
  | fuel + 1, f, b =>
    let lowest := w.left - w.bottom
    let highest := w.right - w.top
    let f := f.widen shift lowest highest (-1)
    match advance same w shift odd b size (2 * size) f.greatest f with
    | (_, some place) => place
    | (f, none) =>
      let b := b.widen shift lowest highest (2 * size + 1)
      match retreat same w shift odd f size (2 * size) b.greatest b with
      | (_, some place) => place
      | (b, none) => meeting same w shift size odd fuel f b

/-- The changes in a part of the grid. -/
def way (same : Int → Int → Bool) (size : Nat) : Nat → Window → Changes → Changes
  | 0, _, c => c
  | fuel + 1, w, c =>
    let x := slide same w (w.left - w.top) size w.left
    let w := { w with left := x, top := w.top + (x - w.left) }
    let x := slideBack same w (w.right - w.bottom) size w.right
    let w := { w with right := x, bottom := w.bottom - (w.right - x) }
    if w.left = w.right then
      { c with
        second := (List.range (w.bottom - w.top).toNat).foldl
          (fun flags i => flags.setIfInBounds (w.top.toNat + i) true) c.second }
    else if w.top = w.bottom then
      { c with
        first := (List.range (w.right - w.left).toNat).foldl
          (fun flags i => flags.setIfInBounds (w.left.toNat + i) true) c.first }
    else
      let shift : Int := size + 2
      let blank : Array Int := Array.replicate (2 * size + 5) 0
      let ahead := w.left - w.top
      let behind := w.right - w.bottom
      let f : Front := ⟨setDiagonal blank shift ahead w.left, ahead, ahead⟩
      let b : Front := ⟨setDiagonal blank shift behind w.right, behind, behind⟩
      let odd : Bool := (ahead - behind) % 2 ≠ 0
      let (x, y) := meeting same w shift size odd (size + 1) f b
      let c := way same size fuel { w with right := x, bottom := y } c
      way same size fuel { w with left := x, top := y } c

/-- The changes between two lists in which each item occurs in both. -/
def shortest (a b : Array Nat) : Changes :=
  let same := fun (x y : Int) => decide (a.getD x.toNat 0 = b.getD y.toNat 0)
  let size := a.size + b.size
  way same size (size + 1) ⟨0, a.size, 0, b.size⟩
    ⟨Array.replicate a.size false, Array.replicate b.size false⟩

/-- The changes between two lists. Items that occur in one list only are changed in any case. -/
def changes (a b : Array Nat) : Changes :=
  let kept := fun (own other : Array Nat) =>
    ((List.range own.size).filter fun i => other.contains (own.getD i 0)).toArray
  let as := kept a b
  let bs := kept b a
  let c := shortest (as.map fun i => a.getD i 0) (bs.map fun i => b.getD i 0)
  let spread := fun (own : Array Nat) (places : Array Nat) (flags : Array Bool) =>
    (places.zip flags).foldl (fun all p => all.setIfInBounds p.1 p.2)
      (Array.replicate own.size true)
  ⟨spread a as c.first, spread b bs c.second⟩

/-! ### Runs of changes -/

/-- A run of changes that is being moved, and the place in the other list that belongs to its
end. -/
structure Run where
  /-- The changes of the list. -/
  flags : Array Bool
  /-- The first changed item. -/
  start : Int
  /-- The item after the last one. -/
  stop : Int
  /-- The place in the other list. -/
  other : Int
  /-- The end of the run at the last place where it belongs to a run in the other list. -/
  matching : Int

/-- The first item from a place on that is not changed. -/
def skipChanged (flags : Array Bool) : Nat → Int → Int
  | 0, n => n
  | fuel + 1, n => if isChanged flags n then skipChanged flags fuel (n + 1) else n

/-- The first item of a run, going back from a place in it. -/
def skipBack (flags : Array Bool) : Nat → Int → Int
  | 0, n => n
  | fuel + 1, n => if isChanged flags (n - 1) then skipBack flags fuel (n - 1) else n

/-- The item in front of a place that is not changed. -/
def beforeChanged (flags : Array Bool) : Nat → Int → Int
  | 0, n => n - 1
  | fuel + 1, n => if isChanged flags (n - 1) then beforeChanged flags fuel (n - 1) else n - 1

/-- Marks an item. -/
def mark (flags : Array Bool) (n : Int) (is : Bool) : Array Bool :=
  if n < 0 then flags else flags.setIfInBounds n.toNat is

/-- Moves a run back as long as the item in front is the same as its last one. -/
def Run.back (items : Array Nat) (others : Array Bool) (size : Nat) : Nat → Run → Run
  | 0, r => r
  | fuel + 1, r =>
    if 0 < r.start ∧ items.getD (r.start - 1).toNat 0 = items.getD (r.stop - 1).toNat 0 then
      let flags := mark (mark r.flags (r.start - 1) true) (r.stop - 1) false
      back items others size fuel
        { r with
          flags := flags, start := skipBack flags size (r.start - 1), stop := r.stop - 1
          other := beforeChanged others size r.other }
    else r

/-- Moves a run on as long as the item after it is the same as its first one. -/
def Run.on (items : Array Nat) (others : Array Bool) (size : Nat) : Nat → Run → Run
  | 0, r => r
  | fuel + 1, r =>
    if r.stop < items.size ∧ items.getD r.start.toNat 0 = items.getD r.stop.toNat 0 then
      let flags := mark (mark r.flags r.start false) r.stop true
      let stop := skipChanged flags size (r.stop + 1)
      let other := skipChanged others size (r.other + 1)
      let matching := if isChanged others (other - 1) then stop else r.matching
      on items others size fuel ⟨flags, r.start + 1, stop, other, matching⟩
    else r

/-- Moves a run back and on until it does not grow any more. -/
def Run.settle (items : Array Nat) (others : Array Bool) (size : Nat) : Nat → Run → Run
  | 0, r => r
  | fuel + 1, r =>
    let length := r.stop - r.start
    let r := r.back items others size size
    let matching := if isChanged others (r.other - 1) then r.stop else items.size
    let r := Run.on items others size size { r with matching := matching }
    if length = r.stop - r.start then r else settle items others size fuel r

/-- Moves a run back to where it belongs to a run in the other list. -/
def Run.align (others : Array Bool) (size : Nat) : Nat → Run → Run
  | 0, r => r
  | fuel + 1, r =>
    if r.matching < r.stop then
      align others size fuel
        { r with
          flags := mark (mark r.flags (r.start - 1) true) (r.stop - 1) false
          start := r.start - 1, stop := r.stop - 1, other := beforeChanged others size r.other }
    else r

/-- Moves all runs of a list from a place on. -/
def moveRuns (items : Array Nat) (others : Array Bool) (size : Nat) :
    Nat → Int → Int → Array Bool → Array Bool
  | 0, _, _, flags => flags
  | fuel + 1, i, j, flags =>
    if items.size ≤ i then flags
    else if !isChanged flags i then
      moveRuns items others size fuel (i + 1) (skipChanged others size j + 1) flags
    else
      let stop := skipChanged flags size (i + 1)
      let r : Run := ⟨flags, i, stop, skipChanged others size j, 0⟩
      let r := (r.settle items others size size).align others size size
      moveRuns items others size fuel r.stop r.other r.flags

/-- Moves the runs of changes of both lists. -/
def settled (a b : Array Nat) (c : Changes) : Changes :=
  let size := a.size + b.size + 2
  let first := moveRuns a c.second size size 0 0 c.first
  ⟨first, moveRuns b first size size 0 0 c.second⟩

/-! ### Pieces -/

/-- A place where lists differ: the number of items in front of it, and of changed ones, in each. -/
structure Piece where
  /-- The items of the first list in front of it. -/
  first : Nat
  /-- The items that are taken away. -/
  taken : Nat
  /-- The items of the second list in front of it. -/
  second : Nat
  /-- The items that are added. -/
  added : Nat

/-- The places where lists differ, from places in both on. -/
def piecesFrom (c : Changes) : Nat → Nat → Nat → List Piece
  | 0, _, _ => []
  | fuel + 1, i, j =>
    if c.first.size ≤ i ∧ c.second.size ≤ j then []
    else if isChanged c.first i ∨ isChanged c.second j then
      let x := (skipChanged c.first (c.first.size + 1) i).toNat
      let y := (skipChanged c.second (c.second.size + 1) j).toNat
      ⟨i, x - i, j, y - j⟩ :: piecesFrom c fuel x y
    else piecesFrom c fuel (i + 1) (j + 1)

/-- The number of items at the beginning that are the same in two lists. -/
def commonStart : List Nat → List Nat → Nat
  | a :: as, b :: bs => if a = b then commonStart as bs + 1 else 0
  | _, _ => 0

/-- The places where two lists differ. What is the same at the beginning and the end is left out of
the comparison, except for a margin. -/
def pieces (margin : Nat) (a b : List Nat) : List Piece :=
  let start := commonStart a b
  let finish := commonStart (a.drop start).reverse (b.drop start).reverse
  let front := start - margin
  let back := finish - margin
  let inner := fun (l : List Nat) => ((l.drop front).take (l.length - front - back)).toArray
  let as := inner a
  let bs := inner b
  let c := settled as bs (changes as bs)
  (piecesFrom c (as.size + bs.size + 1) 0 0).map fun p =>
    { p with first := p.first + front, second := p.second + front }

end CommandShell.Text.EditScript
