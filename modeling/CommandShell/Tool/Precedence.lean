import CommandShell.Tool.Input
import CommandShell.Tool.Words

/-!
# An order in which everything comes after what it needs

Pairs of names say which comes before which. Names that wait for no other are written, in the order
of the names at first and then as they become free. When only names are left that wait for each
other, a loop among them is shown, and its last pair is given up.
-/

namespace CommandShell.Tool

open Work

namespace Precedence

/-- A name. -/
structure Item where
  /-- The name. -/
  name : Bytes
  /-- The number of pairs by which it waits for others. -/
  waits : Nat
  /-- The numbers of the names that wait for it, the last pair first. -/
  followers : List Nat
  /-- Whether it has been written. -/
  written : Bool
  /-- The next name of the chain that a loop is looked for with. -/
  link : Option Nat

/-- The names in their order, and the front of the chain that a loop is looked for with. -/
structure State where
  /-- The names. -/
  items : Array Item
  /-- The first name of the chain. -/
  chain : Option Nat

/-- Changes a name. -/
def State.update (s : State) (k : Nat) (change : Item → Item) : State :=
  { s with items := s.items.modify k change }

/-- The names of some pairs, and the pairs of different names by the numbers of these. -/
def State.ofPairs (pairs : List (Bytes × Bytes)) : State :=
  let names := (pairs.flatMap fun p => [p.1, p.2]).mergeSort
  let names := names.foldr (fun n done => if done.head? = some n then done else n :: done) []
  let numbered := names.toArray
  let items := numbered.map fun name => Item.mk name 0 [] false none
  pairs.foldl (fun s p =>
    if p.1 = p.2 then s
    else
      let a := place numbered p.1 64 0 numbered.size
      let b := place numbered p.2 64 0 numbered.size
      (s.update a fun i => { i with followers := b :: i.followers }).update b fun i =>
        { i with waits := i.waits + 1 }) ⟨items, none⟩
where
  /-- The place of a name between two places. -/
  place (names : Array Bytes) (name : Bytes) : Nat → Nat → Nat → Nat
    | 0, low, _ => low
    | fuel + 1, low, high =>
      if high ≤ low + 1 then low
      else
        let middle := (low + high) / 2
        if names.getD middle [] ≤ name then place names name fuel middle high
        else place names name fuel low middle

/-- Writes names that wait for nothing, and those that become free by that. -/
def writeFree : Nat → List Nat → State → List Bytes → State × List Bytes
  | 0, _, s, done => (s, done)
  | _, [], s, done => (s, done)
  | fuel + 1, k :: rest, s, done =>
    match s.items[k]? with
    | none => (s, done)
    | some item =>
      let s := s.update k fun i => { i with written := true }
      let (s, freed) := item.followers.foldl (fun (s, freed) f =>
        let s := s.update f fun i => { i with waits := i.waits - 1 }
        let free := (s.items[f]?.map (·.waits)) = some 0
        (s, if free then f :: freed else freed)) (s, ([] : List Nat))
      writeFree fuel (rest ++ freed.reverse) s (item.name :: done)

/-- Gives up the links of a chain. -/
def unlink : Nat → State → State
  | 0, s => s
  | fuel + 1, s =>
    match s.chain with
    | none => s
    | some k =>
      let next := (s.items[k]?).bind (·.link)
      unlink fuel { s.update k (fun i => { i with link := none }) with chain := next }

/-- Goes along a chain to a name; the answer is the names on the way. The name no longer comes
before the first of the chain. -/
def close (k first : Nat) : Nat → State → List Bytes → State × List Bytes
  | 0, s, shown => (s, shown.reverse)
  | fuel + 1, s, shown =>
    match s.chain with
    | none => (s, shown.reverse)
    | some j =>
      let item := s.items[j]?
      let shown := (item.map (·.name)).getD [] :: shown
      if j = k then
        let s := (s.update first fun i => { i with waits := i.waits - 1 }).update k fun i =>
          { i with followers := i.followers.erase first }
        (s, shown.reverse)
      else
        let s := s.update j fun i => { i with link := none }
        close k first fuel { s with chain := item.bind (·.link) } shown

/-- Looks at the names one after the other, and puts each in front of the chain that comes before
its front. If it is in the chain already, it is the end of a loop, which is the answer. -/
def findLoop : List Nat → State → State × Option (List Bytes)
  | [], s => (s, none)
  | k :: rest, s =>
    match s.items[k]? with
    | none => (s, none)
    | some item =>
      if item.waits = 0 then findLoop rest s
      else
        match s.chain with
        | none => findLoop rest { s with chain := some k }
        | some first =>
          if !item.followers.contains first then findLoop rest s
          else if item.link.isNone then
            findLoop rest { s.update k (fun i => { i with link := some first }) with
              chain := some k }
          else
            let (s, shown) := close k first (s.items.size + 1) s []
            (unlink (s.items.size + 1) s, some shown)

/-- Looks for loops until there is no chain. -/
def findLoops : Nat → State → List Bytes → State × List Bytes
  | 0, s, shown => (s, shown)
  | fuel + 1, s, shown =>
    let (s, found) := findLoop (List.range s.items.size) s
    let shown := shown ++ found.getD []
    if s.chain.isNone then (s, shown) else findLoops fuel s shown

/-- Writes all names. -/
def writeAll (file : Bytes) : Nat → State → Work Unit
  | 0, _ => return ()
  | fuel + 1, s => do
    let free := (List.range s.items.size).filter fun k =>
      (s.items[k]?.map fun i => i.waits = 0 && !i.written).getD false
    let (s, written) := writeFree (s.items.size + 1) free s []
    for name in written.reverse do
      putLine (name.takeWhile (· ≠ 0))
    if s.items.any (!·.written) then
      complain (Quote.name file ++ utf8 ": input contains a loop:")
      let (s, shown) := findLoops (s.items.size * s.items.size + 2) s []
      for name in shown do
        say name
      writeAll file fuel s

/-- The words of a text. -/
def wordsOf (text : Bytes) : List Bytes :=
  (text.splitBy fun a b => isSpace a = isSpace b).filter fun w => !(w.head?.map isSpace).getD true
where
  /-- Whether a byte separates words. -/
  isSpace (b : UInt8) : Bool :=
    b = 0x20 || b = 0x09 || b = 0x0A

/-- Words two by two. -/
def pairsOf : List Bytes → Option (List (Bytes × Bytes))
  | [] => some []
  | [_] => none
  | a :: b :: rest => (pairsOf rest).map ((a, b) :: ·)

end Precedence

/-- Writes names in an order in which each comes after those that pairs put before it. -/
def tsort (args : List Bytes) : Work Unit := do
  let f ← Options.read [] true 1 args
  match f.operands.drop 1 with
  | extra :: _ => extraOperand 1 extra
  | [] => pure ()
  let file := f.operands.headD [0x2D]
  match ← openInput file with
  | .error e => fail 1 (Quote.name file ++ utf8 (": " ++ e.libraryText))
  | .ok fd =>
    let (text, _) ← (Source.ofOpen fd).rest
    match Precedence.pairsOf (Precedence.wordsOf text) with
    | none => fail 1 (Quote.name file ++ utf8 ": input contains an odd number of tokens")
    | some pairs =>
      let s := Precedence.State.ofPairs pairs
      Precedence.writeAll file (pairs.length + s.items.size + 1) s

end CommandShell.Tool
