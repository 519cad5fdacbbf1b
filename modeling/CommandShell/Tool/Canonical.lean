import CommandShell.Tool.Words

/-!
# Where paths lead

A path has one shortest form that begins at the root and goes through no links. It can be found as
far as the entries on the way are there, or even if they are not.
-/

namespace CommandShell.Tool

open Work

/-- Which entries on the way of a path have to be there. -/
inductive Presence where
  /-- All. -/
  | all
  /-- All but the last. -/
  | allButLast
  /-- None. -/
  | none
deriving DecidableEq

namespace Canonical

/-- The path from the root through some names. -/
def path (names : List Bytes) : Bytes :=
  if names = [] then [slash] else names.flatMap (slash :: ·)

/-- The names of a path. -/
def names (path : Bytes) : List Bytes :=
  (path.splitOn slash).filter (· ≠ [])

/-- The number of links that are followed. -/
def linkLimit : Nat := 40

/-- Whether what stands in front of some names has to be a directory if only the names count:
nothing follows it, or the way back. -/
def isLooked (more : List Bytes) : Bool :=
  match more.dropWhile (· = utf8 ".") with
  | [] => true
  | n :: _ => n = utf8 ".."

/-- Follows names from a place on. The names of the place are given last first. -/
def follow (presence : Presence) (through : Bool) :
    Nat → Nat → List Bytes → List Bytes → Work (Except Errno (List Bytes))
  | 0, _, _, _ => return .error .tooManyLinks
  | fuel + 1, links, place, rest => do
    match rest with
    | [] => return .ok place.reverse
    | n :: more =>
      if n = utf8 "." then follow presence through fuel links place more
      else if n = utf8 ".." then follow presence through fuel links place.tail more
      else if !through ∧ !isLooked more then follow presence through fuel links (n :: place) more
      else
        let here := path (n :: place).reverse
        let facts : Except Errno Facts ← call (.facts here (!through))
        match facts with
        | .ok f =>
          if f.kind = .link ∧ through then
            if linkLimit ≤ links then return .error .tooManyLinks
            else
              match ← call (.linkContent here) with
              | .error e => return .error e
              | .ok content =>
                let start := if content.head? = some slash then [] else place
                follow presence through fuel (links + 1) start (names content ++ more)
          else if f.kind = .directory ∨ more = [] ∨ presence = .none then
            follow presence through fuel links (n :: place) more
          else return .error .notDirectory
        | .error e =>
          if presence = .none ∨ (presence = .allButLast ∧ e = .noEntry ∧ more = []) then
            follow presence through fuel links (n :: place) more
          else return .error e

/-- The names of the shortest form of a path. -/
def ofPath (presence : Presence) (through : Bool) (text : Bytes) :
    Work (Except Errno (List Bytes)) := do
  if text = [] then return .error .noEntry
  let start : Except Errno Bytes ←
    if text.head? = some slash then pure (.ok []) else call .directory
  match start with
  | .error e => return .error e
  | .ok directory =>
    let found ← follow presence through (0x1000 + text.length) 0 (names directory).reverse
      (names text)
    match found with
    | .error e => return .error e
    | .ok place =>
      let asDirectory : Bool := text.getLast? = some slash
      if asDirectory ∧ presence ≠ .none then
        match ← call (.facts (path place) through) with
        | .ok f => return if f.kind = .directory then .ok place else .error .notDirectory
        | .error e => return if presence = .all then .error e else .ok place
      else return .ok place

/-- The way from one place to another. -/
def relative : List Bytes → List Bytes → Bytes
  | a :: base, b :: goal =>
    if a = b then relative base goal else way (a :: base) (b :: goal)
  | base, goal => way base goal
where
  /-- The way up from a place and down to another. -/
  way (base goal : List Bytes) : Bytes :=
    let steps := base.map (fun _ => utf8 "..") ++ goal
    if steps = [] then utf8 "." else [slash].intercalate steps

end Canonical

/-- Which entries have to be there, according to options. -/
def presenceOf (f : Options.Found) (usual : Presence) : Presence :=
  match f.last? ["e", "f", "m"] with
  | some "e" => .all
  | some "f" => .allButLast
  | some "m" => .none
  | _ => usual

/-- Writes where links lead. -/
def readlink (args : List Bytes) : Work Unit := do
  let f ← Options.read [.flag "f" "canonicalize", .flag "e" "canonicalize-existing",
    .flag "m" "canonicalize-missing", .flag "n" "no-newline", .flag "q" "quiet",
    .flag "s" "silent", .flag "v" "verbose", .flag "z" "zero"] true 1 args
  if f.operands = [] then missingOperand 1
  let several := decide (1 < f.operands.length)
  if several ∧ f.has "n" then say (utf8 "ignoring --no-newline with multiple arguments")
  let ends : Bytes :=
    if f.has "n" ∧ !several then [] else if f.has "z" then [0] else [0x0A]
  let canonical := (f.last? ["e", "f", "m"]).isSome
  let verbose : Bool := f.last? ["q", "s", "v"] = some "v"
  for path in f.operands do
    let found : Except Errno Bytes ←
      if canonical then do
        match ← Canonical.ofPath (presenceOf f .all) true path with
        | .ok names => pure (.ok (Canonical.path names))
        | .error e => pure (.error e)
      else call (.linkContent path)
    match found with
    | .ok content => put (content ++ ends)
    | .error e => if verbose then complainOf (Quote.name path) e else fault 1

/-- Writes the shortest forms of paths. -/
def realpath (args : List Bytes) : Work Unit := do
  let f ← Options.read [.flag "e" "canonicalize-existing", .flag "m" "canonicalize-missing",
    .flag "s" "no-symlinks", .flag "s" "strip", .flag "q" "quiet", .flag "z" "zero",
    .flag "L" "logical", .flag "P" "physical", .valued "" "relative-to",
    .valued "" "relative-base"] true 1 args
  if f.operands = [] then missingOperand 1
  let presence := presenceOf f .allButLast
  let ends : Bytes := if f.has "z" then [0] else [0x0A]
  let resolve : Bytes → Work (Except Errno (List Bytes)) := fun path => do
    match f.last? ["s", "L", "P"] with
    | some "s" => Canonical.ofPath presence false path
    | some "L" =>
      match ← Canonical.ofPath presence false path with
      | .ok names => Canonical.ofPath presence true (Canonical.path names)
      | .error e => return .error e
    | _ => Canonical.ofPath presence true path
  let directory := fun (key : String) => (f.value? key).mapM fun path => do
    match ← resolve path with
    | .ok names => pure names
    | .error e =>
      complainOf (Quote.name path) e
      stop
  let base ← directory "relative-base"
  let goal := (← directory "relative-to") <|> base
  for path in f.operands do
    match ← resolve path with
    | .ok names =>
      let isBelow := base.all fun b => (goal.all b.isPrefixOf) ∧ b.isPrefixOf names
      put ((match goal, isBelow with
        | some g, true => Canonical.relative g names
        | _, _ => Canonical.path names) ++ ends)
    | .error e => if f.has "q" then fault 1 else complainOf (Quote.name path) e

end CommandShell.Tool
