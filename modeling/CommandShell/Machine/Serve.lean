import CommandShell.Machine.World

/-!
# Answering processes

Each call of a process is answered at once, or cannot be answered yet, or ends the process. A call
that cannot be answered yet is tried again when something has changed; a signal that the process
keeps in mind puts an end to its waiting.
-/

namespace CommandShell

/-- What came of a call. -/
inductive Served (α : Type) where
  /-- It is answered. -/
  | answered (w : World) (a : α)
  /-- It has to wait for something to change, or for a time. -/
  | blocked (w : World) (deadline : Option Nat)
  /-- A part of it is done; the rest has to wait. -/
  | partly (w : World) (rest : Task)
  /-- The process got a signal on account of the call before it was answered. -/
  | signaled (w : World) (number : Nat) (a : α)

/-- What came of a call, with its answer changed. -/
def Served.map {α β : Type} (f : α → β) : Served α → Served β
  | answered w a => answered w (f a)
  | blocked w deadline => blocked w deadline
  | partly w rest => partly w rest
  | signaled w number a => signaled w number (f a)

namespace World

/-- The number of bytes that a pipe holds. -/
def pipeRoom : Nat := 65536

/-- The number of bytes that are written to a pipe together or not at all. -/
def pipeUnit : Nat := 4096

/-- The open file that a process knows under a number. -/
def openFile? (w : World) (p : Process) (number : Nat) : Option (Nat × OpenFile) :=
  match p.file? number with
  | none => none
  | some index => (w.opened[index]?).map fun o => (index, o)

/-- Sets the position of an open file. -/
def setPosition (w : World) (index position : Nat) : World :=
  { w with opened := w.opened.modify index fun o => { o with position := position } }

/-- The content of what stands behind an open file, if it has one. -/
def content? (w : World) (o : OpenFile) : Option Bytes :=
  match o.backing with
  | .file path =>
    match w.files.find? path with
    | some (.file content _) => some content
    | some (.damaged content _) => some content
    | some (.program name) => some (programContent name)
    | _ => some []
  | .removed content => some content
  | _ => none

/-- Sets the content of what stands behind an open file. -/
def setContent (w : World) (index : Nat) (o : OpenFile) (content : Bytes) : World :=
  match o.backing with
  | .file path =>
    match w.files.find? path with
    | some (.file _ mode) =>
      ({ w with files := w.files.set path (.file content mode) }).touch path
    | _ => w
  | .removed _ =>
    { w with opened := w.opened.modify index fun o => { o with backing := .removed content } }
  | _ => w

/-- Content in which bytes stand at a position; what is missing before it are zeros. -/
def overwrite (content : Bytes) (position : Nat) (bytes : Bytes) : Bytes :=
  let before := content.take position
  before ++ List.replicate (position - before.length) 0 ++ bytes ++
    content.drop (position + bytes.length)

/-- Reads from an open file. -/
def read (w : World) (p : Process) (fd count : Nat) : Served (Except Errno Bytes) :=
  match w.openFile? p fd with
  | none => .answered w (.error .badDescriptor)
  | some (index, o) =>
    if !o.reads then .answered w (.error .badDescriptor)
    else
      match o.backing with
      | .directory _ => .answered w (.error .isDirectory)
      | .null => .answered w (.ok [])
      | .channel _ => .answered w (.ok [])
      | .zero => .answered w (.ok (List.replicate count 0))
      | .full => .answered w (.ok (List.replicate count 0))
      | .pipe number =>
        match w.pipes[number]? with
        | none => .answered w (.ok [])
        | some pipe =>
          if pipe.size = 0 then
            if w.pipeInUse number (·.writes) then
              if p.arrived = [] then .blocked w none else .answered w (.error .interrupted)
            else .answered w (.ok [])
          else
            let got := pipe.content.take count
            let left : Pipe := ⟨pipe.content.drop count, pipe.size - got.length, pipe.place⟩
            .answered { w with pipes := w.pipes.set! number left } (.ok got)
      | .file path =>
        let content := (w.content? o).getD []
        let got := (content.drop o.position).take count
        match w.files.find? path, got with
        | some (.damaged _ e), [] => .answered w (.error e)
        | _, _ => .answered (w.setPosition index (o.position + got.length)) (.ok got)
      | .removed content =>
        let got := (content.drop o.position).take count
        .answered (w.setPosition index (o.position + got.length)) (.ok got)

/-- Writes to an open file. -/
def write (w : World) (p : Process) (fd : Nat) (bytes : Bytes)
    (next : Except Errno Unit → Task) : Served (Except Errno Unit) :=
  match w.openFile? p fd with
  | none => .answered w (.error .badDescriptor)
  | some (index, o) =>
    if !o.writes then .answered w (.error .badDescriptor)
    else
      match o.backing with
      | .directory _ => .answered w (.error .isDirectory)
      | .null => .answered w (.ok ())
      | .zero => .answered w (.ok ())
      | .full => .answered w (if bytes = [] then .ok () else .error .noSpace)
      | .channel c =>
        .answered (if bytes = [] then w else { w with written := (c, bytes) :: w.written }) (.ok ())
      | .pipe number =>
        match w.pipes[number]? with
        | none => .answered w (.ok ())
        | some pipe =>
          if !w.pipeInUse number (·.reads) then
            .signaled w Signal.pipe.number (.error .brokenPipe)
          else
            let room := pipeRoom - pipe.size
            let size := bytes.length
            if size ≤ room then
              let filled : Pipe := ⟨pipe.content ++ bytes, pipe.size + size, pipe.place⟩
              .answered { w with pipes := w.pipes.set! number filled } (.ok ())
            else if room = 0 ∨ size ≤ pipeUnit then
              if p.arrived = [] then .blocked w none else .answered w (.error .interrupted)
            else
              let filled : Pipe := ⟨pipe.content ++ bytes.take room, pipeRoom, pipe.place⟩
              .partly { w with pipes := w.pipes.set! number filled }
                (.call (.write fd (bytes.drop room)) next)
      | _ =>
        let content := (w.content? o).getD []
        let position := if o.appends then content.length else o.position
        let taken := match (p.limit .fileSize).soft with
          | some most => bytes.take (most - position)
          | none => bytes
        let w := if taken = [] then w
          else w.setContent index o (if o.appends then content ++ taken
            else overwrite content position taken)
        let w := w.setPosition index (position + taken.length)
        if taken.length < bytes.length then
          .signaled w Signal.xfsz.number (.error .fileTooLarge)
        else .answered w (.ok ())

/-! ### Opening -/

/-- The first free number of a process from a least one on, if it may have one more. -/
def numberFor (p : Process) (least : Nat) : Except Errno Nat :=
  let number := p.freeNumber least
  if (p.limit .openFiles).soft.all (number < ·) then .ok number
  else .error .tooManyOpen

/-- Gives a process a new open file. -/
def install (w : World) (p : Process) (o : OpenFile) : Except Errno (World × Nat) :=
  (numberFor p 0).map fun number =>
    (({ w with opened := w.opened.push o }).put (p.give number w.opened.size), number)

/-- Answers a process with the number of a new open file. -/
def installed (w : World) (p : Process) (o : OpenFile) : Served (Except Errno Nat) :=
  match w.install p o with
  | .ok (w, number) => .answered w (.ok number)
  | .error e => .answered w (.error e)

/-- Drops the content of a file. -/
def empty (w : World) (path : Path) : World :=
  match w.files.find? path with
  | some (.file _ mode) =>
    ({ w with files := w.files.set path (.file [] mode) }).touch path
  | _ => w

/-- What stands behind an entry when it is opened. -/
def backing? (path : Path) : Node → Option Backing
  | .file content _ => some (if processRoot.isPrefixOf path then .removed content else .file path)
  | .damaged _ _ => some (.file path)
  | .program _ => some (.file path)
  | .directory => some (.directory path)
  | .null => some .null
  | .zero _ => some .zero
  | .full _ => some .full
  | _ => none

/-- The pipe that can be opened at a path, made if nobody has it open. -/
def namedPipe (w : World) (path : Path) : World × Nat :=
  match w.pipes.findIdx? fun pipe => pipe.place = some path with
  | some number => (w, number)
  | none => ({ w with pipes := w.pipes.push ⟨[], 0, some path⟩ }, w.pipes.size)

/-- Opens a pipe at a path. That takes until somebody has its other end open. -/
def openPipe (w : World) (p : Process) (path : Path) (how : Opening) :
    Served (Except Errno Nat) :=
  let (w, pipe) := w.namedPipe path
  let begun : Except Errno (World × Nat) := match p.opening with
    | some number => .ok (w, number)
    | none => w.install p ⟨.pipe pipe, 0, how.reads, how.writes, false⟩
  match begun with
  | .error e => .answered w (.error e)
  | .ok (w, number) =>
    let otherEnd := fun (o : OpenFile) => if how.reads then o.writes else o.reads
    if (how.reads ∧ how.writes) ∨ w.pipeInUse pipe otherEnd then
      .answered (w.update p.pid fun p => { p with opening := none }).wake (.ok number)
    else if p.opening.isSome then .blocked w none
    else .blocked ((w.update p.pid fun p => { p with opening := some number }).wake) none

/-- Opens what a process has open under a number once more. -/
def reopen (w : World) (p : Process) (number : Nat) (how : Opening) : Served (Except Errno Nat) :=
  match w.openFile? p number with
  | none => .answered w (.error .noEntry)
  | some (_, o) =>
    let w := match o.backing with
      | .file path => if how.empties then w.empty path else w
      | _ => w
    let o := { o with reads := how.reads, writes := how.writes, appends := how.appends }
    w.installed p <| match o.backing with
      | .file _ => { o with position := 0 }
      | _ => o

/-- Opens an entry. -/
def openEntry (w : World) (p : Process) (path : Path) (node : Node) (how : Opening) :
    Served (Except Errno Nat) :=
  match node with
  | .descriptor number => w.reopen p number how
  | .pipe => w.openPipe p path how
  | .terminal => .answered w (.error .noDevice)
  | _ =>
    match backing? path node with
    | none => .answered w (.error .noEntry)
    | some backing =>
      if node = .directory ∧ (how.writes ∨ how.creates) then .answered w (.error .isDirectory)
      else if how.writes ∧ w.isExecuted path then .answered w (.error .textBusy)
      else
        let w := if how.empties then w.empty path else w
        w.installed p ⟨backing, 0, how.reads, how.writes, how.appends⟩

/-- Whether an entry may be opened in a way. -/
def mayOpen (fs : FileSystem) (path : Path) (node : Node) (how : Opening) : Bool :=
  (!how.reads || fs.canRead path node) && (!how.writes || fs.canWrite path node)

/-- Opens a file. -/
def openFile (w : World) (p : Process) (path : Bytes) (how : Opening) :
    Served (Except Errno Nat) :=
  let fs := w.filesFor p path
  match fs.locate how.creates path with
  | .error e =>
    let isEntry : Bool := how.creates && how.exclusive && (fs.entryAt path).isOk
    .answered w (.error (if isEntry then .alreadyExists else e))
  | .ok (.found place node) =>
    if how.creates ∧ how.exclusive then .answered w (.error .alreadyExists)
    else if path.getLast? = some slash ∧ node ≠ .directory then
      .answered w (.error .notDirectory)
    else if node ≠ .directory ∧ !mayOpen fs place node how ∨
        node = .directory ∧ !how.writes ∧ !fs.canList place then
      .answered w (.error .permissionDenied)
    else w.openEntry p place node how
  | .ok (.absent directory name) =>
    if !how.creates ∨ !fs.isDirectory directory then .answered w (.error .noEntry)
    else if !fs.canChange directory then .answered w (.error .permissionDenied)
    else if how.exclusive ∧ (fs.entryAt path).isOk then .answered w (.error .alreadyExists)
    else
      let node := Node.file [] (p.newMode 0o666)
      let w := ({ w with files := w.files.add (directory ++ [name]) node }).stampNew
        (directory ++ [name]) 0
      w.openEntry p (directory ++ [name]) node { how with empties := false }

/-- Makes a pipe. -/
def makePipe (w : World) (p : Process) : Served (Except Errno (Nat × Nat)) :=
  let number := w.pipes.size
  let made := { w with pipes := w.pipes.push ⟨[], 0, none⟩ }
  let ends := do
    let (w, reading) ← made.install p ⟨.pipe number, 0, true, false, false⟩
    let p := (w.process? p.pid).getD p
    let (w, writing) ← w.install p ⟨.pipe number, 0, false, true, false⟩
    return (w, reading, writing)
  match ends with
  | .ok (w, both) => .answered w (.ok both)
  | .error e => .answered w (.error e)

/-! ### Numbers of open files -/

/-- Gives an open file another number as well. -/
def duplicate (w : World) (p : Process) (fd least : Nat) : Served (Except Errno Nat) :=
  match p.file? fd with
  | none => .answered w (.error .badDescriptor)
  | some file =>
    match numberFor p least with
    | .ok number => .answered (w.put (p.give number file)) (.ok number)
    | .error e => .answered w (.error e)

/-- Gives an open file a number, in place of what had it. -/
def redirect (w : World) (p : Process) (fd number : Nat) : Served (Except Errno Unit) :=
  match p.file? fd with
  | none => .answered w (.error .badDescriptor)
  | some file =>
    if fd = number then .answered w (.ok ())
    else .answered (w.put (p.give number file)).wake (.ok ())

/-- Forgets an open file. -/
def close (w : World) (p : Process) (fd : Nat) : Served (Except Errno Unit) :=
  match p.file? fd with
  | none => .answered w (.error .badDescriptor)
  | some _ => .answered (w.put (p.forget fd)).wake (.ok ())

/-- Keeps an open file from a program that replaces the one of the process. -/
def closeOnExec (w : World) (p : Process) (fd : Nat) : Served (Except Errno Unit) :=
  match p.file? fd with
  | none => .answered w (.error .badDescriptor)
  | some _ =>
    let p := { p with descriptors := p.descriptors.map fun d =>
      if d.number = fd then { d with withheld := true } else d }
    .answered (w.put p) (.ok ())

/-- Sets the position of an open file. -/
def seek (w : World) (p : Process) (fd : Nat) (base : Base) (offset : Int) :
    Served (Except Errno Nat) :=
  match w.openFile? p fd with
  | none => .answered w (.error .badDescriptor)
  | some (index, o) =>
    match o.backing with
    | .pipe _ => .answered w (.error .notSeekable)
    | .channel _ => .answered w (.error .notSeekable)
    | .null => .answered w (.ok 0)
    | .zero => .answered w (.ok 0)
    | .full => .answered w (.ok 0)
    | _ =>
      let size := ((w.content? o).getD []).length
      let origin : Int := match base with
        | .start => 0
        | .current => o.position
        | .finish => size
      let goal := origin + offset
      if goal < 0 then .answered w (.error .invalidArgument)
      else .answered (w.setPosition index goal.toNat) (.ok goal.toNat)

/-! ### Locks -/

/-- Whether the same stands behind two open files. -/
def isSame (fs : FileSystem) : Backing → Backing → Bool
  | .file a, .file b => (fs.names a).headD a = (fs.names b).headD b
  | .directory a, .directory b => a = b
  | .null, .null => true
  | .zero, .zero => true
  | .full, .full => true
  | .pipe a, .pipe b => a = b
  | .channel a, .channel b => a = b
  | _, _ => false

/-- Whether some process knows an open file. -/
def isHeld (w : World) (index : Nat) : Bool :=
  w.processes.any fun p => p.isAlive && p.descriptors.any (·.file = index)

/-- Whether a lock of an open file would be at odds with one of another open file. -/
def isContested (w : World) (index : Nat) (o : OpenFile) (how : Lock) : Bool :=
  w.locks.any fun (other, lock) =>
    other ≠ index && (how = .exclusive || lock = .exclusive) && w.isHeld other &&
      (w.opened[other]?).any fun q => isSame w.files q.backing o.backing

/-- Locks an open file as soon as that is possible, or unlocks it. A lock that it had before is
given up. -/
def lock (w : World) (p : Process) (fd : Nat) (how : Option Lock) (deadline : Option Nat) :
    Served (Except Errno Unit) :=
  match w.openFile? p fd with
  | none => .answered w (.error .badDescriptor)
  | some (index, o) =>
    let w := { w with locks := w.locks.filter (·.1 ≠ index) }
    match how with
    | none => .answered w.wake (.ok ())
    | some how =>
      if !w.isContested index o how then
        .answered { w with locks := (index, how) :: w.locks }.wake (.ok ())
      else if deadline.any (· ≤ w.now) then .answered w (.error .tryAgain)
      else .blocked w deadline

/-! ### Files -/

/-- The facts about an entry. -/
def factsAt (fs : FileSystem) (path : Path) (node : Node) : Facts :=
  let names := fs.names path
  let s := fs.stamp path
  let location := names.headD path
  let number := 1000 + fs.entries.findIdx (·.1 = location)
  let facts := fun (kind : Kind) (size mode : Nat) =>
    { kind, size, mode, location, names := names.length, modified := s.modified,
      accessed := s.accessed, number : Facts }
  match node with
  | .file content mode => facts .file content.length mode
  | .damaged content _ => facts .file content.length newFileMode
  | .program _ => facts .file 0x8000 0o755
  | .directory =>
    { facts .directory 4096 s.mode with names := if fs.isDirectory path then 1 else 0 }
  | .link content => facts .link content.length 0o777
  | .here => facts .link 0 0o777
  | .pipe => facts .pipe 0 s.mode
  | _ => { facts .device 0 0o666 with location := if fs.isDirectory path then [] else path }

/-- The facts about the entry that a path leads to, or names. -/
def facts (w : World) (p : Process) (path : Bytes) (through : Bool) :
    Served (Except Errno Facts) :=
  let fs := w.filesFor p path
  let found := if through then fs.entryThrough path else fs.entryAt path
  .answered w <| match found with
    | .error e => .error e
    | .ok (place, node) =>
      if place ≠ [] ∧ node = .directory ∧ !fs.isDirectory place ∧ place ≠ p.directory then
        .error .noEntry
      else .ok (factsAt fs place node)

/-- The facts about an open file. -/
def factsOf (w : World) (p : Process) (fd : Nat) : Served (Except Errno Facts) :=
  .answered w <| match w.openFile? p fd with
    | none => .error .badDescriptor
    | some (index, o) =>
      let unique : Path := [[], utf8 (toString index)]
      let plain := fun (kind : Kind) (size mode : Nat) (location : Path) =>
        ({ kind, size, mode, location } : Facts)
      .ok <| match o.backing with
        | .file path =>
          match w.files.find? path with
          | some node => factsAt w.files path node
          | none => plain .file 0 newFileMode path
        | .removed content => plain .file content.length newFileMode unique
        | .directory path => factsAt w.files path .directory
        | .pipe n => plain .pipe 0 0o600 [[], utf8 (toString n), []]
        | .channel .output => plain .file 0 newFileMode [[], []]
        | .channel .diagnostics => plain .file 0 newFileMode [[], [], []]
        | .null => plain .device 0 0o666 [utf8 "dev", utf8 "null"]
        | .zero => plain .device 0 0o666 [utf8 "dev", utf8 "zero"]
        | .full => plain .device 0 0o666 [utf8 "dev", utf8 "full"]

/-- The kind of an entry. -/
def kindOf (node : Node) : Kind :=
  match node with
  | .file _ _ => .file
  | .damaged _ _ => .file
  | .program _ => .file
  | .directory => .directory
  | .link _ => .link
  | .here => .link
  | .pipe => .pipe
  | _ => .device

/-- The names in a directory. Of one that has gone away there is nothing to be told. -/
def children (w : World) (p : Process) (path : Bytes) :
    Served (Except Errno (List (Name × Kind))) :=
  let fs := w.filesFor p path
  .answered w <| match fs.entryThrough path with
    | .error e => .error e
    | .ok (place, .directory) =>
      if !fs.isDirectory place then .error .noEntry
      else if fs.canList place then .ok ((fs.children place).map fun c => (c.1, kindOf c.2))
      else .error .permissionDenied
    | .ok _ => .error .notDirectory

/-- The path of a directory that a process is in or was in. -/
def pathOf (fs : FileSystem) (directory : Path) : Bytes :=
  if fs.isDirectory directory then Path.absolute directory
  else
    Path.absolute (directory.dropLast ++ [(directory.getLastD []).drop 1]) ++ utf8 " (deleted)"

/-- What stands behind an open file, as a path. -/
def nameOf (w : World) (o : OpenFile) : Bytes :=
  match o.backing with
  | .file path => Path.absolute path
  | .removed _ => utf8 "/ (deleted)"
  | .directory path => pathOf w.files path
  | .null => utf8 "/dev/null"
  | .zero => utf8 "/dev/zero"
  | .full => utf8 "/dev/full"
  | .pipe number => utf8 ("pipe:[" ++ toString (number + 1000) ++ "]")
  | .channel _ => utf8 "pipe:[999]"

/-- Where a link leads. -/
def linkContent (w : World) (p : Process) (path : Bytes) : Served (Except Errno Bytes) :=
  let fs := w.filesFor p path
  .answered w <| match fs.entryAt path with
    | .error e => .error e
    | .ok (_, .link content) => .ok content
    | .ok (_, .here) => .ok (pathOf w.files p.directory)
    | .ok (_, .descriptor number) =>
      match w.openFile? p number with
      | some (_, o) => .ok (w.nameOf o)
      | none => .error .noEntry
    | .ok _ => .error .invalidArgument

/-- Keeps open files with their content when the entry at a path goes away. If the entry has another
path, they are found there. -/
def detach (w : World) (path : Path) : World :=
  let content := match w.files.find? path with
    | some (.file content _) => content
    | _ => []
  let backing := match (w.files.names path).find? (· ≠ path) with
    | some another => Backing.file another
    | none => .removed content
  { w with opened := w.opened.map fun o =>
      match o.backing with
      | .file f => if f = path then { o with backing := backing } else o
      | _ => o }

/-- Lets open files follow an entry that gets another path. -/
def followMove (w : World) (source goal : Path) : World :=
  let moved := fun path : Path =>
    if source.isPrefixOf path then goal ++ path.drop source.length else path
  { w with
    opened := w.opened.map fun o =>
      match o.backing with
      | .file f => { o with backing := .file (moved f) }
      | .directory f => { o with backing := .directory (moved f) }
      | _ => o
    processes := w.processes.map fun p =>
      { p with directory := moved p.directory, executes := p.executes.map moved } }

/-- Lets processes keep a directory that goes away. -/
def detachDirectory (w : World) (path : Path) : World :=
  w.followMove path path.removed

/-- Makes an entry where a path names none, with permissions if it is a directory or a pipe. -/
def makeEntry (w : World) (p : Process) (path : Bytes) (node : Node) (mode : Nat) :
    Except Errno World :=
  let fs := w.filesOf p
  match fs.make path node, fs.target path with
  | .error e, _ => .error e
  | .ok made, .ok (.entry directory name _) =>
    .ok (({ w with files := { made with current := w.files.current } }).stampNew
      (directory ++ [name]) mode)
  | .ok made, _ => .ok { w with files := { made with current := w.files.current } }

/-- Gives an entry another path. What stood there is kept for those who use it. -/
def rename (w : World) (p : Process) (source goal : Bytes) : Except Errno World :=
  let fs := w.filesOf p
  match fs.rename source goal, fs.target source, fs.target goal with
  | .error e, _, _ => .error e
  | .ok changed, .ok (.entry d n _), .ok (.entry d' n' _) =>
    let (from_, to_) := (d ++ [n], d' ++ [n'])
    if (w.files.names from_).contains to_ then .ok w
    else
      let kept := if w.files.isDirectory to_ then w.detachDirectory to_ else w.detach to_
      let moved := kept.followMove from_ to_
      .ok ((({ moved with files := { changed with current := w.files.current } }).touch d).touch d')
  | .ok _, _, _ => .ok w

/-- Sets the permissions of what a path leads to. -/
def setMode (w : World) (p : Process) (path : Bytes) (mode : Nat) : Except Errno World :=
  match (w.filesFor p path).entryThrough path with
  | .error e => .error e
  | .ok (place, .file content _) => .ok { w with files := w.files.set place (.file content mode) }
  | .ok (place, node) =>
    if node = .directory ∨ node = .pipe then
      .ok { w with files := w.files.setStamp place { w.files.stamp place with mode := mode } }
    else .ok w

/-- Sets times of the entry that a path leads to, or names. -/
def setTimes (w : World) (p : Process) (path : Bytes) (through : Bool)
    (modified accessed : Option Int) : Except Errno World :=
  let fs := w.filesFor p path
  match if through then fs.entryThrough path else fs.entryAt path with
  | .error e => .error e
  | .ok (place, _) =>
    let s := w.files.stamp place
    let new : Stamp := ⟨s.mode, modified.getD s.modified, accessed.getD s.accessed⟩
    .ok { w with files := w.files.setStamp place new }

/-- Cuts the content of a file, or fills it with zeros. -/
def resize (w : World) (p : Process) (path : Bytes) (size : Nat) : Except Errno World :=
  match (w.filesFor p path).entryThrough path with
  | .error e => .error e
  | .ok (place, .file content mode) =>
    if mode &&& 0o200 = 0 then .error .permissionDenied
    else
      let content := content.take size ++ List.replicate (size - content.length) 0
      .ok (({ w with files := w.files.set place (.file content mode) }).touch place)
  | .ok (_, .directory) => .error .isDirectory
  | .ok _ => .error .invalidArgument

/-- Changes the tree of files. -/
def changeFiles (w : World) (p : Process) (c : Change) : Except Errno World :=
  let fs := w.filesOf p
  let back := fun (fs : FileSystem) => { fs with current := w.files.current }
  match c with
  | .makeDirectory path => w.makeEntry p path .directory (p.newMode 0o777)
  | .removeDirectory path =>
    match fs.removeDirectory path, fs.target path with
    | .error e, _ => .error e
    | .ok changed, .ok (.entry d n _) =>
      .ok (({ w.detachDirectory (d ++ [n]) with files := back changed }).touch d)
    | .ok changed, _ => .ok { w with files := back changed }
  | .unlink path =>
    match fs.unlink path, fs.target path with
    | .error e, _ => .error e
    | .ok changed, .ok (.entry d n _) =>
      .ok (({ w.detach (d ++ [n]) with files := back changed }).touch d)
    | .ok changed, _ => .ok { w with files := back changed }
  | .rename source goal => w.rename p source goal
  | .makeLink content path =>
    if content = [] then .error .noEntry else w.makeEntry p path (.link content) 0
  | .addName source goal =>
    match fs.link source goal, fs.target goal with
    | .error e, _ => .error e
    | .ok changed, .ok (.entry d _ _) => .ok (({ w with files := back changed }).touch d)
    | .ok changed, _ => .ok { w with files := back changed }
  | .setMode path mode => w.setMode p path mode
  | .setTimes path through modified accessed => w.setTimes p path through modified accessed
  | .resize path size => w.resize p path size
  | .makePipe path => w.makeEntry p path .pipe (p.newMode 0o666)

/-- Goes to a directory. -/
def enter (w : World) (p : Process) (path : Bytes) : Served (Except Errno Unit) :=
  let fs := w.filesFor p path
  match fs.entryThrough path with
  | .error e => .answered w (.error e)
  | .ok (place, .directory) =>
    if fs.canEnter place then .answered (w.put { p with directory := place }) (.ok ())
    else .answered w (.error .permissionDenied)
  | .ok _ => .answered w (.error .notDirectory)

/-! ### Processes -/

/-- Tells a process of the end of a child, by a certain time if one is given. -/
def wait (w : World) (p : Process) (pid : Option Nat) (deadline : Option Nat) :
    Served (Except Errno (Option (Nat × Ending))) :=
  let children := w.processes.filter fun c =>
    c.parent = p.pid && (match pid with
      | some n => c.pid = n
      | none => true)
  match children with
  | [] => .answered w (.error .noChild)
  | _ =>
    match children.findSome? fun c => c.ending.map fun e => (c.pid, e) with
    | some (pid, ending) =>
      .answered { w with processes := w.processes.filter (·.pid ≠ pid) } (.ok (some (pid, ending)))
    | none =>
      match deadline with
      | some t =>
        if t ≤ w.now then .answered w (.ok none)
        else if p.arrived ≠ [] then .answered w (.error .interrupted)
        else .blocked w (some t)
      | none => if p.arrived ≠ [] then .answered w (.error .interrupted) else .blocked w none

/-- The number of the process that nobody made, and that no signal reaches. -/
def rootPid : Nat := 1

/-- The processes that a signal is meant for: the one of a number, those of the own group for the
number zero, those of another group for a number below zero, or all others for minus one. -/
def addressees (w : World) (p : Process) (pid : Int) : List Nat :=
  let isMeant := fun (q : Process) =>
    if pid = -1 then q.pid ≠ p.pid
    else if pid = 0 then q.group = p.group
    else if pid < 0 then (q.group : Int) = -pid
    else (q.pid : Int) = pid
  (w.processes.filter isMeant).map (·.pid)

/-- Sends a signal. The sender gets it last, if it is meant too. -/
def send (w : World) (p : Process) (pid : Int) (number : Nat) : World × Except Errno Unit :=
  if pid = rootPid then (w, if 64 < number then .error .invalidArgument else .ok ())
  else
    match w.addressees p pid with
    | [] => (w, .error .noProcess)
    | found =>
      if 64 < number then (w, .error .invalidArgument)
      else if number = 0 then (w, .ok ())
      else
        let others := found.filter (· ≠ p.pid)
        let own := found.filter (· = p.pid)
        ((others ++ own).foldl (fun w n => w.deliver n number) w, .ok ())

/-- Sets what a process does when it gets a signal. -/
def react (w : World) (p : Process) (number : Nat) (reaction : Reaction) : Served Reaction :=
  let old : Reaction :=
    if p.ignored.contains number then .ignore
    else if p.watched.contains number then .remember else .usual
  let add := fun (list : List Nat) (wanted : Bool) =>
    if wanted then number :: list.filter (· ≠ number) else list.filter (· ≠ number)
  .answered (w.put { p with
    ignored := add p.ignored (reaction = .ignore)
    watched := add p.watched (reaction = .remember) }) old

/-- Has signals wait, or lets those through that did. -/
def withhold (w : World) (p : Process) (numbers : List Nat) (waiting : Bool) : Served Unit :=
  let others := p.withheld.filter (!numbers.contains ·)
  if waiting then .answered (w.put { p with withheld := numbers ++ others }) ()
  else
    let due := p.waiting.filter numbers.contains
    let let_ := w.put { p with
      withheld := others, waiting := p.waiting.filter (!numbers.contains ·) }
    .answered (due.reverse.foldl (fun w n => w.deliver p.pid n) let_) ()

/-- Tells how much a process gets of something, and sets the limit if one is given. It cannot be
made greater than it could be before. -/
def limit (w : World) (p : Process) (r : Resource) (new : Option Limit) :
    Served (Except Errno Limit) :=
  let old := p.limit r
  let within := fun (n most : Option Nat) => match n, most with
    | _, none => true
    | none, some _ => false
    | some n, some m => n ≤ m
  match new with
  | none => .answered w (.ok old)
  | some l =>
    if !within l.soft l.hard then .answered w (.error .invalidArgument)
    else if !within l.hard old.hard then .answered w (.error .notPermitted)
    else
      .answered (w.put { p with limits := (r, l) :: p.limits.filter (·.1 ≠ r) }) (.ok old)

/-- Has a process let others go first by so much more. It cannot go first itself. -/
def yield (w : World) (p : Process) (more : Int) : Served (Except Errno Int) :=
  let niceness := max (-20) (min 19 (p.niceness + more))
  if niceness < p.niceness then .answered w (.error .permissionDenied)
  else .answered (w.put { p with niceness := niceness }) (.ok niceness)

/-- Lets a process do nothing for a time. The answer is whether it was left alone for so long. -/
def sleep (w : World) (p : Process) (span : Nat) : Served Bool :=
  match p.deadline with
  | some t =>
    if t ≤ w.now then .answered w true
    else if p.arrived ≠ [] then .answered w false
    else .blocked w (some t)
  | none => if span = 0 then .answered w true else .blocked w (some (w.now + span))

end World

end CommandShell
