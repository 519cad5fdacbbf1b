import CommandShell.Tool.Clock
import CommandShell.Tool.Describe
import CommandShell.Tool.Listing.Naming
import CommandShell.Tool.Scale

/-!
# Entries of listings

An entry of a listing is a name with what is known of it. In front of the name its number and the
room that it takes may be written, and in a long listing also its permissions, the number of its
names, its owner, its size and a time. The fields of all entries of a listing are as wide as the
widest of them.
-/

namespace CommandShell.Tool.Listing

open Text Work

/-- A name that is listed. -/
structure Entry where
  /-- The name. -/
  name : Bytes
  /-- What it is the name of. -/
  kind : Kind
  /-- What is known of it. -/
  facts : Option Facts
  /-- The number of its names. -/
  names : Nat := 1
  /-- Where it leads, if it is a link, with what is known of what is there. -/
  goal : Option (Bytes × Option Facts) := none

/-- Which time of an entry is meant. -/
inductive Time where
  | modified | changed | accessed | born
deriving DecidableEq

/-- A time of an entry. -/
def Time.of (t : Time) (f : Facts) : Int :=
  match t with
  | .accessed => f.accessed
  | _ => f.modified

/-- How a time is written: in one way if it is long ago or yet to come, and in another if not. -/
structure TimeStyle where
  /-- The format of a time that is long ago. -/
  old : Bytes
  /-- The format of another. -/
  recent : Bytes

namespace TimeStyle

/-- The same format for all times. -/
def same (format : String) : TimeStyle := ⟨utf8 format, utf8 format⟩

/-- The style that is used if no other is asked for. -/
def usual : TimeStyle := ⟨utf8 "%b %e  %Y", utf8 "%b %e %H:%M"⟩

/-- The styles that have names. -/
def named : List (String × TimeStyle) :=
  [("full-iso", same "%Y-%m-%d %H:%M:%S.%N %z"), ("long-iso", same "%Y-%m-%d %H:%M"),
   ("iso", ⟨utf8 "%Y-%m-%d ", utf8 "%m-%d %H:%M"⟩), ("locale", usual)]

/-- Half a year, in billionths of a second. -/
def halfYear : Int := 15778476 * Calendar.billion

/-- A time as it is written. -/
def shown (s : TimeStyle) (zone : Calendar.Zone) (now time : Int) : Bytes :=
  Calendar.shown zone (if now - halfYear < time ∧ time ≤ now then s.recent else s.old) time

end TimeStyle

/-- What a long listing tells. -/
structure Telling where
  /-- The owner. -/
  owner : Bool
  /-- The group. -/
  group : Bool
  /-- The one who made the file. -/
  author : Bool
  /-- Owners and groups are written as numbers. -/
  numeric : Bool
  /-- How sizes are written. -/
  scale : Scale
  /-- How times are written. -/
  style : TimeStyle
  /-- The zone of times. -/
  zone : Calendar.Zone
  /-- The present. -/
  now : Int

/-- A field of a line. -/
structure Field where
  /-- What is written. -/
  text : Bytes
  /-- It stands at the left. -/
  left : Bool

/-- A text filled up with blanks to a width. -/
def Field.filled (f : Field) (width : Nat) : Bytes :=
  let blanks := List.replicate (width - f.text.length) (0x20 : UInt8)
  if f.left then f.text ++ blanks else blanks ++ f.text

/-- The fields of rows, one below the other and each with a blank behind it. -/
def aligned (rows : List (List Field)) : List Bytes :=
  let count := (rows.map (·.length)).foldl max 0
  let widths := (List.range count).map fun i =>
    (rows.map fun row => ((row[i]?).map (·.text.length)).getD 0).foldl max 0
  rows.map fun row => (row.zip widths).flatMap fun (f, width) => f.filled width ++ [0x20]

/-- The numbers of a device: that of its driver and its own. -/
def deviceNumbers (f : Facts) : Nat × Nat :=
  let name := f.location.getLastD []
  let numbers := [("null", 1, 3), ("zero", 1, 5), ("full", 1, 7), ("random", 1, 8),
    ("urandom", 1, 9), ("tty", 5, 0)]
  ((numbers.find? fun d => utf8 d.1 = name).map (·.2)).getD (1, 0)

/-- The number of bytes of the room that an entry takes. -/
def roomOf (f : Facts) : Nat :=
  4096 * Description.units f

/-- The size of an entry as it is written, or the numbers of a device. -/
def sizeText (scale : Scale) (f : Facts) : Bytes :=
  if f.kind = .device then
    let (driver, own) := deviceNumbers f
    utf8 s!"{driver}, {own}"
  else scale.shown f.size

/-- The fields of an entry in a long listing, up to its size. -/
def longFields (t : Telling) (e : Entry) : List Field :=
  let unknown := utf8 "?"
  let owner : Bytes := if e.facts.isNone then unknown else utf8 (if t.numeric then "0" else "root")
  let owners := [t.owner, t.group, t.author].filter id
  let mode := match e.facts with
    | some f => Description.letters f
    | none => Description.kindLetter e.kind :: List.replicate 9 (0x3F : UInt8)
  let size := (e.facts.map (sizeText t.scale)).getD unknown
  let names : Bytes := if e.facts.isNone then unknown else Scale.decimal e.names
  [⟨mode, true⟩, ⟨names, false⟩] ++ owners.map (fun _ => ⟨owner, !t.numeric⟩) ++ [⟨size, false⟩]

/-- The time of an entry in a long listing; a question mark if it is not known, in a field as wide
as that of a time. -/
def momentText (t : Telling) (time : Time) (e : Entry) : Bytes :=
  match if time = .born then none else e.facts with
  | some f => t.style.shown t.zone t.now (time.of f)
  | none => Field.filled ⟨utf8 "?", false⟩ (t.style.shown t.zone t.now 0).length

end CommandShell.Tool.Listing
