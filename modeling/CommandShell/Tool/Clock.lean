import CommandShell.Text.DateText
import CommandShell.Tool.Input
import CommandShell.Tool.Words

/-!
# Dates and times

A point in time is written as a format says: the present, that of a text, those of the lines of a
file, or the time at which a file was last changed.
-/

namespace CommandShell.Tool

open Text

namespace Work

/-- The present. -/
def present : Work Int := do
  let span : Nat ← call .time
  return Stamp.timeAfter span

/-- The zone of the environment. -/
def zone : Work Calendar.Zone := do
  return match ← setting? "TZ" with
    | some text => .ofSetting text
    | none => .greenwich

end Work

open Work

namespace Clock

/-- The format that is used if no other is given. -/
def usualFormat : String := "%a %b %e %H:%M:%S %Z %Y"

/-- The formats of a date and a time, as far as some unit. -/
def dateFormat (unit separator zone : String) : String :=
  match unit with
  | "hours" => "%Y-%m-%d" ++ separator ++ "%H" ++ zone
  | "minutes" => "%Y-%m-%d" ++ separator ++ "%H:%M" ++ zone
  | "seconds" => "%Y-%m-%d" ++ separator ++ "%H:%M:%S" ++ zone
  | "ns" => "%Y-%m-%d" ++ separator ++ "%H:%M:%S" ++ (if separator = " " then "." else ",") ++
    "%N" ++ zone
  | _ => "%Y-%m-%d"

/-- The format that an option asks for. -/
def formatOf? (g : Given) : Work (Option Bytes) := do
  match g.key with
  | "I" =>
    match g.value with
    | none => return some (utf8 (dateFormat "date" "T" "%:z"))
    | some word =>
      let unit ← Options.choice "--iso-8601"
        [["hours"], ["minutes"], ["date"], ["seconds"], ["ns"]] word
      return some (utf8 (dateFormat unit "T" "%:z"))
  | "rfc-3339" =>
    let unit ← Options.choice "--rfc-3339" [["date"], ["seconds"], ["ns"]] (g.value.getD [])
    return some (utf8 (dateFormat unit " " "%:z"))
  | "R" => return some (utf8 "%a, %d %b %Y %H:%M:%S %z")
  | _ => return none

/-- The time that digits alone say: month, day, hour and minute, perhaps with a year behind or in
front, and with seconds after a point. -/
def timeOfDigits? (yearInFront : Bool) (zone : Calendar.Zone) (now : Int) (text : Bytes) :
    Option Int :=
  let digits := Format.Real.digitsOf text
  let back := text.drop digits.length
  let pairs := (List.range (digits.length / 2)).map fun i =>
    Format.Real.count ((digits.drop (2 * i)).take 2)
  let second? : Option Nat := match back with
    | [] => some 0
    | [0x2E, a, b] => if [a, b] = Format.Real.digitsOf [a, b] then
        some (Format.Real.count [a, b]) else none
    | _ => none
  let yearOf := fun (years : List Nat) => match years with
    | [] => some (Calendar.Moment.ofTime zone now).year
    | [y] => some (if y < 69 then (2000 + y : Nat) else (1900 + y : Nat))
    | [c, y] => some ((100 * c + y : Nat) : Int)
    | _ => none
  let extra := pairs.length - 4
  let (years, parts) := if yearInFront then (pairs.take extra, pairs.drop extra)
    else (pairs.drop 4, pairs.take 4)
  match second?, yearOf years, parts with
  | some second, some year, [month, day, hour, minute] =>
    let length := ((Calendar.monthLengths year)[month - 1]?).getD 0
    if digits.length % 2 = 1 ∨ month = 0 ∨ day = 0 ∨ length < day ∨ 23 < hour ∨ 59 < minute ∨
        60 < second then none
    else
      let number := Calendar.dayNumber year (month - 1) day
      some ((number * 86400 + hour * 3600 + minute * 60 + second - zone.ahead) * Calendar.billion)
  | _, _, _ => none

/-- Writes a point in time. -/
def writeTime (zone : Calendar.Zone) (format : Bytes) (time : Int) : Work Unit :=
  putLine (Calendar.shown zone format time)

/-- Writes the point in time that a text says. -/
def writeText (zone : Calendar.Zone) (format : Bytes) (text : Bytes) : Work Unit := do
  match Calendar.time? zone (← present) text with
  | some time => writeTime zone format time
  | none => complain (utf8 "invalid date " ++ Quote.shell text)

end Clock

open Clock in
/-- Writes points in time. -/
def date (args : List Bytes) : Work Unit := do
  let f ← Options.read [.valued "d" "date", .flag "" "debug", .valued "f" "file",
    ⟨"I", "iso-8601", .optional⟩, .flag "" "resolution", .flag "R" "rfc-email",
    .flag "R" "rfc-822", .flag "R" "rfc-2822", .valued "" "rfc-3339", .valued "r" "reference",
    .valued "s" "set", .flag "u" "utc", .flag "u" "universal", .flag "u" "uct"] true 1 args
  let formats := (← f.given.mapM formatOf?).filterMap id
  if 1 < formats.length then fail 1 (utf8 "multiple output formats specified")
  let sources := ["d", "f", "r", "resolution"].filter f.has
  if 1 < sources.length then
    misused 1 (utf8 "the options to specify dates for printing are mutually exclusive")
  if sources ≠ [] ∧ f.has "s" then
    misused 1 (utf8 "the options to print and set the time may not be used together")
  match f.operands.drop 1 with
  | extra :: _ => misused 1 (utf8 "extra operand " ++ Quote.shell extra)
  | [] => pure ()
  let (chosen, digits) : Option Bytes × Option Bytes := match f.operands with
    | (0x2B :: format) :: _ => (some format, none)
    | word :: _ => (none, some word)
    | [] => (none, none)
  match digits with
  | some word =>
    if sources ≠ [] ∨ f.has "s" then
      misused 1 (utf8 "the argument " ++ Quote.shell word ++
        utf8 (" lacks a leading '+';\nwhen using an option to specify date(s), any non-option\n" ++
          "argument must be a format string beginning with '+'"))
  | none => pure ()
  if chosen.isSome ∧ formats ≠ [] then fail 1 (utf8 "multiple output formats specified")
  let zone ← if f.has "u" then pure .greenwich else zone
  let now ← present
  let usual := if f.has "resolution" then "%s.%N" else usualFormat
  let format := (chosen.or formats.head?).getD (utf8 usual)
  match f.value? "f" with
  | some name =>
    match ← contentOf name with
    | .error e => complainOf (Quote.name name) e
    | .ok text =>
      for line in linesOf 0x0A text do
        writeText zone format line.bytes
    return ()
  | none => pure ()
  let refusesToSet : Int → Work Unit := fun time => do
    say (utf8 "cannot set date: Operation not permitted")
    fault 1
    writeTime zone format time
  match f.value? "r", f.value? "d", f.value? "s", digits with
  | some name, _, _, _ =>
    match ← call (.facts name true) with
    | .ok k => writeTime zone format k.modified
    | .error e => complainOf (Quote.name name) e
  | none, some text, _, _ => writeText zone format text
  | none, none, some text, _ =>
    match Calendar.time? zone now text with
    | some time => refusesToSet time
    | none => complain (utf8 "invalid date " ++ Quote.shell text)
  | none, none, none, some word =>
    match timeOfDigits? false zone now word with
    | some time => refusesToSet time
    | none => complain (utf8 "invalid date " ++ Quote.shell word)
  | none, none, none, none => writeTime zone format (if f.has "resolution" then 1 else now)

end CommandShell.Tool
