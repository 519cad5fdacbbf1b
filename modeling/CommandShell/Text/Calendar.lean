import CommandShell.Text.Format

/-!
# The calendar

A day is known by its number, counted from the first day of 1970, or by year, month and day in the
Gregorian calendar, which is taken to have been in use for ever. A point in time is a number of
billionths of a second from the beginning of that day in Greenwich; in a zone it is some day and
some time of the day. Texts show it as directives ask for.
-/

namespace CommandShell.Text.Calendar

/-! ### Days -/

/-- The number of days before a year, counted from the first day of the year zero. -/
def daysBeforeYear (year : Int) : Int :=
  let y := year - 1
  365 * year + (y.fdiv 4 - y.fdiv 100 + y.fdiv 400) + 1

/-- Whether a year has one day more. -/
def isLeap (year : Int) : Bool :=
  year.fmod 4 = 0 && (year.fmod 100 ≠ 0 || year.fmod 400 = 0)

/-- The numbers of days of the months. -/
def monthLengths (year : Int) : List Nat :=
  [31, if isLeap year then 29 else 28, 31, 30, 31, 30, 31, 31, 30, 31, 30, 31]

/-- The number of days of a year before a month; months are counted from zero. -/
def daysBeforeMonth (year : Int) (month : Nat) : Nat :=
  sumOf ((monthLengths year).take month)

/-- The number of the day that a year, a month and a day of it name. Months are counted from zero
and may be beyond the year, and days may be beyond the month. -/
def dayNumber (year month day : Int) : Int :=
  let y := year + month.fdiv 12
  let m := (month.fmod 12).toNat
  daysBeforeYear y - daysBeforeYear 1970 + daysBeforeMonth y m + day - 1

/-- The year of a day, with the number of days of that year before it. -/
def yearOf (day : Int) : Int × Nat :=
  let guess := 1970 + (day * 400).fdiv 146097
  let offset := fun (year : Int) => day - (daysBeforeYear year - daysBeforeYear 1970)
  let year :=
    if offset guess < 0 then guess - 1
    else if (if isLeap guess then 366 else 365) ≤ offset guess then guess + 1 else guess
  (year, (offset year).toNat)

/-- The month of a day of the year, counted from zero, with the day of the month. -/
def monthOf : List Nat → Nat → Nat → Nat × Nat
  | [], month, rest => (month, rest + 1)
  | length :: others, month, rest =>
    if rest < length then (month, rest + 1) else monthOf others (month + 1) (rest - length)

/-! ### Zones -/

/-- A zone: what its time is ahead of that of Greenwich, in seconds, and its name. -/
structure Zone where
  /-- What it is ahead. -/
  ahead : Int
  /-- Its name. -/
  name : Bytes

/-- The zone of Greenwich. -/
def Zone.greenwich : Zone := ⟨0, utf8 "UTC"⟩

/-- The number that digits spell, with what follows. -/
def numberOf (bytes : Bytes) : Option (Nat × Bytes) :=
  let digits := Format.Real.digitsOf bytes
  if digits = [] then none else some (Format.Real.count digits, bytes.drop digits.length)

/-- The zone that a setting describes: its name, and how far it is behind. Of a setting that makes
no sense as such only the name is kept. -/
def Zone.ofSetting (setting : Bytes) : Zone :=
  let name := setting.takeWhile fun b => (0x41 ≤ b && b ≤ 0x5A) || (0x61 ≤ b && b ≤ 0x7A)
  if name.length < 3 then .greenwich
  else
    let rest := setting.drop name.length
    let (behind, digits) : Bool × Bytes := match rest with
      | 0x2D :: more => (false, more)
      | 0x2B :: more => (true, more)
      | _ => (true, rest)
    let part := fun (bytes : Bytes) => match bytes with
      | 0x3A :: more => numberOf more
      | _ => none
    match numberOf digits with
    | none => ⟨0, name⟩
    | some (hours, more) =>
      let (minutes, more) := (part more).getD (0, more)
      let (seconds, _) := (part more).getD (0, more)
      let total : Int := hours * 3600 + minutes * 60 + seconds
      ⟨if behind then -total else total, name⟩

/-! ### Points in time -/

/-- The number of billionths in a second. -/
def billion : Nat := 1000000000

/-- The day and the time of the day of a point in time. -/
structure Moment where
  /-- The year. -/
  year : Int
  /-- The month, counted from zero. -/
  month : Nat
  /-- The day of the month. -/
  day : Nat
  /-- The hour. -/
  hour : Nat
  /-- The minute. -/
  minute : Nat
  /-- The second. -/
  second : Nat
  /-- The billionths of a second. -/
  fraction : Nat
  /-- The day of the week, from Sunday on. -/
  weekday : Nat
  /-- The number of days of the year before the day. -/
  yearDay : Nat
  /-- The zone. -/
  zone : Zone

/-- The moment of a point in time in a zone. -/
def Moment.ofTime (zone : Zone) (time : Int) : Moment :=
  let seconds := time.fdiv billion + zone.ahead
  let day := seconds.fdiv 86400
  let rest := (seconds.fmod 86400).toNat
  let (year, yearDay) := yearOf day
  let (month, monthDay) := monthOf (monthLengths year) 0 yearDay
  { year, month, day := monthDay, hour := rest / 3600, minute := rest / 60 % 60, second := rest % 60
    fraction := (time.fmod billion).toNat, weekday := ((day + 4).fmod 7).toNat, yearDay, zone }

/-- The seconds from the beginning of 1970 up to a moment. -/
def Moment.seconds (m : Moment) : Int :=
  dayNumber m.year m.month m.day * 86400 + m.hour * 3600 + m.minute * 60 + m.second - m.zone.ahead

/-! ### Words -/

/-- The names of the days of the week. -/
def weekdays : List String :=
  ["Sunday", "Monday", "Tuesday", "Wednesday", "Thursday", "Friday", "Saturday"]

/-- The names of the months. -/
def months : List String :=
  ["January", "February", "March", "April", "May", "June", "July", "August", "September", "October",
   "November", "December"]

/-! ### Weeks -/

/-- The week of the year that a day is in, if weeks begin with a certain day of the week. -/
def Moment.week (m : Moment) (start : Nat) : Nat :=
  (m.yearDay + 7 - (m.weekday + 7 - start) % 7) / 7

/-- The year and the week that a day belongs to if a week belongs to the year of its Thursday. -/
def Moment.ownedWeek (m : Moment) : Int × Nat :=
  let thursday := dayNumber m.year m.month m.day - ((m.weekday + 6) % 7 : Nat) + 3
  let (year, yearDay) := yearOf thursday
  (year, yearDay / 7 + 1)

/-! ### Directives -/

/-- How a number is filled up in front. -/
inductive Fill where
  | zeros | blanks | nothing
deriving DecidableEq

/-- How the value of a directive is written. -/
structure Style where
  /-- How it is filled up, if that is said. -/
  fill : Option Fill
  /-- Its letters are made great. -/
  upper : Bool
  /-- Its letters are made the other way. -/
  swap : Bool
  /-- Its width, if that is said. -/
  width : Option Nat

/-- The style of a directive that says nothing of it. -/
def Style.plain : Style := ⟨none, false, false, none⟩

/-- A number in a style that has a usual width and filling. -/
def Style.number (s : Style) (width : Nat) (fill : Fill) (n : Int) : Bytes :=
  let digits := Format.digits 10 false n.natAbs
  let sign : Bytes := if n < 0 then [0x2D] else []
  let width := (s.width.getD width) - sign.length
  let missing := width - digits.length
  match s.fill.getD fill with
  | .zeros => sign ++ List.replicate missing (0x30 : UInt8) ++ digits
  | .blanks => List.replicate missing (0x20 : UInt8) ++ sign ++ digits
  | .nothing => sign ++ digits

/-- A letter in capitals. -/
def great (b : UInt8) : UInt8 :=
  if 0x61 ≤ b ∧ b ≤ 0x7A then b - 0x20 else b

/-- A letter in small type. -/
def small (b : UInt8) : UInt8 :=
  if 0x41 ≤ b ∧ b ≤ 0x5A then b + 0x20 else b

/-- A text in a style. Letters that are to be made the other way become great, or small if the
directive says so. -/
def Style.text (s : Style) (lowers : Bool) (text : Bytes) : Bytes :=
  let text :=
    if s.swap ∧ lowers then text.map small
    else if s.upper ∨ s.swap then text.map great else text
  let missing := (s.width.getD 0) - text.length
  let filler : UInt8 := if s.fill = some .zeros then 0x30 else 0x20
  if s.fill = some .nothing then text else List.replicate missing filler ++ text

/-- What a zone is ahead, with so many colons; with three, what is zero at the end is left out. -/
def shownZone (s : Style) (colons : Nat) (z : Zone) : Bytes :=
  let n := z.ahead.natAbs
  let two := fun (k : Nat) => Style.plain.number 2 .zeros k
  let sign : UInt8 := if z.ahead < 0 then 0x2D else 0x2B
  let (hours, minutes, seconds) := (n / 3600, n / 60 % 60, n % 60)
  let colon : Bytes := [0x3A]
  let colons :=
    if colons < 3 then colons else if seconds ≠ 0 then 2 else if minutes ≠ 0 then 1 else 3
  let back := match colons with
    | 0 => two minutes
    | 1 => colon ++ two minutes
    | 2 => colon ++ two minutes ++ colon ++ two seconds
    | _ => []
  let front := two hours
  let missing := (s.width.getD 0) - (1 + front.length + back.length)
  match s.fill with
  | some .blanks => List.replicate missing (0x20 : UInt8) ++ sign :: front ++ back
  | _ => sign :: List.replicate missing (0x30 : UInt8) ++ front ++ back

/-- What stands for some letters of directives: a text of other directives. -/
def shorthand? (letter : UInt8) : Option String :=
  match Char.ofNat letter.toNat with
  | 'c' => some "%a %b %e %H:%M:%S %Y"
  | 'D' => some "%m/%d/%y"
  | 'x' => some "%m/%d/%y"
  | 'F' => some "%Y-%m-%d"
  | 'r' => some "%I:%M:%S %p"
  | 'R' => some "%H:%M"
  | 'T' => some "%H:%M:%S"
  | 'X' => some "%H:%M:%S"
  | _ => none

/-- The value of a directive in a style, if its letter is known. -/
def Moment.value? (m : Moment) (s : Style) (letter : UInt8) : Option Bytes :=
  let two := fun (n : Int) => some (s.number 2 .zeros n)
  let padded := fun (n : Int) => some (s.number 2 .blanks n)
  let word := fun (names : List String) (i : Nat) (cut : Bool) =>
    let name := utf8 (names[i]?.getD "?")
    some (s.text false (if cut then name.take 3 else name))
  let half : Int := if m.hour % 12 = 0 then 12 else ((m.hour % 12 : Nat) : Int)
  let part := if m.hour < 12 then "AM" else "PM"
  match Char.ofNat letter.toNat with
  | '%' => some (s.text false [0x25])
  | 'n' => some (s.text false [0x0A])
  | 't' => some (s.text false [0x09])
  | 'a' => word weekdays m.weekday true
  | 'A' => word weekdays m.weekday false
  | 'b' => word months m.month true
  | 'h' => word months m.month true
  | 'B' => word months m.month false
  | 'C' => two (m.year.fdiv 100)
  | 'd' => two m.day
  | 'e' => padded m.day
  | 'g' => two (m.ownedWeek.1.fmod 100)
  | 'G' => some (s.number 4 .zeros m.ownedWeek.1)
  | 'H' => two m.hour
  | 'I' => two half
  | 'j' => some (s.number 3 .zeros (m.yearDay + 1))
  | 'k' => padded m.hour
  | 'l' => padded half
  | 'm' => two (m.month + 1)
  | 'M' => two m.minute
  | 'N' =>
    let digits := Style.plain.number 9 .zeros m.fraction
    some <| match s.width with
      | none => digits
      | some n => digits.take n ++ List.replicate (n - 9) (0x30 : UInt8)
  | 'p' => some (s.text true (utf8 part))
  | 'P' => some (s.text false ((utf8 part).map small))
  | 'q' => some (s.number 1 .zeros (m.month / 3 + 1))
  | 's' => some (s.number 1 .zeros m.seconds)
  | 'S' => two m.second
  | 'u' => some (s.number 1 .zeros ((m.weekday + 6) % 7 + 1 : Nat))
  | 'U' => two (m.week 0)
  | 'V' => two m.ownedWeek.2
  | 'w' => some (s.number 1 .zeros m.weekday)
  | 'W' => two (m.week 1)
  | 'y' => two (m.year.fmod 100)
  | 'Y' => some (s.number 4 .zeros m.year)
  | 'z' => some (shownZone s 0 m.zone)
  | 'Z' => some (s.text true m.zone.name)
  | _ => none

/-- Adds a flag to a style. -/
def Style.flag (s : Style) (b : UInt8) : Style :=
  match Char.ofNat b.toNat with
  | '_' => { s with fill := some .blanks }
  | '-' => { s with fill := some .nothing }
  | '0' => { s with fill := some .zeros }
  | '+' => { s with fill := some .zeros }
  | '^' => { s with upper := true }
  | '#' => { s with swap := true }
  | _ => s

/-- A moment as a text with directives shows it. A directive that is not known is left as it is. -/
def Moment.shown (m : Moment) : Nat → Bytes → Bytes
  | 0, _ => []
  | fuel + 1, format =>
    match format with
    | [] => []
    | 0x25 :: rest =>
      let flags := rest.takeWhile (utf8 "_-0+^#").contains
      let style := flags.foldl Style.flag Style.plain
      let rest := rest.drop flags.length
      let (style, rest) := match numberOf rest with
        | some (n, rest) => ({ style with width := some n }, rest)
        | none => (style, rest)
      let rest := match rest with
        | b :: more => if b = 0x45 ∨ b = 0x4F then more else rest
        | [] => rest
      let colons := (rest.takeWhile (· = 0x3A)).length
      match rest.drop colons with
      | [] => format
      | letter :: more =>
        let text := fun (bytes : Bytes) => bytes ++ m.shown fuel more
        if 0 < colons then
          if letter = 0x7A ∧ colons ≤ 3 then text (shownZone style colons m.zone)
          else text (format.take (format.length - more.length))
        else
          match shorthand? letter, m.value? style letter with
          | some inner, _ => text (style.text false (m.shown fuel (utf8 inner)))
          | none, some value => text value
          | none, none => text (format.take (format.length - more.length))
    | b :: rest => b :: m.shown fuel rest

/-- A point in time as a text with directives shows it in a zone. -/
def shown (zone : Zone) (format : Bytes) (time : Int) : Bytes :=
  (Moment.ofTime zone time).shown (format.length + 32) format

end CommandShell.Text.Calendar
