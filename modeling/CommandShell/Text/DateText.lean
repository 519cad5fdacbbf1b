import CommandShell.Text.Calendar

/-!
# Dates in words

A text may say a date, a time of the day, a zone, a day of the week, and what lies between that and
what is meant, in any order: `2001-02-03 04:05 UTC`, `next Monday`, `3 days ago`. It is cut into
tokens, and these are read item by item. What is not said is taken from the present: all of it if
only a distance is given, else the date alone, and the time is the beginning of the day.
-/

namespace CommandShell.Text.Calendar

/-- A unit of time. -/
inductive TimeUnit where
  | year | month | day | hour | minute | second
deriving DecidableEq

/-- A token of a date. -/
inductive DateToken where
  /-- A number without a sign, with the number of its digits. -/
  | number (value digits : Nat)
  /-- A number with a sign, with the number of its digits. -/
  | signed (value : Int) (digits : Nat)
  /-- A number with a fraction in billionths, and whether it has a sign. -/
  | decimal (hasSign : Bool) (value : Int) (fraction : Nat)
  /-- A month, counted from one. -/
  | month (n : Nat)
  /-- A day of the week. -/
  | weekday (n : Nat)
  /-- The half of the day. -/
  | half (afternoon : Bool)
  /-- So many of a unit of time. -/
  | unit (u : TimeUnit) (count : Nat)
  /-- A day, by its distance from the present one. -/
  | shift (days : Int)
  /-- A word that counts. -/
  | ordinal (n : Int)
  /-- The direction of a distance. -/
  | direction (n : Int)
  /-- A zone, by what it is ahead in seconds. -/
  | zone (ahead : Int)
  /-- The letter between a date and a time; as a zone it is one too. -/
  | letterT
  /-- The time of a zone is that of summer. -/
  | summer
  /-- Another byte. -/
  | byte (b : UInt8)
  /-- A word that means nothing. -/
  | unknown
deriving DecidableEq

/-! ### Words -/

/-- The words of months and days that stand beside their full names. -/
def shortWords : List (String × DateToken) :=
  [("SEPT", .month 9), ("TUES", .weekday 2), ("WEDNES", .weekday 3), ("THUR", .weekday 4),
   ("THURS", .weekday 4)]

/-- The words of units of time. -/
def unitWords : List (String × DateToken) :=
  [("YEAR", .unit .year 1), ("MONTH", .unit .month 1), ("FORTNIGHT", .unit .day 14),
   ("WEEK", .unit .day 7), ("DAY", .unit .day 1), ("HOUR", .unit .hour 1),
   ("MINUTE", .unit .minute 1), ("MIN", .unit .minute 1), ("SECOND", .unit .second 1),
   ("SEC", .unit .second 1)]

/-- The words of distances. -/
def distanceWords : List (String × DateToken) :=
  [("TOMORROW", .shift 1), ("YESTERDAY", .shift (-1)), ("TODAY", .shift 0), ("NOW", .shift 0),
   ("LAST", .ordinal (-1)), ("THIS", .ordinal 0), ("NEXT", .ordinal 1), ("FIRST", .ordinal 1),
   ("THIRD", .ordinal 3), ("FOURTH", .ordinal 4), ("FIFTH", .ordinal 5), ("SIXTH", .ordinal 6),
   ("SEVENTH", .ordinal 7), ("EIGHTH", .ordinal 8), ("NINTH", .ordinal 9), ("TENTH", .ordinal 10),
   ("ELEVENTH", .ordinal 11), ("TWELFTH", .ordinal 12), ("AGO", .direction (-1)),
   ("HENCE", .direction 1)]

/-- The names of zones, with what they are ahead in quarters of an hour. -/
def zoneWords : List (String × Int) :=
  [("GMT", 0), ("UT", 0), ("UTC", 0), ("WET", 0), ("WEST", 4), ("BST", 4), ("ART", -12),
   ("BRT", -12), ("BRST", -8), ("NST", -14), ("NDT", -10), ("AST", -16), ("ADT", -12),
   ("CLT", -16), ("CLST", -12), ("EST", -20), ("EDT", -16), ("CST", -24), ("CDT", -20),
   ("MST", -28), ("MDT", -24), ("PST", -32), ("PDT", -28), ("AKST", -36), ("AKDT", -32),
   ("HST", -40), ("HAST", -40), ("HADT", -36), ("SST", -48), ("WAT", 4), ("CET", 4), ("CEST", 8),
   ("MET", 4), ("MEZ", 4), ("MEST", 8), ("MESZ", 8), ("EET", 8), ("EEST", 12), ("CAT", 8),
   ("SAST", 8), ("EAT", 12), ("MSK", 12), ("MSD", 16), ("IST", 22), ("SGT", 32), ("KST", 36),
   ("JST", 36), ("GST", 40), ("NZST", 48), ("NZDT", 52)]

/-- The zone of a single letter. -/
def letterZone? (b : UInt8) : Option DateToken :=
  let n : Int := b.toNat
  if b = 0x54 then some .letterT
  else if b = 0x5A then some (.zone 0)
  else if 0x41 ≤ b ∧ b ≤ 0x49 then some (.zone ((n - 0x40) * 3600))
  else if 0x4B ≤ b ∧ b ≤ 0x4D then some (.zone ((n - 0x41) * 3600))
  else if 0x4E ≤ b ∧ b ≤ 0x59 then some (.zone ((0x4D - n) * 3600))
  else none

/-- The token of a name of a zone. -/
def zoneToken? (word : Bytes) : Option DateToken :=
  (zoneWords.find? fun z => utf8 z.1 = word).map fun z => .zone (z.2 * 900)

/-- The token of a word in some list. -/
def wordIn? (list : List (String × DateToken)) (word : Bytes) : Option DateToken :=
  (list.find? fun w => utf8 w.1 = word).map (·.2)

/-- The token of a word for a month or a day of the week. Three letters are enough. -/
def nameToken? (word : Bytes) : Option DateToken :=
  let cut := word.length = 3 ∨ (word.length = 4 ∧ word.getLast? = some 0x2E)
  let named := fun (names : List String) =>
    names.findIdx? fun n =>
      let name := (utf8 n).map great
      if cut then name.take 3 = word.take 3 else name = word
  match named months, named weekdays with
  | some i, _ => some (.month (i + 1))
  | none, some i => some (.weekday i)
  | none, none => wordIn? shortWords word

/-- The token of a word. -/
def wordToken (text : Bytes) : DateToken :=
  let word := text.map great
  let bare := word.filter (· ≠ 0x2E)
  let singular := if word.getLast? = some 0x53 then word.dropLast else word
  let half : Option DateToken :=
    if bare = utf8 "AM" then some (.half false)
    else if bare = utf8 "PM" then some (.half true) else none
  let letter : Option DateToken := match word with
    | [b] => letterZone? b
    | _ => none
  let summer : Option DateToken := if word = utf8 "DST" then some .summer else none
  (half <|> nameToken? word <|> zoneToken? word <|> summer <|> wordIn? unitWords word <|>
    wordIn? unitWords singular <|> wordIn? distanceWords word <|> letter <|>
    zoneToken? bare).getD .unknown

/-! ### Cutting a text into tokens -/

/-- Whether a byte can stand in a word. -/
def isOfWord (b : UInt8) : Bool :=
  (0x41 ≤ b && b ≤ 0x5A) || (0x61 ≤ b && b ≤ 0x7A) || b = 0x2E

/-- Whether a byte is white space. -/
def isGap (b : UInt8) : Bool :=
  b = 0x20 || (0x09 ≤ b && b ≤ 0x0D)

/-- Billionths from the digits of a fraction. -/
def billionths (digits : Bytes) : Nat :=
  Format.Real.count ((digits.take 9) ++ List.replicate (9 - digits.length) (0x30 : UInt8))

/-- What follows a remark in brackets. -/
def afterRemark : Nat → Bytes → Bytes
  | _, [] => []
  | depth, b :: rest =>
    if b = 0x28 then afterRemark (depth + 1) rest
    else if b = 0x29 then (if depth ≤ 1 then rest else afterRemark (depth - 1) rest)
    else afterRemark depth rest

/-- The token that a number with a sign, or without one, begins. -/
def numberToken (negative : Option Bool) (bytes : Bytes) : DateToken × Bytes :=
  let digits := Format.Real.digitsOf bytes
  let rest := bytes.drop digits.length
  let n := Format.Real.count digits
  let value : Int := if negative = some true then -(n : Int) else n
  let whole := match negative with
    | none => DateToken.number n digits.length
    | some _ => .signed value digits.length
  match rest with
  | b :: more =>
    let back := Format.Real.digitsOf more
    if (b = 0x2E ∨ b = 0x2C) ∧ back ≠ [] then
      let part := billionths back
      let rest := more.drop back.length
      if negative = some true ∧ part ≠ 0 then
        (.decimal true (value - 1) (billion - part), rest)
      else (.decimal negative.isSome value part, rest)
    else (whole, rest)
  | [] => (whole, rest)

/-- Cuts a text into tokens. A sign without a number counts for nothing. -/
def dateTokens : Nat → Bytes → List DateToken
  | 0, _ => []
  | fuel + 1, text =>
    match text with
    | [] => []
    | b :: rest =>
      if isGap b then dateTokens fuel rest
      else if 0x30 ≤ b ∧ b ≤ 0x39 then
        let (t, rest) := numberToken none text
        t :: dateTokens fuel rest
      else if b = 0x2D ∨ b = 0x2B then
        let body := rest.dropWhile isGap
        if (Format.Real.digitsOf body) = [] then dateTokens fuel body
        else
          let (t, rest) := numberToken (some (b = 0x2D)) body
          t :: dateTokens fuel rest
      else if isOfWord b ∧ b ≠ 0x2E then
        let word := text.takeWhile isOfWord
        wordToken word :: dateTokens fuel (text.drop word.length)
      else if b = 0x28 then dateTokens fuel (afterRemark 0 text)
      else .byte b :: dateTokens fuel rest

/-! ### Reading items -/

/-- What items have said. -/
structure DateWish where
  /-- The year, with the number of its digits, if it is said. -/
  year : Option (Int × Nat) := none
  /-- The month, counted from one. -/
  month : Int := 0
  /-- The day of the month. -/
  day : Int := 0
  /-- How often a date is said. -/
  dates : Nat := 0
  /-- The hour. -/
  hour : Int := 0
  /-- The minute. -/
  minute : Int := 0
  /-- The second. -/
  second : Int := 0
  /-- The billionths of a second. -/
  fraction : Nat := 0
  /-- The half of the day. -/
  half : Option Bool := none
  /-- How often a time is said. -/
  times : Nat := 0
  /-- The day of the week, with a number that counts. -/
  weekday : Int × Nat := (0, 0)
  /-- How often a day of the week is said. -/
  weekdays : Nat := 0
  /-- What the zone is ahead. -/
  ahead : Int := 0
  /-- How often a zone is said. -/
  zones : Nat := 0
  /-- Whether a distance is said. -/
  distant : Bool := false
  /-- The years of the distance. -/
  years : Int := 0
  /-- The months of the distance. -/
  months : Int := 0
  /-- The days of the distance. -/
  days : Int := 0
  /-- The seconds of the distance. -/
  seconds : Int := 0
  /-- The billionths of the distance. -/
  parts : Int := 0

namespace DateWish

/-- Adds a distance. -/
def add (w : DateWish) (u : TimeUnit) (n : Int) : DateWish :=
  let w := { w with distant := true }
  match u with
  | .year => { w with years := w.years + n }
  | .month => { w with months := w.months + n }
  | .day => { w with days := w.days + n }
  | .hour => { w with seconds := w.seconds + 3600 * n }
  | .minute => { w with seconds := w.seconds + 60 * n }
  | .second => { w with seconds := w.seconds + n }

/-- Says a date. -/
def date (w : DateWish) (year : Option (Int × Nat)) (month day : Int) : DateWish :=
  { w with year := year.or w.year, month := month, day := day, dates := w.dates + 1 }

/-- Says a time. -/
def time (w : DateWish) (hour minute second : Int) (fraction : Nat) (half : Option Bool) :
    DateWish :=
  { w with hour := hour, minute := minute, second := second, fraction := fraction, half := half
           times := w.times + 1 }

/-- Says a zone. -/
def inZone (w : DateWish) (ahead : Int) : DateWish :=
  { w with ahead := ahead, zones := w.zones + 1 }

/-- Says a number alone: a date, a time, or the year of a date. -/
def loose (w : DateWish) (n digits : Nat) : DateWish :=
  if 0 < w.dates ∧ w.year.isNone ∧ !w.distant ∧ (0 < w.times ∨ 2 < digits) then
    { w with year := some (n, digits) }
  else if 4 < digits then
    w.date (some ((n / 10000 : Nat), digits - 4)) (n / 100 % 100 : Nat) (n % 100 : Nat)
  else if digits ≤ 2 then w.time n 0 0 0 none
  else w.time (n / 100 : Nat) (n % 100 : Nat) 0 0 none

end DateWish

/-- What a number with a sign is ahead, as hours and minutes. -/
def aheadOf (value : Int) (digits : Nat) (minutes : Option Nat) : Option Int :=
  let n := value.natAbs
  let total := match minutes with
    | some m => n * 60 + m
    | none => if digits ≤ 2 then n * 60 else n / 100 * 60 + n % 100
  if 1440 < total then none
  else some ((if value < 0 then -(total : Int) else total) * 60)

/-- Reads what may follow a time: the half of the day, or what its zone is ahead. -/
def afterTime (w : DateWish) (hour minute second : Int) (fraction : Nat) :
    List DateToken → Option (DateWish × List DateToken)
  | .half h :: rest => some (w.time hour minute second fraction (some h), rest)
  | .signed z digits :: .byte 0x3A :: .number m _ :: rest => do
    let ahead ← aheadOf z digits (some m)
    some ((w.time hour minute second fraction none).inZone ahead, rest)
  | .signed z digits :: rest => do
    let ahead ← aheadOf z digits none
    some ((w.time hour minute second fraction none).inZone ahead, rest)
  | rest => some (w.time hour minute second fraction none, rest)

/-- Reads a time of the day that has a colon. -/
def clockTime? (w : DateWish) : List DateToken → Option (DateWish × List DateToken)
  | .number h _ :: .byte 0x3A :: .number m _ :: .byte 0x3A :: .number s _ :: rest =>
    afterTime w h m s 0 rest
  | .number h _ :: .byte 0x3A :: .number m _ :: .byte 0x3A :: .decimal false s part :: rest =>
    afterTime w h m s part rest
  | .number h _ :: .byte 0x3A :: .number m _ :: rest => afterTime w h m 0 0 rest
  | _ => none

/-- Reads a date that begins with a number. -/
def numericDate? (w : DateWish) : List DateToken → Option (DateWish × List DateToken)
  | .number a k :: .byte 0x2F :: .number b _ :: .byte 0x2F :: .number c n :: rest =>
    if 4 ≤ k then some (w.date (some (a, k)) b c, rest)
    else some (w.date (some (c, n)) a b, rest)
  | .number a _ :: .byte 0x2F :: .number b _ :: rest => some (w.date none a b, rest)
  | .number y k :: .signed m _ :: .signed d _ :: .letterT :: rest =>
    let w := w.date (some (y, k)) (-m) (-d)
    match rest with
    | .number h _ :: .signed z digits :: after => afterTime w h 0 0 0 (.signed z digits :: after)
    | _ => clockTime? w rest
  | .number y k :: .signed m _ :: .signed d _ :: rest =>
    some (w.date (some (y, k)) (-m) (-d), rest)
  | .number d _ :: .month m :: .signed y k :: rest =>
    some (w.date (some (-y, k)) m d, rest)
  | .number d _ :: .month m :: .number y k :: rest => some (w.date (some (y, k)) m d, rest)
  | .number d _ :: .month m :: rest => some (w.date none m d, rest)
  | _ => none

/-- Reads a distance. -/
def distance? (w : DateWish) : List DateToken → Option (DateWish × List DateToken)
  | .ordinal n :: .unit u c :: rest => some (turned u (n * c) 0 rest)
  | .number n _ :: .unit u c :: rest => some (turned u ((n * c : Nat) : Int) 0 rest)
  | .signed n _ :: .unit u c :: rest => some (turned u (n * c) 0 rest)
  | .decimal _ n part :: .unit .second _ :: rest => some (turned .second n part rest)
  | .unit u c :: rest => some (turned u c 0 rest)
  | .shift n :: rest => some (w.add .day n, rest)
  | _ => none
where
  /-- Adds a distance, in the direction that may be said after it. -/
  turned (u : TimeUnit) (n : Int) (part : Nat) (rest : List DateToken) :
      DateWish × List DateToken :=
    match rest with
    | .direction k :: more => ({ w.add u (n * k) with parts := w.parts + k * part }, more)
    | _ => ({ w.add u n with parts := w.parts + part }, rest)

/-- Reads a day of the week. -/
def weekday? (w : DateWish) : List DateToken → Option (DateWish × List DateToken)
  | .weekday d :: .byte 0x2C :: rest => some (said 0 d, rest)
  | .weekday d :: rest => some (said 0 d, rest)
  | .ordinal n :: .weekday d :: rest => some (said n d, rest)
  | .number n _ :: .weekday d :: rest => some (said n d, rest)
  | _ => none
where
  /-- Says a day of the week. -/
  said (n : Int) (d : Nat) : DateWish :=
    { w with weekday := (n, d), weekdays := w.weekdays + 1 }

/-- Reads a zone. -/
def zone? (w : DateWish) : List DateToken → Option (DateWish × List DateToken)
  | .zone z :: .summer :: rest => some (w.inZone (z + 3600), rest)
  | .zone z :: .signed n _ :: .unit u c :: rest => some ((w.inZone z).add u (n * c), rest)
  | .zone z :: .signed n digits :: .byte 0x3A :: .number m _ :: rest => do
    some (w.inZone (z + (← aheadOf n digits (some m))), rest)
  | .zone z :: .signed n digits :: rest => do
    some (w.inZone (z + (← aheadOf n digits none)), rest)
  | .zone z :: rest => some (w.inZone z, rest)
  | .letterT :: rest => some (w.inZone (-7 * 3600), rest)
  | _ => none

/-- Reads a date that begins with the name of a month. -/
def namedDate? (w : DateWish) : List DateToken → Option (DateWish × List DateToken)
  | .month m :: .signed d _ :: .signed y k :: rest => some (w.date (some (-y, k)) m (-d), rest)
  | .month m :: .number d _ :: .byte 0x2C :: .number y k :: rest =>
    some (w.date (some (y, k)) m d, rest)
  | .month m :: .number d _ :: rest => some (w.date none m d, rest)
  | _ => none

/-- Reads a number that no other item begins with. -/
def looseNumber? (w : DateWish) : List DateToken → Option (DateWish × List DateToken)
  | .number h _ :: .half p :: rest => some (w.time h 0 0 0 (some p), rest)
  | .number n k :: .signed m _ :: .unit u c :: rest => some ((w.loose n k).add u (m * c), rest)
  | .number h _ :: .signed z digits :: rest =>
    afterTime w h 0 0 0 (.signed z digits :: rest)
  | .number n k :: rest => some (w.loose n k, rest)
  | _ => none

/-- Reads an item. -/
def dateItem? (w : DateWish) (tokens : List DateToken) : Option (DateWish × List DateToken) :=
  clockTime? w tokens <|> numericDate? w tokens <|> namedDate? w tokens <|> distance? w tokens <|>
    weekday? w tokens <|> zone? w tokens <|> looseNumber? w tokens

/-- Reads all items. -/
def dateItems : Nat → DateWish → List DateToken → Option DateWish
  | 0, _, _ => none
  | fuel + 1, w, tokens =>
    match tokens with
    | [] => some w
    | _ =>
      match dateItem? w tokens with
      | some (w, rest) => dateItems fuel w rest
      | none => none

/-! ### The point in time that is meant -/

/-- The hour of the day, from an hour of a half of it. -/
def hourOf (hour : Int) : Option Bool → Option Int
  | none => if 0 ≤ hour ∧ hour < 24 then some hour else none
  | some afternoon =>
    if hour < 1 ∨ 12 < hour then none
    else
      let early := if hour = 12 then 0 else hour
      some (if afternoon then early + 12 else early)

/-- The year that is meant by one of two digits. -/
def fullYear (year : Int) (digits : Nat) : Int :=
  if digits = 2 ∧ 0 ≤ year then (if year < 69 then year + 2000 else year + 1900) else year

/-- The point in time that is meant. -/
def DateWish.time? (w : DateWish) (local_ : Zone) (now : Int) : Option Int := do
  if 1 < w.times ∨ 1 < w.dates ∨ 1 < w.weekdays ∨ 1 < w.zones then none
  let m := Moment.ofTime local_ now
  let (year, month, day) : Int × Int × Int :=
    if w.dates = 0 then (m.year, m.month, m.day)
    else ((w.year.map fun y => fullYear y.1 y.2).getD m.year, w.month - 1, w.day)
  let present := w.times = 0 ∧ w.distant ∧ w.dates = 0 ∧ w.weekdays = 0
  let (hour, minute, second, fraction) : Int × Int × Int × Nat ←
    if present then some (m.hour, m.minute, m.second, m.fraction)
    else if w.times = 0 then some (0, 0, 0, 0)
    else (hourOf w.hour w.half).map fun h => (h, w.minute, w.second, w.fraction)
  if month < 0 ∨ 11 < month ∨ minute < 0 ∨ 59 < minute ∨ second < 0 ∨ 59 < second then none
  let length := ((monthLengths year)[month.toNat]?).getD 31
  if day < 1 ∨ (length : Int) < day then none
  let number := dayNumber year month day
  let weekday := (number + 4).fmod 7
  let (count, wanted) := w.weekday
  let ahead : Int :=
    if w.weekdays = 0 ∨ w.dates ≠ 0 then 0
    else
      let rounds := if 0 < count ∧ weekday ≠ wanted then count - 1 else count
      ((wanted : Int) - weekday + 7).fmod 7 + 7 * rounds
  let number := dayNumber (year + w.years) (month + w.months) (day + ahead + w.days)
  let zone := if w.zones = 0 then local_.ahead else w.ahead
  let seconds := number * 86400 + hour * 3600 + minute * 60 + second - zone + w.seconds
  some (seconds * billion + fraction + w.parts)

/-- The point in time that a text says in a zone. -/
def time? (local_ : Zone) (now : Int) (text : Bytes) : Option Int :=
  let text := text.dropWhile isGap
  let mark := utf8 "TZ=\""
  let (zone, text) :=
    if mark.isPrefixOf text then
      let name := (text.drop mark.length).takeWhile (· ≠ 0x22)
      (Zone.ofSetting name, text.drop (mark.length + name.length + 1))
    else (local_, text)
  match dateTokens (text.length + 1) text with
  | [.byte 0x40, .number n _] => some (n * billion)
  | [.byte 0x40, .signed n _] => some (n * billion)
  | [.byte 0x40, .decimal _ n part] => some (n * billion + part)
  | tokens =>
    (dateItems (tokens.length + 1) {} tokens).bind (·.time? zone now)

end CommandShell.Text.Calendar
