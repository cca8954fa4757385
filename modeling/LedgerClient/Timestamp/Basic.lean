import LedgerClient.Json.Form
import LedgerClient.Timestamp.Calendar
import LedgerClient.Wire.Codec

/-!
# Times

A point in time is a 32-bit number of seconds since the beginning of 1970. Its text is the date
and the time of day in coordinated universal time without a zone: `2024-01-01T00:00:00`. Reading
also takes a sign in front of the year and one `Z` at the end.
-/

namespace LedgerClient

/-- A point in time, by the seconds since the beginning of 1970. -/
structure Timestamp where
  /-- The seconds since the beginning of 1970. -/
  seconds : UInt32
  deriving DecidableEq, Repr, Inhabited

namespace Timestamp

/-- The beginning of 1970. -/
def epoch : Timestamp := ⟨0⟩

/-- The point in time so many seconds after the beginning of 1970. -/
def ofSeconds (seconds : Int) : Except TimestampFault Timestamp :=
  if 0 ≤ seconds ∧ seconds < UInt32.size then .ok ⟨.ofNat seconds.toNat⟩
  else .error (.outOfRange seconds)

/-- The point in time that a clock shows as nanoseconds since the beginning of 1970. -/
def ofClock (nanoseconds : Int) : Except TimestampFault Timestamp :=
  if nanoseconds < 0 then .error .before
  else
    let seconds := nanoseconds / 1000000000
    if Int64.maxValue.toInt < seconds then .error .after else ofSeconds seconds

/-- A number of seconds by which a time can be shifted: one of 32 bits. -/
def shift? (seconds : Nat) : Option UInt32 :=
  if seconds < UInt32.size then some (.ofNat seconds) else none

/-- The point in time so many seconds later. The seconds have to fit 32 bits, and so does the
sum. -/
def add? (t : Timestamp) (seconds : Nat) : Option Timestamp :=
  (shift? seconds).bind fun shift =>
    if t.seconds.toNat + shift.toNat < UInt32.size then some ⟨t.seconds + shift⟩ else none

/-- The point in time so many seconds earlier. The seconds have to fit 32 bits, and they must not
lead to before 1970. -/
def sub? (t : Timestamp) (seconds : Nat) : Option Timestamp :=
  (shift? seconds).bind fun shift =>
    if shift ≤ t.seconds then some ⟨t.seconds - shift⟩ else none

/-! ### Text -/

/-- The characters of the text of a time. -/
def chars (t : Timestamp) : List Char :=
  let n := t.seconds.toNat
  let date := Date.ofDays (n / 86400)
  let two := Numeral.padded 2
  Numeral.padded 4 date.year.toNat ++ '-' :: two date.month ++ '-' :: two date.day ++
    'T' :: two (n % 86400 / 3600) ++ ':' :: two (n % 3600 / 60) ++ ':' :: two (n % 60)

/-- The text of a time. -/
def text (t : Timestamp) : String :=
  String.ofList t.chars

/-- Reads `n` digits. -/
def digits? (n : Nat) (cs : List Char) : Option (Nat × List Char) :=
  let ds := cs.take n
  if ds.length = n && ds.all Numeral.isDigit then some (Numeral.valueOf ds, cs.drop n) else none

/-- Reads the year: four digits with an optional sign. -/
def readYear (cs : List Char) : Except TimestampFlaw (Int × List Char) :=
  let (negative, rest) := match cs with
    | '-' :: rest => (true, rest)
    | '+' :: rest => (false, rest)
    | _ => (false, cs)
  match digits? 4 rest with
  | some (n, rest) => .ok (if negative then -n else n, rest)
  | none => .error (.component "year")

/-- Reads a part of two digits within a range. -/
def readPart (name : String) (low high : Nat) (cs : List Char) :
    Except TimestampFlaw (Nat × List Char) :=
  match digits? 2 cs with
  | some (n, rest) => if low ≤ n && n ≤ high then .ok (n, rest) else .error (.component name)
  | none => .error (.component name)

/-- Reads the character that stands between two parts. -/
def readLiteral (c : Char) : List Char → Except TimestampFlaw (List Char)
  | d :: rest => if d = c then .ok rest else .error .literal
  | [] => .error .literal

/-- Reads a date and a time of day, as seconds since the beginning of 1970. -/
def readParts (cs : List Char) : Except TimestampFlaw Int := do
  let (year, cs) ← readYear cs
  let cs ← readLiteral '-' cs
  let (month, cs) ← readPart "month" 1 12 cs
  let cs ← readLiteral '-' cs
  let (day, cs) ← readPart "day" 1 31 cs
  let cs ← readLiteral 'T' cs
  let (hour, cs) ← readPart "hour" 0 23 cs
  let cs ← readLiteral ':' cs
  let (minute, cs) ← readPart "minute" 0 59 cs
  let cs ← readLiteral ':' cs
  let (second, cs) ← readPart "second" 0 60 cs
  if !cs.isEmpty then throw .trailing
  else if Date.daysInMonth year month < day then throw .day
  else if second = 60 then throw .second
  else return (Date.toDays ⟨year, month, day⟩) * 86400 + (3600 * hour + 60 * minute + second : Nat)

/-- A text without one `Z` at its end. -/
def dropZone (cs : List Char) : List Char :=
  if cs.getLast? = some 'Z' then cs.dropLast else cs

/-- Reads the text of a time. -/
def ofText (s : String) : Except TimestampFault Timestamp :=
  match readParts (dropZone s.toList) with
  | .ok seconds => ofSeconds seconds
  | .error flaw => .error (.text s flaw)

/-! ### Wire form and JSON form -/

/-- The wire form of a time. -/
def codec : Wire.Codec Timestamp :=
  Wire.Codec.u32.via seconds mk

/-- The JSON form of a time. -/
def form : Json.Form Timestamp :=
  .ofText text fun s => (ofText s).mapError fun fault => .value (.timestamp fault)

end Timestamp

end LedgerClient
