import DeviceGateway.Decimal.Text

/-! Dates and times in TOML text: a date, a time, or both, in which case with an optional
offset. -/

namespace DeviceGateway.Toml

inductive Offset where
  | universal
  | custom (hours : Int) (minutes : Nat)
  deriving DecidableEq, Repr

structure Date where
  year : Nat
  month : Nat
  day : Nat
  deriving DecidableEq, Repr

structure Time where
  hour : Nat
  minute : Nat
  second : Nat
  nanosecond : Nat := 0
  deriving DecidableEq, Repr

structure Moment where
  date : Option Date := none
  time : Option Time := none
  offset : Option Offset := none
  deriving DecidableEq, Repr

namespace Moment

/-! ### Reading -/

/-- A number of exactly `count` digits. -/
def number? (count : Nat) (cs : List Char) : Option (Nat × List Char) :=
  let ds := cs.take count
  if ds.length = count ∧ ds.all Char.isDigit then
    some (Nat.ofDigitChars 10 ds 0, cs.drop count)
  else none

def expect? (c : Char) : List Char → Option (List Char)
  | [] => none
  | c' :: r => if c = c' then some r else none

def date? (cs : List Char) : Option (Date × List Char) := do
  let (year, r) ← number? 4 cs
  let (month, r) ← number? 2 (← expect? '-' r)
  let (day, r) ← number? 2 (← expect? '-' r)
  if 1 ≤ month ∧ month ≤ 12 ∧ 1 ≤ day ∧ day ≤ 31 then some (⟨year, month, day⟩, r) else none

/-- The digits after the point of a second, in billionths; those beyond are dropped. -/
def nanoseconds (ds : List Char) : Nat :=
  Nat.ofDigitChars 10 (ds.take 9) 0 * 10 ^ (9 - ds.length)

def time? (cs : List Char) : Option (Time × List Char) := do
  let (hour, r) ← number? 2 cs
  let (minute, r) ← number? 2 (← expect? ':' r)
  let (second, r) ← number? 2 (← expect? ':' r)
  if 24 < hour ∨ 59 < minute ∨ 59 < second then none
  else match r with
    | '.' :: r =>
      let ds := r.takeWhile Char.isDigit
      if ds.isEmpty then none
      else some (⟨hour, minute, second, nanoseconds ds⟩, r.dropWhile Char.isDigit)
    | r => some (⟨hour, minute, second, 0⟩, r)

/-- An offset that is the rest of the text. -/
def offset? : List Char → Option (Option Offset)
  | [] => some none
  | c :: r =>
    if c = 'Z' ∨ c = 'z' then if r.isEmpty then some (some .universal) else none
    else if c = '+' ∨ c = '-' then do
      let (hours, r) ← number? 2 r
      let (minutes, r) ← number? 2 (← expect? ':' r)
      if r.isEmpty then some (some (.custom (if c = '-' then -(hours : Int) else hours) minutes))
      else none
    else none

/-- The moment that a text denotes. -/
def ofText? (cs : List Char) : Option Moment :=
  if cs.length < 3 then none
  else if (cs.drop 2).head? = some ':' then do
    let (time, r) ← time? cs
    if r.isEmpty then some { time := some time } else none
  else do
    let (date, r) ← date? cs
    match r with
    | [] => some { date := some date }
    | c :: r =>
      if c = 'T' ∨ c = 't' ∨ c = ' ' then do
        let (time, r) ← time? r
        let offset ← offset? r
        some { date := some date, time := some time, offset }
      else none

/-! ### Writing -/

def dateText (d : Date) : List Char :=
  paddedDigits 4 d.year ++ '-' :: paddedDigits 2 d.month ++ '-' :: paddedDigits 2 d.day

def timeText (t : Time) : List Char :=
  let fraction :=
    if t.nanosecond = 0 then [] else '.' :: dropTrailingZeros (paddedDigits 9 t.nanosecond)
  paddedDigits 2 t.hour ++ ':' :: paddedDigits 2 t.minute ++ ':' :: paddedDigits 2 t.second ++
    fraction

def offsetText : Offset → List Char
  | .universal => ['Z']
  | .custom hours minutes =>
    (if hours < 0 then '-' else '+') :: paddedDigits 2 hours.natAbs ++
      ':' :: paddedDigits 2 minutes

def text (m : Moment) : String :=
  String.ofList ((m.date.map dateText).getD [] ++
    (if m.date.isSome ∧ m.time.isSome then ['T'] else []) ++
    (m.time.map timeText).getD [] ++ (m.offset.map offsetText).getD [])

end Moment

end DeviceGateway.Toml
