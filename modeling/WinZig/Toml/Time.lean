import WinZig.Toml.Float

/-!
# Dates and times

A written date or time has the right number of digits; whether it exists is checked here. The month
and the parts of the time are checked from left to right, the day last, for it depends on the month
and the year.

A date with a time may be followed by an offset. If the day or the offset does not exist then, the
text is looked at once more as a local time, and that is where the offset is too much.
-/

namespace WinZig.Toml

/-- Why a date or a time does not exist. -/
inductive TimeProblem where
  | outOfRange (part : String)
  | extra (text : String)
deriving DecidableEq, Repr

/-- Whether a year has a leap day. -/
def isLeapYear (year : Nat) : Bool := year % 4 == 0 && (year % 100 != 0 || year % 400 == 0)

/-- The number of days of a month. -/
def daysIn (year month : Nat) : Nat :=
  if month = 2 then if isLeapYear year then 29 else 28
  else if month = 4 ∨ month = 6 ∨ month = 9 ∨ month = 11 then 30
  else 31

/-- What is out of range in a time of day. -/
def timeProblem? (written : List Char) : Option String :=
  if 24 ≤ number (written.take 2) then some "hour"
  else if 60 ≤ number ((written.drop 3).take 2) then some "minute"
  else if 60 ≤ number ((written.drop 6).take 2) then some "second"
  else none

/-- What follows a time of day and its fraction. -/
def afterTime (written : List Char) : List Char :=
  match written.drop 8 with
  | '.' :: fraction => fraction.dropWhile Char.isDigit
  | rest => rest

/-- Whether an offset from universal time exists. A whole day and a whole hour are still allowed for
its two parts. -/
def offsetExists : (written : List Char) → Bool
  | [] | ['Z'] => true
  | _ :: rest => number (rest.take 2) ≤ 24 && number ((rest.drop 3).take 2) ≤ 60

/-- Why a date with or without a time does not exist. -/
def dateProblem? (written : List Char) : Option TimeProblem :=
  let year := number (written.take 4)
  let month := number ((written.drop 5).take 2)
  let day := number ((written.drop 8).take 2)
  let time := written.drop 11
  let dayExists := 1 ≤ day ∧ day ≤ daysIn year month
  if month = 0 ∨ 12 < month then some (.outOfRange "month")
  else match if time.isEmpty then none else timeProblem? time with
    | some part => some (.outOfRange part)
    | none =>
      let offset := afterTime time
      if dayExists ∧ offsetExists offset then none
      else if offset.isEmpty then some (.outOfRange "day")
      else some (.extra (String.ofList offset))

/-- Why a date or a time does not exist. -/
def datetimeProblem? (written : String) : Option TimeProblem :=
  let characters := written.toList
  if characters[2]? = some ':' then (timeProblem? characters).map .outOfRange
  else dateProblem? characters

end WinZig.Toml
