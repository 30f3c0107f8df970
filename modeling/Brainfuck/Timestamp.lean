import Brainfuck.Text.Integer

/-!
Points in time in seconds since 1970, and their calendar form in universal time. The calendar
covers 2^64 seconds; a point outside them is shown as the one inside that many seconds away.
-/

namespace Brainfuck

abbrev Timestamp := Int

namespace Timestamp

/-- The point in time that stands for none: the first second of the year 1. -/
def zero : Timestamp := -62135596800

structure Date where
  year : Int
  month : Nat
  day : Nat
  deriving DecidableEq, Repr

def Date.ofDays (days : Int) : Date :=
  -- Years are counted from March, so that the day that some years lack is the last one.
  let shifted := days + 719468
  let era := shifted / 146097
  let dayOfEra := (shifted % 146097).toNat
  let yearOfEra :=
    (dayOfEra - dayOfEra / 1460 + dayOfEra / 36524 - dayOfEra / 146096) / 365
  let dayOfYear := dayOfEra - (365 * yearOfEra + yearOfEra / 4 - yearOfEra / 100)
  let shiftedMonth := (5 * dayOfYear + 2) / 153
  let month := if shiftedMonth < 10 then shiftedMonth + 3 else shiftedMonth - 9
  { year := yearOfEra + era * 400 + if month ≤ 2 then 1 else 0
    month
    day := dayOfYear - (153 * shiftedMonth + 2) / 5 + 1 }

def padded (width value : Nat) : Bytes :=
  let digits := Integer.ofNat value
  List.replicate (width - digits.length) 0x30 ++ digits

def paddedYear (year : Int) : Bytes :=
  (if year < 0 then utf8 "-" else []) ++ padded 4 year.natAbs

/-- The first second of the calendar, on the first of March of the year -292277022400. -/
def first : Timestamp := -9223372028741760000

def shown (time : Timestamp) : Timestamp :=
  first + (time - first) % 0x10000000000000000

def render (time : Timestamp) : Bytes :=
  let date := Date.ofDays (shown time / 86400)
  let second := (shown time % 86400).toNat
  paddedYear date.year ++ utf8 "-" ++ padded 2 date.month ++ utf8 "-" ++ padded 2 date.day ++
    utf8 "T" ++ padded 2 (second / 3600) ++ utf8 ":" ++ padded 2 (second / 60 % 60) ++ utf8 ":" ++
    padded 2 (second % 60) ++ utf8 "Z"

end Timestamp

end Brainfuck
