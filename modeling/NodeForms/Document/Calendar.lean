/-!
# The calendar

Days of the calendar that is in force everywhere today, carried back to the year one.
Every fourth year is a leap year, except for the centuries that four does not divide.
-/

namespace NodeForms

def isLeapYear (year : Nat) : Bool := year % 4 == 0 && (year % 100 != 0 || year % 400 == 0)

def daysOfMonth (year month : Nat) : Nat :=
  if month = 2 then if isLeapYear year then 29 else 28
  else if month = 4 ∨ month = 6 ∨ month = 9 ∨ month = 11 then 30
  else 31

def isDay (year month day : Nat) : Bool :=
  decide (1 ≤ year) && decide (1 ≤ month) && decide (month ≤ 12) && decide (1 ≤ day)
    && decide (day ≤ daysOfMonth year month)

def daysBeforeMonth (year month : Nat) : Nat :=
  (List.range (month - 1)).foldr (fun earlier total => daysOfMonth year (earlier + 1) + total) 0

def dayNumber (year month day : Nat) : Nat :=
  let years := year - 1
  365 * years + years / 4 - years / 100 + years / 400 + daysBeforeMonth year month + (day - 1)

end NodeForms
