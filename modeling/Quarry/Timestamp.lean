import Quarry.Date

/-!
# Timestamps

A timestamp is a moment in Coordinated Universal Time with nanosecond resolution. A leap second is
kept as what it is: the second 59 of its minute with a nanosecond part from one thousand million on,
so it lies after every other moment of that second and before the next minute.
-/

namespace Quarry

/-- A moment in UTC, as a `day`, a `second` of it and a `nano` of that. -/
structure Timestamp where
  /-- The days since 1 January 1970. -/
  day : Int
  /-- The seconds since midnight, the leap second counting as the second before it. -/
  second : Nat
  /-- The nanoseconds since the start of the second. -/
  nano : Nat
  second_lt : second < 86400
  /-- A second has one thousand million nanoseconds, and a leap second may follow it. -/
  nano_lt : nano < 2000000000
  leap_ends_minute : 1000000000 ≤ nano → second % 60 = 59
deriving DecidableEq

namespace Timestamp

/-- Moments in their order in time. -/
instance : Ord Timestamp where
  compare a b :=
    (compare a.day b.day).then ((compare a.second b.second).then (compare a.nano b.nano))

/-- The later of the moments `a` and `b`. -/
def later (a b : Timestamp) : Timestamp :=
  if compare a b = .lt then b else a

/-- The moment on `day` with `second` and `nano`, which may be in a leap second, if there is one. -/
def ofParts? (day : Int) (second nano : Nat) : Option Timestamp :=
  if h : second < 86400 ∧ nano < 2000000000 ∧ (1000000000 ≤ nano → second % 60 = 59) then
    some ⟨day, second, nano, h.1, h.2.1, h.2.2⟩
  else none

/-- The start of `day`. -/
def midnight (day : Int) : Timestamp :=
  ⟨day, 0, 0, by decide, by decide, by decide⟩

/-- The whole microseconds from 1 January 2000 to `t`, rounded toward that day. A leap second counts
as the first second of the next minute. -/
def microsSince2000 (t : Timestamp) : Int :=
  let nanos := ((t.day - 10957) * 86400 + t.second) * 1000000000 + t.nano
  Int.tdiv nanos 1000

end Timestamp

end Quarry
