import TimeWindow.Calendar.Moment

/-!
Time stamps: date, the letter T, time of day, and the distance to universal time. The fraction of a
second is written if there is one, and so are the seconds of an offset.
-/

namespace TimeWindow.Calendar.Stamp

def padded (width n : Nat) : String :=
  let digits := Nat.toDigits 10 n
  String.ofList (List.replicate (width - digits.length) '0' ++ digits)

def ofDate (d : Date) : String :=
  padded 4 d.year.toNat ++ "-" ++ padded 2 d.month ++ "-" ++ padded 2 d.day

def ofSeconds (seconds : Nat) (alwaysSeconds : Bool) : String :=
  let minutes := padded 2 (seconds / 3600) ++ ":" ++ padded 2 (seconds / 60 % 60)
  if alwaysSeconds || seconds % 60 ≠ 0 then minutes ++ ":" ++ padded 2 (seconds % 60) else minutes

def ofTimeOfDay (micros : Nat) : String :=
  let fraction := micros % 1000000
  ofSeconds (micros / 1000000) true ++ if fraction = 0 then "" else "." ++ padded 6 fraction

def ofOffset : Option Int → String
  | none => ""
  | some offset => (if offset < 0 then "-" else "+") ++ ofSeconds offset.natAbs false

def ofWall (w : Wall) (offset : Option Int) : String :=
  ofDate w.date ++ "T" ++ ofTimeOfDay w.timeOfDay.toNat ++ ofOffset offset

end Stamp

def Moment.stamp (t : Moment) : Except CalendarError String :=
  (t.zone.offset t.wall t.second).map (Stamp.ofWall t.wall)

end TimeWindow.Calendar
