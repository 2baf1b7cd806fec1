import RailWatch.Zone
/-!
# RailWatch.Zone.Rome

The civil time of Italy, the zone every instant of a train is shown in.

Local mean time held until 1866, the mean time of Rome until 1893, Central European Time since.
The summer times up to 1996 were set one by one and are listed; from 1997 to 2099 summer time runs
from the last Sunday of March to the last Sunday of October, one in the morning of universal time
each. The table ends there, and from 2100 on Central European Time holds throughout.
-/

namespace RailWatch.Zone.Rome

/-- Local mean time, 49 minutes and 56 seconds ahead of universal time. -/
def lmt : Offset := ⟨2996, "LMT"⟩

/-- The mean time of Rome, as far ahead as the local mean time. -/
def rmt : Offset := ⟨2996, "RMT"⟩

/-- Central European Time, one hour ahead of universal time. -/
def cet : Offset := ⟨3600, "CET"⟩

/-- Central European Summer Time, two hours ahead of universal time. -/
def cest : Offset := ⟨7200, "CEST"⟩

/-- The switches up to 1996, by the second of universal time at which each took effect. -/
def listed : List (Int × Offset) := [
    (-3252098996, rmt), (-2403565200, cet), (-1690765200, cest), (-1680487200, cet),
    (-1664758800, cest), (-1648951200, cet), (-1635123600, cest), (-1616896800, cet),
    (-1604278800, cest), (-1585533600, cet), (-1571014800, cest), (-1555293600, cet),
    (-932432400, cest), (-857257200, cet), (-844556400, cest), (-828226800, cet),
    (-812502000, cest), (-798073200, cet), (-781052400, cest), (-766717200, cet),
    (-750898800, cest), (-733359600, cet), (-719456400, cest), (-701917200, cet),
    (-689209200, cest), (-670460400, cet), (-114051600, cest), (-103168800, cet),
    (-81997200, cest), (-71715600, cet), (-50547600, cest), (-40266000, cet), (-18493200, cest),
    (-8211600, cet), (12956400, cest), (23238000, cet), (43801200, cest), (54687600, cet),
    (75855600, cest), (86742000, cet), (107910000, cest), (118191600, cet), (138754800, cest),
    (149641200, cet), (170809200, cest), (181090800, cet), (202258800, cest), (212540400, cet),
    (233103600, cest), (243990000, cet), (265158000, cest), (276044400, cet), (296607600, cest),
    (307494000, cet), (323830800, cest), (338950800, cet), (354675600, cest), (370400400, cet),
    (386125200, cest), (401850000, cet), (417574800, cest), (433299600, cet), (449024400, cest),
    (465354000, cet), (481078800, cest), (496803600, cet), (512528400, cest), (528253200, cet),
    (543978000, cest), (559702800, cet), (575427600, cest), (591152400, cet), (606877200, cest),
    (622602000, cet), (638326800, cest), (654656400, cet), (670381200, cest), (686106000, cet),
    (701830800, cest), (717555600, cet), (733280400, cest), (749005200, cet), (764730000, cest),
    (780454800, cet), (796179600, cest), (811904400, cet), (828234000, cest), (846378000, cet)]

/-- The last Sunday of a month of 31 days. Day 0 of the day count was a Thursday. -/
def lastSunday (year : Int) (month : Nat) : Date :=
  let last := Date.dayOfCivil year month 31
  ⟨last - (last + 4) % 7⟩

/-- One in the morning of universal time. -/
def oneInTheMorning (d : Date) : Int :=
  d.day * secondsPerDay + 3600

/-- The beginning and the end of the summer time of a year under the common rule. -/
def summerTime (year : Int) : List (Int × Offset) :=
  [(oneInTheMorning (lastSunday year 3), cest), (oneInTheMorning (lastSunday year 10), cet)]

/-- The switches from 1997 to 2099. -/
def ruled : List (Int × Offset) :=
  (List.range 103).flatMap fun k : Nat => summerTime (1997 + (k : Int))

/-- Italian civil time. -/
def zone : Zone :=
  ⟨lmt, (listed ++ ruled).map fun s => ⟨s.1, s.2⟩⟩

/-- The offsets that the zone ever uses, greatest first. -/
def offsets : List Int := [7200, 3600, 2996]

/-- What a clock in Italy shows at an instant. -/
def reading (i : Instant) : Reading :=
  zone.reading i

/-- The calendar day in Italy at an instant. -/
def date (i : Instant) : Date :=
  (reading i).date

/-- The earliest instant in range at which a clock in Italy shows the reading, if there is one. -/
def earliest? (r : Reading) : Option Instant :=
  (zone.earliest? offsets r).filter Instant.inRange

/-- Whether two instants fall on the same calendar day in Italy. -/
def sameDay (a b : Instant) : Bool :=
  date a = date b

example : lastSunday 2024 3 = ⟨19813⟩ := by decide
example : (oneInTheMorning (lastSunday 2024 10)) = 1729990800 := by decide

end RailWatch.Zone.Rome
