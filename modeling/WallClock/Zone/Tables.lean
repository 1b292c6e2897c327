import WallClock.Zone.Tables.Africa
import WallClock.Zone.Tables.NorthAmerica
import WallClock.Zone.Tables.SouthAmerica
import WallClock.Zone.Tables.Asia
import WallClock.Zone.Tables.Europe
import WallClock.Zone.Tables.Oceans

/-!
The tables of local time by name. They are not complete: most names of the directory have none here.
Names that share their rules are linked to the name that the table has; the zones `Etc/GMT+5` and the
like have a constant offset each.
-/

namespace WallClock.Zone

/-- The zones with a table of their own. -/
def tables : List (String × Rules) := [
  ("Africa/Cairo", Tables.africaCairo), ("Africa/Johannesburg", Tables.africaJohannesburg),
  ("Africa/Lagos", Tables.africaLagos), ("Africa/Monrovia", Tables.africaMonrovia),
  ("America/Argentina/Buenos_Aires", Tables.americaArgentinaBuenosAires),
  ("America/Asuncion", Tables.americaAsuncion), ("America/Caracas", Tables.americaCaracas),
  ("America/Chicago", Tables.americaChicago), ("America/Havana", Tables.americaHavana),
  ("America/Juneau", Tables.americaJuneau), ("America/Los_Angeles", Tables.americaLosAngeles),
  ("America/Mexico_City", Tables.americaMexicoCity), ("America/New_York", Tables.americaNewYork),
  ("America/Nuuk", Tables.americaNuuk), ("America/Phoenix", Tables.americaPhoenix),
  ("America/Santiago", Tables.americaSantiago), ("America/Sao_Paulo", Tables.americaSaoPaulo),
  ("America/Scoresbysund", Tables.americaScoresbysund), ("America/St_Johns", Tables.americaStJohns),
  ("Antarctica/Troll", Tables.antarcticaTroll), ("Asia/Beirut", Tables.asiaBeirut),
  ("Asia/Gaza", Tables.asiaGaza), ("Asia/Ho_Chi_Minh", Tables.asiaHoChiMinh),
  ("Asia/Jerusalem", Tables.asiaJerusalem), ("Asia/Karachi", Tables.asiaKarachi),
  ("Asia/Kathmandu", Tables.asiaKathmandu), ("Asia/Kolkata", Tables.asiaKolkata),
  ("Asia/Manila", Tables.asiaManila), ("Asia/Pyongyang", Tables.asiaPyongyang),
  ("Asia/Shanghai", Tables.asiaShanghai), ("Asia/Singapore", Tables.asiaSingapore),
  ("Asia/Tehran", Tables.asiaTehran), ("Asia/Tokyo", Tables.asiaTokyo),
  ("Atlantic/Azores", Tables.atlanticAzores), ("Australia/Eucla", Tables.australiaEucla),
  ("Australia/Lord_Howe", Tables.australiaLordHowe), ("Australia/Sydney", Tables.australiaSydney),
  ("CET", Tables.cet), ("EST", Tables.est), ("EST5EDT", Tables.est5edt),
  ("Europe/Berlin", Tables.europeBerlin), ("Europe/Dublin", Tables.europeDublin),
  ("Europe/Istanbul", Tables.europeIstanbul), ("Europe/Lisbon", Tables.europeLisbon),
  ("Europe/London", Tables.europeLondon), ("Europe/Moscow", Tables.europeMoscow),
  ("Europe/Paris", Tables.europeParis), ("Europe/Warsaw", Tables.europeWarsaw),
  ("Indian/Maldives", Tables.indianMaldives), ("MST7MDT", Tables.mst7mdt),
  ("NZ-CHAT", Tables.nzchat), ("PST8PDT", Tables.pst8pdt), ("Pacific/Apia", Tables.pacificApia),
  ("Pacific/Auckland", Tables.pacificAuckland), ("Pacific/Kiritimati", Tables.pacificKiritimati),
  ("Pacific/Kwajalein", Tables.pacificKwajalein), ("Pacific/Marquesas", Tables.pacificMarquesas),
  ("Pacific/Norfolk", Tables.pacificNorfolk), ("Pacific/Pago_Pago", Tables.pacificPagoPago)]

/-- The zones of constant offset. The sign in the name counts west of Greenwich. -/
def constants : List (String × Rules) := [
  ("Etc/GMT+1", .fixed (-3600)), ("Etc/GMT+10", .fixed (-36000)), ("Etc/GMT+11", .fixed (-39600)),
  ("Etc/GMT+12", .fixed (-43200)), ("Etc/GMT+2", .fixed (-7200)), ("Etc/GMT+3", .fixed (-10800)),
  ("Etc/GMT+4", .fixed (-14400)), ("Etc/GMT+5", .fixed (-18000)), ("Etc/GMT+6", .fixed (-21600)),
  ("Etc/GMT+7", .fixed (-25200)), ("Etc/GMT+8", .fixed (-28800)), ("Etc/GMT+9", .fixed (-32400)),
  ("Etc/GMT-1", .fixed 3600), ("Etc/GMT-10", .fixed 36000), ("Etc/GMT-11", .fixed 39600),
  ("Etc/GMT-12", .fixed 43200), ("Etc/GMT-13", .fixed 46800), ("Etc/GMT-14", .fixed 50400),
  ("Etc/GMT-2", .fixed 7200), ("Etc/GMT-3", .fixed 10800), ("Etc/GMT-4", .fixed 14400),
  ("Etc/GMT-5", .fixed 18000), ("Etc/GMT-6", .fixed 21600), ("Etc/GMT-7", .fixed 25200),
  ("Etc/GMT-8", .fixed 28800), ("Etc/GMT-9", .fixed 32400)]

/-- Names with the same rules as another. -/
def links : List (String × String) := [
  ("America/Buenos_Aires", "America/Argentina/Buenos_Aires"), ("America/Godthab", "America/Nuuk"),
  ("Antarctica/McMurdo", "Pacific/Auckland"), ("Antarctica/South_Pole", "Pacific/Auckland"),
  ("Asia/Calcutta", "Asia/Kolkata"), ("Asia/Chongqing", "Asia/Shanghai"),
  ("Asia/Harbin", "Asia/Shanghai"), ("Asia/Istanbul", "Europe/Istanbul"),
  ("Asia/Katmandu", "Asia/Kathmandu"), ("Asia/Saigon", "Asia/Ho_Chi_Minh"),
  ("Asia/Tel_Aviv", "Asia/Jerusalem"), ("Australia/ACT", "Australia/Sydney"),
  ("Australia/Canberra", "Australia/Sydney"), ("Australia/LHI", "Australia/Lord_Howe"),
  ("Australia/NSW", "Australia/Sydney"), ("Brazil/East", "America/Sao_Paulo"),
  ("Canada/Newfoundland", "America/St_Johns"), ("Chile/Continental", "America/Santiago"),
  ("Cuba", "America/Havana"), ("Egypt", "Africa/Cairo"), ("Eire", "Europe/Dublin"),
  ("Europe/Belfast", "Europe/London"), ("GB", "Europe/London"), ("GB-Eire", "Europe/London"),
  ("Iran", "Asia/Tehran"), ("Israel", "Asia/Jerusalem"), ("Japan", "Asia/Tokyo"),
  ("Kwajalein", "Pacific/Kwajalein"), ("MST", "America/Phoenix"),
  ("Mexico/General", "America/Mexico_City"), ("NZ", "Pacific/Auckland"), ("PRC", "Asia/Shanghai"),
  ("Pacific/Chatham", "NZ-CHAT"), ("Pacific/Samoa", "Pacific/Pago_Pago"),
  ("Poland", "Europe/Warsaw"), ("Portugal", "Europe/Lisbon"), ("Singapore", "Asia/Singapore"),
  ("Turkey", "Europe/Istanbul"), ("US/Arizona", "America/Phoenix"),
  ("US/Central", "America/Chicago"), ("US/Eastern", "America/New_York"),
  ("US/Pacific", "America/Los_Angeles"), ("US/Samoa", "Pacific/Pago_Pago"),
  ("W-SU", "Europe/Moscow")]

/-- The rules of the zone of this name, if it is in the tables. -/
def tabulated? (name : String) : Option Rules :=
  let target := (links.lookup name).getD name
  (tables.lookup target).or (constants.lookup target)

end WallClock.Zone
