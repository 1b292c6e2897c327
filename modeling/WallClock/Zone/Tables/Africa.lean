import WallClock.Zone.Rules

/-!
Local time of zones in Africa: seconds since 1970-01-01T00:00:00Z and offsets in seconds east of
Greenwich.
-/

namespace WallClock.Zone.Tables

/-- Local time of Africa/Cairo. -/
def africaCairo : Rules where
  first := 7509
  transitions := [
    ⟨-2185409109, 7200⟩, ⟨-929844000, 10800⟩, ⟨-923108400, 7200⟩, ⟨-906170400, 10800⟩,
    ⟨-892868400, 7200⟩, ⟨-875844000, 10800⟩, ⟨-857790000, 7200⟩, ⟨-844308000, 10800⟩,
    ⟨-825822000, 7200⟩, ⟨-812685600, 10800⟩, ⟨-794199600, 7200⟩, ⟨-779853600, 10800⟩,
    ⟨-762663600, 7200⟩, ⟨-399088800, 10800⟩, ⟨-386650800, 7200⟩, ⟨-368330400, 10800⟩,
    ⟨-355114800, 7200⟩, ⟨-336790800, 10800⟩, ⟨-323654400, 7200⟩, ⟨-305168400, 10800⟩,
    ⟨-292032000, 7200⟩, ⟨-273632400, 10800⟩, ⟨-260496000, 7200⟩, ⟨-242096400, 10800⟩,
    ⟨-228960000, 7200⟩, ⟨-210560400, 10800⟩, ⟨-197424000, 7200⟩, ⟨-178938000, 10800⟩,
    ⟨-165801600, 7200⟩, ⟨-147402000, 10800⟩, ⟨-134265600, 7200⟩, ⟨-115866000, 10800⟩,
    ⟨-102643200, 7200⟩, ⟨-84330000, 10800⟩, ⟨-71107200, 7200⟩, ⟨-52707600, 10800⟩,
    ⟨-39484800, 7200⟩, ⟨-21171600, 10800⟩, ⟨-7948800, 7200⟩, ⟨10364400, 10800⟩, ⟨23587200, 7200⟩,
    ⟨41900400, 10800⟩, ⟨55123200, 7200⟩, ⟨73522800, 10800⟩, ⟨86745600, 7200⟩, ⟨105058800, 10800⟩,
    ⟨118281600, 7200⟩, ⟨136594800, 10800⟩, ⟨149817600, 7200⟩, ⟨168130800, 10800⟩, ⟨181353600, 7200⟩,
    ⟨199753200, 10800⟩, ⟨212976000, 7200⟩, ⟨231289200, 10800⟩, ⟨244512000, 7200⟩,
    ⟨262825200, 10800⟩, ⟨276048000, 7200⟩, ⟨294361200, 10800⟩, ⟨307584000, 7200⟩,
    ⟨325983600, 10800⟩, ⟨339206400, 7200⟩, ⟨357519600, 10800⟩, ⟨370742400, 7200⟩,
    ⟨396399600, 10800⟩, ⟨402278400, 7200⟩, ⟨426812400, 10800⟩, ⟨433814400, 7200⟩,
    ⟨452214000, 10800⟩, ⟨465436800, 7200⟩, ⟨483750000, 10800⟩, ⟨496972800, 7200⟩,
    ⟨515286000, 10800⟩, ⟨528508800, 7200⟩, ⟨546822000, 10800⟩, ⟨560044800, 7200⟩,
    ⟨578444400, 10800⟩, ⟨591667200, 7200⟩, ⟨610412400, 10800⟩, ⟨623203200, 7200⟩,
    ⟨641516400, 10800⟩, ⟨654739200, 7200⟩, ⟨673052400, 10800⟩, ⟨686275200, 7200⟩,
    ⟨704674800, 10800⟩, ⟨717897600, 7200⟩, ⟨736210800, 10800⟩, ⟨749433600, 7200⟩,
    ⟨767746800, 10800⟩, ⟨780969600, 7200⟩, ⟨799020000, 10800⟩, ⟨812322000, 7200⟩,
    ⟨830469600, 10800⟩, ⟨843771600, 7200⟩, ⟨861919200, 10800⟩, ⟨875221200, 7200⟩,
    ⟨893368800, 10800⟩, ⟨906670800, 7200⟩, ⟨925423200, 10800⟩, ⟨938725200, 7200⟩,
    ⟨956872800, 10800⟩, ⟨970174800, 7200⟩, ⟨988322400, 10800⟩, ⟨1001624400, 7200⟩,
    ⟨1019772000, 10800⟩, ⟨1033074000, 7200⟩, ⟨1051221600, 10800⟩, ⟨1064523600, 7200⟩,
    ⟨1083276000, 10800⟩, ⟨1096578000, 7200⟩, ⟨1114725600, 10800⟩, ⟨1128027600, 7200⟩,
    ⟨1146175200, 10800⟩, ⟨1158872400, 7200⟩, ⟨1177624800, 10800⟩, ⟨1189112400, 7200⟩,
    ⟨1209074400, 10800⟩, ⟨1219957200, 7200⟩, ⟨1240524000, 10800⟩, ⟨1250802000, 7200⟩,
    ⟨1272578400, 10800⟩, ⟨1281474000, 7200⟩, ⟨1284069600, 10800⟩, ⟨1285880400, 7200⟩,
    ⟨1400191200, 10800⟩, ⟨1403816400, 7200⟩, ⟨1406844000, 10800⟩, ⟨1411678800, 7200⟩,
    ⟨1682632800, 10800⟩]
  after := ⟨7200, some ⟨10800, ⟨.inWeek 4 5 5, 0⟩, ⟨.inWeek 10 5 4, 86400⟩⟩⟩

/-- Local time of Africa/Johannesburg. -/
def africaJohannesburg : Rules where
  first := 6720
  transitions := [
    ⟨-2458173120, 5400⟩, ⟨-2109288600, 7200⟩, ⟨-860976000, 10800⟩, ⟨-845254800, 7200⟩,
    ⟨-829526400, 10800⟩, ⟨-813805200, 7200⟩]
  after := ⟨7200, none⟩

/-- Local time of Africa/Lagos. -/
def africaLagos : Rules where
  first := 815
  transitions := [
    ⟨-2035584815, 0⟩, ⟨-1940889600, 815⟩, ⟨-1767226415, 1800⟩, ⟨-1588465800, 3600⟩]
  after := ⟨3600, none⟩

/-- Local time of Africa/Monrovia. -/
def africaMonrovia : Rules where
  first := -2588
  transitions := [
    ⟨-1604359012, -2670⟩, ⟨63593070, 0⟩]
  after := ⟨0, none⟩

end WallClock.Zone.Tables
