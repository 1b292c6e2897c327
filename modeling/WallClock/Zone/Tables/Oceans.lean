import WallClock.Zone.Rules

/-!
Local time of zones in Australia, Antarctica and the oceans: seconds since 1970-01-01T00:00:00Z and offsets in seconds east of
Greenwich.
-/

namespace WallClock.Zone.Tables

/-- Local time of Antarctica/Troll. -/
def antarcticaTroll : Rules where
  first := 0
  transitions := [
    ⟨1108166400, 0⟩]
  after := ⟨0, some ⟨7200, ⟨.inWeek 3 5 0, 3600⟩, ⟨.inWeek 10 5 0, 10800⟩⟩⟩

/-- Local time of Atlantic/Azores. -/
def atlanticAzores : Rules where
  first := -6160
  transitions := [
    ⟨-2713904240, -6872⟩, ⟨-1830376800, -7200⟩, ⟨-1689548400, -3600⟩, ⟨-1677794400, -7200⟩,
    ⟨-1667426400, -3600⟩, ⟨-1647730800, -7200⟩, ⟨-1635890400, -3600⟩, ⟨-1616194800, -7200⟩,
    ⟨-1604354400, -3600⟩, ⟨-1584658800, -7200⟩, ⟨-1572732000, -3600⟩, ⟨-1553036400, -7200⟩,
    ⟨-1541196000, -3600⟩, ⟨-1521500400, -7200⟩, ⟨-1442444400, -3600⟩, ⟨-1427670000, -7200⟩,
    ⟨-1379286000, -3600⟩, ⟨-1364770800, -7200⟩, ⟨-1348441200, -3600⟩, ⟨-1333321200, -7200⟩,
    ⟨-1316386800, -3600⟩, ⟨-1301266800, -7200⟩, ⟨-1284332400, -3600⟩, ⟨-1269817200, -7200⟩,
    ⟨-1221433200, -3600⟩, ⟨-1206918000, -7200⟩, ⟨-1191193200, -3600⟩, ⟨-1175468400, -7200⟩,
    ⟨-1127689200, -3600⟩, ⟨-1111964400, -7200⟩, ⟨-1096844400, -3600⟩, ⟨-1080514800, -7200⟩,
    ⟨-1063580400, -3600⟩, ⟨-1049065200, -7200⟩, ⟨-1033340400, -3600⟩, ⟨-1017615600, -7200⟩,
    ⟨-1002495600, -3600⟩, ⟨-986166000, -7200⟩, ⟨-969231600, -3600⟩, ⟨-950482800, -7200⟩,
    ⟨-942015600, -3600⟩, ⟨-922489200, -7200⟩, ⟨-906937200, -3600⟩, ⟨-891126000, -7200⟩,
    ⟨-877302000, -3600⟩, ⟨-873676800, 0⟩, ⟨-864000000, -3600⟩, ⟨-857948400, -7200⟩,
    ⟨-845852400, -3600⟩, ⟨-842832000, 0⟩, ⟨-831340800, -3600⟩, ⟨-825894000, -7200⟩,
    ⟨-814402800, -3600⟩, ⟨-810777600, 0⟩, ⟨-799891200, -3600⟩, ⟨-794444400, -7200⟩,
    ⟨-782953200, -3600⟩, ⟨-779328000, 0⟩, ⟨-768441600, -3600⟩, ⟨-762994800, -7200⟩,
    ⟨-749084400, -3600⟩, ⟨-733359600, -7200⟩, ⟨-717624000, -3600⟩, ⟨-701899200, -7200⟩,
    ⟨-686174400, -3600⟩, ⟨-670449600, -7200⟩, ⟨-654724800, -3600⟩, ⟨-639000000, -7200⟩,
    ⟨-623275200, -3600⟩, ⟨-607550400, -7200⟩, ⟨-591825600, -3600⟩, ⟨-575496000, -7200⟩,
    ⟨-559771200, -3600⟩, ⟨-544046400, -7200⟩, ⟨-528321600, -3600⟩, ⟨-512596800, -7200⟩,
    ⟨-496872000, -3600⟩, ⟨-481147200, -7200⟩, ⟨-465422400, -3600⟩, ⟨-449697600, -7200⟩,
    ⟨-433972800, -3600⟩, ⟨-417643200, -7200⟩, ⟨-401918400, -3600⟩, ⟨-386193600, -7200⟩,
    ⟨-370468800, -3600⟩, ⟨-354744000, -7200⟩, ⟨-339019200, -3600⟩, ⟨-323294400, -7200⟩,
    ⟨-307569600, -3600⟩, ⟨-291844800, -7200⟩, ⟨-276120000, -3600⟩, ⟨-260395200, -7200⟩,
    ⟨-244670400, -3600⟩, ⟨-228340800, -7200⟩, ⟨-212616000, -3600⟩, ⟨-196891200, -7200⟩,
    ⟨-181166400, -3600⟩, ⟨-165441600, -7200⟩, ⟨-149716800, -3600⟩, ⟨-133992000, -7200⟩,
    ⟨-118267200, -3600⟩, ⟨386125200, 0⟩, ⟨401850000, -3600⟩, ⟨417574800, 0⟩, ⟨433299600, -3600⟩,
    ⟨449024400, 0⟩, ⟨465354000, -3600⟩, ⟨481078800, 0⟩, ⟨496803600, -3600⟩, ⟨512528400, 0⟩,
    ⟨528253200, -3600⟩, ⟨543978000, 0⟩, ⟨559702800, -3600⟩, ⟨575427600, 0⟩, ⟨591152400, -3600⟩,
    ⟨606877200, 0⟩, ⟨622602000, -3600⟩, ⟨638326800, 0⟩, ⟨654656400, -3600⟩, ⟨670381200, 0⟩,
    ⟨686106000, -3600⟩, ⟨701830800, 0⟩, ⟨717555600, -3600⟩, ⟨725421600, 0⟩, ⟨733280400, 3600⟩,
    ⟨740278800, 0⟩, ⟨749005200, -3600⟩, ⟨764730000, 0⟩, ⟨780454800, -3600⟩, ⟨796179600, 0⟩,
    ⟨811904400, -3600⟩, ⟨828234000, 0⟩]
  after := ⟨-3600, some ⟨0, ⟨.inWeek 3 5 0, 0⟩, ⟨.inWeek 10 5 0, 3600⟩⟩⟩

/-- Local time of Australia/Eucla. -/
def australiaEucla : Rules where
  first := 30928
  transitions := [
    ⟨-2337928528, 31500⟩, ⟨-1672555500, 35100⟩, ⟨-1665384300, 31500⟩, ⟨-883637100, 35100⟩,
    ⟨-876120300, 31500⟩, ⟨-860395500, 35100⟩, ⟨-844670700, 31500⟩, ⟨152039700, 35100⟩,
    ⟨162926100, 31500⟩, ⟨436295700, 35100⟩, ⟨447182100, 31500⟩, ⟨690311700, 35100⟩,
    ⟨699383700, 31500⟩, ⟨1165079700, 35100⟩, ⟨1174756500, 31500⟩, ⟨1193505300, 35100⟩,
    ⟨1206810900, 31500⟩, ⟨1224954900, 35100⟩, ⟨1238260500, 31500⟩]
  after := ⟨31500, none⟩

/-- Local time of Australia/Lord_Howe. -/
def australiaLordHowe : Rules where
  first := 38180
  transitions := [
    ⟨-2364114980, 36000⟩, ⟨352216800, 37800⟩, ⟨372785400, 41400⟩, ⟨384273000, 37800⟩,
    ⟨404839800, 41400⟩, ⟨415722600, 37800⟩, ⟨436289400, 41400⟩, ⟨447172200, 37800⟩,
    ⟨467739000, 41400⟩, ⟨478621800, 37800⟩, ⟨499188600, 39600⟩, ⟨511282800, 37800⟩,
    ⟨530033400, 39600⟩, ⟨542732400, 37800⟩, ⟨562087800, 39600⟩, ⟨574786800, 37800⟩,
    ⟨594142200, 39600⟩, ⟨606236400, 37800⟩, ⟨625591800, 39600⟩, ⟨636476400, 37800⟩,
    ⟨657041400, 39600⟩, ⟨667926000, 37800⟩, ⟨688491000, 39600⟩, ⟨699375600, 37800⟩,
    ⟨719940600, 39600⟩, ⟨731430000, 37800⟩, ⟨751995000, 39600⟩, ⟨762879600, 37800⟩,
    ⟨783444600, 39600⟩, ⟨794329200, 37800⟩, ⟨814894200, 39600⟩, ⟨828198000, 37800⟩,
    ⟨846343800, 39600⟩, ⟨859647600, 37800⟩, ⟨877793400, 39600⟩, ⟨891097200, 37800⟩,
    ⟨909243000, 39600⟩, ⟨922546800, 37800⟩, ⟨941297400, 39600⟩, ⟨953996400, 37800⟩,
    ⟨967303800, 39600⟩, ⟨985446000, 37800⟩, ⟨1004196600, 39600⟩, ⟨1017500400, 37800⟩,
    ⟨1035646200, 39600⟩, ⟨1048950000, 37800⟩, ⟨1067095800, 39600⟩, ⟨1080399600, 37800⟩,
    ⟨1099150200, 39600⟩, ⟨1111849200, 37800⟩, ⟨1130599800, 39600⟩, ⟨1143903600, 37800⟩,
    ⟨1162049400, 39600⟩, ⟨1174748400, 37800⟩, ⟨1193499000, 39600⟩, ⟨1207407600, 37800⟩]
  after := ⟨37800, some ⟨39600, ⟨.inWeek 10 1 0, 7200⟩, ⟨.inWeek 4 1 0, 7200⟩⟩⟩

/-- Local time of Australia/Sydney. -/
def australiaSydney : Rules where
  first := 36292
  transitions := [
    ⟨-2364113092, 36000⟩, ⟨-1672560000, 39600⟩, ⟨-1665388800, 36000⟩, ⟨-883641600, 39600⟩,
    ⟨-876124800, 36000⟩, ⟨-860400000, 39600⟩, ⟨-844675200, 36000⟩, ⟨-828345600, 39600⟩,
    ⟨-813225600, 36000⟩, ⟨57686400, 39600⟩, ⟨67968000, 36000⟩, ⟨89136000, 39600⟩,
    ⟨100022400, 36000⟩, ⟨120585600, 39600⟩, ⟨131472000, 36000⟩, ⟨152035200, 39600⟩,
    ⟨162921600, 36000⟩, ⟨183484800, 39600⟩, ⟨194976000, 36000⟩, ⟨215539200, 39600⟩,
    ⟨226425600, 36000⟩, ⟨246988800, 39600⟩, ⟨257875200, 36000⟩, ⟨278438400, 39600⟩,
    ⟨289324800, 36000⟩, ⟨309888000, 39600⟩, ⟨320774400, 36000⟩, ⟨341337600, 39600⟩,
    ⟨352224000, 36000⟩, ⟨372787200, 39600⟩, ⟨386697600, 36000⟩, ⟨404841600, 39600⟩,
    ⟨415728000, 36000⟩, ⟨436291200, 39600⟩, ⟨447177600, 36000⟩, ⟨467740800, 39600⟩,
    ⟨478627200, 36000⟩, ⟨499190400, 39600⟩, ⟨511286400, 36000⟩, ⟨530035200, 39600⟩,
    ⟨542736000, 36000⟩, ⟨562089600, 39600⟩, ⟨574790400, 36000⟩, ⟨594144000, 39600⟩,
    ⟨606240000, 36000⟩, ⟨625593600, 39600⟩, ⟨636480000, 36000⟩, ⟨657043200, 39600⟩,
    ⟨667929600, 36000⟩, ⟨688492800, 39600⟩, ⟨699379200, 36000⟩, ⟨719942400, 39600⟩,
    ⟨731433600, 36000⟩, ⟨751996800, 39600⟩, ⟨762883200, 36000⟩, ⟨783446400, 39600⟩,
    ⟨794332800, 36000⟩, ⟨814896000, 39600⟩, ⟨828201600, 36000⟩, ⟨846345600, 39600⟩,
    ⟨859651200, 36000⟩, ⟨877795200, 39600⟩, ⟨891100800, 36000⟩, ⟨909244800, 39600⟩,
    ⟨922550400, 36000⟩, ⟨941299200, 39600⟩, ⟨954000000, 36000⟩, ⟨967305600, 39600⟩,
    ⟨985449600, 36000⟩, ⟨1004198400, 39600⟩, ⟨1017504000, 36000⟩, ⟨1035648000, 39600⟩,
    ⟨1048953600, 36000⟩, ⟨1067097600, 39600⟩, ⟨1080403200, 36000⟩, ⟨1099152000, 39600⟩,
    ⟨1111852800, 36000⟩, ⟨1130601600, 39600⟩, ⟨1143907200, 36000⟩, ⟨1162051200, 39600⟩,
    ⟨1174752000, 36000⟩, ⟨1193500800, 39600⟩, ⟨1207411200, 36000⟩]
  after := ⟨36000, some ⟨39600, ⟨.inWeek 10 1 0, 7200⟩, ⟨.inWeek 4 1 0, 10800⟩⟩⟩

/-- Local time of Indian/Maldives. -/
def indianMaldives : Rules where
  first := 17640
  transitions := [
    ⟨-315636840, 18000⟩]
  after := ⟨18000, none⟩

/-- Local time of NZ-CHAT. -/
def nzchat : Rules where
  first := 44028
  transitions := [
    ⟨-3192437628, 44100⟩, ⟨-757426500, 45900⟩, ⟨152632800, 49500⟩, ⟨162309600, 45900⟩,
    ⟨183477600, 49500⟩, ⟨194968800, 45900⟩, ⟨215532000, 49500⟩, ⟨226418400, 45900⟩,
    ⟨246981600, 49500⟩, ⟨257868000, 45900⟩, ⟨278431200, 49500⟩, ⟨289317600, 45900⟩,
    ⟨309880800, 49500⟩, ⟨320767200, 45900⟩, ⟨341330400, 49500⟩, ⟨352216800, 45900⟩,
    ⟨372780000, 49500⟩, ⟨384271200, 45900⟩, ⟨404834400, 49500⟩, ⟨415720800, 45900⟩,
    ⟨436284000, 49500⟩, ⟨447170400, 45900⟩, ⟨467733600, 49500⟩, ⟨478620000, 45900⟩,
    ⟨499183200, 49500⟩, ⟨510069600, 45900⟩, ⟨530632800, 49500⟩, ⟨541519200, 45900⟩,
    ⟨562082400, 49500⟩, ⟨573573600, 45900⟩, ⟨594136800, 49500⟩, ⟨605023200, 45900⟩,
    ⟨623772000, 49500⟩, ⟨637682400, 45900⟩, ⟨655221600, 49500⟩, ⟨669132000, 45900⟩,
    ⟨686671200, 49500⟩, ⟨700581600, 45900⟩, ⟨718120800, 49500⟩, ⟨732636000, 45900⟩,
    ⟨749570400, 49500⟩, ⟨764085600, 45900⟩, ⟨781020000, 49500⟩, ⟨795535200, 45900⟩,
    ⟨812469600, 49500⟩, ⟨826984800, 45900⟩, ⟨844524000, 49500⟩, ⟨858434400, 45900⟩,
    ⟨875973600, 49500⟩, ⟨889884000, 45900⟩, ⟨907423200, 49500⟩, ⟨921938400, 45900⟩,
    ⟨938872800, 49500⟩, ⟨953388000, 45900⟩, ⟨970322400, 49500⟩, ⟨984837600, 45900⟩,
    ⟨1002376800, 49500⟩, ⟨1016287200, 45900⟩, ⟨1033826400, 49500⟩, ⟨1047736800, 45900⟩,
    ⟨1065276000, 49500⟩, ⟨1079791200, 45900⟩, ⟨1096725600, 49500⟩, ⟨1111240800, 45900⟩,
    ⟨1128175200, 49500⟩, ⟨1142690400, 45900⟩, ⟨1159624800, 49500⟩, ⟨1174140000, 45900⟩,
    ⟨1191074400, 49500⟩]
  after := ⟨45900, some ⟨49500, ⟨.inWeek 9 5 0, 9900⟩, ⟨.inWeek 4 1 0, 13500⟩⟩⟩

/-- Local time of Pacific/Apia. -/
def pacificApia : Rules where
  first := 45184
  transitions := [
    ⟨-2445424384, -41216⟩, ⟨-1861878784, -41400⟩, ⟨-631110600, -39600⟩, ⟨1285498800, -36000⟩,
    ⟨1301752800, -39600⟩, ⟨1316872800, -36000⟩, ⟨1325239200, 50400⟩, ⟨1333202400, 46800⟩,
    ⟨1348927200, 50400⟩, ⟨1365256800, 46800⟩, ⟨1380376800, 50400⟩, ⟨1396706400, 46800⟩,
    ⟨1411826400, 50400⟩, ⟨1428156000, 46800⟩, ⟨1443276000, 50400⟩, ⟨1459605600, 46800⟩,
    ⟨1474725600, 50400⟩, ⟨1491055200, 46800⟩, ⟨1506175200, 50400⟩, ⟨1522504800, 46800⟩,
    ⟨1538229600, 50400⟩, ⟨1554559200, 46800⟩, ⟨1569679200, 50400⟩, ⟨1586008800, 46800⟩,
    ⟨1601128800, 50400⟩, ⟨1617458400, 46800⟩]
  after := ⟨46800, none⟩

/-- Local time of Pacific/Auckland. -/
def pacificAuckland : Rules where
  first := 41944
  transitions := [
    ⟨-3192435544, 41400⟩, ⟨-1330335000, 45000⟩, ⟨-1320057000, 41400⟩, ⟨-1300699800, 43200⟩,
    ⟨-1287396000, 41400⟩, ⟨-1269250200, 43200⟩, ⟨-1255946400, 41400⟩, ⟨-1237800600, 43200⟩,
    ⟨-1224496800, 41400⟩, ⟨-1206351000, 43200⟩, ⟨-1192442400, 41400⟩, ⟨-1174901400, 43200⟩,
    ⟨-1160992800, 41400⟩, ⟨-1143451800, 43200⟩, ⟨-1125914400, 41400⟩, ⟨-1112607000, 43200⟩,
    ⟨-1094464800, 41400⟩, ⟨-1081157400, 43200⟩, ⟨-1063015200, 41400⟩, ⟨-1049707800, 43200⟩,
    ⟨-1031565600, 41400⟩, ⟨-1018258200, 43200⟩, ⟨-1000116000, 41400⟩, ⟨-986808600, 43200⟩,
    ⟨-968061600, 41400⟩, ⟨-955359000, 43200⟩, ⟨-936612000, 41400⟩, ⟨-923304600, 43200⟩,
    ⟨152632800, 46800⟩, ⟨162309600, 43200⟩, ⟨183477600, 46800⟩, ⟨194968800, 43200⟩,
    ⟨215532000, 46800⟩, ⟨226418400, 43200⟩, ⟨246981600, 46800⟩, ⟨257868000, 43200⟩,
    ⟨278431200, 46800⟩, ⟨289317600, 43200⟩, ⟨309880800, 46800⟩, ⟨320767200, 43200⟩,
    ⟨341330400, 46800⟩, ⟨352216800, 43200⟩, ⟨372780000, 46800⟩, ⟨384271200, 43200⟩,
    ⟨404834400, 46800⟩, ⟨415720800, 43200⟩, ⟨436284000, 46800⟩, ⟨447170400, 43200⟩,
    ⟨467733600, 46800⟩, ⟨478620000, 43200⟩, ⟨499183200, 46800⟩, ⟨510069600, 43200⟩,
    ⟨530632800, 46800⟩, ⟨541519200, 43200⟩, ⟨562082400, 46800⟩, ⟨573573600, 43200⟩,
    ⟨594136800, 46800⟩, ⟨605023200, 43200⟩, ⟨623772000, 46800⟩, ⟨637682400, 43200⟩,
    ⟨655221600, 46800⟩, ⟨669132000, 43200⟩, ⟨686671200, 46800⟩, ⟨700581600, 43200⟩,
    ⟨718120800, 46800⟩, ⟨732636000, 43200⟩, ⟨749570400, 46800⟩, ⟨764085600, 43200⟩,
    ⟨781020000, 46800⟩, ⟨795535200, 43200⟩, ⟨812469600, 46800⟩, ⟨826984800, 43200⟩,
    ⟨844524000, 46800⟩, ⟨858434400, 43200⟩, ⟨875973600, 46800⟩, ⟨889884000, 43200⟩,
    ⟨907423200, 46800⟩, ⟨921938400, 43200⟩, ⟨938872800, 46800⟩, ⟨953388000, 43200⟩,
    ⟨970322400, 46800⟩, ⟨984837600, 43200⟩, ⟨1002376800, 46800⟩, ⟨1016287200, 43200⟩,
    ⟨1033826400, 46800⟩, ⟨1047736800, 43200⟩, ⟨1065276000, 46800⟩, ⟨1079791200, 43200⟩,
    ⟨1096725600, 46800⟩, ⟨1111240800, 43200⟩, ⟨1128175200, 46800⟩, ⟨1142690400, 43200⟩,
    ⟨1159624800, 46800⟩, ⟨1174140000, 43200⟩, ⟨1191074400, 46800⟩]
  after := ⟨43200, some ⟨46800, ⟨.inWeek 9 5 0, 7200⟩, ⟨.inWeek 4 1 0, 10800⟩⟩⟩

/-- Local time of Pacific/Kiritimati. -/
def pacificKiritimati : Rules where
  first := -37760
  transitions := [
    ⟨-2177415040, -38400⟩, ⟨307622400, -36000⟩, ⟨788868000, 50400⟩]
  after := ⟨50400, none⟩

/-- Local time of Pacific/Kwajalein. -/
def pacificKwajalein : Rules where
  first := 40160
  transitions := [
    ⟨-2177492960, 39600⟩, ⟨-1041418800, 36000⟩, ⟨-907408800, 32400⟩, ⟨-817462800, 39600⟩,
    ⟨-7988400, -43200⟩, ⟨745934400, 43200⟩]
  after := ⟨43200, none⟩

/-- Local time of Pacific/Marquesas. -/
def pacificMarquesas : Rules where
  first := -33480
  transitions := [
    ⟨-1806676920, -34200⟩]
  after := ⟨-34200, none⟩

/-- Local time of Pacific/Norfolk. -/
def pacificNorfolk : Rules where
  first := 40312
  transitions := [
    ⟨-2177493112, 40320⟩, ⟨-599656320, 41400⟩, ⟨152029800, 45000⟩, ⟨162916200, 41400⟩,
    ⟨1443882600, 39600⟩, ⟨1561899600, 39600⟩]
  after := ⟨39600, some ⟨43200, ⟨.inWeek 10 1 0, 7200⟩, ⟨.inWeek 4 1 0, 10800⟩⟩⟩

/-- Local time of Pacific/Pago_Pago. -/
def pacificPagoPago : Rules where
  first := 45432
  transitions := [
    ⟨-2445424632, -40968⟩, ⟨-1861879032, -39600⟩]
  after := ⟨-39600, none⟩

end WallClock.Zone.Tables
