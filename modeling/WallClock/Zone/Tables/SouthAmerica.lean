import WallClock.Zone.Rules

/-!
Local time of zones in South America: seconds since 1970-01-01T00:00:00Z and offsets in seconds east of
Greenwich.
-/

namespace WallClock.Zone.Tables

/-- Local time of America/Argentina/Buenos_Aires. -/
def americaArgentinaBuenosAires : Rules where
  first := -14028
  transitions := [
    ⟨-2372097972, -15408⟩, ⟨-1567453392, -14400⟩, ⟨-1233432000, -10800⟩, ⟨-1222981200, -14400⟩,
    ⟨-1205956800, -10800⟩, ⟨-1194037200, -14400⟩, ⟨-1172865600, -10800⟩, ⟨-1162501200, -14400⟩,
    ⟨-1141329600, -10800⟩, ⟨-1130965200, -14400⟩, ⟨-1109793600, -10800⟩, ⟨-1099429200, -14400⟩,
    ⟨-1078257600, -10800⟩, ⟨-1067806800, -14400⟩, ⟨-1046635200, -10800⟩, ⟨-1036270800, -14400⟩,
    ⟨-1015099200, -10800⟩, ⟨-1004734800, -14400⟩, ⟨-983563200, -10800⟩, ⟨-973198800, -14400⟩,
    ⟨-952027200, -10800⟩, ⟨-941576400, -14400⟩, ⟨-931032000, -10800⟩, ⟨-900882000, -14400⟩,
    ⟨-890337600, -10800⟩, ⟨-833749200, -14400⟩, ⟨-827265600, -10800⟩, ⟨-752274000, -14400⟩,
    ⟨-733780800, -10800⟩, ⟨-197326800, -14400⟩, ⟨-190843200, -10800⟩, ⟨-184194000, -14400⟩,
    ⟨-164491200, -10800⟩, ⟨-152658000, -14400⟩, ⟨-132955200, -10800⟩, ⟨-121122000, -14400⟩,
    ⟨-101419200, -10800⟩, ⟨-86821200, -14400⟩, ⟨-71092800, -10800⟩, ⟨-54766800, -14400⟩,
    ⟨-39038400, -10800⟩, ⟨-23317200, -14400⟩, ⟨-7588800, -10800⟩, ⟨128142000, -7200⟩,
    ⟨136605600, -10800⟩, ⟨596948400, -7200⟩, ⟨605066400, -10800⟩, ⟨624423600, -7200⟩,
    ⟨636516000, -10800⟩, ⟨656478000, -7200⟩, ⟨667965600, -10800⟩, ⟨687927600, -7200⟩,
    ⟨699415200, -10800⟩, ⟨719377200, -7200⟩, ⟨731469600, -10800⟩, ⟨1198983600, -7200⟩,
    ⟨1205632800, -10800⟩, ⟨1224385200, -7200⟩, ⟨1237082400, -10800⟩]
  after := ⟨-10800, none⟩

/-- Local time of America/Asuncion. -/
def americaAsuncion : Rules where
  first := -13840
  transitions := [
    ⟨-1206389360, -14400⟩, ⟨86760000, -10800⟩, ⟨134017200, -14400⟩, ⟨181368000, -10800⟩,
    ⟨194497200, -14400⟩, ⟨212990400, -10800⟩, ⟨226033200, -14400⟩, ⟨244526400, -10800⟩,
    ⟨257569200, -14400⟩, ⟨276062400, -10800⟩, ⟨291783600, -14400⟩, ⟨307598400, -10800⟩,
    ⟨323406000, -14400⟩, ⟨339220800, -10800⟩, ⟨354942000, -14400⟩, ⟨370756800, -10800⟩,
    ⟨386478000, -14400⟩, ⟨402292800, -10800⟩, ⟨418014000, -14400⟩, ⟨433828800, -10800⟩,
    ⟨449636400, -14400⟩, ⟨465451200, -10800⟩, ⟨481172400, -14400⟩, ⟨496987200, -10800⟩,
    ⟨512708400, -14400⟩, ⟨528523200, -10800⟩, ⟨544244400, -14400⟩, ⟨560059200, -10800⟩,
    ⟨575866800, -14400⟩, ⟨591681600, -10800⟩, ⟨607402800, -14400⟩, ⟨625032000, -10800⟩,
    ⟨638938800, -14400⟩, ⟨654753600, -10800⟩, ⟨670474800, -14400⟩, ⟨686721600, -10800⟩,
    ⟨699418800, -14400⟩, ⟨718257600, -10800⟩, ⟨733546800, -14400⟩, ⟨749448000, -10800⟩,
    ⟨762318000, -14400⟩, ⟨780984000, -10800⟩, ⟨793767600, -14400⟩, ⟨812520000, -10800⟩,
    ⟨825649200, -14400⟩, ⟨844574400, -10800⟩, ⟨856666800, -14400⟩, ⟨876024000, -10800⟩,
    ⟨888721200, -14400⟩, ⟨907473600, -10800⟩, ⟨920775600, -14400⟩, ⟨938923200, -10800⟩,
    ⟨952225200, -14400⟩, ⟨970372800, -10800⟩, ⟨983674800, -14400⟩, ⟨1002427200, -10800⟩,
    ⟨1018148400, -14400⟩, ⟨1030852800, -10800⟩, ⟨1049598000, -14400⟩, ⟨1062907200, -10800⟩,
    ⟨1081047600, -14400⟩, ⟨1097985600, -10800⟩, ⟨1110682800, -14400⟩, ⟨1129435200, -10800⟩,
    ⟨1142132400, -14400⟩, ⟨1160884800, -10800⟩, ⟨1173582000, -14400⟩, ⟨1192939200, -10800⟩,
    ⟨1205031600, -14400⟩, ⟨1224388800, -10800⟩, ⟨1236481200, -14400⟩, ⟨1255838400, -10800⟩,
    ⟨1270954800, -14400⟩, ⟨1286078400, -10800⟩, ⟨1302404400, -14400⟩, ⟨1317528000, -10800⟩,
    ⟨1333854000, -14400⟩, ⟨1349582400, -10800⟩, ⟨1364094000, -14400⟩, ⟨1381032000, -10800⟩,
    ⟨1395543600, -14400⟩, ⟨1412481600, -10800⟩, ⟨1426993200, -14400⟩, ⟨1443931200, -10800⟩,
    ⟨1459047600, -14400⟩, ⟨1475380800, -10800⟩, ⟨1490497200, -14400⟩, ⟨1506830400, -10800⟩,
    ⟨1521946800, -14400⟩, ⟨1538884800, -10800⟩, ⟨1553396400, -14400⟩, ⟨1570334400, -10800⟩,
    ⟨1584846000, -14400⟩, ⟨1601784000, -10800⟩, ⟨1616900400, -14400⟩, ⟨1633233600, -10800⟩,
    ⟨1648350000, -14400⟩, ⟨1664683200, -10800⟩, ⟨1679799600, -14400⟩, ⟨1696132800, -10800⟩,
    ⟨1711249200, -14400⟩, ⟨1728187200, -10800⟩, ⟨1728961200, -10800⟩]
  after := ⟨-10800, none⟩

/-- Local time of America/Caracas. -/
def americaCaracas : Rules where
  first := -16064
  transitions := [
    ⟨-2524505536, -16060⟩, ⟨-1826739140, -16200⟩, ⟨-157750200, -14400⟩, ⟨1197183600, -16200⟩,
    ⟨1462086000, -14400⟩]
  after := ⟨-14400, none⟩

/-- Local time of America/Santiago. -/
def americaSantiago : Rules where
  first := -16965
  transitions := [
    ⟨-1892661435, -18000⟩, ⟨-1688410800, -16965⟩, ⟨-1619205435, -14400⟩, ⟨-1593806400, -16965⟩,
    ⟨-1335986235, -14400⟩, ⟨-1317585600, -18000⟩, ⟨-1304362800, -14400⟩, ⟨-1286049600, -18000⟩,
    ⟨-1272826800, -14400⟩, ⟨-1254513600, -18000⟩, ⟨-1241290800, -14400⟩, ⟨-1222977600, -18000⟩,
    ⟨-1209754800, -14400⟩, ⟨-1191355200, -18000⟩, ⟨-1178132400, -14400⟩, ⟨-870552000, -18000⟩,
    ⟨-865278000, -14400⟩, ⟨-740520000, -10800⟩, ⟨-736635600, -14400⟩, ⟨-718056000, -18000⟩,
    ⟨-713649600, -14400⟩, ⟨-36619200, -10800⟩, ⟨-23922000, -14400⟩, ⟨-3355200, -10800⟩,
    ⟨7527600, -14400⟩, ⟨24465600, -10800⟩, ⟨37767600, -14400⟩, ⟨55915200, -10800⟩,
    ⟨69217200, -14400⟩, ⟨87969600, -10800⟩, ⟨100666800, -14400⟩, ⟨118209600, -10800⟩,
    ⟨132116400, -14400⟩, ⟨150868800, -10800⟩, ⟨163566000, -14400⟩, ⟨182318400, -10800⟩,
    ⟨195620400, -14400⟩, ⟨213768000, -10800⟩, ⟨227070000, -14400⟩, ⟨245217600, -10800⟩,
    ⟨258519600, -14400⟩, ⟨277272000, -10800⟩, ⟨289969200, -14400⟩, ⟨308721600, -10800⟩,
    ⟨321418800, -14400⟩, ⟨340171200, -10800⟩, ⟨353473200, -14400⟩, ⟨371620800, -10800⟩,
    ⟨384922800, -14400⟩, ⟨403070400, -10800⟩, ⟨416372400, -14400⟩, ⟨434520000, -10800⟩,
    ⟨447822000, -14400⟩, ⟨466574400, -10800⟩, ⟨479271600, -14400⟩, ⟨498024000, -10800⟩,
    ⟨510721200, -14400⟩, ⟨529473600, -10800⟩, ⟨545194800, -14400⟩, ⟨560923200, -10800⟩,
    ⟨574225200, -14400⟩, ⟨592372800, -10800⟩, ⟨605674800, -14400⟩, ⟨624427200, -10800⟩,
    ⟨637124400, -14400⟩, ⟨653457600, -10800⟩, ⟨668574000, -14400⟩, ⟨687326400, -10800⟩,
    ⟨700628400, -14400⟩, ⟨718776000, -10800⟩, ⟨732078000, -14400⟩, ⟨750225600, -10800⟩,
    ⟨763527600, -14400⟩, ⟨781675200, -10800⟩, ⟨794977200, -14400⟩, ⟨813729600, -10800⟩,
    ⟨826426800, -14400⟩, ⟨845179200, -10800⟩, ⟨859690800, -14400⟩, ⟨876628800, -10800⟩,
    ⟨889930800, -14400⟩, ⟨906868800, -10800⟩, ⟨923194800, -14400⟩, ⟨939528000, -10800⟩,
    ⟨952830000, -14400⟩, ⟨971582400, -10800⟩, ⟨984279600, -14400⟩, ⟨1003032000, -10800⟩,
    ⟨1015729200, -14400⟩, ⟨1034481600, -10800⟩, ⟨1047178800, -14400⟩, ⟨1065931200, -10800⟩,
    ⟨1079233200, -14400⟩, ⟨1097380800, -10800⟩, ⟨1110682800, -14400⟩, ⟨1128830400, -10800⟩,
    ⟨1142132400, -14400⟩, ⟨1160884800, -10800⟩, ⟨1173582000, -14400⟩, ⟨1192334400, -10800⟩,
    ⟨1206846000, -14400⟩, ⟨1223784000, -10800⟩, ⟨1237086000, -14400⟩, ⟨1255233600, -10800⟩,
    ⟨1270350000, -14400⟩, ⟨1286683200, -10800⟩, ⟨1304823600, -14400⟩, ⟨1313899200, -10800⟩,
    ⟨1335668400, -14400⟩, ⟨1346558400, -10800⟩, ⟨1367118000, -14400⟩, ⟨1378612800, -10800⟩,
    ⟨1398567600, -14400⟩, ⟨1410062400, -10800⟩, ⟨1463281200, -14400⟩, ⟨1471147200, -10800⟩,
    ⟨1494730800, -14400⟩, ⟨1502596800, -10800⟩, ⟨1526180400, -14400⟩, ⟨1534046400, -10800⟩,
    ⟨1554606000, -14400⟩, ⟨1567915200, -10800⟩, ⟨1586055600, -14400⟩, ⟨1599364800, -10800⟩,
    ⟨1617505200, -14400⟩, ⟨1630814400, -10800⟩, ⟨1648954800, -14400⟩, ⟨1662868800, -10800⟩,
    ⟨1680404400, -14400⟩]
  after := ⟨-14400, some ⟨-10800, ⟨.inWeek 9 1 6, 86400⟩, ⟨.inWeek 4 1 6, 86400⟩⟩⟩

/-- Local time of America/Sao_Paulo. -/
def americaSaoPaulo : Rules where
  first := -11188
  transitions := [
    ⟨-1767214412, -10800⟩, ⟨-1206957600, -7200⟩, ⟨-1191362400, -10800⟩, ⟨-1175374800, -7200⟩,
    ⟨-1159826400, -10800⟩, ⟨-633819600, -7200⟩, ⟨-622069200, -10800⟩, ⟨-602283600, -7200⟩,
    ⟨-591832800, -10800⟩, ⟨-570747600, -7200⟩, ⟨-560210400, -10800⟩, ⟨-539125200, -7200⟩,
    ⟨-531352800, -10800⟩, ⟨-195426000, -7200⟩, ⟨-184197600, -10800⟩, ⟨-155163600, -7200⟩,
    ⟨-150069600, -10800⟩, ⟨-128898000, -7200⟩, ⟨-121125600, -10800⟩, ⟨-99954000, -7200⟩,
    ⟨-89589600, -10800⟩, ⟨-68418000, -7200⟩, ⟨-57967200, -10800⟩, ⟨499748400, -7200⟩,
    ⟨511236000, -10800⟩, ⟨530593200, -7200⟩, ⟨540266400, -10800⟩, ⟨562129200, -7200⟩,
    ⟨571197600, -10800⟩, ⟨592974000, -7200⟩, ⟨602042400, -10800⟩, ⟨624423600, -7200⟩,
    ⟨634701600, -10800⟩, ⟨656478000, -7200⟩, ⟨666756000, -10800⟩, ⟨687927600, -7200⟩,
    ⟨697600800, -10800⟩, ⟨719982000, -7200⟩, ⟨728445600, -10800⟩, ⟨750826800, -7200⟩,
    ⟨761709600, -10800⟩, ⟨782276400, -7200⟩, ⟨793159200, -10800⟩, ⟨813726000, -7200⟩,
    ⟨824004000, -10800⟩, ⟨844570800, -7200⟩, ⟨856058400, -10800⟩, ⟨876106800, -7200⟩,
    ⟨888717600, -10800⟩, ⟨908074800, -7200⟩, ⟨919562400, -10800⟩, ⟨938919600, -7200⟩,
    ⟨951616800, -10800⟩, ⟨970974000, -7200⟩, ⟨982461600, -10800⟩, ⟨1003028400, -7200⟩,
    ⟨1013911200, -10800⟩, ⟨1036292400, -7200⟩, ⟨1045360800, -10800⟩, ⟨1066532400, -7200⟩,
    ⟨1076810400, -10800⟩, ⟨1099364400, -7200⟩, ⟨1108864800, -10800⟩, ⟨1129431600, -7200⟩,
    ⟨1140314400, -10800⟩, ⟨1162695600, -7200⟩, ⟨1172368800, -10800⟩, ⟨1192330800, -7200⟩,
    ⟨1203213600, -10800⟩, ⟨1224385200, -7200⟩, ⟨1234663200, -10800⟩, ⟨1255834800, -7200⟩,
    ⟨1266717600, -10800⟩, ⟨1287284400, -7200⟩, ⟨1298167200, -10800⟩, ⟨1318734000, -7200⟩,
    ⟨1330221600, -10800⟩, ⟨1350788400, -7200⟩, ⟨1361066400, -10800⟩, ⟨1382238000, -7200⟩,
    ⟨1392516000, -10800⟩, ⟨1413687600, -7200⟩, ⟨1424570400, -10800⟩, ⟨1445137200, -7200⟩,
    ⟨1456020000, -10800⟩, ⟨1476586800, -7200⟩, ⟨1487469600, -10800⟩, ⟨1508036400, -7200⟩,
    ⟨1518919200, -10800⟩, ⟨1541300400, -7200⟩, ⟨1550368800, -10800⟩]
  after := ⟨-10800, none⟩

end WallClock.Zone.Tables
