import WallClock.Zone.Rules

/-!
Local time of zones in Europe: seconds since 1970-01-01T00:00:00Z and offsets in seconds east of
Greenwich.
-/

namespace WallClock.Zone.Tables

/-- Local time of CET. -/
def cet : Rules where
  first := 1050
  transitions := [
    ⟨-2450995200, 0⟩, ⟨-1740355200, 3600⟩, ⟨-1693702800, 7200⟩, ⟨-1680483600, 3600⟩,
    ⟨-1663455600, 7200⟩, ⟨-1650150000, 3600⟩, ⟨-1632006000, 7200⟩, ⟨-1618700400, 3600⟩,
    ⟨-1613826000, 0⟩, ⟨-1604278800, 3600⟩, ⟨-1585530000, 0⟩, ⟨-1574038800, 3600⟩, ⟨-1552266000, 0⟩,
    ⟨-1539997200, 3600⟩, ⟨-1520557200, 0⟩, ⟨-1507510800, 3600⟩, ⟨-1490576400, 0⟩,
    ⟨-1473642000, 3600⟩, ⟨-1459126800, 0⟩, ⟨-1444006800, 3600⟩, ⟨-1427677200, 0⟩,
    ⟨-1411952400, 3600⟩, ⟨-1396227600, 0⟩, ⟨-1379293200, 3600⟩, ⟨-1364778000, 0⟩,
    ⟨-1348448400, 3600⟩, ⟨-1333328400, 0⟩, ⟨-1316394000, 3600⟩, ⟨-1301263200, 0⟩,
    ⟨-1284328800, 3600⟩, ⟨-1269813600, 0⟩, ⟨-1253484000, 3600⟩, ⟨-1238364000, 0⟩,
    ⟨-1221429600, 3600⟩, ⟨-1206914400, 0⟩, ⟨-1191189600, 3600⟩, ⟨-1175464800, 0⟩,
    ⟨-1160344800, 3600⟩, ⟨-1143410400, 0⟩, ⟨-1127685600, 3600⟩, ⟨-1111960800, 0⟩,
    ⟨-1096840800, 3600⟩, ⟨-1080511200, 0⟩, ⟨-1063576800, 3600⟩, ⟨-1049061600, 0⟩,
    ⟨-1033336800, 3600⟩, ⟨-1017612000, 0⟩, ⟨-1002492000, 3600⟩, ⟨-986162400, 0⟩, ⟨-969228000, 3600⟩,
    ⟨-950479200, 0⟩, ⟨-942012000, 3600⟩, ⟨-934668000, 7200⟩, ⟨-857257200, 3600⟩, ⟨-844556400, 7200⟩,
    ⟨-828226800, 3600⟩, ⟨-812502000, 7200⟩, ⟨-798073200, 3600⟩, ⟨-781052400, 7200⟩,
    ⟨-766623600, 3600⟩, ⟨-745455600, 7200⟩, ⟨-733273200, 3600⟩, ⟨228877200, 7200⟩,
    ⟨243997200, 3600⟩, ⟨260326800, 7200⟩, ⟨276051600, 3600⟩, ⟨291776400, 7200⟩, ⟨307501200, 3600⟩,
    ⟨323830800, 7200⟩, ⟨338950800, 3600⟩, ⟨354675600, 7200⟩, ⟨370400400, 3600⟩, ⟨386125200, 7200⟩,
    ⟨401850000, 3600⟩, ⟨417574800, 7200⟩, ⟨433299600, 3600⟩, ⟨449024400, 7200⟩, ⟨465354000, 3600⟩,
    ⟨481078800, 7200⟩, ⟨496803600, 3600⟩, ⟨512528400, 7200⟩, ⟨528253200, 3600⟩, ⟨543978000, 7200⟩,
    ⟨559702800, 3600⟩, ⟨575427600, 7200⟩, ⟨591152400, 3600⟩, ⟨606877200, 7200⟩, ⟨622602000, 3600⟩,
    ⟨638326800, 7200⟩, ⟨654656400, 3600⟩, ⟨670381200, 7200⟩, ⟨686106000, 3600⟩, ⟨701830800, 7200⟩,
    ⟨717555600, 3600⟩, ⟨733280400, 7200⟩, ⟨749005200, 3600⟩, ⟨764730000, 7200⟩, ⟨780454800, 3600⟩,
    ⟨796179600, 7200⟩, ⟨811904400, 3600⟩, ⟨828234000, 7200⟩]
  after := ⟨3600, some ⟨7200, ⟨.inWeek 3 5 0, 7200⟩, ⟨.inWeek 10 5 0, 10800⟩⟩⟩

/-- Local time of Europe/Berlin. -/
def europeBerlin : Rules where
  first := 3208
  transitions := [
    ⟨-2422054408, 3600⟩, ⟨-1693706400, 7200⟩, ⟨-1680483600, 3600⟩, ⟨-1663455600, 7200⟩,
    ⟨-1650150000, 3600⟩, ⟨-1632006000, 7200⟩, ⟨-1618700400, 3600⟩, ⟨-938905200, 7200⟩,
    ⟨-857257200, 3600⟩, ⟨-844556400, 7200⟩, ⟨-828226800, 3600⟩, ⟨-812502000, 7200⟩,
    ⟨-796777200, 3600⟩, ⟨-781052400, 7200⟩, ⟨-776563200, 10800⟩, ⟨-765936000, 7200⟩,
    ⟨-761180400, 3600⟩, ⟨-748479600, 7200⟩, ⟨-733273200, 3600⟩, ⟨-717631200, 7200⟩,
    ⟨-714610800, 10800⟩, ⟨-710380800, 7200⟩, ⟨-701910000, 3600⟩, ⟨-684975600, 7200⟩,
    ⟨-670460400, 3600⟩, ⟨-654130800, 7200⟩, ⟨-639010800, 3600⟩, ⟨323830800, 7200⟩,
    ⟨338950800, 3600⟩, ⟨354675600, 7200⟩, ⟨370400400, 3600⟩, ⟨386125200, 7200⟩, ⟨401850000, 3600⟩,
    ⟨417574800, 7200⟩, ⟨433299600, 3600⟩, ⟨449024400, 7200⟩, ⟨465354000, 3600⟩, ⟨481078800, 7200⟩,
    ⟨496803600, 3600⟩, ⟨512528400, 7200⟩, ⟨528253200, 3600⟩, ⟨543978000, 7200⟩, ⟨559702800, 3600⟩,
    ⟨575427600, 7200⟩, ⟨591152400, 3600⟩, ⟨606877200, 7200⟩, ⟨622602000, 3600⟩, ⟨638326800, 7200⟩,
    ⟨654656400, 3600⟩, ⟨670381200, 7200⟩, ⟨686106000, 3600⟩, ⟨701830800, 7200⟩, ⟨717555600, 3600⟩,
    ⟨733280400, 7200⟩, ⟨749005200, 3600⟩, ⟨764730000, 7200⟩, ⟨780454800, 3600⟩, ⟨796179600, 7200⟩,
    ⟨811904400, 3600⟩, ⟨828234000, 7200⟩]
  after := ⟨3600, some ⟨7200, ⟨.inWeek 3 5 0, 7200⟩, ⟨.inWeek 10 5 0, 10800⟩⟩⟩

/-- Local time of Europe/Dublin. -/
def europeDublin : Rules where
  first := -1521
  transitions := [
    ⟨-1691962479, 2079⟩, ⟨-1680471279, 0⟩, ⟨-1664143200, 3600⟩, ⟨-1650146400, 0⟩,
    ⟨-1633903200, 3600⟩, ⟨-1617487200, 0⟩, ⟨-1601848800, 3600⟩, ⟨-1586037600, 0⟩,
    ⟨-1570399200, 3600⟩, ⟨-1552168800, 0⟩, ⟨-1538344800, 3600⟩, ⟨-1522533600, 0⟩,
    ⟨-1507500000, 3600⟩, ⟨-1490565600, 0⟩, ⟨-1473631200, 3600⟩, ⟨-1460930400, 0⟩,
    ⟨-1442786400, 3600⟩, ⟨-1428876000, 0⟩, ⟨-1410732000, 3600⟩, ⟨-1397426400, 0⟩,
    ⟨-1379282400, 3600⟩, ⟨-1364767200, 0⟩, ⟨-1348437600, 3600⟩, ⟨-1333317600, 0⟩,
    ⟨-1315778400, 3600⟩, ⟨-1301263200, 0⟩, ⟨-1284328800, 3600⟩, ⟨-1269813600, 0⟩,
    ⟨-1253484000, 3600⟩, ⟨-1238364000, 0⟩, ⟨-1221429600, 3600⟩, ⟨-1206914400, 0⟩,
    ⟨-1189980000, 3600⟩, ⟨-1175464800, 0⟩, ⟨-1159135200, 3600⟩, ⟨-1143410400, 0⟩,
    ⟨-1126476000, 3600⟩, ⟨-1111960800, 0⟩, ⟨-1095631200, 3600⟩, ⟨-1080511200, 0⟩,
    ⟨-1063576800, 3600⟩, ⟨-1049061600, 0⟩, ⟨-1032127200, 3600⟩, ⟨-1017612000, 0⟩,
    ⟨-1001282400, 3600⟩, ⟨-986162400, 0⟩, ⟨-969228000, 3600⟩, ⟨-950479200, 0⟩, ⟨-942012000, 3600⟩,
    ⟨-733356000, 0⟩, ⟨-719445600, 3600⟩, ⟨-699487200, 0⟩, ⟨-684972000, 3600⟩, ⟨-668037600, 0⟩,
    ⟨-654732000, 3600⟩, ⟨-636588000, 0⟩, ⟨-622072800, 3600⟩, ⟨-605743200, 0⟩, ⟨-590623200, 3600⟩,
    ⟨-574293600, 0⟩, ⟨-558568800, 3600⟩, ⟨-542239200, 0⟩, ⟨-527119200, 3600⟩, ⟨-512604000, 0⟩,
    ⟨-496274400, 3600⟩, ⟨-481154400, 0⟩, ⟨-464220000, 3600⟩, ⟨-449704800, 0⟩, ⟨-432165600, 3600⟩,
    ⟨-417650400, 0⟩, ⟨-401320800, 3600⟩, ⟨-386200800, 0⟩, ⟨-369266400, 3600⟩, ⟨-354751200, 0⟩,
    ⟨-337816800, 3600⟩, ⟨-323301600, 0⟩, ⟨-306972000, 3600⟩, ⟨-291852000, 0⟩, ⟨-276732000, 3600⟩,
    ⟨-257983200, 0⟩, ⟨-245282400, 3600⟩, ⟨-226533600, 0⟩, ⟨-213228000, 3600⟩, ⟨-195084000, 0⟩,
    ⟨-182383200, 3600⟩, ⟨-163634400, 0⟩, ⟨-150933600, 3600⟩, ⟨-132184800, 0⟩, ⟨-119484000, 3600⟩,
    ⟨-100735200, 0⟩, ⟨-88034400, 3600⟩, ⟨-68680800, 0⟩, ⟨-59004000, 3600⟩, ⟨57722400, 0⟩,
    ⟨69818400, 3600⟩, ⟨89172000, 0⟩, ⟨101268000, 3600⟩, ⟨120621600, 0⟩, ⟨132717600, 3600⟩,
    ⟨152071200, 0⟩, ⟨164167200, 3600⟩, ⟨183520800, 0⟩, ⟨196221600, 3600⟩, ⟨214970400, 0⟩,
    ⟨227671200, 3600⟩, ⟨246420000, 0⟩, ⟨259120800, 3600⟩, ⟨278474400, 0⟩, ⟨290570400, 3600⟩,
    ⟨309924000, 0⟩, ⟨322020000, 3600⟩, ⟨341373600, 0⟩, ⟨354675600, 3600⟩, ⟨372819600, 0⟩,
    ⟨386125200, 3600⟩, ⟨404269200, 0⟩, ⟨417574800, 3600⟩, ⟨435718800, 0⟩, ⟨449024400, 3600⟩,
    ⟨467773200, 0⟩, ⟨481078800, 3600⟩, ⟨499222800, 0⟩, ⟨512528400, 3600⟩, ⟨530672400, 0⟩,
    ⟨543978000, 3600⟩, ⟨562122000, 0⟩, ⟨575427600, 3600⟩, ⟨593571600, 0⟩, ⟨606877200, 3600⟩,
    ⟨625626000, 0⟩, ⟨638326800, 3600⟩, ⟨657075600, 0⟩, ⟨670381200, 3600⟩, ⟨688525200, 0⟩,
    ⟨701830800, 3600⟩, ⟨719974800, 0⟩, ⟨733280400, 3600⟩, ⟨751424400, 0⟩, ⟨764730000, 3600⟩,
    ⟨782874000, 0⟩, ⟨796179600, 3600⟩, ⟨814323600, 0⟩, ⟨820454400, 0⟩]
  after := ⟨0, some ⟨3600, ⟨.inWeek 3 5 0, 3600⟩, ⟨.inWeek 10 5 0, 7200⟩⟩⟩

/-- Local time of Europe/Istanbul. -/
def europeIstanbul : Rules where
  first := 6952
  transitions := [
    ⟨-2840147752, 7016⟩, ⟨-1869875816, 7200⟩, ⟨-1693706400, 10800⟩, ⟨-1680490800, 7200⟩,
    ⟨-1570413600, 10800⟩, ⟨-1552186800, 7200⟩, ⟨-1538359200, 10800⟩, ⟨-1522551600, 7200⟩,
    ⟨-1507514400, 10800⟩, ⟨-1490583600, 7200⟩, ⟨-1440208800, 10800⟩, ⟨-1428030000, 7200⟩,
    ⟨-1409709600, 10800⟩, ⟨-1396494000, 7200⟩, ⟨-931053600, 10800⟩, ⟨-922676400, 7200⟩,
    ⟨-917834400, 10800⟩, ⟨-892436400, 7200⟩, ⟨-875844000, 10800⟩, ⟨-764737200, 7200⟩,
    ⟨-744343200, 10800⟩, ⟨-733806000, 7200⟩, ⟨-716436000, 10800⟩, ⟨-701924400, 7200⟩,
    ⟨-684986400, 10800⟩, ⟨-670474800, 7200⟩, ⟨-654141600, 10800⟩, ⟨-639025200, 7200⟩,
    ⟨-622087200, 10800⟩, ⟨-606970800, 7200⟩, ⟨-590032800, 10800⟩, ⟨-575521200, 7200⟩,
    ⟨-235620000, 10800⟩, ⟨-194842800, 7200⟩, ⟨-177732000, 10800⟩, ⟨-165726000, 7200⟩,
    ⟨107910000, 10800⟩, ⟨121215600, 7200⟩, ⟨133920000, 10800⟩, ⟨152665200, 7200⟩,
    ⟨164678400, 10800⟩, ⟨184114800, 7200⟩, ⟨196214400, 10800⟩, ⟨215564400, 7200⟩,
    ⟨228873600, 10800⟩, ⟨245804400, 7200⟩, ⟨260323200, 10800⟩, ⟨428454000, 14400⟩,
    ⟨433893600, 10800⟩, ⟨468111600, 7200⟩, ⟨482799600, 10800⟩, ⟨496710000, 7200⟩,
    ⟨512521200, 10800⟩, ⟨528246000, 7200⟩, ⟨543970800, 10800⟩, ⟨559695600, 7200⟩,
    ⟨575420400, 10800⟩, ⟨591145200, 7200⟩, ⟨606870000, 10800⟩, ⟨622594800, 7200⟩,
    ⟨638319600, 10800⟩, ⟨654649200, 7200⟩, ⟨670374000, 10800⟩, ⟨686098800, 7200⟩,
    ⟨701823600, 10800⟩, ⟨717548400, 7200⟩, ⟨733273200, 10800⟩, ⟨748998000, 7200⟩,
    ⟨764118000, 10800⟩, ⟨780447600, 7200⟩, ⟨796172400, 10800⟩, ⟨811897200, 7200⟩,
    ⟨828226800, 10800⟩, ⟨846370800, 7200⟩, ⟨859676400, 10800⟩, ⟨877820400, 7200⟩,
    ⟨891126000, 10800⟩, ⟨909270000, 7200⟩, ⟨922575600, 10800⟩, ⟨941324400, 7200⟩,
    ⟨954025200, 10800⟩, ⟨972774000, 7200⟩, ⟨985474800, 10800⟩, ⟨1004223600, 7200⟩,
    ⟨1017529200, 10800⟩, ⟨1035673200, 7200⟩, ⟨1048978800, 10800⟩, ⟨1067122800, 7200⟩,
    ⟨1080428400, 10800⟩, ⟨1099177200, 7200⟩, ⟨1111878000, 10800⟩, ⟨1130626800, 7200⟩,
    ⟨1143327600, 10800⟩, ⟨1162076400, 7200⟩, ⟨1174784400, 10800⟩, ⟨1193533200, 7200⟩,
    ⟨1206838800, 10800⟩, ⟨1224982800, 7200⟩, ⟨1238288400, 10800⟩, ⟨1256432400, 7200⟩,
    ⟨1269738000, 10800⟩, ⟨1288486800, 7200⟩, ⟨1301274000, 10800⟩, ⟨1319936400, 7200⟩,
    ⟨1332637200, 10800⟩, ⟨1351386000, 7200⟩, ⟨1364691600, 10800⟩, ⟨1382835600, 7200⟩,
    ⟨1396227600, 10800⟩, ⟨1414285200, 7200⟩, ⟨1427590800, 10800⟩, ⟨1446944400, 7200⟩,
    ⟨1459040400, 10800⟩, ⟨1473195600, 10800⟩]
  after := ⟨10800, none⟩

/-- Local time of Europe/Lisbon. -/
def europeLisbon : Rules where
  first := -2205
  transitions := [
    ⟨-1830384000, 0⟩, ⟨-1689555600, 3600⟩, ⟨-1677801600, 0⟩, ⟨-1667433600, 3600⟩, ⟨-1647738000, 0⟩,
    ⟨-1635897600, 3600⟩, ⟨-1616202000, 0⟩, ⟨-1604361600, 3600⟩, ⟨-1584666000, 0⟩,
    ⟨-1572739200, 3600⟩, ⟨-1553043600, 0⟩, ⟨-1541203200, 3600⟩, ⟨-1521507600, 0⟩,
    ⟨-1442451600, 3600⟩, ⟨-1427677200, 0⟩, ⟨-1379293200, 3600⟩, ⟨-1364778000, 0⟩,
    ⟨-1348448400, 3600⟩, ⟨-1333328400, 0⟩, ⟨-1316394000, 3600⟩, ⟨-1301274000, 0⟩,
    ⟨-1284339600, 3600⟩, ⟨-1269824400, 0⟩, ⟨-1221440400, 3600⟩, ⟨-1206925200, 0⟩,
    ⟨-1191200400, 3600⟩, ⟨-1175475600, 0⟩, ⟨-1127696400, 3600⟩, ⟨-1111971600, 0⟩,
    ⟨-1096851600, 3600⟩, ⟨-1080522000, 0⟩, ⟨-1063587600, 3600⟩, ⟨-1049072400, 0⟩,
    ⟨-1033347600, 3600⟩, ⟨-1017622800, 0⟩, ⟨-1002502800, 3600⟩, ⟨-986173200, 0⟩, ⟨-969238800, 3600⟩,
    ⟨-950490000, 0⟩, ⟨-942022800, 3600⟩, ⟨-922496400, 0⟩, ⟨-906944400, 3600⟩, ⟨-891133200, 0⟩,
    ⟨-877309200, 3600⟩, ⟨-873684000, 7200⟩, ⟨-864007200, 3600⟩, ⟨-857955600, 0⟩, ⟨-845859600, 3600⟩,
    ⟨-842839200, 7200⟩, ⟨-831348000, 3600⟩, ⟨-825901200, 0⟩, ⟨-814410000, 3600⟩, ⟨-810784800, 7200⟩,
    ⟨-799898400, 3600⟩, ⟨-794451600, 0⟩, ⟨-782960400, 3600⟩, ⟨-779335200, 7200⟩, ⟨-768448800, 3600⟩,
    ⟨-763002000, 0⟩, ⟨-749091600, 3600⟩, ⟨-733366800, 0⟩, ⟨-717631200, 3600⟩, ⟨-701906400, 0⟩,
    ⟨-686181600, 3600⟩, ⟨-670456800, 0⟩, ⟨-654732000, 3600⟩, ⟨-639007200, 0⟩, ⟨-623282400, 3600⟩,
    ⟨-607557600, 0⟩, ⟨-591832800, 3600⟩, ⟨-575503200, 0⟩, ⟨-559778400, 3600⟩, ⟨-544053600, 0⟩,
    ⟨-528328800, 3600⟩, ⟨-512604000, 0⟩, ⟨-496879200, 3600⟩, ⟨-481154400, 0⟩, ⟨-465429600, 3600⟩,
    ⟨-449704800, 0⟩, ⟨-433980000, 3600⟩, ⟨-417650400, 0⟩, ⟨-401925600, 3600⟩, ⟨-386200800, 0⟩,
    ⟨-370476000, 3600⟩, ⟨-354751200, 0⟩, ⟨-339026400, 3600⟩, ⟨-323301600, 0⟩, ⟨-307576800, 3600⟩,
    ⟨-291852000, 0⟩, ⟨-276127200, 3600⟩, ⟨-260402400, 0⟩, ⟨-244677600, 3600⟩, ⟨-228348000, 0⟩,
    ⟨-212623200, 3600⟩, ⟨-196898400, 0⟩, ⟨-181173600, 3600⟩, ⟨-165448800, 0⟩, ⟨-149724000, 3600⟩,
    ⟨-133999200, 0⟩, ⟨-118274400, 3600⟩, ⟨212544000, 0⟩, ⟨228268800, 3600⟩, ⟨243993600, 0⟩,
    ⟨260326800, 3600⟩, ⟨276051600, 0⟩, ⟨291776400, 3600⟩, ⟨307501200, 0⟩, ⟨323830800, 3600⟩,
    ⟨338950800, 0⟩, ⟨354672000, 3600⟩, ⟨370396800, 0⟩, ⟨386121600, 3600⟩, ⟨401846400, 0⟩,
    ⟨417571200, 3600⟩, ⟨433296000, 0⟩, ⟨449020800, 3600⟩, ⟨465350400, 0⟩, ⟨481075200, 3600⟩,
    ⟨496800000, 0⟩, ⟨512528400, 3600⟩, ⟨528253200, 0⟩, ⟨543978000, 3600⟩, ⟨559702800, 0⟩,
    ⟨575427600, 3600⟩, ⟨591152400, 0⟩, ⟨606877200, 3600⟩, ⟨622602000, 0⟩, ⟨638326800, 3600⟩,
    ⟨654656400, 0⟩, ⟨670381200, 3600⟩, ⟨686106000, 0⟩, ⟨701830800, 3600⟩, ⟨733280400, 7200⟩,
    ⟨749005200, 3600⟩, ⟨764730000, 7200⟩, ⟨780454800, 3600⟩, ⟨796179600, 7200⟩, ⟨811904400, 3600⟩,
    ⟨828234000, 3600⟩]
  after := ⟨0, some ⟨3600, ⟨.inWeek 3 5 0, 3600⟩, ⟨.inWeek 10 5 0, 7200⟩⟩⟩

/-- Local time of Europe/London. -/
def europeLondon : Rules where
  first := -75
  transitions := [
    ⟨-3852662325, 0⟩, ⟨-1691964000, 3600⟩, ⟨-1680472800, 0⟩, ⟨-1664143200, 3600⟩, ⟨-1650146400, 0⟩,
    ⟨-1633903200, 3600⟩, ⟨-1617487200, 0⟩, ⟨-1601848800, 3600⟩, ⟨-1586037600, 0⟩,
    ⟨-1570399200, 3600⟩, ⟨-1552168800, 0⟩, ⟨-1538344800, 3600⟩, ⟨-1522533600, 0⟩,
    ⟨-1507500000, 3600⟩, ⟨-1490565600, 0⟩, ⟨-1473631200, 3600⟩, ⟨-1460930400, 0⟩,
    ⟨-1442786400, 3600⟩, ⟨-1428876000, 0⟩, ⟨-1410732000, 3600⟩, ⟨-1396216800, 0⟩,
    ⟨-1379282400, 3600⟩, ⟨-1364767200, 0⟩, ⟨-1348437600, 3600⟩, ⟨-1333317600, 0⟩,
    ⟨-1315778400, 3600⟩, ⟨-1301263200, 0⟩, ⟨-1284328800, 3600⟩, ⟨-1269813600, 0⟩,
    ⟨-1253484000, 3600⟩, ⟨-1238364000, 0⟩, ⟨-1221429600, 3600⟩, ⟨-1206914400, 0⟩,
    ⟨-1189980000, 3600⟩, ⟨-1175464800, 0⟩, ⟨-1159135200, 3600⟩, ⟨-1143410400, 0⟩,
    ⟨-1126476000, 3600⟩, ⟨-1111960800, 0⟩, ⟨-1095631200, 3600⟩, ⟨-1080511200, 0⟩,
    ⟨-1063576800, 3600⟩, ⟨-1049061600, 0⟩, ⟨-1032127200, 3600⟩, ⟨-1017612000, 0⟩,
    ⟨-1001282400, 3600⟩, ⟨-986162400, 0⟩, ⟨-969228000, 3600⟩, ⟨-950479200, 0⟩, ⟨-942012000, 3600⟩,
    ⟨-904518000, 7200⟩, ⟨-896050800, 3600⟩, ⟨-875487600, 7200⟩, ⟨-864601200, 3600⟩,
    ⟨-844038000, 7200⟩, ⟨-832546800, 3600⟩, ⟨-812588400, 7200⟩, ⟨-798073200, 3600⟩,
    ⟨-781052400, 7200⟩, ⟨-772066800, 3600⟩, ⟨-764805600, 0⟩, ⟨-748476000, 3600⟩, ⟨-733356000, 0⟩,
    ⟨-719445600, 3600⟩, ⟨-717030000, 7200⟩, ⟨-706748400, 3600⟩, ⟨-699487200, 0⟩, ⟨-687996000, 3600⟩,
    ⟨-668037600, 0⟩, ⟨-654732000, 3600⟩, ⟨-636588000, 0⟩, ⟨-622072800, 3600⟩, ⟨-605743200, 0⟩,
    ⟨-590623200, 3600⟩, ⟨-574293600, 0⟩, ⟨-558568800, 3600⟩, ⟨-542239200, 0⟩, ⟨-527119200, 3600⟩,
    ⟨-512604000, 0⟩, ⟨-496274400, 3600⟩, ⟨-481154400, 0⟩, ⟨-464220000, 3600⟩, ⟨-449704800, 0⟩,
    ⟨-432165600, 3600⟩, ⟨-417650400, 0⟩, ⟨-401320800, 3600⟩, ⟨-386200800, 0⟩, ⟨-369266400, 3600⟩,
    ⟨-354751200, 0⟩, ⟨-337816800, 3600⟩, ⟨-323301600, 0⟩, ⟨-306972000, 3600⟩, ⟨-291852000, 0⟩,
    ⟨-276732000, 3600⟩, ⟨-257983200, 0⟩, ⟨-245282400, 3600⟩, ⟨-226533600, 0⟩, ⟨-213228000, 3600⟩,
    ⟨-195084000, 0⟩, ⟨-182383200, 3600⟩, ⟨-163634400, 0⟩, ⟨-150933600, 3600⟩, ⟨-132184800, 0⟩,
    ⟨-119484000, 3600⟩, ⟨-100735200, 0⟩, ⟨-88034400, 3600⟩, ⟨-68680800, 0⟩, ⟨-59004000, 3600⟩,
    ⟨57722400, 0⟩, ⟨69818400, 3600⟩, ⟨89172000, 0⟩, ⟨101268000, 3600⟩, ⟨120621600, 0⟩,
    ⟨132717600, 3600⟩, ⟨152071200, 0⟩, ⟨164167200, 3600⟩, ⟨183520800, 0⟩, ⟨196221600, 3600⟩,
    ⟨214970400, 0⟩, ⟨227671200, 3600⟩, ⟨246420000, 0⟩, ⟨259120800, 3600⟩, ⟨278474400, 0⟩,
    ⟨290570400, 3600⟩, ⟨309924000, 0⟩, ⟨322020000, 3600⟩, ⟨341373600, 0⟩, ⟨354675600, 3600⟩,
    ⟨372819600, 0⟩, ⟨386125200, 3600⟩, ⟨404269200, 0⟩, ⟨417574800, 3600⟩, ⟨435718800, 0⟩,
    ⟨449024400, 3600⟩, ⟨467773200, 0⟩, ⟨481078800, 3600⟩, ⟨499222800, 0⟩, ⟨512528400, 3600⟩,
    ⟨530672400, 0⟩, ⟨543978000, 3600⟩, ⟨562122000, 0⟩, ⟨575427600, 3600⟩, ⟨593571600, 0⟩,
    ⟨606877200, 3600⟩, ⟨625626000, 0⟩, ⟨638326800, 3600⟩, ⟨657075600, 0⟩, ⟨670381200, 3600⟩,
    ⟨688525200, 0⟩, ⟨701830800, 3600⟩, ⟨719974800, 0⟩, ⟨733280400, 3600⟩, ⟨751424400, 0⟩,
    ⟨764730000, 3600⟩, ⟨782874000, 0⟩, ⟨796179600, 3600⟩, ⟨814323600, 0⟩, ⟨820454400, 0⟩]
  after := ⟨0, some ⟨3600, ⟨.inWeek 3 5 0, 3600⟩, ⟨.inWeek 10 5 0, 7200⟩⟩⟩

/-- Local time of Europe/Moscow. -/
def europeMoscow : Rules where
  first := 9017
  transitions := [
    ⟨-1688265017, 9079⟩, ⟨-1656819079, 12679⟩, ⟨-1641353479, 9079⟩, ⟨-1627965079, 16279⟩,
    ⟨-1618716679, 12679⟩, ⟨-1596429079, 16279⟩, ⟨-1593820800, 14400⟩, ⟨-1589860800, 10800⟩,
    ⟨-1542427200, 14400⟩, ⟨-1539493200, 18000⟩, ⟨-1525323600, 14400⟩, ⟨-1522728000, 10800⟩,
    ⟨-1491188400, 7200⟩, ⟨-1247536800, 10800⟩, ⟨354920400, 14400⟩, ⟨370728000, 10800⟩,
    ⟨386456400, 14400⟩, ⟨402264000, 10800⟩, ⟨417992400, 14400⟩, ⟨433800000, 10800⟩,
    ⟨449614800, 14400⟩, ⟨465346800, 10800⟩, ⟨481071600, 14400⟩, ⟨496796400, 10800⟩,
    ⟨512521200, 14400⟩, ⟨528246000, 10800⟩, ⟨543970800, 14400⟩, ⟨559695600, 10800⟩,
    ⟨575420400, 14400⟩, ⟨591145200, 10800⟩, ⟨606870000, 14400⟩, ⟨622594800, 10800⟩,
    ⟨638319600, 14400⟩, ⟨654649200, 10800⟩, ⟨686102400, 7200⟩, ⟨695779200, 10800⟩,
    ⟨701823600, 14400⟩, ⟨717548400, 10800⟩, ⟨733273200, 14400⟩, ⟨748998000, 10800⟩,
    ⟨764722800, 14400⟩, ⟨780447600, 10800⟩, ⟨796172400, 14400⟩, ⟨811897200, 10800⟩,
    ⟨828226800, 14400⟩, ⟨846370800, 10800⟩, ⟨859676400, 14400⟩, ⟨877820400, 10800⟩,
    ⟨891126000, 14400⟩, ⟨909270000, 10800⟩, ⟨922575600, 14400⟩, ⟨941324400, 10800⟩,
    ⟨954025200, 14400⟩, ⟨972774000, 10800⟩, ⟨985474800, 14400⟩, ⟨1004223600, 10800⟩,
    ⟨1017529200, 14400⟩, ⟨1035673200, 10800⟩, ⟨1048978800, 14400⟩, ⟨1067122800, 10800⟩,
    ⟨1080428400, 14400⟩, ⟨1099177200, 10800⟩, ⟨1111878000, 14400⟩, ⟨1130626800, 10800⟩,
    ⟨1143327600, 14400⟩, ⟨1162076400, 10800⟩, ⟨1174777200, 14400⟩, ⟨1193526000, 10800⟩,
    ⟨1206831600, 14400⟩, ⟨1224975600, 10800⟩, ⟨1238281200, 14400⟩, ⟨1256425200, 10800⟩,
    ⟨1269730800, 14400⟩, ⟨1288479600, 10800⟩, ⟨1301180400, 14400⟩, ⟨1414274400, 10800⟩]
  after := ⟨10800, none⟩

/-- Local time of Europe/Paris. -/
def europeParis : Rules where
  first := 561
  transitions := [
    ⟨-1855958961, 0⟩, ⟨-1689814800, 3600⟩, ⟨-1680397200, 0⟩, ⟨-1665363600, 3600⟩, ⟨-1648342800, 0⟩,
    ⟨-1635123600, 3600⟩, ⟨-1616893200, 0⟩, ⟨-1604278800, 3600⟩, ⟨-1585443600, 0⟩,
    ⟨-1574038800, 3600⟩, ⟨-1552266000, 0⟩, ⟨-1539997200, 3600⟩, ⟨-1520557200, 0⟩,
    ⟨-1507510800, 3600⟩, ⟨-1490576400, 0⟩, ⟨-1470618000, 3600⟩, ⟨-1459126800, 0⟩,
    ⟨-1444006800, 3600⟩, ⟨-1427677200, 0⟩, ⟨-1411952400, 3600⟩, ⟨-1396227600, 0⟩,
    ⟨-1379293200, 3600⟩, ⟨-1364778000, 0⟩, ⟨-1348448400, 3600⟩, ⟨-1333328400, 0⟩,
    ⟨-1316394000, 3600⟩, ⟨-1301274000, 0⟩, ⟨-1284339600, 3600⟩, ⟨-1269824400, 0⟩,
    ⟨-1253494800, 3600⟩, ⟨-1238374800, 0⟩, ⟨-1221440400, 3600⟩, ⟨-1206925200, 0⟩,
    ⟨-1191200400, 3600⟩, ⟨-1175475600, 0⟩, ⟨-1160355600, 3600⟩, ⟨-1143421200, 0⟩,
    ⟨-1127696400, 3600⟩, ⟨-1111971600, 0⟩, ⟨-1096851600, 3600⟩, ⟨-1080522000, 0⟩,
    ⟨-1063587600, 3600⟩, ⟨-1049072400, 0⟩, ⟨-1033347600, 3600⟩, ⟨-1017622800, 0⟩,
    ⟨-1002502800, 3600⟩, ⟨-986173200, 0⟩, ⟨-969238800, 3600⟩, ⟨-950490000, 0⟩, ⟨-942012000, 3600⟩,
    ⟨-932436000, 7200⟩, ⟨-857257200, 3600⟩, ⟨-844556400, 7200⟩, ⟨-828226800, 3600⟩,
    ⟨-812502000, 7200⟩, ⟨-796266000, 3600⟩, ⟨-781052400, 7200⟩, ⟨-766623600, 3600⟩,
    ⟨196819200, 7200⟩, ⟨212540400, 3600⟩, ⟨228877200, 7200⟩, ⟨243997200, 3600⟩, ⟨260326800, 7200⟩,
    ⟨276051600, 3600⟩, ⟨291776400, 7200⟩, ⟨307501200, 3600⟩, ⟨323830800, 7200⟩, ⟨338950800, 3600⟩,
    ⟨354675600, 7200⟩, ⟨370400400, 3600⟩, ⟨386125200, 7200⟩, ⟨401850000, 3600⟩, ⟨417574800, 7200⟩,
    ⟨433299600, 3600⟩, ⟨449024400, 7200⟩, ⟨465354000, 3600⟩, ⟨481078800, 7200⟩, ⟨496803600, 3600⟩,
    ⟨512528400, 7200⟩, ⟨528253200, 3600⟩, ⟨543978000, 7200⟩, ⟨559702800, 3600⟩, ⟨575427600, 7200⟩,
    ⟨591152400, 3600⟩, ⟨606877200, 7200⟩, ⟨622602000, 3600⟩, ⟨638326800, 7200⟩, ⟨654656400, 3600⟩,
    ⟨670381200, 7200⟩, ⟨686106000, 3600⟩, ⟨701830800, 7200⟩, ⟨717555600, 3600⟩, ⟨733280400, 7200⟩,
    ⟨749005200, 3600⟩, ⟨764730000, 7200⟩, ⟨780454800, 3600⟩, ⟨796179600, 7200⟩, ⟨811904400, 3600⟩,
    ⟨828234000, 7200⟩]
  after := ⟨3600, some ⟨7200, ⟨.inWeek 3 5 0, 7200⟩, ⟨.inWeek 10 5 0, 10800⟩⟩⟩

/-- Local time of Europe/Warsaw. -/
def europeWarsaw : Rules where
  first := 5040
  transitions := [
    ⟨-1717032240, 3600⟩, ⟨-1693706400, 7200⟩, ⟨-1680483600, 3600⟩, ⟨-1663455600, 7200⟩,
    ⟨-1650150000, 3600⟩, ⟨-1632006000, 7200⟩, ⟨-1600473600, 10800⟩, ⟨-1587168000, 7200⟩,
    ⟨-1501725600, 3600⟩, ⟨-931734000, 7200⟩, ⟨-857257200, 3600⟩, ⟨-844556400, 7200⟩,
    ⟨-828226800, 3600⟩, ⟨-812502000, 7200⟩, ⟨-796608000, 3600⟩, ⟨-778726800, 7200⟩,
    ⟨-762660000, 3600⟩, ⟨-748486800, 7200⟩, ⟨-733273200, 3600⟩, ⟨-715215600, 7200⟩,
    ⟨-701910000, 3600⟩, ⟨-684975600, 7200⟩, ⟨-670460400, 3600⟩, ⟨-654130800, 7200⟩,
    ⟨-639010800, 3600⟩, ⟨-397094400, 7200⟩, ⟨-386812800, 3600⟩, ⟨-371088000, 7200⟩,
    ⟨-355363200, 3600⟩, ⟨-334195200, 7200⟩, ⟨-323308800, 3600⟩, ⟨-307584000, 7200⟩,
    ⟨-291859200, 3600⟩, ⟨-271296000, 7200⟩, ⟨-260409600, 3600⟩, ⟨-239846400, 7200⟩,
    ⟨-228960000, 3600⟩, ⟨-208396800, 7200⟩, ⟨-197510400, 3600⟩, ⟨-176342400, 7200⟩,
    ⟨-166060800, 3600⟩, ⟨228873600, 7200⟩, ⟨243993600, 3600⟩, ⟨260323200, 7200⟩, ⟨276048000, 3600⟩,
    ⟨291772800, 7200⟩, ⟨307497600, 3600⟩, ⟨323827200, 7200⟩, ⟨338947200, 3600⟩, ⟨354672000, 7200⟩,
    ⟨370396800, 3600⟩, ⟨386121600, 7200⟩, ⟨401846400, 3600⟩, ⟨417571200, 7200⟩, ⟨433296000, 3600⟩,
    ⟨449020800, 7200⟩, ⟨465350400, 3600⟩, ⟨481075200, 7200⟩, ⟨496800000, 3600⟩, ⟨512524800, 7200⟩,
    ⟨528249600, 3600⟩, ⟨543974400, 7200⟩, ⟨559699200, 3600⟩, ⟨575427600, 7200⟩, ⟨591152400, 3600⟩,
    ⟨606877200, 7200⟩, ⟨622602000, 3600⟩, ⟨638326800, 7200⟩, ⟨654656400, 3600⟩, ⟨670381200, 7200⟩,
    ⟨686106000, 3600⟩, ⟨701830800, 7200⟩, ⟨717555600, 3600⟩, ⟨733280400, 7200⟩, ⟨749005200, 3600⟩,
    ⟨764730000, 7200⟩, ⟨780454800, 3600⟩, ⟨796179600, 7200⟩, ⟨811904400, 3600⟩, ⟨828234000, 7200⟩]
  after := ⟨3600, some ⟨7200, ⟨.inWeek 3 5 0, 7200⟩, ⟨.inWeek 10 5 0, 10800⟩⟩⟩

end WallClock.Zone.Tables
