import WallClock.Zone.Rules

/-!
Local time of zones in North America and Greenland: seconds since 1970-01-01T00:00:00Z and offsets in seconds east of
Greenwich.
-/

namespace WallClock.Zone.Tables

/-- Local time of America/Chicago. -/
def americaChicago : Rules where
  first := -21036
  transitions := [
    ⟨-2717647200, -21600⟩, ⟨-1633276800, -18000⟩, ⟨-1615136400, -21600⟩, ⟨-1601827200, -18000⟩,
    ⟨-1583686800, -21600⟩, ⟨-1563724800, -18000⟩, ⟨-1551632400, -21600⟩, ⟨-1538928000, -18000⟩,
    ⟨-1520182800, -21600⟩, ⟨-1504454400, -18000⟩, ⟨-1491757200, -21600⟩, ⟨-1473004800, -18000⟩,
    ⟨-1459702800, -21600⟩, ⟨-1441555200, -18000⟩, ⟨-1428253200, -21600⟩, ⟨-1410105600, -18000⟩,
    ⟨-1396803600, -21600⟩, ⟨-1378656000, -18000⟩, ⟨-1365354000, -21600⟩, ⟨-1347206400, -18000⟩,
    ⟨-1333904400, -21600⟩, ⟨-1315152000, -18000⟩, ⟨-1301850000, -21600⟩, ⟨-1283702400, -18000⟩,
    ⟨-1270400400, -21600⟩, ⟨-1252252800, -18000⟩, ⟨-1238950800, -21600⟩, ⟨-1220803200, -18000⟩,
    ⟨-1207501200, -21600⟩, ⟨-1189353600, -18000⟩, ⟨-1176051600, -21600⟩, ⟨-1157299200, -18000⟩,
    ⟨-1144602000, -21600⟩, ⟨-1125849600, -18000⟩, ⟨-1112547600, -21600⟩, ⟨-1094400000, -18000⟩,
    ⟨-1081098000, -21600⟩, ⟨-1067788800, -18000⟩, ⟨-1045414800, -21600⟩, ⟨-1031500800, -18000⟩,
    ⟨-1018198800, -21600⟩, ⟨-1000051200, -18000⟩, ⟨-986749200, -21600⟩, ⟨-967996800, -18000⟩,
    ⟨-955299600, -21600⟩, ⟨-936547200, -18000⟩, ⟨-923245200, -21600⟩, ⟨-905097600, -18000⟩,
    ⟨-891795600, -21600⟩, ⟨-880214400, -18000⟩, ⟨-765392400, -21600⟩, ⟨-747244800, -18000⟩,
    ⟨-733942800, -21600⟩, ⟨-715795200, -18000⟩, ⟨-702493200, -21600⟩, ⟨-684345600, -18000⟩,
    ⟨-671043600, -21600⟩, ⟨-652896000, -18000⟩, ⟨-639594000, -21600⟩, ⟨-620841600, -18000⟩,
    ⟨-608144400, -21600⟩, ⟨-589392000, -18000⟩, ⟨-576090000, -21600⟩, ⟨-557942400, -18000⟩,
    ⟨-544640400, -21600⟩, ⟨-526492800, -18000⟩, ⟨-513190800, -21600⟩, ⟨-495043200, -18000⟩,
    ⟨-481741200, -21600⟩, ⟨-463593600, -18000⟩, ⟨-447267600, -21600⟩, ⟨-431539200, -18000⟩,
    ⟨-415818000, -21600⟩, ⟨-400089600, -18000⟩, ⟨-384368400, -21600⟩, ⟨-368640000, -18000⟩,
    ⟨-352918800, -21600⟩, ⟨-337190400, -18000⟩, ⟨-321469200, -21600⟩, ⟨-305740800, -18000⟩,
    ⟨-289414800, -21600⟩, ⟨-273686400, -18000⟩, ⟨-257965200, -21600⟩, ⟨-242236800, -18000⟩,
    ⟨-226515600, -21600⟩, ⟨-210787200, -18000⟩, ⟨-195066000, -21600⟩, ⟨-179337600, -18000⟩,
    ⟨-163616400, -21600⟩, ⟨-147888000, -18000⟩, ⟨-131562000, -21600⟩, ⟨-116438400, -18000⟩,
    ⟨-100112400, -21600⟩, ⟨-84384000, -18000⟩, ⟨-68662800, -21600⟩, ⟨-52934400, -18000⟩,
    ⟨-37213200, -21600⟩, ⟨-21484800, -18000⟩, ⟨-5763600, -21600⟩, ⟨9964800, -18000⟩,
    ⟨25686000, -21600⟩, ⟨41414400, -18000⟩, ⟨57740400, -21600⟩, ⟨73468800, -18000⟩,
    ⟨89190000, -21600⟩, ⟨104918400, -18000⟩, ⟨120639600, -21600⟩, ⟨126691200, -18000⟩,
    ⟨152089200, -21600⟩, ⟨162374400, -18000⟩, ⟨183538800, -21600⟩, ⟨199267200, -18000⟩,
    ⟨215593200, -21600⟩, ⟨230716800, -18000⟩, ⟨247042800, -21600⟩, ⟨262771200, -18000⟩,
    ⟨278492400, -21600⟩, ⟨294220800, -18000⟩, ⟨309942000, -21600⟩, ⟨325670400, -18000⟩,
    ⟨341391600, -21600⟩, ⟨357120000, -18000⟩, ⟨372841200, -21600⟩, ⟨388569600, -18000⟩,
    ⟨404895600, -21600⟩, ⟨420019200, -18000⟩, ⟨436345200, -21600⟩, ⟨452073600, -18000⟩,
    ⟨467794800, -21600⟩, ⟨483523200, -18000⟩, ⟨499244400, -21600⟩, ⟨514972800, -18000⟩,
    ⟨530694000, -21600⟩, ⟨544608000, -18000⟩, ⟨562143600, -21600⟩, ⟨576057600, -18000⟩,
    ⟨594198000, -21600⟩, ⟨607507200, -18000⟩, ⟨625647600, -21600⟩, ⟨638956800, -18000⟩,
    ⟨657097200, -21600⟩, ⟨671011200, -18000⟩, ⟨688546800, -21600⟩, ⟨702460800, -18000⟩,
    ⟨719996400, -21600⟩, ⟨733910400, -18000⟩, ⟨752050800, -21600⟩, ⟨765360000, -18000⟩,
    ⟨783500400, -21600⟩, ⟨796809600, -18000⟩, ⟨814950000, -21600⟩, ⟨828864000, -18000⟩,
    ⟨846399600, -21600⟩, ⟨860313600, -18000⟩, ⟨877849200, -21600⟩, ⟨891763200, -18000⟩,
    ⟨909298800, -21600⟩, ⟨923212800, -18000⟩, ⟨941353200, -21600⟩, ⟨954662400, -18000⟩,
    ⟨972802800, -21600⟩, ⟨986112000, -18000⟩, ⟨1004252400, -21600⟩, ⟨1018166400, -18000⟩,
    ⟨1035702000, -21600⟩, ⟨1049616000, -18000⟩, ⟨1067151600, -21600⟩, ⟨1081065600, -18000⟩,
    ⟨1099206000, -21600⟩, ⟨1112515200, -18000⟩, ⟨1130655600, -21600⟩, ⟨1143964800, -18000⟩,
    ⟨1162105200, -21600⟩, ⟨1173600000, -18000⟩]
  after := ⟨-21600, some ⟨-18000, ⟨.inWeek 3 2 0, 7200⟩, ⟨.inWeek 11 1 0, 7200⟩⟩⟩

/-- Local time of America/Havana. -/
def americaHavana : Rules where
  first := -19768
  transitions := [
    ⟨-2524501832, -19776⟩, ⟨-1402813824, -18000⟩, ⟨-1311534000, -14400⟩, ⟨-1300996800, -18000⟩,
    ⟨-933534000, -14400⟩, ⟨-925675200, -18000⟩, ⟨-902084400, -14400⟩, ⟨-893620800, -18000⟩,
    ⟨-870030000, -14400⟩, ⟨-862171200, -18000⟩, ⟨-775681200, -14400⟩, ⟨-767822400, -18000⟩,
    ⟨-744231600, -14400⟩, ⟨-736372800, -18000⟩, ⟨-144702000, -14400⟩, ⟨-134251200, -18000⟩,
    ⟨-113425200, -14400⟩, ⟨-102542400, -18000⟩, ⟨-86295600, -14400⟩, ⟨-72907200, -18000⟩,
    ⟨-54154800, -14400⟩, ⟨-41457600, -18000⟩, ⟨-21495600, -14400⟩, ⟨-5774400, -18000⟩,
    ⟨9954000, -14400⟩, ⟨25675200, -18000⟩, ⟨41403600, -14400⟩, ⟨57729600, -18000⟩,
    ⟨73458000, -14400⟩, ⟨87364800, -18000⟩, ⟨104907600, -14400⟩, ⟨118900800, -18000⟩,
    ⟨136357200, -14400⟩, ⟨150436800, -18000⟩, ⟨167806800, -14400⟩, ⟨183528000, -18000⟩,
    ⟨199256400, -14400⟩, ⟨215582400, -18000⟩, ⟨230706000, -14400⟩, ⟨247032000, -18000⟩,
    ⟨263365200, -14400⟩, ⟨276667200, -18000⟩, ⟨290581200, -14400⟩, ⟨308721600, -18000⟩,
    ⟨322030800, -14400⟩, ⟨340171200, -18000⟩, ⟨358318800, -14400⟩, ⟨371620800, -18000⟩,
    ⟨389768400, -14400⟩, ⟨403070400, -18000⟩, ⟨421218000, -14400⟩, ⟨434520000, -18000⟩,
    ⟨452667600, -14400⟩, ⟨466574400, -18000⟩, ⟨484117200, -14400⟩, ⟨498024000, -18000⟩,
    ⟨511333200, -14400⟩, ⟨529473600, -18000⟩, ⟨542782800, -14400⟩, ⟨560923200, -18000⟩,
    ⟨574837200, -14400⟩, ⟨592372800, -18000⟩, ⟨606286800, -14400⟩, ⟨623822400, -18000⟩,
    ⟨638946000, -14400⟩, ⟨655876800, -18000⟩, ⟨671000400, -14400⟩, ⟨687330000, -18000⟩,
    ⟨702450000, -14400⟩, ⟨718779600, -18000⟩, ⟨733899600, -14400⟩, ⟨750229200, -18000⟩,
    ⟨765349200, -14400⟩, ⟨781678800, -18000⟩, ⟨796798800, -14400⟩, ⟨813128400, -18000⟩,
    ⟨828853200, -14400⟩, ⟨844578000, -18000⟩, ⟨860302800, -14400⟩, ⟨876632400, -18000⟩,
    ⟨891147600, -14400⟩, ⟨909291600, -18000⟩, ⟨922597200, -14400⟩, ⟨941346000, -18000⟩,
    ⟨954651600, -14400⟩, ⟨972795600, -18000⟩, ⟨986101200, -14400⟩, ⟨1004245200, -18000⟩,
    ⟨1018155600, -14400⟩, ⟨1035694800, -18000⟩, ⟨1049605200, -14400⟩, ⟨1067144400, -18000⟩,
    ⟨1080450000, -14400⟩, ⟨1162098000, -18000⟩, ⟨1173589200, -14400⟩, ⟨1193547600, -18000⟩,
    ⟨1205643600, -14400⟩, ⟨1224997200, -18000⟩, ⟨1236488400, -14400⟩, ⟨1256446800, -18000⟩,
    ⟨1268542800, -14400⟩, ⟨1288501200, -18000⟩, ⟨1300597200, -14400⟩, ⟨1321160400, -18000⟩,
    ⟨1333256400, -14400⟩, ⟨1352005200, -18000⟩]
  after := ⟨-18000, some ⟨-14400, ⟨.inWeek 3 2 0, 0⟩, ⟨.inWeek 11 1 0, 3600⟩⟩⟩

/-- Local time of America/Juneau. -/
def americaJuneau : Rules where
  first := 54139
  transitions := [
    ⟨-3225223727, -32261⟩, ⟨-2188954939, -28800⟩, ⟨-880207200, -25200⟩, ⟨-765385200, -28800⟩,
    ⟨-21477600, -25200⟩, ⟨-5756400, -28800⟩, ⟨9972000, -25200⟩, ⟨25693200, -28800⟩,
    ⟨41421600, -25200⟩, ⟨57747600, -28800⟩, ⟨73476000, -25200⟩, ⟨89197200, -28800⟩,
    ⟨104925600, -25200⟩, ⟨120646800, -28800⟩, ⟨126698400, -25200⟩, ⟨152096400, -28800⟩,
    ⟨162381600, -25200⟩, ⟨183546000, -28800⟩, ⟨199274400, -25200⟩, ⟨215600400, -28800⟩,
    ⟨230724000, -25200⟩, ⟨247050000, -28800⟩, ⟨262778400, -25200⟩, ⟨278499600, -28800⟩,
    ⟨294228000, -25200⟩, ⟨309949200, -28800⟩, ⟨357127200, -25200⟩, ⟨372848400, -28800⟩,
    ⟨388576800, -25200⟩, ⟨404902800, -28800⟩, ⟨420026400, -25200⟩, ⟨436352400, -32400⟩,
    ⟨452084400, -28800⟩, ⟨467805600, -32400⟩, ⟨483534000, -28800⟩, ⟨499255200, -32400⟩,
    ⟨514983600, -28800⟩, ⟨530704800, -32400⟩, ⟨544618800, -28800⟩, ⟨562154400, -32400⟩,
    ⟨576068400, -28800⟩, ⟨594208800, -32400⟩, ⟨607518000, -28800⟩, ⟨625658400, -32400⟩,
    ⟨638967600, -28800⟩, ⟨657108000, -32400⟩, ⟨671022000, -28800⟩, ⟨688557600, -32400⟩,
    ⟨702471600, -28800⟩, ⟨720007200, -32400⟩, ⟨733921200, -28800⟩, ⟨752061600, -32400⟩,
    ⟨765370800, -28800⟩, ⟨783511200, -32400⟩, ⟨796820400, -28800⟩, ⟨814960800, -32400⟩,
    ⟨828874800, -28800⟩, ⟨846410400, -32400⟩, ⟨860324400, -28800⟩, ⟨877860000, -32400⟩,
    ⟨891774000, -28800⟩, ⟨909309600, -32400⟩, ⟨923223600, -28800⟩, ⟨941364000, -32400⟩,
    ⟨954673200, -28800⟩, ⟨972813600, -32400⟩, ⟨986122800, -28800⟩, ⟨1004263200, -32400⟩,
    ⟨1018177200, -28800⟩, ⟨1035712800, -32400⟩, ⟨1049626800, -28800⟩, ⟨1067162400, -32400⟩,
    ⟨1081076400, -28800⟩, ⟨1099216800, -32400⟩, ⟨1112526000, -28800⟩, ⟨1130666400, -32400⟩,
    ⟨1143975600, -28800⟩, ⟨1162116000, -32400⟩, ⟨1173610800, -28800⟩]
  after := ⟨-32400, some ⟨-28800, ⟨.inWeek 3 2 0, 7200⟩, ⟨.inWeek 11 1 0, 7200⟩⟩⟩

/-- Local time of America/Los_Angeles. -/
def americaLosAngeles : Rules where
  first := -28378
  transitions := [
    ⟨-2717640000, -28800⟩, ⟨-1633269600, -25200⟩, ⟨-1615129200, -28800⟩, ⟨-1601820000, -25200⟩,
    ⟨-1583679600, -28800⟩, ⟨-880207200, -25200⟩, ⟨-765385200, -28800⟩, ⟨-687967140, -25200⟩,
    ⟨-662655600, -28800⟩, ⟨-620838000, -25200⟩, ⟨-608137200, -28800⟩, ⟨-589388400, -25200⟩,
    ⟨-576082800, -28800⟩, ⟨-557938800, -25200⟩, ⟨-544633200, -28800⟩, ⟨-526489200, -25200⟩,
    ⟨-513183600, -28800⟩, ⟨-495039600, -25200⟩, ⟨-481734000, -28800⟩, ⟨-463590000, -25200⟩,
    ⟨-450284400, -28800⟩, ⟨-431535600, -25200⟩, ⟨-418230000, -28800⟩, ⟨-400086000, -25200⟩,
    ⟨-386780400, -28800⟩, ⟨-368636400, -25200⟩, ⟨-355330800, -28800⟩, ⟨-337186800, -25200⟩,
    ⟨-323881200, -28800⟩, ⟨-305737200, -25200⟩, ⟨-292431600, -28800⟩, ⟨-273682800, -25200⟩,
    ⟨-260982000, -28800⟩, ⟨-242233200, -25200⟩, ⟨-226508400, -28800⟩, ⟨-210783600, -25200⟩,
    ⟨-195058800, -28800⟩, ⟨-179334000, -25200⟩, ⟨-163609200, -28800⟩, ⟨-147884400, -25200⟩,
    ⟨-131554800, -28800⟩, ⟨-116434800, -25200⟩, ⟨-100105200, -28800⟩, ⟨-84376800, -25200⟩,
    ⟨-68655600, -28800⟩, ⟨-52927200, -25200⟩, ⟨-37206000, -28800⟩, ⟨-21477600, -25200⟩,
    ⟨-5756400, -28800⟩, ⟨9972000, -25200⟩, ⟨25693200, -28800⟩, ⟨41421600, -25200⟩,
    ⟨57747600, -28800⟩, ⟨73476000, -25200⟩, ⟨89197200, -28800⟩, ⟨104925600, -25200⟩,
    ⟨120646800, -28800⟩, ⟨126698400, -25200⟩, ⟨152096400, -28800⟩, ⟨162381600, -25200⟩,
    ⟨183546000, -28800⟩, ⟨199274400, -25200⟩, ⟨215600400, -28800⟩, ⟨230724000, -25200⟩,
    ⟨247050000, -28800⟩, ⟨262778400, -25200⟩, ⟨278499600, -28800⟩, ⟨294228000, -25200⟩,
    ⟨309949200, -28800⟩, ⟨325677600, -25200⟩, ⟨341398800, -28800⟩, ⟨357127200, -25200⟩,
    ⟨372848400, -28800⟩, ⟨388576800, -25200⟩, ⟨404902800, -28800⟩, ⟨420026400, -25200⟩,
    ⟨436352400, -28800⟩, ⟨452080800, -25200⟩, ⟨467802000, -28800⟩, ⟨483530400, -25200⟩,
    ⟨499251600, -28800⟩, ⟨514980000, -25200⟩, ⟨530701200, -28800⟩, ⟨544615200, -25200⟩,
    ⟨562150800, -28800⟩, ⟨576064800, -25200⟩, ⟨594205200, -28800⟩, ⟨607514400, -25200⟩,
    ⟨625654800, -28800⟩, ⟨638964000, -25200⟩, ⟨657104400, -28800⟩, ⟨671018400, -25200⟩,
    ⟨688554000, -28800⟩, ⟨702468000, -25200⟩, ⟨720003600, -28800⟩, ⟨733917600, -25200⟩,
    ⟨752058000, -28800⟩, ⟨765367200, -25200⟩, ⟨783507600, -28800⟩, ⟨796816800, -25200⟩,
    ⟨814957200, -28800⟩, ⟨828871200, -25200⟩, ⟨846406800, -28800⟩, ⟨860320800, -25200⟩,
    ⟨877856400, -28800⟩, ⟨891770400, -25200⟩, ⟨909306000, -28800⟩, ⟨923220000, -25200⟩,
    ⟨941360400, -28800⟩, ⟨954669600, -25200⟩, ⟨972810000, -28800⟩, ⟨986119200, -25200⟩,
    ⟨1004259600, -28800⟩, ⟨1018173600, -25200⟩, ⟨1035709200, -28800⟩, ⟨1049623200, -25200⟩,
    ⟨1067158800, -28800⟩, ⟨1081072800, -25200⟩, ⟨1099213200, -28800⟩, ⟨1112522400, -25200⟩,
    ⟨1130662800, -28800⟩, ⟨1143972000, -25200⟩, ⟨1162112400, -28800⟩, ⟨1173607200, -25200⟩]
  after := ⟨-28800, some ⟨-25200, ⟨.inWeek 3 2 0, 7200⟩, ⟨.inWeek 11 1 0, 7200⟩⟩⟩

/-- Local time of America/Mexico_City. -/
def americaMexicoCity : Rules where
  first := -23796
  transitions := [
    ⟨-1514739600, -25200⟩, ⟨-1343149200, -21600⟩, ⟨-1234807200, -25200⟩, ⟨-1220461200, -21600⟩,
    ⟨-1207159200, -25200⟩, ⟨-1191344400, -21600⟩, ⟨-975261600, -18000⟩, ⟨-963169200, -21600⟩,
    ⟨-917114400, -18000⟩, ⟨-907354800, -21600⟩, ⟨-821901600, -18000⟩, ⟨-810068400, -21600⟩,
    ⟨-627501600, -18000⟩, ⟨-612990000, -21600⟩, ⟨828864000, -18000⟩, ⟨846399600, -21600⟩,
    ⟨860313600, -18000⟩, ⟨877849200, -21600⟩, ⟨891763200, -18000⟩, ⟨909298800, -21600⟩,
    ⟨923212800, -18000⟩, ⟨941353200, -21600⟩, ⟨954662400, -18000⟩, ⟨972802800, -21600⟩,
    ⟨989136000, -18000⟩, ⟨1001833200, -21600⟩, ⟨1018166400, -18000⟩, ⟨1035702000, -21600⟩,
    ⟨1049616000, -18000⟩, ⟨1067151600, -21600⟩, ⟨1081065600, -18000⟩, ⟨1099206000, -21600⟩,
    ⟨1112515200, -18000⟩, ⟨1130655600, -21600⟩, ⟨1143964800, -18000⟩, ⟨1162105200, -21600⟩,
    ⟨1175414400, -18000⟩, ⟨1193554800, -21600⟩, ⟨1207468800, -18000⟩, ⟨1225004400, -21600⟩,
    ⟨1238918400, -18000⟩, ⟨1256454000, -21600⟩, ⟨1270368000, -18000⟩, ⟨1288508400, -21600⟩,
    ⟨1301817600, -18000⟩, ⟨1319958000, -21600⟩, ⟨1333267200, -18000⟩, ⟨1351407600, -21600⟩,
    ⟨1365321600, -18000⟩, ⟨1382857200, -21600⟩, ⟨1396771200, -18000⟩, ⟨1414306800, -21600⟩,
    ⟨1428220800, -18000⟩, ⟨1445756400, -21600⟩, ⟨1459670400, -18000⟩, ⟨1477810800, -21600⟩,
    ⟨1491120000, -18000⟩, ⟨1509260400, -21600⟩, ⟨1522569600, -18000⟩, ⟨1540710000, -21600⟩,
    ⟨1554624000, -18000⟩, ⟨1572159600, -21600⟩, ⟨1586073600, -18000⟩, ⟨1603609200, -21600⟩,
    ⟨1617523200, -18000⟩, ⟨1635663600, -21600⟩, ⟨1648972800, -18000⟩, ⟨1667113200, -21600⟩]
  after := ⟨-21600, none⟩

/-- Local time of America/New_York. -/
def americaNewYork : Rules where
  first := -17762
  transitions := [
    ⟨-2717650800, -18000⟩, ⟨-1633280400, -14400⟩, ⟨-1615140000, -18000⟩, ⟨-1601830800, -14400⟩,
    ⟨-1583690400, -18000⟩, ⟨-1570381200, -14400⟩, ⟨-1551636000, -18000⟩, ⟨-1536512400, -14400⟩,
    ⟨-1523210400, -18000⟩, ⟨-1504458000, -14400⟩, ⟨-1491760800, -18000⟩, ⟨-1473008400, -14400⟩,
    ⟨-1459706400, -18000⟩, ⟨-1441558800, -14400⟩, ⟨-1428256800, -18000⟩, ⟨-1410109200, -14400⟩,
    ⟨-1396807200, -18000⟩, ⟨-1378659600, -14400⟩, ⟨-1365357600, -18000⟩, ⟨-1347210000, -14400⟩,
    ⟨-1333908000, -18000⟩, ⟨-1315155600, -14400⟩, ⟨-1301853600, -18000⟩, ⟨-1283706000, -14400⟩,
    ⟨-1270404000, -18000⟩, ⟨-1252256400, -14400⟩, ⟨-1238954400, -18000⟩, ⟨-1220806800, -14400⟩,
    ⟨-1207504800, -18000⟩, ⟨-1189357200, -14400⟩, ⟨-1176055200, -18000⟩, ⟨-1157302800, -14400⟩,
    ⟨-1144605600, -18000⟩, ⟨-1125853200, -14400⟩, ⟨-1112551200, -18000⟩, ⟨-1094403600, -14400⟩,
    ⟨-1081101600, -18000⟩, ⟨-1062954000, -14400⟩, ⟨-1049652000, -18000⟩, ⟨-1031504400, -14400⟩,
    ⟨-1018202400, -18000⟩, ⟨-1000054800, -14400⟩, ⟨-986752800, -18000⟩, ⟨-968000400, -14400⟩,
    ⟨-955303200, -18000⟩, ⟨-936550800, -14400⟩, ⟨-923248800, -18000⟩, ⟨-905101200, -14400⟩,
    ⟨-891799200, -18000⟩, ⟨-880218000, -14400⟩, ⟨-765396000, -18000⟩, ⟨-747248400, -14400⟩,
    ⟨-733946400, -18000⟩, ⟨-715798800, -14400⟩, ⟨-702496800, -18000⟩, ⟨-684349200, -14400⟩,
    ⟨-671047200, -18000⟩, ⟨-652899600, -14400⟩, ⟨-639597600, -18000⟩, ⟨-620845200, -14400⟩,
    ⟨-608148000, -18000⟩, ⟨-589395600, -14400⟩, ⟨-576093600, -18000⟩, ⟨-557946000, -14400⟩,
    ⟨-544644000, -18000⟩, ⟨-526496400, -14400⟩, ⟨-513194400, -18000⟩, ⟨-495046800, -14400⟩,
    ⟨-481744800, -18000⟩, ⟨-463597200, -14400⟩, ⟨-447271200, -18000⟩, ⟨-431542800, -14400⟩,
    ⟨-415821600, -18000⟩, ⟨-400093200, -14400⟩, ⟨-384372000, -18000⟩, ⟨-368643600, -14400⟩,
    ⟨-352922400, -18000⟩, ⟨-337194000, -14400⟩, ⟨-321472800, -18000⟩, ⟨-305744400, -14400⟩,
    ⟨-289418400, -18000⟩, ⟨-273690000, -14400⟩, ⟨-257968800, -18000⟩, ⟨-242240400, -14400⟩,
    ⟨-226519200, -18000⟩, ⟨-210790800, -14400⟩, ⟨-195069600, -18000⟩, ⟨-179341200, -14400⟩,
    ⟨-163620000, -18000⟩, ⟨-147891600, -14400⟩, ⟨-131565600, -18000⟩, ⟨-116442000, -14400⟩,
    ⟨-100116000, -18000⟩, ⟨-84387600, -14400⟩, ⟨-68666400, -18000⟩, ⟨-52938000, -14400⟩,
    ⟨-37216800, -18000⟩, ⟨-21488400, -14400⟩, ⟨-5767200, -18000⟩, ⟨9961200, -14400⟩,
    ⟨25682400, -18000⟩, ⟨41410800, -14400⟩, ⟨57736800, -18000⟩, ⟨73465200, -14400⟩,
    ⟨89186400, -18000⟩, ⟨104914800, -14400⟩, ⟨120636000, -18000⟩, ⟨126687600, -14400⟩,
    ⟨152085600, -18000⟩, ⟨162370800, -14400⟩, ⟨183535200, -18000⟩, ⟨199263600, -14400⟩,
    ⟨215589600, -18000⟩, ⟨230713200, -14400⟩, ⟨247039200, -18000⟩, ⟨262767600, -14400⟩,
    ⟨278488800, -18000⟩, ⟨294217200, -14400⟩, ⟨309938400, -18000⟩, ⟨325666800, -14400⟩,
    ⟨341388000, -18000⟩, ⟨357116400, -14400⟩, ⟨372837600, -18000⟩, ⟨388566000, -14400⟩,
    ⟨404892000, -18000⟩, ⟨420015600, -14400⟩, ⟨436341600, -18000⟩, ⟨452070000, -14400⟩,
    ⟨467791200, -18000⟩, ⟨483519600, -14400⟩, ⟨499240800, -18000⟩, ⟨514969200, -14400⟩,
    ⟨530690400, -18000⟩, ⟨544604400, -14400⟩, ⟨562140000, -18000⟩, ⟨576054000, -14400⟩,
    ⟨594194400, -18000⟩, ⟨607503600, -14400⟩, ⟨625644000, -18000⟩, ⟨638953200, -14400⟩,
    ⟨657093600, -18000⟩, ⟨671007600, -14400⟩, ⟨688543200, -18000⟩, ⟨702457200, -14400⟩,
    ⟨719992800, -18000⟩, ⟨733906800, -14400⟩, ⟨752047200, -18000⟩, ⟨765356400, -14400⟩,
    ⟨783496800, -18000⟩, ⟨796806000, -14400⟩, ⟨814946400, -18000⟩, ⟨828860400, -14400⟩,
    ⟨846396000, -18000⟩, ⟨860310000, -14400⟩, ⟨877845600, -18000⟩, ⟨891759600, -14400⟩,
    ⟨909295200, -18000⟩, ⟨923209200, -14400⟩, ⟨941349600, -18000⟩, ⟨954658800, -14400⟩,
    ⟨972799200, -18000⟩, ⟨986108400, -14400⟩, ⟨1004248800, -18000⟩, ⟨1018162800, -14400⟩,
    ⟨1035698400, -18000⟩, ⟨1049612400, -14400⟩, ⟨1067148000, -18000⟩, ⟨1081062000, -14400⟩,
    ⟨1099202400, -18000⟩, ⟨1112511600, -14400⟩, ⟨1130652000, -18000⟩, ⟨1143961200, -14400⟩,
    ⟨1162101600, -18000⟩, ⟨1173596400, -14400⟩]
  after := ⟨-18000, some ⟨-14400, ⟨.inWeek 3 2 0, 7200⟩, ⟨.inWeek 11 1 0, 7200⟩⟩⟩

/-- Local time of America/Nuuk. -/
def americaNuuk : Rules where
  first := -12416
  transitions := [
    ⟨-1686083584, -10800⟩, ⟨323845200, -7200⟩, ⟨338950800, -10800⟩, ⟨354675600, -7200⟩,
    ⟨370400400, -10800⟩, ⟨386125200, -7200⟩, ⟨401850000, -10800⟩, ⟨417574800, -7200⟩,
    ⟨433299600, -10800⟩, ⟨449024400, -7200⟩, ⟨465354000, -10800⟩, ⟨481078800, -7200⟩,
    ⟨496803600, -10800⟩, ⟨512528400, -7200⟩, ⟨528253200, -10800⟩, ⟨543978000, -7200⟩,
    ⟨559702800, -10800⟩, ⟨575427600, -7200⟩, ⟨591152400, -10800⟩, ⟨606877200, -7200⟩,
    ⟨622602000, -10800⟩, ⟨638326800, -7200⟩, ⟨654656400, -10800⟩, ⟨670381200, -7200⟩,
    ⟨686106000, -10800⟩, ⟨701830800, -7200⟩, ⟨717555600, -10800⟩, ⟨733280400, -7200⟩,
    ⟨749005200, -10800⟩, ⟨764730000, -7200⟩, ⟨780454800, -10800⟩, ⟨796179600, -7200⟩,
    ⟨811904400, -10800⟩, ⟨828234000, -7200⟩, ⟨846378000, -10800⟩, ⟨859683600, -7200⟩,
    ⟨877827600, -10800⟩, ⟨891133200, -7200⟩, ⟨909277200, -10800⟩, ⟨922582800, -7200⟩,
    ⟨941331600, -10800⟩, ⟨954032400, -7200⟩, ⟨972781200, -10800⟩, ⟨985482000, -7200⟩,
    ⟨1004230800, -10800⟩, ⟨1017536400, -7200⟩, ⟨1035680400, -10800⟩, ⟨1048986000, -7200⟩,
    ⟨1067130000, -10800⟩, ⟨1080435600, -7200⟩, ⟨1099184400, -10800⟩, ⟨1111885200, -7200⟩,
    ⟨1130634000, -10800⟩, ⟨1143334800, -7200⟩, ⟨1162083600, -10800⟩, ⟨1174784400, -7200⟩,
    ⟨1193533200, -10800⟩, ⟨1206838800, -7200⟩, ⟨1224982800, -10800⟩, ⟨1238288400, -7200⟩,
    ⟨1256432400, -10800⟩, ⟨1269738000, -7200⟩, ⟨1288486800, -10800⟩, ⟨1301187600, -7200⟩,
    ⟨1319936400, -10800⟩, ⟨1332637200, -7200⟩, ⟨1351386000, -10800⟩, ⟨1364691600, -7200⟩,
    ⟨1382835600, -10800⟩, ⟨1396141200, -7200⟩, ⟨1414285200, -10800⟩, ⟨1427590800, -7200⟩,
    ⟨1445734800, -10800⟩, ⟨1459040400, -7200⟩, ⟨1477789200, -10800⟩, ⟨1490490000, -7200⟩,
    ⟨1509238800, -10800⟩, ⟨1521939600, -7200⟩, ⟨1540688400, -10800⟩, ⟨1553994000, -7200⟩,
    ⟨1572138000, -10800⟩, ⟨1585443600, -7200⟩, ⟨1603587600, -10800⟩, ⟨1616893200, -7200⟩,
    ⟨1635642000, -10800⟩, ⟨1648342800, -7200⟩, ⟨1667091600, -10800⟩, ⟨1679792400, -7200⟩,
    ⟨1698541200, -7200⟩]
  after := ⟨-7200, some ⟨-3600, ⟨.inWeek 3 5 0, -3600⟩, ⟨.inWeek 10 5 0, 0⟩⟩⟩

/-- Local time of America/Phoenix. -/
def americaPhoenix : Rules where
  first := -26898
  transitions := [
    ⟨-2717643600, -25200⟩, ⟨-1633273200, -21600⟩, ⟨-1615132800, -25200⟩, ⟨-1601823600, -21600⟩,
    ⟨-1583683200, -25200⟩, ⟨-880210800, -21600⟩, ⟨-820519140, -25200⟩, ⟨-812653140, -21600⟩,
    ⟨-796845540, -25200⟩, ⟨-84380400, -21600⟩, ⟨-68659200, -25200⟩]
  after := ⟨-25200, none⟩

/-- Local time of America/Scoresbysund. -/
def americaScoresbysund : Rules where
  first := -5272
  transitions := [
    ⟨-1686090728, -7200⟩, ⟨323841600, -3600⟩, ⟨338961600, -7200⟩, ⟨354679200, 0⟩,
    ⟨370400400, -3600⟩, ⟨386125200, 0⟩, ⟨401850000, -3600⟩, ⟨417574800, 0⟩, ⟨433299600, -3600⟩,
    ⟨449024400, 0⟩, ⟨465354000, -3600⟩, ⟨481078800, 0⟩, ⟨496803600, -3600⟩, ⟨512528400, 0⟩,
    ⟨528253200, -3600⟩, ⟨543978000, 0⟩, ⟨559702800, -3600⟩, ⟨575427600, 0⟩, ⟨591152400, -3600⟩,
    ⟨606877200, 0⟩, ⟨622602000, -3600⟩, ⟨638326800, 0⟩, ⟨654656400, -3600⟩, ⟨670381200, 0⟩,
    ⟨686106000, -3600⟩, ⟨701830800, 0⟩, ⟨717555600, -3600⟩, ⟨733280400, 0⟩, ⟨749005200, -3600⟩,
    ⟨764730000, 0⟩, ⟨780454800, -3600⟩, ⟨796179600, 0⟩, ⟨811904400, -3600⟩, ⟨828234000, 0⟩,
    ⟨846378000, -3600⟩, ⟨859683600, 0⟩, ⟨877827600, -3600⟩, ⟨891133200, 0⟩, ⟨909277200, -3600⟩,
    ⟨922582800, 0⟩, ⟨941331600, -3600⟩, ⟨954032400, 0⟩, ⟨972781200, -3600⟩, ⟨985482000, 0⟩,
    ⟨1004230800, -3600⟩, ⟨1017536400, 0⟩, ⟨1035680400, -3600⟩, ⟨1048986000, 0⟩, ⟨1067130000, -3600⟩,
    ⟨1080435600, 0⟩, ⟨1099184400, -3600⟩, ⟨1111885200, 0⟩, ⟨1130634000, -3600⟩, ⟨1143334800, 0⟩,
    ⟨1162083600, -3600⟩, ⟨1174784400, 0⟩, ⟨1193533200, -3600⟩, ⟨1206838800, 0⟩, ⟨1224982800, -3600⟩,
    ⟨1238288400, 0⟩, ⟨1256432400, -3600⟩, ⟨1269738000, 0⟩, ⟨1288486800, -3600⟩, ⟨1301187600, 0⟩,
    ⟨1319936400, -3600⟩, ⟨1332637200, 0⟩, ⟨1351386000, -3600⟩, ⟨1364691600, 0⟩, ⟨1382835600, -3600⟩,
    ⟨1396141200, 0⟩, ⟨1414285200, -3600⟩, ⟨1427590800, 0⟩, ⟨1445734800, -3600⟩, ⟨1459040400, 0⟩,
    ⟨1477789200, -3600⟩, ⟨1490490000, 0⟩, ⟨1509238800, -3600⟩, ⟨1521939600, 0⟩, ⟨1540688400, -3600⟩,
    ⟨1553994000, 0⟩, ⟨1572138000, -3600⟩, ⟨1585443600, 0⟩, ⟨1603587600, -3600⟩, ⟨1616893200, 0⟩,
    ⟨1635642000, -3600⟩, ⟨1648342800, 0⟩, ⟨1667091600, -3600⟩, ⟨1679792400, 0⟩, ⟨1698541200, -3600⟩,
    ⟨1711846800, -3600⟩]
  after := ⟨-7200, some ⟨-3600, ⟨.inWeek 3 5 0, -3600⟩, ⟨.inWeek 10 5 0, 0⟩⟩⟩

/-- Local time of America/St_Johns. -/
def americaStJohns : Rules where
  first := -12652
  transitions := [
    ⟨-1664130548, -9052⟩, ⟨-1650137348, -12652⟩, ⟨-1632076148, -9052⟩, ⟨-1615145348, -12652⟩,
    ⟨-1598650148, -9052⟩, ⟨-1590100148, -12652⟩, ⟨-1567286948, -9052⟩, ⟨-1551565748, -12652⟩,
    ⟨-1535837348, -9052⟩, ⟨-1520116148, -12652⟩, ⟨-1503782948, -9052⟩, ⟨-1488666548, -12652⟩,
    ⟨-1472333348, -9052⟩, ⟨-1457216948, -12652⟩, ⟨-1440883748, -9052⟩, ⟨-1425767348, -12652⟩,
    ⟨-1409434148, -9052⟩, ⟨-1394317748, -12652⟩, ⟨-1377984548, -9052⟩, ⟨-1362263348, -12652⟩,
    ⟨-1346534948, -9052⟩, ⟨-1330813748, -12652⟩, ⟨-1314480548, -9052⟩, ⟨-1299364148, -12652⟩,
    ⟨-1283030948, -9052⟩, ⟨-1267914548, -12652⟩, ⟨-1251581348, -9052⟩, ⟨-1236464948, -12652⟩,
    ⟨-1220131748, -9052⟩, ⟨-1205015348, -12652⟩, ⟨-1188682148, -9052⟩, ⟨-1172960948, -12652⟩,
    ⟨-1156627748, -9052⟩, ⟨-1141511348, -12652⟩, ⟨-1125178148, -9052⟩, ⟨-1110061748, -12652⟩,
    ⟨-1096921748, -12600⟩, ⟨-1093728600, -9000⟩, ⟨-1078612200, -12600⟩, ⟨-1061670600, -9000⟩,
    ⟨-1048973400, -12600⟩, ⟨-1030221000, -9000⟩, ⟨-1017523800, -12600⟩, ⟨-998771400, -9000⟩,
    ⟨-986074200, -12600⟩, ⟨-966717000, -9000⟩, ⟨-954624600, -12600⟩, ⟨-935267400, -9000⟩,
    ⟨-922570200, -12600⟩, ⟨-903817800, -9000⟩, ⟨-891120600, -12600⟩, ⟨-872368200, -9000⟩,
    ⟨-765401400, -12600⟩, ⟨-746044200, -9000⟩, ⟨-733347000, -12600⟩, ⟨-714594600, -9000⟩,
    ⟨-701897400, -12600⟩, ⟨-683145000, -9000⟩, ⟨-670447800, -12600⟩, ⟨-651695400, -9000⟩,
    ⟨-638998200, -12600⟩, ⟨-619641000, -9000⟩, ⟨-606943800, -12600⟩, ⟨-589401000, -9000⟩,
    ⟨-576099000, -12600⟩, ⟨-557951400, -9000⟩, ⟨-544649400, -12600⟩, ⟨-526501800, -9000⟩,
    ⟨-513199800, -12600⟩, ⟨-495052200, -9000⟩, ⟨-481750200, -12600⟩, ⟨-463602600, -9000⟩,
    ⟨-450300600, -12600⟩, ⟨-431548200, -9000⟩, ⟨-418246200, -12600⟩, ⟨-400098600, -9000⟩,
    ⟨-386796600, -12600⟩, ⟨-368649000, -9000⟩, ⟨-355347000, -12600⟩, ⟨-337199400, -9000⟩,
    ⟨-323897400, -12600⟩, ⟨-305749800, -9000⟩, ⟨-289423800, -12600⟩, ⟨-273695400, -9000⟩,
    ⟨-257974200, -12600⟩, ⟨-242245800, -9000⟩, ⟨-226524600, -12600⟩, ⟨-210796200, -9000⟩,
    ⟨-195075000, -12600⟩, ⟨-179346600, -9000⟩, ⟨-163625400, -12600⟩, ⟨-147897000, -9000⟩,
    ⟨-131571000, -12600⟩, ⟨-116447400, -9000⟩, ⟨-100121400, -12600⟩, ⟨-84393000, -9000⟩,
    ⟨-68671800, -12600⟩, ⟨-52943400, -9000⟩, ⟨-37222200, -12600⟩, ⟨-21493800, -9000⟩,
    ⟨-5772600, -12600⟩, ⟨9955800, -9000⟩, ⟨25677000, -12600⟩, ⟨41405400, -9000⟩, ⟨57731400, -12600⟩,
    ⟨73459800, -9000⟩, ⟨89181000, -12600⟩, ⟨104909400, -9000⟩, ⟨120630600, -12600⟩,
    ⟨136359000, -9000⟩, ⟨152080200, -12600⟩, ⟨167808600, -9000⟩, ⟨183529800, -12600⟩,
    ⟨199258200, -9000⟩, ⟨215584200, -12600⟩, ⟨230707800, -9000⟩, ⟨247033800, -12600⟩,
    ⟨262762200, -9000⟩, ⟨278483400, -12600⟩, ⟨294211800, -9000⟩, ⟨309933000, -12600⟩,
    ⟨325661400, -9000⟩, ⟨341382600, -12600⟩, ⟨357111000, -9000⟩, ⟨372832200, -12600⟩,
    ⟨388560600, -9000⟩, ⟨404886600, -12600⟩, ⟨420010200, -9000⟩, ⟨436336200, -12600⟩,
    ⟨452064600, -9000⟩, ⟨467785800, -12600⟩, ⟨483514200, -9000⟩, ⟨499235400, -12600⟩,
    ⟨514963800, -9000⟩, ⟨530685000, -12600⟩, ⟨544591860, -9000⟩, ⟨562127460, -12600⟩,
    ⟨576041460, -5400⟩, ⟨594178260, -12600⟩, ⟨607491060, -9000⟩, ⟨625631460, -12600⟩,
    ⟨638940660, -9000⟩, ⟨657081060, -12600⟩, ⟨670995060, -9000⟩, ⟨688530660, -12600⟩,
    ⟨702444660, -9000⟩, ⟨719980260, -12600⟩, ⟨733894260, -9000⟩, ⟨752034660, -12600⟩,
    ⟨765343860, -9000⟩, ⟨783484260, -12600⟩, ⟨796793460, -9000⟩, ⟨814933860, -12600⟩,
    ⟨828847860, -9000⟩, ⟨846383460, -12600⟩, ⟨860297460, -9000⟩, ⟨877833060, -12600⟩,
    ⟨891747060, -9000⟩, ⟨909282660, -12600⟩, ⟨923196660, -9000⟩, ⟨941337060, -12600⟩,
    ⟨954646260, -9000⟩, ⟨972786660, -12600⟩, ⟨986095860, -9000⟩, ⟨1004236260, -12600⟩,
    ⟨1018150260, -9000⟩, ⟨1035685860, -12600⟩, ⟨1049599860, -9000⟩, ⟨1067135460, -12600⟩,
    ⟨1081049460, -9000⟩, ⟨1099189860, -12600⟩, ⟨1112499060, -9000⟩, ⟨1130639460, -12600⟩,
    ⟨1143948660, -9000⟩, ⟨1162089060, -12600⟩, ⟨1173583860, -9000⟩, ⟨1194143460, -12600⟩,
    ⟨1205033460, -9000⟩, ⟨1225593060, -12600⟩, ⟨1236483060, -9000⟩, ⟨1257042660, -12600⟩,
    ⟨1268537460, -9000⟩, ⟨1289097060, -12600⟩, ⟨1299987060, -9000⟩, ⟨1320114600, -9000⟩]
  after := ⟨-12600, some ⟨-9000, ⟨.inWeek 3 2 0, 7200⟩, ⟨.inWeek 11 1 0, 7200⟩⟩⟩

/-- Local time of EST. -/
def est : Rules where
  first := -19088
  transitions := [
    ⟨-2524502512, -19176⟩, ⟨-1946918424, -18000⟩]
  after := ⟨-18000, none⟩

/-- Local time of EST5EDT. -/
def est5edt : Rules where
  first := -18000
  transitions := [
    ⟨-1633280400, -14400⟩, ⟨-1615140000, -18000⟩, ⟨-1601830800, -14400⟩, ⟨-1583690400, -18000⟩,
    ⟨-880218000, -14400⟩, ⟨-765396000, -18000⟩, ⟨-84387600, -14400⟩, ⟨-68666400, -18000⟩,
    ⟨-52938000, -14400⟩, ⟨-37216800, -18000⟩, ⟨-21488400, -14400⟩, ⟨-5767200, -18000⟩,
    ⟨9961200, -14400⟩, ⟨25682400, -18000⟩, ⟨41410800, -14400⟩, ⟨57736800, -18000⟩,
    ⟨73465200, -14400⟩, ⟨89186400, -18000⟩, ⟨104914800, -14400⟩, ⟨120636000, -18000⟩,
    ⟨126687600, -14400⟩, ⟨152085600, -18000⟩, ⟨162370800, -14400⟩, ⟨183535200, -18000⟩,
    ⟨199263600, -14400⟩, ⟨215589600, -18000⟩, ⟨230713200, -14400⟩, ⟨247039200, -18000⟩,
    ⟨262767600, -14400⟩, ⟨278488800, -18000⟩, ⟨294217200, -14400⟩, ⟨309938400, -18000⟩,
    ⟨325666800, -14400⟩, ⟨341388000, -18000⟩, ⟨357116400, -14400⟩, ⟨372837600, -18000⟩,
    ⟨388566000, -14400⟩, ⟨404892000, -18000⟩, ⟨420015600, -14400⟩, ⟨436341600, -18000⟩,
    ⟨452070000, -14400⟩, ⟨467791200, -18000⟩, ⟨483519600, -14400⟩, ⟨499240800, -18000⟩,
    ⟨514969200, -14400⟩, ⟨530690400, -18000⟩, ⟨544604400, -14400⟩, ⟨562140000, -18000⟩,
    ⟨576054000, -14400⟩, ⟨594194400, -18000⟩, ⟨607503600, -14400⟩, ⟨625644000, -18000⟩,
    ⟨638953200, -14400⟩, ⟨657093600, -18000⟩, ⟨671007600, -14400⟩, ⟨688543200, -18000⟩,
    ⟨702457200, -14400⟩, ⟨719992800, -18000⟩, ⟨733906800, -14400⟩, ⟨752047200, -18000⟩,
    ⟨765356400, -14400⟩, ⟨783496800, -18000⟩, ⟨796806000, -14400⟩, ⟨814946400, -18000⟩,
    ⟨828860400, -14400⟩, ⟨846396000, -18000⟩, ⟨860310000, -14400⟩, ⟨877845600, -18000⟩,
    ⟨891759600, -14400⟩, ⟨909295200, -18000⟩, ⟨923209200, -14400⟩, ⟨941349600, -18000⟩,
    ⟨954658800, -14400⟩, ⟨972799200, -18000⟩, ⟨986108400, -14400⟩, ⟨1004248800, -18000⟩,
    ⟨1018162800, -14400⟩, ⟨1035698400, -18000⟩, ⟨1049612400, -14400⟩, ⟨1067148000, -18000⟩,
    ⟨1081062000, -14400⟩, ⟨1099202400, -18000⟩, ⟨1112511600, -14400⟩, ⟨1130652000, -18000⟩,
    ⟨1143961200, -14400⟩, ⟨1162101600, -18000⟩, ⟨1173596400, -14400⟩]
  after := ⟨-18000, some ⟨-14400, ⟨.inWeek 3 2 0, 7200⟩, ⟨.inWeek 11 1 0, 7200⟩⟩⟩

/-- Local time of MST7MDT. -/
def mst7mdt : Rules where
  first := -25200
  transitions := [
    ⟨-1633273200, -21600⟩, ⟨-1615132800, -25200⟩, ⟨-1601823600, -21600⟩, ⟨-1583683200, -25200⟩,
    ⟨-880210800, -21600⟩, ⟨-765388800, -25200⟩, ⟨-84380400, -21600⟩, ⟨-68659200, -25200⟩,
    ⟨-52930800, -21600⟩, ⟨-37209600, -25200⟩, ⟨-21481200, -21600⟩, ⟨-5760000, -25200⟩,
    ⟨9968400, -21600⟩, ⟨25689600, -25200⟩, ⟨41418000, -21600⟩, ⟨57744000, -25200⟩,
    ⟨73472400, -21600⟩, ⟨89193600, -25200⟩, ⟨104922000, -21600⟩, ⟨120643200, -25200⟩,
    ⟨126694800, -21600⟩, ⟨152092800, -25200⟩, ⟨162378000, -21600⟩, ⟨183542400, -25200⟩,
    ⟨199270800, -21600⟩, ⟨215596800, -25200⟩, ⟨230720400, -21600⟩, ⟨247046400, -25200⟩,
    ⟨262774800, -21600⟩, ⟨278496000, -25200⟩, ⟨294224400, -21600⟩, ⟨309945600, -25200⟩,
    ⟨325674000, -21600⟩, ⟨341395200, -25200⟩, ⟨357123600, -21600⟩, ⟨372844800, -25200⟩,
    ⟨388573200, -21600⟩, ⟨404899200, -25200⟩, ⟨420022800, -21600⟩, ⟨436348800, -25200⟩,
    ⟨452077200, -21600⟩, ⟨467798400, -25200⟩, ⟨483526800, -21600⟩, ⟨499248000, -25200⟩,
    ⟨514976400, -21600⟩, ⟨530697600, -25200⟩, ⟨544611600, -21600⟩, ⟨562147200, -25200⟩,
    ⟨576061200, -21600⟩, ⟨594201600, -25200⟩, ⟨607510800, -21600⟩, ⟨625651200, -25200⟩,
    ⟨638960400, -21600⟩, ⟨657100800, -25200⟩, ⟨671014800, -21600⟩, ⟨688550400, -25200⟩,
    ⟨702464400, -21600⟩, ⟨720000000, -25200⟩, ⟨733914000, -21600⟩, ⟨752054400, -25200⟩,
    ⟨765363600, -21600⟩, ⟨783504000, -25200⟩, ⟨796813200, -21600⟩, ⟨814953600, -25200⟩,
    ⟨828867600, -21600⟩, ⟨846403200, -25200⟩, ⟨860317200, -21600⟩, ⟨877852800, -25200⟩,
    ⟨891766800, -21600⟩, ⟨909302400, -25200⟩, ⟨923216400, -21600⟩, ⟨941356800, -25200⟩,
    ⟨954666000, -21600⟩, ⟨972806400, -25200⟩, ⟨986115600, -21600⟩, ⟨1004256000, -25200⟩,
    ⟨1018170000, -21600⟩, ⟨1035705600, -25200⟩, ⟨1049619600, -21600⟩, ⟨1067155200, -25200⟩,
    ⟨1081069200, -21600⟩, ⟨1099209600, -25200⟩, ⟨1112518800, -21600⟩, ⟨1130659200, -25200⟩,
    ⟨1143968400, -21600⟩, ⟨1162108800, -25200⟩, ⟨1173603600, -21600⟩]
  after := ⟨-25200, some ⟨-21600, ⟨.inWeek 3 2 0, 7200⟩, ⟨.inWeek 11 1 0, 7200⟩⟩⟩

/-- Local time of PST8PDT. -/
def pst8pdt : Rules where
  first := -28800
  transitions := [
    ⟨-1633269600, -25200⟩, ⟨-1615129200, -28800⟩, ⟨-1601820000, -25200⟩, ⟨-1583679600, -28800⟩,
    ⟨-880207200, -25200⟩, ⟨-765385200, -28800⟩, ⟨-84376800, -25200⟩, ⟨-68655600, -28800⟩,
    ⟨-52927200, -25200⟩, ⟨-37206000, -28800⟩, ⟨-21477600, -25200⟩, ⟨-5756400, -28800⟩,
    ⟨9972000, -25200⟩, ⟨25693200, -28800⟩, ⟨41421600, -25200⟩, ⟨57747600, -28800⟩,
    ⟨73476000, -25200⟩, ⟨89197200, -28800⟩, ⟨104925600, -25200⟩, ⟨120646800, -28800⟩,
    ⟨126698400, -25200⟩, ⟨152096400, -28800⟩, ⟨162381600, -25200⟩, ⟨183546000, -28800⟩,
    ⟨199274400, -25200⟩, ⟨215600400, -28800⟩, ⟨230724000, -25200⟩, ⟨247050000, -28800⟩,
    ⟨262778400, -25200⟩, ⟨278499600, -28800⟩, ⟨294228000, -25200⟩, ⟨309949200, -28800⟩,
    ⟨325677600, -25200⟩, ⟨341398800, -28800⟩, ⟨357127200, -25200⟩, ⟨372848400, -28800⟩,
    ⟨388576800, -25200⟩, ⟨404902800, -28800⟩, ⟨420026400, -25200⟩, ⟨436352400, -28800⟩,
    ⟨452080800, -25200⟩, ⟨467802000, -28800⟩, ⟨483530400, -25200⟩, ⟨499251600, -28800⟩,
    ⟨514980000, -25200⟩, ⟨530701200, -28800⟩, ⟨544615200, -25200⟩, ⟨562150800, -28800⟩,
    ⟨576064800, -25200⟩, ⟨594205200, -28800⟩, ⟨607514400, -25200⟩, ⟨625654800, -28800⟩,
    ⟨638964000, -25200⟩, ⟨657104400, -28800⟩, ⟨671018400, -25200⟩, ⟨688554000, -28800⟩,
    ⟨702468000, -25200⟩, ⟨720003600, -28800⟩, ⟨733917600, -25200⟩, ⟨752058000, -28800⟩,
    ⟨765367200, -25200⟩, ⟨783507600, -28800⟩, ⟨796816800, -25200⟩, ⟨814957200, -28800⟩,
    ⟨828871200, -25200⟩, ⟨846406800, -28800⟩, ⟨860320800, -25200⟩, ⟨877856400, -28800⟩,
    ⟨891770400, -25200⟩, ⟨909306000, -28800⟩, ⟨923220000, -25200⟩, ⟨941360400, -28800⟩,
    ⟨954669600, -25200⟩, ⟨972810000, -28800⟩, ⟨986119200, -25200⟩, ⟨1004259600, -28800⟩,
    ⟨1018173600, -25200⟩, ⟨1035709200, -28800⟩, ⟨1049623200, -25200⟩, ⟨1067158800, -28800⟩,
    ⟨1081072800, -25200⟩, ⟨1099213200, -28800⟩, ⟨1112522400, -25200⟩, ⟨1130662800, -28800⟩,
    ⟨1143972000, -25200⟩, ⟨1162112400, -28800⟩, ⟨1173607200, -25200⟩]
  after := ⟨-28800, some ⟨-25200, ⟨.inWeek 3 2 0, 7200⟩, ⟨.inWeek 11 1 0, 7200⟩⟩⟩

end WallClock.Zone.Tables
