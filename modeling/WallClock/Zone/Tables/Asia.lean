import WallClock.Zone.Rules

/-!
Local time of zones in Asia: seconds since 1970-01-01T00:00:00Z and offsets in seconds east of
Greenwich.
-/

namespace WallClock.Zone.Tables

/-- Local time of Asia/Beirut. -/
def asiaBeirut : Rules where
  first := 8520
  transitions := [
    ⟨-2840149320, 7200⟩, ⟨-1570413600, 10800⟩, ⟨-1552186800, 7200⟩, ⟨-1538359200, 10800⟩,
    ⟨-1522551600, 7200⟩, ⟨-1507514400, 10800⟩, ⟨-1490583600, 7200⟩, ⟨-1473645600, 10800⟩,
    ⟨-1460948400, 7200⟩, ⟨-399866400, 10800⟩, ⟨-386650800, 7200⟩, ⟨-368330400, 10800⟩,
    ⟨-355114800, 7200⟩, ⟨-336794400, 10800⟩, ⟨-323578800, 7200⟩, ⟨-305172000, 10800⟩,
    ⟨-291956400, 7200⟩, ⟨-273636000, 10800⟩, ⟨-260420400, 7200⟩, ⟨78012000, 10800⟩,
    ⟨86734800, 7200⟩, ⟨105055200, 10800⟩, ⟨118270800, 7200⟩, ⟨136591200, 10800⟩, ⟨149806800, 7200⟩,
    ⟨168127200, 10800⟩, ⟨181342800, 7200⟩, ⟨199749600, 10800⟩, ⟨212965200, 7200⟩,
    ⟨231285600, 10800⟩, ⟨244501200, 7200⟩, ⟨262735200, 10800⟩, ⟨275950800, 7200⟩,
    ⟨452210400, 10800⟩, ⟨466722000, 7200⟩, ⟨483746400, 10800⟩, ⟨498258000, 7200⟩,
    ⟨515282400, 10800⟩, ⟨529794000, 7200⟩, ⟨546818400, 10800⟩, ⟨561330000, 7200⟩,
    ⟨581119200, 10800⟩, ⟨592952400, 7200⟩, ⟨610754400, 10800⟩, ⟨624488400, 7200⟩,
    ⟨641512800, 10800⟩, ⟨656024400, 7200⟩, ⟨673048800, 10800⟩, ⟨687560400, 7200⟩,
    ⟨704671200, 10800⟩, ⟨718146000, 7200⟩, ⟨733269600, 10800⟩, ⟨748990800, 7200⟩,
    ⟨764719200, 10800⟩, ⟨780440400, 7200⟩, ⟨796168800, 10800⟩, ⟨811890000, 7200⟩,
    ⟨828223200, 10800⟩, ⟨843944400, 7200⟩, ⟨859672800, 10800⟩, ⟨875394000, 7200⟩,
    ⟨891122400, 10800⟩, ⟨906843600, 7200⟩, ⟨922572000, 10800⟩]
  after := ⟨7200, some ⟨10800, ⟨.inWeek 3 5 0, 0⟩, ⟨.inWeek 10 5 0, 0⟩⟩⟩

/-- Local time of Asia/Gaza. -/
def asiaGaza : Rules where
  first := 8272
  transitions := [
    ⟨-2185409872, 7200⟩, ⟨-933638400, 10800⟩, ⟨-923097600, 7200⟩, ⟨-919036800, 10800⟩,
    ⟨-857347200, 7200⟩, ⟨-844300800, 10800⟩, ⟨-825811200, 7200⟩, ⟨-812678400, 10800⟩,
    ⟨-794188800, 7200⟩, ⟨-779846400, 10800⟩, ⟨-762652800, 7200⟩, ⟨-748310400, 10800⟩,
    ⟨-731116800, 7200⟩, ⟨-399088800, 10800⟩, ⟨-386650800, 7200⟩, ⟨-368330400, 10800⟩,
    ⟨-355114800, 7200⟩, ⟨-336790800, 10800⟩, ⟨-323654400, 7200⟩, ⟨-305168400, 10800⟩,
    ⟨-292032000, 7200⟩, ⟨-273632400, 10800⟩, ⟨-260496000, 7200⟩, ⟨-242096400, 10800⟩,
    ⟨-228960000, 7200⟩, ⟨-210560400, 10800⟩, ⟨-197424000, 7200⟩, ⟨-178938000, 10800⟩,
    ⟨-165801600, 7200⟩, ⟨-147402000, 10800⟩, ⟨-134265600, 7200⟩, ⟨-115866000, 10800⟩,
    ⟨-102643200, 7200⟩, ⟨-84330000, 10800⟩, ⟨-81313200, 7200⟩, ⟨142380000, 10800⟩,
    ⟨150843600, 7200⟩, ⟨167176800, 10800⟩, ⟨178664400, 7200⟩, ⟨334101600, 10800⟩, ⟨337730400, 7200⟩,
    ⟨452642400, 10800⟩, ⟨462319200, 7200⟩, ⟨482277600, 10800⟩, ⟨494370000, 7200⟩,
    ⟨516751200, 10800⟩, ⟨526424400, 7200⟩, ⟨545436000, 10800⟩, ⟨558478800, 7200⟩,
    ⟨576626400, 10800⟩, ⟨589323600, 7200⟩, ⟨609890400, 10800⟩, ⟨620773200, 7200⟩,
    ⟨638316000, 10800⟩, ⟨651618000, 7200⟩, ⟨669765600, 10800⟩, ⟨683672400, 7200⟩,
    ⟨701820000, 10800⟩, ⟨715726800, 7200⟩, ⟨733701600, 10800⟩, ⟨747176400, 7200⟩,
    ⟨765151200, 10800⟩, ⟨778021200, 7200⟩, ⟨796600800, 10800⟩, ⟨810075600, 7200⟩,
    ⟨828655200, 10800⟩, ⟨843170400, 7200⟩, ⟨860104800, 10800⟩, ⟨874620000, 7200⟩,
    ⟨891554400, 10800⟩, ⟨906069600, 7200⟩, ⟨924213600, 10800⟩, ⟨939934800, 7200⟩,
    ⟨956268000, 10800⟩, ⟨971989200, 7200⟩, ⟨987717600, 10800⟩, ⟨1003438800, 7200⟩,
    ⟨1019167200, 10800⟩, ⟨1034888400, 7200⟩, ⟨1050616800, 10800⟩, ⟨1066338000, 7200⟩,
    ⟨1082066400, 10800⟩, ⟨1096581600, 7200⟩, ⟨1113516000, 10800⟩, ⟨1128380400, 7200⟩,
    ⟨1143842400, 10800⟩, ⟨1158872400, 7200⟩, ⟨1175378400, 10800⟩, ⟨1189638000, 7200⟩,
    ⟨1206655200, 10800⟩, ⟨1219957200, 7200⟩, ⟨1238104800, 10800⟩, ⟨1252015200, 7200⟩,
    ⟨1269640860, 10800⟩, ⟨1281474000, 7200⟩, ⟨1301608860, 10800⟩, ⟨1312146000, 7200⟩,
    ⟨1333058400, 10800⟩, ⟨1348178400, 7200⟩, ⟨1364508000, 10800⟩, ⟨1380229200, 7200⟩,
    ⟨1395957600, 10800⟩, ⟨1414098000, 7200⟩, ⟨1427493600, 10800⟩, ⟨1445551200, 7200⟩,
    ⟨1458946800, 10800⟩, ⟨1477692000, 7200⟩, ⟨1490396400, 10800⟩, ⟨1509141600, 7200⟩,
    ⟨1521846000, 10800⟩, ⟨1540591200, 7200⟩, ⟨1553810400, 10800⟩, ⟨1572037200, 7200⟩,
    ⟨1585346400, 10800⟩, ⟨1603490400, 7200⟩, ⟨1616796000, 10800⟩, ⟨1635458400, 7200⟩,
    ⟨1648332000, 10800⟩, ⟨1666998000, 7200⟩, ⟨1682726400, 10800⟩, ⟨1698447600, 7200⟩,
    ⟨1713571200, 10800⟩, ⟨1729897200, 7200⟩, ⟨1744416000, 10800⟩, ⟨1761346800, 7200⟩,
    ⟨1774656000, 10800⟩, ⟨1792796400, 7200⟩, ⟨1806105600, 10800⟩, ⟨1824850800, 7200⟩,
    ⟨1837555200, 10800⟩, ⟨1856300400, 7200⟩, ⟨1869004800, 10800⟩, ⟨1887750000, 7200⟩,
    ⟨1901059200, 10800⟩, ⟨1919199600, 7200⟩, ⟨1932508800, 10800⟩, ⟨1950649200, 7200⟩,
    ⟨1963958400, 10800⟩, ⟨1982703600, 7200⟩, ⟨1995408000, 10800⟩, ⟨2014153200, 7200⟩,
    ⟨2026857600, 10800⟩, ⟨2045602800, 7200⟩, ⟨2058307200, 10800⟩, ⟨2077052400, 7200⟩,
    ⟨2090361600, 10800⟩, ⟨2107897200, 7200⟩, ⟨2121811200, 10800⟩, ⟨2138742000, 7200⟩,
    ⟨2153260800, 10800⟩, ⟨2168982000, 7200⟩, ⟨2184710400, 10800⟩, ⟨2199826800, 7200⟩,
    ⟨2216160000, 10800⟩, ⟨2230066800, 7200⟩, ⟨2234304000, 10800⟩, ⟨2234905200, 7200⟩,
    ⟨2248214400, 10800⟩, ⟨2260911600, 7200⟩, ⟨2264544000, 10800⟩, ⟨2266354800, 7200⟩,
    ⟨2279664000, 10800⟩, ⟨2291756400, 7200⟩, ⟨2295388800, 10800⟩, ⟨2297804400, 7200⟩,
    ⟨2311113600, 10800⟩, ⟨2321996400, 7200⟩, ⟨2326233600, 10800⟩, ⟨2329254000, 7200⟩,
    ⟨2342563200, 10800⟩, ⟨2352841200, 7200⟩, ⟨2356473600, 10800⟩, ⟨2361308400, 7200⟩,
    ⟨2374012800, 10800⟩, ⟨2383686000, 7200⟩, ⟨2387318400, 10800⟩, ⟨2392758000, 7200⟩,
    ⟨2405462400, 10800⟩, ⟨2413926000, 7200⟩, ⟨2418163200, 10800⟩, ⟨2424207600, 7200⟩,
    ⟨2437516800, 10800⟩, ⟨2444770800, 7200⟩, ⟨2448403200, 10800⟩, ⟨2455657200, 7200⟩,
    ⟨2468966400, 10800⟩, ⟨2475010800, 7200⟩, ⟨2479248000, 10800⟩, ⟨2487106800, 7200⟩,
    ⟨2500416000, 10800⟩, ⟨2505855600, 7200⟩, ⟨2509488000, 10800⟩, ⟨2519161200, 7200⟩,
    ⟨2531865600, 10800⟩, ⟨2536700400, 7200⟩, ⟨2540332800, 10800⟩, ⟨2550610800, 7200⟩,
    ⟨2563315200, 10800⟩, ⟨2566940400, 7200⟩, ⟨2571177600, 10800⟩, ⟨2582060400, 7200⟩,
    ⟨2595369600, 10800⟩, ⟨2597785200, 7200⟩, ⟨2601417600, 10800⟩, ⟨2613510000, 7200⟩,
    ⟨2626819200, 10800⟩, ⟨2628025200, 7200⟩, ⟨2632262400, 10800⟩, ⟨2644959600, 7200⟩,
    ⟨2658268800, 10800⟩, ⟨2658870000, 7200⟩, ⟨2663107200, 10800⟩, ⟨2676409200, 7200⟩,
    ⟨2693347200, 10800⟩, ⟨2708463600, 7200⟩, ⟨2724192000, 10800⟩, ⟨2739913200, 7200⟩,
    ⟨2754432000, 10800⟩, ⟨2771362800, 7200⟩, ⟨2785276800, 10800⟩, ⟨2802812400, 7200⟩,
    ⟨2816121600, 10800⟩, ⟨2834262000, 7200⟩, ⟨2847571200, 10800⟩, ⟨2866316400, 7200⟩,
    ⟨2879020800, 10800⟩, ⟨2897766000, 7200⟩, ⟨2910470400, 10800⟩, ⟨2929215600, 7200⟩,
    ⟨2941920000, 10800⟩, ⟨2960665200, 7200⟩, ⟨2973974400, 10800⟩, ⟨2992114800, 7200⟩,
    ⟨3005424000, 10800⟩, ⟨3023564400, 7200⟩, ⟨3036873600, 10800⟩, ⟨3055618800, 7200⟩,
    ⟨3068323200, 10800⟩, ⟨3087068400, 7200⟩, ⟨3099772800, 10800⟩, ⟨3117913200, 7200⟩,
    ⟨3131827200, 10800⟩, ⟨3148758000, 7200⟩, ⟨3163276800, 10800⟩, ⟨3179602800, 7200⟩,
    ⟨3194726400, 10800⟩, ⟨3209842800, 7200⟩, ⟨3226176000, 10800⟩, ⟨3240687600, 7200⟩,
    ⟨3244320000, 10800⟩, ⟨3244921200, 7200⟩, ⟨3257625600, 10800⟩, ⟨3271532400, 7200⟩,
    ⟨3275164800, 10800⟩, ⟨3276370800, 7200⟩, ⟨3289075200, 10800⟩, ⟨3301772400, 7200⟩,
    ⟨3306009600, 10800⟩, ⟨3307820400, 7200⟩, ⟨3321129600, 10800⟩, ⟨3332617200, 7200⟩,
    ⟨3336249600, 10800⟩, ⟨3339270000, 7200⟩, ⟨3352579200, 10800⟩, ⟨3362857200, 7200⟩,
    ⟨3367094400, 10800⟩, ⟨3370719600, 7200⟩, ⟨3384028800, 10800⟩, ⟨3393702000, 7200⟩,
    ⟨3397939200, 10800⟩, ⟨3402774000, 7200⟩, ⟨3415478400, 10800⟩, ⟨3424546800, 7200⟩,
    ⟨3428179200, 10800⟩, ⟨3434223600, 7200⟩, ⟨3446928000, 10800⟩, ⟨3454786800, 7200⟩,
    ⟨3459024000, 10800⟩, ⟨3465673200, 7200⟩, ⟨3478982400, 10800⟩, ⟨3485631600, 7200⟩,
    ⟨3489264000, 10800⟩, ⟨3497122800, 7200⟩, ⟨3510432000, 10800⟩, ⟨3516476400, 7200⟩,
    ⟨3520108800, 10800⟩, ⟨3528572400, 7200⟩, ⟨3541881600, 10800⟩, ⟨3546716400, 7200⟩,
    ⟨3550953600, 10800⟩, ⟨3560022000, 7200⟩, ⟨3573331200, 10800⟩, ⟨3577561200, 7200⟩,
    ⟨3581193600, 10800⟩, ⟨3592076400, 7200⟩, ⟨3604780800, 10800⟩, ⟨3607801200, 7200⟩,
    ⟨3612038400, 10800⟩, ⟨3623526000, 7200⟩, ⟨3636230400, 10800⟩, ⟨3638646000, 7200⟩,
    ⟨3642883200, 10800⟩, ⟨3654975600, 7200⟩, ⟨3668284800, 10800⟩, ⟨3669490800, 7200⟩,
    ⟨3673123200, 10800⟩, ⟨3686425200, 7200⟩]
  after := ⟨7200, some ⟨10800, ⟨.inWeek 3 4 4, 180000⟩, ⟨.inWeek 10 4 4, 180000⟩⟩⟩

/-- Local time of Asia/Ho_Chi_Minh. -/
def asiaHoChiMinh : Rules where
  first := 25590
  transitions := [
    ⟨-1851577590, 25200⟩, ⟨-852105600, 28800⟩, ⟨-782643600, 32400⟩, ⟨-767869200, 25200⟩,
    ⟨-718095600, 28800⟩, ⟨-457772400, 25200⟩, ⟨-315648000, 28800⟩, ⟨171820800, 25200⟩]
  after := ⟨25200, none⟩

/-- Local time of Asia/Jerusalem. -/
def asiaJerusalem : Rules where
  first := 8454
  transitions := [
    ⟨-2840149254, 8440⟩, ⟨-1641003640, 7200⟩, ⟨-933638400, 10800⟩, ⟨-923097600, 7200⟩,
    ⟨-919036800, 10800⟩, ⟨-857347200, 7200⟩, ⟨-844300800, 10800⟩, ⟨-825811200, 7200⟩,
    ⟨-812678400, 10800⟩, ⟨-794188800, 7200⟩, ⟨-779846400, 10800⟩, ⟨-762652800, 7200⟩,
    ⟨-748310400, 10800⟩, ⟨-731116800, 7200⟩, ⟨-681955200, 14400⟩, ⟨-673228800, 10800⟩,
    ⟨-667958400, 7200⟩, ⟨-652320000, 10800⟩, ⟨-636422400, 7200⟩, ⟨-622080000, 10800⟩,
    ⟨-608947200, 7200⟩, ⟨-591840000, 10800⟩, ⟨-572486400, 7200⟩, ⟨-558576000, 10800⟩,
    ⟨-542851200, 7200⟩, ⟨-527731200, 10800⟩, ⟨-514425600, 7200⟩, ⟨-490838400, 10800⟩,
    ⟨-482976000, 7200⟩, ⟨-459388800, 10800⟩, ⟨-451526400, 7200⟩, ⟨-428544000, 10800⟩,
    ⟨-418262400, 7200⟩, ⟨-400118400, 10800⟩, ⟨-387417600, 7200⟩, ⟨142380000, 10800⟩,
    ⟨150843600, 7200⟩, ⟨167176800, 10800⟩, ⟨178664400, 7200⟩, ⟨334101600, 10800⟩, ⟨337730400, 7200⟩,
    ⟨452642400, 10800⟩, ⟨462319200, 7200⟩, ⟨482277600, 10800⟩, ⟨494370000, 7200⟩,
    ⟨516751200, 10800⟩, ⟨526424400, 7200⟩, ⟨545436000, 10800⟩, ⟨558478800, 7200⟩,
    ⟨576626400, 10800⟩, ⟨589323600, 7200⟩, ⟨609890400, 10800⟩, ⟨620773200, 7200⟩,
    ⟨638316000, 10800⟩, ⟨651618000, 7200⟩, ⟨669765600, 10800⟩, ⟨683672400, 7200⟩,
    ⟨701820000, 10800⟩, ⟨715726800, 7200⟩, ⟨733701600, 10800⟩, ⟨747176400, 7200⟩,
    ⟨765151200, 10800⟩, ⟨778021200, 7200⟩, ⟨796600800, 10800⟩, ⟨810075600, 7200⟩,
    ⟨826840800, 10800⟩, ⟨842821200, 7200⟩, ⟨858895200, 10800⟩, ⟨874184400, 7200⟩,
    ⟨890344800, 10800⟩, ⟨905029200, 7200⟩, ⟨923011200, 10800⟩, ⟨936313200, 7200⟩,
    ⟨955670400, 10800⟩, ⟨970783200, 7200⟩, ⟨986770800, 10800⟩, ⟨1001282400, 7200⟩,
    ⟨1017356400, 10800⟩, ⟨1033941600, 7200⟩, ⟨1048806000, 10800⟩, ⟨1065132000, 7200⟩,
    ⟨1081292400, 10800⟩, ⟨1095804000, 7200⟩, ⟨1112313600, 10800⟩, ⟨1128812400, 7200⟩,
    ⟨1143763200, 10800⟩, ⟨1159657200, 7200⟩, ⟨1175212800, 10800⟩, ⟨1189897200, 7200⟩,
    ⟨1206662400, 10800⟩, ⟨1223161200, 7200⟩, ⟨1238112000, 10800⟩, ⟨1254006000, 7200⟩,
    ⟨1269561600, 10800⟩, ⟨1284246000, 7200⟩, ⟨1301616000, 10800⟩, ⟨1317510000, 7200⟩,
    ⟨1333065600, 10800⟩, ⟨1348354800, 7200⟩, ⟨1364515200, 10800⟩]
  after := ⟨7200, some ⟨10800, ⟨.inWeek 3 4 4, 93600⟩, ⟨.inWeek 10 5 0, 7200⟩⟩⟩

/-- Local time of Asia/Karachi. -/
def asiaKarachi : Rules where
  first := 16092
  transitions := [
    ⟨-1988166492, 19800⟩, ⟨-862637400, 23400⟩, ⟨-764145000, 19800⟩, ⟨-576135000, 18000⟩,
    ⟨1018119600, 21600⟩, ⟨1033840800, 18000⟩, ⟨1212260400, 21600⟩, ⟨1225476000, 18000⟩,
    ⟨1239735600, 21600⟩, ⟨1257012000, 18000⟩]
  after := ⟨18000, none⟩

/-- Local time of Asia/Kathmandu. -/
def asiaKathmandu : Rules where
  first := 20476
  transitions := [
    ⟨-1577943676, 19800⟩, ⟨504901800, 20700⟩]
  after := ⟨20700, none⟩

/-- Local time of Asia/Kolkata. -/
def asiaKolkata : Rules where
  first := 21208
  transitions := [
    ⟨-3645237208, 21200⟩, ⟨-3155694800, 19270⟩, ⟨-2019705670, 19800⟩, ⟨-891581400, 23400⟩,
    ⟨-872058600, 19800⟩, ⟨-862637400, 23400⟩, ⟨-764145000, 19800⟩]
  after := ⟨19800, none⟩

/-- Local time of Asia/Manila. -/
def asiaManila : Rules where
  first := -57368
  transitions := [
    ⟨-3944621032, 29032⟩, ⟨-2219083200, 28800⟩, ⟨-1046678400, 32400⟩, ⟨-1040115600, 28800⟩,
    ⟨-885024000, 32400⟩, ⟨-760093200, 28800⟩, ⟨-496224000, 32400⟩, ⟨-491562000, 28800⟩,
    ⟨228326400, 32400⟩, ⟨243702000, 28800⟩, ⟨643219200, 32400⟩, ⟨649177200, 28800⟩]
  after := ⟨28800, none⟩

/-- Local time of Asia/Pyongyang. -/
def asiaPyongyang : Rules where
  first := 30180
  transitions := [
    ⟨-1948782180, 30600⟩, ⟨-1830414600, 32400⟩, ⟨1439564400, 30600⟩, ⟨1525446000, 32400⟩]
  after := ⟨32400, none⟩

/-- Local time of Asia/Shanghai. -/
def asiaShanghai : Rules where
  first := 29143
  transitions := [
    ⟨-2177481943, 28800⟩, ⟨-1600675200, 32400⟩, ⟨-1585904400, 28800⟩, ⟨-933667200, 32400⟩,
    ⟨-922093200, 28800⟩, ⟨-908870400, 32400⟩, ⟨-888829200, 28800⟩, ⟨-881049600, 32400⟩,
    ⟨-767869200, 28800⟩, ⟨-745833600, 32400⟩, ⟨-733827600, 28800⟩, ⟨-716889600, 32400⟩,
    ⟨-699613200, 28800⟩, ⟨-683884800, 32400⟩, ⟨-670669200, 28800⟩, ⟨-652348800, 32400⟩,
    ⟨-650019600, 28800⟩, ⟨515527200, 32400⟩, ⟨527014800, 28800⟩, ⟨545162400, 32400⟩,
    ⟨558464400, 28800⟩, ⟨577216800, 32400⟩, ⟨589914000, 28800⟩, ⟨608666400, 32400⟩,
    ⟨621968400, 28800⟩, ⟨640116000, 32400⟩, ⟨653418000, 28800⟩, ⟨671565600, 32400⟩,
    ⟨684867600, 28800⟩]
  after := ⟨28800, none⟩

/-- Local time of Asia/Singapore. -/
def asiaSingapore : Rules where
  first := 24925
  transitions := [
    ⟨-2038200925, 25200⟩, ⟨-1167634800, 26400⟩, ⟨-894180000, 27000⟩, ⟨-879665400, 32400⟩,
    ⟨-767005200, 27000⟩, ⟨378662400, 28800⟩]
  after := ⟨28800, none⟩

/-- Local time of Asia/Tehran. -/
def asiaTehran : Rules where
  first := 12344
  transitions := [
    ⟨-1090466744, 12600⟩, ⟨227820600, 16200⟩, ⟨246223800, 14400⟩, ⟨259617600, 18000⟩,
    ⟨271108800, 14400⟩, ⟨279576000, 12600⟩, ⟨296512200, 16200⟩, ⟨306531000, 12600⟩,
    ⟨322432200, 16200⟩, ⟨338499000, 12600⟩, ⟨673216200, 16200⟩, ⟨685481400, 12600⟩,
    ⟨701209800, 16200⟩, ⟨717103800, 12600⟩, ⟨732745800, 16200⟩, ⟨748639800, 12600⟩,
    ⟨764281800, 16200⟩, ⟨780175800, 12600⟩, ⟨795817800, 16200⟩, ⟨811711800, 12600⟩,
    ⟨827353800, 16200⟩, ⟨843247800, 12600⟩, ⟨858976200, 16200⟩, ⟨874870200, 12600⟩,
    ⟨890512200, 16200⟩, ⟨906406200, 12600⟩, ⟨922048200, 16200⟩, ⟨937942200, 12600⟩,
    ⟨953584200, 16200⟩, ⟨969478200, 12600⟩, ⟨985206600, 16200⟩, ⟨1001100600, 12600⟩,
    ⟨1016742600, 16200⟩, ⟨1032636600, 12600⟩, ⟨1048278600, 16200⟩, ⟨1064172600, 12600⟩,
    ⟨1079814600, 16200⟩, ⟨1095708600, 12600⟩, ⟨1111437000, 16200⟩, ⟨1127331000, 12600⟩,
    ⟨1206045000, 16200⟩, ⟨1221939000, 12600⟩, ⟨1237667400, 16200⟩, ⟨1253561400, 12600⟩,
    ⟨1269203400, 16200⟩, ⟨1285097400, 12600⟩, ⟨1300739400, 16200⟩, ⟨1316633400, 12600⟩,
    ⟨1332275400, 16200⟩, ⟨1348169400, 12600⟩, ⟨1363897800, 16200⟩, ⟨1379791800, 12600⟩,
    ⟨1395433800, 16200⟩, ⟨1411327800, 12600⟩, ⟨1426969800, 16200⟩, ⟨1442863800, 12600⟩,
    ⟨1458505800, 16200⟩, ⟨1474399800, 12600⟩, ⟨1490128200, 16200⟩, ⟨1506022200, 12600⟩,
    ⟨1521664200, 16200⟩, ⟨1537558200, 12600⟩, ⟨1553200200, 16200⟩, ⟨1569094200, 12600⟩,
    ⟨1584736200, 16200⟩, ⟨1600630200, 12600⟩, ⟨1616358600, 16200⟩, ⟨1632252600, 12600⟩,
    ⟨1647894600, 16200⟩, ⟨1663788600, 12600⟩]
  after := ⟨12600, none⟩

/-- Local time of Asia/Tokyo. -/
def asiaTokyo : Rules where
  first := 33539
  transitions := [
    ⟨-2587712400, 32400⟩, ⟨-683802000, 36000⟩, ⟨-672310800, 32400⟩, ⟨-654771600, 36000⟩,
    ⟨-640861200, 32400⟩, ⟨-620298000, 36000⟩, ⟨-609411600, 32400⟩, ⟨-588848400, 36000⟩,
    ⟨-577962000, 32400⟩]
  after := ⟨32400, none⟩

end WallClock.Zone.Tables
