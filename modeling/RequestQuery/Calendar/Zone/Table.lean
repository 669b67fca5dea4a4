import RequestQuery.Calendar.Zone

/-!
A few time zones: the offset of local time from UTC in seconds at the start of 1969, and every
change of it up to the end of 2037 with the second of the epoch at which it came into force.
-/
namespace RequestQuery.Calendar

namespace Zone

def gmt : Zone :=
  ⟨"GMT", 0, []⟩

def est : Zone :=
  ⟨"EST", -18000, []⟩

def auckland : Zone :=
  ⟨"Pacific/Auckland", 43200,
    [(152632800, 46800), (162309600, 43200), (183477600, 46800), (194968800, 43200),
      (215532000, 46800), (226418400, 43200), (246981600, 46800), (257868000, 43200),
      (278431200, 46800), (289317600, 43200), (309880800, 46800), (320767200, 43200),
      (341330400, 46800), (352216800, 43200), (372780000, 46800), (384271200, 43200),
      (404834400, 46800), (415720800, 43200), (436284000, 46800), (447170400, 43200),
      (467733600, 46800), (478620000, 43200), (499183200, 46800), (510069600, 43200),
      (530632800, 46800), (541519200, 43200), (562082400, 46800), (573573600, 43200),
      (594136800, 46800), (605023200, 43200), (623772000, 46800), (637682400, 43200),
      (655221600, 46800), (669132000, 43200), (686671200, 46800), (700581600, 43200),
      (718120800, 46800), (732636000, 43200), (749570400, 46800), (764085600, 43200),
      (781020000, 46800), (795535200, 43200), (812469600, 46800), (826984800, 43200),
      (844524000, 46800), (858434400, 43200), (875973600, 46800), (889884000, 43200),
      (907423200, 46800), (921938400, 43200), (938872800, 46800), (953388000, 43200),
      (970322400, 46800), (984837600, 43200), (1002376800, 46800), (1016287200, 43200),
      (1033826400, 46800), (1047736800, 43200), (1065276000, 46800), (1079791200, 43200),
      (1096725600, 46800), (1111240800, 43200), (1128175200, 46800), (1142690400, 43200),
      (1159624800, 46800), (1174140000, 43200), (1191074400, 46800), (1207404000, 43200),
      (1222524000, 46800), (1238853600, 43200), (1253973600, 46800), (1270303200, 43200),
      (1285423200, 46800), (1301752800, 43200), (1316872800, 46800), (1333202400, 43200),
      (1348927200, 46800), (1365256800, 43200), (1380376800, 46800), (1396706400, 43200),
      (1411826400, 46800), (1428156000, 43200), (1443276000, 46800), (1459605600, 43200),
      (1474725600, 46800), (1491055200, 43200), (1506175200, 46800), (1522504800, 43200),
      (1538229600, 46800), (1554559200, 43200), (1569679200, 46800), (1586008800, 43200),
      (1601128800, 46800), (1617458400, 43200), (1632578400, 46800), (1648908000, 43200),
      (1664028000, 46800), (1680357600, 43200), (1695477600, 46800), (1712412000, 43200),
      (1727532000, 46800), (1743861600, 43200), (1758981600, 46800), (1775311200, 43200),
      (1790431200, 46800), (1806760800, 43200), (1821880800, 46800), (1838210400, 43200),
      (1853330400, 46800), (1869660000, 43200), (1885384800, 46800), (1901714400, 43200),
      (1916834400, 46800), (1933164000, 43200), (1948284000, 46800), (1964613600, 43200),
      (1979733600, 46800), (1996063200, 43200), (2011183200, 46800), (2027512800, 43200),
      (2042632800, 46800), (2058962400, 43200), (2074687200, 46800), (2091016800, 43200),
      (2106136800, 46800), (2122466400, 43200), (2137586400, 46800)]⟩

def newYork : Zone :=
  ⟨"America/New_York", -18000,
    [(-21488400, -14400), (-5767200, -18000), (9961200, -14400), (25682400, -18000),
      (41410800, -14400), (57736800, -18000), (73465200, -14400), (89186400, -18000),
      (104914800, -14400), (120636000, -18000), (126687600, -14400), (152085600, -18000),
      (162370800, -14400), (183535200, -18000), (199263600, -14400), (215589600, -18000),
      (230713200, -14400), (247039200, -18000), (262767600, -14400), (278488800, -18000),
      (294217200, -14400), (309938400, -18000), (325666800, -14400), (341388000, -18000),
      (357116400, -14400), (372837600, -18000), (388566000, -14400), (404892000, -18000),
      (420015600, -14400), (436341600, -18000), (452070000, -14400), (467791200, -18000),
      (483519600, -14400), (499240800, -18000), (514969200, -14400), (530690400, -18000),
      (544604400, -14400), (562140000, -18000), (576054000, -14400), (594194400, -18000),
      (607503600, -14400), (625644000, -18000), (638953200, -14400), (657093600, -18000),
      (671007600, -14400), (688543200, -18000), (702457200, -14400), (719992800, -18000),
      (733906800, -14400), (752047200, -18000), (765356400, -14400), (783496800, -18000),
      (796806000, -14400), (814946400, -18000), (828860400, -14400), (846396000, -18000),
      (860310000, -14400), (877845600, -18000), (891759600, -14400), (909295200, -18000),
      (923209200, -14400), (941349600, -18000), (954658800, -14400), (972799200, -18000),
      (986108400, -14400), (1004248800, -18000), (1018162800, -14400), (1035698400, -18000),
      (1049612400, -14400), (1067148000, -18000), (1081062000, -14400), (1099202400, -18000),
      (1112511600, -14400), (1130652000, -18000), (1143961200, -14400), (1162101600, -18000),
      (1173596400, -14400), (1194156000, -18000), (1205046000, -14400), (1225605600, -18000),
      (1236495600, -14400), (1257055200, -18000), (1268550000, -14400), (1289109600, -18000),
      (1299999600, -14400), (1320559200, -18000), (1331449200, -14400), (1352008800, -18000),
      (1362898800, -14400), (1383458400, -18000), (1394348400, -14400), (1414908000, -18000),
      (1425798000, -14400), (1446357600, -18000), (1457852400, -14400), (1478412000, -18000),
      (1489302000, -14400), (1509861600, -18000), (1520751600, -14400), (1541311200, -18000),
      (1552201200, -14400), (1572760800, -18000), (1583650800, -14400), (1604210400, -18000),
      (1615705200, -14400), (1636264800, -18000), (1647154800, -14400), (1667714400, -18000),
      (1678604400, -14400), (1699164000, -18000), (1710054000, -14400), (1730613600, -18000),
      (1741503600, -14400), (1762063200, -18000), (1772953200, -14400), (1793512800, -18000),
      (1805007600, -14400), (1825567200, -18000), (1836457200, -14400), (1857016800, -18000),
      (1867906800, -14400), (1888466400, -18000), (1899356400, -14400), (1919916000, -18000),
      (1930806000, -14400), (1951365600, -18000), (1962860400, -14400), (1983420000, -18000),
      (1994310000, -14400), (2014869600, -18000), (2025759600, -14400), (2046319200, -18000),
      (2057209200, -14400), (2077768800, -18000), (2088658800, -14400), (2109218400, -18000),
      (2120108400, -14400), (2140668000, -18000)]⟩

def berlin : Zone :=
  ⟨"Europe/Berlin", 3600,
    [(323830800, 7200), (338950800, 3600), (354675600, 7200), (370400400, 3600),
      (386125200, 7200), (401850000, 3600), (417574800, 7200), (433299600, 3600),
      (449024400, 7200), (465354000, 3600), (481078800, 7200), (496803600, 3600),
      (512528400, 7200), (528253200, 3600), (543978000, 7200), (559702800, 3600),
      (575427600, 7200), (591152400, 3600), (606877200, 7200), (622602000, 3600),
      (638326800, 7200), (654656400, 3600), (670381200, 7200), (686106000, 3600),
      (701830800, 7200), (717555600, 3600), (733280400, 7200), (749005200, 3600),
      (764730000, 7200), (780454800, 3600), (796179600, 7200), (811904400, 3600),
      (828234000, 7200), (846378000, 3600), (859683600, 7200), (877827600, 3600),
      (891133200, 7200), (909277200, 3600), (922582800, 7200), (941331600, 3600),
      (954032400, 7200), (972781200, 3600), (985482000, 7200), (1004230800, 3600),
      (1017536400, 7200), (1035680400, 3600), (1048986000, 7200), (1067130000, 3600),
      (1080435600, 7200), (1099184400, 3600), (1111885200, 7200), (1130634000, 3600),
      (1143334800, 7200), (1162083600, 3600), (1174784400, 7200), (1193533200, 3600),
      (1206838800, 7200), (1224982800, 3600), (1238288400, 7200), (1256432400, 3600),
      (1269738000, 7200), (1288486800, 3600), (1301187600, 7200), (1319936400, 3600),
      (1332637200, 7200), (1351386000, 3600), (1364691600, 7200), (1382835600, 3600),
      (1396141200, 7200), (1414285200, 3600), (1427590800, 7200), (1445734800, 3600),
      (1459040400, 7200), (1477789200, 3600), (1490490000, 7200), (1509238800, 3600),
      (1521939600, 7200), (1540688400, 3600), (1553994000, 7200), (1572138000, 3600),
      (1585443600, 7200), (1603587600, 3600), (1616893200, 7200), (1635642000, 3600),
      (1648342800, 7200), (1667091600, 3600), (1679792400, 7200), (1698541200, 3600),
      (1711846800, 7200), (1729990800, 3600), (1743296400, 7200), (1761440400, 3600),
      (1774746000, 7200), (1792890000, 3600), (1806195600, 7200), (1824944400, 3600),
      (1837645200, 7200), (1856394000, 3600), (1869094800, 7200), (1887843600, 3600),
      (1901149200, 7200), (1919293200, 3600), (1932598800, 7200), (1950742800, 3600),
      (1964048400, 7200), (1982797200, 3600), (1995498000, 7200), (2014246800, 3600),
      (2026947600, 7200), (2045696400, 3600), (2058397200, 7200), (2077146000, 3600),
      (2090451600, 7200), (2108595600, 3600), (2121901200, 7200), (2140045200, 3600)]⟩

def kolkata : Zone :=
  ⟨"Asia/Kolkata", 19800, []⟩

def kathmandu : Zone :=
  ⟨"Asia/Kathmandu", 19800,
    [(504901800, 20700)]⟩

def twelveWest : Zone :=
  ⟨"Etc/GMT+12", -43200, []⟩

def kiritimati : Zone :=
  ⟨"Pacific/Kiritimati", -38400,
    [(307622400, -36000), (788868000, 50400)]⟩

def stJohns : Zone :=
  ⟨"America/St_Johns", -12600,
    [(-21493800, -9000), (-5772600, -12600), (9955800, -9000), (25677000, -12600),
      (41405400, -9000), (57731400, -12600), (73459800, -9000), (89181000, -12600),
      (104909400, -9000), (120630600, -12600), (136359000, -9000), (152080200, -12600),
      (167808600, -9000), (183529800, -12600), (199258200, -9000), (215584200, -12600),
      (230707800, -9000), (247033800, -12600), (262762200, -9000), (278483400, -12600),
      (294211800, -9000), (309933000, -12600), (325661400, -9000), (341382600, -12600),
      (357111000, -9000), (372832200, -12600), (388560600, -9000), (404886600, -12600),
      (420010200, -9000), (436336200, -12600), (452064600, -9000), (467785800, -12600),
      (483514200, -9000), (499235400, -12600), (514963800, -9000), (530685000, -12600),
      (544591860, -9000), (562127460, -12600), (576041460, -5400), (594178260, -12600),
      (607491060, -9000), (625631460, -12600), (638940660, -9000), (657081060, -12600),
      (670995060, -9000), (688530660, -12600), (702444660, -9000), (719980260, -12600),
      (733894260, -9000), (752034660, -12600), (765343860, -9000), (783484260, -12600),
      (796793460, -9000), (814933860, -12600), (828847860, -9000), (846383460, -12600),
      (860297460, -9000), (877833060, -12600), (891747060, -9000), (909282660, -12600),
      (923196660, -9000), (941337060, -12600), (954646260, -9000), (972786660, -12600),
      (986095860, -9000), (1004236260, -12600), (1018150260, -9000), (1035685860, -12600),
      (1049599860, -9000), (1067135460, -12600), (1081049460, -9000), (1099189860, -12600),
      (1112499060, -9000), (1130639460, -12600), (1143948660, -9000), (1162089060, -12600),
      (1173583860, -9000), (1194143460, -12600), (1205033460, -9000), (1225593060, -12600),
      (1236483060, -9000), (1257042660, -12600), (1268537460, -9000), (1289097060, -12600),
      (1299987060, -9000), (1320553800, -12600), (1331443800, -9000), (1352003400, -12600),
      (1362893400, -9000), (1383453000, -12600), (1394343000, -9000), (1414902600, -12600),
      (1425792600, -9000), (1446352200, -12600), (1457847000, -9000), (1478406600, -12600),
      (1489296600, -9000), (1509856200, -12600), (1520746200, -9000), (1541305800, -12600),
      (1552195800, -9000), (1572755400, -12600), (1583645400, -9000), (1604205000, -12600),
      (1615699800, -9000), (1636259400, -12600), (1647149400, -9000), (1667709000, -12600),
      (1678599000, -9000), (1699158600, -12600), (1710048600, -9000), (1730608200, -12600),
      (1741498200, -9000), (1762057800, -12600), (1772947800, -9000), (1793507400, -12600),
      (1805002200, -9000), (1825561800, -12600), (1836451800, -9000), (1857011400, -12600),
      (1867901400, -9000), (1888461000, -12600), (1899351000, -9000), (1919910600, -12600),
      (1930800600, -9000), (1951360200, -12600), (1962855000, -9000), (1983414600, -12600),
      (1994304600, -9000), (2014864200, -12600), (2025754200, -9000), (2046313800, -12600),
      (2057203800, -9000), (2077763400, -12600), (2088653400, -9000), (2109213000, -12600),
      (2120103000, -9000), (2140662600, -12600)]⟩

def tokyo : Zone :=
  ⟨"Asia/Tokyo", 32400, []⟩

def all : List Zone :=
  [utc, gmt, est, auckland, newYork, berlin, kolkata, kathmandu, twelveWest, kiritimati, stJohns,
    tokyo]

end Zone

/-- The zones that the program runs with. -/
instance : ZoneDatabase where
  find? name := Zone.all.find? (·.name == name)

end RequestQuery.Calendar
