/-!
# Script data

The code points in runs of one script.  An entry is `256 * first + script`, where `first` begins the run and the run
ends before the next entry; `script` counts the names, and 255 stands for none.  The entries are increasing and stand
in blocks.
-/

namespace Reroute.Text

/-- The scripts by their names in loose spelling, the usual one first. -/
def scriptNames : List (List String) := [
  ["adlam", "adlm"], ["ahom"], ["anatolianhieroglyphs", "hluw"], ["arabic", "arab"], ["armenian", "armn"],
  ["avestan", "avst"], ["balinese", "bali"], ["bamum", "bamu"], ["bassavah", "bass"], ["batak", "batk"],
  ["bengali", "beng"], ["bhaiksuki", "bhks"], ["bopomofo", "bopo"], ["brahmi", "brah"], ["braille", "brai"],
  ["buginese", "bugi"], ["buhid", "buhd"], ["canadianaboriginal", "cans"], ["carian", "cari"],
  ["caucasianalbanian", "aghb"], ["chakma", "cakm"], ["cham"], ["cherokee", "cher"], ["chorasmian", "chrs"],
  ["common", "zyyy"], ["coptic", "copt", "qaac"], ["cuneiform", "xsux"], ["cypriot", "cprt"],
  ["cyprominoan", "cpmn"], ["cyrillic", "cyrl"], ["deseret", "dsrt"], ["devanagari", "deva"],
  ["divesakuru", "diak"], ["dogra", "dogr"], ["duployan", "dupl"], ["egyptianhieroglyphs", "egyp"],
  ["elbasan", "elba"], ["elymaic", "elym"], ["ethiopic", "ethi"], ["garay", "gara"], ["georgian", "geor"],
  ["glagolitic", "glag"], ["gothic", "goth"], ["grantha", "gran"], ["greek", "grek"], ["gujarati", "gujr"],
  ["gunjalagondi", "gong"], ["gurmukhi", "guru"], ["gurungkhema", "gukh"], ["han", "hani"],
  ["hangul", "hang"], ["hanifirohingya", "rohg"], ["hanunoo", "hano"], ["hatran", "hatr"],
  ["hebrew", "hebr"], ["hiragana", "hira"], ["imperialaramaic", "armi"], ["inherited", "zinh", "qaai"],
  ["inscriptionalpahlavi", "phli"], ["inscriptionalparthian", "prti"], ["javanese", "java"],
  ["kaithi", "kthi"], ["kannada", "knda"], ["katakana", "kana"], ["kawi"], ["kayahli", "kali"],
  ["kharoshthi", "khar"], ["khitansmallscript", "kits"], ["khmer", "khmr"], ["khojki", "khoj"],
  ["khudawadi", "sind"], ["kiratrai", "krai"], ["lao", "laoo"], ["latin", "latn"], ["lepcha", "lepc"],
  ["limbu", "limb"], ["lineara", "lina"], ["linearb", "linb"], ["lisu"], ["lycian", "lyci"],
  ["lydian", "lydi"], ["mahajani", "mahj"], ["makasar", "maka"], ["malayalam", "mlym"], ["mandaic", "mand"],
  ["manichaean", "mani"], ["marchen", "marc"], ["masaramgondi", "gonm"], ["medefaidrin", "medf"],
  ["meeteimayek", "mtei"], ["mendekikakui", "mend"], ["meroiticcursive", "merc"],
  ["meroitichieroglyphs", "mero"], ["miao", "plrd"], ["modi"], ["mongolian", "mong"], ["mro", "mroo"],
  ["multani", "mult"], ["myanmar", "mymr"], ["nabataean", "nbat"], ["nagmundari", "nagm"],
  ["nandinagari", "nand"], ["newtailue", "talu"], ["newa"], ["nko", "nkoo"], ["nushu", "nshu"],
  ["nyiakengpuachuehmong", "hmnp"], ["ogham", "ogam"], ["olchiki", "olck"], ["olonal", "onao"],
  ["oldhungarian", "hung"], ["olditalic", "ital"], ["oldnortharabian", "narb"], ["oldpermic", "perm"],
  ["oldpersian", "xpeo"], ["oldsogdian", "sogo"], ["oldsoutharabian", "sarb"], ["oldturkic", "orkh"],
  ["olduyghur", "ougr"], ["oriya", "orya"], ["osage", "osge"], ["osmanya", "osma"], ["pahawhhmong", "hmng"],
  ["palmyrene", "palm"], ["paucinhau", "pauc"], ["phagspa", "phag"], ["phoenician", "phnx"],
  ["psalterpahlavi", "phlp"], ["rejang", "rjng"], ["runic", "runr"], ["samaritan", "samr"],
  ["saurashtra", "saur"], ["sharada", "shrd"], ["shavian", "shaw"], ["siddham", "sidd"],
  ["signwriting", "sgnw"], ["sinhala", "sinh"], ["sogdian", "sogd"], ["sorasompeng", "sora"],
  ["soyombo", "soyo"], ["sundanese", "sund"], ["sunuwar", "sunu"], ["sylotinagri", "sylo"],
  ["syriac", "syrc"], ["tagalog", "tglg"], ["tagbanwa", "tagb"], ["taile", "tale"], ["taitham", "lana"],
  ["taiviet", "tavt"], ["takri", "takr"], ["tamil", "taml"], ["tangsa", "tnsa"], ["tangut", "tang"],
  ["telugu", "telu"], ["thaana", "thaa"], ["thai"], ["tibetan", "tibt"], ["tifinagh", "tfng"],
  ["tirhuta", "tirh"], ["todhri", "todr"], ["toto"], ["tulutigalari", "tutg"], ["ugaritic", "ugar"],
  ["vai", "vaii"], ["vithkuqi", "vith"], ["wancho", "wcho"], ["warangciti", "wara"], ["yezidi", "yezi"],
  ["yi", "yiii"], ["zanabazarsquare", "zanb"]]

private def scriptBlock0 : List Nat := [
  24, 16713, 23320, 24905, 31512, 43593, 43800, 47689, 47896, 49225, 55064, 55369, 63256, 63561, 178456,
  188489, 189720, 190988, 191512, 196665, 225324, 226328, 226604, 227583, 227884, 228888, 229164, 229631,
  230444, 230680, 230956, 231192, 231468, 232447, 232492, 232959, 233004, 238335, 238380, 254489, 258092,
  262173, 296249, 296733, 340223, 340228, 350207, 350468, 363519, 363780, 364799, 364854, 379135, 380982,
  388095, 388918, 390655, 393219, 394520, 394755, 396312, 396547, 400152, 400387, 401176, 401411, 409624,
  409859, 412473, 415235, 421945, 422147, 449816, 450051, 458895, 462591, 462735, 478207, 478607, 479235,
  491674, 504575, 508008, 523263, 523624, 524418, 536319, 536706, 540671, 540756, 548095, 548436, 548863,
  549007, 551935, 552963, 561151, 561155, 561919, 562947, 582168, 582403, 589855, 610617, 611615, 615448,
  615967, 622602, 623871, 623882, 626175, 626442, 627199, 627466, 633343, 633354, 635391, 635402, 635903,
  636426, 637695, 637962, 640511, 640778, 641535, 641802, 643071, 644874, 645375, 646154, 646911, 646922,
  648447, 648714, 655359, 655663, 656639, 656687, 658431, 659247, 659967, 660271, 666111, 666159, 668159,
  668207, 668927, 668975, 669695, 669743, 670463, 670767, 671231, 671279, 672767, 673583, 674303, 674607,
  675583, 676143, 676607, 678191, 679423, 679471, 679935, 681519, 686079, 688429, 689407, 689453, 691967,
  692013, 692991, 693037, 698879, 698925, 700927, 700973, 701695, 701741, 703231, 703533, 706303, 706349,
  707327, 707373, 708351, 708653, 709119, 712749, 713983, 714285, 717567, 719149, 721151, 721271, 722175,
  722295, 724479, 724855, 725503, 725879, 731647, 731767, 733695, 733815, 734463, 734583, 735999, 736375,
  738815, 739191, 739839, 740215, 741119, 742775, 743679, 744567, 745215, 745335, 746751, 747127, 751871,
  754326, 754943, 755094, 756735, 757398, 758271, 758422, 759551, 760214, 760831, 760982, 761343, 761494,
  762111, 762774, 763391, 764054, 764927, 765590, 768767, 769686, 771071, 771734, 772607, 772758, 773887,
  774294, 774655, 776086, 776447, 779926, 785407, 786585]

private def scriptBlock1 : List Nat := [
  790015, 790169, 791039, 791193, 797183, 797337, 801535, 801945, 804351, 804505, 805375, 805529, 806655,
  808345, 808959, 809113, 809983, 810393, 810751, 811161, 812287, 812697, 815359, 817049, 819262, 822783,
  822846, 823807, 823870, 829951, 830014, 832767, 832830, 834303, 834622, 837119, 837182, 838143, 838206,
  839423, 841022, 841727, 843070, 843775, 843838, 845055, 845374, 848127, 848190, 849151, 852051, 855551,
  855635, 856575, 856659, 869887, 869971, 870911, 870995, 872703, 873555, 877823, 878163, 884991, 885128,
  886015, 886152, 890879, 891528, 897791, 897928, 900351, 900488, 900863, 901256, 903167, 903816, 904191,
  905096, 906751, 906888, 907263, 907400, 909567, 910984, 913663, 914056, 914943, 917915, 932863, 933656,
  934043, 941311, 950600, 951295, 951368, 951807, 951880, 953343, 953416, 959743, 959816, 960255, 960328,
  966399, 966728, 968191, 968264, 968703, 968776, 970751, 970824, 973567, 973896, 975103, 983196, 1001727,
  1001884, 1011199, 1012124, 1022207, 1022364, 1031679, 1031836, 1035775, 1035932, 1037592, 1038748, 1039359,
  1048674, 1089576, 1099519, 1099560, 1100031, 1101096, 1101567, 1101864, 1112856, 1113128, 1114162, 1179686,
  1198591, 1198630, 1199871, 1200166, 1202175, 1202214, 1202687, 1202726, 1203967, 1204262, 1214975, 1215014,
  1216255, 1216550, 1225215, 1225254, 1226495, 1226790, 1228799, 1228838, 1229311, 1229350, 1230591, 1230886,
  1234943, 1234982, 1249791, 1249830, 1251071, 1251366, 1268735, 1269030, 1277439, 1277990, 1284863, 1286166,
  1308415, 1308694, 1310463, 1310737, 1474667, 1482239, 1482881, 1501976, 1502849, 1505791, 1507472, 1513215,
  1515408, 1515572, 1520920, 1521663, 1523728, 1529087, 1532049, 1535487, 1535633, 1536511, 1536657, 1537279,
  1540164, 1564415, 1564740, 1567487, 1568836, 1571583, 1572959, 1573400, 1573983, 1574168, 1574495, 1579775,
  1581151, 1604095, 1605727, 1616895, 1617937, 1636095, 1638475, 1646591, 1646667, 1649919, 1650763, 1654015,
  1654859, 1655295, 1655883, 1659026, 1666815, 1667218, 1668607, 1671270, 1682687, 1683558, 1690367, 1691750,
  1694719, 1695334, 1695812, 1703951, 1711359, 1711631, 1712275, 1728511, 1728659, 1736191, 1736595, 1739519,
  1740947, 1743615, 1745043, 1748735, 1749049, 1757183, 1769478]

private def scriptBlock2 : List Nat := [
  1789439, 1789446, 1802380, 1818633, 1832191, 1833993, 1835082, 1849599, 1850186, 1854207, 1854794, 1855596,
  1867805, 1870847, 1871912, 1883135, 1883432, 1884300, 1886463, 1888313, 1889048, 1889337, 1892632, 1892921,
  1894680, 1895737, 1895960, 1897529, 1897752, 1898553, 1899032, 1899519, 1900617, 1910316, 1911581, 1911881,
  1924396, 1925705, 1926700, 1928009, 1931293, 1931593, 1949484, 1949753, 1966153, 2031660, 2037503, 2037804,
  2039551, 2039852, 2049791, 2050092, 2051839, 2052140, 2054399, 2054444, 2054911, 2054956, 2055423, 2055468,
  2055935, 2055980, 2064127, 2064428, 2078207, 2078252, 2082303, 2082348, 2086143, 2086444, 2088191, 2088236,
  2093311, 2093612, 2094591, 2094636, 2097151, 2097176, 2100281, 2100760, 2123263, 2123288, 2126153, 2126591,
  2126872, 2129737, 2129944, 2134015, 2134089, 2137599, 2138136, 2146815, 2150457, 2159103, 2162712, 2172460,
  2172696, 2173513, 2173976, 2175561, 2175768, 2182729, 2182936, 2187337, 2197784, 2198783, 2199576, 2370303,
  2375704, 2378751, 2383896, 2621454, 2687000, 2847999, 2848280, 2856703, 2856728, 2883625, 2908233, 2916377,
  2946303, 2947353, 2949160, 2959103, 2959144, 2959615, 2960680, 2961151, 2961565, 2975999, 2977693, 2978303,
  2981789, 2981926, 2988031, 2990118, 2992127, 2992166, 2994175, 2994214, 2996223, 2996262, 2998271, 2998310,
  3000319, 3000358, 3002367, 3002406, 3004415, 3004454, 3006463, 3006493, 3014680, 3038975, 3047473, 3054335,
  3054385, 3077375, 3080241, 3135231, 3141656, 3147057, 3147288, 3147569, 3147800, 3154225, 3156537, 3157554,
  3158040, 3160113, 3161112, 3162367, 3162423, 3184639, 3184953, 3185432, 3185975, 3186712, 3187007, 3210008,
  3210559, 3211519, 3212556, 3223807, 3223858, 3248127, 3248152, 3252236, 3260440, 3270399, 3272472, 3272767,
  3276850, 3284991, 3285016, 3301426, 3309336, 3330111, 3342104, 3342399, 3364888, 3407921, 5095448, 5111857,
  10485928, 10784255, 10784936, 10799103, 10801230, 10813603, 10890495, 10895389, 10919943, 10942719,
  10944536, 10953289, 10979352, 10980169, 10997503, 10997833, 10998527, 10998601, 10999039, 10999113,
  11001343, 11006537, 11010190, 11021823, 11022360, 11025151, 11026557, 11041023, 11042947, 11060991,
  11062915, 11066111, 11067423, 11075649, 11087384, 11087681, 11088000, 11097343, 11100032, 11100210,
  11107839, 11108412, 11128575, 11128600, 11128892, 11131647, 11132476, 11133026, 11141119, 11141141,
  11155455, 11157525]

private def scriptBlock3 : List Nat := [
  11161343, 11161621, 11164415, 11164693, 11165794, 11174036, 11191295, 11197332, 11198553, 11204607,
  11206950, 11208703, 11208998, 11210751, 11211046, 11212799, 11214886, 11216895, 11216934, 11218943,
  11219017, 11229976, 11230281, 11232556, 11232841, 11233816, 11234559, 11235350, 11255897, 11267839,
  11268185, 11270911, 11272242, 14132479, 14135346, 14141439, 14142258, 14155007, 16318513, 16412415,
  16412721, 16440063, 16449609, 16451583, 16454404, 16455935, 16457014, 16463871, 16463926, 16465407,
  16465462, 16465919, 16465974, 16466687, 16466742, 16467455, 16467510, 16470019, 16499711, 16503555,
  16596504, 16596995, 16617727, 16617987, 16632063, 16633603, 16634111, 16642051, 16646201, 16650264,
  16653055, 16654393, 16657949, 16658456, 16667647, 16667672, 16672767, 16672792, 16674047, 16674819,
  16676351, 16676355, 16711167, 16711448, 16711935, 16711960, 16720201, 16726808, 16728393, 16735000,
  16737855, 16740376, 16740671, 16752152, 16752690, 16760831, 16761394, 16763135, 16763442, 16765183,
  16765490, 16767231, 16767538, 16768511, 16769048, 16771071, 16771096, 16773119, 16775448, 16776959,
  16777293, 16780543, 16780621, 16787455, 16787533, 16792575, 16792653, 16793343, 16793421, 16797439,
  16797773, 16801535, 16810061, 16841727, 16842776, 16843775, 16844568, 16856319, 16856856, 16859180,
  16879615, 16879640, 16883199, 16883756, 16884223, 16896024, 16907577, 16908031, 16941135, 16948735,
  16949266, 16962047, 16965689, 16965912, 16973055, 16973935, 16983295, 16985455, 16986154, 16993279,
  16994417, 17005567, 17006754, 17014527, 17014690, 17014898, 17024255, 17025138, 17028863, 17039390,
  17059973, 17072249, 17080063, 17080441, 17083135, 17084536, 17093887, 17094776, 17104127, 17104932,
  17115391, 17117203, 17130751, 17133331, 17133732, 17136639, 17136804, 17140735, 17140900, 17142783,
  17142948, 17143551, 17143716, 17146623, 17146788, 17150719, 17150884, 17152767, 17152932, 17153535,
  17154207, 17167615, 17170508, 17250303, 17252428, 17258239, 17260620, 17262847, 17268809, 17270527,
  17270601, 17281535, 17281609, 17284095, 17301531, 17303295, 17303579, 17304063, 17304091, 17315583,
  17315611, 17316351, 17316891, 17317375, 17317659, 17317944, 17323775, 17323832, 17326203, 17334371,
  17342463, 17344355, 17346815, 17358901, 17363967, 17364021, 17364735, 17365813, 17367166, 17374463,
  17375102, 17375312, 17382143, 17383248, 17383679, 17399900, 17408091, 17414399, 17415259, 17420543,
  17420891, 17432642, 17433855, 17433922, 17434623, 17435714, 17437951, 17438018, 17438975, 17439042,
  17446655, 17446978, 17447935, 17448770, 17451519, 17453122]

private def scriptBlock4 : List Nat := [
  17455615, 17457268, 17465456, 17473791, 17481813, 17491967, 17492821, 17496063, 17498117, 17512191,
  17512709, 17514555, 17520383, 17520699, 17522746, 17527807, 17528890, 17531007, 17535743, 17537407,
  17538559, 17541503, 17543423, 17563765, 17582591, 17596526, 17609727, 17612910, 17626111, 17627758,
  17629235, 17639679, 17641523, 17644287, 17645607, 17655551, 17656103, 17663743, 17665575, 17666303,
  17719299, 17727487, 17727655, 17738495, 17738663, 17739519, 17739943, 17740543, 17744387, 17745407,
  17759235, 17760371, 17770751, 17772681, 17783551, 17789046, 17795839, 17805335, 17812735, 17817637,
  17823743, 17825805, 17846015, 17846797, 17856255, 17858317, 17858621, 17875967, 17878333, 17878783,
  17879178, 17885695, 17887370, 17890047, 17891348, 17905151, 17905172, 17910015, 17911889, 17922047,
  17924228, 17948927, 17949064, 17954303, 17956933, 17961727, 17961797, 17974015, 17989729, 17991679,
  17991777, 17992191, 17992289, 17993471, 17993569, 17997567, 17997665, 18000639, 18001990, 18017279,
  18018374, 18021119, 18022443, 18023679, 18023723, 18025983, 18026283, 18027007, 18027307, 18033151,
  18033195, 18035199, 18035243, 18035967, 18036011, 18037503, 18037561, 18037803, 18040319, 18040619,
  18041343, 18041643, 18042623, 18042923, 18043391, 18044715, 18045183, 18046251, 18048255, 18048555,
  18050559, 18051115, 18052607, 18055329, 18057983, 18058145, 18058495, 18058913, 18059263, 18059425,
  18069247, 18069409, 18072063, 18072225, 18072575, 18072993, 18073343, 18073505, 18074623, 18074785,
  18077439, 18077601, 18078207, 18080161, 18080767, 18088039, 18111743, 18111847, 18113279, 18120862,
  18139391, 18141342, 18143999, 18186374, 18200319, 18200710, 18210559, 18219102, 18236927, 18239582,
  18242303, 18243679, 18247167, 18251925, 18266879, 18268309, 18270975, 18272354, 18277631, 18284545,
  18291711, 18291969, 18296063, 18296833, 18302975, 18350113, 18365695, 18391206, 18412543, 18415526,
  18415648, 18417663, 18417952, 18418431, 18418720, 18420991, 18421024, 18421759, 18421792, 18429695,
  18429728, 18430463, 18430752, 18434047, 18436128, 18438911, 18456677, 18458879, 18459237, 18471167,
  18471525, 18474495, 18481321, 18499839, 18501771, 18523135, 18526225, 18530428, 18545151, 18546719,
  18549503, 18595981, 18604799, 18608269, 18610943, 18612235, 18614783, 18614795, 18626559, 18626571,
  18630399, 18632715, 18640383, 18640982, 18649343, 18649686, 18655487, 18655574, 18659327, 18677847,
  18679807, 18679895, 18680575, 18680663, 18692095, 18692695, 18693119, 18693207, 18693887, 18693975,
  18696447, 18698327, 18701055, 18702382, 18704127, 18704174]

private def scriptBlock5 : List Nat := [
  18704895, 18704942, 18714623, 18714670, 18715391, 18715438, 18717183, 18718766, 18721535, 18800722,
  18807295, 18808896, 18813439, 18813504, 18824191, 18824768, 18832383, 18853966, 18854399, 18858134,
  18871039, 18874262, 18874394, 19110655, 19136538, 19165183, 19165210, 19166719, 19169306, 19219711,
  19894300, 19919871, 19922979, 20207359, 20209699, 21232639, 21233666, 21383167, 23134256, 23149311,
  23592967, 23738879, 23740512, 23748607, 23748704, 23751423, 23752288, 23752855, 23773183, 23773335,
  23775999, 23777288, 23785215, 23785480, 23787263, 23789690, 23807743, 23810170, 23812863, 23812986,
  23814911, 23815034, 23820543, 23821690, 23826687, 23937095, 23952127, 24002648, 24026111, 24051805,
  24071167, 24072029, 24086783, 24088413, 24092927, 24109208, 24109417, 24109617, 24110147, 24110591,
  24113201, 24113919, 24117400, 25688319, 25690264, 25886787, 26007295, 26017603, 26017944, 26020351,
  28307519, 28308735, 28308799, 28310783, 28310847, 28311551, 28311615, 28311863, 28385343, 28386303,
  28389943, 28390399, 28397623, 28398591, 28398911, 28399359, 28402751, 28403967, 28405865, 28507391,
  29098018, 29125631, 29126690, 29130239, 29130786, 29133311, 29134882, 29137663, 29137954, 29138968,
  29140223, 30146584, 30210815, 30212120, 30323967, 30343225, 30355199, 30355513, 30361599, 30363672,
  30393599, 30408728, 30471935, 30474264, 30484479, 30484760, 30500665, 30501400, 30505785, 30507800,
  30508345, 30510104, 30517817, 30518808, 30534655, 30539820, 30557951, 30588952, 30594303, 30597144,
  30602495, 30605336, 30627839, 30629912, 30636543, 30670872, 30692863, 30692888, 30711295, 30711320,
  30712063, 30712344, 30712831, 30713112, 30713855, 30714136, 30715391, 30715416, 30718719, 30718744,
  30719231, 30719256, 30721279, 30721304, 30738175, 30738200, 30739455, 30739736, 30742015, 30742040,
  30744063, 30744088, 30751487, 30751512, 30752767, 30752792, 30754303, 30754328, 30754815, 30755352,
  30757375, 30757400, 30844671, 30844952, 30919935, 30920216, 30933127, 31100159, 31103879, 31105279,
  31105415, 31109375, 31391817, 31399935, 31401289, 31403007, 31457321, 31459327, 31459369, 31463935,
  31464233, 31466239, 31466281, 31467007, 31467049, 31468543, 31469597, 31485695, 31493917, 31494399,
  31522922, 31534591, 31535210, 31538943, 31539306, 31542015, 31542890, 31543551, 31625376, 31633407,
  31637669, 31652607, 31653797, 31654143, 31772772, 31783679, 31838317, 31849471, 31850349, 31850751,
  31973414, 31975423, 31975462, 31976703, 31976742, 31977471, 31977510, 31981567, 31981658, 32032255,
  32032602, 32036863, 32047104, 32066815, 32067584, 32070399]

private def scriptBlock6 : List Nat := [
  32071168, 32071935, 32272664, 32290303, 32309528, 32325375, 32374787, 32376063, 32376067, 32383231,
  32383235, 32383999, 32384003, 32384511, 32384771, 32385279, 32385283, 32388095, 32388099, 32389375,
  32389379, 32389887, 32389891, 32390399, 32391683, 32392191, 32392963, 32393471, 32393475, 32393983,
  32393987, 32394495, 32394499, 32395519, 32395523, 32396287, 32396291, 32396799, 32397059, 32397567,
  32397571, 32398079, 32398083, 32398591, 32398595, 32399103, 32399107, 32399615, 32399619, 32400383,
  32400387, 32400895, 32401155, 32402431, 32402435, 32404479, 32404483, 32405759, 32405763, 32407039,
  32407043, 32407551, 32407555, 32410367, 32410371, 32414975, 32416003, 32417023, 32417027, 32418559,
  32418563, 32423167, 32436227, 32436991, 32505880, 32517375, 32518168, 32543999, 32546840, 32550911,
  32551192, 32555263, 32555288, 32559359, 32559384, 32569087, 32571416, 32616191, 32630296, 32636983,
  32637208, 32637951, 32641048, 32652543, 32653336, 32655871, 32657432, 32658175, 32661528, 32663295,
  32702488, 32954623, 32955416, 32959999, 32960536, 32964095, 32964632, 32995327, 32996120, 33020671,
  33021976, 33025279, 33026072, 33026559, 33030168, 33033471, 33034264, 33048831, 33050648, 33053439,
  33054744, 33065215, 33067032, 33074943, 33075224, 33078527, 33079320, 33080063, 33095704, 33182975,
  33185816, 33189631, 33189912, 33193471, 33194008, 33196799, 33197848, 33212415, 33213976, 33218047,
  33218328, 33221375, 33222680, 33225215, 33226776, 33264639, 33264664, 33291007, 33554481, 44491007,
  44498993, 45562623, 45563953, 45620991, 45621297, 47096575, 47099953, 49013247, 49016881, 49176319,
  49807409, 49946367, 50331697, 51596287, 51597361, 52670719, 234881304, 234881791, 234889240, 234914047,
  234946617, 235008255]

/-- The runs of one script. -/
def scriptBlocks : List (List Nat) := [
  scriptBlock0, scriptBlock1, scriptBlock2, scriptBlock3, scriptBlock4, scriptBlock5, scriptBlock6]

end Reroute.Text
