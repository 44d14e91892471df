/-
The script of every code point, and the scripts it is used with.

Each set is written as the gaps and the lengths of its ranges, in turn; a number is written in base 26, its last digit as a small
letter and the digits before as capitals.
-/

namespace EventBroker.Unicode.Data

/-- the code points of each script, under the names of the script -/
def scripts : List (List String × List String) :=
  [(["adlm", "adlam"],
    ["HDEuCyekec"]),
  (["ahom"],
    ["EBRcBbcpex"]),
  (["hluw", "anatolianhieroglyphs"],
    ["ESSeWl"]),
  (["arab", "arabic"],
    ["CHcfbgbobdbBgbklBabEebBiDcBwJgBifCxbBdDNTwTacFoBgqEifbFfFVnBfCpgijBhgDGLsebBbbcbbcbbkbebbbbgbebbbbbb",
     "dbcbbcbbbbbbbbbbcbbcebhbebebbbkbrfdbfbrCac"]),
  (["armn", "armenian"],
    ["BZdBmcBycdDOZjf"]),
  (["avst", "avestan"],
    ["DXCyCcdh"]),
  (["bali", "balinese"],
    ["KFwCzbBy"]),
  (["bamu", "bamum"],
    ["CLCqDkCVCqVx"]),
  (["bass", "bassavah"],
    ["FHKiBecg"]),
  (["batk", "batak"],
    ["KNgCaie"]),
  (["beng", "bengali"],
    ["DPoebicccwbhbbdecjccceibecbfcz"]),
  (["berf", "beriaerfe"],
    ["FIVwzcz"]),
  (["bhks", "bhaiksuki"],
    ["EDOijbBtbokBd"]),
  (["bopo", "bopomofo"],
    ["BCscRLxBrEiBg"]),
  (["brah", "brahmi"],
    ["DZAeDaeBkjb"]),
  (["brai", "braille"],
    ["PDwJw"]),
  (["bugi", "buginese"],
    ["JWaBccc"]),
  (["buhd", "buhid"],
    ["IUyu"]),
  (["cans", "canadianaboriginal"],
    ["HOyYqVoCsDTPqq"]),
  (["cari", "carian"],
    ["DTYmBx"]),
  (["aghb", "caucasianalbanian"],
    ["DUXsCalb"]),
  (["cakm", "chakma"],
    ["DZKaCbbs"]),
  (["cham"],
    ["CMJwCdjockce"]),
  (["cher", "cherokee"],
    ["HLgDicgCFJeDc"]),
  (["chrs", "chorasmian"],
    ["DYXcBc"]),
  (["zyyy", "common"],
    ["aCnBagBaBvbpbfxbBfbRhBnffcuEmbjbgbbbYnbgbobdbBgbGabTwbEzcBVtbPpeLebCGldCtcHvcbbBVhbnbhebgbdcbBDtmcDj",
     "bldlbprBiCkBmbdcgbBbbrBpdeZqwlvBJsJwYecFiTsDqPmvbbbzpieeDncdbDmcFrqBgBmjbBwCmBfDdBvbDkGmJToCmBHSiBiD",
     "ydGjkJkbGebPfbocBEZqcIakwBjbtbeFrbbBgBagBalkbBtcCmhbhkfJydeBtdjDcnBzBtIuBbCSHweFVgJtdQugxprDrEmCiJmk",
     "BncCkdrichBeeCjIfumumDjjzFfDhbCtbccbcccebmbbbhbCnbecibhbBcbebfbbdhbNccLgcByHThCqCyCjBBeBseDwmpcpbpbB",
     "lkGsCeBabcnBsejhcogFyBLxdrdndIkgmebpmeCeikgBoiBecmecojBnNgiocndldCfbbeqcmekhFrbDzBSUXabBeDs"]),
  (["copt", "coptic", "qaac"],
    ["BMgoPJkEmfh"]),
  (["xsux", "cuneiform"],
    ["EFBsBJmDyEhbflHo"]),
  (["cprt", "cypriot"],
    ["DVZkgcbbBsbcdbcb"]),
  (["cpmn", "cyprominoan"],
    ["EKYyDv"]),
  (["cyrl", "cyrillic"],
    ["BNkFdcGnIVolGebCybGFnBgBTOaDsBHEccDHPgCkBhb"]),
  (["dsrt", "deseret"],
    ["DUMaDc"]),
  (["deva", "devanagari"],
    ["DKqDdepcBaCIJgBgBREmk"]),
  (["diak", "divesakuru"],
    ["ECKuhcbcibcbBebccmjk"]),
  (["dogr", "dogra"],
    ["ECAyCi"]),
  (["dupl", "duployan"],
    ["GMDsEdfndjhkce"]),
  (["egyp", "egyptianhieroglyphs"],
    ["ELDgBQskFXr"]),
  (["elba", "elbasan"],
    ["DUVwBo"]),
  (["elym", "elymaic"],
    ["DYYyx"]),
  (["ethi", "ethiopic"],
    ["GVgCvbechbbbecBpbecBhbechbbbecpbCfbecCpcBgdBaJVaxjhbhbhbhbhbhbhbhBVKcgcgcgjhbhEPYfhbebcbp"]),
  (["gara", "garay"],
    ["DXZcBmdBdic"]),
  (["geor", "georgian"],
    ["GHsBmbbfbcBrbeEJwBrcdGEaBmbbfb"]),
  (["glag", "glagolitic"],
    ["QRgDsGIZghbrchbcbf"]),
  (["goth", "gothic"],
    ["DUEaBb"]),
  (["gran", "grantha"],
    ["EADsebicccwbhbcbfcjcccdcbgbfhchdf"]),
  (["grek", "greek"],
    ["BHwebdcebbebbbbdbbbubCloqJNqfByfefDgbMiwcgcBmcgcibbbbbbbBfcCbbpbocgbtcdbjLjbCAJebBGNiDbrbDAXrCs"]),
  (["gujr", "gujarati"],
    ["DZldbjbdbwbhbcbfckbdbdcbpecmhh"]),
  (["gong", "gunjalagondi"],
    ["EEBwgbcbBlbcbghk"]),
  (["guru", "gurmukhi"],
    ["DUndbgeccwbhbcbcbccbbfeccddbhebbhr"]),
  (["gukh", "gurungkhema"],
    ["FDRsCg"]),
  (["hani", "han"],
    ["RPwBabDlmIgBvbbbzjoeBLcJToCmBFBkBHSiOccEcBSIicmhCCOfCLFcBgGMocIOccLBlpXyDQwUwCFyHHzfMOo"]),
  (["hang", "hangul"],
    ["GLkJwLLecJxDqEjBfCnBfBTAnBdYtQNsmxeBxPAiBfdgcgcgcd"]),
  (["rohg", "hanifirohingya"],
    ["DXWqBoik"]),
  (["hano", "hanunoo"],
    ["ITsv"]),
  (["hatr", "hatran"],
    ["DWIatbcff"]),
  (["hebr", "hebrew"],
    ["CCvCdiBbegDOVwBabfbbbcbcbk"]),
  (["hira", "hiragana"],
    ["SHdDigdFPEvLbsbBddYMvb"]),
  (["armi", "imperialaramaic"],
    ["DWBwwbj"]),
  (["zinh", "inherited", "qaai"],
    ["BDoEiKrcRklBabBCieGOxBucmSqdbnbhebgbdcHqCmUecHmBhFTxeEdcCZUjqqoBLnbIsbGFabCTCuBucxUydrichBeeBTLHiJg"]),
  (["phli", "inscriptionalpahlavi"],
    ["DXGqtfi"]),
  (["prti", "inscriptionalparthian"],
    ["DXFkwci"]),
  (["java", "javanese"],
    ["CMEyDackec"]),
  (["kthi", "kaithi"],
    ["DZFcCpkb"]),
  (["knda", "kannada"],
    ["ETcnbdbxbkbfcjbdbehcfdbeckbd"]),
  (["kana", "katakana"],
    ["SKvDmcdJgqIaBvbDkCZHekbBtCOUcebhbcbbLbdByboe"]),
  (["kawi"],
    ["EERwrbBpdBd"]),
  (["kali", "kayahli"],
    ["CMAaBubb"]),
  (["khar", "kharoshthi"],
    ["DWTcebcfibdbBdcdekhj"]),
  (["kits", "khitansmallscript"],
    ["FJIibKGxScBpb"]),
  (["khmr", "khmer"],
    ["IXkDqckgkSsBg"]),
  (["khoj", "khojki"],
    ["DZTwsbBv"]),
  (["sind", "khudawadi"],
    ["EAAqChfk"]),
  (["krai", "kiratrai"],
    ["FIIiCg"]),
  (["laoo", "lao"],
    ["FMvcbbbfbybbbxcfbbbhbkce"]),
  (["latn", "latin"],
    ["CnBagBaBvbpbfxbBfbRhBnfJXbBmgBxfefnbCsCnJwOfbnbqnFlcgbBbbrBpECtBgBULmDydDeupBFkBrbjbeBEDqhBOkBagBaDC",
     "fgbBqbjDDNpBfgg"]),
  (["lepc", "lepcha"],
    ["KPsCedpdd"]),
  (["limb", "limbu"],
    ["JMeBfbmemebdm"]),
  (["lina", "lineara"],
    ["DVFsLzjwki"]),
  (["linb", "linearb"],
    ["DSYqmbBabtbcbpcoBiEt"]),
  (["lisu"],
    ["CKKuBwBUMab"]),
  (["lyci", "lycian"],
    ["DTXgBd"]),
  (["lydi", "lydian"],
    ["DWKmBafb"]),
  (["mahj", "mahajani"],
    ["DZNcBn"]),
  (["maka", "makasar"],
    ["EEQqz"]),
  (["mlym", "malayalam"],
    ["EYanbdbBzbdbgeqcBa"]),
  (["mand", "mandaic"],
    ["DDgBccb"]),
  (["mani", "manichaean"],
    ["DXAmBnem"]),
  (["marc", "marchen"],
    ["EDSqBgcwbo"]),
  (["gonm", "masaramgondi"],
    ["EDYehbcbBsdbbcbjik"]),
  (["medf", "medefaidrin"],
    ["FISeDn"]),
  (["mtei", "meeteimayek"],
    ["CMSmxHtBuck"]),
  (["mend", "mendekikakui"],
    ["HCUyHpcq"]),
  (["merc", "meroiticcursive"],
    ["DWPkyeucBu"]),
  (["mero", "meroitichieroglyphs"],
    ["DWOeBg"]),
  (["plrd", "miao"],
    ["FIZoCxeCfhr"]),
  (["modi"],
    ["EBHgCrlk"]),
  (["mong", "mongolian"],
    ["JCiccbbugDlhBrDSCbn"]),
  (["mroo", "mro"],
    ["FHEuBfbkec"]),
  (["mult", "multani"],
    ["DZYuhbbbebpbl"]),
  (["mymr", "myanmar"],
    ["GBoGeCGAyBfDtBgBPAmu"]),
  (["nbat", "nabataean"],
    ["DWEiBfij"]),
  (["nagm", "nagmundari"],
    ["HBPoBq"]),
  (["nand", "nandinagari"],
    ["ECQyicBucl"]),
  (["talu", "newtailue"],
    ["JRcBseBagldc"]),
  (["newa"],
    ["EANoDobf"]),
  (["nkoo", "nko"],
    ["CYiChcd"]),
  (["nshu", "nushu"],
    ["FJIfbYVmPg"]),
  (["hmnp", "nyiakengpuachuehmong"],
    ["HAEaBtdockec"]),
  (["ogam", "ogham"],
    ["INoBd"]),
  (["olck", "olchiki"],
    ["KSuBw"]),
  (["onao", "olonal"],
    ["HBZkBreb"]),
  (["hung", "oldhungarian"],
    ["DXRsBznBzhg"]),
  (["ital", "olditalic"],
    ["DUCeBkjd"]),
  (["narb", "oldnortharabian"],
    ["DWYaBg"]),
  (["perm", "oldpermic"],
    ["DUFgBr"]),
  (["xpeo", "oldpersian"],
    ["DUIiBkeo"]),
  (["sogo", "oldsogdian"],
    ["DYQiBo"]),
  (["sarb", "oldsoutharabian"],
    ["DWWuBg"]),
  (["orkh", "oldturkic"],
    ["DXMuCv"]),
  (["ougr", "olduyghur"],
    ["DYUqBa"]),
  (["orya", "oriya"],
    ["EEjdbicccwbhbcbfcjcccdhdecbfcs"]),
  (["osge", "osage"],
    ["DUSuBkeBk"]),
  (["osma", "osmanya"],
    ["DUQyBeck"]),
  (["hmng", "pahawhhmong"],
    ["FHMeCskkbhbvft"]),
  (["palm", "palmyrene"],
    ["DWDcBg"]),
  (["pauc", "paucinhau"],
    ["EDCaCf"]),
  (["phag", "phagspa"],
    ["CLSqCe"]),
  (["phnx", "phoenician"],
    ["DWJgBcdb"]),
  (["phlp", "psalterpahlavi"],
    ["DXHwshemh"]),
  (["rjng", "rejang"],
    ["CMBwBklb"]),
  (["runr", "runic"],
    ["IOuCxdl"]),
  (["samr", "samaritan"],
    ["DAuBucp"]),
  (["saur", "saurashtra"],
    ["CLVcCsim"]),
  (["shrd", "sharada"],
    ["DZOyDsDPoi"]),
  (["shaw", "shavian"],
    ["DUPcBw"]),
  (["sidd", "siddham"],
    ["EBCiCccBm"]),
  (["sidt", "sidetic"],
    ["DWLsBa"]),
  (["sgnw", "signwriting"],
    ["GWTkZcpfbp"]),
  (["sinh", "sinhala"],
    ["FCzdbsdybjbbchdbegbbbigkcdDULgu"]),
  (["sogd", "sogdian"],
    ["DYSeBq"]),
  (["sora", "sorasompeng"],
    ["DZIezhk"]),
  (["soyo", "soyombo"],
    ["ECXsDf"]),
  (["sund", "sundanese"],
    ["KKuCmJwi"]),
  (["sunu", "sunuwar"],
    ["EDLwBiok"]),
  (["sylo", "sylotinagri"],
    ["CLQeBt"]),
  (["syrc", "syriac"],
    ["CQyobCicdKml"]),
  (["tglg", "tagalog"],
    ["ISmwjb"]),
  (["tagb", "tagbanwa"],
    ["IWenbdbc"]),
  (["tale", "taile"],
    ["JPgBecf"]),
  (["lana", "taitham"],
    ["JXgClbBdclgkgo"]),
  (["tavt", "taiviet"],
    ["CMOuCpyf"]),
  (["tayo", "taiyo"],
    ["HCIqBfbwic"]),
  (["takr", "takri"],
    ["EBMeCggk"]),
  (["taml", "tamil"],
    ["EJicbgddbedcbbbcdcdddmefddbecbgbovEALhBynb"]),
  (["tnsa", "tangsa"],
    ["FHGqDbbk"]),
  (["tang", "tangut"],
    ["FJIebBfKFwTsBfDtEl"]),
  (["telu", "telugu"],
    ["EOenbdbxbqcjbdbehcbdbcceckhj"]),
  (["thaa", "thaana"],
    ["CVwBy"]),
  (["thai"],
    ["FHxCgfBc"]),
  (["tibt", "tibetan"],
    ["FRsCubBkeBnbBkbpbhec"]),
  (["tfng", "tifinagh"],
    ["RCyCehcob"]),
  (["tirh", "tirhuta"],
    ["EASmCuik"]),
  (["todr", "todhri"],
    ["DVDgCa"]),
  (["tols", "tolongsiki"],
    ["EEEyBsek"]),
  (["toto"],
    ["HATkBf"]),
  (["tutg", "tulutigalari"],
    ["EAIqkbbcbbBmbkbbcbbebkbcic"]),
  (["ugar", "ugaritic"],
    ["DUHcBebb"]),
  (["vaii", "vai"],
    ["CKMqLo"]),
  (["vith", "vithkuqi"],
    ["DVAelbpbhbcblbpbhbc"]),
  (["wcho", "wancho"],
    ["HAVgCgfb"]),
  (["wara", "warangciti"],
    ["ECHcDfmb"]),
  (["yezi", "yezidi"],
    ["DYLkBqbdcc"]),
  (["yiii", "yi"],
    ["CIPkBSvdCd"]),
  (["zanb", "zanabazarsquare"],
    ["ECUqCu"])]

/-- the code points used with each script -/
def scriptExtensions : List (List String × List String) :=
  [(["adlm", "adlam"],
    ["CIhbBgbJWobFHhbGLRiCyekec"]),
  (["ahom"],
    ["EBRcBbcpex"]),
  (["hluw", "anatolianhieroglyphs"],
    ["ESSeWl"]),
  (["arab", "arabic"],
    ["CHcfbIhbBiDcBwJgBifCxbBdIVnbFHhbCZRaYqBgqEifbFfBMhBcEIeBfCpgijBhgDGLsebBbbcbbcbbkbebbbbgbebbbbbbdbcb",
     "bcbbbbbbbbbbcbbcebhbebebbbkbrfdbfbrCac"]),
  (["armn", "armenian"],
    ["BDwbVgBmcBycdDOZjf"]),
  (["avst", "avestan"],
    ["HbbRFscDFQcCcdh"]),
  (["bali", "balinese"],
    ["KFwCzbBy"]),
  (["bamu", "bamum"],
    ["CLCqDkCVCqVx"]),
  (["bass", "bassavah"],
    ["FHKiBecg"]),
  (["batk", "batak"],
    ["KNgCaie"]),
  (["beng", "bengali"],
    ["BAybCMucrcBaebicccwbhbbdecjccceibecbfczHDhbbbccbbibibcbebcdCBAfb"]),
  (["berf", "beriaerfe"],
    ["FIVwzcz"]),
  (["bhks", "bhaiksuki"],
    ["EDOijbBtbokBd"]),
  (["bopo", "bopomofo"],
    ["BBjbbdnbqcRBxdekbnkecbgbHnbjBrEiBgCZLtcKwf"]),
  (["brah", "brahmi"],
    ["DZAeDaeBkjb"]),
  (["brai", "braille"],
    ["PDwJw"]),
  (["bugi", "buginese"],
    ["JWaBcccCCKtb"]),
  (["buhd", "buhid"],
    ["IUncju"]),
  (["cans", "canadianaboriginal"],
    ["HOyYqVoCsDTPqq"]),
  (["cari", "carian"],
    ["HbbLZmbcbFGdbDCLqBx"]),
  (["aghb", "caucasianalbanian"],
    ["BDsbBsbBsbDTQnCalb"]),
  (["cakm", "chakma"],
    ["DTmkCKekDTFqCbbs"]),
  (["cham"],
    ["CMJwCdjockce"]),
  (["cher", "cherokee"],
    ["BDodbbgcwclcGFuDicgCFJeDc"]),
  (["chrs", "chorasmian"],
    ["DYXcBc"]),
  (["zyyy", "common"],
    ["aCnBagBaBvbmbcbfxbBfbRhdbkbbdbbjbbbgffcuEwbgbbbYnbIhbTwbCAubPpeGDbmcBhbBfbkbcbhbldlbprBiCkBmbdcgbBbb",
     "rBpdeZqwlvBJsJwYecFiTsxbyckbebbbBaQcbdbnbnbvbUjyBfbBxpmeGfkfDsBfbJToCmBHSqBaDydBLobocBFHskwvcmbtbeFr",
     "bbBgBagBagExhbhkfPmnBzBtCYNbJtdQugxprDrEmCiJmkBncCkdrichBeeCjIfumumDjBbhFfDhbCtbccbcccebmbbbhbCnbeci",
     "bhbBcbebfbbdhbNccLgcByHThCqCyCjBBeBseDwmpcpbpbBlkGsCeBabcnBsejxgFyBLxdrdndIkgmebpmeCeikgBoiBecmecojB",
     "nNgiocndldCfbbeqcmekhFrbDzBSUXabBeDs"]),
  (["copt", "coptic", "qaac"],
    ["HbbWmbdcbbEecEeoPJkEmfhKtbDCPcBc"]),
  (["xsux", "cuneiform"],
    ["EFBsBJmDyEhbflHo"]),
  (["cprt", "cypriot"],
    ["DTImdeBtdjCOmgcbbBsbcdbcb"]),
  (["cpmn", "cyprominoan"],
    ["DTImcRQkDv"]),
  (["cyrl", "cyrillic"],
    ["BAybCpdbbbbbbcbfbJeLsIVolGebCybExbGApBgCpbBTLkDsBHEccDHPgCkBhb"]),
  (["dsrt", "deseret"],
    ["DUMaDc"]),
  (["deva", "devanagari"],
    ["BAybCJrDfcBrHIeBnbcBNabBZFrkGkBgBREmk"]),
  (["diak", "divesakuru"],
    ["ECKuhcbcibcbBebccmjk"]),
  (["dogr", "dogra"],
    ["DOmmCIDckBQIoCi"]),
  (["dupl", "duployan"],
    ["HbbWtcbbycQIhbFUQlEdfndjhkci"]),
  (["egyp", "egyptianhieroglyphs"],
    ["ELDgBQskFXr"]),
  (["elba", "elbasan"],
    ["HbbWrbDTScBo"]),
  (["elym", "elymaic"],
    ["DYYyx"]),
  (["ethi", "ethiopic"],
    ["BEcbFRdCvbechbbbecBpbecBhbechbbbecpbCfbecCpcBgdBaJVaxjhbhbhbhbhbhbhbhBVKcgcgcgjhbhEPYfhbebcbp"]),
  (["gara", "garay"],
    ["CHobobdbDVQuBmdBdic"]),
  (["geor", "georgian"],
    ["HbbBVlbEFeBmbbfbcBwEJwBrcdBJmbEUnBmbbfbJzb"]),
  (["glag", "glagolitic"],
    ["HbbWpbbbOsbcbJxbEIrbFVibEKrDsSpbBTNfbEOTkhbrchbcbf"]),
  (["goth", "gothic"],
    ["HbbWqccbBobDSYoBb"]),
  (["gran", "grantha"],
    ["DNtcrcYqoGKabbcBeddcBNabDNRjebicccwbhbcbfbkcccdcbgbfhchdfERrcbb"]),
  (["grek", "greek"],
    ["HbbWmccbbbbbkbBubcbBqicebbebbbbdbbbubCloqJNqfByfefDgdMgwcgcBmcgcibbbbbbbBfcCbbpbocgbtcdbjDqbHsbCAJeb",
     "BGNiDbrbDAXrCs"]),
  (["gujr", "gujarati"],
    ["DNtcrcKxdbjbdbwbhbcbfckbdbdcbpecmhhCHNsk"]),
  (["gong", "gunjalagondi"],
    ["HbbDHkcEANigbcbBlbcbghk"]),
  (["guru", "gurmukhi"],
    ["DNtcrcFzdbgeccwbhbcbcbccbbfeccddbhebbhrCHSzk"]),
  (["gukh", "gurungkhema"],
    ["DOnbFADeCg"]),
  (["hani", "han"],
    ["HbbRIuBabDlmIgBaqbdbnbnbncbgjHfbFsqBgBmjbBwBoCeBxpmBzbDkzkfDsBfbJToCmBFBkCQyiBFBcOccEcBHrcKwfBQPocmh",
     "BLQvsLRycFEsCLFcBgGMocIOccLBlpXyDQwUwCFyHHzfMOo"]),
  (["hang", "hangul"],
    ["GLkJwLJldekbnodgbHnbCbDqEjBfCnBfBTAnBdYtQNsmxeBxOMzcKwfCgBfdgcgcgcd"]),
  (["rohg", "hanifirohingya"],
    ["CHobobdbBgbFrbDVHjBoik"]),
  (["hano", "hanunoo"],
    ["ITsx"]),
  (["hatr", "hatran"],
    ["DWIatbcff"]),
  (["hebr", "hebrew"],
    ["BDvcYyCdiBbegDOVwBabfbbbcbcbk"]),
  (["hira", "hiragana"],
    ["SErdekbnqgbbecdDiciDmcCZTgcKwfkbBtcCOUrLbsbBddYMvb"]),
  (["armi", "imperialaramaic"],
    ["DWBwwbj"]),
  (["zinh", "inherited", "qaai"],
    ["BEdbcbbpdhcbcqbcbsbfbeCGmcGOxBucmBByCcbbbfUecHmBgDFSqqqoBLnbCZQoBucxUydrichBeeBTLHiJg"]),
  (["phli", "inscriptionalpahlavi"],
    ["DXGqtfi"]),
  (["prti", "inscriptionalparthian"],
    ["DXFkwci"]),
  (["java", "javanese"],
    ["CMEyDablec"]),
  (["kthi", "kaithi"],
    ["DOokNXxbBUFekBNMsCpkb"]),
  (["knda", "kannada"],
    ["DNtcrcBEonbdbxbkbfcjbdbehcfdbeckbdGAebbcgbxbbbCASxg"]),
  (["kana", "katakana"],
    ["BDtbBdbQZtdekbnqgbbecDnedDsJgqIaBvbDkCYWbcKwClCOUaebhbcbbLbdByboe"]),
  (["kawi"],
    ["EERwrbBpdBd"]),
  (["kali", "kayahli"],
    ["CMAaBw"]),
  (["khar", "kharoshthi"],
    ["DWTcebcfibdbBdcdekhj"]),
  (["kits", "khitansmallscript"],
    ["FJIibKGxScBpb"]),
  (["khmr", "khmer"],
    ["IXkDqckgkSsBg"]),
  (["khoj", "khojki"],
    ["EDikCHOikBOBmsbBv"]),
  (["sind", "khudawadi"],
    ["DOmcCIDmkBOIgChfk"]),
  (["krai", "kiratrai"],
    ["FIIiCg"]),
  (["laoo", "lao"],
    ["FMvcbbbfbybbbxcfbbbhbkce"]),
  (["latn", "latin"],
    ["CnBagBaBvbmbcbfxbBfbRhdbkbbdbbjbbbgfBbpbcbbpdhcbcBmbfbenKrcBVecCXkbEOiBmgBxfefnbCsCfbhJwLrbCnbnbqnDf",
     "bCfcgbBbbrBpECtBgPrbBTUmiBaDydDeupLqbTtBrbjbeBEDqhBOkBagBaDCfgbBqbjDDNpBfgg"]),
  (["lepc", "lepcha"],
    ["KPsCedpdd"]),
  (["limb", "limbu"],
    ["DOnbFXqBfbmemebdm"]),
  (["lina", "lineara"],
    ["DTItBtBVgLzjwki"]),
  (["linb", "linearb"],
    ["DSYqmbBabtbcbpcoBiEtfdeBtdj"]),
  (["lisu"],
    ["BAybqbRDkcBSFsBwBUMab"]),
  (["lyci", "lycian"],
    ["MGobDHQrBd"]),
  (["lydi", "lydian"],
    ["HbbRFtbDEXqBafb"]),
  (["mahj", "mahajani"],
    ["HbbDHkmCIDckBNUsBn"]),
  (["maka", "makasar"],
    ["EEQqz"]),
  (["mlym", "malayalam"],
    ["DNtcrcBJmnbdbBzbdbgeqcBaFVebxbCASzd"]),
  (["mand", "mandaic"],
    ["CJobTrBccb"]),
  (["mani", "manichaean"],
    ["CJobDUQxBnem"]),
  (["marc", "marchen"],
    ["EDSqBgcwbo"]),
  (["gonm", "masaramgondi"],
    ["DOmcEAJqhbcbBsdbbcbjik"]),
  (["medf", "medefaidrin"],
    ["FISeDn"]),
  (["mtei", "meeteimayek"],
    ["CMSmxHtBuck"]),
  (["mend", "mendekikakui"],
    ["HCUyHpcq"]),
  (["merc", "meroiticcursive"],
    ["DWPkyeucBu"]),
  (["mero", "meroitichieroglyphs"],
    ["MGrbDKHmBg"]),
  (["plrd", "miao"],
    ["FIZoCxeCfhr"]),
  (["modi"],
    ["CLSakBPOwCrlk"]),
  (["mong", "mongolian"],
    ["JCiBagDlhBrCWabFZtcfeDJFwn"]),
  (["mroo", "mro"],
    ["FHEuBfbkec"]),
  (["mult", "multani"],
    ["DYkkDWAahbbbebpbl"]),
  (["mymr", "myanmar"],
    ["GBoGeCFUcbGvBfDtBgBPAmu"]),
  (["nbat", "nabataean"],
    ["DWEiBfij"]),
  (["nagm", "nagmundari"],
    ["HBPoBq"]),
  (["nand", "nandinagari"],
    ["DNtbscBImkGBhbibhbCASrgBQYsicBucl"]),
  (["talu", "newtailue"],
    ["JRcBseBagldc"]),
  (["newa"],
    ["DNtcHKcbbcjbgbbbbbDPOsDobf"]),
  (["nkoo", "nko"],
    ["CHobobdbQaChcdDOWsc"]),
  (["nshu", "nushu"],
    ["FJIfbYVmPg"]),
  (["hmnp", "nyiakengpuachuehmong"],
    ["HAEaBtdockec"]),
  (["ogam", "ogham"],
    ["INoBd"]),
  (["olck", "olchiki"],
    ["KSuBw"]),
  (["onao", "olonal"],
    ["DOmcGYKwBreb"]),
  (["hung", "oldhungarian"],
    ["MGobcbFGdbpbDGEgBznBzhg"]),
  (["ital", "olditalic"],
    ["DUCeBkjd"]),
  (["narb", "oldnortharabian"],
    ["DWYaBg"]),
  (["perm", "oldpermic"],
    ["HbbWmbfdkbOdbDSMuBr"]),
  (["xpeo", "oldpersian"],
    ["DUIiBkeo"]),
  (["sogo", "oldsogdian"],
    ["DYQiBo"]),
  (["sarb", "oldsoutharabian"],
    ["DWWuBg"]),
  (["orkh", "oldturkic"],
    ["MGobFGfbDFZzCv"]),
  (["ougr", "olduyghur"],
    ["CJobDUSvbBSfBa"]),
  (["orya", "oriya"],
    ["DNtcrcPvdbicccwbhbcbfcjcccdhdecbfcsGPebxb"]),
  (["osge", "osage"],
    ["BDpbcbgbCybDTLvBkeBk"]),
  (["osma", "osmanya"],
    ["DUQyBeck"]),
  (["hmng", "pahawhhmong"],
    ["FHMeCskkbhbvft"]),
  (["palm", "palmyrene"],
    ["DWDcBg"]),
  (["pauc", "paucinhau"],
    ["EDCaCf"]),
  (["phag", "phagspa"],
    ["JCkcbbDCjbFZubBTNxCe"]),
  (["phnx", "phoenician"],
    ["DWJgBcdb"]),
  (["phlp", "psalterpahlavi"],
    ["CJobDUYhshemh"]),
  (["rjng", "rejang"],
    ["CMBwBklb"]),
  (["runr", "runic"],
    ["IOuDl"]),
  (["samr", "samaritan"],
    ["DAuBucpOJqb"]),
  (["saur", "saurashtra"],
    ["CLVcCsim"]),
  (["shrd", "sharada"],
    ["DNtbHKfbbbcccbjbcbCATegcbBNWpDsDPoi"]),
  (["shaw", "shavian"],
    ["HbbDUIaBw"]),
  (["sidd", "siddham"],
    ["EBCiCccBm"]),
  (["sidt", "sidetic"],
    ["DWLsBa"]),
  (["sgnw", "signwriting"],
    ["GWTkZcpfbp"]),
  (["sinh", "sinhala"],
    ["DOmcBOldbsdybjbbchdbegbbbigkcdFRpbDOTqu"]),
  (["sogd", "sogdian"],
    ["CJobDWIpBq"]),
  (["sora", "sorasompeng"],
    ["DZIezhk"]),
  (["soyo", "soyombo"],
    ["ECXsDf"]),
  (["sund", "sundanese"],
    ["KKuCmJwi"]),
  (["sunu", "sunuwar"],
    ["BDocbbjbcbBcbdbECGkBiok"]),
  (["sylo", "sylotinagri"],
    ["DOmcEykCHWiBt"]),
  (["syrc", "syriac"],
    ["BDrcccbbydhcbcBCcboccbBgbklBabFnobCicdKmlIEfbbb"]),
  (["tglg", "tagalog"],
    ["ISmwjbvc"]),
  (["tagb", "tagbanwa"],
    ["IUncBpnbdbc"]),
  (["tale", "taile"],
    ["BDocfcdbEZzkDKwBecf"]),
  (["lana", "taitham"],
    ["JXgClbBdclgkgo"]),
  (["tavt", "taiviet"],
    ["CMOuCpyf"]),
  (["tayo", "taiyo"],
    ["HCIqBfbwic"]),
  (["takr", "takri"],
    ["DOmcCIDmkBPTuCggk"]),
  (["taml", "tamil"],
    ["DNtcrcUucbgddbedcbbbcdcdddmefddbecbgbovGKdbCBBkbBOEfbbbCdcETfBynb"]),
  (["tnsa", "tangsa"],
    ["FHGqDbbk"]),
  (["tang", "tangut"],
    ["SEaqTbbEQKmbBfKFwTsBfDtEl"]),
  (["telu", "telugu"],
    ["DNtcrcZqnbdbxbqcjbdbehcbdbcceckhjGEvcbbbbxb"]),
  (["thaa", "thaana"],
    ["CHoboccbCmkKsByDPGqbkb"]),
  (["thai"],
    ["BAybBabBrbBtbEClCgfBc"]),
  (["tibt", "tibetan"],
    ["FRsCubBkeBnbBkbpbhecMEve"]),
  (["tfng", "tifinagh"],
    ["BDqbbbbezbPYaCehcob"]),
  (["tirh", "tirhuta"],
    ["DNtcrcHJjbmbpbCASzkBPAcCuik"]),
  (["todr", "todhri"],
    ["BDpbcbcbjbbbCwbDTWbCa"]),
  (["tols", "tolongsiki"],
    ["EEEyBsek"]),
  (["toto"],
    ["BAybGZSlBf"]),
  (["tutg", "tulutigalari"],
    ["EXakGBqbbbCASxgHfbBOJekbbcbbBmbkbbcbbebkbcic"]),
  (["ugar", "ugaritic"],
    ["DUHcBebb"]),
  (["vaii", "vai"],
    ["CKMqLo"]),
  (["vith", "vithkuqi"],
    ["DVAelbpbhbcblbpbhbc"]),
  (["wcho", "wancho"],
    ["HAVgCgfb"]),
  (["wara", "warangciti"],
    ["ECHcDfmb"]),
  (["yezi", "yezidi"],
    ["CHobobdbCmkDWAgBqbdcc"]),
  (["yiii", "yi"],
    ["SErcfkciIpbBQBcBSvdCdBIIcf"]),
  (["zanb", "zanabazarsquare"],
    ["ECUqCu"])]

end EventBroker.Unicode.Data
