/-
The general category of every code point.

Each set is written as the gaps and the lengths of its ranges, in turn; a number is written in base 26, its last digit as a small
letter and the digits before as capitals.
-/

namespace EventBroker.Unicode.Data

/-- the code points of each category, under the names of the category -/
def categories : List (List String × List String) :=
  [(["lu", "uppercaseletter"],
    ["CnBaDxxbhBhbbbbbbbbbbbbbbbbbbbbbbbbbbbbbbbbbbbbbbbbbbbbbbbbbbbbbbbcbbbbbbbbbbbbbbbcbbbbbbbbbbbbbbbbb",
     "bbbbbbbbbbbbbbbbbbbbbbbbbbbbbcbbbbdcbbbcbdcebcbddcbcbbbbbcbbcbbcbdbbbcdbhbcbcbcbbbbbbbbbbbbbbbcbbbbb",
     "bbbbbbbbbbbbcbcbbdbbbbbbbbbbbbbbbbbbbbbbbbbbbbbbbbbbbbbbbbbbbbbbbbbbbbbbbbbbhcbccbbebbbbbbbbLdbbbdbi",
     "bgbbdbbbcbrbjBjbcddbbbbbbbbbbbbbbbbbbbbbbbfbcbbccBzBwbbbbbbbbbbbbbbbbbbbbbbbbbbbbbbbbbjbbbbbbbbbbbbb",
     "bbbbbbbbbbbbbbbbbbbbbbbbbbbbbbbbbbbbbbbbbcbbbbbbbbbbbbcbbbbbbbbbbbbbbbbbbbbbbbbbbbbbbbbbbbbbbbbbbbbb",
     "bbbbbbbbbbbbbbbbbbbbbbbbbbbbbbbbbbbbbbbbbbbbbbbbbbcBmEHdBmbbfbBBuDiDGlbgBrcdMibbbbbbbbbbbbbbbbbbbbbb",
     "bbbbbbbbbbbbbbbbbbbbbbbbbbbbbbbbbbbbbbbbbbbbbbbbbbbbbbbbbbbbbbbbbbbbbbbbbbbbbbbbbbbbbbbbbbbbbbbbbbbb",
     "bbbbbbbbbbbbbbbbbbbbbbbbbbbjbbbbbbbbbbbbbbbbbbbbbbbbbbbbbbbbbbbbbbbbbbbbbbbbbbbbbbbbbbbbbbbbbbbbbbbb",
     "bbbbbbbbbbbbbbbbbbbbbbbbbjiigkiiiiglbbbbbbbiiCuemememfleKcbebddcdcbdfgbbbbbbecekcfbCjbDZgBwBwbbdcbbb",
     "bbbebbcbidbbbbbbbbbbbbbbbbbbbbbbbbbbbbbbbbbbbbbbbbbbbbbbbbbbbbbbbbbbbbbbbbbbbbbbbbbbbbbbbbbbbbbbbbbb",
     "bbbbbbbbibbbebBTYjbbbbbbbbbbbbbbbbbbbbbbbbbbbbbbbbbbbbbbbbbbbbbtbbbbbbbbbbbbbbbbbbbbbbbbbbbFfbbbbbbb",
     "bbbbbbdbbbbbbbbbbbbbbbbbbbbbbbbbbbbbbbbbbbbbbbbbbbbbbbbbbbbbbbbbbbbbkbbbbcbbbbbbbbebbbcbbbdbbbbbbbbb",
     "bbbbbbbbbbbfbfbbbbbbbbbbbbbbbebbbcbbbbbbbbbbbbbbbbybBHAhBaBUzBoFgBkGalbpbhbcCQcBzGbwEGoBgBGJwBgCmzBM",
     "JfBaBaBaBaBaBabbccbcccebiBaBaBacbecibhBbcbebfbbdhBbBaBaBaBaBaBaBaBaBaBaBaBezBhzBhzBhzBhzBhbGNlBi"]),
  (["ll", "lowercaseletter"],
    ["DtBaCgbBpybibbbbbbbbbbbbbbbbbbbbbbbbbbbbbbbbbbbbbbbbbbbbbbbbbbbbbbbcbbbbbbbbbbbbbbbcbbbbbbbbbbbbbbbb",
     "bbbbbbbbbbbbbbbbbbbbbbbbbbbbbbcbbbbdcbbbcbdcebcbddcbcbbbbbcbbcbbcbdbbbcccdgbcbcbbbbbbbbbbbbbbbbcbbbb",
     "bbbbbbbbbbbbbccbbbdbbbbbbbbbbbbbbbbbbbbbbbbbbbbbbbbbbbbbbbbbbbbbbbbbbbbbbbbbbhcbccbbebbbbbbbbCrcBaHl",
     "bbbdbddsbBbBjbcddbbbbbbbbbbbbbbbbbbbbbbbfbbcbccBzBwbbbbbbbbbbbbbbbbbbbbbbbbbbbbbbbbbbjbbbbbbbbbbbbbb",
     "bbbbbbbbbbbbbbbbbbbbbbbbbbbbbbbbbbbbbbbcbbbbbbbbbbbbcbbbbbbbbbbbbbbbbbbbbbbbbbbbbbbbbbbbbbbbbbbbbbbb",
     "bbbbbbbbbbbbbbbbbbbbbbbbbbbbbbbbbbbbbbbbbbbbbbbbbBwBpEHbBrcdBDggDFujbbEnBsClnbBiDybbbbbbbbbbbbbbbbbb",
     "bbbbbbbbbbbbbbbbbbbbbbbbbbbbbbbbbbbbbbbbbbbbbbbbbbbbbbbbbbbbbbbbbbbbbbbbbbbbbbbbbbbbbbbbbbbbbbbbbbbb",
     "bbbbbbbbbbbbbbbbbbbbbbbbbbbbbbjbbbbbbbbbbbbbbbbbbbbbbbbbbbbbbbbbbbbbbbbbbbbbbbbbbbbbbbbbbbbbbbbbbbbb",
     "bbbbbbbbbbbbbbbbbbbbbbbbbbbbjigkiiiigkiiiiociiiiiifbcgbddbciecciikdbcKobdcdbBbbebebccieebCbbEBbBwbbd",
     "cbbbbbbebbcbgfbbbbbbbbbbbbbbbbbbbbbbbbbbbbbbbbbbbbbbbbbbbbbbbbbbbbbbbbbbbbbbbbbbbbbbbbbbbbbbbbbbbbbb",
     "bbbbbbbbbbbbchbbbebmBmbbfbBTWdbbbbbbbbbbbbbbbbbbbbbbbbbbbbbbbbbbbbbbbbbbbbbtbbbbbbbbbbbbbbbbbbbbbbbb",
     "bbbFfbbbbbbbbbbbbdbbbbbbbbbbbbbbbbbbbbbbbbbbbbbbbbbbbbbbbbbbbbbbbbbbbbbbbbbbbbbbbibbbbcbbbbbbbbbebbb",
     "cbbdbbbbbbbbbbbbbbbbbbbbfbfbbbbbbbbbbbbbbbebbbcbbbbbbbbbbbbbbbBabdbBFpBrfjhDcBEAihmfBOzBaBVhBoFgBkFz",
     "lbpbhbcCRbBzEvwEGoBgBGJwBgChzBMJeBaBahbsBaBaBaebbbhblBaBaBaBaBaBaBaBaBaBaBaBaBaBaBaBaBaBcBczbgBazbgB",
     "azbgBazbgBazbgbbCSykbuggDUdBi"]),
  (["lt", "titlecaseletter"],
    ["RlbcbcbBmbLFhiiiiimbpbBvb"]),
  (["lm", "modifierletter"],
    ["BAmsemofhbbbFdbfbSkbIwbGicKjcebBfbjbdbGebGlbBVobExbVtbCPmbEdbXnbRwgGsClnbBiBlBAnbnbqnEMxcJhbHjbSbbBr",
     "ffbDtcDpdBQBubBWcgKkbEkbBccErjDcbxbEaedcSbbwbFhbEebvcDzejbBFVibBtcCZogbBqbjCCxbBgbNdbFSlbBDIceTodBoc",
     "VenCmcbbocYGaebhbcSGnCkHthBKfbUlbWpb"]),
  (["lo", "otherletter"],
    ["GobpbJwbeeIacBFuBbeeBtBgbkBjcbDvbbyckdcbqbbBeBdDllbyBhvwBqzhlfybhqBpChCcdbsbhkqpeicccwbhbbdedbqbncbd",
     "ockbigeccwbhbcbcbcBfebbtdqjbdbwbhbcbfdbsbpcxblicccwbhbcbfdbBecbdpbrbbgddbedcbbbcdcdddmwbCaibdbxbqdbB",
     "adbcccBebeibdbxbkbfdbBedbcpcrjbdbBpcbqbfdidygfsdybjbbchCgBwbcmgChcbbbfbybbbkbcjbcfxeBgbClibBkBbfElBr",
     "ubqgeedbdchdenmbEjMrbechbbbecBpbecBhbechbbbecpbCfbecCpBlqEjXwcrbBafCxgihsntosonbdpCaBobCpBjbCbhfcBib",
     "bfCskBfBxBecflBseBaCcxjCbGuBvriCcBenckBsBaBkBpdkBeEjebgbcdbBPqeENvCeyxjhbhbhbhbhbhbhbhVfbCbbeDiibbDm",
     "ebfBrbDqrBgBwqTsJToCmBFCfbBRzCpBoiKieqkcCobBxCsGnbDzbdhbdbebxBdCaoByCkgdbbclBckxzBdhBvBtfcjkfbBpxdbi",
     "uqbgdbdBybbdccfcbbbycdlhbogcgcgjhbhFpBjBdQNsmxeBxMNcOccEcCpbbkbnbfbbbcbcbEeBhNzsCmcCcBomEmfbFfEbkbBt",
     "cBfdgcgcgcdBjmbBabtbcbpcoBiEtOzBddBxBvBgnubigBmkBecBkeiEyDaDuBoiCaDoCamLzjwkiFwgcbbBsbcdbcxkxjBfCntb",
     "ckwkBagBaBmCegcCmbpebdbBdBqBddBdBjibBcBbCckwktnsEgCvHbBkBmebbLsBqgcqdbcCeBdkbiwBqsBuvBbxmCbCfccbnBtB",
     "gzBaBkBdbcbiBjdbmBwoevbbbBjsbztcClhbbbebpbkhBvBmicccwbhbcbfdbsbmfBekbbcbbBmbbzbbbBsCbseudBeBwucbbHcB",
     "vBpeBkBwubChBrnbCtBbBlhHdBsIdicbcibcbypbbbDqicBnqbbbBcbkBohbvblButbsCvHrBhBfjbBlrbBxBeEihbcbBmvbzgbc",
     "bBgobxBpbcKatpbbnbBiEubDbBJmIwHoDXkDtpBPgrgzFXrfWlKDdBeCPuVxhBfrDbrBesBwBzvftQtBoPpCxfbGtKXyBpBgDtEl",
     "MXhLfpbBddcboeiPgDKuEdfndjhkNBcbThBtBhbMjBesBsSqBbIvBecbHzBfbdbcbhcfjbIrhbebcbpbHpBZnebBbbcbbcbbkbeb",
     "bbbgbebbbbbbdbcbbcbbbbbbbbbbcbbcebhbebebbbkbrfdbfbrGOaCLFcBgGMocIOccLBlpXyDQwUwCFyHHzfMOo"]),
  (["mn", "nonspacingmark"],
    ["BDoEiKpfKfBtbbbcbcbbCulBwvqbDxhcgccbeBjbBeBbDnlCgjjbyebjbdbfBrdChjBqybBgCdbbbeiebdhkcBdbCgbeeibucBab",
     "ccCfbececcddbBecdblcCfbefbcebucwgbbCgbcbbeibhclcBebCjbmbBybdbCdbbdfdbehclcBdbCgbcbgbfcucBccCfceeibuc",
     "BdbCubhdbbDmbchmiDubcjlhCvcBbbbbbbCdobfbcflbBkjbDyebgbccczcedqenbccgbpbBBbdBKkdBdcBecBecCmcbhibcljbB",
     "tdbbEncBibEodecjbgdIlccbCgbbhbbbbcigkcbBwobBfcmueBwbbfbbfbBojmcBgeccbdCebbcdbbdCgiccFwdbnbhebgbdcHqC",
     "mBBsnebdmEOcdFlbDsBgVieEdcBSQebekBgcDccKmbdbebzcfbFvcBasnbBmizlBudBwbceccBnbCpgccccmbibBvbBzbbdccfcb",
     "bBqcibJebcbebBDZsbBCjqqqBLlbIsbFtfCMgdbcfeBodebGjcWbeCnfMfcCzgCslBxeEtbCcpBpbcckdBxecchbCjdBkfbiCkbm",
     "cCajkecbDrdcbbcgbcbGbbdivcCfcdbBlhdfCsgnbbbbbocDhicdbbxbDggbbecbcJeegcbcBbcDhicbbcEcbbbcgbbDxbbbcebf",
     "JzjbcJwcbbebFoeccebBgkBogceibjgcdBunbcHqbbdbbHthbgbbDewchbcbcEsgdbbcbhbbCucdbbbNjclcCaffbbbxbHXtbgpQ",
     "YymddDSafChhBOibCleDdbBDBkcGYzBucxUydrichBeeFsdCYdCdeByibobwfbpCAihbrchbcbfDwbGehOlbCjeToeJucJjbcbhc",
     "fbSghEfhBTCIvJg"]),
  (["mc", "spacingmark"],
    ["DKtbCdbcdiebcBycCgdgccckbBrbCgdCobCgdibbcCbcCgbbbgccckbDycbcddbdkbBpdCjeCjcCgbbfccbcjcBcbocCgdfdbdkb",
     "BqcCxdgiscMscClbGpcebgbcczckdchvccgcbkdCLsbBebEzbhibcNiecdecbgIqcCgbbbjbbcigFpbBwbfbbfbcCjbBebeccbCi",
     "bcdbbdcBwiicGpbvbHHecBTLbccbDkcByqFmcBvbBwceccdEgcccybBtbbbEfbccfbJdcbcbcbbBLXjbbbExbBtdecElbycChbBw",
     "djcnbDpddcbbGodBfcCgcbecccdjbkcDgdhbcbbebcbbDxdicdbEcdgbbecbJddgecbEjdicbbEfbbcgbDzbbcebKbdjbJngbceb",
     "cbbbFmdieebDgbBdcCkbHtbdbbbHrbobEcbhbcbIffecbbNmcmbBwcicbbYYydFJgCdEacBKXncgg"]),
  (["me", "enclosingmark"],
    ["BSqcIKqbCIgebdBYOxd"]),
  (["nd", "decimalnumber", "digit"],
    ["BwkCIokFekHqkPwkEokEokEokEokEokEokEokEokEokDskEokCskKskCskCTqkBmkLokEykGkkgkHakDikFekgkCAEokBAckBmkH",
     "qkwkDikPqkBFMckCCkkDFykgkBEqkEykCikFokKskNekEokOkkDykguCykQgkDykZmkDikJmkCskCckNukYYgkDMckDikFekUokB",
     "KDykECqByDNckQgkTikJnkBGvkHBak"]),
  (["nl", "letternumber"],
    ["IRudDYtBjceFMsbzjodBSYlkBIFgCbRsbibFefMEsEhBCPpd"]),
  (["no", "othernumber"],
    ["GwcfbcdDMrgOmgEqdFdhIjhrjQrkBPluBRvkSmbCMvbdggkHqqBpbBByCiDawYgBeCBhbBTceFikBeibpBgkBnpBSMigBHQnBtCn",
     "ercNdBbBkeBZgizhBnjCxfwgGeccqcBuCmjCacBedCxfEaiyiBphMsgNoBfGckBqeEihFeuOpuBZxcQojBHntBGtvBCPqhBEsxBL",
     "YfumuEezIBujBJtChbdbeCyBtbpBLan"]),
  (["pc", "connectorpunctuation"],
    ["DrbMBvctbDGAocydJfb"]),
  (["pd", "dashpunctuation"],
    ["BtbCAubBzbFKjbBNpbDBdgFHxbcbBfcebBcbRebtbEhbCZWacBlbkbGnbFLobMgb"]),
  (["ps", "openpunctuation"],
    ["BobBybBfbFPebbbCUobDPmbdbBmbCdbpbYkbbbBebBPubbbbbbbbbbbbbDcbBgbbbbbbbbbPobbbbbbbbbbbbbbbbbbbbbCmbbbB",
     "hbBOvbbbbbbbzbsbbbbbbbQmbbbbbbbbbdbbbbbbbcbCZRtbIhbBdbbbbbbbbbbbbbbbdbrbbbbbGobBybBfbdbcb"]),
  (["pe", "closepunctuation"],
    ["BpbBzbBfbFPdbbbCUobDRdbCdbpbYkbbbBebBPubbbbbbbbbbbbbDcbBgbbbbbbbbbPobbbbbbbbbbbbbbbbbbbbbCmbbbBhbBOv",
     "bbbbbbbBsbbbbbbbQmbbbbbbbbbdbbbbbbbccCZRqbIjbBdbbbbbbbbbbbbbbbdbrbbbbbGobBzbBfbcbcb"]),
  (["pi", "initialpunctuation"],
    ["GpbLXkbcccbzbFFsbbbebcbpbdb"]),
  (["pf", "finalpunctuation"],
    ["HfbLWvbdbBcbFFsbbbebcbpbdb"]),
  (["po", "otherpunctuation"],
    ["BhdbdcbbbbckcdcBbbCqbfbochbBBabibRygBpbCcbcbcbBscucbcnbbdCweDybBroIzdCcpBfbKbckbFkbEqbErbPabmbOdbDmb",
     "kcGmpbbEibCwfecEhgGpbXojBDtbEudCtcGbdbdBlgbeMbcIicEyhbgGeckhBcdEueChfCkcCmilbBGcciiijcecddlbbbkEUceb",
     "cEibFncedcbcjbcbbcckfbkcebbbncdQmdCfbHhbBRYgcKjdDvbkbElgOqeDicBodbbBxcBvbDtnqcEueEwcqcJpbBFCuhcbwbuc",
     "ceddbehdgbbcFtdbdcbbbbckcdcBbbBkbccPudZsbBwbPybBCpbHrbBfbKmjBmbEihCohDleBFnbFcfBseHhhEfcbeEweBwcDbee",
     "bnbbdDkgEdbLmcbcEkfkcbbEabJqxEbdBcnCybFadJsbKedFzbDoiDfdbfDpkIhbDrfBqcYvcCwnGtbBRsfEJccWDvcFdbCnfibV",
     "gdLjeMpbBDBobLIlfEItbBHec"]),
  (["sm", "mathsymbol"],
    ["BrbqdCjbbbBtbebBlbBfbBDmbUhdJYhbnbBndndFjbBnfgbCqffcebcbcbhbBfccbbbBfKiBgcDmbBezBogSbbjbCciEhbMyfcBf",
     "kqJwFbwCleBgcJyBwvcgDASqbBFsbbdGibqdCjbbbFbbgeFEfcCVGabCYybzbBfbzbBfbzbBfbzbBfbzbIUecDTej"]),
  (["sc", "currencysymbol"],
    ["BkbEveBWjbEtbTecTechbJlbKdbWjbDQpbDIiBiBZHubBGMlbEebFybIlcdcMCseCVXebDRkb"]),
  (["sk", "modifiersymbol"],
    ["DqbbbCtbgbebdbUbemofhbbbrEnbocBXibIUmbbdldndndncGHocBSVrxjcDzcBLobocBEKkrBIhbbbGgbDOLjf"]),
  (["so", "othersymbol"],
    ["GkbcbebbbBLpbKgcExcHybkbtcJnbTvbOjbFagbbFcbHzbBpbPbdpbbdcgubbbbbFdibgbcfeHpcBCykBBvbBBubGbBiNpkjjCCh",
     "cbebckbbcggbbbbbbeblcobbcbbCgcjfcebcbcbhbBfccbbbBfKiieuchcDdbBezBogCuwlDdDawHbbjbCciEhbJoBsBsCmJwTsB",
     "wvcgBncFiIvgNtcBuBabDlmIgBaqebncmbvcgcMycekBgBmjbqBflBeibpBgkBnpMiJToCmBGUiCdBHhekcbbWbdBEUjqObqCmcC",
     "ciBtdSqbdbecncMbjCfrcdbndbBvBtCLucWtbBNsiDEsbDGnierBCNiefbBEUwbFVnJgkddQugxpqDsEmCiJmkBncCifdwchBeeC",
     "jvCodbHeDjBTxTsCdeByibobcCOubEHwbEzbBBtBseDwmpcpbpbBlxGfCeBdnBsejhcogFyJrfBCbdrdndIkgmebpmeCeikgBoiB",
     "ecmecCkNgiocndldCfbbeqcmekhFrbDokb"]),
  (["zs", "spaceseparator"],
    ["BgbExbIHjbDPnlBkbBvbFXwb"]),
  (["zl", "lineseparator"],
    ["MEqb"]),
  (["zp", "paragraphseparator"],
    ["MErb"]),
  (["cc", "control", "cntrl"],
    ["aBgDrBh"]),
  (["cf", "format"],
    ["GrbCAkgwbHkbBxbOucDcbFTjbDAqfBafBxfbkDGHjbJpdGIzbpbNKkqBZQueHWxiBTKZmbBeDs"]),
  (["cs", "surrogate"],
    ["DDUuDAu"]),
  (["co", "privateuse"],
    ["DGVoJMeCAHXoDSYocDSYo"]),
  (["cn", "unassigned"],
    ["BIecgehbbbubPhbBmcBycdbCdiBbeglKkbCicDxoChcBxcpbBccbblfBifJdbicccwbhbbdecjccceibecbfczcdbgeccwbhbcbc",
     "bccbbfeccddbhebbhrkdbjbdbwbhbcbfckbdbdcbpecmhhbdbicccwbhbcbfcjcccdhdecbfcskcbgddbedcbbbcdcdddmefddbe",
     "cbgbovfnbdbxbqcjbdbehcbdbcceckhwbdbxbkbfcjbdbehcfdbeckbdmnbdbBzbdbgeqcBabdbsdybjbbchdbegbbbigkcdmCge",
     "BdBlcbbbfbybbbxcfbbbhbkceBgCubBkeBnbBkbpbnBlHqbbfbcOnbechbbbecBpbecBhbechbbbecpbCfbecCpcBgdBagDicgcZ",
     "tdDlhwjyjumnbdbcmDqckgkgBagDlhBrfCskBfbmemebdBqcflBseBagldCkcCnbBdclgkgocBucmuCzbGkiCidpdCkfBrcliBrf",
     "UocgcBmcgcibbbbbbbBfcCbbpbocgbtcdbjbDxbmcBbbndBioBhpFkeZqwlvCRscOsfBtbbfbcCehcoyjhbhbhbhbhbhbhbhbEwB",
     "iBabDlmIgBaDcbDicDzfBrbDqbDijBwbBRIrdCdjNkuHciInuCidkgCeiCsimgEmlBedDableBhbCdjockcDzyBckgcgcgjhbhbC",
     "ieEwckgQNsmxeBxeNBacEcBmhmffBabfbbbcbcbZaBgBqgBzbtbeefbFfcbbHidgcgcgcddhbhkfcmbBabtbcbpcoBiEtfdeBtdD",
     "kbndbBvBuFaBddBxpBceBkjBefBrfBebBleoBqGcckgBkeBkeBoiCalmbpbhbcblbpbhbcdCamLzjwkiygbBqbjCrgcbbBsbcdbc",
     "xbCuijBwtbcfBhdBbfBbBmCeeucBybcfibdbBdcdekhjhCmBgBnemjCcdBdcBbfBahemhDcCvCdBznBzhBuikgBmdBdicIaBfbBq",
     "bdccqgijBhBuiBqwBaBmBcuxjDaeBkjCqkbczhkgCbbsiBnjDsbulsbBvCkhbbbebpblgChfkgebicccwbhbcbfbkcccdcbgbfhc",
     "hdflkbbcbbBmbkbbcbbebkbcicBdDobfBeCuikGkCccBmBiCrlkgntCggkguBcBbcpexHdCiDwDfmicbcibcbBebccmjkCsicBuc",
     "lBbCuiDfnCvhkDiiDkBiokgjbBtbokBddBgcwboCvhbcbBsdbbcbjikggbcbBlbcbghkgBsekJmzhrbBpdBdDhbpBynBJnDyEhbf",
     "lHoDXkDvnBQskFXrfWlKDdCgCOsVxhBfbkeDdbkgBecgkCskkbhbvftQqCgHqDnfzczBsCxeCfhrCmflhjKXyBpBgDtElMWrebhb",
     "cbLfpbBddcboeiPgDKuEdfndjhkciFVgJtdQugxprpBucxjEmCiJmkBncHmvCsEsumumDjjzFfDhbCtbccbcccebmbbbhbCnbeci",
     "bhbBcbebfbbdhbNccLgcBBapfbpBQmBfggIfhbrchbcbffCkBhbEiBtdockecMiBfrCgfbRwBqIgBrebHkBfbwicIqhbebcbpbHp",
     "cqBpCyekecBEfCqCyCjHmebBbbcbbcbbkbebbbbgbebbbbbbdbcbbcbbbbbbbbbbcbbcebhbebebbbkbrfdbfbrCacKkBseDwmpc",
     "pbpbBlkGsCeBdnBsejhcogFyBLxdrdndIkgmebpmeCeikgBoiBecmecojBnNgiocndldCfbbeqcmekhFrbDzBNpCLFcBgGMocIOc",
     "cLBlpXyDQwUwCFyHHzfMOoBOGOdbBeDsEyJgDSFoDSYocDSYoc"])]

end EventBroker.Unicode.Data
