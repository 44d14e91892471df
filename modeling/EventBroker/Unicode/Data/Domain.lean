/-
What may stand in a domain name and what is written in its place.

Each set is written as the gaps and the lengths of its ranges, in turn; a number is written in base 26, its last digit as a small
letter and the digits before as capitals.
-/

namespace EventBroker.Unicode.Data

/-- code points that stand for themselves -/
def domainValid : List String :=
  ["aCnBaBlBhhbbbcbbbcecdbdbxbhBhbbbbbbbbbbbbbbbbbbbbbbbbbbbbbbbbbbbbbbbbbbbbbbbbbbdbbcbbbbbbdbbbbbbbcbb",
     "bbbbbbbbbbbbbbbbbbbbbbbbbbbbbbbbbbbbbbbbbbbcbbbbbbbcbbbcbdcebcbddcbcbbbbbcbbcbbcbdbbbcdbhkbbbbbbbbbb",
     "bbbbcbbbbbbbbbbbbbbbbbcebdbbbbbbbbbbbbbbbbbbbbbbbbbbbbbbbbbbbbbbbbbbbbbbbbbbbbbbbbbbhcbccbbebbbbbbbb",
     "DtjBfgcfDncbdjbBgbbbbbbbbddsbBbBjibbbbbbbbbbbbbbbbbbbbbbbbbdbcbbbccBzBwbbbbbbbbbbbbbbbbbbbbbbbbbbbbb",
     "bbbbjbbbbbbbbbbbbbbbbbbbbbbbbbbbbbbbbbbbbbbbbbbbbbbbbbbbbbbcbbbbbbbbbbbbcbbbbbbbbbbbbbbbbbbbbbbbbbbb",
     "bbbbbbbbbbbbbbbbbbbbbbbbbbbbbbbbbbbbbbbbbbbbbbbbbbbbbbbbbbbbbbbbbbbbbBpBubdcdbCdiBbegrwbDkeDwbBwcChc",
     "DxoChcBxcpbBccbblfBghCxbEniBkbicccwbhbbdecjccceibieczcdbgeccwbhbbcbcccbbfeccddbkbjrkdbjbdbwbhbcbfckb",
     "dbdcbpecmhhbdbicccwbhbcbfcjcccdhdhfcskcbgddbedcbbbcdcdddmefddbecbgbovfnbdbxbqcjbdbehcbdbcceckhwbdbxb",
     "kbfcjbdbehcfdbeckbdmnbdbBzbdbgeqcBabdbsdybjbbchdbegbbbigkcdmBybheBdBlcbbbfbybbbmbkcfbbbhbkecBgmbCcbe",
     "bebebebebmbdecbbfhbrbebebebebebmbdbpbnBlGeBwBsbDucIybechbbbecBpbecBhbechbbbecpbCfbecCpcBgdBagDikYqbB",
     "cdDlhwjyjumnbdbcmCacBockgkglfkgDlhBrfCskBfbmemebdBqcflBseBagldCkcCnbBdclgkgocBucmuCzbGkiCidpdBzkbCbi",
     "iBrfBsdblbsbBcnbBiBlCmbbbbbbbbbbbbbbbbbbbbbbbbbbbbbbbbbbbbbbbbbbbbbbbbbbbbbbbbbbbbbbbbbbbbbbbbbbbbbb",
     "bbbbbbbbbbbbbbbbbbbbbbbbbbbbbbbbbbbbbbbbbbbbbbbbbbbbbbbbbbbbbbbbbbbbbbbfccbbbbbbbbbbbbbbbbbbbbbbbbbb",
     "bbbbbbbbbbbbbbbbbbbbbbbbbbbbbbbbbbbbbbbbbbbbbbbbbbbbbbbbbbbbbbbbbbbbbbbjigkiiiigkiiiibbbbbbbbbbbbbBz",
     "cebpbjddcidbeobvccbbfbmdbidcbcebbbidnbhCnibzoBhtbdblbccfcdbbbbbbbeblbgefgBwdbfbceGacbcJocJvwlGeBYnbD",
     "zdDxbFvcFiBwBwbbdcbbbbbbebbcbgfbbbbbbbbbbbbbbbbbbbbbbbbbbbbbbbbbbbbbbbbbbbbbbbbbbbbbbbbbbbbbbbbbbbbb",
     "bbbbbbbbbbbbbbbbbbbbbbbbbbbbbibbbebbfBtbbfbcCeiboyjhbhbhbhbhbhbhbhbEwBiBabebDfKkbbBzbbdfbDiccccbDrgB",
     "rDscoCskqCuiBvbOuBQQfdCdjNkvbbbbbbbbbbbbbbbbbbbbbbbbbbbbbbbbbbbbbbbbbbbbtbbbbbbbbbbbbbbbbbbbbbbbbbbb",
     "bcDmiBibbbbbbbbbbbbbdbbbbbbbbbbbbbbbbbbbbbbbbbbbbbbbbbbbbbbbbbbbbbbbbbbbbbbbbbbbbbbbibbbbcbbbbbbbbeb",
     "bbcbbbdbbbbbbbbbbbbbbbbbbbbfbfbbbbbbbbbbbbbbbebbbcbbbbbbbbbbbbbbbBaccBzdkgCeiCsimgEmlBedDableBhbCdjo",
     "ckcDzyBckgcgcgjhbhbBsejbcDgBuckgQNsmxeBxMXmcbbbckbbbbccdJkbFrBhNzsCmcCciBtdBgqvcBsbPgmbBabtbcbpcoBiE",
     "tfdeBtdDkbndbBvBuFaBddBxpBceBkjBefBrfBebBleoDeEockBuBkeBoiCalbBnlbpbhbcdCamLzjwkiybExgcbbBsbcdbcxbCu",
     "ijBwtbcfBhdBbfBbBmCeeucBybcfibdbBdcdekhjhCmBgBnemjCcdBdcBbfBahemhDcCvEpBzhBuikgqzBdicIaBfbBqbdccqgij",
     "BhBuiBqwBaBmBcuxjDaeBkjCkbfnzhkgCbbsiBnjDsbulsbBvCkhbbbebpblgChfkgebicccwbhbcbfbkcccdcbgbfhchdflkbbc",
     "bbBmbkbbcbbebkbcicBdDobfBeCuikGkCccBmBiCrlkgntCggkguBcBbcpexHdCiFcBzmicbcibcbBebccmjkCsicBuclBbCuiDf",
     "nCvhkDiiDkBiokgjbBtbokBddBgcwboCvhbcbBsdbbcbjikggbcbBlbcbghkgBsekJmzhrbBpdBdDhbpBynBJnDyEhbflHoDXkDv",
     "nBPgqwkFXrfWlKDdCgCOsVxhBfbkeDdbkgBecgkCskkbhbvftQqCgIwChBgzBsCxeCfhrCmflhjKXyBpBgDtElMWrebhbcbLfpbB",
     "ddcboeiPgDKuEdfndjhkceFVkIgBkddQugxprpBucxjEmCiJmkBncCbhoiCmgBqvCsEsumumDjjzBSpZcpfbpBQmBfggIfhbrchb",
     "cbfDwbEiBtdockecMiBfrCgfbRwBqIgBrebHkBfbwicIqhbebcbpbHpcqCxBqekecBEfCqCyCjQscKkBseDwmpcpbpbBlvfBfbBg",
     "BadBjbBdCeBaDsgFyBLxdrdndIkgmebpmeCeikgBoiBecmecojBnNgiocndldCfbbeqcmekhFrbDokbBNpCLFcBgGMocIOccLBlp",
     "XyGRqHHzfMOo"]

/-- code points that are left out -/
def domainIgnored : List String :=
  ["GrbZxbFIlcCKhcDhfDApbDgffgGKybCZMpqJfbGebCTOxeHWxiBTLJhJg"]

/-- code points that stand for others: the distance from the code point before, the number of code points it stands for, and these -/
def domainMapped : List String :=
  ["CnbDtbbDubbDvbbDwbbDxbbDybbDzbbEabbEbbbEcbbEdbbEebbEfbbEgbbEhbbEibbEjbbEkbbElbbEmbbEnbbEobbEpbbEqbbE",
     "rbbEsCsbBgicBgBDwcbDtfcBgBDsdbBybbBzbcBgBDpbbBKudcBgBFbbbBxbbEhcdBxMFsCabdBxMFsBybdBzMFsCacbIqbbIrbb",
     "IsbbItbbIubbIvbbIwbbIxbbIybbIzbbJabbJbbbJcbbJdbbJebbJfbbJgbbJhbbJibbJjbbJkbbJlbbJmcbJobbJpbbJqbbJrbb",
     "JsbbJtbbJuBibJxcbJzcbKbcbKdcbKfcbKhcbKjcbKlcbKncbKpcbKrcbKtcbKvcbKxcbKzcbLbcbLdcbLfcbLhcbLjcbLlcbLnc",
     "bLpcbLrccEbBDvccEbEcbcEbEcbbLxcbLzdbMccbMecbMgccEeHbbcEeHbbbMkcbMmcbMocbMqccBAyEgbbMtcbMvcbMxcbMzcbN",
     "bcbNdcbNfcbNhcbNjcbNlcbNncbNpcbNrcbNtcbNvcbNxcbNzcbObcbOdcbOfcbOhcbOjcbOlcbJvbbOocbOqcbOscbElcbWxbbO",
     "xcbOzcbWybbPccbXabbXbbbPgdbSjbbXdbbXfbbPmcbXkbbXncbXtbbXsbbPtebXzbbYccbYfbbQbcbQdcbQfcbYqbbQicbYtdbQ",
     "ncbYybbQqcbZabbZbbbQucbQwcbZibbQzebRdicDwOsbcDwOsbcDwOsbcEeEcbcEeEcbcEeEcbcEgEcbcEgEcbcEgEcbbRucbRwc",
     "bRycbSacbSccbSecbSgcbSidbSlcbSncbSpcbSrcbStcbSvcbSxcbSzcbTbdcDwEsbcDwEsbcDwEsbbThcbPpbbRfbbTlcbTncbT",
     "pcbTrcbTtcbTvcbTxcbTzcbUbcbUdcbUfcbUhcbUjcbUlcbUncbUpcbUrcbUtcbUvcbUxcbPycbVbcbVdcbVfcbVhcbVjcbVlcbV",
     "ncbVpcbVribQVdbbWacbPubbQVedbWgcbOubbYzbbZcbbWlcbWncbWpcbWrcbWtDubEabbXqbbEcbbEkbbYjbbYlbbYrbbEpbbEr",
     "BgcBgBDubcBgBDvbcBgBDybcBgBFcbcBgBDrbcBgBDzdbXnbbEebbElbbEqbbZlDobBDobbBDpcbBEhbcBDwBDpbbBKrBrbBHxcb",
     "BHzcbBAvcbBIdecBgBKrebChbbBMxfcBgBDpbdBgBDwBDpbbBKebbHbbbBKfbbBKgbbBKhcbBLkcbBLlbbBLmcbBKjbbBKkbbBKl",
     "bbBKmbbBKnbbBKobbBKpbbBKqbbBKrbbBKsbbBKtbbBKubbBKvbbBKwbbBKxbbBKybbBKzcbBLbbbBLcbbBLdbbBLebbBLfbbBLg",
     "bbBLhbbBLibbBLjBkbBLvbbBKkbbBKqbbBLdbbBLlbbBLjbbBLebbBKycbBLxcbBLzcbBMbcbBMdcbBMfcbBMhcbBMjcbBMlcbBM",
     "ncbBMpcbBMrcbBMtcbBKsbbBKzbbBLbcbBKqbbBKncbBNccbBLbbbBNfdbBIhbbBIibbBIjbbBQmbbBQnbbBQobbBQpbbBQqbbBQ",
     "rbbBQsbbBQtbbBQubbBQvbbBQwbbBQxbbBQybbBQzbbBRabbBRbbbBPgbbBPhbbBPibbBPjbbBPkbbBPlbbBPmbbBPnbbBPobbBP",
     "pbbBPqbbBPrbbBPsbbBPtbbBPubbBPvbbBPwbbBPxbbBPybbBPzbbBQabbBQbbbBQcbbBQdbbBQebbBQfbbBQgbbBQhbbBQibbBQ",
     "jbbBQkbbBQlBxbBRdcbBRfcbBRhcbBRjcbBRlcbBRncbBRpcbBRrcbBRtcbBRvcbBRxcbBRzcbBSbcbBSdcbBSfcbBShcbBSjkbB",
     "StcbBSvcbBSxcbBSzcbBTbcbBTdcbBTfcbBThcbBTjcbBTlcbBTncbBTpcbBTrcbBTtcbBTvcbBTxcbBTzcbBUbcbBUdcbBUfcbB",
     "UhcbBUjcbBUlcbBUncbBUpcbBUrcbBUtcbBVjbbBUwcbBUycbBVacbBVccbBVecbBVgcbBVidbBVlcbBVncbBVpcbBVrcbBVtcbB",
     "VvcbBVxcbBVzcbBWbcbBWdcbBWfcbBWhcbBWjcbBWlcbBWncbBWpcbBWrcbBWtcbBWvcbBWxcbBWzcbBXbcbBXdcbBXfcbBXhcbB",
     "XjcbBXlcbBXncbBXpcbBXrcbBXtcbBXvcbBXxcbBXzcbBYbcbBYdcbBYfcbBYhcbBYjcbBYlcbBYncbBYpcbBYrcbBYtcbBYvcbB",
     "YxcbBYzcbBZbdbCAzbbCBabbCBbbbCBcbbCBdbbCBebbCBfbbCBgbbCBhbbCBibbCBjbbCBkbbCBlbbCBmbbCBnbbCBobbCBpbbC",
     "BqbbCBrbbCBsbbCBtbbCBubbCBvbbCBwbbCBxbbCBybbCBzbbCCabbCCbbbCCcbbCCdbbCCebbCCfbbCCgbbCChbbCCibbCCjbbC",
     "CkBxcCBdCCgJecCIpCLobcCJwCLobcCOtCLobcCJyCLoBCicDLlDMybcDLmDMybcDLnDMybcDLsDMybcDLxDMybcDLyDMybcDMhD",
     "MybcDMlDMyEvcDQvDRwbcDQwDRwccDRjDRwDgcDWkDWudcDWqDWuBjcDViDWubcDVjDWubcDVoDWudcDWdDWuJucEFpEGqbcEFqE",
     "GqBBycFKvFJuEycFPtFOsBpcFOlFNtbcFOlFObBvbFSdCdcFUgFYtkcFUqFYtfcFUvFYtfcFVaFYtfcFVfFYtncFUeFYrkcFWbFW",
     "cccFWbFWebcFYoFWqbdFYoFWbFWqbcFYpFWqbdFYpFWbFWqicFWbFWqscFXiFYtkcFXsFYtfcFXxFYtfcFYcFYtfcFYhFYtncFXg",
     "FYrIxbRBcbbRBdbbRBebbRBfbbRBgbbRBhbbRBibbRBjbbRBkbbRBlbbRBmbbRBnbbRBobbRBpbbRBqbbRBrbbRBsbbRBtbbRBub",
     "bRBvbbRBwbbRBxbbRBybbRBzbbRCabbRCbbbRCcbbRCdbbRCebbRCfbbRCgbbRChbbRCibbRCjbbRCkbbRClbbRCmbbRCncbRCpg",
     "bRCvBvbGKaBDkbHOibbHOjbbHOkbbHOlbbHOmbbHOnDFvbBPibbBPkbbBPubbBPxbbBPybbBPybbBQgbbBRfbbCKZjbbKVahbGJo",
     "bbGJpbbGJqbbGJrbbGJsbbGJtbbGJubbGJvbbGJwbbGJxbbGJybbGJzbbGKabbGKbbbGKcbbGKdbbGKebbGKfbbGKgbbGKhbbGKi",
     "bbGKjbbGKkbbGKlbbGKmbbGKnbbGKobbGKpbbGKqbbGKrbbGKsbbGKtbbGKubbGKvbbGKwbbGKxbbGKybbGKzbbGLabbGLbbbGLc",
     "bbGLdbbGLedbGLhbbGLibbGLjEfbDtbbIwbbDucbDwbbDxbbSjbbDzbbEabbEbbbEcbbEdbbEebbEfbbEgcbEhbbVbbbEibbEkbb",
     "EmbbEnbbEpbbDtbbWubbWvbbKZqbbDubbDwbbDxbbXdbbXfbbXgbbDzcbEdbbEfbbMtbbEhbbWybbLAkbbLAlbbEibbEmbbEnbbL",
     "ArbbXzbbEobbLAzbbBKkbbBKlbbBKmbbBLebbBLfbbEbbbEkbbEnbbEobbBKkbbBKlbbBKzbbBLebbBLfobBPtBjbWwbbDvbbWzb",
     "bJgbbXgbbDybbXjbbXlbbXpbbXsbbXtbbXubbLEhbbZtbbXxbbLErbbZvbbYbbbYabbYcbbYdbbYebbYfbbYibbYsbbYtbbQlbbY",
     "zbbZabbLAqbbZbbbZcbbEsbbZgbbZhbbZibbBKqCnbLJlcbLJncbLJpcbLJrcbLJtcbLJvcbLJxcbLJzcbLKbcbLKdcbLKfcbLKh",
     "cbLKjcbLKlcbLKncbLKpcbLKrcbLKtcbLKvcbLKxcbLKzcbLLbcbLLdcbLLfcbLLhcbLLjcbLLlcbLLncbLLpcbLLrcbLLtcbLLv",
     "cbLLxcbLLzcbLMbcbLMdcbLMfcbLMhcbLMjcbLMlcbLMncbLMpcbLMrcbLMtcbLMvcbLMxcbLMzcbLNbcbLNdcbLNfcbLNhcbLNj",
     "cbLNlcbLNncbLNpcbLNrcbLNtcbLNvcbLNxcbLNzcbLObcbLOdcbLOfcbLOhcbLOjcbLOlcbLOncbLOpcbLOrcbLOtcbLOvcbLOx",
     "cbLOzcbLPbcbLPdgcDtBBabbLNddbIpcbLPpcbLPrcbLPtcbLPvcbLPxcbLPzcbLQbcbLQdcbLQfcbLQhcbLQjcbLQlcbLQncbLQ",
     "pcbLQrcbLQtcbLQvcbLQxcbLQzcbLRbcbLRdcbLRfcbLRhcbLRjcbLRlcbLRncbLRpcbLRrcbLRtcbLRvcbLRxcbLRzcbLSbcbLS",
     "dcbLSfcbLShcbLSjcbLSlcbLSncbLSpcbLSrcbLStcbLSvcbLSxcbLSzcbLTbcbLTdcbLTfkbLTgbbLThbbLTibbLTjbbLTkbbLT",
     "lbbLTmbbLTnjbLTwbbLTxbbLTybbLTzbbLUabbLUblbLUmbbLUnbbLUobbLUpbbLUqbbLUrbbLUsbbLUtjbLVcbbLVdbbLVebbLV",
     "fbbLVgbbLVhbbLVibbLVjjbLVsbbLVtbbLVubbLVvbbLVwbbLVxmbLWjcbLWlcbLWncbLWpjbLWybbLWzbbLXabbLXbbbLXcbbLX",
     "dbbLXebbLXfcbBKecbBKfcbBKgcbBKhcbBLkcbBLlcbBLmdcLTgBKrbcLThBKrbcLTiBKrbcLTjBKrbcLTkBKrbcLTlBKrbcLTmB",
     "KrbcLTnBKrbcLTgBKrbcLThBKrbcLTiBKrbcLTjBKrbcLTkBKrbcLTlBKrbcLTmBKrbcLTnBKrbcLUmBKrbcLUnBKrbcLUoBKrbc",
     "LUpBKrbcLUqBKrbcLUrBKrbcLUsBKrbcLUtBKrbcLUmBKrbcLUnBKrbcLUoBKrbcLUpBKrbcLUqBKrbcLUrBKrbcLUsBKrbcLUtB",
     "KrbcLWyBKrbcLWzBKrbcLXaBKrbcLXbBKrbcLXcBKrbcLXdBKrbcLXeBKrbcLXfBKrbcLWyBKrbcLWzBKrbcLXaBKrbcLXbBKrbc",
     "LXcBKrbcLXdBKrbcLXeBKrbcLXfBKrdcLXoBKrbcBKjBKrbcBKeBKrdcMAgBKrbbMAabbMAbbbLXobbBKebcBKjBKrbcBgBEhbbB",
     "KrbcBgBEhbcBgBGcbdBgBDwBGcbcLXsBKrbcBKpBKrbcBKgBKrdcMAwBKrbbLXqbbBKfbbLXsbbBKgbcBKpBKrbdBgBEhBDobdBg",
     "BEhBDpbdBgBEhBGcebBJcfbMBgbbMBhbbLXubbBKhcdBgBEiBDobdBgBEiBDpbdBgBEiBGcebBKifbMBwbbMBxbbLXybbBLlbbMC",
     "bbdBgBDwBDobdBgBDwBDpbbDsdcLYaBKrbcBLhBKrbcBLmBKrdcMCsBKrbbLXwbbBLkbbLYabbBLmbcBLhBKrbcBgBDpbcBgBEic",
     "bBgbbBgbbBgbbBgbbBgbbBgbbBgbbBgbbBgbbBgbbBghbMDsgcBgBFnybBgecMFaMFabdMFaMFaMFaccMFdMFdbdMFdMFdMFdfcB",
     "hBhccBgBDtjcClClbcClBhbcBhCloeMFaMFaMFaMFaibBgrbBwbbEbdbCabbCbbbCcbbCdbbCebbCfbbBrbbMXmbbCjbbBobbBpb",
     "bEgbbBwbbBxbbBybbBzbbCabbCbbbCcbbCdbbCebbCfbbBrbbMXmbbCjbbBobbBpcbDtbbDxbbEhbbEqbbXdbbEabbEdbbEebbEf",
     "bbEgbbEibbElbbEmmcEkElDkdDtBvDvbdDtBvElbbDvbcGuDvcdDvBvEhbdDvBvEnbbXfccGuDybbDzbbEabbEabbEabbEabbLjb",
     "bEbbbEbbbEebbEecbEgbcEgEhdbEibbEjbbEkbbEkbbEkdcElEfbdEmDxEebcEmEfcbEscbBLhcbEscbEdbbIvbbDubbDvcbDxbb",
     "DxbbDybbMPybbEfbbEhbbCFgbbCFhbbCFibbCFjbbEbcdDyDtEqbbBKybbBKlbbBKlbbBKybbMXlfbDwbbDwbbDxbbEbbbEchdBx",
     "MFsCdbdBxMFsCfbeBxMFsBxBwbdBxMFsBzbdByMFsBzbdBxMFsCbbdByMFsCbbdBzMFsCbbdCaMFsCbbdBxMFsCcbdCbMFsCcbdB",
     "xMFsCebdBzMFsCebdCbMFsCebdCdMFsCebcBxMFsbbEbbcEbEbbdEbEbEbbcEbEobbEobcEoEbbdEoEbEbbeEoEbEbEbbcEbEqbb",
     "EqbcEqEbbdEqEbEbbbEebbDvbbDwbbEfbbEbbcEbEbbdEbEbEbbcEbEobbEobcEoEbbdEoEbEbbeEoEbEbEbbcEbEqbbEqbcEqEb",
     "bdEqEbEbbbEebbDvbbDwbbEfebMSagdBwMFsBzGhcMYlMYlbdMYlMYlMYlccMYoMYobdMYoMYoMYoJpbSEybbSEzLybBxbbBybbB",
     "zbbCabbCbbbCcbbCdbbCebbCfbcBxBwbcBxBxbcBxBybcBxBzbcBxCabcBxCbbcBxCcbcBxCdbcBxCebcBxCfbcByBwbdBoBxBpb",
     "dBoByBpbdBoBzBpbdBoCaBpbdBoCbBpbdBoCcBpbdBoCdBpbdBoCeBpbdBoCfBpbeBoBxBwBpbeBoBxBxBpbeBoBxByBpbeBoBxB",
     "zBpbeBoBxCaBpbeBoBxCbBpbeBoBxCcBpbeBoBxCdBpbeBoBxCeBpbeBoBxCfBpbeBoByBwBpvdBoDtBpbdBoDuBpbdBoDvBpbdB",
     "oDwBpbdBoDxBpbdBoDyBpbdBoDzBpbdBoEaBpbdBoEbBpbdBoEcBpbdBoEdBpbdBoEeBpbdBoEfBpbdBoEgBpbdBoEhBpbdBoEiB",
     "pbdBoEjBpbdBoEkBpbdBoElBpbdBoEmBpbdBoEnBpbdBoEoBpbdBoEpBpbdBoEqBpbdBoErBpbdBoEsBpbbDtbbDubbDvbbDwbbD",
     "xbbDybbDzbbEabbEbbbEcbbEdbbEebbEfbbEgbbEhbbEibbEjbbEkbbElbbEmbbEnbbEobbEpbbEqbbErbbEsbbDtbbDubbDvbbD",
     "wbbDxbbDybbDzbbEabbEbbbEcbbEdbbEebbEfbbEgbbEhbbEibbEjbbEkbbElbbEmbbEnbbEobbEpbbEqbbErbbEsbbBwBYoeMYl",
     "MYlMYlMYlEadCgCgCjbcCjCjbdCjCjCjDycQGbBFsLgbQTcbbQTdbbQTebbQTfbbQTgbbQThbbQTibbQTjbbQTkbbQTlbbQTmbbQ",
     "TnbbQTobbQTpbbQTqbbQTrbbQTsbbQTtbbQTubbQTvbbQTwbbQTxbbQTybbQTzbbQUabbQUbbbQUcbbQUdbbQUebbQUfbbQUgbbQ",
     "UhbbQUibbQUjbbQUkbbQUlbbQUmbbQUnbbQUobbQUpbbQUqbbQUrbbQUsbbQUtbbQUubbQUvbbQUwbbQUxBxbQUzcbXvbbLEjbbY",
     "ndbQVgcbQVicbQVkcbWvbbYbbbWubbWwcbQVrdbQVuhbEcbbEobbWdbbWebbQWfcbQWhcbQWjcbQWlcbQWncbQWpcbQWrcbQWtcb",
     "QWvcbQWxcbQWzcbQXbcbQXdcbQXfcbQXhcbQXjcbQXlcbQXncbQXpcbQXrcbQXtcbQXvcbQXxcbQXzcbQYbcbQYdcbQYfcbQYhcb",
     "QYjcbQYlcbQYncbQYpcbQYrcbQYtcbQYvcbQYxcbQYzcbQZbcbQZdcbQZfcbQZhcbQZjcbQZlcbQZncbQZpcbQZrcbQZtcbQZvcb",
     "QZxcbQZzjbRAicbRAkfbRApEvbREvLsbBOVlDgbCILrnbBDOabbBDPobbBDQcbbBDQlbbBDRlbbBDTdbbBDTkbbBDUebbBDVebbB",
     "ETzbbBEVlbbBEVrbbBEWobbBEXibbBEYdbbBFAebbBFAzbbBFBkbbBFHjbbBFKzbbBFMbbbBFMgbbBFNkbbBFNtbbBFOubbBFPhb",
     "bBFQgbbBFSgbbBFSybbBFTzbbBGXbbbBGZvbbBHRnbbBHSkbbBHSsbbBHTdbbBHTvbbBHWtbbBIPcbbBIQybbBIVobbBIWlbbBIX",
     "ebbBIYabbBJAcbbBJAfbbBJOdbbBJOnbbBJOzbbBJPmbbBJTybbBJUgbbBJUlbbBJYybbBJZibbBJZvbbBKAdbbBKCmbbBKDdbbB",
     "KDvbbBKGxbbBLDgbbBLFabbBLFvbbBMIhbbBMImbbBMLrbbBMMhbbBMMubbBMNpbbBMPcbbBMPhbbBMZobbBNAmbbBNBsbbBOOub",
     "bBORibbBOSfbbBOUlbbBOVjbbBOVsbbBOVzbbBOXzbbBOYebbBOZkbbBQOxbbBRGcbbBRGobbBRGtbbBRGxbbBRHfbbBRHxbbBRH",
     "zbbBRLcbbBRTkbbBRTpbbBSGqbbBSHabbBSIybbBSJfbbBSJobbBSJwbbBSNjbbBSNqbbBSWkbbBSWrbbBSYobbBSZfbbBTBabbB",
     "TKdbbBTKkbbBTLbbbBTXqbbBUCmbbBUCsbbBUJsbbBUNbbbBUOvbbBVDjbbBVImbbBWEobbBWFpbbBWHubbBWJtbbBWMjbbBWMub",
     "bBWNabbBWOhbbBWRfbbBWRpbbBXExbbBXFebbBXFnbbBXFwbbBXGmbbBXHbbbBXHfbbBXKgbbBXKkbbBXKqbbBYWjbbBYXnbbBZP",
     "obbBZQabbBZQxbbCABubbCAChbbCAFabbCAGubbCBCpbbCBDebbCBDtbbCBFcbbCBGnbbCBOebbCBOqbbCBRfbbCCAtbbCCBybbC",
     "CJzbbCCKubbCCKzbbCCTlbbCDAnbbCDFibbCDFobbCDFtbbCEPrbbCEQabbCEWabbCFBybbCFCbbbCFDwbbCFHxbbCFIkbbCFIob",
     "bCFIvbbCFMpbbCFNxbbCFOdbbCFOrbbCFVcbbCFXbbbCFXfbbCGEgbbCGEjbbCGFcbbCGOubbCGQqbbCGQxbbCGTpbbCGTzbbCGU",
     "cbbCGUmbbCGVqbbCHKvbbCIAfbbCIApbbCICbbbCICxbbCIDfbbCIDpbbCIDtbbCIFhbbCIFlbbCIGcbbCIGhbbCIGubbCIHvbbC",
     "IIkbbCIIsbbCIKzbbCILobbCILsBrbBgcbBuCabSFicbBFNtbbBFNwbbBFNxDtcBgSKnbcBgSKodcSJwSJyDscSLnSMiBybGLkbb",
     "GLlbbGRybbGLmbbGSabbGSbbbGLnbbGLobbGLpbbGSebbGSfbbGSgbbGShbbGSibbGSjbbGMkbbGLqbbGLrbbGLsbbGMrbbGLtbb",
     "GLubbGLvbbGLwbbGLxbbGLybbGLzbbGMabbGMbbbGMcbbGPdbbGPebbGPfbbGPgbbGPhbbGPibbGPjbbGPkbbGPlbbGPmbbGPnbb",
     "GPobbGPpbbGPqbbGPrbbGPsbbGPtbbGPubbGPvbbGPwbbGPxcbGMebbGMfbbGTbbbGTcbbGTgbbGTibbGTnbbGTrbbGTtbbGMmbb",
     "GTxbbGTzbbGMnbbGMobbGMqbbGMsbbGMtbbGMxbbGMzbbGNbbbGNcbbGNdbbGNebbGNfbbGNibbGNmbbGNwbbGOdbbGOibbGUrbb",
     "GUsbbGOtbbGOubbGOvbbGQmbbGQnbbGQqbbGQzbbGRabbGRcbbGRmbbGRpebBDOabbBDTkbbBDOjbbBGXfbbBDOkbbBDPtbbBDOl",
     "bbBSJybbBDRlbbBDOzbbBDObbbBHTxbbBHAmbbBDVeDtdBoGLkBpbdBoGLmBpbdBoGLnBpbdBoGLpBpbdBoGLqBpbdBoGLrBpbdB",
     "oGLtBpbdBoGLvBpbdBoGLwBpbdBoGLyBpbdBoGLzBpbdBoGMaBpbdBoGMbBpbdBoGMcBpbdBoCNDoBpbdBoCOWuBpbdBoCPTkBpb",
     "dBoCRMqBpbdBoCSJgBpbdBoCTFwBpbdBoCUZcBpbdBoCWSiBpbdBoCXOyBpbdBoCZIeBpbdBoDAEuBpbdBoDBBkBpbdBoDBYaBpb",
     "dBoDCUqBpbdBoCYCyBpbeBoCXAyCXTkBpbeBoCXAyDDIqBpcdBoBDOaBpbdBoBDTkBpbdBoBDOjBpbdBoBGXfBpbdBoBDTsBpbdB",
     "oBEVtBpbdBoBDOdBpbdBoBEVrBpbdBoBDRpBpbdBoBFNtBpbdBoBNAmBpbdBoBQOxBpbdBoBOZkBpbdBoBNBsBpbdBoCDFtBpbdB",
     "oBGZvBpbdBoBMPhBpbdBoBNLqBpbdBoBNAnBpbdBoBTXuBpbdBoBFVpBpbdBoBRJdBpbdBoCBGrBpbdBoBTYzBpbdBoBFIiBpbdB",
     "oBDWtBpbdBoBFZwBpbdBoBIPyBpbdBoBTApBpbdBoBDXxBpbdBoCBIdBpbdBoBFOmBpbdBoBTZpBpbdBoBDYnBpbdBoBXFeBpbdB",
     "oBXFnBpbbBGHzbbBJUibbBMLrbbBUUpjdEiEmDxbcByBxbcByBybcByBzbcByCabcByCbbcByCcbcByCdbcByCebcByCfbcBzBwb",
     "cBzBxbcBzBybcBzBzbcBzCabcBzCbbbGLkbbGLmbbGLnbbGLpbbGLqbbGLrbbGLtbbGLvbbGLwbbGLybbGLzbbGMabbGMbbbGMcb",
     "bCNDobbCOWubbCPTkbbCRMqbbCSJgbbCTFwbbCUZcbbCWSibbCXOybbCZIebbDAEubbDBBkbbDBYabbDCUqbcCZIuCNMebcCYCyC",
     "XMubbCXGicbBDOabbBDTkbbBDOjbbBGXfbbBDTsbbBEVtbbBDOdbbBEVrbbBDRpbbBFNtbbBNAmbbBQOxbbBOZkbbBNBsbbCDFtb",
     "bBGZvbbBMPhbbBNLqbbBNAnbbBTXubbBFVpbbBRJdbbCBGrbbBTYzbbBFIibbBUDsbbBSKdbbBHWtbbCCRxbbBETebbBFPobbBPG",
     "ibbCFOvbbBDYnbbBEXlbbBORjbbBDOkbbBDPtbbBDOlbbBJOobbBFUpbbBFNnbbBIRvbbBIPybbBTApbbBDXxbbCBIdbbBFOmbbB",
     "HTkbcBzCcbcBzCdbcBzCebcBzCfbcCaBwbcCaBxbcCaBybcCaBzbcCaCabcCaCbbcCaCcbcCaCdbcCaCebcCaCfbcCbBwbcBxBNA",
     "mbcByBNAmbcBzBNAmbcCaBNAmbcCbBNAmbcCcBNAmbcCdBNAmbcCeBNAmbcCfBNAmbdBxBwBNAmbdBxBxBNAmbdBxByBNAmbcEaD",
     "zbdDxEkDzbcDxEobdEeEmDwbbSKwbbSKybbSLabbSLcbbSLebbSLfbbSLhbbSLjbbSLlbbSLnbbSLpbbSLrbbSLtbbSLvbbSLxbb",
     "SLzbbSMbbbSMebbSMgbbSMibbSMkbbSMlbbSMmbbSMnbbSMobbSMpbbSMsbbSMvbbSMybbSNbbbSNebbSNfbbSNgbbSNhbbSNibb",
     "SNkbbSNmbbSNobbSNpbbSNqbbSNrbbSNsbbSNtbbSNvbbSNwbbSNxbbSNybcBDWuBGAmbeSKwSMrSOiSMibeSKwSNrSMvSKvbeSK",
     "wSNzSNaSKwbdSKwSOiSNrbeSKySMlSNzSLkbdSKySNzSMbbdSLaSLdSNzbfSLcSLtSLjSOiSMjbeSLcSOiSLfSOibdSLeSNzSLtb",
     "dSLeSOiSNgbdSLfSKySNqbeSLfSNpSMdSMibeSLfSNtSNqSOibdSLgSNtSNzbdSLgSNzSNebcSLiSLgbdSLiSMlSOibeSLhSNlSN",
     "qSOibeSLiSNrSMaSOibcSLhSNtbfSLhSNtSLkSNpSNgbgSLhSNtSNhSOiSMiSNrbfSLhSNtSNvSMdSMibdSLkSNpSNgbfSLkSNpS",
     "NgSMiSNzbfSLjSNrSLwSKySNtbeSLjSNtSOiSMnbdSLlSOiSLtbdSLnSNrSMkbdSLnSOiSNdbeSLpSKySLjSNrbfSLpSNzSMbSOi",
     "SNgbeSLrSNqSNzSLkbdSLvSNzSMbbdSLvSNzSMibdSMaSOiSLtbcSMhSLrbcSMjSNrbcSMiSNzbcSMkSMobdSMoSMdSMibdSMpSK",
     "ySMebfSMrSOiSLvSNzSMibdSMrSOiSMebeSMqSOiSNsSNrbfSMuSKwSLtSMiSNrbdSMuSLjSNrbcSMuSLnbcSMtSNrbfSMvSKvSN",
     "pSMdSMjbeSMvSKxSOiSMibfSMwSMdSLrSLbSNrbdSMvSNpSNzbfSMySLjSLzSOiSNrbcSNaSLxbdSNaSMlSMsbdSMySNrSMebdSN",
     "aSNzSLtbdSNaSOiSLsbdSMzSOiSLzbeSNdSKySNzSMibdSNcSNrSMibcSNbSNzbdSNdSNzSMjbdSNbSOiSNrbdSNbSOiSNzbeSNe",
     "SKySLjSNtbdSNeSKySNrbdSNeSMdSMpbdSNeSNrSLjbfSNeSNzSLrSNnSNzbeSNfSLjSNtSNzbcSNfSNqbfSNfSNqSMqSOiSNrbc",
     "SNhSLgbeSNhSLgSMiSNzbeSNhSOiSMiSNrbdSNkSOiSMjbdSNkSOiSNrbdSNmSKwSNzbeSNqSMdSMiSNrbcSNqSNpbdSNrSMuSOi",
     "beSNrSOiSMwSNrbcSNsSNgbfSNsSNzSMiSLmSNzbdSNvSMdSMibcBwBQRxbcBxBQRxbcByBQRxbcBzBQRxbcCaBQRxbcCbBQRxbc",
     "CcBQRxbcCdBQRxbcCeBQRxbcCfBQRxbdBxBwBQRxbdBxBxBQRxbdBxByBQRxbdBxBzBQRxbdBxCaBQRxbdBxCbBQRxbdBxCcBQRx",
     "bdBxCdBQRxbdBxCeBQRxbdBxCfBQRxbdByBwBQRxbdByBxBQRxbdByByBQRxbdByBzBQRxbdByCaBQRxbdEaEiDtbcDwDtbcDtEn",
     "bdDuDtEkbcEhEobcEiDvbcDwEfbdDwEfBybdDwEfBzbcEbEnbcBJTzBLDobcBMSbBGAmbcBHTvBORjbcBMQwBPEpbeBNLqBJZzBD",
     "YwBTXubcEiDtbcEgDtbcBKuDtbcEfDtbcEdDtbcEdDubcEfDubcDzDubdDvDtEebeEdDvDtEebcEiDybcEgDybcBKuDybcBKuDzb",
     "cEfDzbcEdDzbcEaEsbdEdEaEsbdEfEaEsbdDzEaEsbdEmEaEsbcBKuEebcEfEebcDwEebcEdEebcDyEfbcEgEfbcBKuEfbcEfEfb",
     "cDvEfbcEdEfbdEfEfBybdDvEfBybcEfBybdEdEfBybdEfEfBzbdDvEfBzbcEfBzbdEdEfBzbdEfMXpElbeEfMXpElBybcEiDtbdE",
     "dEiDtbdEfEiDtbdDzEiDtbdEkDtDwbfEkDtDwMXpElbgEkDtDwMXpElBybcEiElbcEgElbcBKuElbcEfElbcEiEobcEgEobcBKuE",
     "obcEfEobcEdEobcEfEobcEiEpbcEgEpbcBKuEpbcEfEpbcEdEpbcEfEpbcEdBLhbcEfBLhccDuEjbcDvDvbcDvDwbeDvMXpEdDzc",
     "cDwDubcDzErbcEaDtbcEaEibcEbEgbcEdEdbcEdEfbcEdEmbcEeEfbcEeEgbdEeEhDzbcEeEqbcEfDubdEfEbEebdEfEhEebcEiE",
     "acdEiEiEfbcEiEkbcElEkbcElEobcEpDubdEoMXpEfbdDtMXpEfbcBxBMPhbcByBMPhbcBzBMPhbcCaBMPhbcCbBMPhbcCcBMPhb",
     "cCdBMPhbcCeBMPhbcCfBMPhbdBxBwBMPhbdBxBxBMPhbdBxByBMPhbdBxBzBMPhbdBxCaBMPhbdBxCbBMPhbdBxCcBMPhbdBxCdB",
     "MPhbdBxCeBMPhbdBxCfBMPhbdByBwBMPhbdByBxBMPhbdByByBMPhbdByBzBMPhbdByCaBMPhbdByCbBMPhbdByCcBMPhbdByCdB",
     "MPhbdByCeBMPhbdByCfBMPhbdBzBwBMPhbdBzBxBMPhbdDzDtEeBRGzbCKYzcbCKZbcbCKZdcbCKZfcbCKZhcbCKZjcbCKZlcbCK",
     "ZncbCKZpcbCKZrcbCKZtcbCKZvcbCKZxcbCKZzcbCLAbcbCLAdcbCLAfcbCLAhcbCLAjcbCLAlcbCLAncbCLApcbCLArubCLBlcb",
     "CLBncbCLBpcbCLBrcbCLBtcbCLBvcbCLBxcbCLBzcbCLCbcbCLCdcbCLCfcbCLChcbCLCjcbCLClcbBQgbbBQiFdbCLHrcbCLHtc",
     "bCLHvcbCLHxcbCLHzcbCLIbcbCLIdebCLIhcbCLIjcbCLIlcbCLIncbCLIpcbCLIrcbCLItcbCLIvcbCLIxcbCLIzcbCLJbcbCLJ",
     "dcbCLJfcbCLJhcbCLJjcbCLJlcbCLJncbCLJpcbCLJrcbCLJtcbCLJvcbCLJxcbCLJzcbCLKbcbCLKdcbCLKfcbCLKhcbCLKjcbC",
     "LKlcbCLKncbCLKpcbCLKpjbCLLacbCLLccbLEfbbCLLfcbCLLhcbCLLjcbCLLlcbCLLnfbCLLscbXpdbCLLxcbCLLzebCLMdcbCL",
     "MfcbCLMhcbCLMjcbCLMlcbCLMncbCLMpcbCLMrcbCLMtcbCLMvcbXqbbXgbbXlbbXwbbXucbZubbYxbbZtbbCMWxbbCLNhcbCLNj",
     "cbCLNlcbCLNncbCLNpcbCLNrcbCLNtcbCLNvcbCLMabbYsbbLFabbCLOacbCLOccbXobbCLOfcbCLOhcbCLOjcbCLOlcbCLOncbC",
     "LOpcbCLOrcbCLOtcbPvvbElbbDvbbDybbEjbbCLPudbLjbbNbBHjbCLHvbbCMVvbbXvbbCMWwkbZdhbHLgbbHLhbbHLibbHLjbbH",
     "LkbbHLlbbHLmbbHLnbbHLobbHLpbbHLqbbHLrbbHLsbbHLtbbHLubbHLvbbHLwbbHLxbbHLybbHLzbbHMabbHMbbbHMcbbHMdbbH",
     "MebbHMfbbHMgbbHMhbbHMibbHMjbbHMkbbHMlbbHMmbbHMnbbHMobbHMpbbHMqbbHMrbbHMsbbHMtbbHMubbHMvbbHMwbbHMxbbH",
     "MybbHMzbbHNabbHNbbbHNcbbHNdbbHNebbHNfbbHNgbbHNhbbHNibbHNjbbHNkbbHNlbbHNmbbHNnbbHNobbHNpbbHNqbbHNrbbH",
     "NsbbHNtbbHNubbHNvbbHNwbbHNxbbHNybbHNzbbHOabbHObbbHOcbbHOdbbHOebbHOfbbHOgbbHOhBDGrbCBDgbbBMZsbbCCBybb",
     "CBIebbBPZdbbBDPybbBFUbbbCILobbCILobbBHVlbbCDFtbbBGKdbbBHVcbbBLCobbBSVxbbBWHpbbBYVvbbBZKkbbBZWqbbCCTj",
     "bbBODubbBPIhbbBQTdbbBRWwbbBYCbbbCDBubbCGHtbbBDTabbBFPtbbBONsbbBRFnbbBYVdbbCHWwbbBJIubbBQJzbbBYRlbbCA",
     "AubbBLKrbbBXEmbbBZOhbbBJXibbBNBbbbBPLibbBROebbCCVubbBEDabbBEYpbbBFJybbBMEebbBOLvbbBRFcbbBTAtbbBWMjbb",
     "BYTqbbBYWybbCBTnbbCFGsbbCGWlbbCHVmbbBTQybbBUAhbbBVOybbBXXpbbCDRobbCIApbbCAPabbBHRbbbBJZobbBVCqbbBWRe",
     "bbBRIgbbBTTibbCBHybbCFElbbBHQubbBIZqbbBOElbbBPPqbbBQBnbbBVKpbbBVUtbbCEXvbbBFJmbbBWRrbbBFAabbBEZkbbBU",
     "GibbBVQcbbBXZdbbCEZlbbCAVobbBLKxbbBODubbCAQobbBDQfbbBIUxbbBKJybbBRTnbbBSMibbBFMdbbBTVfbbBEFfbbBKFxbb",
     "BDOnbbBPFgbbBMLcbbBVKcbbBFStbbBHMcbbBTBtbbBYCnbbCANibbBOUsbbCCKubbBPCqbbBLMsbbBXOvbbBLSybbBSLxbbBDUs",
     "bbBEVpbbBEZhbbBNOzbbBVHvbbBXKhbbCAOwbbCDFrbbBFKvbbBFXqbbBHWtbbBJYqbbBMObbbBQKsbbBTXabbCERtbbCGMkbbCI",
     "BnbbCIDqbbBFHjbbBMXybbBOSdbbCCHubbBJUabbBKYqbbBLCybbBMCobbBQChbbBQXlbbBSDlbbBUDebbBVSebbBWQpbbCCFmbb",
     "BYIwbbCCPfbbCDUgbbBFChbbBFHrbbBGCjbbBQSmbbBZUobbCANibbBJXhbbBKIvbbBLRnbbBOUgbbBVBibbBRSvbbBDWubbBGYj",
     "bbBIUxbbBJMwbbBKKibbBRVebbBSCfbbBWIkbbBWPabbCDJobbCFEkbbCFHobbCFPobbBEDfbbBUCcbbCDEqbbCFCabbBKRxbbBD",
     "TebbBEQcbbBIVebbBIYhbbBMMjbbBODubbBRCobbBSUkbbBYJkbbCCSqbbCIKzbbBMVobbCEWsbbBFGrbbBNExbbBNJnbbBPJtbb",
     "BPXcbbBRYnbbBSLlbbBTPrbbBVJkbbCFSgbbBEVtbbBLEsbbCEZobbBEJjbbBJGrbbBPQgbbCCFqbbBKEtbbBKVsbbBNKxbbBRTn",
     "bbCFAcbbBFCzbbBFVrbbBIZtbbBMRbbbBNDebbBNQmbbBPGfbbBRYkbbBSQsbbBWHdbbBZVbbbBZVtbbCDFobbCFDqbbBFNrbbBP",
     "YgbbBFWfbbBRCqbbBSEabbBYTebbCFBfbbCHFjbbCIBvbbBNFzbbBPPbbbBXFcbbBUNbbbBUQibbBVEobbBRLwbbBQQrbbCAUabb",
     "BDVkbbBXRybbBFDqbbBFBrbbBJVybbBLLbbbBVHebbBIRdbbBPIkbbBMXgbbCCGhbbBZQabbCEXxbbCAChbbBJXrbbBEUabbBGMi",
     "dbBHLycbBMUudbBFAcbbBRPybbBSZqbbBTXsbbBTZabbBTZhbbBUAxbbCFIcbbBVGgbbBWJtcbBYUccbCAQidbCCQabbCCXpebCF",
     "XvbbCFYibbCGAabbCHSubbCCWkbbCFBzbbBEEobbBEQpbbBEUnbbBFJdbbBFKebbBFOjbbBGKzbbBGPabbBGSubbBHKybbBHOybb",
     "BIZsbbBJAcbbBKOybbBKXcbbBKYobbBLCkbbBMJnbbBMPebbBMVxbbBNPdbbBPLvbbBPScbbBQCgbbBQYwbbBRGdbbBRZmbbBTRd",
     "bbBTXubbBTYfbbBTYebbBTYmbbBTYsbbBTYzbbBUAvbbBUAwbbBUHsbbBUKfbbBUWmbbBVSebbBVSzbbBVVdbbBWGwbbBWMnbbBX",
     "FhbbBXKrbbBXKrbbBYDbbbBZXobbCACsbbCAQrbbCASvbbCBIpbbCBKqbbCCLabbCCQabbCFDrbbCFOpbbCFQxbbBKNtbbILGgbb",
     "BXGydbBDPmbbBEYnbbBEVobbBECubbBEUfbbBEWmbbBFJbbbBFLabbBGKzbbBGIfbbBGKvbbBGNqbbBHLybbBHPjbbBHUybbBHVo",
     "bbBIFybbBINobbBJXqbbBJXxbbBKDlbbBKGbbbBKRobbBKWcbbBKTkbbBKYobbBKWubbBLCkbbBLEybbBLUibbBLXsbbBLZubbBM",
     "JubbBMUubbBNBbbbBNBfbbBNDmbbBOSfbbBOUsbbBPJtbbBPZnbbBPYxbbBQCgbbBQLybbBQYwbbBTIdbbBRGnbbBRLfbbBRPybb",
     "BSCnbbBSIgbbBSKhbbBSSzbbBSTbbbBSZqbbBTAhbbBTBgbbBTEobbBTEebbBTTkbbBUMbbbBUWmbbBVDrbbBVMhbbBVSebbBWEw",
     "bbBWMnbbBXTabbBXZbbbBZHxbbBZZlbbCACcbbCACsbbCAOdbbCAQibbCAOpbbCAQrbbCAQobbCAPxbbCASvbbCAVybbCBKqbbCC",
     "GebbCCSgbbCDDpbbCDMcbbCEZsbbCFDrbbCFIcbbCFNfbbCFOpbbCFPbbbCFQxbbCGSwbbCILobbIBDybbIBDsbbIFNpbbWOzbbY",
     "HcbbYIjbbIRBlbbIVBcbbJHXzbbCIIdbbCILaBncDyDybcDyEbbcDyEebdDyDyEbbdDyDyEebcElEmbcElEmncCBsCBubcCBsCBd",
     "bcCBsCBjbcCCcCBubcCBsCBlgcCFpCEeccCGoCEhbbCFybbCFgbbCFjbbCFkbbCFrbbCFsbbCFtbbCGebbCGgbbBrbcCGfCErbcC",
     "GfCEsbdCGfCEmCErbdCGfCEmCEsbcCFgCEhbcCFgCEibcCFgCEmbcCFhCEmbcCFiCEmbcCFjCEmbcCFkCEmbcCFlCEmbcCFmCEmc",
     "cCFoCEmbcCFpCEmbcCFqCEmbcCFrCEmbcCFsCEmccCFuCEmccCFwCEmbcCFxCEmccCFzCEmbcCGaCEmccCGcCEmbcCGdCEmbcCGe",
     "CEmbcCGfCEmbcCGgCEmbcCFlCEjbcCFhCEpbcCFrCEpbcCGaCEpbcCFgCFsbbCLlbbCLlbbCLvbbCLvbbCLvbbCLvbbCLybbCLyb",
     "bCLybbCLybbCMabbCMabbCMabbCMabbCLubbCLubbCLubbCLubbCLzbbCLzbbCLzbbCLzbbCLtbbCLtbbCLtbbCLtbbCNkbbCNkb",
     "bCNkbbCNkbbCNmbbCNmbbCNmbbCNmbbCMebbCMebbCMebbCMebbCMdbbCMdbbCMdbbCMdbbCMgbbCMgbbCMgbbCMgbbCMhbbCMhb",
     "bCMhbbCMhbbCMnbbCMnbbCMmbbCMmbbCMobbCMobbCMibbCMibbCMybbCMybbCMrbbCMrbbCNpbbCNpbbCNpbbCNpbbCNvbbCNvb",
     "bCNvbbCNvbbCNzbbCNzbbCNzbbCNzbbCNxbbCNxbbCNxbbCNxbbCOgbbCOgbbCOhbbCOhbbCOhbbCOhbbCOmbbCOmbbCOnbbCOnb",
     "bCOnbbCOnbbCOkbbCOkbbCOkbbCOkbbCPebbCPebbCPfbbCPfBibCNtbbCNtbbCNtbbCNtbbCOtbbCOtbbCOsbbCOsbbCOubbCOu",
     "bcCOtCLobbCOxbbCOxbbCOrbbCOrbbCOvbbCOvbbCPcbbCPcbbCPcbbCPcbbCJxbbCJxbcCIoCIpbcCIoCIpbcCIoCPhbcCIoCPh",
     "bcCIoCJwbcCIoCJwbcCIoCOtbcCIoCOtbcCIoCOsbcCIoCOsbcCIoCOubcCIoCOubcCIoCPcbcCIoCPcbcCIoCPcbcCIoCJxbcCI",
     "oCJxbcCIoCJxbbCOybbCOybbCOybbCOybcCIoCIubcCIoCIvbcCIoCJtbcCIoCJxbcCIoCJybcCIqCIubcCIqCIvbcCIqCIwbcCI",
     "qCJtbcCIqCJxbcCIqCJybcCIsCIubcCIsCIvbcCIsCIwbcCIsCJtbcCIsCJxbcCIsCJybcCItCIubcCItCJtbcCItCJxbcCItCJy",
     "bcCIuCIvbcCIuCJtbcCIvCIubcCIvCJtbcCIwCIubcCIwCIvbcCIwCJtbcCJbCIubcCJbCIvbcCJbCIwbcCJbCJtbcCJdCIvbcCJ",
     "dCJtbcCJeCIubcCJeCIvbcCJeCIwbcCJeCJtbcCJfCIvbcCJfCJtbcCJgCJtbcCJhCIubcCJhCJtbcCJiCIubcCJiCJtbcCJpCIu",
     "bcCJpCIvbcCJpCIwbcCJpCJtbcCJpCJxbcCJpCJybcCJqCIvbcCJqCJtbcCJqCJxbcCJqCJybcCJrCIpbcCJrCIubcCJrCIvbcCJ",
     "rCIwbcCJrCJsbcCJrCJtbcCJrCJxbcCJrCJybcCJsCIubcCJsCIvbcCJsCIwbcCJsCJtbcCJsCJxbcCJsCJybcCJtCIubcCJtCIv",
     "bcCJtCIwbcCJtCJtbcCJtCJxbcCJtCJybcCJuCIubcCJuCIvbcCJuCIwbcCJuCJtbcCJuCJxbcCJuCJybcCJvCIubcCJvCJtbcCJ",
     "vCJxbcCJvCJybcCJyCIubcCJyCIvbcCJyCIwbcCJyCJtbcCJyCJxbcCJyCJybcCIyCLkbcCIzCLkbcCJxCLkbdBgCKaCKfbdBgCK",
     "bCKfbdBgCKcCKfbdBgCKdCKfbdBgCKeCKfbdBgCKfCLkbcCIoCIzbcCIoCJabcCIoCJtbcCIoCJubcCIoCJxbcCIoCJybcCIqCIz",
     "bcCIqCJabcCIqCJtbcCIqCJubcCIqCJxbcCIqCJybcCIsCIzbcCIsCJabcCIsCJtbcCIsCJubcCIsCJxbcCIsCJybcCItCIzbcCI",
     "tCJabcCItCJtbcCItCJubcCItCJxbcCItCJybcCJpCJxbcCJpCJybcCJqCJxbcCJqCJybcCJrCIpbcCJrCJsbcCJrCJtbcCJrCJx",
     "bcCJrCJybcCJsCJtbcCJsCJxbcCJsCJybcCJtCIpbcCJtCJtbcCJuCIzbcCJuCJabcCJuCJtbcCJuCJubcCJuCJxbcCJuCJybcCJ",
     "xCLkbcCJyCIzbcCJyCJabcCJyCJtbcCJyCJubcCJyCJxbcCJyCJybcCIoCIubcCIoCIvbcCIoCIwbcCIoCJtbcCIoCJvbcCIqCIu",
     "bcCIqCIvbcCIqCIwbcCIqCJtbcCIqCJvbcCIsCIubcCIsCIvbcCIsCIwbcCIsCJtbcCIsCJvbcCItCJtbcCIuCIvbcCIuCJtbcCI",
     "vCIubcCIvCJtbcCIwCIubcCIwCJtbcCJbCIubcCJbCIvbcCJbCIwbcCJbCJtbcCJdCIvbcCJdCIwbcCJdCJtbcCJeCIubcCJeCIv",
     "bcCJeCIwbcCJeCJtbcCJfCIvbcCJgCJtbcCJhCIubcCJhCJtbcCJiCIubcCJiCJtbcCJpCIubcCJpCIvbcCJpCIwbcCJpCJtbcCJ",
     "qCIvbcCJqCJtbcCJrCIubcCJrCIvbcCJrCIwbcCJrCJsbcCJrCJtbcCJsCIubcCJsCIvbcCJsCIwbcCJsCJtbcCJsCJvbcCJtCIu",
     "bcCJtCIvbcCJtCIwbcCJtCJtbcCJuCIubcCJuCIvbcCJuCIwbcCJuCJtbcCJuCJvbcCJvCIubcCJvCJtbcCJvCLkbcCJyCIubcCJ",
     "yCIvbcCJyCIwbcCJyCJtbcCJyCJvbcCIoCJtbcCIoCJvbcCIqCJtbcCIqCJvbcCIsCJtbcCIsCJvbcCItCJtbcCItCJvbcCJbCJt",
     "bcCJbCJvbcCJcCJtbcCJcCJvbcCJrCJsbcCJrCJtbcCJsCJtbcCJuCJtbcCJuCJvbcCJyCJtbcCJyCJvbdCJoCKcCKfbdCJoCKdC",
     "KfbdCJoCKeCKfbcCJfCJxbcCJfCJybcCJhCJxbcCJhCJybcCJiCJxbcCJiCJybcCJbCJxbcCJbCJybcCJcCJxbcCJcCJybcCIvCJ",
     "xbcCIvCJybcCIuCJxbcCIuCJybcCIwCJxbcCIwCJybcCJdCJxbcCJdCJybcCJeCJxbcCJeCJybcCJcCIubcCJcCIvbcCJcCIwbcC",
     "JcCJtbcCJcCIzbcCJbCIzbcCJdCIzbcCJeCIzbcCJfCJxbcCJfCJybcCJhCJxbcCJhCJybcCJiCJxbcCJiCJybcCJbCJxbcCJbCJ",
     "ybcCJcCJxbcCJcCJybcCIvCJxbcCIvCJybcCIuCJxbcCIuCJybcCIwCJxbcCIwCJybcCJdCJxbcCJdCJybcCJeCJxbcCJeCJybcC",
     "JcCIubcCJcCIvbcCJcCIwbcCJcCJtbcCJcCIzbcCJbCIzbcCJdCIzbcCJeCIzbcCJcCIubcCJcCIvbcCJcCIwbcCJcCJtbcCJbCJ",
     "vbcCJcCJvbcCJfCJtbcCJbCIubcCJbCIvbcCJbCIwbcCJcCIubcCJcCIvbcCJcCIwbcCJfCJtbcCJgCJtbcCIpCJzbcCIpCJztdC",
     "IsCIuCJtbdCIsCIvCIubdCIsCIvCIubdCIsCIvCJtbdCIsCIwCJtbdCIsCJtCIubdCIsCJtCIvbdCIsCJtCIwbdCIuCJtCIvbdCI",
     "uCJtCIvbdCIvCJtCJybdCIvCJtCJxbdCJbCIvCIubdCJbCIuCIvbdCJbCIuCJxbdCJbCJtCIvbdCJbCJtCIvbdCJbCJtCIubdCJb",
     "CJtCJtbdCJbCJtCJtbdCJdCIvCIvbdCJdCIvCIvbdCJdCJtCJtbdCJcCIvCJtbdCJcCIvCJtbdCJcCIuCJybdCJcCJtCIwbdCJcC",
     "JtCIwbdCJcCJtCJtbdCJcCJtCJtbdCJeCIvCJxbdCJeCIwCJtbdCJeCIwCJtbdCJfCJtCIvbdCJfCJtCIvbdCJfCJtCJtbdCJfCJ",
     "tCJybdCJhCIuCJtbdCJhCJtCJtbdCJhCJtCJtbdCJhCJtCJxbdCJiCJtCJtbdCJiCJtCJybdCJiCJtCJxbdCJpCIwCJtbdCJpCIw",
     "CJtbdCJqCJtCIvbdCJqCJtCJtbdCJsCIvCJtbdCJsCIvCJybdCJsCIvCJxbdCJsCIuCIubdCJsCIuCIubdCJsCIwCJtbdCJsCIwC",
     "JtbdCJsCJtCIvbdCJsCJtCIvbdCJtCIvCIubdCJtCIvCJtbdCJtCIvCJybdCJtCIuCIvbdCJtCIuCJtbdCJtCIwCIubdCJtCIwCJ",
     "tddCJtCIuCIwbdCJvCJtCIubdCJvCJtCJtbdCJuCIvCJtbdCJuCIvCJxbdCJuCIuCJtbdCJuCIuCJtbdCJuCIuCJxbdCJuCJtCJy",
     "bdCJuCJtCJxbdCJyCJtCJtbdCJyCJtCJtbdCIqCIwCJybdCIsCIuCJybdCIsCIuCJxbdCIsCIwCJybdCIsCIwCJxbdCIsCJtCJyb",
     "dCIsCJtCJxbdCIuCJtCJybdCIuCIvCJxbdCIuCJtCJxbdCJbCIwCJxbdCJdCIvCJybdCJcCIvCJybdCJeCIvCJybdCJsCIuCJybd",
     "CJsCJtCJybdCJyCIvCJybdCJyCIuCJybdCJyCJtCJybdCJtCJtCJybdCJqCJtCJybdCJuCIvCJybdCJqCJtCIvbdCJsCIvCJtbdC",
     "JhCJtCJybdCJrCJtCJybdCJuCIuCIvbdCJtCIwCJybdCJsCIuCJtbdCJrCJtCJtbdCJsCIuCJtbdCJuCIuCIvbdCIuCIvCJybdCI",
     "vCIuCJybdCJtCIuCJybdCJpCJtCJybdCIqCIvCJybdCJrCJtCJtbdCJhCIuCJtbdCJdCJtCJtbdCJbCIwCJybdCJuCIuCJyBpdCJ",
     "dCJsCPebdCJqCJsCPebeCIpCJsCJsCJvbeCIpCJrCIqCIzbeCJtCIvCJtCIxbeCJdCJsCJhCJtbeCIzCJbCJwCJsbeCJhCJsCJyC",
     "JvbeCJwCJbCJsCJtbdCJdCJsCJxbsCJdCJsCJxBgCIpCJsCJsCJvBgCJhCJsCJyCJvBgCJwCJbCJsCJtbiCIuCJsBgCIuCJsCIpC",
     "JsCJvbeCIzCOyCIpCJsubBsbbSErcbCgbbChbbBhbbClbbSFmbbSFnzbMDwbbMDvbbDrbbDrbbBobbBpbbEtbbEvbbSFkbbSFlbb",
     "SFgbbSFhbbSFabbSFbbbSEybbSEzbbSFcbbSFdbbSFebbSFfdbDnbbDpbcBgBDtbcBgBDtbcBgBDtbcBgBDtbbDrbbDrbbDrbbBs",
     "bbSErdbChbbCgbbClbbBhbbMDwbbBobbBpbbEtbbEvbbSFkbbSFlbbBjbbBmbbBqbbBrbbBtbbCibbCkbbCjcbDobbBkbbBlbbCm",
     "fcBgCJzbcCJoCJzbcBgCKaccBgCKbccBgCKcbcCJoCKcbcBgCKdbcCJoCKdbcBgCKebcCJoCKebcBgCKfbcCJoCKfbcBgCKgbcCJ",
     "oCKgbbCIjbbCIkbbCIkbbCIlbbCIlbbCImbbCImbbCInbbCInbbCIobbCIobbCIobbCIobbCIpbbCIpbbCIqbbCIqbbCIqbbCIqb",
     "bCIrbbCIrbbCIsbbCIsbbCIsbbCIsbbCItbbCItbbCItbbCItbbCIubbCIubbCIubbCIubbCIvbbCIvbbCIvbbCIvbbCIwbbCIwb",
     "bCIwbbCIwbbCIxbbCIxbbCIybbCIybbCIzbbCIzbbCJabbCJabbCJbbbCJbbbCJbbbCJbbbCJcbbCJcbbCJcbbCJcbbCJdbbCJdb",
     "bCJdbbCJdbbCJebbCJebbCJebbCJebbCJfbbCJfbbCJfbbCJfbbCJgbbCJgbbCJgbbCJgbbCJhbbCJhbbCJhbbCJhbbCJibbCJib",
     "bCJibbCJibbCJpbbCJpbbCJpbbCJpbbCJqbbCJqbbCJqbbCJqbbCJrbbCJrbbCJrbbCJrbbCJsbbCJsbbCJsbbCJsbbCJtbbCJtb",
     "bCJtbbCJtbbCJubbCJubbCJubbCJubbCJvbbCJvbbCJvbbCJvbbCJwbbCJwbbCJxbbCJxbbCJybbCJybbCJybbCJybcCJsCIkbcC",
     "JsCIkbcCJsCIlbcCJsCIlbcCJsCInbcCJsCInbcCJsCIpbcCJsCIpfbBhbbBibbBjbbBkbbBlbbBmbbBnbbBobbBpbbBqbbBrbbB",
     "sbbBtbbBubbBvbbBwbbBxbbBybbBzbbCabbCbbbCcbbCdbbCebbCfbbCgbbChbbCibbCjbbCkbbClbbCmbbDtbbDubbDvbbDwbbD",
     "xbbDybbDzbbEabbEbbbEcbbEdbbEebbEfbbEgbbEhbbEibbEjbbEkbbElbbEmbbEnbbEobbEpbbEqbbErbbEsbbDnbbDobbDpbbD",
     "qbbDrbbDsbbDtbbDubbDvbbDwbbDxbbDybbDzbbEabbEbbbEcbbEdbbEebbEfbbEgbbEhbbEibbEjbbEkbbElbbEmbbEnbbEobbE",
     "pbbEqbbErbbEsbbEtbbEubbEvbbEwbbPSvbbPSwbbBubbSFcbbSFdbbSErbbSOhbbSNybbSKvbbSKxbbSKzbbSLbbbSLdbbSNjbb",
     "SNlbbSNnbbSMdbbSOibbSKwbbSKybbSLabbSLcbbSLebbSLfbbSLhbbSLjbbSLlbbSLnbbSLpbbSLrbbSLtbbSLvbbSLxbbSLzbb",
     "SMbbbSMebbSMgbbSMibbSMkbbSMlbbSMmbbSMnbbSMobbSMpbbSMsbbSMvbbSMybbSNbbbSNebbSNfbbSNgbbSNhbbSNibbSNkbb",
     "SNmbbSNobbSNpbbSNqbbSNrbbSNsbbSNtbbSNvbbSNzbbSKnbbSKocbGLkbbGLlbbGRybbGLmbbGSabbGSbbbGLnbbGLobbGLpbb",
     "GSebbGSfbbGSgbbGShbbGSibbGSjbbGMkbbGLqbbGLrbbGLsbbGMrbbGLtbbGLubbGLvbbGLwbbGLxbbGLybbGLzbbGMabbGMbbb",
     "GMcebGPdbbGPebbGPfbbGPgbbGPhbbGPidbGPjbbGPkbbGPlbbGPmbbGPnbbGPodbGPpbbGPqbbGPrbbGPsbbGPtbbGPudbGPvbb",
     "GPwbbGPxebGgbbGhbbGqbcBgBDsbbGkbbGjbbMJpcbOAkbbMSmbbMSnbbMSobbMSpbbOGmbbOIdBOcbDUNobbDUNpbbDUNqbbDUN",
     "rbbDUNsbbDUNtbbDUNubbDUNvbbDUNwbbDUNxbbDUNybbDUNzbbDUOabbDUObbbDUOcbbDUOdbbDUOebbDUOfbbDUOgbbDUOhbbD",
     "UOibbDUOjbbDUOkbbDUOlbbDUOmbbDUOnbbDUOobbDUOpbbDUOqbbDUOrbbDUOsbbDUOtbbDUOubbDUOvbbDUOwbbDUOxbbDUOyb",
     "bDUOzbbDUPabbDUPbFhbDUUibbDUUjbbDUUkbbDUUlbbDUUmbbDUUnbbDUUobbDUUpbbDUUqbbDUUrbbDUUsbbDUUtbbDUUubbDU",
     "UvbbDUUwbbDUUxbbDUUybbDUUzbbDUVabbDUVbbbDUVcbbDUVdbbDUVebbDUVfbbDUVgbbDUVhbbDUVibbDUVjbbDUVkbbDUVlbb",
     "DUVmbbDUVnbbDUVobbDUVpbbDUVqbbDUVrGbbDVBrbbDVBsbbDVBtbbDVBubbDVBvbbDVBwbbDVBxbbDVBybbDVBzbbDVCabbDVC",
     "bcbDVCdbbDVCebbDVCfbbDVCgbbDVChbbDVCibbDVCjbbDVCkbbDVClbbDVCmbbDVCnbbDVCobbDVCpbbDVCqbbDVCrcbDVCtbbD",
     "VCubbDVCvbbDVCwbbDVCxbbDVCybbDVCzcbDVDbbbDVDcSybBBsbbBBtbbIwbbZpbbWxcbZzbbCMXqbbBAbbbBAabbXabbXbbbLF",
     "dbbXcbbXibbBAfbbXobbXmbbXkbbZrbbLjbbZsbbXrbbYubbBAgbbBAhbbXwbbGZKmbbCLLubbXybbGZKnbbZebbGZKobbJobbYg",
     "bbYhbbEjbbYkbbGZKqbbYnbbYobbYqbbBAebbBAcbbCMXrbbBAdbbYybbQVpcbZfbbZxbbZybbZobbRgbbRhbbRibbGZKsbbGZLm",
     "BVabDXUebbDXUfbbDXUgbbDXUhbbDXUibbDXUjbbDXUkbbDXUlbbDXUmbbDXUnbbDXUobbDXUpbbDXUqbbDXUrbbDXUsbbDXUtbb",
     "DXUubbDXUvbbDXUwbbDXUxbbDXUybbDXUzbbDXVabbDXVbbbDXVcbbDXVdbbDXVebbDXVfbbDXVgbbDXVhbbDXVibbDXVjbbDXVk",
     "bbDXVlbbDXVmbbDXVnbbDXVobbDXVpbbDXVqbbDXVrbbDXVsbbDXVtbbDXVubbDXVvbbDXVwbbDXVxbbDXVybbDXVzbbDXWabbDX",
     "WbbbDXWcGcbDYAybbDYAzbbDYBabbDYBbbbDYBcbbDYBdbbDYBebbDYBfbbDYBgbbDYBhbbDYBibbDYBjbbDYBkbbDYBlbbDYBmb",
     "bDYBnbbDYBobbDYBpbbDYBqbbDYBrbbDYBsbbDYBtEGpbECIibbECIjbbECIkbbECIlbbECImbbECInbbECIobbECIpbbECIqbbE",
     "CIrbbECIsbbECItbbECIubbECIvbbECIwbbECIxbbECIybbECIzbbECJabbECJbbbECJcbbECJdbbECJebbECJfbbECJgbbECJhb",
     "bECJibbECJjbbECJkbbECJlbbECJmbbECJnBGJxbFITkbbFITlbbFITmbbFITnbbFITobbFITpbbFITqbbFITrbbFITsbbFITtbb",
     "FITubbFITvbbFITwbbFITxbbFITybbFITzbbFIUabbFIUbbbFIUcbbFIUdbbFIUebbFIUfbbFIUgbbFIUhbbFIUibbFIUjbbFIUk",
     "bbFIUlbbFIUmbbFIUnbbFIUobbFIUpCnbFIWxbbFIWybbFIWzbbFIXabbFIXbbbFIXcbbFIXdbbFIXebbFIXfbbFIXgbbFIXhbbF",
     "IXibbFIXjbbFIXkbbFIXlbbFIXmbbFIXnbbFIXobbFIXpbbFIXqbbFIXrbbFIXsbbFIXtbbFIXubbFIXvBJQsbDtbbDubbDvbbDw",
     "bbDxbbDybbDzbbEabbEbbbEcbbEdbbEebbEfbbEgbbEhbbEibbEjbbEkbbElbbEmbbEnbbEobbEpbbEqbbErbbEsbbBwbbBxbbBy",
     "bbBzbbCabbCbbbCcbbCdbbCebbCfBRhcGUFvGUGjbcGUFwGUGjbdGUFwGUGjGUGsbdGUFwGUGjGUGtbdGUFwGUGjGUGubdGUFwGU",
     "GjGUGvbdGUFwGUGjGUGwDjcGUJpGUGjbcGUJqGUGjbdGUJpGUGjGUGsbdGUJqGUGjGUGsbdGUJpGUGjGUGtbdGUJqGUGjGUGtWeb",
     "DtbbDubbDvbbDwbbDxbbDybbDzbbEabbEbbbEcbbEdbbEebbEfbbEgbbEhbbEibbEjbbEkbbElbbEmbbEnbbEobbEpbbEqbbErbb",
     "EsbbDtbbDubbDvbbDwbbDxbbDybbDzbbEabbEbbbEcbbEdbbEebbEfbbEgbbEhbbEibbEjbbEkbbElbbEmbbEnbbEobbEpbbEqbb",
     "ErbbEsbbDtbbDubbDvbbDwbbDxbbDybbDzbbEabbEbbbEcbbEdbbEebbEfbbEgbbEhbbEibbEjbbEkbbElbbEmbbEnbbEobbEpbb",
     "EqbbErbbEsbbDtbbDubbDvbbDwbbDxbbDybbDzcbEbbbEcbbEdbbEebbEfbbEgbbEhbbEibbEjbbEkbbElbbEmbbEnbbEobbEpbb",
     "EqbbErbbEsbbDtbbDubbDvbbDwbbDxbbDybbDzbbEabbEbbbEcbbEdbbEebbEfbbEgbbEhbbEibbEjbbEkbbElbbEmbbEnbbEobb",
     "EpbbEqbbErbbEsbbDtbbDubbDvbbDwbbDxbbDybbDzbbEabbEbbbEcbbEdbbEebbEfbbEgbbEhbbEibbEjbbEkbbElbbEmbbEnbb",
     "EobbEpbbEqbbErbbEsbbDtcbDvbbDwdbDzdbEcbbEddbEgbbEhbbEibbEjcbElbbEmbbEnbbEobbEpbbEqbbErbbEsbbDtbbDubb",
     "DvbbDwcbDycbEabbEbbbEcbbEdbbEebbEfbbEgcbEibbEjbbEkbbElbbEmbbEnbbEobbEpbbEqbbErbbEsbbDtbbDubbDvbbDwbb",
     "DxbbDybbDzbbEabbEbbbEcbbEdbbEebbEfbbEgbbEhbbEibbEjbbEkbbElbbEmbbEnbbEobbEpbbEqbbErbbEsbbDtbbDubbDvbb",
     "DwbbDxbbDybbDzbbEabbEbbbEcbbEdbbEebbEfbbEgbbEhbbEibbEjbbEkbbElbbEmbbEnbbEobbEpbbEqbbErbbEsbbDtbbDucb",
     "DwbbDxbbDybbDzdbEcbbEdbbEebbEfbbEgbbEhbbEibbEjcbElbbEmbbEnbbEobbEpbbEqbbErcbDtbbDubbDvbbDwbbDxbbDybb",
     "DzbbEabbEbbbEcbbEdbbEebbEfbbEgbbEhbbEibbEjbbEkbbElbbEmbbEnbbEobbEpbbEqbbErbbEsbbDtbbDucbDwbbDxbbDybb",
     "DzcbEbbbEcbbEdbbEebbEfcbEhebElbbEmbbEnbbEobbEpbbEqbbErcbDtbbDubbDvbbDwbbDxbbDybbDzbbEabbEbbbEcbbEdbb",
     "EebbEfbbEgbbEhbbEibbEjbbEkbbElbbEmbbEnbbEobbEpbbEqbbErbbEsbbDtbbDubbDvbbDwbbDxbbDybbDzbbEabbEbbbEcbb",
     "EdbbEebbEfbbEgbbEhbbEibbEjbbEkbbElbbEmbbEnbbEobbEpbbEqbbErbbEsbbDtbbDubbDvbbDwbbDxbbDybbDzbbEabbEbbb",
     "EcbbEdbbEebbEfbbEgbbEhbbEibbEjbbEkbbElbbEmbbEnbbEobbEpbbEqbbErbbEsbbDtbbDubbDvbbDwbbDxbbDybbDzbbEabb",
     "EbbbEcbbEdbbEebbEfbbEgbbEhbbEibbEjbbEkbbElbbEmbbEnbbEobbEpbbEqbbErbbEsbbDtbbDubbDvbbDwbbDxbbDybbDzbb",
     "EabbEbbbEcbbEdbbEebbEfbbEgbbEhbbEibbEjbbEkbbElbbEmbbEnbbEobbEpbbEqbbErbbEsbbDtbbDubbDvbbDwbbDxbbDybb",
     "DzbbEabbEbbbEcbbEdbbEebbEfbbEgbbEhbbEibbEjbbEkbbElbbEmbbEnbbEobbEpbbEqbbErbbEsbbDtbbDubbDvbbDwbbDxbb",
     "DybbDzbbEabbEbbbEcbbEdbbEebbEfbbEgbbEhbbEibbEjbbEkbbElbbEmbbEnbbEobbEpbbEqbbErbbEsbbDtbbDubbDvbbDwbb",
     "DxbbDybbDzbbEabbEbbbEcbbEdbbEebbEfbbEgbbEhbbEibbEjbbEkbbElbbEmbbEnbbEobbEpbbEqbbErbbEsbbDtbbDubbDvbb",
     "DwbbDxbbDybbDzbbEabbEbbbEcbbEdbbEebbEfbbEgbbEhbbEibbEjbbEkbbElbbEmbbEnbbEobbEpbbEqbbErbbEsbbDtbbDubb",
     "DvbbDwbbDxbbDybbDzbbEabbEbbbEcbbEdbbEebbEfbbEgbbEhbbEibbEjbbEkbbElbbEmbbEnbbEobbEpbbEqbbErbbEsbbDtbb",
     "DubbDvbbDwbbDxbbDybbDzbbEabbEbbbEcbbEdbbEebbEfbbEgbbEhbbEibbEjbbEkbbElbbEmbbEnbbEobbEpbbEqbbErbbEsbb",
     "DtbbDubbDvbbDwbbDxbbDybbDzbbEabbEbbbEcbbEdbbEebbEfbbEgbbEhbbEibbEjbbEkbbElbbEmbbEnbbEobbEpbbEqbbErbb",
     "EsbbDtbbDubbDvbbDwbbDxbbDybbDzbbEabbEbbbEcbbEdbbEebbEfbbEgbbEhbbEibbEjbbEkbbElbbEmbbEnbbEobbEpbbEqbb",
     "ErbbEsbbLtbbVvdbBKjbbBKkbbBKlbbBKmbbBKnbbBKobbBKpbbBKqbbBKrbbBKsbbBKtbbBKubbBKvbbBKwbbBKxbbBKybbBKzb",
     "bBKqbbBLbbbBLcbbBLdbbBLebbBLfbbBLgbbBLhbbMXbbbBKjbbBKkbbBKlbbBKmbbBKnbbBKobbBKpbbBKqbbBKrbbBKsbbBKtb",
     "bBKubbBKvbbBKwbbBKxbbBKybbBKzbbBLbbbBLbbbBLcbbBLdbbBLebbBLfbbBLgbbBLhbbMWwbbBKnbbBKqbbBKsbbBLebbBKzb",
     "bBKybbBKjbbBKkbbBKlbbBKmbbBKnbbBKobbBKpbbBKqbbBKrbbBKsbbBKtbbBKubbBKvbbBKwbbBKxbbBKybbBKzbbBKqbbBLbb",
     "bBLcbbBLdbbBLebbBLfbbBLgbbBLhbbMXbbbBKjbbBKkbbBKlbbBKmbbBKnbbBKobbBKpbbBKqbbBKrbbBKsbbBKtbbBKubbBKvb",
     "bBKwbbBKxbbBKybbBKzbbBLbbbBLbbbBLcbbBLdbbBLebbBLfbbBLgbbBLhbbMWwbbBKnbbBKqbbBKsbbBLebbBKzbbBKybbBKjb",
     "bBKkbbBKlbbBKmbbBKnbbBKobbBKpbbBKqbbBKrbbBKsbbBKtbbBKubbBKvbbBKwbbBKxbbBKybbBKzbbBKqbbBLbbbBLcbbBLdb",
     "bBLebbBLfbbBLgbbBLhbbMXbbbBKjbbBKkbbBKlbbBKmbbBKnbbBKobbBKpbbBKqbbBKrbbBKsbbBKtbbBKubbBKvbbBKwbbBKxb",
     "bBKybbBKzbbBLbbbBLbbbBLcbbBLdbbBLebbBLfbbBLgbbBLhbbMWwbbBKnbbBKqbbBKsbbBLebbBKzbbBKybbBKjbbBKkbbBKlb",
     "bBKmbbBKnbbBKobbBKpbbBKqbbBKrbbBKsbbBKtbbBKubbBKvbbBKwbbBKxbbBKybbBKzbbBKqbbBLbbbBLcbbBLdbbBLebbBLfb",
     "bBLgbbBLhbbMXbbbBKjbbBKkbbBKlbbBKmbbBKnbbBKobbBKpbbBKqbbBKrbbBKsbbBKtbbBKubbBKvbbBKwbbBKxbbBKybbBKzb",
     "bBLbbbBLbbbBLcbbBLdbbBLebbBLfbbBLgbbBLhbbMWwbbBKnbbBKqbbBKsbbBLebbBKzbbBKybbBKjbbBKkbbBKlbbBKmbbBKnb",
     "bBKobbBKpbbBKqbbBKrbbBKsbbBKtbbBKubbBKvbbBKwbbBKxbbBKybbBKzbbBKqbbBLbbbBLcbbBLdbbBLebbBLfbbBLgbbBLhb",
     "bMXbbbBKjbbBKkbbBKlbbBKmbbBKnbbBKobbBKpbbBKqbbBKrbbBKsbbBKtbbBKubbBKvbbBKwbbBKxbbBKybbBKzbbBLbbbBLbb",
     "bBLcbbBLdbbBLebbBLfbbBLgbbBLhbbMWwbbBKnbbBKqbbBKsbbBLebbBKzbbBKybbBMbbbBMbdbBwbbBxbbBybbBzbbCabbCbbb",
     "CcbbCdbbCebbCfbbBwbbBxbbBybbBzbbCabbCbbbCcbbCdbbCebbCfbbBwbbBxbbBybbBzbbCabbCbbbCcbbCdbbCebbCfbbBwbb",
     "BxbbBybbBzbbCabbCbbbCcbbCdbbCebbCfbbBwbbBxbbBybbBzbbCabbCbbbCcbbCdbbCebbCfDCrbBPgbbBPhbbBPibbBPjbbBP",
     "kbbBPlbbBPmbbBPnbbBPobbBPqbbBPrbbBPsbbBPubbBPvbbBPwbbBPxbbBPybbBPzbbBQabbBQbbbBQcbbBQdbbBQebbBQhbbBQ",
     "jbbBQkbbCLBtbbBVtbbBQsbbBQubbBWjbbBUdbbBVjbbBPgbbBPhbbBPibbBPjbbBPkbbBPlbbBPmbbBPnbbBPobbBPqbbBPrbbB",
     "PubbBPvbbBPxbbBPzbbBQabbBQbbbBQcbbBQdbbBQebbBQgbbBQhbbBSzbbBQsbbBQrbbBRbbbBTzbbCKZpbbBUfDGlbHDGcbbHD",
     "GdbbHDGebbHDGfbbHDGgbbHDGhbbHDGibbHDGjbbHDGkbbHDGlbbHDGmbbHDGnbbHDGobbHDGpbbHDGqbbHDGrbbHDGsbbHDGtbb",
     "HDGubbHDGvbbHDGwbbHDGxbbHDGybbHDGzbbHDHabbHDHbbbHDHcbbHDHdbbHDHebbHDHfbbHDHgbbHDHhbbHDHibbHDHjBVzbCI",
     "pbbCIqbbCIubbCIxcbCJwbbCJabbCIvbbCJfbbCJybbCJrbbCJsbbCJtbbCJubbCJbbbCJhbbCJpbbCJdbbCJqbbCIzbbCJcbbCI",
     "sbbCItbbCIwbbCIybbCJebbCJgbbCJibbCLibbCOgbbCNhbbCLjcbCIqbbCIucbCJvdbCIvcbCJybbCJrbbCJsbbCJtbbCJubbCJ",
     "bbbCJhbbCJpbbCJdbbCJqcbCJcbbCIsbbCItbbCIwcbCJecbCJihbCIufbCIvcbCJycbCJscbCJubbCJbbbCJhcbCJdbbCJqcbCJ",
     "cdbCIwcbCJecbCJicbCOgcbCLjcbCIqbbCIucbCJvdbCIvbbCJfbbCJybbCJrcbCJtbbCJubbCJbbbCJhbbCJpbbCJdbbCJqcbCJ",
     "cbbCIsbbCItbbCIwcbCJebbCJgbbCJibbCLicbCNhcbCIpbbCIqbbCIubbCIxbbCJvbbCJwbbCJabbCIvbbCJfbbCJycbCJsbbCJ",
     "tbbCJubbCJbbbCJhbbCJpbbCJdbbCJqbbCIzbbCJcbbCIsbbCItbbCIwbbCIybbCJebbCJgbbCJigbCIqbbCIubbCIxcbCJwbbCJ",
     "abbCIvbbCJfbbCJycbCJsbbCJtbbCJubbCJbbbCJhbbCJpbbCJdbbCJqbbCIzbbCJcbbCIsbbCItbbCIwbbCIybbCJebbCJgbbCJ",
     "iWkcBwBsbcBxBsbcByBsbcBzBsbcCaBsbcCbBsbcCcBsbcCdBsbcCeBsbcCfBsgdBoDtBpbdBoDuBpbdBoDvBpbdBoDwBpbdBoDx",
     "BpbdBoDyBpbdBoDzBpbdBoEaBpbdBoEbBpbdBoEcBpbdBoEdBpbdBoEeBpbdBoEfBpbdBoEgBpbdBoEhBpbdBoEiBpbdBoEjBpbd",
     "BoEkBpbdBoElBpbdBoEmBpbdBoEnBpbdBoEoBpbdBoEpBpbdBoEqBpbdBoErBpbdBoEsBpbdSFkElSFlbbDvbbEkbcDvDwbcEpEs",
     "cbDtbbDubbDvbbDwbbDxbbDybbDzbbEabbEbbbEcbbEdbbEebbEfbbEgbbEhbbEibbEjbbEkbbElbbEmbbEnbbEobbEpbbEqbbEr",
     "bbEsbcEaEobcEfEobcElDwbcElElbdEiEiEobcEpDvBbcEfDvbcEfDwbcEfEkBkcDwEcEicSJjSHnbcSLnSLnbbSLpobBLFvbbBI",
     "PjbbBFTcbbSMhbbBDTkbbBHTibbCAFrbbBHTxbbBDUibbBMRobbBQVxbbBMMjbbBFEjbbBKEubbBEWzbbBMNgbbBFCnbbBVLibbB",
     "SJfbbCBGzbbBHRsbbBFXhbbBQBsbbBLIrbbBLQbbbBDOabbBDOjbbCCQsbbBJOobbBDPtbbBFUpbbBLNbbbCBOqbbBLGdbbBUAjb",
     "bBUJybbBFVkbbBPWabbBNAnbbBNAmbbBSJzbbBFFubbBGLybbCDArfdSFkBNBwSFlbdSFkBDOjSFlbdSFkBDTkSFlbdSFkBIRhSF",
     "lbdSFkBQRxSFlbdSFkBLGdSFlbdSFkBTAdSFlbdSFkBFJxSFlbdSFkBMJvSFlibBKFfbbBFUlDQtbBwbbBxbbBybbBzbbCabbCbb",
     "bCcbbCdbbCebbCfDRLnbBDQjbbBDQebbBDQnbbHMIkbbBEBobbBEEobbBEFbbbBEHubbBEMkbbBENpbbBEQpbbBEPrbbTYcbbHOG",
     "obbBEUnbbBEUubbBEVkbbBEWdbbHNVobbTZdbbBEVnbbBEWzbbHNXjbbBEXjbbBEXwbbBDVwbbBEYebbBEYnbbJPDnbbBFAzbbBF",
     "BnbbUApbbBFDrbbBFEcbbBFFubbBFFzbbUCrbbBFJbbbBFJdbbBFKebbBFLabbBFLlbbBFLmbbBFMdbbBFObbbBFOjbbBFOsbbBF",
     "PrbbBFQbbbBFQdbbBFQdbbBFQdbbHPTkbbBQPcbbBFTabbBFTvbbHQFjbbBFUhbbBFUnbbBFVibbBGBebbBFXgbbBFXwbbBFZcbb",
     "BGBibbBGEobbBGFobbBGIdbbBGItbbBGKabbBGKabbBGKvbbBGLnbbBGLvbbBGMkbbBGZmbbBGPabbBGZnbbBGRxbbBGTgbbBFBr",
     "bbBHRqbbBHGobbBHIabbBHIzbbBHDzbbBHKkbbBHKjbbBHPcbbHTUybbBHRubbBHRzbbBHSobbBHTibbBHTqbbBHWcbbHUMibbHU",
     "OwbbBIBkbbBIDfbbBIDrbbBIAqbbBIGcbbUUwbbUVkbbBIMibbBIOkbbBIOkbbHVRcbbBITnbbBIUibbBIUxbbBIVjbbHWEabbBI",
     "VvbbBIWcbbBKCpbbBIXebbVAnbbBIZobbBJAcbbBJDgbbBJBhbbHXFobbBJIhbbHXFqbbBJJybbBJJvbbBJKmbbBJOjbbBJOkbbV",
     "HfbbBJPlbbBJRcbbBJRxbbBJTpbbVJebbHYPfbbVKebbBJWibbBJWlbbBJWobbBJXibbJVVubbBJZibbHZFtbbHZFtbbBXGbbbBK",
     "AsbbBKAsbbVNbbbIFCqbbIWYsbbBKDebbBKDnbbVOdbbBKFibbBKHhbbBKHrbbBKIzbbBKOfbbVRmbbVQibbBKOybbIAPobbBKQx",
     "bbBKVwbbBKWabbBKWcbbBKWabbBKXubbBKYobbBKZybbBKZkbbBKZvbbBLBqbbBLCkbbBLCobbBLDobbBLDzbbBLGnbbBLJtbbBL",
     "LcbbBLPwbbICFcbbBLPdbbBLMqbbBLQubbBLRvbbBLVobbICNxbbBLXybbBLUjbbBLThbbWAwbbBMArbbBMBmbbBMCrbbBMBfbbW",
     "DgbbBMJnbbBMKqbbIECgbbBMPfbbBMZwbbBMTdbbWJxbbBMVxbbWJgbbWHwbbBEXebbBEXhbbBNAebbBMWibbBWSzbbZSbbbBNBb",
     "bbBNBfbbBNBlbbBNDubbBNDjbbIFMxbbWLtbbBNJubbBNFhbbBNNebbBNPdbbIFTlbbBNPmbbBNLfbbBNUqbbWOzbbBNWkbbBOAd",
     "bbBOCwbbBOKebbIGPfbbBOMdbbWTsbbBOOvbbIHJbbbBOQubbWVubbBORybbBOTrbbBOUsbbBOUtbbIIBtbbHWXfbbIIFybbBPAk",
     "bbIIXgbbBPEtbbBPFhbbBPBjbbBPIcbbBPJqbbBPLvbbBPJtbbBPLhbbBPLwbbBPMjbbIJBabbBPJgbbBPSxbbBPVibbXEpbbBPY",
     "xbbBPYtbbIJRtbbBPQvbbBQFebbIJXebbIJZabbBQIobbBQMzbbBQLybbBQLvbbXIkbbBQNqbbBQPpbbBQPjbbBQRlbbHNVxbbBQ",
     "XhbbILAxbbBRAqbbILNnbbBRGabbBRGnbbBRHobbIMKubbBRJkbbBRKfbbIMWjbbINEybbBRTabbBRTrbbXTcbbBRUrbbXTobbXT",
     "obbBSAxbbBSBsbbBSCnbbBSDhbbBSFybbXXjbbBSJkbbIOTqbbBSKkbbIOXebbBSMibbHYQhbbBSSmbbIQBhbbIQCebbIQHobbYG",
     "abbYGmbbBTBgbbIQOhbbIQOgbbIQPtbbIQQtbbBTCwbbBTCxbbBTCxbbBTEobbYIjbbBTHbbbYIwbbYLybbIRTlbbBTOobbBTQyb",
     "bBTTkbbYOxbbISNmbbBTYsbbISRybbISTpbbBUAxbbBUElbbYRvbbBUHsbbBUIcbbBUIhbbITUibbIUFvbbIUFvbbBUOkbbYZybb",
     "IUPvbbBUWsbbBUWvbbZBjbbIUYabbBVHabbZGabbBVHwbbBVHrbbBVIubbIWBubbBVMpbbZJtbbBVQlbbBVSsbbBVVhbbZLsbbIX",
     "BsbbIXCxbbZNdbbIXInbbBWHebbIXMkbbBWIfbbBWMcbbBWMnbbIYCgbbIYFbbbBWQabbIYKebbBWQqbbIFJbbbZRxbbBWTebbBW",
     "WhbbZTzbbBWYobbBIJdbbIZDvbbIZEjbbIFLbbbIFLkbbBXGbbbBXGebbCCKcbbZXrbbBXLpbbBXLjbbBXMbbbBFIhbbBXMvbbBX",
     "MxbbBXNhbbBXOwbbJANcbbBXOvbbBXQzbbBXTrbbBXWnbbBXRfbbBXXdbbBXYtbbBYDbbbBXTbbbBXXqbbBXXsbbBXYibbJAWsbb",
     "JBIpbbJBCvbbBAFbbbBYIzbbBYJbbbBYKkbbJDTibbBYNkbbJBZwbbBAGzbbBAHdbbJCEzbbJCQcbbBAHnbbBYWmbbBYWybbBYXj",
     "bbBYXlbbBYZxbbBYYqbbBZDubbBZCcbbBZHxbbBZEubbBZHjbbBZIkbbBALrbbBZLxbbBZNdbbBAMzbbBZQubbBZQxbbJETbbbBZ",
     "VjbbBZVqbbBAPhbbBZWsbbTZfbbJFPmbbJFWobbBAUobbBAUxbbCAMybbCAPxbbCAVybbCBDtbbJHCqbbCBHbbbCBHxbbCBLjbbC",
     "BOxbbJIBnbbHOYebbCBSdbbCBRobbCBTobbHPGobbCCCibbCCGebbJKOwbbJKPxbbCCTobbCCXdbbCCYjbbJLCgbbCCYtbbCDJsb",
     "bCDPvbbCDPwbbCDMibbCEAzbbCECbbbJMXmbbCEQlbbBBWnbbCESdbbJNMdbbBBZqbbCFClbbBJMobbCFGdbbJOXpbbJPFubbBCE",
     "wbbBCFebbCFNkbbJPYwbbBCHmbbJQEgbbCFPbbbCFPbbbCFQfbbJQPibbCFXibbBCMlbbCGAbbbCGExbbCGFybbCGIgbbBCSkbbJ",
     "SRgbbCGSwbbCHEmbbCHLtbbBDCgbbBDDlbbCHPvbbJUUobbBDDwbbJUWrbbJVGwbbJVLxbbCICxbbBDHmbbCIFhbbCIFmbbCIFtb",
     "bCIGdbbCIGkbbCIHvbbJWTs"]

/-- the direction in which each code point is written -/
def bidiClasses : List (String × List String) :=
  [("AL", ["CHkbcbbbnBwBidbDxpchckxbBeBbDnlpGeBwcgiBqDNVyTasExBhnElFnFHxBkeikgOuCjBzwlBfDFSaDcCmDcGuJgco"]),
  ("AN", ["CHcgDmkbcEibQscDcbDUOzkLiBf"]),
  ("B", ["kbcbodDybLZnb"]),
  ("BN", ["ajfoDvgbBanbIWebDAqdDegegDFVsBgKlbJgjfcCTLgeHWxiRPzcDSYocDSYocDSYocDSYocDSYocDSYocDSYocDSYocDSYocDSY",
       "ocDSYocDSYoJyJgFImDMXacDSYocDSYoc"]),
  ("CS", ["BsbbckbDxbCBjbJXibubDGChbbbcbHabbckb"]),
  ("EN", ["BwkEqcfbCJekJQsbdggkBNiuDESykBLfBbDCPmByJMelEDhk"]),
  ("ES", ["BrbbbMGacocPabDEFmbBFscGlbbb"]),
  ("ET", ["BjdEuekcBVxbErcDrbBItchbJlbKdbWjbDQpbDEafEdBwDqbIubBYUucBGQfbjcFwdIkcdcMCseCVXeb"]),
  ("FSI", ["MHcb"]),
  ("LRE", ["MEsb"]),
  ("LRI", ["MHab"]),
  ("LRO", ["MEvb"]),
  ("NSM", ["BDoEiKphKdBtbbbcbcbbCulBwvqbDxhcgccbeBjbBeBbDnlCgjjbyebjbdbfBrdCiiBqybBgCdbbbeiebdhkcBdbCgbeeibucBab",
       "ccCfbececcddbBecdblcCfbefbcebucwgbbCgbcbbeibhclcBebCjbmbBybdbCdbbdfdbehclcBdbCgbpcucBccCfceeibucBdbC",
       "ubhdbbDmbchmiDubcjlhCvcBbbbbbbCdobfbcflbBkjbDyebgbccczcedqenbccgbpbBBbdBKkdBdcBecBecCmcbhibcljbBtdbb",
       "EncBibEodecjbgdIlccbCgbbhbbbbcigkcbBwBfBxeBwbbfbbfbBojmcBgeccbdCebbcdbbdCgiccFwdbnbhebgbdcHqCmBBsBhE",
       "OcdFlbDsBgVieEdcBSQeebkBgcDccKmbdbebzcfbFvcBasnbBmizlBudBwbceccBnbCpgccccmbibBvbBzbbdccfcbbBqcibJebc",
       "bebBDZsbBCjqqqBLlbIsbFtfCMgdbcfeBodebGjcWbeOxcDcdCslBxeEtbCcpBpbcckdBxecchbCjdBkfbiCkbmcCajkecbDrdcb",
       "bcgbcbGbbdivcCfcdbBlhdfHnicdbbxbDggbbecbcJeegcbcBbcDhicbbcEcbbbcgbbDxdcebfJzjbcJwcbbebFoeccebBggccBo",
       "gceibjgcdBunbcPqhbgDgwchbcbcEsgdbbcbhbbCucdbbbNjclcCaffbbbHYrbgpURqfChhBOibCleDdbBDBkcGYzBucxUydrich",
       "BeeFsdCYdCdeByibobwfbpCAihbrchbcbfDwbGehOlbCjeToeBMehEfhBTCIvJg"]),
  ("ON", ["BhcdfqgBagBaeBibeebcbcebbdcfxbBfbRhchocofjbrEmcibfcbbEgbPnbccEpcgcHybkbKieBNdgbbEvhBAxeBQokDybZqcNbk",
       "glLxbdcFwBiCEnbbdldndndncrynpbBaBddndEjcbebckbbdfgbbbbbbqceffecqBpdeFacLeCrBabFpzlvBoDuRibNbJwYecBgb",
       "EbIvgohJwDqBiBabDlmIgBamfedzpbfcfdDncdbDmbHoBkCfcBxqBcdBypmeGleDvcBfbJToCmBGUiCdModDvbkcEyBiDybGdeCu",
       "eBDacBEZqsExbBtdqkwBgbbcbbjbccdbbcbFtcdfqgBagBalEuddhkfJzbCkCzdndbCVubUrhBXyuCGwnDOqierBEHcbBLDecvCo",
       "dbHeDjBIqbCfbCfbCfbCfbIUecKkBseDwmpcpbpbBlvfBfbCggCjbGwgFyBLwerdndEpeDrgmebpmeCeikgBoiBeccDaNcmocndj",
       "hBubhioejhjhFrbCd"]),
  ("PDF", ["MEub"]),
  ("PDI", ["MHdb"]),
  ("R", ["CCubBtbbbcbcbbCeRgBrjcedbyebjbdbfBrdeIZfbDEYvbbkbBmEUyLbbIrdbcfeBodebGjcDehRgCmLcBfBsctCmBwCmseEsDDU",
       "uIahEfhBEzDcCmDcGuJwJw"]),
  ("RLE", ["MEtb"]),
  ("RLI", ["MHbb"]),
  ("RLO", ["MEwb"]),
  ("S", ["jbbbtb"]),
  ("WS", ["mbtbIMhbDPnlBdbCcbFXwb"])]

/-- how each code point joins with its neighbours -/
def joiningTypes : List (String × List String) :=
  [("C", ["CJobQzbFgdFWubDAwb"]),
  ("D", ["CIibfbbbbfenbhbcBjciqsBmbcjbbbbcBodcbsdfebjbbbbbcBfldpcebbcdcgCwBhDifcbbkbbkbbecbBdbcfskfccgbpFUcbyD",
       "loBibbCCJtByBLFyfoebfbdkeFpbbbddbcbbcbBccNaBhbbUedbrmdBcecmBubbcebccbcbbcbfbDEGrCq"]),
  ("L", ["CLUobBLGkbjbVgbBBmb"]),
  ("R", ["CIkebbbbfevbBodbdqsBmbcjbbbbccbbycBgbefebjbbbbbcbBdbldpcebbcdcHqbfcbbkbbdobbcftlbBbdbbccgbDTStbbbbcd",
       "fkbdbcbkbFpbbddbcbbcbbxeOjbUibBgbBfcCkdcccbecfb"]),
  ("T", ["GrbWwEiKphKdBtbbbcbcbbCulbbBuvqbDxhcgccbeBhbbbBeBbDnlCgjjbyebjbdbfBrdCiiBqybBgCdbbbeiebdhkcBdbCgbeei",
       "bucBabccCfbececcddbBecdblcCfbefbcebucwgbbCgbcbbeibhclcBebCjbmbBybdbCdbbdfdbehclcBdbCgbcbgbfcucBccCfc",
       "eeibucBdbCubhdbbDmbchmiDubcjlhCvcBbbbbbbCdobfbcflbBkjbDyebgbccczcedqenbccgbpbBBbdBKkdBdcBecBecCmcbhi",
       "bcljbBtdbbEncBibEodecjbgdIlccbCgbbhbbbbcigkcbBwBfBxeBwbbfbbfbBojmcBgeccbdCebbcdbbdCgiccFwdbnbhebgbdc",
       "HqCmUdbccBafBxffgDsBhEOcdFlbDsBgVieEdcBSQeebkBgcDccKmbdbebzcfbFvcBasnbBmizlBudBwbceccBnbCpgccccmbibB",
       "vbBzbbdccfcbbBqcibJebcbebBDZsbBCjqqqHzbJpdTtbIsbFtfCMgdbcfeBodebGjcWbeOxcDcdCslBxeEtbCcpBpbcckdBxecc",
       "hbCjdBkfbiCkbmcCajkecbDrdcbbcgbcbGbbdivcCfcdbBlhdfHnicdbbxbDggbbecbcJeegcbcBbcDhicbbcEcbbbcgbbDxdceb",
       "fJzjbcJwcbbebFoeccebBgkBogceibjgcdBunbcPqhbgbbDewchbcbcEsgdbbcbhbbCucdbbbNjclcCaffbbbHYbrgpURqfChhBO",
       "ibCleDdbBDBkcbeGYuBucxUydjqchBeeFsdCYdCdeByibobwfbpCAihbrchbcbfDwbGehOlbCjeToeBMehEfiBTBYzbBeDsEyJg"])]

end EventBroker.Unicode.Data
