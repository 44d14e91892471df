/-
The edition of the standard in which a code point was given a meaning.

Each set is written as the gaps and the lengths of its ranges, in turn; a number is written in base 26, its last digit as a small
letter and the digits before as capitals.
-/

namespace EventBroker.Unicode.Data

/-- the code points added in each edition, the oldest first -/
def ages : List (List String × List String) :=
  [(["1.1", "v11"],
    ["aTieBeCeDlhBvbkwCsBacscebdbfhbbbubBsbhdbbbbbbbbsnmbCobmbBpjCbccccdBcciccCdBmchbBnbbBmkbjmBbffxbobdbb",
     "BaftnocCucfbpbBeckTzdbCbcscfdzqdbicccwbhbbdecbbhcccdjbecbfcvhbcgeccwbhbcbcbccbbfeccdlebbhpmdbhbbbdbw",
     "bhbcbfckbdbdcbpbfkrdbicccwbhbccecidccdicecbdelrcbgddbedcbbbcdcdddibdefddbejbpmodbibdbxbkbfehbdbehcjc",
     "ekscbibdbxbkbfehbdbehchbbcekscbibdbxbqegcdbejbicekFpCgeBdBlcbbccbbcbgebhbdbbbbccbnbdcfbbbgckccRiBmkB",
     "nebeDmfCqfDeEOkFzfDmgwcgcBmcgcibbbbbbbBfcCbbpbocgbtcdbjbBvbxBjhdBbrlBlsBeCfBaBwnDnvJiobbErFdBlBblvFj",
     "vFukDcqugDiFpebecBcbBjbbbedbbhchoBfdyboDDhCehbbDgegcDqgBoeDqbqDsBddBkBcBcdBypmeBvbEpeDvcBfJWbBEXyYJq",
     "JXuIchmfgzbfbbbcbcbEeBhObqCmcCcBomBkemvekbtbeedbbbFfcbbDqcDqdgcgcgcddhbhod"]),
  (["2.0", "v20"],
    ["CCvrbnubDMxCubBhhBbegbbbvdhbbFQnbUhbCATwQNsDoDAuEFBqcDSYocDSYocDSYocDSYocDSYocDSYocDSYocDSYocDSYocDS",
     "YocDSYocDSYocDSYoHLXi"]),
  (["2.1", "v21"],
    ["MJsbDGOtb"]),
  (["3.0", "v30"],
    ["TieBeicsEnfBxbkfDjjtbEmbdbbbbbbbBebmbCobmbBqcceDocGabHsdDucfbpbBqfbobBedBbCbBxCFhcbsdybjbbchdbegbbbi",
     "sdOjbBrbxdhbbdbpcbBwBibfbcbhdegBaQghbClbbbechbbbecBnbbbecBfbbbechbbbechbhbxbBfbbbechbBnbtgBcBjDhmYgj",
     "BddDdFnDpdkwpbkgDkiBqCWbbygDrdBycDhcCubDzjKjbErbbBeFicRpiBhbDicPiJwCCeBabDlmIgBamCiddbNpyWmJTeBFEgBS",
     "vdscqbmbdbbBGScbBVvd"]),
  (["3.1", "v31"],
    ["BMycDQQcBgBXwBfbemBbGzBmcBmCZDqJmkBndGyVaDhbCtbccbcccebmbbbebcbCnbecibhbBcbebfbbdhbNaeLeeByPDwCLEtBE",
     "TdUwBPCQtbBeDs"]),
  (["3.2", "v32"],
    ["UybLqbtnEacBcbFrcCfcccccBxqNmcMjbDNhcCHjnbhlxjumnbdbcDIxbgfebhfnbCkcByhDepGmmJioEubBeCaKyuFvkDkiwcDm",
     "mckIooDmBceqJwTsBZndDjcicDqbJgqDdpDdpBRDicqbmbdbBGJaChBJdbdqCbcBsbJbc"]),
  (["4.0", "v40"],
    ["UzbsdEpcClrDcifdFvfTwejjCmdFtcpbBtdBddQubHcbCpbbbFgbDgdnbCpbChbEziHlcEFnbskKcBddmemebdBqcfEdBgBDoEeB",
     "CpcIwbZjcLqbKqcEmiocBRaoCRncBxbBrcDaeGleDvcBfbJToCmCOQvbCvcQxmbBabtbcbpcoBiEtfdeBtdjWeBebbFecBmDcckB",
     "GwgcbbBsbcdbcbCYUiDjNybBTKDaJg"]),
  (["4.1", "v41"],
    ["VvlKsfGdeJmcGobBidCpbsbCggJhBeUhbDcbStbBvbBMncLjcbbKgbClbClbBnbBfbBfbBfbpbBnbxcBfBaCGcBqgBagkecBgBcc",
     "cBGmDkZhcbhBxfBdeCbbDcbpbYulWabDxcslfqKkhBGhgJcBvbBvBhEdoBtkCcjbqxjhbhbhbhbhbhbhbhBhyecBJuqGsbBPItwC",
     "ToxIzBsBFEaEcBFqkBFaCxUnBkeoCIsebcfibdbBbedejijCXPvCsBRac"]),
  (["5.0", "v50"],
    ["WgoLndMzbBqgqeGkbTxChOucbcBHicncFIjCyeBtWlhBzcBCueDpcCbbXbmBBmbKqeBGjhfeMenheBULjefcLaCeBKOmBafbIRgB",
     "HvFpDvneCOGisBQuc"]),
  (["5.1", "v51"],
    ["BHweccDjbHbbFkqIsflfBgfLqsTdcIobBjbHybBdcEebEebBacicuiHhbgbBdcmgdhSxcDtbddCzbfbcbhdegBaCmecDBebBBxBr",
     "dmCsCedpdBzMtBcGzeDmgNsbFjbDqbCbeBYabvkdeKebBfeBFffeBpdfKudbdegNqBgyectBDkbGguBPPoiBZoLouBgcsiBcFbfc",
     "EdEgfEyCrjmBmDglbGeCdjockceBFSudBHpmCaBuFaBddBxCKdBafbCXSjbLRqBseDw"]),
  (["5.2", "v52"],
    ["BYqcBCcBucpHlbCzbgbBjcEybCFpeHleHgfCqfDegTsbYgjVoCsGycBubCrClbBdclgkgoVaBjKgbBAudFvdCcbXibBArcBddekb",
     "tbbeyDjbBNhfKsbncEdhMhbBOcmBPLsiBXkBwQaDkMakGkBcDwBddDablecEyBceCpyfIqBuckQOkxeBxNBbdFGcwbjHecMmBgEy",
     "CcdBdcBbfiEyCvUpBfTtCoLVqBPfCTNdlfBfcblbbbcbdbdfibhbzbbccbkecbEhbpBiojCQLjGDp"]),
  (["6.0", "v60"],
    ["BYscJobCkbSmBccbIlctbgcBbfTmgQrbqbtbWbeCvcBIocDEnCaieTobZoiBcbBFjlBCcbtbbeBdbecBcbBjbbbedjcCadyboboc",
     "CDkbobBPodBSEncLncbcokDcbBDugcgcgjhbhBEMtqHRiDaeBeBHEeVxBALbcYMgpcocpbpDcbblbbbcbdbdfibhbkgjbbccbkec",
     "bkCxBabcBvjvcGsBhpgbCsdumBlbfvrpClbbbHabedCksyFrfbqbdbbbbbbbdbgcebbcebmelBwCsCgEmCUQmIo"]),
  (["6.1", "v61"],
    ["CCtbEmbZrbblCdBbTdbBMrcStbfbBvdEBbdmgJwiBreECqbbbBYqcBzbfbCecHukBRAebCNniBjbJicwbCzcBCoxBDZzcFUuCegc",
     "CRozhkgCbboCiCvhkBTuCeikBHKoCrlBvqrBVWiebBbbcbbcbbkbebbbbgbebbbbbbdbcbbcbbbbbbbbbbcbbcebhbebebbbkbrf",
     "dbfbrCacYicBLseHgbqbdbbbbbbbdbgcebbceb"]),
  (["6.2", "v62"],
    ["MKgb"]),
  (["6.3", "v63"],
    ["CIebJYve"]),
  (["7.0", "v70"],
    ["BIlbQiiDpcEobZrblgCybEqbhbYpbBzbCybExbIukDKriVccPlpVxcJdpBBhdBFqhBDtbBQidkBacBgcBidmbiXuhBTOvgJmmldc",
     "cCrbSuBfEveGuBwecBFIvhBHdctbMhBcBjbBwBrOzBoiCalbFoLzjwkiJoClijRwBgBgBnemFhshemhBVjbIaBnDibmbgulsbBrE",
     "kChfkhdbicccwbhbcbfcjcccdjbfhchdfKhCuikGkCccsCcCrlkWkDfmbRgCfDFiBqHumfbBALfBfbkecDsBecgkCskkbhbvftBE",
     "MaEdfndjhkciQKyHpcqCZwbBgwvcUmmjbCsbwmBlbfefmrhCtbbbHabecClcehBdsbBpbDiCscnBwCskqndeFkDhBrmeCeikgBoi",
     "Be"]),
  (["8.0", "v80"],
    ["DHrcBubUnbNobKabCMvbcgEVobHvcDYeeBRWvjCOubJgbBigMmcXmemDcBFFqcEBgtbcffHgccqcBuYqBznBzhgBVdeofGehbbbe",
     "bpblDibDbbYjuLeBadpeqERpbIwHoLQqWlCAWllCHzZcpfbpJHddDacDbfBkiJvbCxfJjcFjbWdjDzfChbCUClINq"]),
  (["9.0", "v90"],
    ["DHuiwpBJpbHybedbhxdFRzjOgbCHbeDXccBTZlbKsbBHQdcBEvBkeBkFAobRhDmbbbbTunCCxjbBtbokBddBgcwboBFMvbBfJBpt",
     "BDbBGFlhbrchbcbfDIzCxfkecDDbsFmbBFybBpbLocBhdVagbiibcmbmepBmn"]),
  (["10.0", "v100"],
    ["DEmlPlcJsgTsbCgcFYwbJueBBhbBFzbCZabYcfBCmbBPXnvBLPidIQqCuiCacxbfXhhbcbBsdbbcbjikBFGpbYHkKzDdPgYAegBR",
     "pcBicTzmtbiibczbsnBmgCexDCPdLBl"]),
  (["11.0", "v110"],
    ["CAybBnbDybUfdIdbLmbEpbPhbExbENrbBOhBrcdFRmdwzepWpfBCibBPYhfCYhbicMmcBKVccsbBAtBoikRmBoiBqOhbEodTgbLe",
     "bBAxbIvCiXlbBBegbcbBlbcbghkLyzBEApDnJPifBCJuuEwhJLwCqBScbCEzbIleOidBcfcedbbeylnkhcBkzDso"]),
  (["12.0", "v120"],
    ["EStbUgbcbcbbgebhbhccbnbFKhbFPubCbbWtbBTZmgcfBJrcBMBgxBRkbXcbBCpicBuclGdcBZmBynbHQujWJkgebBvjDmcJCwgP",
     "RcdreSAqBtdockecOeCgfbCJzbBKnCjBPebCBgbBkbIvmLddBvbBxbjbBpgdckgdicdBwDgBceedfdng"]),
  (["12.1", "v121"],
    ["TIdb"]),
  (["13.0", "v130"],
    ["DIckZdbQobEubFAjcGJubBAudBHofKPikBFDgnCYseBqcCbbBFveBGQqbEWxBqbdccJuBcOpbFecZabfcBTmhcbcibcbBebccmjk",
     "CKkbBEJrblcKFxSpBqjBLWudDpdCjbBYucBjcQtcDmbDxbecBqcgdBdbGmboepthhjdnhBpFrbCdBlkCMSjhBHTqHHz"]),
  (["14.0", "v140"],
    ["CIfbWwBfbcgivbslBHpbBgbExbDWhbhbjbJfbBAnoEvbBwcYlbBBhbEIobBvbTflBRAtdCYicocbbbfydBFTdbOrqExbBucCVglb",
     "pbhbcblbpbhbcRjgbBqbjCXxBaIwgCybCGsbFehBHpqHWyDvWDxDbbkBAEwebhbcLceLIbBucxjEmVdcEYvBfBHxBfBZdhbebcbp",
     "FQkdKmbPcbDebGscBsekeidrdgiihCNCpcGEve"]),
  (["15.0", "v150"],
    ["EXnbSgbDTAkdBFzdDIckBNarbBpdBcHXdbjBdBVHkbBibMRauERhgKbCkBhbBPwBqGUcbFvdefDlbZrdpcBkdldbbockcmbocCTH",
     "obBIWsGFg"]),
  (["15.1", "v151"],
    ["SEmeTbbKEIqXy"]),
  (["16.0", "v160"],
    ["DGhbhbBLcbExbFHipcmDucBvbKfcBPmbBHldCVcbCKbcBSQvfcbbbfdubBFThqRdcCchDAfCaBGmBaBMkBmdBdicLugijBhdBSlk",
     "bbcbbBmbkbbcbbebkbcicBCvuBSeiDkBiokQwBsekOebHYzFXrKZtCgEOkCgLizczLafJCjiBXfbjwDtElXMzJtdQugxprIRfBre",
     "bHkBfbwicGAabGceLzkecojOpeBxcdcBubhbbbebobcbjcebIlBlkbCSXrgIWgmBGFaGJi"])]

end EventBroker.Unicode.Data
