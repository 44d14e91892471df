/-
Canonical equivalence: what each code point is made of, and in which order marks are written.

Numbers are written as in the other tables.
-/

namespace EventBroker.Unicode.Data

/-- full canonical decompositions, Hangul syllables left out: the distance from the code point before, the number of parts, the parts -/
def decompositions : List String :=
  ["HkcCnBDobcCnBDpbcCnBDqbcCnBDrbcCnBDwbcCnBDyccCpBFbbcCrBDobcCrBDpbcCrBDqbcCrBDwbcCvBDobcCvBDpbcCvBDqb",
     "cCvBDwccDaBDrbcDbBDobcDbBDpbcDbBDqbcDbBDrbcDbBDwdcDhBDobcDhBDpbcDhBDqbcDhBDwbcDlBDpdcDtBDobcDtBDpbcD",
     "tBDqbcDtBDrbcDtBDwbcDtBDyccDvBFbbcDxBDobcDxBDpbcDxBDqbcDxBDwbcEbBDobcEbBDpbcEbBDqbcEbBDwccEgBDrbcEhB",
     "DobcEhBDpbcEhBDqbcEhBDrbcEhBDwdcEnBDobcEnBDpbcEnBDqbcEnBDwbcErBDpccErBDwbcCnBDsbcDtBDsbcCnBDubcDtBDu",
     "bcCnBFcbcDtBFcbcCpBDpbcDvBDpbcCpBDqbcDvBDqbcCpBDvbcDvBDvbcCpBEabcDvBEabcCqBEabcDwBEadcCrBDsbcDxBDsbc",
     "CrBDubcDxBDubcCrBDvbcDxBDvbcCrBFcbcDxBFcbcCrBEabcDxBEabcCtBDqbcDzBDqbcCtBDubcDzBDubcCtBDvbcDzBDvbcCt",
     "BFbbcDzBFbbcCuBDqbcEaBDqdcCvBDrbcEbBDrbcCvBDsbcEbBDsbcCvBDubcEbBDubcCvBFcbcEbBFcbcCvBDvecCwBDqbcEcBD",
     "qbcCxBFbbcEdBFbccCyBDpbcEeBDpbcCyBFbbcEeBFbbcCyBEabcEeBEafcDaBDpbcEgBDpbcDaBFbbcEgBFbbcDaBEabcEgBEae",
     "cDbBDsbcEhBDsbcDbBDubcEhBDubcDbBDzbcEhBDzdcDeBDpbcEkBDpbcDeBFbbcEkBFbbcDeBEabcEkBEabcDfBDpbcElBDpbcD",
     "fBDqbcElBDqbcDfBFbbcElBFbbcDfBEabcElBEabcDgBFbbcEmBFbbcDgBEabcEmBEadcDhBDrbcEnBDrbcDhBDsbcEnBDsbcDhB",
     "DubcEnBDubcDhBDybcEnBDybcDhBDzbcEnBDzbcDhBFcbcEnBFcbcDjBDqbcEpBDqbcDlBDqbcErBDqbcDlBDwbcDmBDpbcEsBDp",
     "bcDmBDvbcEsBDvbcDmBEabcEsBEaBicDbBEpbcEhBEpocDhBEpbcEnBEpBdcCnBEabcDtBEabcCvBEabcEbBEabcDbBEabcEhBEa",
     "bcDhBEabcEnBEabdDhBDwBDsbdEnBDwBDsbdDhBDwBDpbdEnBDwBDpbdDhBDwBEabdEnBDwBEabdDhBDwBDobdEnBDwBDocdCnBD",
     "wBDsbdDtBDwBDsbdCnBDvBDsbdDtBDvBDsbcHqBDsbcIwBDsdcCtBEabcDzBEabcCxBEabcEdBEabcDbBFcbcEhBFcbdDbBFcBDs",
     "bdEhBFcBDsbcQxBEabcZiBEabcEcBEaecCtBDpbcDzBDpdcDaBDobcEgBDobdCnBDyBDpbdDtBDyBDpbcHqBDpbcIwBDpbcIiBDp",
     "bcJoBDpbcCnBEdbcDtBEdbcCnBEfbcDtBEfbcCrBEdbcDxBEdbcCrBEfbcDxBEfbcCvBEdbcEbBEdbcCvBEfbcEbBEfbcDbBEdbc",
     "EhBEdbcDbBEfbcEhBEfbcDeBEdbcEkBEdbcDeBEfbcEkBEfbcDhBEdbcEnBEdbcDhBEfbcEnBEfbcDfBFabcElBFabcDgBFabcEm",
     "BFadcCuBEabcEaBEahcCnBDvbcDtBDvbcCrBFbbcDxBFbbdDbBDwBDsbdEhBDwBDsbdDbBDrBDsbdEhBDrBDsbcDbBDvbcEhBDvb",
     "dDbBDvBDsbdEhBDvBDsbcDlBDsbcErBDsKjbBDobbBDpcbBEhbcBDwBDpBwbBAvkbChhcGmBDpbcBJdBDpbbHbbcBJhBDpbcBJjB",
     "DpbcBJlBDpccBJrBDpccBJxBDpbcBKbBDpbdBKrBDwBDpBacBJlBDwbcBJxBDwbcBKjBDpbcBKnBDpbcBKpBDpbcBKrBDpbdBLdB",
     "DwBDpBacBKrBDwbcBLdBDwbcBKxBDpbcBLdBDpbcBLhBDpfcBLqBDpbcBLqBDwBscBOfBDobcBOfBDwccBOdBDpecBNqBDwfcBOk",
     "BDpbcBOiBDobcBOtBDulcBOiBDuBgcBPoBDuxcBPlBDobcBPlBDwccBPjBDpecBQsBDwfcBPqBDpbcBPoBDobcBPzBDuycBRwBEd",
     "bcBRxBEdCwcBOgBDubcBPmBDuocBOaBDubcBPgBDubcBOaBDwbcBPgBDwdcBOfBDubcBPlBDudcBVsBDwbcBVtBDwbcBOgBDwbcB",
     "PmBDwbcBOhBDwbcBPnBDwdcBOiBDsbcBPoBDsbcBOiBDwbcBPoBDwbcBOoBDwbcBPuBDwdcBWiBDwbcBWjBDwbcBPdBDwbcBQjBD",
     "wbcBOtBDsbcBPzBDsbcBOtBDwbcBPzBDwbcBOtBDzbcBPzBDzbcBOxBDwbcBQdBDwdcBPbBDwbcBQhBDwLlcCIpCKhbcCIpCKibc",
     "CJwCKibcCIpCKjbcCJyCKiFycCPhCKiccCOnCKircCPeCKiXacDMeDMyicDMmDMydcDMpDMyBkcDLlDMybcDLmDMybcDLnDMybcD",
     "LsDMybcDLxDMybcDLyDMybcDMhDMybcDMlDMyEecDShDRybcDShDSxqcDQvDRwbcDQwDRwccDRjDRwDgcDWkDWudcDWqDWuBjcDV",
     "iDWubcDVjDWubcDVoDWudcDWdDWuJacEHbEHqdcEHbEGsbcEHbEHrqcEFpEGqbcEFqEGqCdcEJyEMpCccELyELqbcELzELqbcELy",
     "EMpEucEQwERmEqcEVnEWjhcEVuEWjbcEVuEWkccEVuEVqbdEVuEVqEWjExcFAsFAkbcFAtFAkbcFAsFBjFmcFGjFFuccFGjFFzbd",
     "FGjFFzFFubcFGjFGpNtcFUgFYtkcFUqFYtfcFUvFYtfcFVaFYtfcFVfFYtncFUeFYrkcFWbFWcccFWbFWebcFYoFWqccFYpFWqjc",
     "FWbFWqscFXiFYtkcFXsFYtfcFXxFYtfcFYcFYtfcFYhFYtncFXgFYrEfcGCzGDiEDccKGbKHxccKGdKHxccKGfKHxccKGhKHxccK",
     "GjKHxecKGnKHxBpcKIcKHxccKIeKHxdcKIgKHxbcKIhKHxccKIkKHxBAzcCnBEzbcDtBEzbcCoBDvbcDuBDvbcCoBExbcDuBExbc",
     "CoBFlbcDuBFlbdCpBFbBDpbdDvBFbBDpbcCqBDvbcDwBDvbcCqBExbcDwBExbcCqBFlbcDwBFlbcCqBFbbcDwBFbbcCqBFhbcDwB",
     "FhbdCrBDsBDobdDxBDsBDobdCrBDsBDpbdDxBDsBDpbcCrBFhbcDxBFhbcCrBFkbcDxBFkbdCrBFbBDubdDxBFbBDubcCsBDvbcD",
     "yBDvbcCtBDsbcDzBDsbcCuBDvbcEaBDvbcCuBExbcEaBExbcCuBDwbcEaBDwbcCuBFbbcEaBFbbcCuBFibcEaBFibcCvBFkbcEbB",
     "FkbdCvBDwBDpbdEbBDwBDpbcCxBDpbcEdBDpbcCxBExbcEdBExbcCxBFlbcEdBFlbcCyBExbcEeBExbdCyBExBDsbdEeBExBDsbc",
     "CyBFlbcEeBFlbcCyBFhbcEeBFhbcCzBDpbcEfBDpbcCzBDvbcEfBDvbcCzBExbcEfBExbcDaBDvbcEgBDvbcDaBExbcEgBExbcDa",
     "BFlbcEgBFlbcDaBFhbcEgBFhbdDbBDrBDpbdEhBDrBDpbdDbBDrBDwbdEhBDrBDwbdDbBDsBDobdEhBDsBDobdDbBDsBDpbdEhBD",
     "sBDpbcDcBDpbcEiBDpbcDcBDvbcEiBDvbcDeBDvbcEkBDvbcDeBExbcEkBExbdDeBExBDsbdEkBExBDsbcDeBFlbcEkBFlbcDfBD",
     "vbcElBDvbcDfBExbcElBExbdDfBDpBDvbdElBDpBDvbdDfBEaBDvbdElBEaBDvbdDfBExBDvbdElBExBDvbcDgBDvbcEmBDvbcDg",
     "BExbcEmBExbcDgBFlbcEmBFlbcDgBFhbcEmBFhbcDhBEybcEnBEybcDhBFkbcEnBFkbcDhBFhbcEnBFhbdDhBDrBDpbdEnBDrBDp",
     "bdDhBDsBDwbdEnBDsBDwbcDiBDrbcEoBDrbcDiBExbcEoBExbcDjBDobcEpBDobcDjBDpbcEpBDpbcDjBDwbcEpBDwbcDjBDvbcE",
     "pBDvbcDjBExbcEpBExbcDkBDvbcEqBDvbcDkBDwbcEqBDwbcDlBDvbcErBDvbcDmBDqbcEsBDqbcDmBExbcEsBExbcDmBFlbcEsB",
     "FlbcEaBFlbcEmBDwbcEpBDybcErBDyccOtBDvfcCnBExbcDtBExbcCnBDxbcDtBDxbdCnBDqBDpbdDtBDqBDpbdCnBDqBDobdDtB",
     "DqBDobdCnBDqBDxbdDtBDqBDxbdCnBDqBDrbdDtBDqBDrbdCnBExBDqbdDtBExBDqbdCnBDuBDpbdDtBDuBDpbdCnBDuBDobdDtB",
     "DuBDobdCnBDuBDxbdDtBDuBDxbdCnBDuBDrbdDtBDuBDrbdCnBExBDubdDtBExBDubcCrBExbcDxBExbcCrBDxbcDxBDxbcCrBDr",
     "bcDxBDrbdCrBDqBDpbdDxBDqBDpbdCrBDqBDobdDxBDqBDobdCrBDqBDxbdDxBDqBDxbdCrBDqBDrbdDxBDqBDrbdCrBExBDqbdD",
     "xBExBDqbcCvBDxbcEbBDxbcCvBExbcEbBExbcDbBExbcEhBExbcDbBDxbcEhBDxbdDbBDqBDpbdEhBDqBDpbdDbBDqBDobdEhBDq",
     "BDobdDbBDqBDxbdEhBDqBDxbdDbBDqBDrbdEhBDqBDrbdDbBExBDqbdEhBExBDqbdDbBEpBDpbdEhBEpBDpbdDbBEpBDobdEhBEp",
     "BDobdDbBEpBDxbdEhBEpBDxbdDbBEpBDrbdEhBEpBDrbdDbBEpBExbdEhBEpBExbcDhBExbcEnBExbcDhBDxbcEnBDxbdDhBEpBD",
     "pbdEnBEpBDpbdDhBEpBDobdEnBEpBDobdDhBEpBDxbdEnBEpBDxbdDhBEpBDrbdEnBEpBDrbdDhBEpBExbdEnBEpBExbcDlBDobc",
     "ErBDobcDlBExbcErBExbcDlBDxbcErBDxbcDlBDrbcErBDrhcBKjBEhbcBKjBEibdBKjBEhBDobdBKjBEiBDobdBKjBEhBDpbdBK",
     "jBEiBDpbdBKjBEhBGcbdBKjBEiBGcbcBJdBEhbcBJdBEibdBJdBEhBDobdBJdBEiBDobdBJdBEhBDpbdBJdBEiBDpbdBJdBEhBGc",
     "bdBJdBEiBGcbcBKnBEhbcBKnBEibdBKnBEhBDobdBKnBEiBDobdBKnBEhBDpbdBKnBEiBDpdcBJhBEhbcBJhBEibdBJhBEhBDobd",
     "BJhBEiBDobdBJhBEhBDpbdBJhBEiBDpdcBKpBEhbcBKpBEibdBKpBEhBDobdBKpBEiBDobdBKpBEhBDpbdBKpBEiBDpbdBKpBEhB",
     "GcbdBKpBEiBGcbcBJjBEhbcBJjBEibdBJjBEhBDobdBJjBEiBDobdBJjBEhBDpbdBJjBEiBDpbdBJjBEhBGcbdBJjBEiBGcbcBKr",
     "BEhbcBKrBEibdBKrBEhBDobdBKrBEiBDobdBKrBEhBDpbdBKrBEiBDpbdBKrBEhBGcbdBKrBEiBGcbcBJlBEhbcBJlBEibdBJlBE",
     "hBDobdBJlBEiBDobdBJlBEhBDpbdBJlBEiBDpbdBJlBEhBGcbdBJlBEiBGcbcBKxBEhbcBKxBEibdBKxBEhBDobdBKxBEiBDobdB",
     "KxBEhBDpbdBKxBEiBDpdcBJrBEhbcBJrBEibdBJrBEhBDobdBJrBEiBDobdBJrBEhBDpbdBJrBEiBDpdcBLdBEhbcBLdBEibdBLd",
     "BEhBDobdBLdBEiBDobdBLdBEhBDpbdBLdBEiBDpbdBLdBEhBGcbdBLdBEiBGcccBJxBEicdBJxBEiBDocdBJxBEiBDpcdBJxBEiB",
     "GcbcBLhBEhbcBLhBEibdBLhBEhBDobdBLhBEiBDobdBLhBEhBDpbdBLhBEiBDpbdBLhBEhBGcbdBLhBEiBGcbcBKbBEhbcBKbBEi",
     "bdBKbBEhBDobdBKbBEiBDobdBKbBEhBDpbdBKbBEiBDpbdBKbBEhBGcbdBKbBEiBGcbcBKjBDobcBKjBDpbcBKnBDobcBKnBDpbc",
     "BKpBDobcBKpBDpbcBKrBDobcBKrBDpbcBKxBDobcBKxBDpbcBLdBDobcBLdBDpbcBLhBDobcBLhBDpddBKjBEhBGfbdBKjBEiBGf",
     "beBKjBEhBDoBGfbeBKjBEiBDoBGfbeBKjBEhBDpBGfbeBKjBEiBDpBGfbeBKjBEhBGcBGfbeBKjBEiBGcBGfbdBJdBEhBGfbdBJd",
     "BEiBGfbeBJdBEhBDoBGfbeBJdBEiBDoBGfbeBJdBEhBDpBGfbeBJdBEiBDpBGfbeBJdBEhBGcBGfbeBJdBEiBGcBGfbdBKpBEhBG",
     "fbdBKpBEiBGfbeBKpBEhBDoBGfbeBKpBEiBDoBGfbeBKpBEhBDpBGfbeBKpBEiBDpBGfbeBKpBEhBGcBGfbeBKpBEiBGcBGfbdBJ",
     "jBEhBGfbdBJjBEiBGfbeBJjBEhBDoBGfbeBJjBEiBDoBGfbeBJjBEhBDpBGfbeBJjBEiBDpBGfbeBJjBEhBGcBGfbeBJjBEiBGcB",
     "GfbdBLhBEhBGfbdBLhBEiBGfbeBLhBEhBDoBGfbeBLhBEiBDoBGfbeBLhBEhBDpBGfbeBLhBEiBDpBGfbeBLhBEhBGcBGfbeBLhB",
     "EiBGcBGfbdBKbBEhBGfbdBKbBEiBGfbeBKbBEhBDoBGfbeBKbBEiBDoBGfbeBKbBEhBDpBGfbeBKbBEiBDpBGfbeBKbBEhBGcBGf",
     "beBKbBEiBGcBGfbcBKjBDubcBKjBDsbdBKjBDoBGfbcBKjBGfbdBKjBDpBGfccBKjBGcbdBKjBGcBGfbcBJdBDubcBJdBDsbcBJd",
     "BDobcBJdBDpbcBJdBGfcbBKrdcGmBGcbdBKpBDoBGfbcBKpBGfbdBKpBDpBGfccBKpBGcbdBKpBGcBGfbcBJhBDobcBJhBDpbcBJ",
     "jBDobcBJjBDpbcBJjBGfbcMApBDobcMApBDpbcMApBGcbcBKrBDubcBKrBDsbdBKrBDwBDobdBKrBDwBDpdcBKrBGcbdBKrBDwBG",
     "cbcBJlBDubcBJlBDsbcBJlBDobcBJlBDpccMDaBDobcMDaBDpbcMDaBGcbcBLdBDubcBLdBDsbdBLdBDwBDobdBLdBDwBDpbcBKz",
     "BEhbcBKzBEibcBLdBGcbdBLdBDwBGcbcBJxBDubcBJxBDsbcBJxBDobcBJxBDpbcBJtBEibcGmBDobcGmBDpbbDsddBLhBDoBGfb",
     "cBLhBGfbdBLhBDpBGfccBLhBGcbdBLhBGcBGfbcBJrBDobcBJrBDpbcBKbBDobcBKbBDpbcBKbBGfbbGydbMDebbMDfLhbBKbebC",
     "xbcCnBDyEhcMSmBFsbcMSoBFstcMSqBFsBfcMUyBFsbcMVcBFsbcMVaBFsCbcMWxBFsfcMXcBFsdcMXfBFsycMYdBFsccMYfBFsB",
     "bcMZcBFsdcMZjBFsdcMZlBFsccMZoBFsxcCjBFsccNAnBFslcMZtBFsbcCiBFsbcCkBFsbcNAqBFsbcNArBFsdcNBeBFsbcNBfBF",
     "sdcNBiBFsbcNBjBFshcNBmBFsbcNBnBFsdcNBuBFsbcNBvBFsdcNByBFsbcNBzBFsBjcNDaBFsbcNDgBFsbcNDhBFsbcNDjBFsBx",
     "cNBoBFsbcNBpBFsbcNCjBFsbcNCkBFshcNDqBFsbcNDrBFsbcNDsBFsbcNDtBFsCibSEybbSEzCXucQGbBFsCBocSHnSKnccSHpS",
     "KnccSHrSKnccSHtSKnccSHvSKnccSHxSKnccSHzSKnccSIbSKnccSIdSKnccSIfSKnccSIhSKnccSIjSKndcSImSKnccSIoSKncc",
     "SIqSKnhcSIxSKnbcSIxSKoccSJaSKnbcSJaSKoccSJdSKnbcSJdSKoccSJgSKnbcSJgSKoccSJjSKnbcSJjSKoxcSHiSKnkcSKrS",
     "KnocSLfSKnccSLhSKnccSLjSKnccSLlSKnccSLnSKnccSLpSKnccSLrSKnccSLtSKnccSLvSKnccSLxSKnccSLzSKnccSMbSKndc",
     "SMeSKnccSMgSKnccSMiSKnhcSMpSKnbcSMpSKoccSMsSKnbcSMsSKoccSMvSKnbcSMvSKoccSMySKnbcSMySKoccSNbSKnbcSNbS",
     "KoxcSLaSKndcSNvSKnbcSNwSKnbcSNxSKnbcSNySKnecSOjSKnCXTibCBDgbbBMZsbbCCBybbCBIebbBPZdbbBDPybbBFUbbbCIL",
     "obbCILobbBHVlbbCDFtbbBGKdbbBHVcbbBLCobbBSVxbbBWHpbbBYVvbbBZKkbbBZWqbbCCTjbbBODubbBPIhbbBQTdbbBRWwbbB",
     "YCbbbCDBubbCGHtbbBDTabbBFPtbbBONsbbBRFnbbBYVdbbCHWwbbBJIubbBQJzbbBYRlbbCAAubbBLKrbbBXEmbbBZOhbbBJXib",
     "bBNBbbbBPLibbBROebbCCVubbBEDabbBEYpbbBFJybbBMEebbBOLvbbBRFcbbBTAtbbBWMjbbBYTqbbBYWybbCBTnbbCFGsbbCGW",
     "lbbCHVmbbBTQybbBUAhbbBVOybbBXXpbbCDRobbCIApbbCAPabbBHRbbbBJZobbBVCqbbBWRebbBRIgbbBTTibbCBHybbCFElbbB",
     "HQubbBIZqbbBOElbbBPPqbbBQBnbbBVKpbbBVUtbbCEXvbbBFJmbbBWRrbbBFAabbBEZkbbBUGibbBVQcbbBXZdbbCEZlbbCAVob",
     "bBLKxbbBODubbCAQobbBDQfbbBIUxbbBKJybbBRTnbbBSMibbBFMdbbBTVfbbBEFfbbBKFxbbBDOnbbBPFgbbBMLcbbBVKcbbBFS",
     "tbbBHMcbbBTBtbbBYCnbbCANibbBOUsbbCCKubbBPCqbbBLMsbbBXOvbbBLSybbBSLxbbBDUsbbBEVpbbBEZhbbBNOzbbBVHvbbB",
     "XKhbbCAOwbbCDFrbbBFKvbbBFXqbbBHWtbbBJYqbbBMObbbBQKsbbBTXabbCERtbbCGMkbbCIBnbbCIDqbbBFHjbbBMXybbBOSdb",
     "bCCHubbBJUabbBKYqbbBLCybbBMCobbBQChbbBQXlbbBSDlbbBUDebbBVSebbBWQpbbCCFmbbBYIwbbCCPfbbCDUgbbBFChbbBFH",
     "rbbBGCjbbBQSmbbBZUobbCANibbBJXhbbBKIvbbBLRnbbBOUgbbBVBibbBRSvbbBDWubbBGYjbbBIUxbbBJMwbbBKKibbBRVebbB",
     "SCfbbBWIkbbBWPabbCDJobbCFEkbbCFHobbCFPobbBEDfbbBUCcbbCDEqbbCFCabbBKRxbbBDTebbBEQcbbBIVebbBIYhbbBMMjb",
     "bBODubbBRCobbBSUkbbBYJkbbCCSqbbCIKzbbBMVobbCEWsbbBFGrbbBNExbbBNJnbbBPJtbbBPXcbbBRYnbbBSLlbbBTPrbbBVJ",
     "kbbCFSgbbBEVtbbBLEsbbCEZobbBEJjbbBJGrbbBPQgbbCCFqbbBKEtbbBKVsbbBNKxbbBRTnbbCFAcbbBFCzbbBFVrbbBIZtbbB",
     "MRbbbBNDebbBNQmbbBPGfbbBRYkbbBSQsbbBWHdbbBZVbbbBZVtbbCDFobbCFDqbbBFNrbbBPYgbbBFWfbbBRCqbbBSEabbBYTeb",
     "bCFBfbbCHFjbbCIBvbbBNFzbbBPPbbbBXFcbbBUNbbbBUQibbBVEobbBRLwbbBQQrbbCAUabbBDVkbbBXRybbBFDqbbBFBrbbBJV",
     "ybbBLLbbbBVHebbBIRdbbBPIkbbBMXgbbCCGhbbBZQabbCEXxbbCAChbbBJXrbbBEUabbBGMidbBHLycbBMUudbBFAcbbBRPybbB",
     "SZqbbBTXsbbBTZabbBTZhbbBUAxbbCFIcbbBVGgbbBWJtcbBYUccbCAQidbCCQabbCCXpebCFXvbbCFYibbCGAabbCHSubbCCWkb",
     "bCFBzbbBEEobbBEQpbbBEUnbbBFJdbbBFKebbBFOjbbBGKzbbBGPabbBGSubbBHKybbBHOybbBIZsbbBJAcbbBKOybbBKXcbbBKY",
     "obbBLCkbbBMJnbbBMPebbBMVxbbBNPdbbBPLvbbBPScbbBQCgbbBQYwbbBRGdbbBRZmbbBTRdbbBTXubbBTYfbbBTYebbBTYmbbB",
     "TYsbbBTYzbbBUAvbbBUAwbbBUHsbbBUKfbbBUWmbbBVSebbBVSzbbBVVdbbBWGwbbBWMnbbBXFhbbBXKrbbBXKrbbBYDbbbBZXob",
     "bCACsbbCAQrbbCASvbbCBIpbbCBKqbbCCLabbCCQabbCFDrbbCFOpbbCFQxbbBKNtbbILGgbbBXGydbBDPmbbBEYnbbBEVobbBEC",
     "ubbBEUfbbBEWmbbBFJbbbBFLabbBGKzbbBGIfbbBGKvbbBGNqbbBHLybbBHPjbbBHUybbBHVobbBIFybbBINobbBJXqbbBJXxbbB",
     "KDlbbBKGbbbBKRobbBKWcbbBKTkbbBKYobbBKWubbBLCkbbBLEybbBLUibbBLXsbbBLZubbBMJubbBMUubbBNBbbbBNBfbbBNDmb",
     "bBOSfbbBOUsbbBPJtbbBPZnbbBPYxbbBQCgbbBQLybbBQYwbbBTIdbbBRGnbbBRLfbbBRPybbBSCnbbBSIgbbBSKhbbBSSzbbBST",
     "bbbBSZqbbBTAhbbBTBgbbBTEobbBTEebbBTTkbbBUMbbbBUWmbbBVDrbbBVMhbbBVSebbBWEwbbBWMnbbBXTabbBXZbbbBZHxbbB",
     "ZZlbbCACcbbCACsbbCAOdbbCAQibbCAOpbbCAQrbbCAQobbCAPxbbCASvbbCAVybbCBKqbbCCGebbCCSgbbCDDpbbCDMcbbCEZsb",
     "bCFDrbbCFIcbbCFNfbbCFOpbbCFPbbbCFQxbbCGSwbbCILobbIBDybbIBDsbbIFNpbbWOzbbYHcbbYIjbbIRBlbbIVBcbbJHXzbb",
     "CIIdbbCILaCqcCFpCEeccCGoCEhlcCGfCErbcCGfCEsbdCGfCEmCErbdCGfCEmCEsbcCFgCEhbcCFgCEibcCFgCEmbcCFhCEmbcC",
     "FiCEmbcCFjCEmbcCFkCEmbcCFlCEmbcCFmCEmccCFoCEmbcCFpCEmbcCFqCEmbcCFrCEmbcCFsCEmccCFuCEmccCFwCEmbcCFxCE",
     "mccCFzCEmbcCGaCEmccCGcCEmbcCGdCEmbcCGeCEmbcCGfCEmbcCGgCEmbcCFlCEjbcCFhCEpbcCFrCEpbcCGaCEpDZfcDVDyBDv",
     "BbcDVEgBDvEBmcDZGbDZHiccDZGdDZHipcDZGnDZHiFbcDZLxDZLnbcDZLyDZLnUucEAGlEAGcbcEAGlEAHbCdcEAIsEALlccEAI",
     "uEAKxjcEAJbEALedcEAJgEALlCacEALeEALeccEALeEAKubcEALeEALlJjcEAUrEAUsbcEAUrEAUiccEAUrEAUvJscEBEmEBEdbc",
     "EBEnEBEdBIjcECMvECMqBBGbcFDSwFDSwbcFDSwFDThbcFDSwFDSxbcFDThFDSxbcFDSwFDSybdFDSwFDSwFDSxbdFDSwFDThFDS",
     "xbdFDSwFDSwFDSyEQqcFIJvFIJvbcFIJrFIJvbdFIJrFIJvFIJvBLWecGUFvGUGjbcGUFwGUGjbdGUFwGUGjGUGsbdGUFwGUGjGU",
     "GtbdGUFwGUGjGUGubdGUFwGUGjGUGvbdGUFwGUGjGUGwDjcGUJpGUGjbcGUJqGUGjbdGUJpGUGjGUGsbdGUJqGUGjGUGsbdGUJpG",
     "UGjGUGtbdGUJqGUGjGUGtEHLgbBDQjbbBDQebbBDQnbbHMIkbbBEBobbBEEobbBEFbbbBEHubbBEMkbbBENpbbBEQpbbBEPrbbTY",
     "cbbHOGobbBEUnbbBEUubbBEVkbbBEWdbbHNVobbTZdbbBEVnbbBEWzbbHNXjbbBEXjbbBEXwbbBDVwbbBEYebbBEYnbbJPDnbbBF",
     "AzbbBFBnbbUApbbBFDrbbBFEcbbBFFubbBFFzbbUCrbbBFJbbbBFJdbbBFKebbBFLabbBFLlbbBFLmbbBFMdbbBFObbbBFOjbbBF",
     "OsbbBFPrbbBFQbbbBFQdbbBFQdbbBFQdbbHPTkbbBQPcbbBFTabbBFTvbbHQFjbbBFUhbbBFUnbbBFVibbBGBebbBFXgbbBFXwbb",
     "BFZcbbBGBibbBGEobbBGFobbBGIdbbBGItbbBGKabbBGKabbBGKvbbBGLnbbBGLvbbBGMkbbBGZmbbBGPabbBGZnbbBGRxbbBGTg",
     "bbBFBrbbBHRqbbBHGobbBHIabbBHIzbbBHDzbbBHKkbbBHKjbbBHPcbbHTUybbBHRubbBHRzbbBHSobbBHTibbBHTqbbBHWcbbHU",
     "MibbHUOwbbBIBkbbBIDfbbBIDrbbBIAqbbBIGcbbUUwbbUVkbbBIMibbBIOkbbBIOkbbHVRcbbBITnbbBIUibbBIUxbbBIVjbbHW",
     "EabbBIVvbbBIWcbbBKCpbbBIXebbVAnbbBIZobbBJAcbbBJDgbbBJBhbbHXFobbBJIhbbHXFqbbBJJybbBJJvbbBJKmbbBJOjbbB",
     "JOkbbVHfbbBJPlbbBJRcbbBJRxbbBJTpbbVJebbHYPfbbVKebbBJWibbBJWlbbBJWobbBJXibbJVVubbBJZibbHZFtbbHZFtbbBX",
     "GbbbBKAsbbBKAsbbVNbbbIFCqbbIWYsbbBKDebbBKDnbbVOdbbBKFibbBKHhbbBKHrbbBKIzbbBKOfbbVRmbbVQibbBKOybbIAPo",
     "bbBKQxbbBKVwbbBKWabbBKWcbbBKWabbBKXubbBKYobbBKZybbBKZkbbBKZvbbBLBqbbBLCkbbBLCobbBLDobbBLDzbbBLGnbbBL",
     "JtbbBLLcbbBLPwbbICFcbbBLPdbbBLMqbbBLQubbBLRvbbBLVobbICNxbbBLXybbBLUjbbBLThbbWAwbbBMArbbBMBmbbBMCrbbB",
     "MBfbbWDgbbBMJnbbBMKqbbIECgbbBMPfbbBMZwbbBMTdbbWJxbbBMVxbbWJgbbWHwbbBEXebbBEXhbbBNAebbBMWibbBWSzbbZSb",
     "bbBNBbbbBNBfbbBNBlbbBNDubbBNDjbbIFMxbbWLtbbBNJubbBNFhbbBNNebbBNPdbbIFTlbbBNPmbbBNLfbbBNUqbbWOzbbBNWk",
     "bbBOAdbbBOCwbbBOKebbIGPfbbBOMdbbWTsbbBOOvbbIHJbbbBOQubbWVubbBORybbBOTrbbBOUsbbBOUtbbIIBtbbHWXfbbIIFy",
     "bbBPAkbbIIXgbbBPEtbbBPFhbbBPBjbbBPIcbbBPJqbbBPLvbbBPJtbbBPLhbbBPLwbbBPMjbbIJBabbBPJgbbBPSxbbBPVibbXE",
     "pbbBPYxbbBPYtbbIJRtbbBPQvbbBQFebbIJXebbIJZabbBQIobbBQMzbbBQLybbBQLvbbXIkbbBQNqbbBQPpbbBQPjbbBQRlbbHN",
     "VxbbBQXhbbILAxbbBRAqbbILNnbbBRGabbBRGnbbBRHobbIMKubbBRJkbbBRKfbbIMWjbbINEybbBRTabbBRTrbbXTcbbBRUrbbX",
     "TobbXTobbBSAxbbBSBsbbBSCnbbBSDhbbBSFybbXXjbbBSJkbbIOTqbbBSKkbbIOXebbBSMibbHYQhbbBSSmbbIQBhbbIQCebbIQ",
     "HobbYGabbYGmbbBTBgbbIQOhbbIQOgbbIQPtbbIQQtbbBTCwbbBTCxbbBTCxbbBTEobbYIjbbBTHbbbYIwbbYLybbIRTlbbBTOob",
     "bBTQybbBTTkbbYOxbbISNmbbBTYsbbISRybbISTpbbBUAxbbBUElbbYRvbbBUHsbbBUIcbbBUIhbbITUibbIUFvbbIUFvbbBUOkb",
     "bYZybbIUPvbbBUWsbbBUWvbbZBjbbIUYabbBVHabbZGabbBVHwbbBVHrbbBVIubbIWBubbBVMpbbZJtbbBVQlbbBVSsbbBVVhbbZ",
     "LsbbIXBsbbIXCxbbZNdbbIXInbbBWHebbIXMkbbBWIfbbBWMcbbBWMnbbIYCgbbIYFbbbBWQabbIYKebbBWQqbbIFJbbbZRxbbBW",
     "TebbBWWhbbZTzbbBWYobbBIJdbbIZDvbbIZEjbbIFLbbbIFLkbbBXGbbbBXGebbCCKcbbZXrbbBXLpbbBXLjbbBXMbbbBFIhbbBX",
     "MvbbBXMxbbBXNhbbBXOwbbJANcbbBXOvbbBXQzbbBXTrbbBXWnbbBXRfbbBXXdbbBXYtbbBYDbbbBXTbbbBXXqbbBXXsbbBXYibb",
     "JAWsbbJBIpbbJBCvbbBAFbbbBYIzbbBYJbbbBYKkbbJDTibbBYNkbbJBZwbbBAGzbbBAHdbbJCEzbbJCQcbbBAHnbbBYWmbbBYWy",
     "bbBYXjbbBYXlbbBYZxbbBYYqbbBZDubbBZCcbbBZHxbbBZEubbBZHjbbBZIkbbBALrbbBZLxbbBZNdbbBAMzbbBZQubbBZQxbbJE",
     "TbbbBZVjbbBZVqbbBAPhbbBZWsbbTZfbbJFPmbbJFWobbBAUobbBAUxbbCAMybbCAPxbbCAVybbCBDtbbJHCqbbCBHbbbCBHxbbC",
     "BLjbbCBOxbbJIBnbbHOYebbCBSdbbCBRobbCBTobbHPGobbCCCibbCCGebbJKOwbbJKPxbbCCTobbCCXdbbCCYjbbJLCgbbCCYtb",
     "bCDJsbbCDPvbbCDPwbbCDMibbCEAzbbCECbbbJMXmbbCEQlbbBBWnbbCESdbbJNMdbbBBZqbbCFClbbBJMobbCFGdbbJOXpbbJPF",
     "ubbBCEwbbBCFebbCFNkbbJPYwbbBCHmbbJQEgbbCFPbbbCFPbbbCFQfbbJQPibbCFXibbBCMlbbCGAbbbCGExbbCGFybbCGIgbbB",
     "CSkbbJSRgbbCGSwbbCHEmbbCHLtbbBDCgbbBDDlbbCHPvbbJUUobbBDDwbbJUWrbbJVGwbbJVLxbbCICxbbBDHmbbCIFhbbCIFmb",
     "bCIFtbbCIGdbbCIGkbbCIHvbbJWTs"]

/-- pairs that compose: the distance of the composite from the one before, the first part, the second part -/
def compositions : List String :=
  ["HkCnBDobCnBDpbCnBDqbCnBDrbCnBDwbCnBDycCpBFbbCrBDobCrBDpbCrBDqbCrBDwbCvBDobCvBDpbCvBDqbCvBDwcDaBDrbDb",
     "BDobDbBDpbDbBDqbDbBDrbDbBDwdDhBDobDhBDpbDhBDqbDhBDwbDlBDpdDtBDobDtBDpbDtBDqbDtBDrbDtBDwbDtBDycDvBFbb",
     "DxBDobDxBDpbDxBDqbDxBDwbEbBDobEbBDpbEbBDqbEbBDwcEgBDrbEhBDobEhBDpbEhBDqbEhBDrbEhBDwdEnBDobEnBDpbEnBD",
     "qbEnBDwbErBDpcErBDwbCnBDsbDtBDsbCnBDubDtBDubCnBFcbDtBFcbCpBDpbDvBDpbCpBDqbDvBDqbCpBDvbDvBDvbCpBEabDv",
     "BEabCqBEabDwBEadCrBDsbDxBDsbCrBDubDxBDubCrBDvbDxBDvbCrBFcbDxBFcbCrBEabDxBEabCtBDqbDzBDqbCtBDubDzBDub",
     "CtBDvbDzBDvbCtBFbbDzBFbbCuBDqbEaBDqdCvBDrbEbBDrbCvBDsbEbBDsbCvBDubEbBDubCvBFcbEbBFcbCvBDveCwBDqbEcBD",
     "qbCxBFbbEdBFbcCyBDpbEeBDpbCyBFbbEeBFbbCyBEabEeBEafDaBDpbEgBDpbDaBFbbEgBFbbDaBEabEgBEaeDbBDsbEhBDsbDb",
     "BDubEhBDubDbBDzbEhBDzdDeBDpbEkBDpbDeBFbbEkBFbbDeBEabEkBEabDfBDpbElBDpbDfBDqbElBDqbDfBFbbElBFbbDfBEab",
     "ElBEabDgBFbbEmBFbbDgBEabEmBEadDhBDrbEnBDrbDhBDsbEnBDsbDhBDubEnBDubDhBDybEnBDybDhBDzbEnBDzbDhBFcbEnBF",
     "cbDjBDqbEpBDqbDlBDqbErBDqbDlBDwbDmBDpbEsBDpbDmBDvbEsBDvbDmBEabEsBEaBiDbBEpbEhBEpoDhBEpbEnBEpBdCnBEab",
     "DtBEabCvBEabEbBEabDbBEabEhBEabDhBEabEnBEabImBDsbJsBDsbImBDpbJsBDpbImBEabJsBEabImBDobJsBDocHoBDsbIuBD",
     "sbVeBDsbVfBDsbHqBDsbIwBDsdCtBEabDzBEabCxBEabEdBEabDbBFcbEhBFcbSwBDsbSxBDsbQxBEabZiBEabEcBEaeCtBDpbDz",
     "BDpdDaBDobEgBDobHpBDpbIvBDpbHqBDpbIwBDpbIiBDpbJoBDpbCnBEdbDtBEdbCnBEfbDtBEfbCrBEdbDxBEdbCrBEfbDxBEfb",
     "CvBEdbEbBEdbCvBEfbEbBEfbDbBEdbEhBEdbDbBEfbEhBEfbDeBEdbEkBEdbDeBEfbEkBEfbDhBEdbEnBEdbDhBEfbEnBEfbDfBF",
     "abElBFabDgBFabEmBFadCuBEabEaBEahCnBDvbDtBDvbCrBFbbDxBFbbIgBDsbJmBDsbIfBDsbJlBDsbDbBDvbEhBDvbVmBDsbVn",
     "BDsbDlBDsbErBDsNaGmBDpbBJdBDpcBJhBDpbBJjBDpbBJlBDpcBJrBDpcBJxBDpbBKbBDpbBLiBDpBaBJlBDwbBJxBDwbBKjBDp",
     "bBKnBDpbBKpBDpbBKrBDpbBLjBDpBaBKrBDwbBLdBDwbBKxBDpbBLdBDpbBLhBDpfBLqBDpbBLqBDwBsBOfBDobBOfBDwcBOdBDp",
     "eBNqBDwfBOkBDpbBOiBDobBOtBDulBOiBDuBgBPoBDuxBPlBDobBPlBDwcBPjBDpeBQsBDwfBPqBDpbBPoBDobBPzBDuyBRwBEdb",
     "BRxBEdCwBOgBDubBPmBDuoBOaBDubBPgBDubBOaBDwbBPgBDwdBOfBDubBPlBDudBVsBDwbBVtBDwbBOgBDwbBPmBDwbBOhBDwbB",
     "PnBDwdBOiBDsbBPoBDsbBOiBDwbBPoBDwbBOoBDwbBPuBDwdBWiBDwbBWjBDwbBPdBDwbBQjBDwbBOtBDsbBPzBDsbBOtBDwbBPz",
     "BDwbBOtBDzbBPzBDzbBOxBDwbBQdBDwdBPbBDwbBQhBDwLlCIpCKhbCIpCKibCJwCKibCIpCKjbCJyCKiFyCPhCKicCOnCKirCPe",
     "CKiXaDMeDMyiDMmDMydDMpDMyFvDShDRybDShDSxOqEHbEHqdEHbEGsbEHbEHrCuEJyEMpCcELyELqbELzELqbELyEMpEuEQwERm",
     "EqEVnEWjhEVuEWjbEVuEWkcEVuEVqbEVyEWjExFAsFAkbFAtFAkbFAsFBjFmFGjFFucFGjFFzbFGmFFubFGjFGpWmGCzGDiEDcKG",
     "bKHxcKGdKHxcKGfKHxcKGhKHxcKGjKHxeKGnKHxBpKIcKHxcKIeKHxdKIgKHxbKIhKHxcKIkKHxBAzCnBEzbDtBEzbCoBDvbDuBD",
     "vbCoBExbDuBExbCoBFlbDuBFlbHrBDpbIxBDpbCqBDvbDwBDvbCqBExbDwBExbCqBFlbDwBFlbCqBFbbDwBFbbCqBFhbDwBFhbKo",
     "BDobKpBDobKoBDpbKpBDpbCrBFhbDxBFhbCrBFkbDxBFkbVgBDubVhBDubCsBDvbDyBDvbCtBDsbDzBDsbCuBDvbEaBDvbCuBExb",
     "EaBExbCuBDwbEaBDwbCuBFbbEaBFbbCuBFibEaBFibCvBFkbEbBFkbHzBDpbJfBDpbCxBDpbEdBDpbCxBExbEdBExbCxBFlbEdBF",
     "lbCyBExbEeBExbLLmBDsbLLnBDsbCyBFlbEeBFlbCyBFhbEeBFhbCzBDpbEfBDpbCzBDvbEfBDvbCzBExbEfBExbDaBDvbEgBDvb",
     "DaBExbEgBExbDaBFlbEgBFlbDaBFhbEgBFhbIfBDpbJlBDpbIfBDwbJlBDwbMuBDobMvBDobMuBDpbMvBDpbDcBDpbEiBDpbDcBD",
     "vbEiBDvbDeBDvbEkBDvbDeBExbEkBExbLMwBDsbLMxBDsbDeBFlbEkBFlbDfBDvbElBDvbDfBExbElBExbNiBDvbNjBDvbNoBDvb",
     "NpBDvbLNeBDvbLNfBDvbDgBDvbEmBDvbDgBExbEmBExbDgBFlbEmBFlbDgBFhbEmBFhbDhBEybEnBEybDhBFkbEnBFkbDhBFhbEn",
     "BFhbNwBDpbNxBDpbNyBDwbNzBDwbDiBDrbEoBDrbDiBExbEoBExbDjBDobEpBDobDjBDpbEpBDpbDjBDwbEpBDwbDjBDvbEpBDvb",
     "DjBExbEpBExbDkBDvbEqBDvbDkBDwbEqBDwbDlBDvbErBDvbDmBDqbEsBDqbDmBExbEsBExbDmBFlbEsBFlbEaBFlbEmBDwbEpBD",
     "ybErBDycOtBDvfCnBExbDtBExbCnBDxbDtBDxbHmBDpbIsBDpbHmBDobIsBDobHmBDxbIsBDxbHmBDrbIsBDrbLPoBDqbLPpBDqb",
     "JyBDpbJzBDpbJyBDobJzBDobJyBDxbJzBDxbJyBDrbJzBDrbLPoBDubLPpBDubCrBExbDxBExbCrBDxbDxBDxbCrBDrbDxBDrbHu",
     "BDpbJaBDpbHuBDobJaBDobHuBDxbJaBDxbHuBDrbJaBDrbLQmBDqbLQnBDqbCvBDxbEbBDxbCvBExbEbBExbDbBExbEhBExbDbBD",
     "xbEhBDxbIeBDpbJkBDpbIeBDobJkBDobIeBDxbJkBDxbIeBDrbJkBDrbLRgBDqbLRhBDqbQaBDpbQbBDpbQaBDobQbBDobQaBDxb",
     "QbBDxbQaBDrbQbBDrbQaBExbQbBExbDhBExbEnBExbDhBDxbEnBDxbQpBDpbQqBDpbQpBDobQqBDobQpBDxbQqBDxbQpBDrbQqBD",
     "rbQpBExbQqBExbDlBDobErBDobDlBExbErBExbDlBDxbErBDxbDlBDrbErBDrhBKjBEhbBKjBEibLTgBDobLThBDobLTgBDpbLTh",
     "BDpbLTgBGcbLThBGcbBJdBEhbBJdBEibLToBDobLTpBDobLToBDpbLTpBDpbLToBGcbLTpBGcbBKnBEhbBKnBEibLTwBDobLTxBD",
     "obLTwBDpbLTxBDpdBJhBEhbBJhBEibLUeBDobLUfBDobLUeBDpbLUfBDpdBKpBEhbBKpBEibLUmBDobLUnBDobLUmBDpbLUnBDpb",
     "LUmBGcbLUnBGcbBJjBEhbBJjBEibLUuBDobLUvBDobLUuBDpbLUvBDpbLUuBGcbLUvBGcbBKrBEhbBKrBEibLVcBDobLVdBDobLV",
     "cBDpbLVdBDpbLVcBGcbLVdBGcbBJlBEhbBJlBEibLVkBDobLVlBDobLVkBDpbLVlBDpbLVkBGcbLVlBGcbBKxBEhbBKxBEibLVsB",
     "DobLVtBDobLVsBDpbLVtBDpdBJrBEhbBJrBEibLWaBDobLWbBDobLWaBDpbLWbBDpdBLdBEhbBLdBEibLWiBDobLWjBDobLWiBDp",
     "bLWjBDpbLWiBGcbLWjBGccBJxBEicLWrBDocLWrBDpcLWrBGcbBLhBEhbBLhBEibLWyBDobLWzBDobLWyBDpbLWzBDpbLWyBGcbL",
     "WzBGcbBKbBEhbBKbBEibLXgBDobLXhBDobLXgBDpbLXhBDpbLXgBGcbLXhBGcbBKjBDocBKnBDocBKpBDocBKrBDocBKxBDocBLd",
     "BDocBLhBDoeLTgBGfbLThBGfbLTiBGfbLTjBGfbLTkBGfbLTlBGfbLTmBGfbLTnBGfbLToBGfbLTpBGfbLTqBGfbLTrBGfbLTsBG",
     "fbLTtBGfbLTuBGfbLTvBGfbLUmBGfbLUnBGfbLUoBGfbLUpBGfbLUqBGfbLUrBGfbLUsBGfbLUtBGfbLUuBGfbLUvBGfbLUwBGfb",
     "LUxBGfbLUyBGfbLUzBGfbLVaBGfbLVbBGfbLWyBGfbLWzBGfbLXaBGfbLXbBGfbLXcBGfbLXdBGfbLXeBGfbLXfBGfbLXgBGfbLX",
     "hBGfbLXiBGfbLXjBGfbLXkBGfbLXlBGfbLXmBGfbLXnBGfbBKjBDubBKjBDsbLXoBGfbBKjBGfbBKeBGfcBKjBGcbMAgBGfbBJdB",
     "DubBJdBDsbBJdBDocBJdBGffGmBGcbLXsBGfbBKpBGfbBKgBGfcBKpBGcbMAwBGfbBJhBDocBJjBDocBJjBGfbMApBDobMApBDpb",
     "MApBGcbBKrBDubBKrBDsbBLiBDoeBKrBGcbBLiBGcbBJlBDubBJlBDsbBJlBDodMDaBDobMDaBDpbMDaBGcbBLdBDubBLdBDsbBL",
     "jBDocBKzBEhbBKzBEibBLdBGcbBLjBGcbBJxBDubBJxBDsbBJxBDocBJtBEibGmBDofLYaBGfbBLhBGfbBLmBGfcBLhBGcbMCsBG",
     "fbBJrBDocBKbBDocBKbBGfPyMSmBFsbMSoBFstMSqBFsBfMUyBFsbMVcBFsbMVaBFsCbMWxBFsfMXcBFsdMXfBFsyMYdBFscMYfB",
     "FsBbMZcBFsdMZjBFsdMZlBFscMZoBFsxCjBFscNAnBFslMZtBFsbCiBFsbCkBFsbNAqBFsbNArBFsdNBeBFsbNBfBFsdNBiBFsbN",
     "BjBFshNBmBFsbNBnBFsdNBuBFsbNBvBFsdNByBFsbNBzBFsBjNDaBFsbNDgBFsbNDhBFsbNDjBFsBxNBoBFsbNBpBFsbNCjBFsbN",
     "CkBFshNDqBFsbNDrBFsbNDsBFsbNDtBFsFBrSHnSKncSHpSKncSHrSKncSHtSKncSHvSKncSHxSKncSHzSKncSIbSKncSIdSKncS",
     "IfSKncSIhSKncSIjSKndSImSKncSIoSKncSIqSKnhSIxSKnbSIxSKocSJaSKnbSJaSKocSJdSKnbSJdSKocSJgSKnbSJgSKocSJj",
     "SKnbSJjSKoxSHiSKnkSKrSKnoSLfSKncSLhSKncSLjSKncSLlSKncSLnSKncSLpSKncSLrSKncSLtSKncSLvSKncSLxSKncSLzSK",
     "ncSMbSKndSMeSKncSMgSKncSMiSKnhSMpSKnbSMpSKocSMsSKnbSMsSKocSMvSKnbSMvSKocSMySKnbSMySKocSNbSKnbSNbSKox",
     "SLaSKndSNvSKnbSNwSKnbSNxSKnbSNySKneSOjSKnDCPfDVDyBDvBbDVEgBDvEBmDZGbDZHicDZGdDZHipDZGnDZHiFbDZLxDZLn",
     "bDZLyDZLnUuEAGlEAGcbEAGlEAHbCdEAIsEALlcEAIuEAKxjEAJbEALedEAJgEALlCaEALeEALecEALeEAKubEALeEALlJjEAUrE",
     "AUsbEAUrEAUicEAUrEAUvJsEBEmEBEdbEBEnEBEdBIjECMvECMqBBGbFDSwFDSwbFDSwFDThbFDSwFDSxbFDThFDSxbFDSwFDSyb",
     "FDSzFDSxbFDTaFDSxbFDSzFDSyEQqFIJvFIJvbFIJrFIJvbFIJxFIJv"]

/-- the code points of each combining class other than zero -/
def combiningClasses : List (Nat × List String) :=
  [(1, ["BFofJSdbnhBMncedkcdcDKJdbBKQgfBEYbbHWqd"]),
  (6, ["FJIuc"]),
  (7, ["DMybExbExbExbExbJvbExbBIgbEEebGvbDcbCBPbbBNAkbHcbDibEdbGwbDdcKfbEubJsbJmbOwbKebBNibCZGxb"]),
  (8, ["SKnc"]),
  (9, ["DNpbExbExbExbExbExbExbExbEfcqbEubEhbExbHtbGycCPlcBebGbbZdbItbDxcCscGQtbBUKkbBlbFvbFmbEebLxbJmbBJSrbC",
       "HibBpbobCfbErcFjbEmbGybDubJkbExbJsbExbEobEmbKjbJzcGfbDfbsbDdbQfbKacDdbQjc"]),
  (10, ["CEab"]),
  (11, ["CEbb"]),
  (12, ["CEcb"]),
  (13, ["CEdb"]),
  (14, ["CEeb"]),
  (15, ["CEfb"]),
  (16, ["CEgb"]),
  (17, ["CEhb"]),
  (18, ["CEibob"]),
  (19, ["CEjc"]),
  (20, ["CElb"]),
  (21, ["CEmb"]),
  (22, ["CEnb"]),
  (23, ["CEpb"]),
  (24, ["CErb"]),
  (25, ["CEsb"]),
  (26, ["DRCob"]),
  (27, ["CJzbBAab"]),
  (28, ["CKabBAab"]),
  (29, ["CKbbBAab"]),
  (30, ["CIabCbb"]),
  (31, ["CIbbCbb"]),
  (32, ["CIcbCbb"]),
  (33, ["CKfb"]),
  (34, ["CKgb"]),
  (35, ["CLkb"]),
  (36, ["CRpb"]),
  (84, ["ERlb"]),
  (91, ["ERmb"]),
  (103, ["FKac"]),
  (107, ["FKqe"]),
  (118, ["FOyc"]),
  (122, ["FPoe"]),
  (129, ["FWbb"]),
  (130, ["FWcbhecb"]),
  (132, ["FWeb"]),
  (202, ["BEvcecKClb"]),
  (214, ["LHmb"]),
  (216, ["BEpbEPhbGOMlchf"]),
  (218, ["LJebGXbb"]),
  (220, ["BEkecfceclfekddceeccVubebebggcbBabFncfbcbFbbgbcbCpbcbcdbcbbdbbbbbbbGnbkbDndCjdBzfpbcbcbddgbccDjbCEvc",
       "BbbbbFmbHqbDHlbImbDybCbgcbbcccfbGfbNwfcenbIebhbebBpbdbbbBCqbdeBZPjdPabBFPqhBLnbIsbCSqbBsbGpbBOgdCscd",
       "bbeBybbbCVLtihcHIwbBMfh"]),
  (222, ["CDebsbHKlbIRzb"]),
  (224, ["SGkc"]),
  (226, ["GUGrb"]),
  (228, ["CDybHEwbCAfcGXeb"]),
  (230, ["BDovBoibbddddebdbhnKpfKgebdcggcbccbubCxiChccfbcEphcebbccccCpbbcbcdbcbbdbbbbbbbcGehbbBiebjbdbfEcbdeBq",
       "ffoccbcbdgdbccfDdbbcGnbCChcccBLtdBSfbNkbImbDpiBzfgceccfbeGabbhNkdhcebtbdcHqcbhbceBlfbcbBBtccedcebfbb",
       "bgbEOcdJeBgBTPvbekBgcDccTasRebbcdcfcbbBFOwhhcBZyfCMubBobGqbWceOxcFzdbbCbbbbOpdXnhdfIzbBGWvhBMTifBgeF",
       "sdFFfhbrchbcbfDwbGehOlbCjeTrbBQqg"]),
  (232, ["BEjbebCjbKCbbGXhbGJKhc"]),
  (233, ["BHcbcbcbKBxb"]),
  (234, ["BHdcbcKAdb"]),
  (240, ["BGfb"])]

end EventBroker.Unicode.Data
