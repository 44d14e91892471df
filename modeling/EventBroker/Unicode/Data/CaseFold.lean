/-
Code points that simple case folding does not tell apart.

A class is written as the distance of its least member from that of the class before, the number of its other members, and their
distances, each from the one before; numbers as in the other tables.
-/

namespace EventBroker.Unicode.Data

/-- the classes with more than one member -/
def foldClasses : List String :=
  ["CnbBgbbBgbbBgbbBgbbBgbbBgbbBgbbBgbbBgbbBgbcBgMKlbbBgbbBgbbBgbbBgbbBgbbBgbbBgbcBgKibbBgbbBgbbBgbbBgbb",
     "BgbbBgbbBgDncBCpBglbBgbbBgbbBgbbBgbbBgbcBgMFubbBgbbBgbbBgbbBgbbBgbbBgbbBgbbBgbbBgbbBgbbBgbbBgbbBgbbB",
     "gbbBgbbBgbbBgcbBgbbBgbbBgbbBgbbBgbbBgbbBgbbLGxBgbErbbbcbbcbbcbbcbbcbbcbbcbbcbbcbbcbbcbbcbbcbbcbbcbbc",
     "bbcbbcbbcbbcbbcbbcbbcbbebbcbbcbbdbbcbbcbbcbbcbbcbbcbbcbbdbbcbbcbbcbbcbbcbbcbbcbbcbbcbbcbbcbbcbbcbbcb",
     "bcbbcbbcbbcbbcbbcbbcbbcbbdbbcbbcbbdbHnbbIcbbbcbbcbHybbbcbHxbbHxbbbdbDbbbHubbHvbbbcbHxbbHzbbDtbbIdbbI",
     "bbbbcbGhbbCKYzbbIdbbIfbbFabbIgbbbcbbcbbcbIkbbbcbIkdbbcbIkbbbcbIjbbIjbbbcbbcbIlbbbebbdbCefcbbdcbbdcbb",
     "dbbcbbcbbcbbcbbcbbcbbcbbdbbcbbcbbcbbcbbcbbcbbcbbcbbdcbbdbbebbcbbcbbcbbcbbcbbcbbcbbcbbcbbcbbcbbcbbcbb",
     "cbbcbbcbbcbbcbbcbbebbcbbcbbcbbcbbcbbcbbcbbcbbibPZfbbbdbPZcbbPZzbbPZzbbbdbCrbbCtbbbcbbcbbcbbcbbcbPYtb",
     "bPYqbbPYskbCKPrfbCKPndbCKQpbbCKOebbCKPgebCKPgbbPXfbbCKPdfbPXlmbPWpfbCKPffbCKOgwbCKNlbbCKNiGldDgBgKPx",
     "BrbbcbbebbfbFabbFabbFacbEmhbBmcbBlbbBlbbBlcbCmcbClbbClbbKShbbBgbcBgBebbBgbbBgbcBgCmbbBgbbBgbdBgzBjcc",
     "BgCcbbBgcbBgbbBgbbBgbcBgwbcBgBwccBfbbbBgbbBgbcBgpbbBgbbBgbcBgLDdbbBgbbBgfbKRrBfbijbbcbbcbbcbbcbbcbbc",
     "bbcbbcbbcbbcbbcbbebhfbbdbbgbDcbbDcbbDcbbDcbbDcbbDcbbDcbbDcbbDcbbDcbbDcbbDcbbDcbbDcbbDcbbDcbbBgbbBgbc",
     "BgJFibbBgbcBgJFhbbBgbbBgbbBgbbBgbbBgbbBgbbBgbbBgbbBgbcBgJEybbBgbbBgbcBgJEwbdBgJEwbbbBgbbBgbbBgbbBgbb",
     "BgbbBgbbBgbcBgJEqbbBgbbBgbbBgbbBgbbBgBxbbccbJDscbbcbbcbbcbbcbbcbbcbbcbbcbbcbbcbbcbbcbbcbbcbbkbbcbbcb",
     "bcbbcbbcbbcbbcbbcbbcbbcbbcbbcbbcbbcbbcbbcbbcbbcbbcbbcbbcbbcbbcbbcbbcbbcbbcbpbbbcbbcbbcbbcbbcbbcbbdbb",
     "cbbcbbcbbcbbcbbcbbcbbcbbcbbcbbcbbcbbcbbcbbcbbcbbcbbcbbcbbcbbcbbcbbcbbcbbcbbcbbcbbcbbcbbcbbcbbcbbcbbc",
     "bbcbbcbbcbbcbbcbbcbbcbbcbbcbbcbbcbbcbbcbbdbBwbbBwbbBwbbBwbbBwbbBwbbBwbbBwbbBwbbBwbbBwbbBwbbBwbbBwbbB",
     "wbbBwbbBwbbBwbbBwbbBwbbBwbbBwbbBwbbBwbbBwbbBwbbBwbbBwbbBwbbBwbbBwbbBwbbBwbbBwbbBwbbBwbbBwbbBwEHebKTk",
     "bbKTkbbKTkbbKTkbbKTkbbKTkbbKTkbbKTkbbKTkbbKTkbbKTkbbKTkbbKTkbbKTkbbKTkbbKTkbbKTkbbKTkbbKTkbbKTkbbKTk",
     "bbKTkbbKTkbbKTkbbKTkbbKTkbbKTkbbKTkbbKTkbbKTkbbKTkbbKTkbbKTkbbKTkbbKTkbbKTkbbKTkbbKTkcbKTkgbKTkdbELs",
     "bbELsbbELsbbELsbbELsbbELsbbELsbbELsbbELsbbELsbbELsbbELsbbELsbbELsbbELsbbELsbbELsbbELsbbELsbbELsbbELs",
     "bbELsbbELsbbELsbbELsbbELsbbELsbbELsbbELsbbELsbbELsbbELsbbELsbbELsbbELsbbELsbbELsbbELsbbELsbbELsbbELs",
     "bbELsbbELsdbELsbbELsbbELsZxbCFMubbCFMubbCFMubbCFMubbCFMubbCFMubbCFMubbCFMubbCFMubbCFMubbCFMubbCFMubb",
     "CFMubbCFMubbCFMubbCFMubbCFMubbCFMubbCFMubbCFMubbCFMubbCFMubbCFMubbCFMubbCFMubbCFMubbCFMubbCFMubbCFMu",
     "bbCFMubbCFMubbCFMubbCFMubbCFMubbCFMubbCFMubbCFMubbCFMubbCFMubbCFMubbCFMubbCFMubbCFMubbCFMubbCFMubbCF",
     "MubbCFMubbCFMubbCFMubbCFMubbCFMubbCFMubbCFMubbCFMubbCFMubbCFMubbCFMubbCFMubbCFMubbCFMubbCFMubbCFMubb",
     "CFMubbCFMubbCFMubbCFMubbCFMubbCFMubbCFMubbCFMubbCFMubbCFMubbCFMubbCFMubbCFMubbCFMubbCFMubbCFMubbCFMu",
     "bbCFMubbibbibbibbibbibbiDGlcCAEkbbbbJgbCAGyebFQsrbCAIyEkbbcbbcbbcbbcbbcbbcbbcbbcbbcbbcbbcbbcbbcbbcbb",
     "cbbcbbcbbcbbcbbcbbcbbcbbcbbcbbcbbcbbcbbcbbcbbcbbcbbcbbcbbcbbcbbcbbcbbcbbcbbcbbcbbcbbcbbcbbcbbcbbcbbc",
     "cbCgcbbcbbcbbcbbcbbcbbcbbcbbcbbcbbcbbcbbcbbcbbcbbcbbcbbcbbcbbcbbcbbcbbcbbcbbcbbcbbmbbcbbcbbcbbcbbcbb",
     "cbbcbbcbbcbbcbbcbbcbbcbbcbbcbbcbbcbbcbbcbbcbbcbbcbbcbbcbbcbbcbbcbbcbbcbbcbbcbbcbbcbbcbbcbbcbbcbbcbbc",
     "bbcbbcbbcbbcbbcbbcbbcbbcbbcbibbibbibbibbibbibbibbijbibbibbibbibbibbilbibbibbibbibbibbibbibbijbibbibb",
     "ibbibbibbibbibbijbibbibbibbibbibbimbicbicbicbijbibbibbibbibbibbibbibbijbCwbbCwbbDibbDibbDibbDibbDwbb",
     "DwbbEybbEybbEibbEibbEwbbEwdbibbibbibbibbibbibbibbijbibbibbibbibbibbibbibbijbibbibbibbibbibbibbibbijb",
     "ibbicbjqbjnbibbipbibbiebhobjMhbBcBubqbbqbbqbbqbbqbbqbbqbbqbbqbbqbbqbbqbbqbbqbbqbbqubbBFnbBabbBabbBab",
     "bBabbBabbBabbBabbBabbBabbBabbBabbBabbBabbBabbBabbBabbBabbBabbBabbBabbBabbBabbBabbBabbBabbBaCSvbBwbbB",
     "wbbBwbbBwbbBwbbBwbbBwbbBwbbBwbbBwbbBwbbBwbbBwbbBwbbBwbbBwbbBwbbBwbbBwbbBwbbBwbbBwbbBwbbBwbbBwbbBwbbB",
     "wbbBwbbBwbbBwbbBwbbBwbbBwbbBwbbBwbbBwbbBwbbBwbbBwbbBwbbBwbbBwbbBwbbBwbbBwbbBwbbBwbbBwBxbbhbbcbbcbbhb",
     "bdbblbbcbbcbbcbbcbbcbbcbbcbbcbbcbbcbbcbbcbbcbbcbbcbbcbbcbbcbbcbbcbbcbbcbbcbbcbbcbbcbbcbbcbbcbbcbbcbb",
     "cbbcbbcbbcbbcbbcbbcbbcbbcbbcbbcbbcbbcbbcbbcbbcbbcbbcbbjbbcbbfbbBTYkbbcbbcbbcbbcbbebbcbbcbbcbbcbbcbbc",
     "bbcbbcbbcbbcbbcbbcbbcbbcbbcbbcbbubbcbbcbbcbbcbbcbbcbbcbbcbbcbbcbbcbbcbbcbbFgbbcbbcbbcbbcbbcbbcbbebbc",
     "bbcbbcbbcbbcbbcbbcbbcbbcbbcbbcbbcbbcbbcbbcbbcbbcbbcbbcbbcbbcbbcbbcbbcbbcbbcbbcbbcbbcbbcbblbbcbbdbbcb",
     "bcbbcbbcbbfbbfbbcbbcbBwcbbcbbcbbcbbcbbcbbcbbcbbcbbcbblbBJsbbbcbbcbbcbbcbbcbbcbbcbbfbbcbbdbbcbbcbbcbb",
     "cbbcbbcbbcbbBbbbBFLwbbBOmbBgbbBgbbBgbbBgbbBgbbBgbbBgbbBgbbBgbbBgbbBgbbBgbbBgbbBgbbBgbbBgbbBgbbBgbbBg",
     "bbBgbbBgbbBgbbBgbbBgbbBgbbBgBVabBobbBobbBobbBobbBobbBobbBobbBobbBobbBobbBobbBobbBobbBobbBobbBobbBobb",
     "BobbBobbBobbBobbBobbBobbBobbBobbBobbBobbBobbBobbBobbBobbBobbBobbBobbBobbBobbBobbBobbBobbBoFhbBobbBob",
     "bBobbBobbBobbBobbBobbBobbBobbBobbBobbBobbBobbBobbBobbBobbBobbBobbBobbBobbBobbBobbBobbBobbBobbBobbBob",
     "bBobbBobbBobbBobbBobbBobbBobbBobbBoGbbBnbbBnbbBnbbBnbbBnbbBnbbBnbbBnbbBnbbBnbbBncbBnbbBnbbBnbbBnbbBn",
     "bbBnbbBnbbBnbbBnbbBnbbBnbbBnbbBnbbBnbbBncbBnbbBnbbBnbbBnbbBnbbBnbbBncbBnbbBnCQdbCmbbCmbbCmbbCmbbCmbb",
     "CmbbCmbbCmbbCmbbCmbbCmbbCmbbCmbbCmbbCmbbCmbbCmbbCmbbCmbbCmbbCmbbCmbbCmbbCmbbCmbbCmbbCmbbCmbbCmbbCmbb",
     "CmbbCmbbCmbbCmbbCmbbCmbbCmbbCmbbCmbbCmbbCmbbCmbbCmbbCmbbCmbbCmbbCmbbCmbbCmbbCmbbCmGcbBgbbBgbbBgbbBgb",
     "bBgbbBgbbBgbbBgbbBgbbBgbbBgbbBgbbBgbbBgbbBgbbBgbbBgbbBgbbBgbbBgbbBgbbBgEGpbBgbbBgbbBgbbBgbbBgbbBgbbB",
     "gbbBgbbBgbbBgbbBgbbBgbbBgbbBgbbBgbbBgbbBgbbBgbbBgbbBgbbBgbbBgbbBgbbBgbbBgbbBgbbBgbbBgbbBgbbBgbbBgbbB",
     "gBGJxbBgbbBgbbBgbbBgbbBgbbBgbbBgbbBgbbBgbbBgbbBgbbBgbbBgbbBgbbBgbbBgbbBgbbBgbbBgbbBgbbBgbbBgbbBgbbBg",
     "bbBgbbBgbbBgbbBgbbBgbbBgbbBgbbBgCnbBbbbBbbbBbbbBbbbBbbbBbbbBbbbBbbbBbbbBbbbBbbbBbbbBbbbBbbbBbbbBbbbB",
     "bbbBbbbBbbbBbbbBbbbBbbbBbbbBbbbBbBUIabBibbBibbBibbBibbBibbBibbBibbBibbBibbBibbBibbBibbBibbBibbBibbBi",
     "bbBibbBibbBibbBibbBibbBibbBibbBibbBibbBibbBibbBibbBibbBibbBibbBibbBibbBi"]

end EventBroker.Unicode.Data
