import FieldRules.Unicode.Spans

/-!
# `FieldRules.Unicode.Age` — the edition that brought a character

The age of a character is the edition of the standard that first assigned it. A pattern that names
an edition means all characters known by then.

## Contents
- **`editions`**, and **`editionNamed?`**, which finds one by a loose name such as `3.2` or `v32`.
- **`knownBy`**, the characters of an edition and of all before it, from the table `ageRuns`.
-/

namespace FieldRules.Unicode

/-- The editions that assigned characters, as ten times the number before the point and the digit
after it. -/
def editions : List Nat :=
  [11, 20, 21, 30, 31, 32, 40, 41, 50, 51, 52, 60, 61, 62, 63, 70, 80, 90, 100, 110, 120, 121, 130,
   140, 150, 151, 160]

/-- Runs of equal age; `none` where no character is assigned. -/
def ageRuns : Runs (Option Nat) :=
  (Runs.decode 3 ageText).map fun (start, label) => (start, (String.ofList label).toNat?)
where
  /-- Each run as its edition, in three digits, and its length in hexadecimal digits; dashes stand
  for no edition. -/
  ageText : String :=
    "0111F6 0304 0111E 0308 0321 0401 03012 0403 041B 050E 01159 0305 0402 0112F 0301 011A 0305
    04011 01146 0309 0321 0408 0415 0403 0112 0301 032D 0514 0112 0512 ---2 0111 0503 0111 0701
    ---4 0117 ---1 0111 ---1 01114 ---1 0112C 0511 0117 0301 0322 0111 0301 0111 0301 0111 0301
    0111 0301 01112 0312 0321 0405 0414 0301 011C 0301 01142 0301 011C 0301 01129 0511 0302 0322
    0304 01135 0322 0112 0322 0112 0322 0501 0111C 0302 0118 0412 0112 0506 03210 0504 05110 0522
    0602 0708 ---1 01126 ---2 0117 1101 01127 1101 0111 0301 ---2 0702 0611 ---1 02011 0411 020D
    011A 0501 0119 0201 0413 ---8 0111B ---4 1101 0115 ---B 0404 0611 0701 0515 0411 0111 0409
    0515 0111 0631 1401 0411 0111 0601 0111A 0515 01113 0303 0403 0416 0601 011E 0322 01148 0302
    0115 0301 011F 0301 0111E 0402 011A 0305 0401 030E ---1 0301E 0403 0301B ---2 0403 0411E 05112
    03031 0321 ---E 0503B ---2 1103 0522E ---2 052F ---1 0601C ---2 0601 ---1 100B ---5 1401F ---1
    1402 ---5 1601 1408 0611 0701 061B 0706 0802 1401 0908 130A 140B 1101 090F 0801 0611B 0701
    0521 0113 0401 01135 0602 01112 0521 0601 0115 0521 0602 01119 0512 0605 0701 0522 0502 0411
    0502 0701 0113 ---1 0118 ---2 0112 ---2 01116 ---1 0117 ---1 0111 ---3 0114 ---2 0111 0401
    0117 ---2 0112 ---2 0113 0411 ---8 0111 ---4 0112 ---1 0115 ---2 01115 0521 1002 1101 ---2
    0401 0111 0401 ---1 0116 ---4 0112 ---2 01116 ---1 0117 ---1 0112 ---1 0112 ---1 0112 ---2
    0111 ---1 0115 ---4 0112 ---2 0113 ---3 0511 ---7 0114 ---1 0111 ---7 011F 0511 1101 ---A 0113
    ---1 0117 0401 0111 ---1 0113 ---1 01116 ---1 0117 ---1 0112 ---1 0115 ---2 011A ---1 0113
    ---1 0113 ---2 0111 ---F 0111 0403 ---2 011A 0611 0401 ---7 0801 1006 ---1 0113 ---1 0118 ---2
    0112 ---2 01116 ---1 0117 ---1 0112 ---1 0401 0114 ---2 0118 0511 ---2 0112 ---2 0113 ---7
    1301 0112 ---4 0112 ---1 0113 0512 ---2 011B 0401 0606 ---A 0112 ---1 0116 ---3 0113 ---1 0114
    ---3 0112 ---1 0111 ---1 0112 ---3 0112 ---3 0113 ---3 0118 0411 0113 ---4 0115 ---3 0113 ---1
    0114 ---2 0511 ---6 0111 ---E 0411 011C 0408 ---5 0701 0113 1101 0118 ---1 0113 ---1 01117
    ---1 011A 0701 0115 ---2 1401 0511 0117 ---1 0113 ---1 0114 ---7 0112 ---1 0512 0801 ---2 1401
    ---2 0112 0512 ---2 011A ---7 1201 0518 0901 0701 0112 1101 0118 ---1 0113 ---1 01117 ---1
    011A ---1 0115 ---2 0402 0117 ---1 0113 ---1 0114 ---7 0112 ---6 1401 0111 ---1 0112 0502 ---2
    011A ---1 0502 1501 ---C 1001 0701 0112 1301 0118 ---1 0113 ---1 01117 0601 01110 0601 1002
    0511 0116 0511 ---1 0113 ---1 0114 0601 0901 ---4 0903 0111 0907 0801 0112 0512 ---2 011A 0516
    0903 0517 ---1 1301 0302 ---1 03012 ---3 03018 ---1 0309 ---1 0301 ---2 0307 ---3 0301 ---4
    0306 ---1 0301 ---1 0308 ---6 070A ---2 0303 ---C 0113A ---4 0111D ---25 0112 ---1 0111 ---1
    1201 0112 1201 0111 ---1 1201 0111 1206 0114 1201 0117 1201 0113 ---1 0111 ---1 0111 1202 0112
    1201 011D 1201 0113 ---2 0115 ---1 0111 ---1 0116 1501 ---1 011A ---2 0112 0612 ---20 02048
    ---1 02021 0301 0512 ---4 0201B 0604 0206 0301 0201 ---1 02015 0303 0207 0301 0201 0303 ---1
    030F ---1 0511 0301 0412 0513 0524 0602 ---25 03022 0511 0305 0511 0302 0511 0307 0513 0304
    0516 0301A 05140 0524 0512 01126 ---1 0611 ---5 0611 ---2 01127 0322 0412 0111 0411 0613 0115A
    0525 01144 0525 01152 0526 0307 0411 0303F 0411 0301 ---1 0304 ---2 0307 ---1 0301 ---1 0304
    ---2 03027 0411 0301 ---1 0304 ---2 0301F 0411 0301 ---1 0304 ---2 0307 ---1 0301 ---1 0304
    ---2 0307 0411 0307 ---1 03017 0411 0301F 0411 0301 ---1 0304 ---2 0307 0411 03027 0411 03013
    ---2 0602 0412 0301C ---3 0411A ---6 03055 0801 ---2 0806 ---2 0521 030276 0529 0301D ---3
    03051 0708 ---7 032D 1401 0327 1401 ---9 1401 03217 ---9 03214 ---C 032D ---1 0323 ---1 0322
    ---C 0305D 0401 ---2 030A ---6 040A ---6 030F 1401 030A ---6 03058 1101 ---7 0302A 0511 ---5
    05246 ---A 0401D 0702 ---1 040C ---4 040C ---4 0401 ---3 0402A ---2 0405 ---B 0412A 0522 ---4
    0411A ---6 041A 0521 ---3 0412 04020 0411C ---2 0412 0523F ---1 0521D ---2 052B ---6 052A ---6
    052E ---2 070F 1302 140E ---31 0504C 1401 ---1 1602 0502D 1402 1601 0512B 0613 051C 0616 06034
    ---8 0604 05138 ---3 051F ---3 05133 0909 1602 ---5 1102B ---2 1103 0618 ---8 05223 0614 1001
    0702 1201 ---5 0406C 04158 0507 0511C 070F 1004 1401 0901 0601 0521 0502 0119B 0201 0514 0115A
    0516 01116 ---2 0116 ---2 01126 ---2 0116 ---2 0118 ---1 0111 ---1 0111 ---1 0111 ---1 0111F
    ---2 01135 ---1 011F ---1 011E ---2 0116 ---1 01113 ---2 0113 ---1 0119 ---1 0112F 0301 01117
    0321 0306 0325 0402 0412 0321 0417 0325 0511 ---1 0634 0117 0321 ---2 0111B ---1 0415 0608
    ---3 011B 0201 0211 0303 0322 0414 0523 0601 0621 0703 0801 1001 1401 ---F 01112 0302 0327
    0411 0504 0511 ---F 01139 0302 0401 0411 032F 0411 0502 0511 0523 01130 0301 0501 0514 0521
    0802 ---4 0115B 0309 032C 011F2 032E 0111 0301 01179 0301 0321 0301E 03234 0402 041B 050C 0521
    060B 0707 0904 1001 01125 0302 1603 ---16 011B ---15 0118B 03214 0401 01196 032A 01150 0308
    0328 01114 0402 0322 0411 0301 01156 0302 032C 0412 032A 0408 041B 0511 0522 0402 04110 0501
    051A 0523 0514 052A 0601 05213 0601 0521 0604 05218 0701 0114 0601 0114 0602 0111C 0601 01123
    0601 0111 0601 0114 0603 0111 0521 0117 0602 0117 032E 0111F 0603 01118 0601 011E 0601 0417
    0504 0611 0511 0611 0602 0321C 0514 03210 030100 032200 040E 0416 0507 0515 0504 05129 0703
    0515 0525 0701A ---2 07020 ---1 1301 07022 1103 070C 1201 0708 1001 11019 0804 110F 1201 0412F
    1401 0412F 1401 050D 0513 0521 0513 0504 0516 0522 0416B 0527 0612 ---5 0412D ---1 0611 ---5
    0611 ---2 04136 0612 ---7 0411 0601 ---E 0601 04117 ---9 0417 ---1 0417 ---1 0417 ---1 0417
    ---1 0417 ---1 0417 ---1 0417 ---1 0417 ---1 05120 04118 0514 0412 05113 0521 061A 0707 0902
    1005 1105 1201 1303 140B ---22 0301A ---1 03059 ---C 030D6 ---1A 030C 1514 01138 0303 0323
    0301 0111 ---1 01154 0322 ---2 0116 0322 0115E 0321 ---5 01128 0511 1001 1101 ---1 0115E ---1
    01110 03018 0603 1305 04110 05114 1602 ---9 1511 03210 0111D 0402 ---1 01124 052C 0401 032F
    0111C 0402 0411 01132 032F 011C 0404 0112F 1211 01177 0404 01163 0402 0111F 0401 03019B6 130A
    04040 01151A6 04116 0518 0528 0611 0809 10015 1105 130D 1403 03048D ---3 03012 0322 03010 0321
    030C 0321 0303 0321 0301 ---9 05230 05112C ---14 05120 0602 05112 0618 0511C 0706 0801 0611
    05258 ---8 04117 0504 0515 0502 0516B 0602 0801 0602 0612 070C 060A 0611 0703 0901 1101 0702
    0806 1102 1206 1402 1205 1304 1603 ---2 1402 ---1 1401 ---1 1405 1603 ---15 1403 1302 0701
    0612 0601 0515 0412C 1301 ---3 052A ---6 05038 ---8 05145 0901 ---8 051C ---6 0521C 0802 1102
    05154 ---B 0511 0521D ---3 0524E ---1 052B ---4 0522 0701F ---1 05137 ---9 051E ---2 051A ---2
    0514 0521C 0704 05243 ---18 0525 06117 ---A 0606 ---2 0606 ---2 0606 ---9 0607 ---1 0607 ---1
    07030 0804 0702 1202 1304 ---4 08050 0522E ---2 052A ---6 0202BA4 ---C 05217 ---4 05231 ---804
    0111A2E 0612 0323B 0523 ---2 0416A ---26 0117 ---C 0115 ---5 0301 01119 ---1 0115 ---1 0111
    ---1 0112 ---1 0112 ---1 0116C 06010 1401 ---10 01116D 14010 01140 ---2 01136 ---7 1401 03120
    011C 0321 0401 1402 03210 041A ---6 0114 0513 0707 0802 01115 0322 0402 011A ---1 01113 ---1
    0114 ---4 0113 0321 0111 ---1 01187 ---2 0111 ---1 0115E 0322 0115E ---3 0116 ---2 0116 ---2
    0116 ---2 0113 ---3 0117 ---1 0117 ---A 0303 0211 0113 040C ---1 0401A ---1 04013 ---1 0402
    ---1 040F ---2 040E ---22 0407B ---5 0403 ---4 0402D ---3 0409 0414B 0702 0902 ---1 051C 1301
    ---3 0701 ---2F 0512E ---82 0511D ---3 05131 ---F 0701C ---4 0311F 0701 0314 ---9 1003 0311B
    ---5 0702B ---5 0401E ---1 0401 04124 ---4 041E ---2A 03126 0402 03126 04050 ---2 040A ---6
    09024 ---4 09024 ---4 07028 ---8 07034 ---B 0701 140B ---1 140F ---1 1407 ---1 1402 ---1 140B
    ---1 140F ---1 1407 ---1 1402 ---3 16034 ---C 070137 ---9 07016 ---A 0708 ---18 1406 ---1
    1402A ---1 1409 ---45 0406 ---2 0401 ---1 0402C ---1 0402 ---3 0401 ---2 0401 05216 ---1 0529
    0703F ---8 0709 ---30 08013 ---1 0802 ---5 0805 0501A 0522 ---3 0501 0511A ---5 0511 ---40
    06138 ---4 0802 0612 08010 ---2 0802E 0414 ---1 0412 ---5 0418 ---1 0413 ---1 0411B 1102 ---2
    0413 ---4 0419 1101 ---7 0419 ---7 05220 07020 ---20 07027 ---4 070C ---9 05236 ---3 0521D
    ---2 0521B ---5 0528 07012 ---7 0704 ---C 0707 ---50 05249 ---37 08033 ---D 08033 ---7 0806
    11028 ---8 110A ---6 16026 ---3 1601D ---8 1602 ---D0 0521F ---1 1302A ---1 1303 ---2 1302
    ---10 1603 ---37 1601 1503 11028 ---8 1102A ---16 1401A ---26 1301C ---14 12017 ---9 0604E
    ---4 0601E 1406 ---9 0701 05242 1401 ---A 1101 ---2 06119 ---7 061A ---6 06135 ---1 061E 1103
    1301 ---8 07027 ---9 06149 0804 0701 1302 061A 0701 0805 ---1 07014 ---B 07012 ---1 0702B 0901
    1503 ---3E 0807 ---1 0801 ---1 0804 ---1 080F ---1 080B ---6 0703B ---5 070A ---6 0801 0703
    ---1 0708 ---2 0702 ---2 07016 ---1 0707 ---1 0702 ---1 0705 ---1 1101 0709 ---2 0702 ---2
    0703 ---2 0801 ---6 0701 ---5 0707 ---2 0707 ---3 0705 ---B 160A ---1 1601 ---2 1601 ---1
    16026 ---1 160A ---1 1601 ---2 1601 ---1 1604 ---1 160A ---1 1602 ---8 1602 ---1D 0905A 1301
    0901 ---1 0901 1101 1201 1302 ---1E 07048 ---8 070A ---A6 07036 ---2 07012 08014 ---22 07045
    ---B 070A ---6 090D ---13 06138 1201 1401 ---6 061A ---6 16014 ---1C 0801A 1101 ---2 080F ---4
    08010 1407 ---B9 1103C ---64 07053 ---C 0701 1307 ---2 1301 ---2 1308 ---1 1302 ---1 1301E
    ---1 1302 ---2 130C ---9 130A ---46 1208 ---2 1202E ---2 120B ---1B 10048 ---8 10034 1202
    10017 1101 1005 ---D 14010 07039 ---7 150A ---B6 16022 ---E 160A ---6 0909 ---1 0902D ---1
    090E ---A 0901D ---3 09020 ---2 09016 ---1 090E ---49 1007 ---1 1002 ---1 1002C ---3 1001 ---1
    1002 ---1 1009 ---8 100A ---6 1106 ---1 1102 ---1 11025 ---1 1102 ---1 1106 ---7 110A ---136
    11019 ---7 15011 ---1 15029 ---3 1501C 1601 ---55 1301 ---F 12032 ---D 1201 05036F 0702A 0801
    ---66 05063 070C ---1 0504 0701 ---B 080C4 ---A4C 14063 ---D 05242F 1501 1209 1501D ---A
    160F9B ---5 080247 ---1AB9 1603A ---6C6 060239 ---7 0701F ---1 070A ---4 0702 1404F ---1 140A
    ---6 0701E ---2 0706 ---A 07046 ---A 070A ---1 0707 ---1 07015 ---5 07013 ---1B0 1603A ---C6
    1105B ---65 06145 1206 ---4 1201 0612F 1209 ---7 06111 ---40 0901 1001 1202 1301 ---B 1302
    ---E 09017ED 1105 1206 ---8 0902F3 1301E3 ---29 1601 1309 ---22E7 1404 ---1 1407 ---1 1402
    ---1 0602 10011D 1404 ---F 1501 ---1D 1203 ---2 1501 ---E 1204 ---8 10018C ---904 0706B ---5
    070D ---3 0709 ---7 070A ---2 0708 ---F5C 160FA ---6 1601B4 ---4C 1402E ---2 14017 ---9 14074
    ---3C 031F6 ---A 03127 ---2 0511 031B4 080B 1402 ---15 04146 ---7A 15014 ---C 11014 ---C 04057
    ---9 05012 1107 ---87 03155 ---1 03147 ---1 0312 ---2 0311 ---2 0312 ---2 0314 ---1 031C ---1
    0311 ---1 0314 0401 0312 ---1 03141 ---1 0314 ---2 0318 ---1 0317 ---1 0311C ---1 0314 ---1
    0315 ---1 0311 ---3 0317 ---1 031152 0412 ---2 031122 0502 ---2 03132 08028C ---F 0805 ---1
    080F ---450 1401F ---6 1506 ---D5 0907 ---1 09011 ---2 0907 ---1 0902 ---1 0905 ---5 1503E
    ---21 1501 ---70 1202D ---3 120E ---2 120A ---4 1202 ---140 1401F ---11 1203A ---5 1201 ---1D0
    1502A ---D6 1602B ---4 1601 ---1E0 1407 ---1 1404 ---1 1402 ---1 140F ---1 070C5 ---2 07010
    ---29 0904B 1201 ---4 090A ---4 0902 ---311 11044 ---4C 1203D ---C2 0614 ---1 0611B ---1 0612
    ---1 0611 ---2 0611 ---1 061A ---1 0614 ---1 0611 ---1 0611 ---6 0611 ---4 0611 ---1 0611 ---1
    0611 ---1 0613 ---1 0612 ---1 0611 ---2 0611 ---1 0611 ---1 0611 ---1 0611 ---1 0611 ---1 0612
    ---1 0611 ---2 0614 ---1 0617 ---1 0614 ---1 0614 ---1 0611 ---1 061A ---1 06111 ---5 0613
    ---1 0615 ---1 06111 ---34 0612 ---10E 0512C ---4 05164 ---C 060F ---2 060E 0701 ---1 060F
    ---1 060F 07016 ---A 052B 0702 1303 0521F 1101 0601 0521 060B 0521 0601 0521 0602 0521 0603
    0521 0603 0525 0608 0521 0607 0521 060A 0612 1201 1303 0609 0521 0601 0522 0602 0521 060A 0524
    0602 0521 060A 09012 1301 ---38 0601A 0521 0602 ---D 05222 0609 0901 ---4 0529 ---7 0602 ---E
    1006 ---9A 06021 070C 0803 0606 0701 06046 0701 0802 06014 070C 06025 0701 0605 0704 0805 070C
    06011 0707 0808 0603F 0701 0601 0701 060B6 0701 0604 0702 0801 0603E 0702 0614 0707 0805 06018
    07012 0901 07029 0901 07056 0605 0611 06010 0611 0603 0611 0601 0611 0601 0611 0601 0611 0603
    0611 0606 0612 0604 0611 0601 0612 0604 0611 060C 0702 0802 060B 07030 06046 070A 0801 0902
    1002 1201 1302 ---4 1501 1403 070D ---3 0704 0903 1002 1101 1201 1302 ---3 06074 1503 ---4
    1505 07055 1104 1501 ---6 120C ---4 1401 ---F 070C ---4 07038 ---8 070A ---6 07028 ---8 0701E
    ---2 1302 160A ---4 1602 ---3E 100C 1301 1203 0809 0906 1001 0908 1008 0901 1002 090C 1201
    090C 1001 1103 090F 100D 1105 1201 1301 1104 1302 1401 1101 1201 1104 0805 090D 1006 110B 1302
    1206 1303 1202 110A 1206 0801 1102 1208 1301 1401 1203 10017 11019 12054 ---C 110E ---2 1204
    1301 1503 1203 1402 ---3 1203 1304 1502 1601 ---5 1601 1206 13013 1404 1503 1307 1404 1503
    1601 1501 1303 1403 1601 ---7 1502 1307 1403 1502 1601 ---2 1601 1408 1501 1601 ---6 1407 1502
    ---7 13093 ---1 13037 16025 130A ---404 0202 031A6D7 1307 1402 ---20 0521035 1404 1501 ---6
    060DE ---2 0801682 ---E 1001D31 ---F 15126E ---9A2 03121E ---5E0 0202 130134B ---5 1501060
    ---DC4E 0202 ---FFFE 0202 ---FFFE 0202 ---FFFE 0202 ---FFFE 0202 ---FFFE 0202 ---FFFE 0202
    ---FFFE 0202 ---FFFE 0202 ---FFFE 0202 ---FFFE 0202 ---1 0311 ---1E 03160 ---80 040F0 ---FE0E
    02020002"

/-- The characters that an edition and those before it assigned. -/
def knownBy (edition : Nat) : Spans :=
  (ageRuns.spans fun age => age.any (· ≤ edition)).toArray

/-- The edition with a loose name: its number with a point, or `v` and its digits. -/
def editionNamed? (name : List Char) : Option Nat :=
  editions.find? fun edition =>
    let whole := (toString (edition / 10)).toList
    let part := (toString (edition % 10)).toList
    name = whole ++ '.' :: part || name = 'v' :: whole ++ part

end FieldRules.Unicode
