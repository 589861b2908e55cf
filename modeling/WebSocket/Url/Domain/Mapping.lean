import WebSocket.Text.CodePoints

/-
How the characters of a domain are read: most stand for themselves, capital letters and variants
of form stand for the plain characters, a few count for nothing, and some may not be used at all.
The plain characters that something stands for stand for themselves.
-/
namespace WebSocket
namespace Domain

/-- Ranges of characters that may not be used. -/
def disallowedTable : String :=
  "80 9F  378 379  380 383  38B 38B  38D 38D  3A2 3A2  530 530  557 558  58B 58C  590 590  5C8 5CF
    5EB 5EE  5F5 605  61C 61C  6DD 6DD  70E 70F  74B 74C  7B2 7BF  7FB 7FC  82E 82F  83F 83F
    85C 85D  85F 85F  86B 86F  890 896  8E2 8E2  984 984  98D 98E  991 992  9A9 9A9  9B1 9B1
    9B3 9B5  9BA 9BB  9C5 9C6  9C9 9CA  9CF 9D6  9D8 9DB  9DE 9DE  9E4 9E5  9FF A00  A04 A04
    A0B A0E  A11 A12  A29 A29  A31 A31  A34 A34  A37 A37  A3A A3B  A3D A3D  A43 A46  A49 A4A
    A4E A50  A52 A58  A5D A5D  A5F A65  A77 A80  A84 A84  A8E A8E  A92 A92  AA9 AA9  AB1 AB1
    AB4 AB4  ABA ABB  AC6 AC6  ACA ACA  ACE ACF  AD1 ADF  AE4 AE5  AF2 AF8  B00 B00  B04 B04
    B0D B0E  B11 B12  B29 B29  B31 B31  B34 B34  B3A B3B  B45 B46  B49 B4A  B4E B54  B58 B5B
    B5E B5E  B64 B65  B78 B81  B84 B84  B8B B8D  B91 B91  B96 B98  B9B B9B  B9D B9D  BA0 BA2
    BA5 BA7  BAB BAD  BBA BBD  BC3 BC5  BC9 BC9  BCE BCF  BD1 BD6  BD8 BE5  BFB BFF  C0D C0D
    C11 C11  C29 C29  C3A C3B  C45 C45  C49 C49  C4E C54  C57 C57  C5B C5B  C5E C5F  C64 C65
    C70 C76  C8D C8D  C91 C91  CA9 CA9  CB4 CB4  CBA CBB  CC5 CC5  CC9 CC9  CCE CD4  CD7 CDB
    CDF CDF  CE4 CE5  CF0 CF0  CF4 CFF  D0D D0D  D11 D11  D45 D45  D49 D49  D50 D53  D64 D65
    D80 D80  D84 D84  D97 D99  DB2 DB2  DBC DBC  DBE DBF  DC7 DC9  DCB DCE  DD5 DD5  DD7 DD7
    DE0 DE5  DF0 DF1  DF5 E00  E3B E3E  E5C E80  E83 E83  E85 E85  E8B E8B  EA4 EA4  EA6 EA6
    EBE EBF  EC5 EC5  EC7 EC7  ECF ECF  EDA EDB  EE0 EFF  F48 F48  F6D F70  F98 F98  FBD FBD
    FCD FCD  FDB FFF  10C6 10C6  10C8 10CC  10CE 10CF  1249 1249  124E 124F  1257 1257  1259 1259
    125E 125F  1289 1289  128E 128F  12B1 12B1  12B6 12B7  12BF 12BF  12C1 12C1  12C6 12C7
    12D7 12D7  1311 1311  1316 1317  135B 135C  137D 137F  139A 139F  13F6 13F7  13FE 13FF
    1680 1680  169D 169F  16F9 16FF  1716 171E  1737 173F  1754 175F  176D 176D  1771 1771
    1774 177F  17DE 17DF  17EA 17EF  17FA 17FF  181A 181F  1879 187F  18AB 18AF  18F6 18FF
    191F 191F  192C 192F  193C 193F  1941 1943  196E 196F  1975 197F  19AC 19AF  19CA 19CF
    19DB 19DD  1A1C 1A1D  1A5F 1A5F  1A7D 1A7E  1A8A 1A8F  1A9A 1A9F  1AAE 1AAF  1AEC 1AFF
    1B4D 1B4D  1BF4 1BFB  1C38 1C3A  1C4A 1C4C  1C8B 1C8F  1CBB 1CBC  1CC8 1CCF  1CFB 1CFF
    1F16 1F17  1F1E 1F1F  1F46 1F47  1F4E 1F4F  1F58 1F58  1F5A 1F5A  1F5C 1F5C  1F5E 1F5E
    1F7E 1F7F  1FB5 1FB5  1FC5 1FC5  1FD4 1FD5  1FDC 1FDC  1FF0 1FF1  1FF5 1FF5  1FFF 1FFF
    200E 200F  2024 2026  2028 202E  2065 2069  2072 2073  209F 209F  20C5 20CF  20F1 20FF
    218C 218F  242A 243F  244B 245F  2488 249B  2B74 2B75  2CF4 2CF8  2D26 2D26  2D28 2D2C
    2D2E 2D2F  2D68 2D6E  2D71 2D7E  2D97 2D9F  2DA7 2DA7  2DAF 2DAF  2DB7 2DB7  2DBF 2DBF
    2DC7 2DC7  2DCF 2DCF  2DD7 2DD7  2DDF 2DDF  2E61 2E7F  2E9A 2E9A  2EF4 2EFF  2FD6 2FFF
    3040 3040  3097 3098  3100 3104  3130 3130  318F 318F  31E6 31EF  321F 321F  33C2 33C2
    33C7 33C7  33D8 33D8  A48D A48F  A4C7 A4CF  A62C A63F  A6F8 A6FF  A7DE A7F0  A82D A82F
    A83A A83F  A878 A87F  A8C6 A8CD  A8DA A8DF  A954 A95E  A97D A97F  A9CE A9CE  A9DA A9DD
    A9FF A9FF  AA37 AA3F  AA4E AA4F  AA5A AA5B  AAC3 AADA  AAF7 AB00  AB07 AB08  AB0F AB10
    AB17 AB1F  AB27 AB27  AB2F AB2F  AB6C AB6F  ABEE ABEF  ABFA ABFF  D7A4 D7AF  D7C7 D7CA
    D7FC F8FF  FA6E FA6F  FADA FAFF  FB07 FB12  FB18 FB1C  FB37 FB37  FB3D FB3D  FB3F FB3F
    FB42 FB42  FB45 FB45  FDD0 FDEF  FE12 FE12  FE19 FE1F  FE30 FE30  FE52 FE53  FE67 FE67
    FE6C FE6F  FE75 FE75  FEFD FEFE  FF00 FF00  FFBF FFC1  FFC8 FFC9  FFD0 FFD1  FFD8 FFD9
    FFDD FFDF  FFE7 FFE7  FFEF FFFF  1000C 1000C  10027 10027  1003B 1003B  1003E 1003E
    1004E 1004F  1005E 1007F  100FB 100FF  10103 10106  10134 10136  1018F 1018F  1019D 1019F
    101A1 101CF  101FE 1027F  1029D 1029F  102D1 102DF  102FC 102FF  10324 1032C  1034B 1034F
    1037B 1037F  1039E 1039E  103C4 103C7  103D6 103FF  1049E 1049F  104AA 104AF  104D4 104D7
    104FC 104FF  10528 1052F  10564 1056E  1057B 1057B  1058B 1058B  10593 10593  10596 10596
    105A2 105A2  105B2 105B2  105BA 105BA  105BD 105BF  105F4 105FF  10737 1073F  10756 1075F
    10768 1077F  10786 10786  107B1 107B1  107BB 107FF  10806 10807  10809 10809  10836 10836
    10839 1083B  1083D 1083E  10856 10856  1089F 108A6  108B0 108DF  108F3 108F3  108F6 108FA
    1091C 1091E  1093A 1093E  1095A 1097F  109B8 109BB  109D0 109D1  10A04 10A04  10A07 10A0B
    10A14 10A14  10A18 10A18  10A36 10A37  10A3B 10A3E  10A49 10A4F  10A59 10A5F  10AA0 10ABF
    10AE7 10AEA  10AF7 10AFF  10B36 10B38  10B56 10B57  10B73 10B77  10B92 10B98  10B9D 10BA8
    10BB0 10BFF  10C49 10C7F  10CB3 10CBF  10CF3 10CF9  10D28 10D2F  10D3A 10D3F  10D66 10D68
    10D86 10D8D  10D90 10E5F  10E7F 10E7F  10EAA 10EAA  10EAE 10EAF  10EB2 10EC1  10EC8 10ECC
    10ED9 10EF4  10F28 10F2F  10F5A 10F6F  10F8A 10FAF  10FCC 10FDF  10FF7 10FFF  1104E 11051
    11076 1107E  110BD 110BD  110C3 110CF  110E9 110EF  110FA 110FF  11135 11135  11148 1114F
    11177 1117F  111E0 111E0  111F5 111FF  11212 11212  11242 1127F  11287 11287  11289 11289
    1128E 1128E  1129E 1129E  112AA 112AF  112EB 112EF  112FA 112FF  11304 11304  1130D 1130E
    11311 11312  11329 11329  11331 11331  11334 11334  1133A 1133A  11345 11346  11349 1134A
    1134E 1134F  11351 11356  11358 1135C  11364 11365  1136D 1136F  11375 1137F  1138A 1138A
    1138C 1138D  1138F 1138F  113B6 113B6  113C1 113C1  113C3 113C4  113C6 113C6  113CB 113CB
    113D6 113D6  113D9 113E0  113E3 113FF  1145C 1145C  11462 1147F  114C8 114CF  114DA 1157F
    115B6 115B7  115DE 115FF  11645 1164F  1165A 1165F  1166D 1167F  116BA 116BF  116CA 116CF
    116E4 116FF  1171B 1171C  1172C 1172F  11747 117FF  1183C 1189F  118F3 118FE  11907 11908
    1190A 1190B  11914 11914  11917 11917  11936 11936  11939 1193A  11947 1194F  1195A 1199F
    119A8 119A9  119D8 119D9  119E5 119FF  11A48 11A4F  11AA3 11AAF  11AF9 11AFF  11B0B 11B5F
    11B68 11BBF  11BE2 11BEF  11BFA 11BFF  11C09 11C09  11C37 11C37  11C46 11C4F  11C6D 11C6F
    11C90 11C91  11CA8 11CA8  11CB7 11CFF  11D07 11D07  11D0A 11D0A  11D37 11D39  11D3B 11D3B
    11D3E 11D3E  11D48 11D4F  11D5A 11D5F  11D66 11D66  11D69 11D69  11D8F 11D8F  11D92 11D92
    11D99 11D9F  11DAA 11DAF  11DDC 11DDF  11DEA 11DEF  11DF2 11EDF  11EF9 11EFF  11F11 11F11
    11F3B 11F3D  11F5B 11FAF  11FB1 11FBF  11FF2 11FFE  1239A 123FF  1246F 1246F  12475 1247F
    12544 1254F  12687 12F8F  12FF3 12FFF  13430 1343F  13456 1345F  143FB 143FF  14647 160FF
    1613A 167FF  16A39 16A3F  16A5F 16A5F  16A6A 16A6D  16ABF 16ABF  16ACA 16ACF  16AEE 16AEF
    16AF6 16AFF  16B46 16B4F  16B5A 16B5A  16B62 16B62  16B78 16B7C  16B90 16D3F  16D7A 16D7F
    16D9E 16D9F  16DAA 16E3F  16E9B 16E9F  16EB9 16EBA  16ED4 16EFF  16F4B 16F4E  16F88 16F8E
    16FA0 16FDF  16FE5 16FEF  16FF7 16FFF  18CD6 18CFE  18D1F 18D7F  18DF3 18DFF  19280 1AFEF
    1AFF4 1AFF4  1AFFC 1AFFC  1AFFF 1AFFF  1B128 1B131  1B133 1B14F  1B153 1B154  1B156 1B163
    1B168 1B16F  1B2FC 1BBFF  1BC6B 1BC6F  1BC7D 1BC7F  1BC89 1BC8F  1BC9A 1BC9B  1BCA4 1CBFF
    1CCFD 1CCFF  1CEB4 1CEB9  1CED1 1CEDF  1CEF1 1CEFF  1CF2E 1CF2F  1CF47 1CF4F  1CFC4 1CFFF
    1D0F6 1D0FF  1D127 1D128  1D1EB 1D1FF  1D246 1D24F  1D280 1D2BF  1D2D4 1D2DF  1D2F4 1D2FF
    1D357 1D35F  1D379 1D3FF  1D455 1D455  1D49D 1D49D  1D4A0 1D4A1  1D4A3 1D4A4  1D4A7 1D4A8
    1D4AD 1D4AD  1D4BA 1D4BA  1D4BC 1D4BC  1D4C4 1D4C4  1D506 1D506  1D50B 1D50C  1D515 1D515
    1D51D 1D51D  1D53A 1D53A  1D53F 1D53F  1D545 1D545  1D547 1D549  1D551 1D551  1D6A6 1D6A7
    1D7CC 1D7CD  1DA8C 1DA9A  1DAA0 1DAA0  1DAB0 1DEFF  1DF1F 1DF24  1DF2B 1DFFF  1E007 1E007
    1E019 1E01A  1E022 1E022  1E025 1E025  1E02B 1E02F  1E06E 1E08E  1E090 1E0FF  1E12D 1E12F
    1E13E 1E13F  1E14A 1E14D  1E150 1E28F  1E2AF 1E2BF  1E2FA 1E2FE  1E300 1E4CF  1E4FA 1E5CF
    1E5FB 1E5FE  1E600 1E6BF  1E6DF 1E6DF  1E6F6 1E6FD  1E700 1E7DF  1E7E7 1E7E7  1E7EC 1E7EC
    1E7EF 1E7EF  1E7FF 1E7FF  1E8C5 1E8C6  1E8D7 1E8FF  1E94C 1E94F  1E95A 1E95D  1E960 1EC70
    1ECB5 1ED00  1ED3E 1EDFF  1EE04 1EE04  1EE20 1EE20  1EE23 1EE23  1EE25 1EE26  1EE28 1EE28
    1EE33 1EE33  1EE38 1EE38  1EE3A 1EE3A  1EE3C 1EE41  1EE43 1EE46  1EE48 1EE48  1EE4A 1EE4A
    1EE4C 1EE4C  1EE50 1EE50  1EE53 1EE53  1EE55 1EE56  1EE58 1EE58  1EE5A 1EE5A  1EE5C 1EE5C
    1EE5E 1EE5E  1EE60 1EE60  1EE63 1EE63  1EE65 1EE66  1EE6B 1EE6B  1EE73 1EE73  1EE78 1EE78
    1EE7D 1EE7D  1EE7F 1EE7F  1EE8A 1EE8A  1EE9C 1EEA0  1EEA4 1EEA4  1EEAA 1EEAA  1EEBC 1EEEF
    1EEF2 1EFFF  1F02C 1F02F  1F094 1F09F  1F0AF 1F0B0  1F0C0 1F0C0  1F0D0 1F0D0  1F0F6 1F100
    1F1AE 1F1E5  1F203 1F20F  1F23C 1F23F  1F249 1F24F  1F252 1F25F  1F266 1F2FF  1F6DA 1F6DB
    1F6ED 1F6EF  1F6FD 1F6FF  1F7DA 1F7DF  1F7EC 1F7EF  1F7FF 1F7FF  1F80C 1F80F  1F848 1F84F
    1F85A 1F85F  1F888 1F88F  1F8AE 1F8AF  1F8BC 1F8BF  1F8C2 1F8CF  1F8D9 1F8FF  1FA58 1FA5F
    1FA6E 1FA6F  1FA7D 1FA7F  1FAC7 1FAC7  1FAC9 1FACC  1FADE 1FADE  1FAEC 1FAEE  1FAFB 1FAFF
    1FB93 1FB93  1FBFB 1FFFF  2A6E0 2A6FF  2B81E 2B81F  2CEAE 2CEAF  2EBE1 2EBEF  2EE5E 2F7FF
    2FA1E 2FFFF  3134B 3134F  3347A 3CFFF  3FC40 E00FF  E01F0 10FFFF"

/-- Ranges of characters that count for nothing. -/
def ignoredTable : String :=
  "AD AD  34F 34F  115F 1160  17B4 17B5  180B 180F  200B 200B  2060 2064  206A 206F  3164 3164
    FE00 FE0F  FEFF FEFF  FFA0 FFA0  1BCA0 1BCA3  1D173 1D17A  E0100 E01EF"

/-- Rows of a range, the step between its characters, and what the first of them stands for.  The
others stand for the characters at the same steps after that. -/
def shiftTable : String :=
  "41 5A 1 61  C0 D6 1 E0  D8 DE 1 F8  100 12E 2 101  139 13D 2 13A  141 147 2 142  14A 176 2 14B
    179 17D 2 17A  1A0 1A4 2 1A1  1CD 1DB 2 1CE  1DE 1EE 2 1DF  1F8 21E 2 1F9  222 232 2 223
    246 24E 2 247  388 38A 1 3AD  391 3A1 1 3B1  3A3 3AB 1 3C3  3D8 3EE 2 3D9  3FD 3FF 1 37B
    400 40F 1 450  410 42F 1 430  460 480 2 461  48A 4BE 2 48B  4C1 4CD 2 4C2  4D0 52E 2 4D1
    531 556 1 561  10A0 10C5 1 2D00  13F8 13FD 1 13F0  1C90 1CBA 1 10D0  1CBD 1CBF 1 10FD
    1D33 1D3A 1 67  1D5D 1D5F 1 3B2  1DA4 1DA6 1 268  1DAE 1DB1 1 272  1DBC 1DBE 1 290
    1E00 1E94 2 1E01  1EA0 1EFE 2 1EA1  1F08 1F0F 1 1F00  1F18 1F1D 1 1F10  1F28 1F2F 1 1F20
    1F38 1F3F 1 1F30  1F48 1F4D 1 1F40  1F59 1F5F 2 1F51  1F68 1F6F 1 1F60  2074 2079 1 34
    2080 2089 1 30  2096 2099 1 6B  2119 211B 1 70  2135 2138 1 5D0  2460 2468 1 31  24B6 24CF 1 61
    24D0 24E9 1 61  2C00 2C2F 1 2C30  2C67 2C6B 2 2C68  2C80 2CE2 2 2C81  3137 3139 1 1103
    313A 313F 1 11B0  3141 3143 1 1106  3145 314E 1 1109  314F 3163 1 1161  3178 317C 1 112B
    3184 3186 1 1157  3263 3265 1 1105  3269 326D 1 110E  32E4 32E9 1 30CA  32EE 32F2 1 30DE
    32F5 32FA 1 30E8  32FB 32FE 1 30EF  A640 A66C 2 A641  A680 A69A 2 A681  A722 A72E 2 A723
    A732 A76E 2 A733  A77E A786 2 A77F  A796 A7A8 2 A797  A7B4 A7C2 2 A7B5  A7CC A7DA 2 A7CD
    AB70 ABBF 1 13A0  FB24 FB26 1 5DB  FE41 FE44 1 300C  FF01 FF20 1 21  FF21 FF3A 1 61
    FF3B FF5E 1 5B  FF85 FF8A 1 30CA  FF8F FF93 1 30DE  FF96 FF9B 1 30E8  FFA7 FFA9 1 1103
    FFAA FFAF 1 11B0  FFB1 FFB3 1 1106  FFB5 FFBE 1 1109  FFC2 FFC7 1 1161  FFCA FFCF 1 1167
    FFD2 FFD7 1 116D  FFDA FFDC 1 1173  FFE9 FFEC 1 2190  10400 10427 1 10428  104B0 104D3 1 104D8
    10570 1057A 1 10597  1057C 1058A 1 105A3  1058C 10592 1 105B3  107B6 107B8 1 1C0
    10C80 10CB2 1 10CC0  10D50 10D65 1 10D70  118A0 118BF 1 118C0  16E40 16E5F 1 16E60
    16EA0 16EB8 1 16EBB  1CCD6 1CCEF 1 61  1CCF0 1CCF9 1 30  1D400 1D419 1 61  1D41A 1D433 1 61
    1D434 1D44D 1 61  1D44E 1D454 1 61  1D456 1D467 1 69  1D468 1D481 1 61  1D482 1D49B 1 61
    1D4A9 1D4AC 1 6E  1D4AE 1D4B5 1 73  1D4B6 1D4B9 1 61  1D4BE 1D4C3 1 69  1D4C5 1D4CF 1 70
    1D4D0 1D4E9 1 61  1D4EA 1D503 1 61  1D507 1D50A 1 64  1D50D 1D514 1 6A  1D516 1D51C 1 73
    1D51E 1D537 1 61  1D53B 1D53E 1 64  1D540 1D544 1 69  1D54A 1D550 1 73  1D552 1D56B 1 61
    1D56C 1D585 1 61  1D586 1D59F 1 61  1D5A0 1D5B9 1 61  1D5BA 1D5D3 1 61  1D5D4 1D5ED 1 61
    1D5EE 1D607 1 61  1D608 1D621 1 61  1D622 1D63B 1 61  1D63C 1D655 1 61  1D656 1D66F 1 61
    1D670 1D689 1 61  1D68A 1D6A3 1 61  1D6A8 1D6B8 1 3B1  1D6BA 1D6C0 1 3C3  1D6C2 1D6D2 1 3B1
    1D6D4 1D6DA 1 3C3  1D6E2 1D6F2 1 3B1  1D6F4 1D6FA 1 3C3  1D6FC 1D70C 1 3B1  1D70E 1D714 1 3C3
    1D71C 1D72C 1 3B1  1D72E 1D734 1 3C3  1D736 1D746 1 3B1  1D748 1D74E 1 3C3  1D756 1D766 1 3B1
    1D768 1D76E 1 3C3  1D770 1D780 1 3B1  1D782 1D788 1 3C3  1D790 1D7A0 1 3B1  1D7A2 1D7A8 1 3C3
    1D7AA 1D7BA 1 3B1  1D7BC 1D7C2 1 3C3  1D7CE 1D7D7 1 30  1D7D8 1D7E1 1 30  1D7E2 1D7EB 1 30
    1D7EC 1D7F5 1 30  1D7F6 1D7FF 1 30  1E030 1E038 1 430  1E039 1E03B 1 43A  1E03C 1E046 1 43E
    1E051 1E059 1 430  1E05F 1E064 1 443  1E900 1E921 1 1E922  1EE0A 1EE0D 1 643  1EE2A 1EE2D 1 643
    1EE8B 1EE8D 1 644  1EEAB 1EEAD 1 644  1F130 1F149 1 61  1FBF0 1FBF9 1 30"

/-- Rows of a character and of what it and the characters after it stand for, with their count in
between. -/
def replacementTable : String :=
  "A0 1 20  AA 1 61  B2 2 32 33  B5 1 3BC  B9 2 31 6F  134 1 135  136 1 137  178 1 FF  17F 1 73
    181 2 253 183  184 1 185  186 2 254 188  189 3 256 257 18C  18E 4 1DD 259 25B 192
    193 2 260 263  196 3 269 268 199  19C 2 26F 272  19F 1 275  1A6 2 280 1A8  1A9 1 283  1AC 1 1AD
    1AE 2 288 1B0  1B1 3 28A 28B 1B4  1B5 1 1B6  1B7 2 292 1B9  1BC 1 1BD  1F4 1 1F5  1F6 2 195 1BF
    220 1 19E  23A 2 2C65 23C  23D 2 19A 2C66  241 1 242  243 3 180 289 28C
    2B0 9 68 266 6A 72 279 27B 281 77 79  2E0 5 263 6C 73 78 295  340 2 300 301  343 1 313
    345 1 3B9  370 1 371  372 1 373  374 1 2B9  376 1 377  37E 2 3B 3F3  386 2 3AC B7  38C 1 3CC
    38E 2 3CD 3CE  3CF 8 3D7 3B2 3B8 3C5 3CD 3CB 3C6 3C0  3F0 3 3BA 3C1 3C3  3F4 2 3B8 3B5
    3F7 1 3F8  3F9 2 3C3 3FB  4C0 1 4CF  F0C 1 F0B  10C7 1 2D27  10CD 1 2D2D  10FC 1 10DC
    1C80 A 432 434 43E 441 442 442 44A 463 A64B 1C8A  1D2C 3 61 E6 62  1D30 3 64 65 1DD
    1D3C 12 6F 223 70 72 74 75 77 61 250 251 1D02 62 64 65 259 25B 25C 67
    1D4F E 6B 6D 14B 6F 254 1D16 1D17 70 74 75 1D1D 26F 76 1D25
    1D60 B 3C6 3C7 69 72 75 76 3B2 3B3 3C1 3C6 3C7  1D78 1 43D
    1D9B 9 252 63 255 F0 25C 66 25F 261 265  1DA7 7 1D7B 29D 26D 1D85 29F 271 270
    1DB2 A 278 282 283 1AB 289 28A 1D1C 28B 28C 7A  1DBF 1 3B8  1E9B 1 1E61  1E9E 1 DF  1F71 1 3AC
    1F73 1 3AD  1F75 1 3AE  1F77 1 3AF  1F79 1 3CC  1F7B 1 3CD  1F7D 1 3CE
    1FB8 4 1FB0 1FB1 1F70 3AC  1FBE 1 3B9  1FC8 4 1F72 3AD 1F74 3AE  1FD3 1 390
    1FD8 4 1FD0 1FD1 1F76 3AF  1FE3 1 3B0  1FE8 5 1FE0 1FE1 1F7A 3CD 1FE5  1FEF 1 60
    1FF8 4 1F78 3CC 1F7C 3CE  2000 B 20 20 20 20 20 20 20 20 20 20 20  2011 1 2010  202F 1 20
    205F 1 20  2070 2 30 69  207A 6 2B 2212 3D 28 29 6E  208A 5 2B 2212 3D 28 29
    2090 6 61 65 6F 78 259 68  209A 5 70 73 74 77 79  2102 1 63  2107 1 25B
    210A A 67 68 68 68 68 127 69 69 6C 6C  2115 1 6E  211C 2 72 72  2124 1 7A  2126 1 3C9
    2128 1 7A  212A 4 6B E5 62 63  212F 6 65 65 66 214E 6D 6F  2139 1 69
    213C 5 3C0 3B3 3B3 3C0 2211  2145 5 64 64 65 69 6A  2160 1 69  2164 1 76  2169 1 78
    216C 5 6C 63 64 6D 69  2174 1 76  2179 1 78  217C 4 6C 63 64 6D  2183 1 2184  2329 2 3008 3009
    24EA 1 30  2C60 1 2C61  2C62 3 26B 1D7D 27D  2C6D 4 251 271 250 252  2C72 1 2C73  2C75 1 2C76
    2C7C 4 6A 76 23F 240  2CEB 1 2CEC  2CED 1 2CEE  2CF2 1 2CF3  2D6F 1 2D61  2E9F 1 6BCD
    2EF3 1 9F9F
    2F00 D6 4E00 4E28 4E36 4E3F 4E59 4E85 4E8C 4EA0 4EBA 513F 5165 516B 5182 5196 51AB 51E0 51F5
    5200 529B 52F9 5315 531A 5338 5341 535C 5369 5382 53B6 53C8 53E3 56D7 571F 58EB 5902 590A 5915
    5927 5973 5B50 5B80 5BF8 5C0F 5C22 5C38 5C6E 5C71 5DDB 5DE5 5DF1 5DFE 5E72 5E7A 5E7F 5EF4 5EFE
    5F0B 5F13 5F50 5F61 5F73 5FC3 6208 6236 624B 652F 6534 6587 6597 65A4 65B9 65E0 65E5 66F0 6708
    6728 6B20 6B62 6B79 6BB3 6BCB 6BD4 6BDB 6C0F 6C14 6C34 706B 722A 7236 723B 723F 7247 7259 725B
    72AC 7384 7389 74DC 74E6 7518 751F 7528 7530 758B 7592 7676 767D 76AE 76BF 76EE 77DB 77E2 77F3
    793A 79B8 79BE 7A74 7ACB 7AF9 7C73 7CF8 7F36 7F51 7F8A 7FBD 8001 800C 8012 8033 807F 8089 81E3
    81EA 81F3 81FC 820C 821B 821F 826E 8272 8278 864D 866B 8840 884C 8863 897E 898B 89D2 8A00 8C37
    8C46 8C55 8C78 8C9D 8D64 8D70 8DB3 8EAB 8ECA 8F9B 8FB0 8FB5 9091 9149 91C6 91CC 91D1 9577 9580
    961C 96B6 96B9 96E8 9751 975E 9762 9769 97CB 97ED 97F3 9801 98A8 98DB 98DF 9996 9999 99AC 9AA8
    9AD8 9ADF 9B25 9B2F 9B32 9B3C 9B5A 9CE5 9E75 9E7F 9EA5 9EBB 9EC3 9ECD 9ED1 9EF9 9EFD 9F0E 9F13
    9F20 9F3B 9F4A 9F52 9F8D 9F9C 9FA0
    3000 1 20  3002 1 2E  3036 1 3012  3038 3 5341 5344 5345  3131 6 1100 1101 11AA 1102 11AC 11AD
    3140 1 111A  3144 1 1121
    3165 13 1114 1115 11C7 11C8 11CC 11CE 11D3 11D7 11D9 111C 11DD 11DF 111D 111E 1120 1122 1123
    1127 1129
    317D 7 1132 1136 1140 1147 114C 11F1 11F2  3187 8 1184 1185 1188 1191 1192 1194 119E 11A1
    3192 E 4E00 4E8C 4E09 56DB 4E0A 4E2D 4E0B 7532 4E59 4E19 4E01 5929 5730 4EBA
    3244 4 554F 5E7C 6587 7B8F  3260 3 1100 1102 1103  3266 3 1109 110B 110C
    326E E AC00 B098 B2E4 B77C B9C8 BC14 C0AC C544 C790 CC28 CE74 D0C0 D30C D558  327E 1 C6B0
    3280 31 4E00 4E8C 4E09 56DB 4E94 516D 4E03 516B 4E5D 5341 6708 706B 6C34 6728 91D1 571F 65E5
    682A 6709 793E 540D 7279 8CA1 795D 52B4 79D8 7537 5973 9069 512A 5370 6CE8 9805 4F11 5199 6B63
    4E0A 4E2D 4E0B 5DE6 53F3 533B 5B97 5B66 76E3 4F01 8CC7 5354 591C
    32D0 14 30A2 30A4 30A6 30A8 30AA 30AB 30AD 30AF 30B1 30B3 30B5 30B7 30B9 30BB 30BD 30BF 30C1
    30C4 30C6 30C8
    32EA 4 30D2 30D5 30D8 30DB  32F3 2 30E4 30E6  A69C 2 44A 44C  A770 1 A76F  A779 1 A77A
    A77B 1 A77C  A77D 1 1D79  A78B 1 A78C  A78D 1 265  A790 1 A791  A792 1 A793
    A7AA 5 266 25C 261 26C 26A  A7B0 4 29E 287 29D AB53  A7C4 4 A794 282 1D8E A7C8  A7C9 1 A7CA
    A7CB 1 264  A7DC 2 19B 277  A7F1 5 73 63 66 71 A7F6  A7F8 2 127 153  AB5C 4 A727 AB37 26B AB52
    AB69 1 28D
    F900 10E 8C48 66F4 8ECA 8CC8 6ED1 4E32 53E5 9F9C 9F9C 5951 91D1 5587 5948 61F6 7669 7F85 863F
    87BA 88F8 908F 6A02 6D1B 70D9 73DE 843D 916A 99F1 4E82 5375 6B04 721B 862D 9E1E 5D50 6FEB 85CD
    8964 62C9 81D8 881F 5ECA 6717 6D6A 72FC 90CE 4F86 51B7 52DE 64C4 6AD3 7210 76E7 8001 8606 865C
    8DEF 9732 9B6F 9DFA 788C 797F 7DA0 83C9 9304 9E7F 8AD6 58DF 5F04 7C60 807E 7262 78CA 8CC2 96F7
    58D8 5C62 6A13 6DDA 6F0F 7D2F 7E37 964B 52D2 808B 51DC 51CC 7A1C 7DBE 83F1 9675 8B80 62CF 6A02
    8AFE 4E39 5BE7 6012 7387 7570 5317 78FB 4FBF 5FA9 4E0D 6CCC 6578 7D22 53C3 585E 7701 8449 8AAA
    6BBA 8FB0 6C88 62FE 82E5 63A0 7565 4EAE 5169 51C9 6881 7CE7 826F 8AD2 91CF 52F5 5442 5973 5EEC
    65C5 6FFE 792A 95AD 9A6A 9E97 9ECE 529B 66C6 6B77 8F62 5E74 6190 6200 649A 6F23 7149 7489 79CA
    7DF4 806F 8F26 84EE 9023 934A 5217 52A3 54BD 70C8 88C2 8AAA 5EC9 5FF5 637B 6BAE 7C3E 7375 4EE4
    56F9 5BE7 5DBA 601C 73B2 7469 7F9A 8046 9234 96F6 9748 9818 4F8B 79AE 91B4 96B8 60E1 4E86 50DA
    5BEE 5C3F 6599 6A02 71CE 7642 84FC 907C 9F8D 6688 962E 5289 677B 67F3 6D41 6E9C 7409 7559 786B
    7D10 985E 516D 622E 9678 502B 5D19 6DEA 8F2A 5F8B 6144 6817 7387 9686 5229 540F 5C65 6613 674E
    68A8 6CE5 7406 75E2 7F79 88CF 88E1 91CC 96E2 533F 6EBA 541D 71D0 7498 85FA 96A3 9C57 9E9F 6797
    6DCB 81E8 7ACB 7B20 7C92 72C0 7099 8B58 4EC0 8336 523A 5207 5EA6 62D3 7CD6 5B85 6D1E 66B4 8F3B
    884C 964D 898B 5ED3 5140 55C0
    FA10 1 585A  FA12 1 6674  FA15 A 51DE 732A 76CA 793C 795E 7965 798F 9756 7CBE 7FBD  FA20 1 8612
    FA22 1 8AF8  FA25 2 9038 90FD
    FA2A 44 98EF 98FC 9928 9DB4 90DE 96B7 4FAE 50E7 514D 52C9 52E4 5351 559D 5606 5668 5840 58A8
    5C64 5C6E 6094 6168 618E 61F2 654F 65E2 6691 6885 6D77 6E1A 6F22 716E 722B 7422 7891 793E 7949
    7948 7950 7956 795D 798D 798E 7A40 7A81 7BC0 7DF4 7E09 7E41 7F72 8005 81ED 8279 8279 8457 8910
    8996 8B01 8B39 8CD3 8D08 8FB6 9038 96E3 97FF 983B 6075 242EE 8218
    FA70 6A 4E26 51B5 5168 4F80 5145 5180 52C7 52FA 559D 5555 5599 55E2 585A 58B3 5944 5954 5A62
    5B28 5ED2 5ED9 5F69 5FAD 60D8 614E 6108 618E 6160 61F2 6234 63C4 641C 6452 6556 6674 6717 671B
    6756 6B79 6BBA 6D41 6EDB 6ECB 6F22 701E 716E 77A7 7235 72AF 732A 7471 7506 753B 761D 761F 76CA
    76DB 76F4 774A 7740 78CC 7AB1 7BC0 7C7B 7D5B 7DF4 7F3E 8005 8352 83EF 8779 8941 8986 8996 8ABF
    8AF8 8ACB 8B01 8AFE 8AED 8B39 8B8A 8D08 8F38 9072 9199 9276 967C 96E3 9756 97DB 97FF 980B 983B
    9B12 9F9C 2284A 22844 233D5 3B9D 4018 4039 25249 25CD0 27ED3 9F43 9F8E
    FB20 4 5E2 5D0 5D3 5D4  FB27 3 5E8 5EA 2B
    FB50 62 671 671 67B 67B 67B 67B 67E 67E 67E 67E 680 680 680 680 67A 67A 67A 67A 67F 67F 67F
    67F 679 679 679 679 6A4 6A4 6A4 6A4 6A6 6A6 6A6 6A6 684 684 684 684 683 683 683 683 686 686
    686 686 687 687 687 687 68D 68D 68C 68C 68E 68E 688 688 698 698 691 691 6A9 6A9 6A9 6A9 6AF
    6AF 6AF 6AF 6B3 6B3 6B3 6B3 6B1 6B1 6B1 6B1 6BA 6BA 6BB 6BB 6BB 6BB 6C0 6C0 6C1 6C1 6C1 6C1
    6BE 6BE 6BE 6BE 6D2 6D2 6D3 6D3
    FBD3 A 6AD 6AD 6AD 6AD 6C7 6C7 6C6 6C6 6C8 6C8
    FBDE C 6CB 6CB 6C5 6C5 6C9 6C9 6D0 6D0 6D0 6D0 649 649  FBFC 4 6CC 6CC 6CC 6CC  FE10 2 2C 3001
    FE13 6 3A 3B 21 3F 3016 3017
    FE31 10 2014 2013 5F 5F 28 29 7B 7D 3014 3015 3010 3011 300A 300B 3008 3009  FE47 2 5B 5D
    FE4D 5 5F 5F 5F 2C 3001  FE54 13 3B 3A 3F 21 2014 28 29 7B 7D 3014 3015 23 26 2A 2B 2D 3C 3E 3D
    FE68 4 5C 24 25 40
    FE80 75 621 622 622 623 623 624 624 625 625 626 626 626 626 627 627 628 628 628 628 629 629
    62A 62A 62A 62A 62B 62B 62B 62B 62C 62C 62C 62C 62D 62D 62D 62D 62E 62E 62E 62E 62F 62F 630
    630 631 631 632 632 633 633 633 633 634 634 634 634 635 635 635 635 636 636 636 636 637 637
    637 637 638 638 638 638 639 639 639 639 63A 63A 63A 63A 641 641 641 641 642 642 642 642 643
    643 643 643 644 644 644 644 645 645 645 645 646 646 646 646 647 647 647 647 648 648 649 649
    64A 64A 64A 64A
    FF5F 26 2985 2986 2E 300C 300D 3001 30FB 30F2 30A1 30A3 30A5 30A7 30A9 30E3 30E5 30E7 30C3
    30FC 30A2 30A4 30A6 30A8 30AA 30AB 30AD 30AF 30B1 30B3 30B5 30B7 30B9 30BB 30BD 30BF 30C1 30C4
    30C6 30C8
    FF8B 4 30D2 30D5 30D8 30DB  FF94 2 30E4 30E6  FF9C 4 30EF 30F3 3099 309A
    FFA1 6 1100 1101 11AA 1102 11AC 11AD  FFB0 1 111A  FFB4 1 1121  FFE0 3 A2 A3 AC
    FFE4 3 A6 A5 20A9  FFE8 1 2502  FFED 2 25A0 25CB  10594 2 105BB 105BC
    10781 5 2D0 2D1 E6 299 253
    10787 2A 2A3 AB66 2A5 2A4 256 257 1D91 258 25E 2A9 264 262 260 29B 127 29C 267 284 2AA 2AB 26C
    1DF04 A78E 26E 1DF05 28E 1DF06 F8 276 277 71 27A 1DF08 27D 27E 280 2A8 2A6 AB67 2A7 288 2C71
    107B2 4 28F 2A1 2A2 298  107B9 2 1DF0A 1DF1E  1D49C 1 61  1D49E 2 63 64  1D4A2 1 67
    1D4A5 2 6A 6B  1D4BB 1 66  1D4BD 1 68  1D504 2 61 62  1D538 2 61 62  1D546 1 6F
    1D6A4 2 131 237  1D6B9 1 3B8  1D6C1 1 2207  1D6D3 1 3C3  1D6DB 7 2202 3B5 3B8 3BA 3C6 3C1 3C0
    1D6F3 1 3B8  1D6FB 1 2207  1D70D 1 3C3  1D715 7 2202 3B5 3B8 3BA 3C6 3C1 3C0  1D72D 1 3B8
    1D735 1 2207  1D747 1 3C3  1D74F 7 2202 3B5 3B8 3BA 3C6 3C1 3C0  1D767 1 3B8  1D76F 1 2207
    1D781 1 3C3  1D789 7 2202 3B5 3B8 3BA 3C6 3C1 3C0  1D7A1 1 3B8  1D7A9 1 2207  1D7BB 1 3C3
    1D7C3 9 2202 3B5 3B8 3BA 3C6 3C1 3C0 3DD 3DD  1E047 A 44B 44D 44E A689 4D9 456 458 4E9 4AF 4CF
    1E05A 5 43A 43B 43E 43F 441  1E065 9 44A 44B 491 456 455 45F 4AB A651 4B1
    1EE00 4 627 628 62C 62F  1EE05 5 648 632 62D 637 64A
    1EE0E 12 633 639 641 635 642 631 634 62A 62B 62E 630 636 638 63A 66E 6BA 6A1 66F
    1EE21 2 628 62C  1EE24 1 647  1EE27 1 62D  1EE29 1 64A  1EE2E 5 633 639 641 635 642
    1EE34 4 634 62A 62B 62E  1EE39 1 636  1EE3B 1 63A  1EE42 1 62C  1EE47 1 62D  1EE49 1 64A
    1EE4B 1 644  1EE4D 3 646 633 639  1EE51 2 635 642  1EE54 1 634  1EE57 1 62E  1EE59 1 636
    1EE5B 1 63A  1EE5D 1 6BA  1EE5F 1 66F  1EE61 2 628 62C  1EE64 1 647  1EE67 4 62D 637 64A 643
    1EE6C 7 645 646 633 639 641 635 642  1EE74 4 634 62A 62B 62E  1EE79 4 636 638 63A 66E
    1EE7E 1 6A1  1EE80 A 627 628 62C 62F 647 648 632 62D 637 64A
    1EE8E E 633 639 641 635 642 631 634 62A 62B 62E 630 636 638 63A  1EEA1 3 628 62C 62F
    1EEA5 5 648 632 62D 637 64A  1EEAE E 633 639 641 635 642 631 634 62A 62B 62E 630 636 638 63A
    1F12B 2 63 72  1F202 1 30B5
    1F210 2C 624B 5B57 53CC 30C7 4E8C 591A 89E3 5929 4EA4 6620 7121 6599 524D 5F8C 518D 65B0 521D
    7D42 751F 8CA9 58F0 5439 6F14 6295 6355 4E00 4E09 904A 5DE6 4E2D 53F3 6307 8D70 6253 7981 7A7A
    5408 6E80 6709 6708 7533 5272 55B6 914D
    1F250 2 5F97 53EF
    2F800 21E 4E3D 4E38 4E41 20122 4F60 4FAE 4FBB 5002 507A 5099 50E7 50CF 349E 2063A 514D 5154
    5164 5177 2051C 34B9 5167 518D 2054B 5197 51A4 4ECC 51AC 51B5 291DF 51F5 5203 34DF 523B 5246
    5272 5277 3515 52C7 52C9 52E4 52FA 5305 5306 5317 5349 5351 535A 5373 537D 537F 537F 537F
    20A2C 7070 53CA 53DF 20B63 53EB 53F1 5406 549E 5438 5448 5468 54A2 54F6 5510 5553 5563 5584
    5584 5599 55AB 55B3 55C2 5716 5606 5717 5651 5674 5207 58EE 57CE 57F4 580D 578B 5832 5831 58AC
    214E4 58F2 58F7 5906 591A 5922 5962 216A8 216EA 59EC 5A1B 5A27 59D8 5A66 36EE 36FC 5B08 5B3E
    5B3E 219C8 5BC3 5BD8 5BE7 5BF3 21B18 5BFF 5C06 5F53 5C22 3781 5C60 5C6E 5CC0 5C8D 21DE4 5D43
    21DE6 5D6E 5D6B 5D7C 5DE1 5DE2 382F 5DFD 5E28 5E3D 5E69 3862 22183 387C 5EB0 5EB3 5EB6 5ECA
    2A392 5EFE 22331 22331 8201 5F22 5F22 38C7 232B8 261DA 5F62 5F6B 38E3 5F9A 5FCD 5FD7 5FF9 6081
    393A 391C 6094 226D4 60C7 6148 614C 614E 614C 617A 618E 61B2 61A4 61AF 61DE 61F2 61F6 6210
    621B 625D 62B1 62D4 6350 22B0C 633D 62FC 6368 6383 63E4 22BF1 6422 63C5 63A9 3A2E 6469 647E
    649D 6477 3A6C 654F 656C 2300A 65E3 66F8 6649 3B19 6691 3B08 3AE4 5192 5195 6700 669C 80AD
    43D9 6717 671B 6721 675E 6753 233C3 3B49 67FA 6785 6852 6885 2346D 688E 681F 6914 3B9D 6942
    69A3 69EA 6AA8 236A3 6ADB 3C18 6B21 238A7 6B54 3C4E 6B72 6B9F 6BBA 6BBB 23A8D 21D0B 23AFA 6C4E
    23CBC 6CBF 6CCD 6C67 6D16 6D3E 6D77 6D41 6D69 6D78 6D85 23D1E 6D34 6E2F 6E6E 3D33 6ECB 6EC7
    23ED1 6DF9 6F6E 23F5E 23F8E 6FC6 7039 701E 701B 3D96 704A 707D 7077 70AD 20525 7145 24263 719C
    243AB 7228 7235 7250 24608 7280 7295 24735 24814 737A 738B 3EAC 73A5 3EB8 3EB8 7447 745C 7471
    7485 74CA 3F1B 7524 24C36 753E 24C92 7570 2219F 7610 24FA1 24FB8 25044 3FFC 4008 76F4 250F3
    250F2 25119 25133 771E 771F 771F 774A 4039 778B 4046 4096 2541D 784E 788C 78CC 40E3 25626 7956
    2569A 256C5 798F 79EB 412F 7A40 7A4A 7A4F 2597C 25AA7 25AA7 7AEE 4202 25BAB 7BC6 7BC9 4227
    25C80 7CD2 42A0 7CE8 7CE3 7D00 25F86 7D63 4301 7DC7 7E02 7E45 4334 26228 26247 4359 262D9 7F7A
    2633E 7F95 7FFA 8005 264DA 26523 8060 265A8 8070 2335F 43D5 80B2 8103 440B 813E 5AB5 267A7
    267B5 23393 2339C 8201 8204 8F9E 446B 8291 828B 829D 52B3 82B1 82B3 82BD 82E6 26B3C 82E5 831D
    8363 83AD 8323 83BD 83E7 8457 8353 83CA 83CC 83DC 26C36 26D6B 26CD5 452B 84F1 84F3 8516 273CA
    8564 26F2C 455D 4561 26FB1 270D2 456B 8650 865C 8667 8669 86A9 8688 870E 86E2 8779 8728 876B
    8786 45D7 87E1 8801 45F9 8860 8863 27667 88D7 88DE 4635 88FA 34BB 278AE 27966 46BE 46C7 8AA0
    8AED 8B8A 8C55 27CA8 8CAB 8CC1 8D1B 8D77 27F2F 20804 8DCB 8DBC 8DF0 208DE 8ED4 8F38 285D2
    285ED 9094 90F1 9111 2872E 911B 9238 92D7 92D8 927C 93F9 9415 28BFA 958B 4995 95B7 28D77 49E6
    96C3 5DB2 9723 29145 2921A 4A6E 4A76 97E0 2940A 4AB2 29496 980B 980B 9829 295B6 98E2 4B33 9929
    99A7 99C2 99FE 4BCE 29B30 9B12 9C40 9CFD 4CCE 4CED 9D67 2A0CE 4CF8 2A105 2A20E 2A291 9EBB 4D56
    9EF9 9EFE 9F05 9F0F 9F16 9F3B 2A600"

/-- Rows of a character and of the characters that it stands for, with their count in between. -/
def expansionTable : String :=
  "A8 2 20 308  AF 2 20 304  B4 2 20 301  B8 2 20 327  BC 3 31 2044 34  BD 3 31 2044 32
    BE 3 33 2044 34  130 2 69 307  132 2 69 6A  133 2 69 6A  13F 2 6C B7  140 2 6C B7  149 2 2BC 6E
    1C4 2 64 17E  1C5 2 64 17E  1C6 2 64 17E  1C7 2 6C 6A  1C8 2 6C 6A  1C9 2 6C 6A  1CA 2 6E 6A
    1CB 2 6E 6A  1CC 2 6E 6A  1F1 2 64 7A  1F2 2 64 7A  1F3 2 64 7A  2D8 2 20 306  2D9 2 20 307
    2DA 2 20 30A  2DB 2 20 328  2DC 2 20 303  2DD 2 20 30B  344 2 308 301  37A 2 20 3B9
    384 2 20 301  385 3 20 308 301  587 2 565 582  675 2 627 674  676 2 648 674  677 2 6C7 674
    678 2 64A 674  958 2 915 93C  959 2 916 93C  95A 2 917 93C  95B 2 91C 93C  95C 2 921 93C
    95D 2 922 93C  95E 2 92B 93C  95F 2 92F 93C  9DC 2 9A1 9BC  9DD 2 9A2 9BC  9DF 2 9AF 9BC
    A33 2 A32 A3C  A36 2 A38 A3C  A59 2 A16 A3C  A5A 2 A17 A3C  A5B 2 A1C A3C  A5E 2 A2B A3C
    B5C 2 B21 B3C  B5D 2 B22 B3C  E33 2 E4D E32  EB3 2 ECD EB2  EDC 2 EAB E99  EDD 2 EAB EA1
    F43 2 F42 FB7  F4D 2 F4C FB7  F52 2 F51 FB7  F57 2 F56 FB7  F5C 2 F5B FB7  F69 2 F40 FB5
    F73 2 F71 F72  F75 2 F71 F74  F76 2 FB2 F80  F77 3 FB2 F71 F80  F78 2 FB3 F80
    F79 3 FB3 F71 F80  F81 2 F71 F80  F93 2 F92 FB7  F9D 2 F9C FB7  FA2 2 FA1 FB7  FA7 2 FA6 FB7
    FAC 2 FAB FB7  FB9 2 F90 FB5  1E9A 2 61 2BE  1F80 2 1F00 3B9  1F81 2 1F01 3B9  1F82 2 1F02 3B9
    1F83 2 1F03 3B9  1F84 2 1F04 3B9  1F85 2 1F05 3B9  1F86 2 1F06 3B9  1F87 2 1F07 3B9
    1F88 2 1F00 3B9  1F89 2 1F01 3B9  1F8A 2 1F02 3B9  1F8B 2 1F03 3B9  1F8C 2 1F04 3B9
    1F8D 2 1F05 3B9  1F8E 2 1F06 3B9  1F8F 2 1F07 3B9  1F90 2 1F20 3B9  1F91 2 1F21 3B9
    1F92 2 1F22 3B9  1F93 2 1F23 3B9  1F94 2 1F24 3B9  1F95 2 1F25 3B9  1F96 2 1F26 3B9
    1F97 2 1F27 3B9  1F98 2 1F20 3B9  1F99 2 1F21 3B9  1F9A 2 1F22 3B9  1F9B 2 1F23 3B9
    1F9C 2 1F24 3B9  1F9D 2 1F25 3B9  1F9E 2 1F26 3B9  1F9F 2 1F27 3B9  1FA0 2 1F60 3B9
    1FA1 2 1F61 3B9  1FA2 2 1F62 3B9  1FA3 2 1F63 3B9  1FA4 2 1F64 3B9  1FA5 2 1F65 3B9
    1FA6 2 1F66 3B9  1FA7 2 1F67 3B9  1FA8 2 1F60 3B9  1FA9 2 1F61 3B9  1FAA 2 1F62 3B9
    1FAB 2 1F63 3B9  1FAC 2 1F64 3B9  1FAD 2 1F65 3B9  1FAE 2 1F66 3B9  1FAF 2 1F67 3B9
    1FB2 2 1F70 3B9  1FB3 2 3B1 3B9  1FB4 2 3AC 3B9  1FB7 2 1FB6 3B9  1FBC 2 3B1 3B9  1FBD 2 20 313
    1FBF 2 20 313  1FC0 2 20 342  1FC1 3 20 308 342  1FC2 2 1F74 3B9  1FC3 2 3B7 3B9
    1FC4 2 3AE 3B9  1FC7 2 1FC6 3B9  1FCC 2 3B7 3B9  1FCD 3 20 313 300  1FCE 3 20 313 301
    1FCF 3 20 313 342  1FDD 3 20 314 300  1FDE 3 20 314 301  1FDF 3 20 314 342  1FED 3 20 308 300
    1FEE 3 20 308 301  1FF2 2 1F7C 3B9  1FF3 2 3C9 3B9  1FF4 2 3CE 3B9  1FF7 2 1FF6 3B9
    1FFC 2 3C9 3B9  1FFD 2 20 301  1FFE 2 20 314  2017 2 20 333  2033 2 2032 2032
    2034 3 2032 2032 2032  2036 2 2035 2035  2037 3 2035 2035 2035  203C 2 21 21  203E 2 20 305
    2047 2 3F 3F  2048 2 3F 21  2049 2 21 3F  2057 4 2032 2032 2032 2032  20A8 2 72 73
    2100 3 61 2F 63  2101 3 61 2F 73  2103 2 B0 63  2105 3 63 2F 6F  2106 3 63 2F 75  2109 2 B0 66
    2116 2 6E 6F  2120 2 73 6D  2121 3 74 65 6C  2122 2 74 6D  213B 3 66 61 78  2150 3 31 2044 37
    2151 3 31 2044 39  2152 4 31 2044 31 30  2153 3 31 2044 33  2154 3 32 2044 33
    2155 3 31 2044 35  2156 3 32 2044 35  2157 3 33 2044 35  2158 3 34 2044 35  2159 3 31 2044 36
    215A 3 35 2044 36  215B 3 31 2044 38  215C 3 33 2044 38  215D 3 35 2044 38  215E 3 37 2044 38
    215F 2 31 2044  2161 2 69 69  2162 3 69 69 69  2163 2 69 76  2165 2 76 69  2166 3 76 69 69
    2167 4 76 69 69 69  2168 2 69 78  216A 2 78 69  216B 3 78 69 69  2171 2 69 69  2172 3 69 69 69
    2173 2 69 76  2175 2 76 69  2176 3 76 69 69  2177 4 76 69 69 69  2178 2 69 78  217A 2 78 69
    217B 3 78 69 69  2189 3 30 2044 33  222C 2 222B 222B  222D 3 222B 222B 222B  222F 2 222E 222E
    2230 3 222E 222E 222E  2469 2 31 30  246A 2 31 31  246B 2 31 32  246C 2 31 33  246D 2 31 34
    246E 2 31 35  246F 2 31 36  2470 2 31 37  2471 2 31 38  2472 2 31 39  2473 2 32 30
    2474 3 28 31 29  2475 3 28 32 29  2476 3 28 33 29  2477 3 28 34 29  2478 3 28 35 29
    2479 3 28 36 29  247A 3 28 37 29  247B 3 28 38 29  247C 3 28 39 29  247D 4 28 31 30 29
    247E 4 28 31 31 29  247F 4 28 31 32 29  2480 4 28 31 33 29  2481 4 28 31 34 29
    2482 4 28 31 35 29  2483 4 28 31 36 29  2484 4 28 31 37 29  2485 4 28 31 38 29
    2486 4 28 31 39 29  2487 4 28 32 30 29  249C 3 28 61 29  249D 3 28 62 29  249E 3 28 63 29
    249F 3 28 64 29  24A0 3 28 65 29  24A1 3 28 66 29  24A2 3 28 67 29  24A3 3 28 68 29
    24A4 3 28 69 29  24A5 3 28 6A 29  24A6 3 28 6B 29  24A7 3 28 6C 29  24A8 3 28 6D 29
    24A9 3 28 6E 29  24AA 3 28 6F 29  24AB 3 28 70 29  24AC 3 28 71 29  24AD 3 28 72 29
    24AE 3 28 73 29  24AF 3 28 74 29  24B0 3 28 75 29  24B1 3 28 76 29  24B2 3 28 77 29
    24B3 3 28 78 29  24B4 3 28 79 29  24B5 3 28 7A 29  2A0C 4 222B 222B 222B 222B  2A74 3 3A 3A 3D
    2A75 2 3D 3D  2A76 3 3D 3D 3D  2ADC 2 2ADD 338  309B 2 20 3099  309C 2 20 309A
    309F 2 3088 308A  30FF 2 30B3 30C8  3200 3 28 1100 29  3201 3 28 1102 29  3202 3 28 1103 29
    3203 3 28 1105 29  3204 3 28 1106 29  3205 3 28 1107 29  3206 3 28 1109 29  3207 3 28 110B 29
    3208 3 28 110C 29  3209 3 28 110E 29  320A 3 28 110F 29  320B 3 28 1110 29  320C 3 28 1111 29
    320D 3 28 1112 29  320E 3 28 AC00 29  320F 3 28 B098 29  3210 3 28 B2E4 29  3211 3 28 B77C 29
    3212 3 28 B9C8 29  3213 3 28 BC14 29  3214 3 28 C0AC 29  3215 3 28 C544 29  3216 3 28 C790 29
    3217 3 28 CC28 29  3218 3 28 CE74 29  3219 3 28 D0C0 29  321A 3 28 D30C 29  321B 3 28 D558 29
    321C 3 28 C8FC 29  321D 4 28 C624 C804 29  321E 4 28 C624 D6C4 29  3220 3 28 4E00 29
    3221 3 28 4E8C 29  3222 3 28 4E09 29  3223 3 28 56DB 29  3224 3 28 4E94 29  3225 3 28 516D 29
    3226 3 28 4E03 29  3227 3 28 516B 29  3228 3 28 4E5D 29  3229 3 28 5341 29  322A 3 28 6708 29
    322B 3 28 706B 29  322C 3 28 6C34 29  322D 3 28 6728 29  322E 3 28 91D1 29  322F 3 28 571F 29
    3230 3 28 65E5 29  3231 3 28 682A 29  3232 3 28 6709 29  3233 3 28 793E 29  3234 3 28 540D 29
    3235 3 28 7279 29  3236 3 28 8CA1 29  3237 3 28 795D 29  3238 3 28 52B4 29  3239 3 28 4EE3 29
    323A 3 28 547C 29  323B 3 28 5B66 29  323C 3 28 76E3 29  323D 3 28 4F01 29  323E 3 28 8CC7 29
    323F 3 28 5354 29  3240 3 28 796D 29  3241 3 28 4F11 29  3242 3 28 81EA 29  3243 3 28 81F3 29
    3250 3 70 74 65  3251 2 32 31  3252 2 32 32  3253 2 32 33  3254 2 32 34  3255 2 32 35
    3256 2 32 36  3257 2 32 37  3258 2 32 38  3259 2 32 39  325A 2 33 30  325B 2 33 31
    325C 2 33 32  325D 2 33 33  325E 2 33 34  325F 2 33 35  327C 2 CC38 ACE0  327D 2 C8FC C758
    32B1 2 33 36  32B2 2 33 37  32B3 2 33 38  32B4 2 33 39  32B5 2 34 30  32B6 2 34 31
    32B7 2 34 32  32B8 2 34 33  32B9 2 34 34  32BA 2 34 35  32BB 2 34 36  32BC 2 34 37
    32BD 2 34 38  32BE 2 34 39  32BF 2 35 30  32C0 2 31 6708  32C1 2 32 6708  32C2 2 33 6708
    32C3 2 34 6708  32C4 2 35 6708  32C5 2 36 6708  32C6 2 37 6708  32C7 2 38 6708  32C8 2 39 6708
    32C9 3 31 30 6708  32CA 3 31 31 6708  32CB 3 31 32 6708  32CC 2 68 67  32CD 3 65 72 67
    32CE 2 65 76  32CF 3 6C 74 64  32FF 2 4EE4 548C  3300 4 30A2 30D1 30FC 30C8
    3301 4 30A2 30EB 30D5 30A1  3302 4 30A2 30F3 30DA 30A2  3303 3 30A2 30FC 30EB
    3304 4 30A4 30CB 30F3 30B0  3305 3 30A4 30F3 30C1  3306 3 30A6 30A9 30F3
    3307 5 30A8 30B9 30AF 30FC 30C9  3308 4 30A8 30FC 30AB 30FC  3309 3 30AA 30F3 30B9
    330A 3 30AA 30FC 30E0  330B 3 30AB 30A4 30EA  330C 4 30AB 30E9 30C3 30C8
    330D 4 30AB 30ED 30EA 30FC  330E 3 30AC 30ED 30F3  330F 3 30AC 30F3 30DE  3310 2 30AE 30AC
    3311 3 30AE 30CB 30FC  3312 4 30AD 30E5 30EA 30FC  3313 4 30AE 30EB 30C0 30FC  3314 2 30AD 30ED
    3315 5 30AD 30ED 30B0 30E9 30E0  3316 6 30AD 30ED 30E1 30FC 30C8 30EB
    3317 5 30AD 30ED 30EF 30C3 30C8  3318 3 30B0 30E9 30E0  3319 5 30B0 30E9 30E0 30C8 30F3
    331A 5 30AF 30EB 30BC 30A4 30ED  331B 4 30AF 30ED 30FC 30CD  331C 3 30B1 30FC 30B9
    331D 3 30B3 30EB 30CA  331E 3 30B3 30FC 30DD  331F 4 30B5 30A4 30AF 30EB
    3320 5 30B5 30F3 30C1 30FC 30E0  3321 4 30B7 30EA 30F3 30B0  3322 3 30BB 30F3 30C1
    3323 3 30BB 30F3 30C8  3324 3 30C0 30FC 30B9  3325 2 30C7 30B7  3326 2 30C9 30EB
    3327 2 30C8 30F3  3328 2 30CA 30CE  3329 3 30CE 30C3 30C8  332A 3 30CF 30A4 30C4
    332B 5 30D1 30FC 30BB 30F3 30C8  332C 3 30D1 30FC 30C4  332D 4 30D0 30FC 30EC 30EB
    332E 5 30D4 30A2 30B9 30C8 30EB  332F 3 30D4 30AF 30EB  3330 2 30D4 30B3  3331 2 30D3 30EB
    3332 5 30D5 30A1 30E9 30C3 30C9  3333 4 30D5 30A3 30FC 30C8  3334 5 30D6 30C3 30B7 30A7 30EB
    3335 3 30D5 30E9 30F3  3336 5 30D8 30AF 30BF 30FC 30EB  3337 2 30DA 30BD  3338 3 30DA 30CB 30D2
    3339 3 30D8 30EB 30C4  333A 3 30DA 30F3 30B9  333B 3 30DA 30FC 30B8  333C 3 30D9 30FC 30BF
    333D 4 30DD 30A4 30F3 30C8  333E 3 30DC 30EB 30C8  333F 2 30DB 30F3  3340 3 30DD 30F3 30C9
    3341 3 30DB 30FC 30EB  3342 3 30DB 30FC 30F3  3343 4 30DE 30A4 30AF 30ED  3344 3 30DE 30A4 30EB
    3345 3 30DE 30C3 30CF  3346 3 30DE 30EB 30AF  3347 5 30DE 30F3 30B7 30E7 30F3
    3348 4 30DF 30AF 30ED 30F3  3349 2 30DF 30EA  334A 5 30DF 30EA 30D0 30FC 30EB  334B 2 30E1 30AC
    334C 4 30E1 30AC 30C8 30F3  334D 4 30E1 30FC 30C8 30EB  334E 3 30E4 30FC 30C9
    334F 3 30E4 30FC 30EB  3350 3 30E6 30A2 30F3  3351 4 30EA 30C3 30C8 30EB  3352 2 30EA 30E9
    3353 3 30EB 30D4 30FC  3354 4 30EB 30FC 30D6 30EB  3355 2 30EC 30E0
    3356 5 30EC 30F3 30C8 30B2 30F3  3357 3 30EF 30C3 30C8  3358 2 30 70B9  3359 2 31 70B9
    335A 2 32 70B9  335B 2 33 70B9  335C 2 34 70B9  335D 2 35 70B9  335E 2 36 70B9  335F 2 37 70B9
    3360 2 38 70B9  3361 2 39 70B9  3362 3 31 30 70B9  3363 3 31 31 70B9  3364 3 31 32 70B9
    3365 3 31 33 70B9  3366 3 31 34 70B9  3367 3 31 35 70B9  3368 3 31 36 70B9  3369 3 31 37 70B9
    336A 3 31 38 70B9  336B 3 31 39 70B9  336C 3 32 30 70B9  336D 3 32 31 70B9  336E 3 32 32 70B9
    336F 3 32 33 70B9  3370 3 32 34 70B9  3371 3 68 70 61  3372 2 64 61  3373 2 61 75
    3374 3 62 61 72  3375 2 6F 76  3376 2 70 63  3377 2 64 6D  3378 3 64 6D 32  3379 3 64 6D 33
    337A 2 69 75  337B 2 5E73 6210  337C 2 662D 548C  337D 2 5927 6B63  337E 2 660E 6CBB
    337F 4 682A 5F0F 4F1A 793E  3380 2 70 61  3381 2 6E 61  3382 2 3BC 61  3383 2 6D 61
    3384 2 6B 61  3385 2 6B 62  3386 2 6D 62  3387 2 67 62  3388 3 63 61 6C  3389 4 6B 63 61 6C
    338A 2 70 66  338B 2 6E 66  338C 2 3BC 66  338D 2 3BC 67  338E 2 6D 67  338F 2 6B 67
    3390 2 68 7A  3391 3 6B 68 7A  3392 3 6D 68 7A  3393 3 67 68 7A  3394 3 74 68 7A  3395 2 3BC 6C
    3396 2 6D 6C  3397 2 64 6C  3398 2 6B 6C  3399 2 66 6D  339A 2 6E 6D  339B 2 3BC 6D
    339C 2 6D 6D  339D 2 63 6D  339E 2 6B 6D  339F 3 6D 6D 32  33A0 3 63 6D 32  33A1 2 6D 32
    33A2 3 6B 6D 32  33A3 3 6D 6D 33  33A4 3 63 6D 33  33A5 2 6D 33  33A6 3 6B 6D 33
    33A7 3 6D 2215 73  33A8 4 6D 2215 73 32  33A9 2 70 61  33AA 3 6B 70 61  33AB 3 6D 70 61
    33AC 3 67 70 61  33AD 3 72 61 64  33AE 5 72 61 64 2215 73  33AF 6 72 61 64 2215 73 32
    33B0 2 70 73  33B1 2 6E 73  33B2 2 3BC 73  33B3 2 6D 73  33B4 2 70 76  33B5 2 6E 76
    33B6 2 3BC 76  33B7 2 6D 76  33B8 2 6B 76  33B9 2 6D 76  33BA 2 70 77  33BB 2 6E 77
    33BC 2 3BC 77  33BD 2 6D 77  33BE 2 6B 77  33BF 2 6D 77  33C0 2 6B 3C9  33C1 2 6D 3C9
    33C3 2 62 71  33C4 2 63 63  33C5 2 63 64  33C6 4 63 2215 6B 67  33C8 2 64 62  33C9 2 67 79
    33CA 2 68 61  33CB 2 68 70  33CC 2 69 6E  33CD 2 6B 6B  33CE 2 6B 6D  33CF 2 6B 74
    33D0 2 6C 6D  33D1 2 6C 6E  33D2 3 6C 6F 67  33D3 2 6C 78  33D4 2 6D 62  33D5 3 6D 69 6C
    33D6 3 6D 6F 6C  33D7 2 70 68  33D9 3 70 70 6D  33DA 2 70 72  33DB 2 73 72  33DC 2 73 76
    33DD 2 77 62  33DE 3 76 2215 6D  33DF 3 61 2215 6D  33E0 2 31 65E5  33E1 2 32 65E5
    33E2 2 33 65E5  33E3 2 34 65E5  33E4 2 35 65E5  33E5 2 36 65E5  33E6 2 37 65E5  33E7 2 38 65E5
    33E8 2 39 65E5  33E9 3 31 30 65E5  33EA 3 31 31 65E5  33EB 3 31 32 65E5  33EC 3 31 33 65E5
    33ED 3 31 34 65E5  33EE 3 31 35 65E5  33EF 3 31 36 65E5  33F0 3 31 37 65E5  33F1 3 31 38 65E5
    33F2 3 31 39 65E5  33F3 3 32 30 65E5  33F4 3 32 31 65E5  33F5 3 32 32 65E5  33F6 3 32 33 65E5
    33F7 3 32 34 65E5  33F8 3 32 35 65E5  33F9 3 32 36 65E5  33FA 3 32 37 65E5  33FB 3 32 38 65E5
    33FC 3 32 39 65E5  33FD 3 33 30 65E5  33FE 3 33 31 65E5  33FF 3 67 61 6C  FB00 2 66 66
    FB01 2 66 69  FB02 2 66 6C  FB03 3 66 66 69  FB04 3 66 66 6C  FB05 2 73 74  FB06 2 73 74
    FB13 2 574 576  FB14 2 574 565  FB15 2 574 56B  FB16 2 57E 576  FB17 2 574 56D  FB1D 2 5D9 5B4
    FB1F 2 5F2 5B7  FB2A 2 5E9 5C1  FB2B 2 5E9 5C2  FB2C 3 5E9 5BC 5C1  FB2D 3 5E9 5BC 5C2
    FB2E 2 5D0 5B7  FB2F 2 5D0 5B8  FB30 2 5D0 5BC  FB31 2 5D1 5BC  FB32 2 5D2 5BC  FB33 2 5D3 5BC
    FB34 2 5D4 5BC  FB35 2 5D5 5BC  FB36 2 5D6 5BC  FB38 2 5D8 5BC  FB39 2 5D9 5BC  FB3A 2 5DA 5BC
    FB3B 2 5DB 5BC  FB3C 2 5DC 5BC  FB3E 2 5DE 5BC  FB40 2 5E0 5BC  FB41 2 5E1 5BC  FB43 2 5E3 5BC
    FB44 2 5E4 5BC  FB46 2 5E6 5BC  FB47 2 5E7 5BC  FB48 2 5E8 5BC  FB49 2 5E9 5BC  FB4A 2 5EA 5BC
    FB4B 2 5D5 5B9  FB4C 2 5D1 5BF  FB4D 2 5DB 5BF  FB4E 2 5E4 5BF  FB4F 2 5D0 5DC  FBDD 2 6C7 674
    FBEA 2 626 627  FBEB 2 626 627  FBEC 2 626 6D5  FBED 2 626 6D5  FBEE 2 626 648  FBEF 2 626 648
    FBF0 2 626 6C7  FBF1 2 626 6C7  FBF2 2 626 6C6  FBF3 2 626 6C6  FBF4 2 626 6C8  FBF5 2 626 6C8
    FBF6 2 626 6D0  FBF7 2 626 6D0  FBF8 2 626 6D0  FBF9 2 626 649  FBFA 2 626 649  FBFB 2 626 649
    FC00 2 626 62C  FC01 2 626 62D  FC02 2 626 645  FC03 2 626 649  FC04 2 626 64A  FC05 2 628 62C
    FC06 2 628 62D  FC07 2 628 62E  FC08 2 628 645  FC09 2 628 649  FC0A 2 628 64A  FC0B 2 62A 62C
    FC0C 2 62A 62D  FC0D 2 62A 62E  FC0E 2 62A 645  FC0F 2 62A 649  FC10 2 62A 64A  FC11 2 62B 62C
    FC12 2 62B 645  FC13 2 62B 649  FC14 2 62B 64A  FC15 2 62C 62D  FC16 2 62C 645  FC17 2 62D 62C
    FC18 2 62D 645  FC19 2 62E 62C  FC1A 2 62E 62D  FC1B 2 62E 645  FC1C 2 633 62C  FC1D 2 633 62D
    FC1E 2 633 62E  FC1F 2 633 645  FC20 2 635 62D  FC21 2 635 645  FC22 2 636 62C  FC23 2 636 62D
    FC24 2 636 62E  FC25 2 636 645  FC26 2 637 62D  FC27 2 637 645  FC28 2 638 645  FC29 2 639 62C
    FC2A 2 639 645  FC2B 2 63A 62C  FC2C 2 63A 645  FC2D 2 641 62C  FC2E 2 641 62D  FC2F 2 641 62E
    FC30 2 641 645  FC31 2 641 649  FC32 2 641 64A  FC33 2 642 62D  FC34 2 642 645  FC35 2 642 649
    FC36 2 642 64A  FC37 2 643 627  FC38 2 643 62C  FC39 2 643 62D  FC3A 2 643 62E  FC3B 2 643 644
    FC3C 2 643 645  FC3D 2 643 649  FC3E 2 643 64A  FC3F 2 644 62C  FC40 2 644 62D  FC41 2 644 62E
    FC42 2 644 645  FC43 2 644 649  FC44 2 644 64A  FC45 2 645 62C  FC46 2 645 62D  FC47 2 645 62E
    FC48 2 645 645  FC49 2 645 649  FC4A 2 645 64A  FC4B 2 646 62C  FC4C 2 646 62D  FC4D 2 646 62E
    FC4E 2 646 645  FC4F 2 646 649  FC50 2 646 64A  FC51 2 647 62C  FC52 2 647 645  FC53 2 647 649
    FC54 2 647 64A  FC55 2 64A 62C  FC56 2 64A 62D  FC57 2 64A 62E  FC58 2 64A 645  FC59 2 64A 649
    FC5A 2 64A 64A  FC5B 2 630 670  FC5C 2 631 670  FC5D 2 649 670  FC5E 3 20 64C 651
    FC5F 3 20 64D 651  FC60 3 20 64E 651  FC61 3 20 64F 651  FC62 3 20 650 651  FC63 3 20 651 670
    FC64 2 626 631  FC65 2 626 632  FC66 2 626 645  FC67 2 626 646  FC68 2 626 649  FC69 2 626 64A
    FC6A 2 628 631  FC6B 2 628 632  FC6C 2 628 645  FC6D 2 628 646  FC6E 2 628 649  FC6F 2 628 64A
    FC70 2 62A 631  FC71 2 62A 632  FC72 2 62A 645  FC73 2 62A 646  FC74 2 62A 649  FC75 2 62A 64A
    FC76 2 62B 631  FC77 2 62B 632  FC78 2 62B 645  FC79 2 62B 646  FC7A 2 62B 649  FC7B 2 62B 64A
    FC7C 2 641 649  FC7D 2 641 64A  FC7E 2 642 649  FC7F 2 642 64A  FC80 2 643 627  FC81 2 643 644
    FC82 2 643 645  FC83 2 643 649  FC84 2 643 64A  FC85 2 644 645  FC86 2 644 649  FC87 2 644 64A
    FC88 2 645 627  FC89 2 645 645  FC8A 2 646 631  FC8B 2 646 632  FC8C 2 646 645  FC8D 2 646 646
    FC8E 2 646 649  FC8F 2 646 64A  FC90 2 649 670  FC91 2 64A 631  FC92 2 64A 632  FC93 2 64A 645
    FC94 2 64A 646  FC95 2 64A 649  FC96 2 64A 64A  FC97 2 626 62C  FC98 2 626 62D  FC99 2 626 62E
    FC9A 2 626 645  FC9B 2 626 647  FC9C 2 628 62C  FC9D 2 628 62D  FC9E 2 628 62E  FC9F 2 628 645
    FCA0 2 628 647  FCA1 2 62A 62C  FCA2 2 62A 62D  FCA3 2 62A 62E  FCA4 2 62A 645  FCA5 2 62A 647
    FCA6 2 62B 645  FCA7 2 62C 62D  FCA8 2 62C 645  FCA9 2 62D 62C  FCAA 2 62D 645  FCAB 2 62E 62C
    FCAC 2 62E 645  FCAD 2 633 62C  FCAE 2 633 62D  FCAF 2 633 62E  FCB0 2 633 645  FCB1 2 635 62D
    FCB2 2 635 62E  FCB3 2 635 645  FCB4 2 636 62C  FCB5 2 636 62D  FCB6 2 636 62E  FCB7 2 636 645
    FCB8 2 637 62D  FCB9 2 638 645  FCBA 2 639 62C  FCBB 2 639 645  FCBC 2 63A 62C  FCBD 2 63A 645
    FCBE 2 641 62C  FCBF 2 641 62D  FCC0 2 641 62E  FCC1 2 641 645  FCC2 2 642 62D  FCC3 2 642 645
    FCC4 2 643 62C  FCC5 2 643 62D  FCC6 2 643 62E  FCC7 2 643 644  FCC8 2 643 645  FCC9 2 644 62C
    FCCA 2 644 62D  FCCB 2 644 62E  FCCC 2 644 645  FCCD 2 644 647  FCCE 2 645 62C  FCCF 2 645 62D
    FCD0 2 645 62E  FCD1 2 645 645  FCD2 2 646 62C  FCD3 2 646 62D  FCD4 2 646 62E  FCD5 2 646 645
    FCD6 2 646 647  FCD7 2 647 62C  FCD8 2 647 645  FCD9 2 647 670  FCDA 2 64A 62C  FCDB 2 64A 62D
    FCDC 2 64A 62E  FCDD 2 64A 645  FCDE 2 64A 647  FCDF 2 626 645  FCE0 2 626 647  FCE1 2 628 645
    FCE2 2 628 647  FCE3 2 62A 645  FCE4 2 62A 647  FCE5 2 62B 645  FCE6 2 62B 647  FCE7 2 633 645
    FCE8 2 633 647  FCE9 2 634 645  FCEA 2 634 647  FCEB 2 643 644  FCEC 2 643 645  FCED 2 644 645
    FCEE 2 646 645  FCEF 2 646 647  FCF0 2 64A 645  FCF1 2 64A 647  FCF2 3 640 64E 651
    FCF3 3 640 64F 651  FCF4 3 640 650 651  FCF5 2 637 649  FCF6 2 637 64A  FCF7 2 639 649
    FCF8 2 639 64A  FCF9 2 63A 649  FCFA 2 63A 64A  FCFB 2 633 649  FCFC 2 633 64A  FCFD 2 634 649
    FCFE 2 634 64A  FCFF 2 62D 649  FD00 2 62D 64A  FD01 2 62C 649  FD02 2 62C 64A  FD03 2 62E 649
    FD04 2 62E 64A  FD05 2 635 649  FD06 2 635 64A  FD07 2 636 649  FD08 2 636 64A  FD09 2 634 62C
    FD0A 2 634 62D  FD0B 2 634 62E  FD0C 2 634 645  FD0D 2 634 631  FD0E 2 633 631  FD0F 2 635 631
    FD10 2 636 631  FD11 2 637 649  FD12 2 637 64A  FD13 2 639 649  FD14 2 639 64A  FD15 2 63A 649
    FD16 2 63A 64A  FD17 2 633 649  FD18 2 633 64A  FD19 2 634 649  FD1A 2 634 64A  FD1B 2 62D 649
    FD1C 2 62D 64A  FD1D 2 62C 649  FD1E 2 62C 64A  FD1F 2 62E 649  FD20 2 62E 64A  FD21 2 635 649
    FD22 2 635 64A  FD23 2 636 649  FD24 2 636 64A  FD25 2 634 62C  FD26 2 634 62D  FD27 2 634 62E
    FD28 2 634 645  FD29 2 634 631  FD2A 2 633 631  FD2B 2 635 631  FD2C 2 636 631  FD2D 2 634 62C
    FD2E 2 634 62D  FD2F 2 634 62E  FD30 2 634 645  FD31 2 633 647  FD32 2 634 647  FD33 2 637 645
    FD34 2 633 62C  FD35 2 633 62D  FD36 2 633 62E  FD37 2 634 62C  FD38 2 634 62D  FD39 2 634 62E
    FD3A 2 637 645  FD3B 2 638 645  FD3C 2 627 64B  FD3D 2 627 64B  FD50 3 62A 62C 645
    FD51 3 62A 62D 62C  FD52 3 62A 62D 62C  FD53 3 62A 62D 645  FD54 3 62A 62E 645
    FD55 3 62A 645 62C  FD56 3 62A 645 62D  FD57 3 62A 645 62E  FD58 3 62C 645 62D
    FD59 3 62C 645 62D  FD5A 3 62D 645 64A  FD5B 3 62D 645 649  FD5C 3 633 62D 62C
    FD5D 3 633 62C 62D  FD5E 3 633 62C 649  FD5F 3 633 645 62D  FD60 3 633 645 62D
    FD61 3 633 645 62C  FD62 3 633 645 645  FD63 3 633 645 645  FD64 3 635 62D 62D
    FD65 3 635 62D 62D  FD66 3 635 645 645  FD67 3 634 62D 645  FD68 3 634 62D 645
    FD69 3 634 62C 64A  FD6A 3 634 645 62E  FD6B 3 634 645 62E  FD6C 3 634 645 645
    FD6D 3 634 645 645  FD6E 3 636 62D 649  FD6F 3 636 62E 645  FD70 3 636 62E 645
    FD71 3 637 645 62D  FD72 3 637 645 62D  FD73 3 637 645 645  FD74 3 637 645 64A
    FD75 3 639 62C 645  FD76 3 639 645 645  FD77 3 639 645 645  FD78 3 639 645 649
    FD79 3 63A 645 645  FD7A 3 63A 645 64A  FD7B 3 63A 645 649  FD7C 3 641 62E 645
    FD7D 3 641 62E 645  FD7E 3 642 645 62D  FD7F 3 642 645 645  FD80 3 644 62D 645
    FD81 3 644 62D 64A  FD82 3 644 62D 649  FD83 3 644 62C 62C  FD84 3 644 62C 62C
    FD85 3 644 62E 645  FD86 3 644 62E 645  FD87 3 644 645 62D  FD88 3 644 645 62D
    FD89 3 645 62D 62C  FD8A 3 645 62D 645  FD8B 3 645 62D 64A  FD8C 3 645 62C 62D
    FD8D 3 645 62C 645  FD8E 3 645 62E 62C  FD8F 3 645 62E 645  FD92 3 645 62C 62E
    FD93 3 647 645 62C  FD94 3 647 645 645  FD95 3 646 62D 645  FD96 3 646 62D 649
    FD97 3 646 62C 645  FD98 3 646 62C 645  FD99 3 646 62C 649  FD9A 3 646 645 64A
    FD9B 3 646 645 649  FD9C 3 64A 645 645  FD9D 3 64A 645 645  FD9E 3 628 62E 64A
    FD9F 3 62A 62C 64A  FDA0 3 62A 62C 649  FDA1 3 62A 62E 64A  FDA2 3 62A 62E 649
    FDA3 3 62A 645 64A  FDA4 3 62A 645 649  FDA5 3 62C 645 64A  FDA6 3 62C 62D 649
    FDA7 3 62C 645 649  FDA8 3 633 62E 649  FDA9 3 635 62D 64A  FDAA 3 634 62D 64A
    FDAB 3 636 62D 64A  FDAC 3 644 62C 64A  FDAD 3 644 645 64A  FDAE 3 64A 62D 64A
    FDAF 3 64A 62C 64A  FDB0 3 64A 645 64A  FDB1 3 645 645 64A  FDB2 3 642 645 64A
    FDB3 3 646 62D 64A  FDB4 3 642 645 62D  FDB5 3 644 62D 645  FDB6 3 639 645 64A
    FDB7 3 643 645 64A  FDB8 3 646 62C 62D  FDB9 3 645 62E 64A  FDBA 3 644 62C 645
    FDBB 3 643 645 645  FDBC 3 644 62C 645  FDBD 3 646 62C 62D  FDBE 3 62C 62D 64A
    FDBF 3 62D 62C 64A  FDC0 3 645 62C 64A  FDC1 3 641 645 64A  FDC2 3 628 62D 64A
    FDC3 3 643 645 645  FDC4 3 639 62C 645  FDC5 3 635 645 645  FDC6 3 633 62E 64A
    FDC7 3 646 62C 64A  FDF0 3 635 644 6D2  FDF1 3 642 644 6D2  FDF2 4 627 644 644 647
    FDF3 4 627 643 628 631  FDF4 4 645 62D 645 62F  FDF5 4 635 644 639 645  FDF6 4 631 633 648 644
    FDF7 4 639 644 64A 647  FDF8 4 648 633 644 645  FDF9 3 635 644 649
    FDFA 12 635 644 649 20 627 644 644 647 20 639 644 64A 647 20 648 633 644 645
    FDFB 8 62C 644 20 62C 644 627 644 647  FDFC 4 631 6CC 627 644  FE49 2 20 305  FE4A 2 20 305
    FE4B 2 20 305  FE4C 2 20 305  FE70 2 20 64B  FE71 2 640 64B  FE72 2 20 64C  FE74 2 20 64D
    FE76 2 20 64E  FE77 2 640 64E  FE78 2 20 64F  FE79 2 640 64F  FE7A 2 20 650  FE7B 2 640 650
    FE7C 2 20 651  FE7D 2 640 651  FE7E 2 20 652  FE7F 2 640 652  FEF5 2 644 622  FEF6 2 644 622
    FEF7 2 644 623  FEF8 2 644 623  FEF9 2 644 625  FEFA 2 644 625  FEFB 2 644 627  FEFC 2 644 627
    FFE3 2 20 304  1D15E 2 1D157 1D165  1D15F 2 1D158 1D165  1D160 3 1D158 1D165 1D16E
    1D161 3 1D158 1D165 1D16F  1D162 3 1D158 1D165 1D170  1D163 3 1D158 1D165 1D171
    1D164 3 1D158 1D165 1D172  1D1BB 2 1D1B9 1D165  1D1BC 2 1D1BA 1D165  1D1BD 3 1D1B9 1D165 1D16E
    1D1BE 3 1D1BA 1D165 1D16E  1D1BF 3 1D1B9 1D165 1D16F  1D1C0 3 1D1BA 1D165 1D16F  1F101 2 30 2C
    1F102 2 31 2C  1F103 2 32 2C  1F104 2 33 2C  1F105 2 34 2C  1F106 2 35 2C  1F107 2 36 2C
    1F108 2 37 2C  1F109 2 38 2C  1F10A 2 39 2C  1F110 3 28 61 29  1F111 3 28 62 29
    1F112 3 28 63 29  1F113 3 28 64 29  1F114 3 28 65 29  1F115 3 28 66 29  1F116 3 28 67 29
    1F117 3 28 68 29  1F118 3 28 69 29  1F119 3 28 6A 29  1F11A 3 28 6B 29  1F11B 3 28 6C 29
    1F11C 3 28 6D 29  1F11D 3 28 6E 29  1F11E 3 28 6F 29  1F11F 3 28 70 29  1F120 3 28 71 29
    1F121 3 28 72 29  1F122 3 28 73 29  1F123 3 28 74 29  1F124 3 28 75 29  1F125 3 28 76 29
    1F126 3 28 77 29  1F127 3 28 78 29  1F128 3 28 79 29  1F129 3 28 7A 29  1F12A 3 3014 73 3015
    1F12D 2 63 64  1F12E 2 77 7A  1F14A 2 68 76  1F14B 2 6D 76  1F14C 2 73 64  1F14D 2 73 73
    1F14E 3 70 70 76  1F14F 2 77 63  1F16A 2 6D 63  1F16B 2 6D 64  1F16C 2 6D 72  1F190 2 64 6A
    1F200 2 307B 304B  1F201 2 30B3 30B3  1F240 3 3014 672C 3015  1F241 3 3014 4E09 3015
    1F242 3 3014 4E8C 3015  1F243 3 3014 5B89 3015  1F244 3 3014 70B9 3015  1F245 3 3014 6253 3015
    1F246 3 3014 76D7 3015  1F247 3 3014 52DD 3015  1F248 3 3014 6557 3015"

/-- The ranges of characters that may not be used. -/
def disallowed : List (Nat × Nat) :=
  Text.CodePoints.ranges disallowedTable

/-- The ranges of characters that count for nothing. -/
def ignored : List (Nat × Nat) :=
  Text.CodePoints.ranges ignoredTable

/-- The ranges of characters that stand for others at the same distance. -/
def shifts : List (Nat × Nat × Nat × Nat) :=
  Text.CodePoints.quadruples (Text.CodePoints.numbers shiftTable)

/-- The runs of characters that stand for one other each. -/
def replacements : List (Nat × List Nat) :=
  Text.CodePoints.lists (Text.CodePoints.numbers replacementTable)

/-- The characters that stand for several. -/
def expansions : List (Nat × List Nat) :=
  Text.CodePoints.lists (Text.CodePoints.numbers expansionTable)

/-- What a character stands for by its distance from another. -/
def shift? (n : Nat) : Option Nat :=
  (shifts.find? fun (first, last, step, _) =>
    first ≤ n && n ≤ last && (n - first) % step == 0).map fun (first, _, _, target) =>
      target + (n - first)

/-- What a character stands for by its place in a run. -/
def replacement? (n : Nat) : Option Nat :=
  replacements.findSome? fun (first, targets) =>
    if first ≤ n then targets[n - first]? else none

/-- The characters that a code point stands for, other than itself. -/
def stands? (n : Nat) : Option (List Nat) :=
  match shift? n with
  | some target => some [target]
  | none =>
    match replacement? n with
    | some target => some [target]
    | none => expansions.lookup n

/-- Whether a character may stand in a domain that has been read. -/
def isPlain (c : Char) : Bool :=
  !Text.CodePoints.inRanges disallowed c.toNat && !Text.CodePoints.inRanges ignored c.toNat &&
    (stands? c.toNat).isNone

/-- How a character is read, if it may be used. -/
def readChar? (c : Char) : Option (List Char) :=
  if Text.CodePoints.inRanges disallowed c.toNat then none
  else if Text.CodePoints.inRanges ignored c.toNat then some []
  else
    match stands? c.toNat with
    | some targets => some (targets.map Char.ofNat)
    | none => some [c]

/-- How characters are read, if all may be used. -/
def readChars? : List Char → Option (List Char)
  | [] => some []
  | c :: rest => do
    let here ← readChar? c
    let rest ← readChars? rest
    return here ++ rest

end Domain
end WebSocket
