import Polyvoice.Unicode.CanonicalDecomposition

/-!
# Compatibility decomposition

The full compatibility decomposition of every character for which it differs from the canonical
one, blanks apart. The rows follow Unicode 18.0: they are those of 17.0, which no later version
changes, and of the letters that 18.0 adds, U+0558, U+058B and U+058C, U+209D to U+209F, U+107BB,
U+1B123 to U+1B126, U+1D6A6, U+1DFD0, U+1DFD8, U+1DFE4, U+1DFF1 and U+1DFFF.
-/

namespace Polyvoice.Unicode

/-- Rows of the form `first count image…`. -/
def compatibilityDecompositions : Spreads := .readCounted "
A8 1 20 308;AA 1 61;AF 1 20 304;B2 2 32;B4 1 20 301;B5 1 3BC;B8 1 20 327;B9 1 31;BA 1 6F
BC 1 31 2044 34;BD 1 31 2044 32;BE 1 33 2044 34;132 1 49 4A;133 1 69 6A;13F 1 4C B7;140 1 6C B7
149 1 2BC 6E;17F 1 73;1C4 1 44 5A 30C;1C5 1 44 7A 30C;1C6 1 64 7A 30C;1C7 1 4C 4A;1C8 1 4C 6A
1C9 1 6C 6A;1CA 1 4E 4A;1CB 1 4E 6A;1CC 1 6E 6A;1F1 1 44 5A;1F2 1 44 7A;1F3 1 64 7A;2B0 1 68
2B1 1 266;2B2 1 6A;2B3 1 72;2B4 1 279;2B5 1 27B;2B6 1 281;2B7 1 77;2B8 1 79;2D8 1 20 306
2D9 1 20 307;2DA 1 20 30A;2DB 1 20 328;2DC 1 20 303;2DD 1 20 30B;2E0 1 263;2E1 1 6C;2E2 1 73
2E3 1 78;2E4 1 295;37A 1 20 345;384 1 20 301;385 1 20 308 301;3D0 1 3B2;3D1 1 3B8;3D2 1 3A5
3D3 1 3A5 301;3D4 1 3A5 308;3D5 1 3C6;3D6 1 3C0;3F0 1 3BA;3F1 2 3C1;3F4 1 398;3F5 1 3B5;3F9 1 3A3
558 1 567;587 1 565 582;58B 1 56B;58C 1 585;675 1 627 674;676 1 648 674;677 1 6C7 674
678 1 64A 674;E33 1 E4D E32;EB3 1 ECD EB2;EDC 1 EAB E99;EDD 1 EAB EA1;F0C 1 F0B;F77 1 FB2 F71 F80
F79 1 FB3 F71 F80;10FC 1 10DC;1D2C 1 41;1D2D 1 C6;1D2E 1 42;1D30 2 44;1D32 1 18E;1D33 8 47
1D3C 1 4F;1D3D 1 222;1D3E 1 50;1D3F 1 52;1D40 2 54;1D42 1 57;1D43 1 61;1D44 2 250;1D46 1 1D02
1D47 1 62;1D48 2 64;1D4A 1 259;1D4B 2 25B;1D4D 1 67;1D4F 1 6B;1D50 1 6D;1D51 1 14B;1D52 1 6F
1D53 1 254;1D54 2 1D16;1D56 1 70;1D57 2 74;1D59 1 1D1D;1D5A 1 26F;1D5B 1 76;1D5C 1 1D25;1D5D 3 3B2
1D60 2 3C6;1D62 1 69;1D63 1 72;1D64 2 75;1D66 2 3B2;1D68 1 3C1;1D69 2 3C6;1D78 1 43D;1D9B 1 252
1D9C 1 63;1D9D 1 255;1D9E 1 F0;1D9F 1 25C;1DA0 1 66;1DA1 1 25F;1DA2 1 261;1DA3 1 265;1DA4 3 268
1DA7 1 1D7B;1DA8 1 29D;1DA9 1 26D;1DAA 1 1D85;1DAB 1 29F;1DAC 1 271;1DAD 1 270;1DAE 4 272
1DB2 1 278;1DB3 2 282;1DB5 1 1AB;1DB6 2 289;1DB8 1 1D1C;1DB9 2 28B;1DBB 1 7A;1DBC 3 290;1DBF 1 3B8
1E9A 1 61 2BE;1E9B 1 73 307;1FBD 1 20 313;1FBF 1 20 313;1FC0 1 20 342;1FC1 1 20 308 342
1FCD 1 20 313 300;1FCE 1 20 313 301;1FCF 1 20 313 342;1FDD 1 20 314 300;1FDE 1 20 314 301
1FDF 1 20 314 342;1FED 1 20 308 300;1FEE 1 20 308 301;1FFD 1 20 301;1FFE 1 20 314
2011 1 2010;2017 1 20 333;2024 1 2E;2025 1 2E 2E;2026 1 2E 2E 2E
2033 1 2032 2032;2034 1 2032 2032 2032;2036 1 2035 2035;2037 1 2035 2035 2035;203C 1 21 21
203E 1 20 305;2047 1 3F 3F;2048 1 3F 21;2049 1 21 3F;2057 1 2032 2032 2032 2032
2070 1 30;2071 1 69;2074 6 34;207A 1 2B;207B 1 2212;207C 1 3D;207D 2 28;207F 1 6E;2080 A 30
208A 1 2B;208B 1 2212;208C 1 3D;208D 2 28;2090 1 61;2091 1 65;2092 1 6F;2093 1 78;2094 1 259
2095 1 68;2096 4 6B;209A 1 70;209B 2 73;209D 1 77;209E 2 79;20A8 1 52 73;2100 1 61 2F 63
2101 1 61 2F 73;2102 1 43;2103 1 B0 43;2105 1 63 2F 6F;2106 1 63 2F 75;2107 1 190;2109 1 B0 46
210A 1 67;210B 1 48;210C 1 48;210D 1 48;210E 1 68;210F 1 127;2110 1 49;2111 1 49;2112 1 4C
2113 1 6C;2115 1 4E;2116 1 4E 6F;2119 3 50;211C 1 52;211D 1 52;2120 1 53 4D;2121 1 54 45 4C
2122 1 54 4D;2124 1 5A;2128 1 5A;212C 2 42;212F 1 65;2130 2 45;2133 1 4D;2134 1 6F;2135 4 5D0
2139 1 69;213B 1 46 41 58;213C 1 3C0;213D 1 3B3;213E 1 393;213F 1 3A0;2140 1 2211;2145 1 44
2146 2 64;2148 2 69;2150 1 31 2044 37;2151 1 31 2044 39;2152 1 31 2044 31 30;2153 1 31 2044 33
2154 1 32 2044 33;2155 1 31 2044 35;2156 1 32 2044 35;2157 1 33 2044 35;2158 1 34 2044 35
2159 1 31 2044 36;215A 1 35 2044 36;215B 1 31 2044 38;215C 1 33 2044 38;215D 1 35 2044 38
215E 1 37 2044 38;215F 1 31 2044;2160 1 49;2161 1 49 49;2162 1 49 49 49;2163 1 49 56;2164 1 56
2165 1 56 49;2166 1 56 49 49;2167 1 56 49 49 49;2168 1 49 58;2169 1 58;216A 1 58 49
216B 1 58 49 49;216C 1 4C;216D 2 43;216F 1 4D;2170 1 69;2171 1 69 69;2172 1 69 69 69;2173 1 69 76
2174 1 76;2175 1 76 69;2176 1 76 69 69;2177 1 76 69 69 69;2178 1 69 78;2179 1 78;217A 1 78 69
217B 1 78 69 69;217C 1 6C;217D 2 63;217F 1 6D;2189 1 30 2044 33;222C 1 222B 222B
222D 1 222B 222B 222B;222F 1 222E 222E;2230 1 222E 222E 222E;2460 9 31;2469 1 31 30;246A 1 31 31
246B 1 31 32;246C 1 31 33;246D 1 31 34;246E 1 31 35;246F 1 31 36;2470 1 31 37;2471 1 31 38
2472 1 31 39;2473 1 32 30;2474 1 28 31 29;2475 1 28 32 29;2476 1 28 33 29;2477 1 28 34 29
2478 1 28 35 29;2479 1 28 36 29;247A 1 28 37 29;247B 1 28 38 29;247C 1 28 39 29;247D 1 28 31 30 29
247E 1 28 31 31 29;247F 1 28 31 32 29;2480 1 28 31 33 29;2481 1 28 31 34 29;2482 1 28 31 35 29
2483 1 28 31 36 29;2484 1 28 31 37 29;2485 1 28 31 38 29;2486 1 28 31 39 29;2487 1 28 32 30 29
2488 1 31 2E;2489 1 32 2E;248A 1 33 2E;248B 1 34 2E;248C 1 35 2E;248D 1 36 2E;248E 1 37 2E
248F 1 38 2E;2490 1 39 2E;2491 1 31 30 2E;2492 1 31 31 2E;2493 1 31 32 2E;2494 1 31 33 2E
2495 1 31 34 2E;2496 1 31 35 2E;2497 1 31 36 2E;2498 1 31 37 2E;2499 1 31 38 2E;249A 1 31 39 2E
249B 1 32 30 2E;249C 1 28 61 29;249D 1 28 62 29;249E 1 28 63 29;249F 1 28 64 29;24A0 1 28 65 29
24A1 1 28 66 29;24A2 1 28 67 29;24A3 1 28 68 29;24A4 1 28 69 29;24A5 1 28 6A 29;24A6 1 28 6B 29
24A7 1 28 6C 29;24A8 1 28 6D 29;24A9 1 28 6E 29;24AA 1 28 6F 29;24AB 1 28 70 29;24AC 1 28 71 29
24AD 1 28 72 29;24AE 1 28 73 29;24AF 1 28 74 29;24B0 1 28 75 29;24B1 1 28 76 29;24B2 1 28 77 29
24B3 1 28 78 29;24B4 1 28 79 29;24B5 1 28 7A 29;24B6 1A 41;24D0 1A 61;24EA 1 30
2A0C 1 222B 222B 222B 222B;2A74 1 3A 3A 3D;2A75 1 3D 3D;2A76 1 3D 3D 3D;2C7C 1 6A;2C7D 1 56
2D6F 1 2D61;2E9F 1 6BCD;2EF3 1 9F9F;2F00 1 4E00;2F01 1 4E28;2F02 1 4E36;2F03 1 4E3F;2F04 1 4E59
2F05 1 4E85;2F06 1 4E8C;2F07 1 4EA0;2F08 1 4EBA;2F09 1 513F;2F0A 1 5165;2F0B 1 516B;2F0C 1 5182
2F0D 1 5196;2F0E 1 51AB;2F0F 1 51E0;2F10 1 51F5;2F11 1 5200;2F12 1 529B;2F13 1 52F9;2F14 1 5315
2F15 1 531A;2F16 1 5338;2F17 1 5341;2F18 1 535C;2F19 1 5369;2F1A 1 5382;2F1B 1 53B6;2F1C 1 53C8
2F1D 1 53E3;2F1E 1 56D7;2F1F 1 571F;2F20 1 58EB;2F21 1 5902;2F22 1 590A;2F23 1 5915;2F24 1 5927
2F25 1 5973;2F26 1 5B50;2F27 1 5B80;2F28 1 5BF8;2F29 1 5C0F;2F2A 1 5C22;2F2B 1 5C38;2F2C 1 5C6E
2F2D 1 5C71;2F2E 1 5DDB;2F2F 1 5DE5;2F30 1 5DF1;2F31 1 5DFE;2F32 1 5E72;2F33 1 5E7A;2F34 1 5E7F
2F35 1 5EF4;2F36 1 5EFE;2F37 1 5F0B;2F38 1 5F13;2F39 1 5F50;2F3A 1 5F61;2F3B 1 5F73;2F3C 1 5FC3
2F3D 1 6208;2F3E 1 6236;2F3F 1 624B;2F40 1 652F;2F41 1 6534;2F42 1 6587;2F43 1 6597;2F44 1 65A4
2F45 1 65B9;2F46 1 65E0;2F47 1 65E5;2F48 1 66F0;2F49 1 6708;2F4A 1 6728;2F4B 1 6B20;2F4C 1 6B62
2F4D 1 6B79;2F4E 1 6BB3;2F4F 1 6BCB;2F50 1 6BD4;2F51 1 6BDB;2F52 1 6C0F;2F53 1 6C14;2F54 1 6C34
2F55 1 706B;2F56 1 722A;2F57 1 7236;2F58 1 723B;2F59 1 723F;2F5A 1 7247;2F5B 1 7259;2F5C 1 725B
2F5D 1 72AC;2F5E 1 7384;2F5F 1 7389;2F60 1 74DC;2F61 1 74E6;2F62 1 7518;2F63 1 751F;2F64 1 7528
2F65 1 7530;2F66 1 758B;2F67 1 7592;2F68 1 7676;2F69 1 767D;2F6A 1 76AE;2F6B 1 76BF;2F6C 1 76EE
2F6D 1 77DB;2F6E 1 77E2;2F6F 1 77F3;2F70 1 793A;2F71 1 79B8;2F72 1 79BE;2F73 1 7A74;2F74 1 7ACB
2F75 1 7AF9;2F76 1 7C73;2F77 1 7CF8;2F78 1 7F36;2F79 1 7F51;2F7A 1 7F8A;2F7B 1 7FBD;2F7C 1 8001
2F7D 1 800C;2F7E 1 8012;2F7F 1 8033;2F80 1 807F;2F81 1 8089;2F82 1 81E3;2F83 1 81EA;2F84 1 81F3
2F85 1 81FC;2F86 1 820C;2F87 1 821B;2F88 1 821F;2F89 1 826E;2F8A 1 8272;2F8B 1 8278;2F8C 1 864D
2F8D 1 866B;2F8E 1 8840;2F8F 1 884C;2F90 1 8863;2F91 1 897E;2F92 1 898B;2F93 1 89D2;2F94 1 8A00
2F95 1 8C37;2F96 1 8C46;2F97 1 8C55;2F98 1 8C78;2F99 1 8C9D;2F9A 1 8D64;2F9B 1 8D70;2F9C 1 8DB3
2F9D 1 8EAB;2F9E 1 8ECA;2F9F 1 8F9B;2FA0 1 8FB0;2FA1 1 8FB5;2FA2 1 9091;2FA3 1 9149;2FA4 1 91C6
2FA5 1 91CC;2FA6 1 91D1;2FA7 1 9577;2FA8 1 9580;2FA9 1 961C;2FAA 1 96B6;2FAB 1 96B9;2FAC 1 96E8
2FAD 1 9751;2FAE 1 975E;2FAF 1 9762;2FB0 1 9769;2FB1 1 97CB;2FB2 1 97ED;2FB3 1 97F3;2FB4 1 9801
2FB5 1 98A8;2FB6 1 98DB;2FB7 1 98DF;2FB8 1 9996;2FB9 1 9999;2FBA 1 99AC;2FBB 1 9AA8;2FBC 1 9AD8
2FBD 1 9ADF;2FBE 1 9B25;2FBF 1 9B2F;2FC0 1 9B32;2FC1 1 9B3C;2FC2 1 9B5A;2FC3 1 9CE5;2FC4 1 9E75
2FC5 1 9E7F;2FC6 1 9EA5;2FC7 1 9EBB;2FC8 1 9EC3;2FC9 1 9ECD;2FCA 1 9ED1;2FCB 1 9EF9;2FCC 1 9EFD
2FCD 1 9F0E;2FCE 1 9F13;2FCF 1 9F20;2FD0 1 9F3B;2FD1 1 9F4A;2FD2 1 9F52;2FD3 1 9F8D;2FD4 1 9F9C
2FD5 1 9FA0;3036 1 3012;3038 1 5341;3039 2 5344;309B 1 20 3099;309C 1 20 309A
309F 1 3088 308A;30FF 1 30B3 30C8;3131 2 1100;3133 1 11AA;3134 1 1102;3135 2 11AC;3137 3 1103
313A 6 11B0;3140 1 111A;3141 3 1106;3144 1 1121;3145 A 1109;314F 15 1161;3164 1 1160;3165 2 1114
3167 2 11C7;3169 1 11CC;316A 1 11CE;316B 1 11D3;316C 1 11D7;316D 1 11D9;316E 1 111C;316F 1 11DD
3170 1 11DF;3171 2 111D;3173 1 1120;3174 2 1122;3176 1 1127;3177 1 1129;3178 5 112B;317D 1 1132
317E 1 1136;317F 1 1140;3180 1 1147;3181 1 114C;3182 2 11F1;3184 3 1157;3187 2 1184;3189 1 1188
318A 2 1191;318C 1 1194;318D 1 119E;318E 1 11A1;3192 1 4E00;3193 1 4E8C;3194 1 4E09;3195 1 56DB
3196 1 4E0A;3197 1 4E2D;3198 1 4E0B;3199 1 7532;319A 1 4E59;319B 1 4E19;319C 1 4E01;319D 1 5929
319E 1 5730;319F 1 4EBA;3200 1 28 1100 29;3201 1 28 1102 29;3202 1 28 1103 29;3203 1 28 1105 29
3204 1 28 1106 29;3205 1 28 1107 29;3206 1 28 1109 29;3207 1 28 110B 29;3208 1 28 110C 29
3209 1 28 110E 29;320A 1 28 110F 29;320B 1 28 1110 29;320C 1 28 1111 29;320D 1 28 1112 29
320E 1 28 1100 1161 29;320F 1 28 1102 1161 29;3210 1 28 1103 1161 29;3211 1 28 1105 1161 29
3212 1 28 1106 1161 29;3213 1 28 1107 1161 29;3214 1 28 1109 1161 29;3215 1 28 110B 1161 29
3216 1 28 110C 1161 29;3217 1 28 110E 1161 29;3218 1 28 110F 1161 29;3219 1 28 1110 1161 29
321A 1 28 1111 1161 29;321B 1 28 1112 1161 29;321C 1 28 110C 116E 29
321D 1 28 110B 1169 110C 1165 11AB 29;321E 1 28 110B 1169 1112 116E 29;3220 1 28 4E00 29
3221 1 28 4E8C 29;3222 1 28 4E09 29;3223 1 28 56DB 29;3224 1 28 4E94 29;3225 1 28 516D 29
3226 1 28 4E03 29;3227 1 28 516B 29;3228 1 28 4E5D 29;3229 1 28 5341 29;322A 1 28 6708 29
322B 1 28 706B 29;322C 1 28 6C34 29;322D 1 28 6728 29;322E 1 28 91D1 29;322F 1 28 571F 29
3230 1 28 65E5 29;3231 1 28 682A 29;3232 1 28 6709 29;3233 1 28 793E 29;3234 1 28 540D 29
3235 1 28 7279 29;3236 1 28 8CA1 29;3237 1 28 795D 29;3238 1 28 52B4 29;3239 1 28 4EE3 29
323A 1 28 547C 29;323B 1 28 5B66 29;323C 1 28 76E3 29;323D 1 28 4F01 29;323E 1 28 8CC7 29
323F 1 28 5354 29;3240 1 28 796D 29;3241 1 28 4F11 29;3242 1 28 81EA 29;3243 1 28 81F3 29
3244 1 554F;3245 1 5E7C;3246 1 6587;3247 1 7B8F;3250 1 50 54 45;3251 1 32 31;3252 1 32 32
3253 1 32 33;3254 1 32 34;3255 1 32 35;3256 1 32 36;3257 1 32 37;3258 1 32 38;3259 1 32 39
325A 1 33 30;325B 1 33 31;325C 1 33 32;325D 1 33 33;325E 1 33 34;325F 1 33 35;3260 1 1100
3261 2 1102;3263 3 1105;3266 1 1109;3267 2 110B;3269 5 110E;326E 1 1100 1161;326F 1 1102 1161
3270 1 1103 1161;3271 1 1105 1161;3272 1 1106 1161;3273 1 1107 1161;3274 1 1109 1161
3275 1 110B 1161;3276 1 110C 1161;3277 1 110E 1161;3278 1 110F 1161;3279 1 1110 1161
327A 1 1111 1161;327B 1 1112 1161;327C 1 110E 1161 11B7 1100 1169;327D 1 110C 116E 110B 1174
327E 1 110B 116E;3280 1 4E00;3281 1 4E8C;3282 1 4E09;3283 1 56DB;3284 1 4E94;3285 1 516D
3286 1 4E03;3287 1 516B;3288 1 4E5D;3289 1 5341;328A 1 6708;328B 1 706B;328C 1 6C34;328D 1 6728
328E 1 91D1;328F 1 571F;3290 1 65E5;3291 1 682A;3292 1 6709;3293 1 793E;3294 1 540D;3295 1 7279
3296 1 8CA1;3297 1 795D;3298 1 52B4;3299 1 79D8;329A 1 7537;329B 1 5973;329C 1 9069;329D 1 512A
329E 1 5370;329F 1 6CE8;32A0 1 9805;32A1 1 4F11;32A2 1 5199;32A3 1 6B63;32A4 1 4E0A;32A5 1 4E2D
32A6 1 4E0B;32A7 1 5DE6;32A8 1 53F3;32A9 1 533B;32AA 1 5B97;32AB 1 5B66;32AC 1 76E3;32AD 1 4F01
32AE 1 8CC7;32AF 1 5354;32B0 1 591C;32B1 1 33 36;32B2 1 33 37;32B3 1 33 38;32B4 1 33 39
32B5 1 34 30;32B6 1 34 31;32B7 1 34 32;32B8 1 34 33;32B9 1 34 34;32BA 1 34 35;32BB 1 34 36
32BC 1 34 37;32BD 1 34 38;32BE 1 34 39;32BF 1 35 30;32C0 1 31 6708;32C1 1 32 6708;32C2 1 33 6708
32C3 1 34 6708;32C4 1 35 6708;32C5 1 36 6708;32C6 1 37 6708;32C7 1 38 6708;32C8 1 39 6708
32C9 1 31 30 6708;32CA 1 31 31 6708;32CB 1 31 32 6708;32CC 1 48 67;32CD 1 65 72 67;32CE 1 65 56
32CF 1 4C 54 44;32D0 1 30A2;32D1 1 30A4;32D2 1 30A6;32D3 1 30A8;32D4 2 30AA;32D6 1 30AD
32D7 1 30AF;32D8 1 30B1;32D9 1 30B3;32DA 1 30B5;32DB 1 30B7;32DC 1 30B9;32DD 1 30BB;32DE 1 30BD
32DF 1 30BF;32E0 1 30C1;32E1 1 30C4;32E2 1 30C6;32E3 1 30C8;32E4 6 30CA;32EA 1 30D2;32EB 1 30D5
32EC 1 30D8;32ED 1 30DB;32EE 5 30DE;32F3 1 30E4;32F4 1 30E6;32F5 6 30E8;32FB 4 30EF
32FF 1 4EE4 548C;3300 1 30A2 30CF 309A 30FC 30C8;3301 1 30A2 30EB 30D5 30A1
3302 1 30A2 30F3 30D8 309A 30A2;3303 1 30A2 30FC 30EB;3304 1 30A4 30CB 30F3 30AF 3099
3305 1 30A4 30F3 30C1;3306 1 30A6 30A9 30F3;3307 1 30A8 30B9 30AF 30FC 30C8 3099
3308 1 30A8 30FC 30AB 30FC;3309 1 30AA 30F3 30B9;330A 1 30AA 30FC 30E0;330B 1 30AB 30A4 30EA
330C 1 30AB 30E9 30C3 30C8;330D 1 30AB 30ED 30EA 30FC;330E 1 30AB 3099 30ED 30F3
330F 1 30AB 3099 30F3 30DE;3310 1 30AD 3099 30AB 3099;3311 1 30AD 3099 30CB 30FC
3312 1 30AD 30E5 30EA 30FC;3313 1 30AD 3099 30EB 30BF 3099 30FC;3314 1 30AD 30ED
3315 1 30AD 30ED 30AF 3099 30E9 30E0;3316 1 30AD 30ED 30E1 30FC 30C8 30EB
3317 1 30AD 30ED 30EF 30C3 30C8;3318 1 30AF 3099 30E9 30E0;3319 1 30AF 3099 30E9 30E0 30C8 30F3
331A 1 30AF 30EB 30BB 3099 30A4 30ED;331B 1 30AF 30ED 30FC 30CD;331C 1 30B1 30FC 30B9
331D 1 30B3 30EB 30CA;331E 1 30B3 30FC 30DB 309A;331F 1 30B5 30A4 30AF 30EB
3320 1 30B5 30F3 30C1 30FC 30E0;3321 1 30B7 30EA 30F3 30AF 3099;3322 1 30BB 30F3 30C1
3323 1 30BB 30F3 30C8;3324 1 30BF 3099 30FC 30B9;3325 1 30C6 3099 30B7;3326 1 30C8 3099 30EB
3327 1 30C8 30F3;3328 1 30CA 30CE;3329 1 30CE 30C3 30C8;332A 1 30CF 30A4 30C4
332B 1 30CF 309A 30FC 30BB 30F3 30C8;332C 1 30CF 309A 30FC 30C4;332D 1 30CF 3099 30FC 30EC 30EB
332E 1 30D2 309A 30A2 30B9 30C8 30EB;332F 1 30D2 309A 30AF 30EB;3330 1 30D2 309A 30B3
3331 1 30D2 3099 30EB;3332 1 30D5 30A1 30E9 30C3 30C8 3099;3333 1 30D5 30A3 30FC 30C8
3334 1 30D5 3099 30C3 30B7 30A7 30EB;3335 1 30D5 30E9 30F3;3336 1 30D8 30AF 30BF 30FC 30EB
3337 1 30D8 309A 30BD;3338 1 30D8 309A 30CB 30D2;3339 1 30D8 30EB 30C4;333A 1 30D8 309A 30F3 30B9
333B 1 30D8 309A 30FC 30B7 3099;333C 1 30D8 3099 30FC 30BF;333D 1 30DB 309A 30A4 30F3 30C8
333E 1 30DB 3099 30EB 30C8;333F 1 30DB 30F3;3340 1 30DB 309A 30F3 30C8 3099;3341 1 30DB 30FC 30EB
3342 1 30DB 30FC 30F3;3343 1 30DE 30A4 30AF 30ED;3344 1 30DE 30A4 30EB;3345 1 30DE 30C3 30CF
3346 1 30DE 30EB 30AF;3347 1 30DE 30F3 30B7 30E7 30F3;3348 1 30DF 30AF 30ED 30F3;3349 1 30DF 30EA
334A 1 30DF 30EA 30CF 3099 30FC 30EB;334B 1 30E1 30AB 3099;334C 1 30E1 30AB 3099 30C8 30F3
334D 1 30E1 30FC 30C8 30EB;334E 1 30E4 30FC 30C8 3099;334F 1 30E4 30FC 30EB;3350 1 30E6 30A2 30F3
3351 1 30EA 30C3 30C8 30EB;3352 1 30EA 30E9;3353 1 30EB 30D2 309A 30FC
3354 1 30EB 30FC 30D5 3099 30EB;3355 1 30EC 30E0;3356 1 30EC 30F3 30C8 30B1 3099 30F3
3357 1 30EF 30C3 30C8;3358 1 30 70B9;3359 1 31 70B9;335A 1 32 70B9;335B 1 33 70B9;335C 1 34 70B9
335D 1 35 70B9;335E 1 36 70B9;335F 1 37 70B9;3360 1 38 70B9;3361 1 39 70B9;3362 1 31 30 70B9
3363 1 31 31 70B9;3364 1 31 32 70B9;3365 1 31 33 70B9;3366 1 31 34 70B9;3367 1 31 35 70B9
3368 1 31 36 70B9;3369 1 31 37 70B9;336A 1 31 38 70B9;336B 1 31 39 70B9;336C 1 32 30 70B9
336D 1 32 31 70B9;336E 1 32 32 70B9;336F 1 32 33 70B9;3370 1 32 34 70B9;3371 1 68 50 61
3372 1 64 61;3373 1 41 55;3374 1 62 61 72;3375 1 6F 56;3376 1 70 63;3377 1 64 6D;3378 1 64 6D 32
3379 1 64 6D 33;337A 1 49 55;337B 1 5E73 6210;337C 1 662D 548C;337D 1 5927 6B63;337E 1 660E 6CBB
337F 1 682A 5F0F 4F1A 793E;3380 1 70 41;3381 1 6E 41;3382 1 3BC 41;3383 1 6D 41;3384 1 6B 41
3385 1 4B 42;3386 1 4D 42;3387 1 47 42;3388 1 63 61 6C;3389 1 6B 63 61 6C;338A 1 70 46
338B 1 6E 46;338C 1 3BC 46;338D 1 3BC 67;338E 1 6D 67;338F 1 6B 67;3390 1 48 7A;3391 1 6B 48 7A
3392 1 4D 48 7A;3393 1 47 48 7A;3394 1 54 48 7A;3395 1 3BC 6C;3396 1 6D 6C;3397 1 64 6C
3398 1 6B 6C;3399 1 66 6D;339A 1 6E 6D;339B 1 3BC 6D;339C 1 6D 6D;339D 1 63 6D;339E 1 6B 6D
339F 1 6D 6D 32;33A0 1 63 6D 32;33A1 1 6D 32;33A2 1 6B 6D 32;33A3 1 6D 6D 33;33A4 1 63 6D 33
33A5 1 6D 33;33A6 1 6B 6D 33;33A7 1 6D 2215 73;33A8 1 6D 2215 73 32;33A9 1 50 61;33AA 1 6B 50 61
33AB 1 4D 50 61;33AC 1 47 50 61;33AD 1 72 61 64;33AE 1 72 61 64 2215 73;33AF 1 72 61 64 2215 73 32
33B0 1 70 73;33B1 1 6E 73;33B2 1 3BC 73;33B3 1 6D 73;33B4 1 70 56;33B5 1 6E 56;33B6 1 3BC 56
33B7 1 6D 56;33B8 1 6B 56;33B9 1 4D 56;33BA 1 70 57;33BB 1 6E 57;33BC 1 3BC 57;33BD 1 6D 57
33BE 1 6B 57;33BF 1 4D 57;33C0 1 6B 3A9;33C1 1 4D 3A9;33C2 1 61 2E 6D 2E;33C3 1 42 71;33C4 1 63 63
33C5 1 63 64;33C6 1 43 2215 6B 67;33C7 1 43 6F 2E;33C8 1 64 42;33C9 1 47 79;33CA 1 68 61
33CB 1 48 50;33CC 1 69 6E;33CD 1 4B 4B;33CE 1 4B 4D;33CF 1 6B 74;33D0 1 6C 6D;33D1 1 6C 6E
33D2 1 6C 6F 67;33D3 1 6C 78;33D4 1 6D 62;33D5 1 6D 69 6C;33D6 1 6D 6F 6C;33D7 1 50 48
33D8 1 70 2E 6D 2E;33D9 1 50 50 4D;33DA 1 50 52;33DB 1 73 72;33DC 1 53 76;33DD 1 57 62
33DE 1 56 2215 6D;33DF 1 41 2215 6D;33E0 1 31 65E5;33E1 1 32 65E5;33E2 1 33 65E5;33E3 1 34 65E5
33E4 1 35 65E5;33E5 1 36 65E5;33E6 1 37 65E5;33E7 1 38 65E5;33E8 1 39 65E5;33E9 1 31 30 65E5
33EA 1 31 31 65E5;33EB 1 31 32 65E5;33EC 1 31 33 65E5;33ED 1 31 34 65E5;33EE 1 31 35 65E5
33EF 1 31 36 65E5;33F0 1 31 37 65E5;33F1 1 31 38 65E5;33F2 1 31 39 65E5;33F3 1 32 30 65E5
33F4 1 32 31 65E5;33F5 1 32 32 65E5;33F6 1 32 33 65E5;33F7 1 32 34 65E5;33F8 1 32 35 65E5
33F9 1 32 36 65E5;33FA 1 32 37 65E5;33FB 1 32 38 65E5;33FC 1 32 39 65E5;33FD 1 33 30 65E5
33FE 1 33 31 65E5;33FF 1 67 61 6C;A69C 1 44A;A69D 1 44C;A770 1 A76F;A7F1 1 53;A7F2 1 43;A7F3 1 46
A7F4 1 51;A7F8 1 126;A7F9 1 153;AB5C 1 A727;AB5D 1 AB37;AB5E 1 26B;AB5F 1 AB52;AB69 1 28D
FB00 1 66 66;FB01 1 66 69;FB02 1 66 6C;FB03 1 66 66 69;FB04 1 66 66 6C;FB05 1 73 74;FB06 1 73 74
FB13 1 574 576;FB14 1 574 565;FB15 1 574 56B;FB16 1 57E 576;FB17 1 574 56D;FB20 1 5E2;FB21 1 5D0
FB22 2 5D3;FB24 3 5DB;FB27 1 5E8;FB28 1 5EA;FB29 1 2B;FB4F 1 5D0 5DC;FB50 1 671;FB51 1 671
FB52 1 67B;FB53 1 67B;FB54 1 67B;FB55 1 67B;FB56 1 67E;FB57 1 67E;FB58 1 67E;FB59 1 67E;FB5A 1 680
FB5B 1 680;FB5C 1 680;FB5D 1 680;FB5E 1 67A;FB5F 1 67A;FB60 1 67A;FB61 1 67A;FB62 1 67F;FB63 1 67F
FB64 1 67F;FB65 1 67F;FB66 1 679;FB67 1 679;FB68 1 679;FB69 1 679;FB6A 1 6A4;FB6B 1 6A4;FB6C 1 6A4
FB6D 1 6A4;FB6E 1 6A6;FB6F 1 6A6;FB70 1 6A6;FB71 1 6A6;FB72 1 684;FB73 1 684;FB74 1 684;FB75 1 684
FB76 1 683;FB77 1 683;FB78 1 683;FB79 1 683;FB7A 1 686;FB7B 1 686;FB7C 1 686;FB7D 2 686;FB7F 1 687
FB80 1 687;FB81 1 687;FB82 1 68D;FB83 1 68D;FB84 1 68C;FB85 1 68C;FB86 1 68E;FB87 1 68E;FB88 1 688
FB89 1 688;FB8A 1 698;FB8B 1 698;FB8C 1 691;FB8D 1 691;FB8E 1 6A9;FB8F 1 6A9;FB90 1 6A9;FB91 1 6A9
FB92 1 6AF;FB93 1 6AF;FB94 1 6AF;FB95 1 6AF;FB96 1 6B3;FB97 1 6B3;FB98 1 6B3;FB99 1 6B3;FB9A 1 6B1
FB9B 1 6B1;FB9C 1 6B1;FB9D 1 6B1;FB9E 1 6BA;FB9F 2 6BA;FBA1 1 6BB;FBA2 1 6BB;FBA3 1 6BB
FBA4 1 6D5 654;FBA5 1 6D5 654;FBA6 1 6C1;FBA7 1 6C1;FBA8 1 6C1;FBA9 1 6C1;FBAA 1 6BE;FBAB 1 6BE
FBAC 1 6BE;FBAD 1 6BE;FBAE 1 6D2;FBAF 1 6D2;FBB0 1 6D2 654;FBB1 1 6D2 654;FBD3 1 6AD;FBD4 1 6AD
FBD5 1 6AD;FBD6 1 6AD;FBD7 1 6C7;FBD8 1 6C7;FBD9 1 6C6;FBDA 1 6C6;FBDB 1 6C8;FBDC 1 6C8
FBDD 1 6C7 674;FBDE 1 6CB;FBDF 1 6CB;FBE0 1 6C5;FBE1 1 6C5;FBE2 1 6C9;FBE3 1 6C9;FBE4 1 6D0
FBE5 1 6D0;FBE6 1 6D0;FBE7 1 6D0;FBE8 1 649;FBE9 1 649;FBEA 1 64A 654 627;FBEB 1 64A 654 627
FBEC 1 64A 654 6D5;FBED 1 64A 654 6D5;FBEE 1 64A 654 648;FBEF 1 64A 654 648;FBF0 1 64A 654 6C7
FBF1 1 64A 654 6C7;FBF2 1 64A 654 6C6;FBF3 1 64A 654 6C6;FBF4 1 64A 654 6C8;FBF5 1 64A 654 6C8
FBF6 1 64A 654 6D0;FBF7 1 64A 654 6D0;FBF8 1 64A 654 6D0;FBF9 1 64A 654 649;FBFA 1 64A 654 649
FBFB 1 64A 654 649;FBFC 1 6CC;FBFD 1 6CC;FBFE 1 6CC;FBFF 1 6CC;FC00 1 64A 654 62C
FC01 1 64A 654 62D;FC02 1 64A 654 645;FC03 1 64A 654 649;FC04 1 64A 654 64A;FC05 1 628 62C
FC06 1 628 62D;FC07 1 628 62E;FC08 1 628 645;FC09 1 628 649;FC0A 1 628 64A;FC0B 1 62A 62C
FC0C 1 62A 62D;FC0D 1 62A 62E;FC0E 1 62A 645;FC0F 1 62A 649;FC10 1 62A 64A;FC11 1 62B 62C
FC12 1 62B 645;FC13 1 62B 649;FC14 1 62B 64A;FC15 1 62C 62D;FC16 1 62C 645;FC17 1 62D 62C
FC18 1 62D 645;FC19 1 62E 62C;FC1A 1 62E 62D;FC1B 1 62E 645;FC1C 1 633 62C;FC1D 1 633 62D
FC1E 1 633 62E;FC1F 1 633 645;FC20 1 635 62D;FC21 1 635 645;FC22 1 636 62C;FC23 1 636 62D
FC24 1 636 62E;FC25 1 636 645;FC26 1 637 62D;FC27 1 637 645;FC28 1 638 645;FC29 1 639 62C
FC2A 1 639 645;FC2B 1 63A 62C;FC2C 1 63A 645;FC2D 1 641 62C;FC2E 1 641 62D;FC2F 1 641 62E
FC30 1 641 645;FC31 1 641 649;FC32 1 641 64A;FC33 1 642 62D;FC34 1 642 645;FC35 1 642 649
FC36 1 642 64A;FC37 1 643 627;FC38 1 643 62C;FC39 1 643 62D;FC3A 1 643 62E;FC3B 1 643 644
FC3C 1 643 645;FC3D 1 643 649;FC3E 1 643 64A;FC3F 1 644 62C;FC40 1 644 62D;FC41 1 644 62E
FC42 1 644 645;FC43 1 644 649;FC44 1 644 64A;FC45 1 645 62C;FC46 1 645 62D;FC47 1 645 62E
FC48 1 645 645;FC49 1 645 649;FC4A 1 645 64A;FC4B 1 646 62C;FC4C 1 646 62D;FC4D 1 646 62E
FC4E 1 646 645;FC4F 1 646 649;FC50 1 646 64A;FC51 1 647 62C;FC52 1 647 645;FC53 1 647 649
FC54 1 647 64A;FC55 1 64A 62C;FC56 1 64A 62D;FC57 1 64A 62E;FC58 1 64A 645;FC59 1 64A 649
FC5A 1 64A 64A;FC5B 1 630 670;FC5C 1 631 670;FC5D 1 649 670;FC5E 1 20 64C 651;FC5F 1 20 64D 651
FC60 1 20 64E 651;FC61 1 20 64F 651;FC62 1 20 650 651;FC63 1 20 651 670;FC64 1 64A 654 631
FC65 1 64A 654 632;FC66 1 64A 654 645;FC67 1 64A 654 646;FC68 1 64A 654 649;FC69 1 64A 654 64A
FC6A 1 628 631;FC6B 1 628 632;FC6C 1 628 645;FC6D 1 628 646;FC6E 1 628 649;FC6F 1 628 64A
FC70 1 62A 631;FC71 1 62A 632;FC72 1 62A 645;FC73 1 62A 646;FC74 1 62A 649;FC75 1 62A 64A
FC76 1 62B 631;FC77 1 62B 632;FC78 1 62B 645;FC79 1 62B 646;FC7A 1 62B 649;FC7B 1 62B 64A
FC7C 1 641 649;FC7D 1 641 64A;FC7E 1 642 649;FC7F 1 642 64A;FC80 1 643 627;FC81 1 643 644
FC82 1 643 645;FC83 1 643 649;FC84 1 643 64A;FC85 1 644 645;FC86 1 644 649;FC87 1 644 64A
FC88 1 645 627;FC89 1 645 645;FC8A 1 646 631;FC8B 1 646 632;FC8C 1 646 645;FC8D 1 646 646
FC8E 1 646 649;FC8F 1 646 64A;FC90 1 649 670;FC91 1 64A 631;FC92 1 64A 632;FC93 1 64A 645
FC94 1 64A 646;FC95 1 64A 649;FC96 1 64A 64A;FC97 1 64A 654 62C;FC98 1 64A 654 62D
FC99 1 64A 654 62E;FC9A 1 64A 654 645;FC9B 1 64A 654 647;FC9C 1 628 62C;FC9D 1 628 62D
FC9E 1 628 62E;FC9F 1 628 645;FCA0 1 628 647;FCA1 1 62A 62C;FCA2 1 62A 62D;FCA3 1 62A 62E
FCA4 1 62A 645;FCA5 1 62A 647;FCA6 1 62B 645;FCA7 1 62C 62D;FCA8 1 62C 645;FCA9 1 62D 62C
FCAA 1 62D 645;FCAB 1 62E 62C;FCAC 1 62E 645;FCAD 1 633 62C;FCAE 1 633 62D;FCAF 1 633 62E
FCB0 1 633 645;FCB1 1 635 62D;FCB2 1 635 62E;FCB3 1 635 645;FCB4 1 636 62C;FCB5 1 636 62D
FCB6 1 636 62E;FCB7 1 636 645;FCB8 1 637 62D;FCB9 1 638 645;FCBA 1 639 62C;FCBB 1 639 645
FCBC 1 63A 62C;FCBD 1 63A 645;FCBE 1 641 62C;FCBF 1 641 62D;FCC0 1 641 62E;FCC1 1 641 645
FCC2 1 642 62D;FCC3 1 642 645;FCC4 1 643 62C;FCC5 1 643 62D;FCC6 1 643 62E;FCC7 1 643 644
FCC8 1 643 645;FCC9 1 644 62C;FCCA 1 644 62D;FCCB 1 644 62E;FCCC 1 644 645;FCCD 1 644 647
FCCE 1 645 62C;FCCF 1 645 62D;FCD0 1 645 62E;FCD1 1 645 645;FCD2 1 646 62C;FCD3 1 646 62D
FCD4 1 646 62E;FCD5 1 646 645;FCD6 1 646 647;FCD7 1 647 62C;FCD8 1 647 645;FCD9 1 647 670
FCDA 1 64A 62C;FCDB 1 64A 62D;FCDC 1 64A 62E;FCDD 1 64A 645;FCDE 1 64A 647;FCDF 1 64A 654 645
FCE0 1 64A 654 647;FCE1 1 628 645;FCE2 1 628 647;FCE3 1 62A 645;FCE4 1 62A 647;FCE5 1 62B 645
FCE6 1 62B 647;FCE7 1 633 645;FCE8 1 633 647;FCE9 1 634 645;FCEA 1 634 647;FCEB 1 643 644
FCEC 1 643 645;FCED 1 644 645;FCEE 1 646 645;FCEF 1 646 647;FCF0 1 64A 645;FCF1 1 64A 647
FCF2 1 640 64E 651;FCF3 1 640 64F 651;FCF4 1 640 650 651;FCF5 1 637 649;FCF6 1 637 64A
FCF7 1 639 649;FCF8 1 639 64A;FCF9 1 63A 649;FCFA 1 63A 64A;FCFB 1 633 649;FCFC 1 633 64A
FCFD 1 634 649;FCFE 1 634 64A;FCFF 1 62D 649;FD00 1 62D 64A;FD01 1 62C 649;FD02 1 62C 64A
FD03 1 62E 649;FD04 1 62E 64A;FD05 1 635 649;FD06 1 635 64A;FD07 1 636 649;FD08 1 636 64A
FD09 1 634 62C;FD0A 1 634 62D;FD0B 1 634 62E;FD0C 1 634 645;FD0D 1 634 631;FD0E 1 633 631
FD0F 1 635 631;FD10 1 636 631;FD11 1 637 649;FD12 1 637 64A;FD13 1 639 649;FD14 1 639 64A
FD15 1 63A 649;FD16 1 63A 64A;FD17 1 633 649;FD18 1 633 64A;FD19 1 634 649;FD1A 1 634 64A
FD1B 1 62D 649;FD1C 1 62D 64A;FD1D 1 62C 649;FD1E 1 62C 64A;FD1F 1 62E 649;FD20 1 62E 64A
FD21 1 635 649;FD22 1 635 64A;FD23 1 636 649;FD24 1 636 64A;FD25 1 634 62C;FD26 1 634 62D
FD27 1 634 62E;FD28 1 634 645;FD29 1 634 631;FD2A 1 633 631;FD2B 1 635 631;FD2C 1 636 631
FD2D 1 634 62C;FD2E 1 634 62D;FD2F 1 634 62E;FD30 1 634 645;FD31 1 633 647;FD32 1 634 647
FD33 1 637 645;FD34 1 633 62C;FD35 1 633 62D;FD36 1 633 62E;FD37 1 634 62C;FD38 1 634 62D
FD39 1 634 62E;FD3A 1 637 645;FD3B 1 638 645;FD3C 1 627 64B;FD3D 1 627 64B;FD50 1 62A 62C 645
FD51 1 62A 62D 62C;FD52 1 62A 62D 62C;FD53 1 62A 62D 645;FD54 1 62A 62E 645;FD55 1 62A 645 62C
FD56 1 62A 645 62D;FD57 1 62A 645 62E;FD58 1 62C 645 62D;FD59 1 62C 645 62D;FD5A 1 62D 645 64A
FD5B 1 62D 645 649;FD5C 1 633 62D 62C;FD5D 1 633 62C 62D;FD5E 1 633 62C 649;FD5F 1 633 645 62D
FD60 1 633 645 62D;FD61 1 633 645 62C;FD62 1 633 645 645;FD63 1 633 645 645;FD64 1 635 62D 62D
FD65 1 635 62D 62D;FD66 1 635 645 645;FD67 1 634 62D 645;FD68 1 634 62D 645;FD69 1 634 62C 64A
FD6A 1 634 645 62E;FD6B 1 634 645 62E;FD6C 1 634 645 645;FD6D 1 634 645 645;FD6E 1 636 62D 649
FD6F 1 636 62E 645;FD70 1 636 62E 645;FD71 1 637 645 62D;FD72 1 637 645 62D;FD73 1 637 645 645
FD74 1 637 645 64A;FD75 1 639 62C 645;FD76 1 639 645 645;FD77 1 639 645 645;FD78 1 639 645 649
FD79 1 63A 645 645;FD7A 1 63A 645 64A;FD7B 1 63A 645 649;FD7C 1 641 62E 645;FD7D 1 641 62E 645
FD7E 1 642 645 62D;FD7F 1 642 645 645;FD80 1 644 62D 645;FD81 1 644 62D 64A;FD82 1 644 62D 649
FD83 1 644 62C 62C;FD84 1 644 62C 62C;FD85 1 644 62E 645;FD86 1 644 62E 645;FD87 1 644 645 62D
FD88 1 644 645 62D;FD89 1 645 62D 62C;FD8A 1 645 62D 645;FD8B 1 645 62D 64A;FD8C 1 645 62C 62D
FD8D 1 645 62C 645;FD8E 1 645 62E 62C;FD8F 1 645 62E 645;FD92 1 645 62C 62E;FD93 1 647 645 62C
FD94 1 647 645 645;FD95 1 646 62D 645;FD96 1 646 62D 649;FD97 1 646 62C 645;FD98 1 646 62C 645
FD99 1 646 62C 649;FD9A 1 646 645 64A;FD9B 1 646 645 649;FD9C 1 64A 645 645;FD9D 1 64A 645 645
FD9E 1 628 62E 64A;FD9F 1 62A 62C 64A;FDA0 1 62A 62C 649;FDA1 1 62A 62E 64A;FDA2 1 62A 62E 649
FDA3 1 62A 645 64A;FDA4 1 62A 645 649;FDA5 1 62C 645 64A;FDA6 1 62C 62D 649;FDA7 1 62C 645 649
FDA8 1 633 62E 649;FDA9 1 635 62D 64A;FDAA 1 634 62D 64A;FDAB 1 636 62D 64A;FDAC 1 644 62C 64A
FDAD 1 644 645 64A;FDAE 1 64A 62D 64A;FDAF 1 64A 62C 64A;FDB0 1 64A 645 64A;FDB1 1 645 645 64A
FDB2 1 642 645 64A;FDB3 1 646 62D 64A;FDB4 1 642 645 62D;FDB5 1 644 62D 645;FDB6 1 639 645 64A
FDB7 1 643 645 64A;FDB8 1 646 62C 62D;FDB9 1 645 62E 64A;FDBA 1 644 62C 645;FDBB 1 643 645 645
FDBC 1 644 62C 645;FDBD 1 646 62C 62D;FDBE 1 62C 62D 64A;FDBF 1 62D 62C 64A;FDC0 1 645 62C 64A
FDC1 1 641 645 64A;FDC2 1 628 62D 64A;FDC3 1 643 645 645;FDC4 1 639 62C 645;FDC5 1 635 645 645
FDC6 1 633 62E 64A;FDC7 1 646 62C 64A;FDF0 1 635 644 6D2;FDF1 1 642 644 6D2;FDF2 1 627 644 644 647
FDF3 1 627 643 628 631;FDF4 1 645 62D 645 62F;FDF5 1 635 644 639 645;FDF6 1 631 633 648 644
FDF7 1 639 644 64A 647;FDF8 1 648 633 644 645;FDF9 1 635 644 649
FDFA 1 635 644 649 20 627 644 644 647 20 639 644 64A 647 20 648 633 644 645
FDFB 1 62C 644 20 62C 644 627 644 647;FDFC 1 631 6CC 627 644;FE10 1 2C;FE11 2 3001;FE13 2 3A
FE15 1 21;FE16 1 3F;FE17 2 3016;FE19 1 2E 2E 2E;FE30 1 2E 2E;FE31 1 2014;FE32 1 2013;FE33 1 5F
FE34 1 5F;FE35 2 28;FE37 1 7B;FE38 1 7D;FE39 2 3014;FE3B 2 3010;FE3D 2 300A;FE3F 2 3008
FE41 4 300C;FE47 1 5B;FE48 1 5D;FE49 1 20 305;FE4A 1 20 305;FE4B 1 20 305;FE4C 1 20 305;FE4D 1 5F
FE4E 1 5F;FE4F 1 5F;FE50 1 2C;FE51 1 3001;FE52 1 2E;FE54 1 3B;FE55 1 3A;FE56 1 3F;FE57 1 21
FE58 1 2014;FE59 2 28;FE5B 1 7B;FE5C 1 7D;FE5D 2 3014;FE5F 1 23;FE60 1 26;FE61 2 2A;FE63 1 2D
FE64 1 3C;FE65 1 3E;FE66 1 3D;FE68 1 5C;FE69 2 24;FE6B 1 40;FE70 1 20 64B;FE71 1 640 64B
FE72 1 20 64C;FE74 1 20 64D;FE76 1 20 64E;FE77 1 640 64E;FE78 1 20 64F;FE79 1 640 64F
FE7A 1 20 650;FE7B 1 640 650;FE7C 1 20 651;FE7D 1 640 651;FE7E 1 20 652;FE7F 1 640 652;FE80 1 621
FE81 1 627 653;FE82 1 627 653;FE83 1 627 654;FE84 1 627 654;FE85 1 648 654;FE86 1 648 654
FE87 1 627 655;FE88 1 627 655;FE89 1 64A 654;FE8A 1 64A 654;FE8B 1 64A 654;FE8C 1 64A 654
FE8D 1 627;FE8E 2 627;FE90 1 628;FE91 1 628;FE92 2 628;FE94 2 629;FE96 1 62A;FE97 1 62A;FE98 2 62A
FE9A 1 62B;FE9B 1 62B;FE9C 2 62B;FE9E 1 62C;FE9F 1 62C;FEA0 2 62C;FEA2 1 62D;FEA3 1 62D;FEA4 2 62D
FEA6 1 62E;FEA7 1 62E;FEA8 2 62E;FEAA 2 62F;FEAC 2 630;FEAE 2 631;FEB0 2 632;FEB2 1 633;FEB3 1 633
FEB4 2 633;FEB6 1 634;FEB7 1 634;FEB8 2 634;FEBA 1 635;FEBB 1 635;FEBC 2 635;FEBE 1 636;FEBF 1 636
FEC0 2 636;FEC2 1 637;FEC3 1 637;FEC4 2 637;FEC6 1 638;FEC7 1 638;FEC8 2 638;FECA 1 639;FECB 1 639
FECC 2 639;FECE 1 63A;FECF 1 63A;FED0 1 63A;FED1 1 641;FED2 1 641;FED3 1 641;FED4 2 641;FED6 1 642
FED7 1 642;FED8 2 642;FEDA 1 643;FEDB 1 643;FEDC 2 643;FEDE 1 644;FEDF 1 644;FEE0 2 644;FEE2 1 645
FEE3 1 645;FEE4 2 645;FEE6 1 646;FEE7 1 646;FEE8 2 646;FEEA 1 647;FEEB 1 647;FEEC 2 647;FEEE 2 648
FEF0 2 649;FEF2 1 64A;FEF3 1 64A;FEF4 1 64A;FEF5 1 644 627 653;FEF6 1 644 627 653
FEF7 1 644 627 654;FEF8 1 644 627 654;FEF9 1 644 627 655;FEFA 1 644 627 655;FEFB 1 644 627
FEFC 1 644 627;FF01 5E 21;FF5F 2 2985;FF61 1 3002;FF62 2 300C;FF64 1 3001;FF65 1 30FB;FF66 1 30F2
FF67 1 30A1;FF68 1 30A3;FF69 1 30A5;FF6A 1 30A7;FF6B 1 30A9;FF6C 1 30E3;FF6D 1 30E5;FF6E 1 30E7
FF6F 1 30C3;FF70 1 30FC;FF71 1 30A2;FF72 1 30A4;FF73 1 30A6;FF74 1 30A8;FF75 2 30AA;FF77 1 30AD
FF78 1 30AF;FF79 1 30B1;FF7A 1 30B3;FF7B 1 30B5;FF7C 1 30B7;FF7D 1 30B9;FF7E 1 30BB;FF7F 1 30BD
FF80 1 30BF;FF81 1 30C1;FF82 1 30C4;FF83 1 30C6;FF84 1 30C8;FF85 6 30CA;FF8B 1 30D2;FF8C 1 30D5
FF8D 1 30D8;FF8E 1 30DB;FF8F 5 30DE;FF94 1 30E4;FF95 1 30E6;FF96 6 30E8;FF9C 1 30EF;FF9D 1 30F3
FF9E 2 3099;FFA0 1 1160;FFA1 2 1100;FFA3 1 11AA;FFA4 1 1102;FFA5 2 11AC;FFA7 3 1103;FFAA 6 11B0
FFB0 1 111A;FFB1 3 1106;FFB4 1 1121;FFB5 A 1109;FFC2 6 1161;FFCA 6 1167;FFD2 6 116D;FFDA 3 1173
FFE0 2 A2;FFE2 1 AC;FFE3 1 20 304;FFE4 1 A6;FFE5 1 A5;FFE6 1 20A9;FFE8 1 2502;FFE9 4 2190
FFED 1 25A0;FFEE 1 25CB;10781 2 2D0;10783 1 E6;10784 1 299;10785 1 253;10787 1 2A3;10788 1 AB66
10789 1 2A5;1078A 1 2A4;1078B 2 256;1078D 1 1D91;1078E 1 258;1078F 1 25E;10790 1 2A9;10791 1 264
10792 1 262;10793 1 260;10794 1 29B;10795 1 127;10796 1 29C;10797 1 267;10798 1 284;10799 2 2AA
1079B 1 26C;1079C 1 1DF04;1079D 1 A78E;1079E 1 26E;1079F 1 1DF05;107A0 1 28E;107A1 1 1DF06
107A2 1 F8;107A3 2 276;107A5 1 71;107A6 1 27A;107A7 1 1DF08;107A8 2 27D;107AA 1 280;107AB 1 2A8
107AC 1 2A6;107AD 1 AB67;107AE 1 2A7;107AF 1 288;107B0 1 2C71;107B2 1 28F;107B3 2 2A1;107B5 1 298
107B6 3 1C0;107B9 1 1DF0A;107BA 1 1DF1E;107BB 1 287;1B123 1 3053 3068;1B124 1 30C8 30AD
1B125 1 30C8 30E2;1B126 1 30E8 30EA;1CCD6 1A 41;1CCF0 A 30;1D400 1A 41;1D41A 1A 61;1D434 1A 41
1D44E 7 61;1D456 12 69;1D468 1A 41;1D482 1A 61;1D49C 1 41;1D49E 2 43;1D4A2 1 47;1D4A5 2 4A
1D4A9 4 4E;1D4AE 8 53;1D4B6 4 61;1D4BB 1 66;1D4BD 7 68;1D4C5 B 70;1D4D0 1A 41;1D4EA 1A 61
1D504 2 41;1D507 4 44;1D50D 8 4A;1D516 7 53;1D51E 1A 61;1D538 2 41;1D53B 4 44;1D540 5 49
1D546 1 4F;1D54A 7 53;1D552 1A 61;1D56C 1A 41;1D586 1A 61;1D5A0 1A 41;1D5BA 1A 61;1D5D4 1A 41
1D5EE 1A 61;1D608 1A 41;1D622 1A 61;1D63C 1A 41;1D656 1A 61;1D670 1A 41;1D68A 1A 61;1D6A4 1 131
1D6A5 1 237;1D6A6 1 DF;1D6A8 11 391;1D6B9 1 398;1D6BA 7 3A3;1D6C1 1 2207;1D6C2 19 3B1;1D6DB 1 2202
1D6DC 1 3B5;1D6DD 1 3B8;1D6DE 1 3BA;1D6DF 1 3C6;1D6E0 1 3C1;1D6E1 1 3C0;1D6E2 11 391;1D6F3 1 398
1D6F4 7 3A3;1D6FB 1 2207;1D6FC 19 3B1;1D715 1 2202;1D716 1 3B5;1D717 1 3B8;1D718 1 3BA;1D719 1 3C6
1D71A 1 3C1;1D71B 1 3C0;1D71C 11 391;1D72D 1 398;1D72E 7 3A3;1D735 1 2207;1D736 19 3B1
1D74F 1 2202;1D750 1 3B5;1D751 1 3B8;1D752 1 3BA;1D753 1 3C6;1D754 1 3C1;1D755 1 3C0;1D756 11 391
1D767 1 398;1D768 7 3A3;1D76F 1 2207;1D770 19 3B1;1D789 1 2202;1D78A 1 3B5;1D78B 1 3B8;1D78C 1 3BA
1D78D 1 3C6;1D78E 1 3C1;1D78F 1 3C0;1D790 11 391;1D7A1 1 398;1D7A2 7 3A3;1D7A9 1 2207;1D7AA 19 3B1
1D7C3 1 2202;1D7C4 1 3B5;1D7C5 1 3B8;1D7C6 1 3BA;1D7C7 1 3C6;1D7C8 1 3C1;1D7C9 1 3C0;1D7CA 2 3DC
1D7CE A 30;1D7D8 A 30;1D7E2 A 30;1D7EC A 30;1D7F6 A 30;1DFD0 1 263;1DFD8 1 1DF3E;1DFE4 1 1DF2C
1DFF1 1 235;1DFFF 1 1DF09;1E030 9 430;1E039 3 43A;1E03C B 43E;1E047 1 44B;1E048 2 44D;1E04A 1 A689
1E04B 1 4D9;1E04C 1 456;1E04D 1 458;1E04E 1 4E9;1E04F 1 4AF;1E050 1 4CF;1E051 9 430;1E05A 2 43A
1E05C 2 43E;1E05E 1 441;1E05F 6 443;1E065 2 44A;1E067 1 491;1E068 1 456;1E069 1 455;1E06A 1 45F
1E06B 1 4AB;1E06C 1 A651;1E06D 1 4B1;1EE00 2 627;1EE02 1 62C;1EE03 1 62F;1EE05 1 648;1EE06 1 632
1EE07 1 62D;1EE08 1 637;1EE09 1 64A;1EE0A 4 643;1EE0E 1 633;1EE0F 1 639;1EE10 1 641;1EE11 1 635
1EE12 1 642;1EE13 1 631;1EE14 1 634;1EE15 2 62A;1EE17 1 62E;1EE18 1 630;1EE19 1 636;1EE1A 1 638
1EE1B 1 63A;1EE1C 1 66E;1EE1D 1 6BA;1EE1E 1 6A1;1EE1F 1 66F;1EE21 1 628;1EE22 1 62C;1EE24 1 647
1EE27 1 62D;1EE29 1 64A;1EE2A 4 643;1EE2E 1 633;1EE2F 1 639;1EE30 1 641;1EE31 1 635;1EE32 1 642
1EE34 1 634;1EE35 2 62A;1EE37 1 62E;1EE39 1 636;1EE3B 1 63A;1EE42 1 62C;1EE47 1 62D;1EE49 1 64A
1EE4B 1 644;1EE4D 1 646;1EE4E 1 633;1EE4F 1 639;1EE51 1 635;1EE52 1 642;1EE54 1 634;1EE57 1 62E
1EE59 1 636;1EE5B 1 63A;1EE5D 1 6BA;1EE5F 1 66F;1EE61 1 628;1EE62 1 62C;1EE64 1 647;1EE67 1 62D
1EE68 1 637;1EE69 1 64A;1EE6A 1 643;1EE6C 2 645;1EE6E 1 633;1EE6F 1 639;1EE70 1 641;1EE71 1 635
1EE72 1 642;1EE74 1 634;1EE75 2 62A;1EE77 1 62E;1EE79 1 636;1EE7A 1 638;1EE7B 1 63A;1EE7C 1 66E
1EE7E 1 6A1;1EE80 2 627;1EE82 1 62C;1EE83 1 62F;1EE84 2 647;1EE86 1 632;1EE87 1 62D;1EE88 1 637
1EE89 1 64A;1EE8B 3 644;1EE8E 1 633;1EE8F 1 639;1EE90 1 641;1EE91 1 635;1EE92 1 642;1EE93 1 631
1EE94 1 634;1EE95 2 62A;1EE97 1 62E;1EE98 1 630;1EE99 1 636;1EE9A 1 638;1EE9B 1 63A;1EEA1 1 628
1EEA2 1 62C;1EEA3 1 62F;1EEA5 1 648;1EEA6 1 632;1EEA7 1 62D;1EEA8 1 637;1EEA9 1 64A;1EEAB 3 644
1EEAE 1 633;1EEAF 1 639;1EEB0 1 641;1EEB1 1 635;1EEB2 1 642;1EEB3 1 631;1EEB4 1 634;1EEB5 2 62A
1EEB7 1 62E;1EEB8 1 630;1EEB9 1 636;1EEBA 1 638;1EEBB 1 63A;1F100 1 30 2E;1F101 1 30 2C
1F102 1 31 2C;1F103 1 32 2C;1F104 1 33 2C;1F105 1 34 2C;1F106 1 35 2C;1F107 1 36 2C;1F108 1 37 2C
1F109 1 38 2C;1F10A 1 39 2C;1F110 1 28 41 29;1F111 1 28 42 29;1F112 1 28 43 29;1F113 1 28 44 29
1F114 1 28 45 29;1F115 1 28 46 29;1F116 1 28 47 29;1F117 1 28 48 29;1F118 1 28 49 29
1F119 1 28 4A 29;1F11A 1 28 4B 29;1F11B 1 28 4C 29;1F11C 1 28 4D 29;1F11D 1 28 4E 29
1F11E 1 28 4F 29;1F11F 1 28 50 29;1F120 1 28 51 29;1F121 1 28 52 29;1F122 1 28 53 29
1F123 1 28 54 29;1F124 1 28 55 29;1F125 1 28 56 29;1F126 1 28 57 29;1F127 1 28 58 29
1F128 1 28 59 29;1F129 1 28 5A 29;1F12A 1 3014 53 3015;1F12B 1 43;1F12C 1 52;1F12D 1 43 44
1F12E 1 57 5A;1F130 1A 41;1F14A 1 48 56;1F14B 1 4D 56;1F14C 1 53 44;1F14D 1 53 53;1F14E 1 50 50 56
1F14F 1 57 43;1F16A 1 4D 43;1F16B 1 4D 44;1F16C 1 4D 52;1F190 1 44 4A;1F200 1 307B 304B
1F201 1 30B3 30B3;1F202 1 30B5;1F210 1 624B;1F211 1 5B57;1F212 1 53CC;1F213 1 30C6 3099
1F214 1 4E8C;1F215 1 591A;1F216 1 89E3;1F217 1 5929;1F218 1 4EA4;1F219 1 6620;1F21A 1 7121
1F21B 1 6599;1F21C 1 524D;1F21D 1 5F8C;1F21E 1 518D;1F21F 1 65B0;1F220 1 521D;1F221 1 7D42
1F222 1 751F;1F223 1 8CA9;1F224 1 58F0;1F225 1 5439;1F226 1 6F14;1F227 1 6295;1F228 1 6355
1F229 1 4E00;1F22A 1 4E09;1F22B 1 904A;1F22C 1 5DE6;1F22D 1 4E2D;1F22E 1 53F3;1F22F 1 6307
1F230 1 8D70;1F231 1 6253;1F232 1 7981;1F233 1 7A7A;1F234 1 5408;1F235 1 6E80;1F236 1 6709
1F237 1 6708;1F238 1 7533;1F239 1 5272;1F23A 1 55B6;1F23B 1 914D;1F240 1 3014 672C 3015
1F241 1 3014 4E09 3015;1F242 1 3014 4E8C 3015;1F243 1 3014 5B89 3015;1F244 1 3014 70B9 3015
1F245 1 3014 6253 3015;1F246 1 3014 76D7 3015;1F247 1 3014 52DD 3015;1F248 1 3014 6557 3015
1F250 1 5F97;1F251 1 53EF;1FBF0 A 30"

/-- The compatibility decomposition of a character, which is the canonical one unless the table
says otherwise. -/
def compatibilityDecomposition (c : Char) : List Char :=
  if c.toNat < 0xA0 then [c]
  else (compatibilityDecompositions.image? c).getD (canonicalDecomposition c)

end Polyvoice.Unicode
