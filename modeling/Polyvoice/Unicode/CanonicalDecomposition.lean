import Polyvoice.Unicode.Table

/-!
# Canonical decomposition

The full canonical decomposition of every character that has one. The rows are those of Unicode
17.0, which no later version changes; none is known that 18.0 adds. Hangul syllables are not listed:
their parts are computed in `Polyvoice.Unicode.Hangul`. Nor are blanks, which are in
`Polyvoice.Unicode.Blank`.
-/

namespace Polyvoice.Unicode

/-- Rows of the form `first count image…`. -/
def canonicalDecompositions : Spreads := .readCounted "
C0 1 41 300;C1 1 41 301;C2 1 41 302;C3 1 41 303;C4 1 41 308;C5 1 41 30A;C7 1 43 327;C8 1 45 300
C9 1 45 301;CA 1 45 302;CB 1 45 308;CC 1 49 300;CD 1 49 301;CE 1 49 302;CF 1 49 308;D1 1 4E 303
D2 1 4F 300;D3 1 4F 301;D4 1 4F 302;D5 1 4F 303;D6 1 4F 308;D9 1 55 300;DA 1 55 301;DB 1 55 302
DC 1 55 308;DD 1 59 301;E0 1 61 300;E1 1 61 301;E2 1 61 302;E3 1 61 303;E4 1 61 308;E5 1 61 30A
E7 1 63 327;E8 1 65 300;E9 1 65 301;EA 1 65 302;EB 1 65 308;EC 1 69 300;ED 1 69 301;EE 1 69 302
EF 1 69 308;F1 1 6E 303;F2 1 6F 300;F3 1 6F 301;F4 1 6F 302;F5 1 6F 303;F6 1 6F 308;F9 1 75 300
FA 1 75 301;FB 1 75 302;FC 1 75 308;FD 1 79 301;FF 1 79 308;100 1 41 304;101 1 61 304;102 1 41 306
103 1 61 306;104 1 41 328;105 1 61 328;106 1 43 301;107 1 63 301;108 1 43 302;109 1 63 302
10A 1 43 307;10B 1 63 307;10C 1 43 30C;10D 1 63 30C;10E 1 44 30C;10F 1 64 30C;112 1 45 304
113 1 65 304;114 1 45 306;115 1 65 306;116 1 45 307;117 1 65 307;118 1 45 328;119 1 65 328
11A 1 45 30C;11B 1 65 30C;11C 1 47 302;11D 1 67 302;11E 1 47 306;11F 1 67 306;120 1 47 307
121 1 67 307;122 1 47 327;123 1 67 327;124 1 48 302;125 1 68 302;128 1 49 303;129 1 69 303
12A 1 49 304;12B 1 69 304;12C 1 49 306;12D 1 69 306;12E 1 49 328;12F 1 69 328;130 1 49 307
134 1 4A 302;135 1 6A 302;136 1 4B 327;137 1 6B 327;139 1 4C 301;13A 1 6C 301;13B 1 4C 327
13C 1 6C 327;13D 1 4C 30C;13E 1 6C 30C;143 1 4E 301;144 1 6E 301;145 1 4E 327;146 1 6E 327
147 1 4E 30C;148 1 6E 30C;14C 1 4F 304;14D 1 6F 304;14E 1 4F 306;14F 1 6F 306;150 1 4F 30B
151 1 6F 30B;154 1 52 301;155 1 72 301;156 1 52 327;157 1 72 327;158 1 52 30C;159 1 72 30C
15A 1 53 301;15B 1 73 301;15C 1 53 302;15D 1 73 302;15E 1 53 327;15F 1 73 327;160 1 53 30C
161 1 73 30C;162 1 54 327;163 1 74 327;164 1 54 30C;165 1 74 30C;168 1 55 303;169 1 75 303
16A 1 55 304;16B 1 75 304;16C 1 55 306;16D 1 75 306;16E 1 55 30A;16F 1 75 30A;170 1 55 30B
171 1 75 30B;172 1 55 328;173 1 75 328;174 1 57 302;175 1 77 302;176 1 59 302;177 1 79 302
178 1 59 308;179 1 5A 301;17A 1 7A 301;17B 1 5A 307;17C 1 7A 307;17D 1 5A 30C;17E 1 7A 30C
1A0 1 4F 31B;1A1 1 6F 31B;1AF 1 55 31B;1B0 1 75 31B;1CD 1 41 30C;1CE 1 61 30C;1CF 1 49 30C
1D0 1 69 30C;1D1 1 4F 30C;1D2 1 6F 30C;1D3 1 55 30C;1D4 1 75 30C;1D5 1 55 308 304;1D6 1 75 308 304
1D7 1 55 308 301;1D8 1 75 308 301;1D9 1 55 308 30C;1DA 1 75 308 30C;1DB 1 55 308 300
1DC 1 75 308 300;1DE 1 41 308 304;1DF 1 61 308 304;1E0 1 41 307 304;1E1 1 61 307 304;1E2 1 C6 304
1E3 1 E6 304;1E6 1 47 30C;1E7 1 67 30C;1E8 1 4B 30C;1E9 1 6B 30C;1EA 1 4F 328;1EB 1 6F 328
1EC 1 4F 328 304;1ED 1 6F 328 304;1EE 1 1B7 30C;1EF 1 292 30C;1F0 1 6A 30C;1F4 1 47 301
1F5 1 67 301;1F8 1 4E 300;1F9 1 6E 300;1FA 1 41 30A 301;1FB 1 61 30A 301;1FC 1 C6 301;1FD 1 E6 301
1FE 1 D8 301;1FF 1 F8 301;200 1 41 30F;201 1 61 30F;202 1 41 311;203 1 61 311;204 1 45 30F
205 1 65 30F;206 1 45 311;207 1 65 311;208 1 49 30F;209 1 69 30F;20A 1 49 311;20B 1 69 311
20C 1 4F 30F;20D 1 6F 30F;20E 1 4F 311;20F 1 6F 311;210 1 52 30F;211 1 72 30F;212 1 52 311
213 1 72 311;214 1 55 30F;215 1 75 30F;216 1 55 311;217 1 75 311;218 1 53 326;219 1 73 326
21A 1 54 326;21B 1 74 326;21E 1 48 30C;21F 1 68 30C;226 1 41 307;227 1 61 307;228 1 45 327
229 1 65 327;22A 1 4F 308 304;22B 1 6F 308 304;22C 1 4F 303 304;22D 1 6F 303 304;22E 1 4F 307
22F 1 6F 307;230 1 4F 307 304;231 1 6F 307 304;232 1 59 304;233 1 79 304;340 2 300;343 1 313
344 1 308 301;374 1 2B9;37E 1 3B;385 1 A8 301;386 1 391 301;387 1 B7;388 1 395 301;389 1 397 301
38A 1 399 301;38C 1 39F 301;38E 1 3A5 301;38F 1 3A9 301;390 1 3B9 308 301;3AA 1 399 308
3AB 1 3A5 308;3AC 1 3B1 301;3AD 1 3B5 301;3AE 1 3B7 301;3AF 1 3B9 301;3B0 1 3C5 308 301
3CA 1 3B9 308;3CB 1 3C5 308;3CC 1 3BF 301;3CD 1 3C5 301;3CE 1 3C9 301;3D3 1 3D2 301;3D4 1 3D2 308
400 1 415 300;401 1 415 308;403 1 413 301;407 1 406 308;40C 1 41A 301;40D 1 418 300;40E 1 423 306
419 1 418 306;439 1 438 306;450 1 435 300;451 1 435 308;453 1 433 301;457 1 456 308;45C 1 43A 301
45D 1 438 300;45E 1 443 306;476 1 474 30F;477 1 475 30F;4C1 1 416 306;4C2 1 436 306;4D0 1 410 306
4D1 1 430 306;4D2 1 410 308;4D3 1 430 308;4D6 1 415 306;4D7 1 435 306;4DA 1 4D8 308;4DB 1 4D9 308
4DC 1 416 308;4DD 1 436 308;4DE 1 417 308;4DF 1 437 308;4E2 1 418 304;4E3 1 438 304;4E4 1 418 308
4E5 1 438 308;4E6 1 41E 308;4E7 1 43E 308;4EA 1 4E8 308;4EB 1 4E9 308;4EC 1 42D 308;4ED 1 44D 308
4EE 1 423 304;4EF 1 443 304;4F0 1 423 308;4F1 1 443 308;4F2 1 423 30B;4F3 1 443 30B;4F4 1 427 308
4F5 1 447 308;4F8 1 42B 308;4F9 1 44B 308;622 1 627 653;623 1 627 654;624 1 648 654;625 1 627 655
626 1 64A 654;6C0 1 6D5 654;6C2 1 6C1 654;6D3 1 6D2 654;929 1 928 93C;931 1 930 93C;934 1 933 93C
958 1 915 93C;959 1 916 93C;95A 1 917 93C;95B 1 91C 93C;95C 1 921 93C;95D 1 922 93C;95E 1 92B 93C
95F 1 92F 93C;9CB 1 9C7 9BE;9CC 1 9C7 9D7;9DC 1 9A1 9BC;9DD 1 9A2 9BC;9DF 1 9AF 9BC;A33 1 A32 A3C
A36 1 A38 A3C;A59 1 A16 A3C;A5A 1 A17 A3C;A5B 1 A1C A3C;A5E 1 A2B A3C;B48 1 B47 B56;B4B 1 B47 B3E
B4C 1 B47 B57;B5C 1 B21 B3C;B5D 1 B22 B3C;B94 1 B92 BD7;BCA 1 BC6 BBE;BCB 1 BC7 BBE;BCC 1 BC6 BD7
C48 1 C46 C56;CC0 1 CBF CD5;CC7 1 CC6 CD5;CC8 1 CC6 CD6;CCA 1 CC6 CC2;CCB 1 CC6 CC2 CD5
D4A 1 D46 D3E;D4B 1 D47 D3E;D4C 1 D46 D57;DDA 1 DD9 DCA;DDC 1 DD9 DCF;DDD 1 DD9 DCF DCA
DDE 1 DD9 DDF;F43 1 F42 FB7;F4D 1 F4C FB7;F52 1 F51 FB7;F57 1 F56 FB7;F5C 1 F5B FB7;F69 1 F40 FB5
F73 1 F71 F72;F75 1 F71 F74;F76 1 FB2 F80;F78 1 FB3 F80;F81 1 F71 F80;F93 1 F92 FB7;F9D 1 F9C FB7
FA2 1 FA1 FB7;FA7 1 FA6 FB7;FAC 1 FAB FB7;FB9 1 F90 FB5;1026 1 1025 102E;1B06 1 1B05 1B35
1B08 1 1B07 1B35;1B0A 1 1B09 1B35;1B0C 1 1B0B 1B35;1B0E 1 1B0D 1B35;1B12 1 1B11 1B35
1B3B 1 1B3A 1B35;1B3D 1 1B3C 1B35;1B40 1 1B3E 1B35;1B41 1 1B3F 1B35;1B43 1 1B42 1B35;1E00 1 41 325
1E01 1 61 325;1E02 1 42 307;1E03 1 62 307;1E04 1 42 323;1E05 1 62 323;1E06 1 42 331;1E07 1 62 331
1E08 1 43 327 301;1E09 1 63 327 301;1E0A 1 44 307;1E0B 1 64 307;1E0C 1 44 323;1E0D 1 64 323
1E0E 1 44 331;1E0F 1 64 331;1E10 1 44 327;1E11 1 64 327;1E12 1 44 32D;1E13 1 64 32D
1E14 1 45 304 300;1E15 1 65 304 300;1E16 1 45 304 301;1E17 1 65 304 301;1E18 1 45 32D
1E19 1 65 32D;1E1A 1 45 330;1E1B 1 65 330;1E1C 1 45 327 306;1E1D 1 65 327 306;1E1E 1 46 307
1E1F 1 66 307;1E20 1 47 304;1E21 1 67 304;1E22 1 48 307;1E23 1 68 307;1E24 1 48 323;1E25 1 68 323
1E26 1 48 308;1E27 1 68 308;1E28 1 48 327;1E29 1 68 327;1E2A 1 48 32E;1E2B 1 68 32E;1E2C 1 49 330
1E2D 1 69 330;1E2E 1 49 308 301;1E2F 1 69 308 301;1E30 1 4B 301;1E31 1 6B 301;1E32 1 4B 323
1E33 1 6B 323;1E34 1 4B 331;1E35 1 6B 331;1E36 1 4C 323;1E37 1 6C 323;1E38 1 4C 323 304
1E39 1 6C 323 304;1E3A 1 4C 331;1E3B 1 6C 331;1E3C 1 4C 32D;1E3D 1 6C 32D;1E3E 1 4D 301
1E3F 1 6D 301;1E40 1 4D 307;1E41 1 6D 307;1E42 1 4D 323;1E43 1 6D 323;1E44 1 4E 307;1E45 1 6E 307
1E46 1 4E 323;1E47 1 6E 323;1E48 1 4E 331;1E49 1 6E 331;1E4A 1 4E 32D;1E4B 1 6E 32D
1E4C 1 4F 303 301;1E4D 1 6F 303 301;1E4E 1 4F 303 308;1E4F 1 6F 303 308;1E50 1 4F 304 300
1E51 1 6F 304 300;1E52 1 4F 304 301;1E53 1 6F 304 301;1E54 1 50 301;1E55 1 70 301;1E56 1 50 307
1E57 1 70 307;1E58 1 52 307;1E59 1 72 307;1E5A 1 52 323;1E5B 1 72 323;1E5C 1 52 323 304
1E5D 1 72 323 304;1E5E 1 52 331;1E5F 1 72 331;1E60 1 53 307;1E61 1 73 307;1E62 1 53 323
1E63 1 73 323;1E64 1 53 301 307;1E65 1 73 301 307;1E66 1 53 30C 307;1E67 1 73 30C 307
1E68 1 53 323 307;1E69 1 73 323 307;1E6A 1 54 307;1E6B 1 74 307;1E6C 1 54 323;1E6D 1 74 323
1E6E 1 54 331;1E6F 1 74 331;1E70 1 54 32D;1E71 1 74 32D;1E72 1 55 324;1E73 1 75 324;1E74 1 55 330
1E75 1 75 330;1E76 1 55 32D;1E77 1 75 32D;1E78 1 55 303 301;1E79 1 75 303 301;1E7A 1 55 304 308
1E7B 1 75 304 308;1E7C 1 56 303;1E7D 1 76 303;1E7E 1 56 323;1E7F 1 76 323;1E80 1 57 300
1E81 1 77 300;1E82 1 57 301;1E83 1 77 301;1E84 1 57 308;1E85 1 77 308;1E86 1 57 307;1E87 1 77 307
1E88 1 57 323;1E89 1 77 323;1E8A 1 58 307;1E8B 1 78 307;1E8C 1 58 308;1E8D 1 78 308;1E8E 1 59 307
1E8F 1 79 307;1E90 1 5A 302;1E91 1 7A 302;1E92 1 5A 323;1E93 1 7A 323;1E94 1 5A 331;1E95 1 7A 331
1E96 1 68 331;1E97 1 74 308;1E98 1 77 30A;1E99 1 79 30A;1E9B 1 17F 307;1EA0 1 41 323;1EA1 1 61 323
1EA2 1 41 309;1EA3 1 61 309;1EA4 1 41 302 301;1EA5 1 61 302 301;1EA6 1 41 302 300
1EA7 1 61 302 300;1EA8 1 41 302 309;1EA9 1 61 302 309;1EAA 1 41 302 303;1EAB 1 61 302 303
1EAC 1 41 323 302;1EAD 1 61 323 302;1EAE 1 41 306 301;1EAF 1 61 306 301;1EB0 1 41 306 300
1EB1 1 61 306 300;1EB2 1 41 306 309;1EB3 1 61 306 309;1EB4 1 41 306 303;1EB5 1 61 306 303
1EB6 1 41 323 306;1EB7 1 61 323 306;1EB8 1 45 323;1EB9 1 65 323;1EBA 1 45 309;1EBB 1 65 309
1EBC 1 45 303;1EBD 1 65 303;1EBE 1 45 302 301;1EBF 1 65 302 301;1EC0 1 45 302 300
1EC1 1 65 302 300;1EC2 1 45 302 309;1EC3 1 65 302 309;1EC4 1 45 302 303;1EC5 1 65 302 303
1EC6 1 45 323 302;1EC7 1 65 323 302;1EC8 1 49 309;1EC9 1 69 309;1ECA 1 49 323;1ECB 1 69 323
1ECC 1 4F 323;1ECD 1 6F 323;1ECE 1 4F 309;1ECF 1 6F 309;1ED0 1 4F 302 301;1ED1 1 6F 302 301
1ED2 1 4F 302 300;1ED3 1 6F 302 300;1ED4 1 4F 302 309;1ED5 1 6F 302 309;1ED6 1 4F 302 303
1ED7 1 6F 302 303;1ED8 1 4F 323 302;1ED9 1 6F 323 302;1EDA 1 4F 31B 301;1EDB 1 6F 31B 301
1EDC 1 4F 31B 300;1EDD 1 6F 31B 300;1EDE 1 4F 31B 309;1EDF 1 6F 31B 309;1EE0 1 4F 31B 303
1EE1 1 6F 31B 303;1EE2 1 4F 31B 323;1EE3 1 6F 31B 323;1EE4 1 55 323;1EE5 1 75 323;1EE6 1 55 309
1EE7 1 75 309;1EE8 1 55 31B 301;1EE9 1 75 31B 301;1EEA 1 55 31B 300;1EEB 1 75 31B 300
1EEC 1 55 31B 309;1EED 1 75 31B 309;1EEE 1 55 31B 303;1EEF 1 75 31B 303;1EF0 1 55 31B 323
1EF1 1 75 31B 323;1EF2 1 59 300;1EF3 1 79 300;1EF4 1 59 323;1EF5 1 79 323;1EF6 1 59 309
1EF7 1 79 309;1EF8 1 59 303;1EF9 1 79 303;1F00 1 3B1 313;1F01 1 3B1 314;1F02 1 3B1 313 300
1F03 1 3B1 314 300;1F04 1 3B1 313 301;1F05 1 3B1 314 301;1F06 1 3B1 313 342;1F07 1 3B1 314 342
1F08 1 391 313;1F09 1 391 314;1F0A 1 391 313 300;1F0B 1 391 314 300;1F0C 1 391 313 301
1F0D 1 391 314 301;1F0E 1 391 313 342;1F0F 1 391 314 342;1F10 1 3B5 313;1F11 1 3B5 314
1F12 1 3B5 313 300;1F13 1 3B5 314 300;1F14 1 3B5 313 301;1F15 1 3B5 314 301;1F18 1 395 313
1F19 1 395 314;1F1A 1 395 313 300;1F1B 1 395 314 300;1F1C 1 395 313 301;1F1D 1 395 314 301
1F20 1 3B7 313;1F21 1 3B7 314;1F22 1 3B7 313 300;1F23 1 3B7 314 300;1F24 1 3B7 313 301
1F25 1 3B7 314 301;1F26 1 3B7 313 342;1F27 1 3B7 314 342;1F28 1 397 313;1F29 1 397 314
1F2A 1 397 313 300;1F2B 1 397 314 300;1F2C 1 397 313 301;1F2D 1 397 314 301;1F2E 1 397 313 342
1F2F 1 397 314 342;1F30 1 3B9 313;1F31 1 3B9 314;1F32 1 3B9 313 300;1F33 1 3B9 314 300
1F34 1 3B9 313 301;1F35 1 3B9 314 301;1F36 1 3B9 313 342;1F37 1 3B9 314 342;1F38 1 399 313
1F39 1 399 314;1F3A 1 399 313 300;1F3B 1 399 314 300;1F3C 1 399 313 301;1F3D 1 399 314 301
1F3E 1 399 313 342;1F3F 1 399 314 342;1F40 1 3BF 313;1F41 1 3BF 314;1F42 1 3BF 313 300
1F43 1 3BF 314 300;1F44 1 3BF 313 301;1F45 1 3BF 314 301;1F48 1 39F 313;1F49 1 39F 314
1F4A 1 39F 313 300;1F4B 1 39F 314 300;1F4C 1 39F 313 301;1F4D 1 39F 314 301;1F50 1 3C5 313
1F51 1 3C5 314;1F52 1 3C5 313 300;1F53 1 3C5 314 300;1F54 1 3C5 313 301;1F55 1 3C5 314 301
1F56 1 3C5 313 342;1F57 1 3C5 314 342;1F59 1 3A5 314;1F5B 1 3A5 314 300;1F5D 1 3A5 314 301
1F5F 1 3A5 314 342;1F60 1 3C9 313;1F61 1 3C9 314;1F62 1 3C9 313 300;1F63 1 3C9 314 300
1F64 1 3C9 313 301;1F65 1 3C9 314 301;1F66 1 3C9 313 342;1F67 1 3C9 314 342;1F68 1 3A9 313
1F69 1 3A9 314;1F6A 1 3A9 313 300;1F6B 1 3A9 314 300;1F6C 1 3A9 313 301;1F6D 1 3A9 314 301
1F6E 1 3A9 313 342;1F6F 1 3A9 314 342;1F70 1 3B1 300;1F71 1 3B1 301;1F72 1 3B5 300;1F73 1 3B5 301
1F74 1 3B7 300;1F75 1 3B7 301;1F76 1 3B9 300;1F77 1 3B9 301;1F78 1 3BF 300;1F79 1 3BF 301
1F7A 1 3C5 300;1F7B 1 3C5 301;1F7C 1 3C9 300;1F7D 1 3C9 301;1F80 1 3B1 313 345;1F81 1 3B1 314 345
1F82 1 3B1 313 300 345;1F83 1 3B1 314 300 345;1F84 1 3B1 313 301 345;1F85 1 3B1 314 301 345
1F86 1 3B1 313 342 345;1F87 1 3B1 314 342 345;1F88 1 391 313 345;1F89 1 391 314 345
1F8A 1 391 313 300 345;1F8B 1 391 314 300 345;1F8C 1 391 313 301 345;1F8D 1 391 314 301 345
1F8E 1 391 313 342 345;1F8F 1 391 314 342 345;1F90 1 3B7 313 345;1F91 1 3B7 314 345
1F92 1 3B7 313 300 345;1F93 1 3B7 314 300 345;1F94 1 3B7 313 301 345;1F95 1 3B7 314 301 345
1F96 1 3B7 313 342 345;1F97 1 3B7 314 342 345;1F98 1 397 313 345;1F99 1 397 314 345
1F9A 1 397 313 300 345;1F9B 1 397 314 300 345;1F9C 1 397 313 301 345;1F9D 1 397 314 301 345
1F9E 1 397 313 342 345;1F9F 1 397 314 342 345;1FA0 1 3C9 313 345;1FA1 1 3C9 314 345
1FA2 1 3C9 313 300 345;1FA3 1 3C9 314 300 345;1FA4 1 3C9 313 301 345;1FA5 1 3C9 314 301 345
1FA6 1 3C9 313 342 345;1FA7 1 3C9 314 342 345;1FA8 1 3A9 313 345;1FA9 1 3A9 314 345
1FAA 1 3A9 313 300 345;1FAB 1 3A9 314 300 345;1FAC 1 3A9 313 301 345;1FAD 1 3A9 314 301 345
1FAE 1 3A9 313 342 345;1FAF 1 3A9 314 342 345;1FB0 1 3B1 306;1FB1 1 3B1 304;1FB2 1 3B1 300 345
1FB3 1 3B1 345;1FB4 1 3B1 301 345;1FB6 1 3B1 342;1FB7 1 3B1 342 345;1FB8 1 391 306;1FB9 1 391 304
1FBA 1 391 300;1FBB 1 391 301;1FBC 1 391 345;1FBE 1 3B9;1FC1 1 A8 342;1FC2 1 3B7 300 345
1FC3 1 3B7 345;1FC4 1 3B7 301 345;1FC6 1 3B7 342;1FC7 1 3B7 342 345;1FC8 1 395 300;1FC9 1 395 301
1FCA 1 397 300;1FCB 1 397 301;1FCC 1 397 345;1FCD 1 1FBF 300;1FCE 1 1FBF 301;1FCF 1 1FBF 342
1FD0 1 3B9 306;1FD1 1 3B9 304;1FD2 1 3B9 308 300;1FD3 1 3B9 308 301;1FD6 1 3B9 342
1FD7 1 3B9 308 342;1FD8 1 399 306;1FD9 1 399 304;1FDA 1 399 300;1FDB 1 399 301;1FDD 1 1FFE 300
1FDE 1 1FFE 301;1FDF 1 1FFE 342;1FE0 1 3C5 306;1FE1 1 3C5 304;1FE2 1 3C5 308 300
1FE3 1 3C5 308 301;1FE4 1 3C1 313;1FE5 1 3C1 314;1FE6 1 3C5 342;1FE7 1 3C5 308 342;1FE8 1 3A5 306
1FE9 1 3A5 304;1FEA 1 3A5 300;1FEB 1 3A5 301;1FEC 1 3A1 314;1FED 1 A8 300;1FEE 1 A8 301;1FEF 1 60
1FF2 1 3C9 300 345;1FF3 1 3C9 345;1FF4 1 3C9 301 345;1FF6 1 3C9 342;1FF7 1 3C9 342 345
1FF8 1 39F 300;1FF9 1 39F 301;1FFA 1 3A9 300;1FFB 1 3A9 301;1FFC 1 3A9 345;1FFD 1 B4
2126 1 3A9;212A 1 4B;212B 1 41 30A;219A 1 2190 338;219B 1 2192 338;21AE 1 2194 338;21CD 1 21D0 338
21CE 1 21D4 338;21CF 1 21D2 338;2204 1 2203 338;2209 1 2208 338;220C 1 220B 338;2224 1 2223 338
2226 1 2225 338;2241 1 223C 338;2244 1 2243 338;2247 1 2245 338;2249 1 2248 338;2260 1 3D 338
2262 1 2261 338;226D 1 224D 338;226E 1 3C 338;226F 1 3E 338;2270 1 2264 338;2271 1 2265 338
2274 1 2272 338;2275 1 2273 338;2278 1 2276 338;2279 1 2277 338;2280 1 227A 338;2281 1 227B 338
2284 1 2282 338;2285 1 2283 338;2288 1 2286 338;2289 1 2287 338;22AC 1 22A2 338;22AD 1 22A8 338
22AE 1 22A9 338;22AF 1 22AB 338;22E0 1 227C 338;22E1 1 227D 338;22E2 1 2291 338;22E3 1 2292 338
22EA 1 22B2 338;22EB 1 22B3 338;22EC 1 22B4 338;22ED 1 22B5 338;2329 2 3008;2ADC 1 2ADD 338
304C 1 304B 3099;304E 1 304D 3099;3050 1 304F 3099;3052 1 3051 3099;3054 1 3053 3099
3056 1 3055 3099;3058 1 3057 3099;305A 1 3059 3099;305C 1 305B 3099;305E 1 305D 3099
3060 1 305F 3099;3062 1 3061 3099;3065 1 3064 3099;3067 1 3066 3099;3069 1 3068 3099
3070 1 306F 3099;3071 1 306F 309A;3073 1 3072 3099;3074 1 3072 309A;3076 1 3075 3099
3077 1 3075 309A;3079 1 3078 3099;307A 1 3078 309A;307C 1 307B 3099;307D 1 307B 309A
3094 1 3046 3099;309E 1 309D 3099;30AC 1 30AB 3099;30AE 1 30AD 3099;30B0 1 30AF 3099
30B2 1 30B1 3099;30B4 1 30B3 3099;30B6 1 30B5 3099;30B8 1 30B7 3099;30BA 1 30B9 3099
30BC 1 30BB 3099;30BE 1 30BD 3099;30C0 1 30BF 3099;30C2 1 30C1 3099;30C5 1 30C4 3099
30C7 1 30C6 3099;30C9 1 30C8 3099;30D0 1 30CF 3099;30D1 1 30CF 309A;30D3 1 30D2 3099
30D4 1 30D2 309A;30D6 1 30D5 3099;30D7 1 30D5 309A;30D9 1 30D8 3099;30DA 1 30D8 309A
30DC 1 30DB 3099;30DD 1 30DB 309A;30F4 1 30A6 3099;30F7 1 30EF 3099;30F8 1 30F0 3099
30F9 1 30F1 3099;30FA 1 30F2 3099;30FE 1 30FD 3099;F900 1 8C48;F901 1 66F4;F902 1 8ECA;F903 1 8CC8
F904 1 6ED1;F905 1 4E32;F906 1 53E5;F907 1 9F9C;F908 1 9F9C;F909 1 5951;F90A 1 91D1;F90B 1 5587
F90C 1 5948;F90D 1 61F6;F90E 1 7669;F90F 1 7F85;F910 1 863F;F911 1 87BA;F912 1 88F8;F913 1 908F
F914 1 6A02;F915 1 6D1B;F916 1 70D9;F917 1 73DE;F918 1 843D;F919 1 916A;F91A 1 99F1;F91B 1 4E82
F91C 1 5375;F91D 1 6B04;F91E 1 721B;F91F 1 862D;F920 1 9E1E;F921 1 5D50;F922 1 6FEB;F923 1 85CD
F924 1 8964;F925 1 62C9;F926 1 81D8;F927 1 881F;F928 1 5ECA;F929 1 6717;F92A 1 6D6A;F92B 1 72FC
F92C 1 90CE;F92D 1 4F86;F92E 1 51B7;F92F 1 52DE;F930 1 64C4;F931 1 6AD3;F932 1 7210;F933 1 76E7
F934 1 8001;F935 1 8606;F936 1 865C;F937 1 8DEF;F938 1 9732;F939 1 9B6F;F93A 1 9DFA;F93B 1 788C
F93C 1 797F;F93D 1 7DA0;F93E 1 83C9;F93F 1 9304;F940 1 9E7F;F941 1 8AD6;F942 1 58DF;F943 1 5F04
F944 1 7C60;F945 1 807E;F946 1 7262;F947 1 78CA;F948 1 8CC2;F949 1 96F7;F94A 1 58D8;F94B 1 5C62
F94C 1 6A13;F94D 1 6DDA;F94E 1 6F0F;F94F 1 7D2F;F950 1 7E37;F951 1 964B;F952 1 52D2;F953 1 808B
F954 1 51DC;F955 1 51CC;F956 1 7A1C;F957 1 7DBE;F958 1 83F1;F959 1 9675;F95A 1 8B80;F95B 1 62CF
F95C 1 6A02;F95D 1 8AFE;F95E 1 4E39;F95F 1 5BE7;F960 1 6012;F961 1 7387;F962 1 7570;F963 1 5317
F964 1 78FB;F965 1 4FBF;F966 1 5FA9;F967 1 4E0D;F968 1 6CCC;F969 1 6578;F96A 1 7D22;F96B 1 53C3
F96C 1 585E;F96D 1 7701;F96E 1 8449;F96F 1 8AAA;F970 1 6BBA;F971 1 8FB0;F972 1 6C88;F973 1 62FE
F974 1 82E5;F975 1 63A0;F976 1 7565;F977 1 4EAE;F978 1 5169;F979 1 51C9;F97A 1 6881;F97B 1 7CE7
F97C 1 826F;F97D 1 8AD2;F97E 1 91CF;F97F 1 52F5;F980 1 5442;F981 1 5973;F982 1 5EEC;F983 1 65C5
F984 1 6FFE;F985 1 792A;F986 1 95AD;F987 1 9A6A;F988 1 9E97;F989 1 9ECE;F98A 1 529B;F98B 1 66C6
F98C 1 6B77;F98D 1 8F62;F98E 1 5E74;F98F 1 6190;F990 1 6200;F991 1 649A;F992 1 6F23;F993 1 7149
F994 1 7489;F995 1 79CA;F996 1 7DF4;F997 1 806F;F998 1 8F26;F999 1 84EE;F99A 1 9023;F99B 1 934A
F99C 1 5217;F99D 1 52A3;F99E 1 54BD;F99F 1 70C8;F9A0 1 88C2;F9A1 1 8AAA;F9A2 1 5EC9;F9A3 1 5FF5
F9A4 1 637B;F9A5 1 6BAE;F9A6 1 7C3E;F9A7 1 7375;F9A8 1 4EE4;F9A9 1 56F9;F9AA 1 5BE7;F9AB 1 5DBA
F9AC 1 601C;F9AD 1 73B2;F9AE 1 7469;F9AF 1 7F9A;F9B0 1 8046;F9B1 1 9234;F9B2 1 96F6;F9B3 1 9748
F9B4 1 9818;F9B5 1 4F8B;F9B6 1 79AE;F9B7 1 91B4;F9B8 1 96B8;F9B9 1 60E1;F9BA 1 4E86;F9BB 1 50DA
F9BC 1 5BEE;F9BD 1 5C3F;F9BE 1 6599;F9BF 1 6A02;F9C0 1 71CE;F9C1 1 7642;F9C2 1 84FC;F9C3 1 907C
F9C4 1 9F8D;F9C5 1 6688;F9C6 1 962E;F9C7 1 5289;F9C8 1 677B;F9C9 1 67F3;F9CA 1 6D41;F9CB 1 6E9C
F9CC 1 7409;F9CD 1 7559;F9CE 1 786B;F9CF 1 7D10;F9D0 1 985E;F9D1 1 516D;F9D2 1 622E;F9D3 1 9678
F9D4 1 502B;F9D5 1 5D19;F9D6 1 6DEA;F9D7 1 8F2A;F9D8 1 5F8B;F9D9 1 6144;F9DA 1 6817;F9DB 1 7387
F9DC 1 9686;F9DD 1 5229;F9DE 1 540F;F9DF 1 5C65;F9E0 1 6613;F9E1 1 674E;F9E2 1 68A8;F9E3 1 6CE5
F9E4 1 7406;F9E5 1 75E2;F9E6 1 7F79;F9E7 1 88CF;F9E8 1 88E1;F9E9 1 91CC;F9EA 1 96E2;F9EB 1 533F
F9EC 1 6EBA;F9ED 1 541D;F9EE 1 71D0;F9EF 1 7498;F9F0 1 85FA;F9F1 1 96A3;F9F2 1 9C57;F9F3 1 9E9F
F9F4 1 6797;F9F5 1 6DCB;F9F6 1 81E8;F9F7 1 7ACB;F9F8 1 7B20;F9F9 1 7C92;F9FA 1 72C0;F9FB 1 7099
F9FC 1 8B58;F9FD 1 4EC0;F9FE 1 8336;F9FF 1 523A;FA00 1 5207;FA01 1 5EA6;FA02 1 62D3;FA03 1 7CD6
FA04 1 5B85;FA05 1 6D1E;FA06 1 66B4;FA07 1 8F3B;FA08 1 884C;FA09 1 964D;FA0A 1 898B;FA0B 1 5ED3
FA0C 1 5140;FA0D 1 55C0;FA10 1 585A;FA12 1 6674;FA15 1 51DE;FA16 1 732A;FA17 1 76CA;FA18 1 793C
FA19 1 795E;FA1A 1 7965;FA1B 1 798F;FA1C 1 9756;FA1D 1 7CBE;FA1E 1 7FBD;FA20 1 8612;FA22 1 8AF8
FA25 1 9038;FA26 1 90FD;FA2A 1 98EF;FA2B 1 98FC;FA2C 1 9928;FA2D 1 9DB4;FA2E 1 90DE;FA2F 1 96B7
FA30 1 4FAE;FA31 1 50E7;FA32 1 514D;FA33 1 52C9;FA34 1 52E4;FA35 1 5351;FA36 1 559D;FA37 1 5606
FA38 1 5668;FA39 1 5840;FA3A 1 58A8;FA3B 1 5C64;FA3C 1 5C6E;FA3D 1 6094;FA3E 1 6168;FA3F 1 618E
FA40 1 61F2;FA41 1 654F;FA42 1 65E2;FA43 1 6691;FA44 1 6885;FA45 1 6D77;FA46 1 6E1A;FA47 1 6F22
FA48 1 716E;FA49 1 722B;FA4A 1 7422;FA4B 1 7891;FA4C 1 793E;FA4D 1 7949;FA4E 1 7948;FA4F 1 7950
FA50 1 7956;FA51 1 795D;FA52 2 798D;FA54 1 7A40;FA55 1 7A81;FA56 1 7BC0;FA57 1 7DF4;FA58 1 7E09
FA59 1 7E41;FA5A 1 7F72;FA5B 1 8005;FA5C 1 81ED;FA5D 1 8279;FA5E 1 8279;FA5F 1 8457;FA60 1 8910
FA61 1 8996;FA62 1 8B01;FA63 1 8B39;FA64 1 8CD3;FA65 1 8D08;FA66 1 8FB6;FA67 1 9038;FA68 1 96E3
FA69 1 97FF;FA6A 1 983B;FA6B 1 6075;FA6C 1 242EE;FA6D 1 8218;FA70 1 4E26;FA71 1 51B5;FA72 1 5168
FA73 1 4F80;FA74 1 5145;FA75 1 5180;FA76 1 52C7;FA77 1 52FA;FA78 1 559D;FA79 1 5555;FA7A 1 5599
FA7B 1 55E2;FA7C 1 585A;FA7D 1 58B3;FA7E 1 5944;FA7F 1 5954;FA80 1 5A62;FA81 1 5B28;FA82 1 5ED2
FA83 1 5ED9;FA84 1 5F69;FA85 1 5FAD;FA86 1 60D8;FA87 1 614E;FA88 1 6108;FA89 1 618E;FA8A 1 6160
FA8B 1 61F2;FA8C 1 6234;FA8D 1 63C4;FA8E 1 641C;FA8F 1 6452;FA90 1 6556;FA91 1 6674;FA92 1 6717
FA93 1 671B;FA94 1 6756;FA95 1 6B79;FA96 1 6BBA;FA97 1 6D41;FA98 1 6EDB;FA99 1 6ECB;FA9A 1 6F22
FA9B 1 701E;FA9C 1 716E;FA9D 1 77A7;FA9E 1 7235;FA9F 1 72AF;FAA0 1 732A;FAA1 1 7471;FAA2 1 7506
FAA3 1 753B;FAA4 1 761D;FAA5 1 761F;FAA6 1 76CA;FAA7 1 76DB;FAA8 1 76F4;FAA9 1 774A;FAAA 1 7740
FAAB 1 78CC;FAAC 1 7AB1;FAAD 1 7BC0;FAAE 1 7C7B;FAAF 1 7D5B;FAB0 1 7DF4;FAB1 1 7F3E;FAB2 1 8005
FAB3 1 8352;FAB4 1 83EF;FAB5 1 8779;FAB6 1 8941;FAB7 1 8986;FAB8 1 8996;FAB9 1 8ABF;FABA 1 8AF8
FABB 1 8ACB;FABC 1 8B01;FABD 1 8AFE;FABE 1 8AED;FABF 1 8B39;FAC0 1 8B8A;FAC1 1 8D08;FAC2 1 8F38
FAC3 1 9072;FAC4 1 9199;FAC5 1 9276;FAC6 1 967C;FAC7 1 96E3;FAC8 1 9756;FAC9 1 97DB;FACA 1 97FF
FACB 1 980B;FACC 1 983B;FACD 1 9B12;FACE 1 9F9C;FACF 1 2284A;FAD0 1 22844;FAD1 1 233D5;FAD2 1 3B9D
FAD3 1 4018;FAD4 1 4039;FAD5 1 25249;FAD6 1 25CD0;FAD7 1 27ED3;FAD8 1 9F43;FAD9 1 9F8E
FB1D 1 5D9 5B4;FB1F 1 5F2 5B7;FB2A 1 5E9 5C1;FB2B 1 5E9 5C2;FB2C 1 5E9 5BC 5C1;FB2D 1 5E9 5BC 5C2
FB2E 1 5D0 5B7;FB2F 1 5D0 5B8;FB30 1 5D0 5BC;FB31 1 5D1 5BC;FB32 1 5D2 5BC;FB33 1 5D3 5BC
FB34 1 5D4 5BC;FB35 1 5D5 5BC;FB36 1 5D6 5BC;FB38 1 5D8 5BC;FB39 1 5D9 5BC;FB3A 1 5DA 5BC
FB3B 1 5DB 5BC;FB3C 1 5DC 5BC;FB3E 1 5DE 5BC;FB40 1 5E0 5BC;FB41 1 5E1 5BC;FB43 1 5E3 5BC
FB44 1 5E4 5BC;FB46 1 5E6 5BC;FB47 1 5E7 5BC;FB48 1 5E8 5BC;FB49 1 5E9 5BC;FB4A 1 5EA 5BC
FB4B 1 5D5 5B9;FB4C 1 5D1 5BF;FB4D 1 5DB 5BF;FB4E 1 5E4 5BF;105C9 1 105D2 307;105E4 1 105DA 307
1109A 1 11099 110BA;1109C 1 1109B 110BA;110AB 1 110A5 110BA;1112E 1 11131 11127
1112F 1 11132 11127;1134B 1 11347 1133E;1134C 1 11347 11357;11383 1 11382 113C9
11385 1 11384 113BB;1138E 1 1138B 113C2;11391 1 11390 113C9;113C5 1 113C2 113C2
113C7 1 113C2 113B8;113C8 1 113C2 113C9;114BB 1 114B9 114BA;114BC 1 114B9 114B0
114BE 1 114B9 114BD;115BA 1 115B8 115AF;115BB 1 115B9 115AF;11938 1 11935 11930
16121 1 1611E 1611E;16122 1 1611E 16129;16123 1 1611E 1611F;16124 1 16129 1611F
16125 1 1611E 16120;16126 1 1611E 1611E 1611F;16127 1 1611E 16129 1611F;16128 1 1611E 1611E 16120
16D68 1 16D67 16D67;16D69 1 16D63 16D67;16D6A 1 16D63 16D67 16D67;1D15E 1 1D157 1D165
1D15F 1 1D158 1D165;1D160 1 1D158 1D165 1D16E;1D161 1 1D158 1D165 1D16F;1D162 1 1D158 1D165 1D170
1D163 1 1D158 1D165 1D171;1D164 1 1D158 1D165 1D172;1D1BB 1 1D1B9 1D165;1D1BC 1 1D1BA 1D165
1D1BD 1 1D1B9 1D165 1D16E;1D1BE 1 1D1BA 1D165 1D16E;1D1BF 1 1D1B9 1D165 1D16F
1D1C0 1 1D1BA 1D165 1D16F;2F800 1 4E3D;2F801 1 4E38;2F802 1 4E41;2F803 1 20122;2F804 1 4F60
2F805 1 4FAE;2F806 1 4FBB;2F807 1 5002;2F808 1 507A;2F809 1 5099;2F80A 1 50E7;2F80B 1 50CF
2F80C 1 349E;2F80D 1 2063A;2F80E 1 514D;2F80F 1 5154;2F810 1 5164;2F811 1 5177;2F812 1 2051C
2F813 1 34B9;2F814 1 5167;2F815 1 518D;2F816 1 2054B;2F817 1 5197;2F818 1 51A4;2F819 1 4ECC
2F81A 1 51AC;2F81B 1 51B5;2F81C 1 291DF;2F81D 1 51F5;2F81E 1 5203;2F81F 1 34DF;2F820 1 523B
2F821 1 5246;2F822 1 5272;2F823 1 5277;2F824 1 3515;2F825 1 52C7;2F826 1 52C9;2F827 1 52E4
2F828 1 52FA;2F829 2 5305;2F82B 1 5317;2F82C 1 5349;2F82D 1 5351;2F82E 1 535A;2F82F 1 5373
2F830 1 537D;2F831 1 537F;2F832 1 537F;2F833 1 537F;2F834 1 20A2C;2F835 1 7070;2F836 1 53CA
2F837 1 53DF;2F838 1 20B63;2F839 1 53EB;2F83A 1 53F1;2F83B 1 5406;2F83C 1 549E;2F83D 1 5438
2F83E 1 5448;2F83F 1 5468;2F840 1 54A2;2F841 1 54F6;2F842 1 5510;2F843 1 5553;2F844 1 5563
2F845 1 5584;2F846 1 5584;2F847 1 5599;2F848 1 55AB;2F849 1 55B3;2F84A 1 55C2;2F84B 1 5716
2F84C 1 5606;2F84D 1 5717;2F84E 1 5651;2F84F 1 5674;2F850 1 5207;2F851 1 58EE;2F852 1 57CE
2F853 1 57F4;2F854 1 580D;2F855 1 578B;2F856 1 5832;2F857 1 5831;2F858 1 58AC;2F859 1 214E4
2F85A 1 58F2;2F85B 1 58F7;2F85C 1 5906;2F85D 1 591A;2F85E 1 5922;2F85F 1 5962;2F860 1 216A8
2F861 1 216EA;2F862 1 59EC;2F863 1 5A1B;2F864 1 5A27;2F865 1 59D8;2F866 1 5A66;2F867 1 36EE
2F868 1 36FC;2F869 1 5B08;2F86A 1 5B3E;2F86B 1 5B3E;2F86C 1 219C8;2F86D 1 5BC3;2F86E 1 5BD8
2F86F 1 5BE7;2F870 1 5BF3;2F871 1 21B18;2F872 1 5BFF;2F873 1 5C06;2F874 1 5F53;2F875 1 5C22
2F876 1 3781;2F877 1 5C60;2F878 1 5C6E;2F879 1 5CC0;2F87A 1 5C8D;2F87B 1 21DE4;2F87C 1 5D43
2F87D 1 21DE6;2F87E 1 5D6E;2F87F 1 5D6B;2F880 1 5D7C;2F881 2 5DE1;2F883 1 382F;2F884 1 5DFD
2F885 1 5E28;2F886 1 5E3D;2F887 1 5E69;2F888 1 3862;2F889 1 22183;2F88A 1 387C;2F88B 1 5EB0
2F88C 1 5EB3;2F88D 1 5EB6;2F88E 1 5ECA;2F88F 1 2A392;2F890 1 5EFE;2F891 1 22331;2F892 1 22331
2F893 1 8201;2F894 1 5F22;2F895 1 5F22;2F896 1 38C7;2F897 1 232B8;2F898 1 261DA;2F899 1 5F62
2F89A 1 5F6B;2F89B 1 38E3;2F89C 1 5F9A;2F89D 1 5FCD;2F89E 1 5FD7;2F89F 1 5FF9;2F8A0 1 6081
2F8A1 1 393A;2F8A2 1 391C;2F8A3 1 6094;2F8A4 1 226D4;2F8A5 1 60C7;2F8A6 1 6148;2F8A7 1 614C
2F8A8 1 614E;2F8A9 1 614C;2F8AA 1 617A;2F8AB 1 618E;2F8AC 1 61B2;2F8AD 1 61A4;2F8AE 1 61AF
2F8AF 1 61DE;2F8B0 1 61F2;2F8B1 1 61F6;2F8B2 1 6210;2F8B3 1 621B;2F8B4 1 625D;2F8B5 1 62B1
2F8B6 1 62D4;2F8B7 1 6350;2F8B8 1 22B0C;2F8B9 1 633D;2F8BA 1 62FC;2F8BB 1 6368;2F8BC 1 6383
2F8BD 1 63E4;2F8BE 1 22BF1;2F8BF 1 6422;2F8C0 1 63C5;2F8C1 1 63A9;2F8C2 1 3A2E;2F8C3 1 6469
2F8C4 1 647E;2F8C5 1 649D;2F8C6 1 6477;2F8C7 1 3A6C;2F8C8 1 654F;2F8C9 1 656C;2F8CA 1 2300A
2F8CB 1 65E3;2F8CC 1 66F8;2F8CD 1 6649;2F8CE 1 3B19;2F8CF 1 6691;2F8D0 1 3B08;2F8D1 1 3AE4
2F8D2 1 5192;2F8D3 1 5195;2F8D4 1 6700;2F8D5 1 669C;2F8D6 1 80AD;2F8D7 1 43D9;2F8D8 1 6717
2F8D9 1 671B;2F8DA 1 6721;2F8DB 1 675E;2F8DC 1 6753;2F8DD 1 233C3;2F8DE 1 3B49;2F8DF 1 67FA
2F8E0 1 6785;2F8E1 1 6852;2F8E2 1 6885;2F8E3 1 2346D;2F8E4 1 688E;2F8E5 1 681F;2F8E6 1 6914
2F8E7 1 3B9D;2F8E8 1 6942;2F8E9 1 69A3;2F8EA 1 69EA;2F8EB 1 6AA8;2F8EC 1 236A3;2F8ED 1 6ADB
2F8EE 1 3C18;2F8EF 1 6B21;2F8F0 1 238A7;2F8F1 1 6B54;2F8F2 1 3C4E;2F8F3 1 6B72;2F8F4 1 6B9F
2F8F5 2 6BBA;2F8F7 1 23A8D;2F8F8 1 21D0B;2F8F9 1 23AFA;2F8FA 1 6C4E;2F8FB 1 23CBC;2F8FC 1 6CBF
2F8FD 1 6CCD;2F8FE 1 6C67;2F8FF 1 6D16;2F900 1 6D3E;2F901 1 6D77;2F902 1 6D41;2F903 1 6D69
2F904 1 6D78;2F905 1 6D85;2F906 1 23D1E;2F907 1 6D34;2F908 1 6E2F;2F909 1 6E6E;2F90A 1 3D33
2F90B 1 6ECB;2F90C 1 6EC7;2F90D 1 23ED1;2F90E 1 6DF9;2F90F 1 6F6E;2F910 1 23F5E;2F911 1 23F8E
2F912 1 6FC6;2F913 1 7039;2F914 1 701E;2F915 1 701B;2F916 1 3D96;2F917 1 704A;2F918 1 707D
2F919 1 7077;2F91A 1 70AD;2F91B 1 20525;2F91C 1 7145;2F91D 1 24263;2F91E 1 719C;2F91F 1 243AB
2F920 1 7228;2F921 1 7235;2F922 1 7250;2F923 1 24608;2F924 1 7280;2F925 1 7295;2F926 1 24735
2F927 1 24814;2F928 1 737A;2F929 1 738B;2F92A 1 3EAC;2F92B 1 73A5;2F92C 1 3EB8;2F92D 1 3EB8
2F92E 1 7447;2F92F 1 745C;2F930 1 7471;2F931 1 7485;2F932 1 74CA;2F933 1 3F1B;2F934 1 7524
2F935 1 24C36;2F936 1 753E;2F937 1 24C92;2F938 1 7570;2F939 1 2219F;2F93A 1 7610;2F93B 1 24FA1
2F93C 1 24FB8;2F93D 1 25044;2F93E 1 3FFC;2F93F 1 4008;2F940 1 76F4;2F941 1 250F3;2F942 1 250F2
2F943 1 25119;2F944 1 25133;2F945 2 771E;2F947 1 771F;2F948 1 774A;2F949 1 4039;2F94A 1 778B
2F94B 1 4046;2F94C 1 4096;2F94D 1 2541D;2F94E 1 784E;2F94F 1 788C;2F950 1 78CC;2F951 1 40E3
2F952 1 25626;2F953 1 7956;2F954 1 2569A;2F955 1 256C5;2F956 1 798F;2F957 1 79EB;2F958 1 412F
2F959 1 7A40;2F95A 1 7A4A;2F95B 1 7A4F;2F95C 1 2597C;2F95D 1 25AA7;2F95E 1 25AA7;2F95F 1 7AEE
2F960 1 4202;2F961 1 25BAB;2F962 1 7BC6;2F963 1 7BC9;2F964 1 4227;2F965 1 25C80;2F966 1 7CD2
2F967 1 42A0;2F968 1 7CE8;2F969 1 7CE3;2F96A 1 7D00;2F96B 1 25F86;2F96C 1 7D63;2F96D 1 4301
2F96E 1 7DC7;2F96F 1 7E02;2F970 1 7E45;2F971 1 4334;2F972 1 26228;2F973 1 26247;2F974 1 4359
2F975 1 262D9;2F976 1 7F7A;2F977 1 2633E;2F978 1 7F95;2F979 1 7FFA;2F97A 1 8005;2F97B 1 264DA
2F97C 1 26523;2F97D 1 8060;2F97E 1 265A8;2F97F 1 8070;2F980 1 2335F;2F981 1 43D5;2F982 1 80B2
2F983 1 8103;2F984 1 440B;2F985 1 813E;2F986 1 5AB5;2F987 1 267A7;2F988 1 267B5;2F989 1 23393
2F98A 1 2339C;2F98B 1 8201;2F98C 1 8204;2F98D 1 8F9E;2F98E 1 446B;2F98F 1 8291;2F990 1 828B
2F991 1 829D;2F992 1 52B3;2F993 1 82B1;2F994 1 82B3;2F995 1 82BD;2F996 1 82E6;2F997 1 26B3C
2F998 1 82E5;2F999 1 831D;2F99A 1 8363;2F99B 1 83AD;2F99C 1 8323;2F99D 1 83BD;2F99E 1 83E7
2F99F 1 8457;2F9A0 1 8353;2F9A1 1 83CA;2F9A2 1 83CC;2F9A3 1 83DC;2F9A4 1 26C36;2F9A5 1 26D6B
2F9A6 1 26CD5;2F9A7 1 452B;2F9A8 1 84F1;2F9A9 1 84F3;2F9AA 1 8516;2F9AB 1 273CA;2F9AC 1 8564
2F9AD 1 26F2C;2F9AE 1 455D;2F9AF 1 4561;2F9B0 1 26FB1;2F9B1 1 270D2;2F9B2 1 456B;2F9B3 1 8650
2F9B4 1 865C;2F9B5 1 8667;2F9B6 1 8669;2F9B7 1 86A9;2F9B8 1 8688;2F9B9 1 870E;2F9BA 1 86E2
2F9BB 1 8779;2F9BC 1 8728;2F9BD 1 876B;2F9BE 1 8786;2F9BF 1 45D7;2F9C0 1 87E1;2F9C1 1 8801
2F9C2 1 45F9;2F9C3 1 8860;2F9C4 1 8863;2F9C5 1 27667;2F9C6 1 88D7;2F9C7 1 88DE;2F9C8 1 4635
2F9C9 1 88FA;2F9CA 1 34BB;2F9CB 1 278AE;2F9CC 1 27966;2F9CD 1 46BE;2F9CE 1 46C7;2F9CF 1 8AA0
2F9D0 1 8AED;2F9D1 1 8B8A;2F9D2 1 8C55;2F9D3 1 27CA8;2F9D4 1 8CAB;2F9D5 1 8CC1;2F9D6 1 8D1B
2F9D7 1 8D77;2F9D8 1 27F2F;2F9D9 1 20804;2F9DA 1 8DCB;2F9DB 1 8DBC;2F9DC 1 8DF0;2F9DD 1 208DE
2F9DE 1 8ED4;2F9DF 1 8F38;2F9E0 1 285D2;2F9E1 1 285ED;2F9E2 1 9094;2F9E3 1 90F1;2F9E4 1 9111
2F9E5 1 2872E;2F9E6 1 911B;2F9E7 1 9238;2F9E8 2 92D7;2F9EA 1 927C;2F9EB 1 93F9;2F9EC 1 9415
2F9ED 1 28BFA;2F9EE 1 958B;2F9EF 1 4995;2F9F0 1 95B7;2F9F1 1 28D77;2F9F2 1 49E6;2F9F3 1 96C3
2F9F4 1 5DB2;2F9F5 1 9723;2F9F6 1 29145;2F9F7 1 2921A;2F9F8 1 4A6E;2F9F9 1 4A76;2F9FA 1 97E0
2F9FB 1 2940A;2F9FC 1 4AB2;2F9FD 1 29496;2F9FE 1 980B;2F9FF 1 980B;2FA00 1 9829;2FA01 1 295B6
2FA02 1 98E2;2FA03 1 4B33;2FA04 1 9929;2FA05 1 99A7;2FA06 1 99C2;2FA07 1 99FE;2FA08 1 4BCE
2FA09 1 29B30;2FA0A 1 9B12;2FA0B 1 9C40;2FA0C 1 9CFD;2FA0D 1 4CCE;2FA0E 1 4CED;2FA0F 1 9D67
2FA10 1 2A0CE;2FA11 1 4CF8;2FA12 1 2A105;2FA13 1 2A20E;2FA14 1 2A291;2FA15 1 9EBB;2FA16 1 4D56
2FA17 1 9EF9;2FA18 1 9EFE;2FA19 1 9F05;2FA1A 1 9F0F;2FA1B 1 9F16;2FA1C 1 9F3B;2FA1D 1 2A600"

/-- The canonical decomposition of a character; most characters stand for themselves. -/
def canonicalDecomposition (c : Char) : List Char :=
  if c.toNat < 0xC0 then [c] else (canonicalDecompositions.image? c).getD [c]

end Polyvoice.Unicode
