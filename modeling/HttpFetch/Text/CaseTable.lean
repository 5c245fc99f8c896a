/-!
# Case tables

Rows of hexadecimal code points, read by `HttpFetch.Text.Table`. A row of a map is
`first,last,step,image of first`; a row of a set is `first`, `first,last` or
`first,last,step`; a row of an expansion is the character and what it becomes. The rows for lower
case stand as numbers, so that proofs can go through them. The tables are those of Unicode 14.
-/

namespace HttpFetch.Text.CaseTable

/-- Characters with a lower-case partner of one character. -/
def lowerRuns : List (List Nat) :=
  [[0x41, 0x5a, 1, 0x61], [0xc0, 0xd6, 1, 0xe0], [0xd8, 0xde, 1, 0xf8], [0x100, 0x12e, 2, 0x101],
    [0x132, 0x136, 2, 0x133], [0x139, 0x147, 2, 0x13a], [0x14a, 0x176, 2, 0x14b],
    [0x178, 0x178, 1, 0xff], [0x179, 0x17d, 2, 0x17a], [0x181, 0x181, 1, 0x253],
    [0x182, 0x184, 2, 0x183], [0x186, 0x186, 1, 0x254], [0x187, 0x187, 1, 0x188],
    [0x189, 0x18a, 1, 0x256], [0x18b, 0x18b, 1, 0x18c], [0x18e, 0x18e, 1, 0x1dd],
    [0x18f, 0x18f, 1, 0x259], [0x190, 0x190, 1, 0x25b], [0x191, 0x191, 1, 0x192],
    [0x193, 0x193, 1, 0x260], [0x194, 0x194, 1, 0x263], [0x196, 0x196, 1, 0x269],
    [0x197, 0x197, 1, 0x268], [0x198, 0x198, 1, 0x199], [0x19c, 0x19c, 1, 0x26f],
    [0x19d, 0x19d, 1, 0x272], [0x19f, 0x19f, 1, 0x275], [0x1a0, 0x1a4, 2, 0x1a1],
    [0x1a6, 0x1a6, 1, 0x280], [0x1a7, 0x1a7, 1, 0x1a8], [0x1a9, 0x1a9, 1, 0x283],
    [0x1ac, 0x1ac, 1, 0x1ad], [0x1ae, 0x1ae, 1, 0x288], [0x1af, 0x1af, 1, 0x1b0],
    [0x1b1, 0x1b2, 1, 0x28a], [0x1b3, 0x1b5, 2, 0x1b4], [0x1b7, 0x1b7, 1, 0x292],
    [0x1b8, 0x1b8, 1, 0x1b9], [0x1bc, 0x1bc, 1, 0x1bd], [0x1c4, 0x1c4, 1, 0x1c6],
    [0x1c5, 0x1c5, 1, 0x1c6], [0x1c7, 0x1c7, 1, 0x1c9], [0x1c8, 0x1c8, 1, 0x1c9],
    [0x1ca, 0x1ca, 1, 0x1cc], [0x1cb, 0x1db, 2, 0x1cc], [0x1de, 0x1ee, 2, 0x1df],
    [0x1f1, 0x1f1, 1, 0x1f3], [0x1f2, 0x1f4, 2, 0x1f3], [0x1f6, 0x1f6, 1, 0x195],
    [0x1f7, 0x1f7, 1, 0x1bf], [0x1f8, 0x21e, 2, 0x1f9], [0x220, 0x220, 1, 0x19e],
    [0x222, 0x232, 2, 0x223], [0x23a, 0x23a, 1, 0x2c65], [0x23b, 0x23b, 1, 0x23c],
    [0x23d, 0x23d, 1, 0x19a], [0x23e, 0x23e, 1, 0x2c66], [0x241, 0x241, 1, 0x242],
    [0x243, 0x243, 1, 0x180], [0x244, 0x244, 1, 0x289], [0x245, 0x245, 1, 0x28c],
    [0x246, 0x24e, 2, 0x247], [0x370, 0x372, 2, 0x371], [0x376, 0x376, 1, 0x377],
    [0x37f, 0x37f, 1, 0x3f3], [0x386, 0x386, 1, 0x3ac], [0x388, 0x38a, 1, 0x3ad],
    [0x38c, 0x38c, 1, 0x3cc], [0x38e, 0x38f, 1, 0x3cd], [0x391, 0x3a1, 1, 0x3b1],
    [0x3a3, 0x3ab, 1, 0x3c3], [0x3cf, 0x3cf, 1, 0x3d7], [0x3d8, 0x3ee, 2, 0x3d9],
    [0x3f4, 0x3f4, 1, 0x3b8], [0x3f7, 0x3f7, 1, 0x3f8], [0x3f9, 0x3f9, 1, 0x3f2],
    [0x3fa, 0x3fa, 1, 0x3fb], [0x3fd, 0x3ff, 1, 0x37b], [0x400, 0x40f, 1, 0x450],
    [0x410, 0x42f, 1, 0x430], [0x460, 0x480, 2, 0x461], [0x48a, 0x4be, 2, 0x48b],
    [0x4c0, 0x4c0, 1, 0x4cf], [0x4c1, 0x4cd, 2, 0x4c2], [0x4d0, 0x52e, 2, 0x4d1],
    [0x531, 0x556, 1, 0x561], [0x10a0, 0x10c5, 1, 0x2d00], [0x10c7, 0x10c7, 1, 0x2d27],
    [0x10cd, 0x10cd, 1, 0x2d2d], [0x13a0, 0x13ef, 1, 0xab70], [0x13f0, 0x13f5, 1, 0x13f8],
    [0x1c90, 0x1cba, 1, 0x10d0], [0x1cbd, 0x1cbf, 1, 0x10fd], [0x1e00, 0x1e94, 2, 0x1e01],
    [0x1e9e, 0x1e9e, 1, 0xdf], [0x1ea0, 0x1efe, 2, 0x1ea1], [0x1f08, 0x1f0f, 1, 0x1f00],
    [0x1f18, 0x1f1d, 1, 0x1f10], [0x1f28, 0x1f2f, 1, 0x1f20], [0x1f38, 0x1f3f, 1, 0x1f30],
    [0x1f48, 0x1f4d, 1, 0x1f40], [0x1f59, 0x1f5f, 2, 0x1f51], [0x1f68, 0x1f6f, 1, 0x1f60],
    [0x1f88, 0x1f8f, 1, 0x1f80], [0x1f98, 0x1f9f, 1, 0x1f90], [0x1fa8, 0x1faf, 1, 0x1fa0],
    [0x1fb8, 0x1fb9, 1, 0x1fb0], [0x1fba, 0x1fbb, 1, 0x1f70], [0x1fbc, 0x1fbc, 1, 0x1fb3],
    [0x1fc8, 0x1fcb, 1, 0x1f72], [0x1fcc, 0x1fcc, 1, 0x1fc3], [0x1fd8, 0x1fd9, 1, 0x1fd0],
    [0x1fda, 0x1fdb, 1, 0x1f76], [0x1fe8, 0x1fe9, 1, 0x1fe0], [0x1fea, 0x1feb, 1, 0x1f7a],
    [0x1fec, 0x1fec, 1, 0x1fe5], [0x1ff8, 0x1ff9, 1, 0x1f78], [0x1ffa, 0x1ffb, 1, 0x1f7c],
    [0x1ffc, 0x1ffc, 1, 0x1ff3], [0x2126, 0x2126, 1, 0x3c9], [0x212a, 0x212a, 1, 0x6b],
    [0x212b, 0x212b, 1, 0xe5], [0x2132, 0x2132, 1, 0x214e], [0x2160, 0x216f, 1, 0x2170],
    [0x2183, 0x2183, 1, 0x2184], [0x24b6, 0x24cf, 1, 0x24d0], [0x2c00, 0x2c2f, 1, 0x2c30],
    [0x2c60, 0x2c60, 1, 0x2c61], [0x2c62, 0x2c62, 1, 0x26b], [0x2c63, 0x2c63, 1, 0x1d7d],
    [0x2c64, 0x2c64, 1, 0x27d], [0x2c67, 0x2c6b, 2, 0x2c68], [0x2c6d, 0x2c6d, 1, 0x251],
    [0x2c6e, 0x2c6e, 1, 0x271], [0x2c6f, 0x2c6f, 1, 0x250], [0x2c70, 0x2c70, 1, 0x252],
    [0x2c72, 0x2c72, 1, 0x2c73], [0x2c75, 0x2c75, 1, 0x2c76], [0x2c7e, 0x2c7f, 1, 0x23f],
    [0x2c80, 0x2ce2, 2, 0x2c81], [0x2ceb, 0x2ced, 2, 0x2cec], [0x2cf2, 0x2cf2, 1, 0x2cf3],
    [0xa640, 0xa66c, 2, 0xa641], [0xa680, 0xa69a, 2, 0xa681], [0xa722, 0xa72e, 2, 0xa723],
    [0xa732, 0xa76e, 2, 0xa733], [0xa779, 0xa77b, 2, 0xa77a], [0xa77d, 0xa77d, 1, 0x1d79],
    [0xa77e, 0xa786, 2, 0xa77f], [0xa78b, 0xa78b, 1, 0xa78c], [0xa78d, 0xa78d, 1, 0x265],
    [0xa790, 0xa792, 2, 0xa791], [0xa796, 0xa7a8, 2, 0xa797], [0xa7aa, 0xa7aa, 1, 0x266],
    [0xa7ab, 0xa7ab, 1, 0x25c], [0xa7ac, 0xa7ac, 1, 0x261], [0xa7ad, 0xa7ad, 1, 0x26c],
    [0xa7ae, 0xa7ae, 1, 0x26a], [0xa7b0, 0xa7b0, 1, 0x29e], [0xa7b1, 0xa7b1, 1, 0x287],
    [0xa7b2, 0xa7b2, 1, 0x29d], [0xa7b3, 0xa7b3, 1, 0xab53], [0xa7b4, 0xa7c2, 2, 0xa7b5],
    [0xa7c4, 0xa7c4, 1, 0xa794], [0xa7c5, 0xa7c5, 1, 0x282], [0xa7c6, 0xa7c6, 1, 0x1d8e],
    [0xa7c7, 0xa7c9, 2, 0xa7c8], [0xa7d0, 0xa7d0, 1, 0xa7d1], [0xa7d6, 0xa7d8, 2, 0xa7d7],
    [0xa7f5, 0xa7f5, 1, 0xa7f6], [0xff21, 0xff3a, 1, 0xff41], [0x10400, 0x10427, 1, 0x10428],
    [0x104b0, 0x104d3, 1, 0x104d8], [0x10570, 0x1057a, 1, 0x10597],
    [0x1057c, 0x1058a, 1, 0x105a3], [0x1058c, 0x10592, 1, 0x105b3],
    [0x10594, 0x10595, 1, 0x105bb], [0x10c80, 0x10cb2, 1, 0x10cc0],
    [0x118a0, 0x118bf, 1, 0x118c0], [0x16e40, 0x16e5f, 1, 0x16e60],
    [0x1e900, 0x1e921, 1, 0x1e922]]

/-- Characters whose lower-case form has several characters. -/
def lowerExpansions : List (List Nat) :=
  [[0x130, 0x69, 0x307]]

/-- Characters with an upper-case partner of one character. -/
def upperRuns : String :=
  "61,7a,1,41 b5,b5,1,39c e0,f6,1,c0 f8,fe,1,d8 ff,ff,1,178 101,12f,2,100 131,131,1,49
   133,137,2,132 13a,148,2,139 14b,177,2,14a 17a,17e,2,179 17f,17f,1,53 180,180,1,243
   183,185,2,182 188,188,1,187 18c,18c,1,18b 192,192,1,191 195,195,1,1f6 199,199,1,198
   19a,19a,1,23d 19e,19e,1,220 1a1,1a5,2,1a0 1a8,1a8,1,1a7 1ad,1ad,1,1ac 1b0,1b0,1,1af
   1b4,1b6,2,1b3 1b9,1b9,1,1b8 1bd,1bd,1,1bc 1bf,1bf,1,1f7 1c5,1c5,1,1c4 1c6,1c6,1,1c4
   1c8,1c8,1,1c7 1c9,1c9,1,1c7 1cb,1cb,1,1ca 1cc,1cc,1,1ca 1ce,1dc,2,1cd 1dd,1dd,1,18e
   1df,1ef,2,1de 1f2,1f2,1,1f1 1f3,1f3,1,1f1 1f5,1f5,1,1f4 1f9,21f,2,1f8 223,233,2,222
   23c,23c,1,23b 23f,240,1,2c7e 242,242,1,241 247,24f,2,246 250,250,1,2c6f 251,251,1,2c6d
   252,252,1,2c70 253,253,1,181 254,254,1,186 256,257,1,189 259,259,1,18f 25b,25b,1,190
   25c,25c,1,a7ab 260,260,1,193 261,261,1,a7ac 263,263,1,194 265,265,1,a78d 266,266,1,a7aa
   268,268,1,197 269,269,1,196 26a,26a,1,a7ae 26b,26b,1,2c62 26c,26c,1,a7ad 26f,26f,1,19c
   271,271,1,2c6e 272,272,1,19d 275,275,1,19f 27d,27d,1,2c64 280,280,1,1a6 282,282,1,a7c5
   283,283,1,1a9 287,287,1,a7b1 288,288,1,1ae 289,289,1,244 28a,28b,1,1b1 28c,28c,1,245
   292,292,1,1b7 29d,29d,1,a7b2 29e,29e,1,a7b0 345,345,1,399 371,373,2,370 377,377,1,376
   37b,37d,1,3fd 3ac,3ac,1,386 3ad,3af,1,388 3b1,3c1,1,391 3c2,3c2,1,3a3 3c3,3cb,1,3a3
   3cc,3cc,1,38c 3cd,3ce,1,38e 3d0,3d0,1,392 3d1,3d1,1,398 3d5,3d5,1,3a6 3d6,3d6,1,3a0
   3d7,3d7,1,3cf 3d9,3ef,2,3d8 3f0,3f0,1,39a 3f1,3f1,1,3a1 3f2,3f2,1,3f9 3f3,3f3,1,37f
   3f5,3f5,1,395 3f8,3f8,1,3f7 3fb,3fb,1,3fa 430,44f,1,410 450,45f,1,400 461,481,2,460
   48b,4bf,2,48a 4c2,4ce,2,4c1 4cf,4cf,1,4c0 4d1,52f,2,4d0 561,586,1,531 10d0,10fa,1,1c90
   10fd,10ff,1,1cbd 13f8,13fd,1,13f0 1c80,1c80,1,412 1c81,1c81,1,414 1c82,1c82,1,41e
   1c83,1c84,1,421 1c85,1c85,1,422 1c86,1c86,1,42a 1c87,1c87,1,462 1c88,1c88,1,a64a
   1d79,1d79,1,a77d 1d7d,1d7d,1,2c63 1d8e,1d8e,1,a7c6 1e01,1e95,2,1e00 1e9b,1e9b,1,1e60
   1ea1,1eff,2,1ea0 1f00,1f07,1,1f08 1f10,1f15,1,1f18 1f20,1f27,1,1f28 1f30,1f37,1,1f38
   1f40,1f45,1,1f48 1f51,1f57,2,1f59 1f60,1f67,1,1f68 1f70,1f71,1,1fba 1f72,1f75,1,1fc8
   1f76,1f77,1,1fda 1f78,1f79,1,1ff8 1f7a,1f7b,1,1fea 1f7c,1f7d,1,1ffa 1fb0,1fb1,1,1fb8
   1fbe,1fbe,1,399 1fd0,1fd1,1,1fd8 1fe0,1fe1,1,1fe8 1fe5,1fe5,1,1fec 214e,214e,1,2132
   2170,217f,1,2160 2184,2184,1,2183 24d0,24e9,1,24b6 2c30,2c5f,1,2c00 2c61,2c61,1,2c60
   2c65,2c65,1,23a 2c66,2c66,1,23e 2c68,2c6c,2,2c67 2c73,2c73,1,2c72 2c76,2c76,1,2c75
   2c81,2ce3,2,2c80 2cec,2cee,2,2ceb 2cf3,2cf3,1,2cf2 2d00,2d25,1,10a0 2d27,2d27,1,10c7
   2d2d,2d2d,1,10cd a641,a66d,2,a640 a681,a69b,2,a680 a723,a72f,2,a722 a733,a76f,2,a732
   a77a,a77c,2,a779 a77f,a787,2,a77e a78c,a78c,1,a78b a791,a793,2,a790 a794,a794,1,a7c4
   a797,a7a9,2,a796 a7b5,a7c3,2,a7b4 a7c8,a7ca,2,a7c7 a7d1,a7d1,1,a7d0 a7d7,a7d9,2,a7d6
   a7f6,a7f6,1,a7f5 ab53,ab53,1,a7b3 ab70,abbf,1,13a0 ff41,ff5a,1,ff21 10428,1044f,1,10400
   104d8,104fb,1,104b0 10597,105a1,1,10570 105a3,105b1,1,1057c 105b3,105b9,1,1058c
   105bb,105bc,1,10594 10cc0,10cf2,1,10c80 118c0,118df,1,118a0 16e60,16e7f,1,16e40
   1e922,1e943,1,1e900"

/-- Characters whose upper-case form has several characters. -/
def upperExpansions : String :=
  "df,53,53 149,2bc,4e 1f0,4a,30c 390,399,308,301 3b0,3a5,308,301 587,535,552 1e96,48,331
   1e97,54,308 1e98,57,30a 1e99,59,30a 1e9a,41,2be 1f50,3a5,313 1f52,3a5,313,300
   1f54,3a5,313,301 1f56,3a5,313,342 1f80,1f08,399 1f81,1f09,399 1f82,1f0a,399 1f83,1f0b,399
   1f84,1f0c,399 1f85,1f0d,399 1f86,1f0e,399 1f87,1f0f,399 1f88,1f08,399 1f89,1f09,399
   1f8a,1f0a,399 1f8b,1f0b,399 1f8c,1f0c,399 1f8d,1f0d,399 1f8e,1f0e,399 1f8f,1f0f,399
   1f90,1f28,399 1f91,1f29,399 1f92,1f2a,399 1f93,1f2b,399 1f94,1f2c,399 1f95,1f2d,399
   1f96,1f2e,399 1f97,1f2f,399 1f98,1f28,399 1f99,1f29,399 1f9a,1f2a,399 1f9b,1f2b,399
   1f9c,1f2c,399 1f9d,1f2d,399 1f9e,1f2e,399 1f9f,1f2f,399 1fa0,1f68,399 1fa1,1f69,399
   1fa2,1f6a,399 1fa3,1f6b,399 1fa4,1f6c,399 1fa5,1f6d,399 1fa6,1f6e,399 1fa7,1f6f,399
   1fa8,1f68,399 1fa9,1f69,399 1faa,1f6a,399 1fab,1f6b,399 1fac,1f6c,399 1fad,1f6d,399
   1fae,1f6e,399 1faf,1f6f,399 1fb2,1fba,399 1fb3,391,399 1fb4,386,399 1fb6,391,342
   1fb7,391,342,399 1fbc,391,399 1fc2,1fca,399 1fc3,397,399 1fc4,389,399 1fc6,397,342
   1fc7,397,342,399 1fcc,397,399 1fd2,399,308,300 1fd3,399,308,301 1fd6,399,342
   1fd7,399,308,342 1fe2,3a5,308,300 1fe3,3a5,308,301 1fe4,3a1,313 1fe6,3a5,342
   1fe7,3a5,308,342 1ff2,1ffa,399 1ff3,3a9,399 1ff4,38f,399 1ff6,3a9,342 1ff7,3a9,342,399
   1ffc,3a9,399 fb00,46,46 fb01,46,49 fb02,46,4c fb03,46,46,49 fb04,46,46,4c fb05,53,54
   fb06,53,54 fb13,544,546 fb14,544,535 fb15,544,53b fb16,54e,546 fb17,544,53d"

/-- Cased characters that case mapping does not ignore. -/
def casedRuns : String :=
  "41,5a 61,7a aa b5 ba c0,d6 d8,f6 f8,1ba 1bc,1bf 1c4,293 295,2af 370,373 376,377 37b,37d 37f
   386 388,38a 38c 38e,3a1 3a3,3f5 3f7,481 48a,52f 531,556 560,588 10a0,10c5 10c7 10cd
   10d0,10fa 10fd,10ff 13a0,13f5 13f8,13fd 1c80,1c88 1c90,1cba 1cbd,1cbf 1d00,1d2b 1d6b,1d77
   1d79,1d9a 1e00,1f15 1f18,1f1d 1f20,1f45 1f48,1f4d 1f50,1f57 1f59,1f5f,2 1f60,1f7d 1f80,1fb4
   1fb6,1fbc 1fbe 1fc2,1fc4 1fc6,1fcc 1fd0,1fd3 1fd6,1fdb 1fe0,1fec 1ff2,1ff4 1ff6,1ffc 2102
   2107 210a,2113 2115 2119,211d 2124,212a,2 212b,212d 212f,2134 2139 213c,213f 2145,2149 214e
   2160,217f 2183,2184 24b6,24e9 2c00,2c7b 2c7e,2ce4 2ceb,2cee 2cf2,2cf3 2d00,2d25 2d27 2d2d
   a640,a66d a680,a69b a722,a76f a771,a787 a78b,a78e a790,a7ca a7d0,a7d1 a7d3 a7d5,a7d9
   a7f5,a7f6 a7fa ab30,ab5a ab60,ab68 ab70,abbf fb00,fb06 fb13,fb17 ff21,ff3a ff41,ff5a
   10400,1044f 104b0,104d3 104d8,104fb 10570,1057a 1057c,1058a 1058c,10592 10594,10595
   10597,105a1 105a3,105b1 105b3,105b9 105bb,105bc 10c80,10cb2 10cc0,10cf2 118a0,118df
   16e40,16e7f 1d400,1d454 1d456,1d49c 1d49e,1d49f 1d4a2 1d4a5,1d4a6 1d4a9,1d4ac 1d4ae,1d4b9
   1d4bb 1d4bd,1d4c3 1d4c5,1d505 1d507,1d50a 1d50d,1d514 1d516,1d51c 1d51e,1d539 1d53b,1d53e
   1d540,1d544 1d546 1d54a,1d550 1d552,1d6a5 1d6a8,1d6c0 1d6c2,1d6da 1d6dc,1d6fa 1d6fc,1d714
   1d716,1d734 1d736,1d74e 1d750,1d76e 1d770,1d788 1d78a,1d7a8 1d7aa,1d7c2 1d7c4,1d7cb
   1df00,1df09 1df0b,1df1e 1e900,1e943 1f130,1f149 1f150,1f169 1f170,1f189"

/-- Characters that the final sigma rule looks through. -/
def ignorableRuns : String :=
  "27 2e 3a 5e 60 a8 ad af b4 b7,b8 2b0,36f 374,375 37a 384,385 387 483,489 559 55f 591,5bd 5bf
   5c1,5c2 5c4,5c5 5c7 5f4 600,605 610,61a 61c 640 64b,65f 670 6d6,6dd 6df,6e8 6ea,6ed 70f 711
   730,74a 7a6,7b0 7eb,7f5 7fa 7fd 816,82d 859,85b 888 890,891 898,89f 8c9,902 93a 93c 941,948
   94d 951,957 962,963 971 981 9bc 9c1,9c4 9cd 9e2,9e3 9fe a01,a02 a3c a41,a42 a47,a48 a4b,a4d
   a51 a70,a71 a75 a81,a82 abc ac1,ac5 ac7,ac8 acd ae2,ae3 afa,aff b01 b3c b3f b41,b44 b4d
   b55,b56 b62,b63 b82 bc0 bcd c00 c04 c3c c3e,c40 c46,c48 c4a,c4d c55,c56 c62,c63 c81 cbc cbf
   cc6 ccc,ccd ce2,ce3 d00,d01 d3b,d3c d41,d44 d4d d62,d63 d81 dca dd2,dd4 dd6 e31 e34,e3a
   e46,e4e eb1 eb4,ebc ec6 ec8,ecd f18,f19 f35,f39,2 f71,f7e f80,f84 f86,f87 f8d,f97 f99,fbc
   fc6 102d,1030 1032,1037 1039,103a 103d,103e 1058,1059 105e,1060 1071,1074 1082 1085,1086
   108d 109d 10fc 135d,135f 1712,1714 1732,1733 1752,1753 1772,1773 17b4,17b5 17b7,17bd 17c6
   17c9,17d3 17d7 17dd 180b,180f 1843 1885,1886 18a9 1920,1922 1927,1928 1932 1939,193b
   1a17,1a18 1a1b 1a56 1a58,1a5e 1a60 1a62 1a65,1a6c 1a73,1a7c 1a7f 1aa7 1ab0,1ace 1b00,1b03
   1b34 1b36,1b3a 1b3c 1b42 1b6b,1b73 1b80,1b81 1ba2,1ba5 1ba8,1ba9 1bab,1bad 1be6 1be8,1be9
   1bed 1bef,1bf1 1c2c,1c33 1c36,1c37 1c78,1c7d 1cd0,1cd2 1cd4,1ce0 1ce2,1ce8 1ced 1cf4
   1cf8,1cf9 1d2c,1d6a 1d78 1d9b,1dff 1fbd 1fbf,1fc1 1fcd,1fcf 1fdd,1fdf 1fed,1fef 1ffd,1ffe
   200b,200f 2018,2019 2024 2027 202a,202e 2060,2064 2066,206f 2071 207f 2090,209c 20d0,20f0
   2c7c,2c7d 2cef,2cf1 2d6f 2d7f 2de0,2dff 2e2f 3005 302a,302d 3031,3035 303b 3099,309e
   30fc,30fe a015 a4f8,a4fd a60c a66f,a672 a674,a67d a67f a69c,a69f a6f0,a6f1 a700,a721 a770
   a788,a78a a7f2,a7f4 a7f8,a7f9 a802 a806 a80b a825,a826 a82c a8c4,a8c5 a8e0,a8f1 a8ff
   a926,a92d a947,a951 a980,a982 a9b3 a9b6,a9b9 a9bc,a9bd a9cf a9e5,a9e6 aa29,aa2e aa31,aa32
   aa35,aa36 aa43 aa4c aa70 aa7c aab0 aab2,aab4 aab7,aab8 aabe,aabf aac1 aadd aaec,aaed
   aaf3,aaf4 aaf6 ab5b,ab5f ab69,ab6b abe5 abe8 abed fb1e fbb2,fbc2 fe00,fe0f fe13 fe20,fe2f
   fe52 fe55 feff ff07 ff0e ff1a ff3e ff40 ff70 ff9e,ff9f ffe3 fff9,fffb 101fd 102e0
   10376,1037a 10780,10785 10787,107b0 107b2,107ba 10a01,10a03 10a05,10a06 10a0c,10a0f
   10a38,10a3a 10a3f 10ae5,10ae6 10d24,10d27 10eab,10eac 10f46,10f50 10f82,10f85 11001
   11038,11046 11070 11073,11074 1107f,11081 110b3,110b6 110b9,110ba 110bd 110c2 110cd
   11100,11102 11127,1112b 1112d,11134 11173 11180,11181 111b6,111be 111c9,111cc 111cf
   1122f,11231 11234 11236,11237 1123e 112df 112e3,112ea 11300,11301 1133b,1133c 11340
   11366,1136c 11370,11374 11438,1143f 11442,11444 11446 1145e 114b3,114b8 114ba 114bf,114c0
   114c2,114c3 115b2,115b5 115bc,115bd 115bf,115c0 115dc,115dd 11633,1163a 1163d 1163f,11640
   116ab 116ad 116b0,116b5 116b7 1171d,1171f 11722,11725 11727,1172b 1182f,11837 11839,1183a
   1193b,1193c 1193e 11943 119d4,119d7 119da,119db 119e0 11a01,11a0a 11a33,11a38 11a3b,11a3e
   11a47 11a51,11a56 11a59,11a5b 11a8a,11a96 11a98,11a99 11c30,11c36 11c38,11c3d 11c3f
   11c92,11ca7 11caa,11cb0 11cb2,11cb3 11cb5,11cb6 11d31,11d36 11d3a 11d3c,11d3d 11d3f,11d45
   11d47 11d90,11d91 11d95 11d97 11ef3,11ef4 13430,13438 16af0,16af4 16b30,16b36 16b40,16b43
   16f4f 16f8f,16f9f 16fe0,16fe1 16fe3,16fe4 1aff0,1aff3 1aff5,1affb 1affd,1affe 1bc9d,1bc9e
   1bca0,1bca3 1cf00,1cf2d 1cf30,1cf46 1d167,1d169 1d173,1d182 1d185,1d18b 1d1aa,1d1ad
   1d242,1d244 1da00,1da36 1da3b,1da6c 1da75 1da84 1da9b,1da9f 1daa1,1daaf 1e000,1e006
   1e008,1e018 1e01b,1e021 1e023,1e024 1e026,1e02a 1e130,1e13d 1e2ae 1e2ec,1e2ef 1e8d0,1e8d6
   1e944,1e94b 1f3fb,1f3ff e0001 e0020,e007f e0100,e01ef"

end HttpFetch.Text.CaseTable
