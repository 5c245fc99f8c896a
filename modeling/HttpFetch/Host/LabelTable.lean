/-!
# Characters of internationalised host labels

Rows `first`, `first,last` or `first,last,step` of hexadecimal code points: the characters a
label may hold, those it may not start with, the scripts that some punctuation needs beside it,
and how letters join. The rows of the first stand as numbers, so that proofs can go through them.
-/

namespace HttpFetch.Host.LabelTable

/-- Characters that a label may hold anywhere. -/
def validRuns : List (List Nat) :=
  [[0x2d], [0x30, 0x39], [0x61, 0x7a], [0xdf, 0xf6], [0xf8, 0xff], [0x101, 0x131, 2], [0x135],
    [0x137, 0x138], [0x13a, 0x13e, 2], [0x142, 0x148, 2], [0x14b, 0x177, 2], [0x17a, 0x180, 2],
    [0x183], [0x185], [0x188], [0x18c, 0x18d], [0x192], [0x195], [0x199, 0x19b], [0x19e],
    [0x1a1, 0x1a5, 2], [0x1a8], [0x1aa, 0x1ab], [0x1ad], [0x1b0], [0x1b4], [0x1b6], [0x1b9, 0x1bb],
    [0x1bd, 0x1c3], [0x1ce, 0x1dc, 2], [0x1dd, 0x1ef, 2], [0x1f0], [0x1f5], [0x1f9, 0x233, 2],
    [0x234, 0x239], [0x23c], [0x23f, 0x240], [0x242], [0x247, 0x24f, 2], [0x250, 0x2af],
    [0x2b9, 0x2c1], [0x2c6, 0x2d1], [0x2ec], [0x2ee], [0x300, 0x33f], [0x342], [0x346, 0x34e],
    [0x350, 0x36f], [0x371], [0x373], [0x377], [0x37b, 0x37d], [0x390], [0x3ac, 0x3ce],
    [0x3d7, 0x3ef, 2], [0x3f3], [0x3f8], [0x3fb, 0x3fc], [0x430, 0x45f], [0x461, 0x483, 2],
    [0x484, 0x487], [0x48b, 0x4bf, 2], [0x4c2, 0x4ce, 2], [0x4cf, 0x52f, 2], [0x559],
    [0x560, 0x586], [0x588], [0x591, 0x5bd], [0x5bf], [0x5c1, 0x5c2], [0x5c4, 0x5c5], [0x5c7],
    [0x5d0, 0x5ea], [0x5ef, 0x5f2], [0x610, 0x61a], [0x620, 0x63f], [0x641, 0x65f], [0x66e, 0x674],
    [0x679, 0x6d3], [0x6d5, 0x6dc], [0x6df, 0x6e8], [0x6ea, 0x6ef], [0x6fa, 0x6ff], [0x710, 0x74a],
    [0x74d, 0x7b1], [0x7c0, 0x7f5], [0x7fd], [0x800, 0x82d], [0x840, 0x85b], [0x860, 0x86a],
    [0x870, 0x887], [0x889, 0x88f], [0x897, 0x8e1], [0x8e3, 0x957], [0x960, 0x963], [0x966, 0x96f],
    [0x971, 0x983], [0x985, 0x98c], [0x98f, 0x990], [0x993, 0x9a8], [0x9aa, 0x9b0], [0x9b2],
    [0x9b6, 0x9b9], [0x9bc, 0x9c4], [0x9c7, 0x9c8], [0x9cb, 0x9ce], [0x9d7], [0x9e0, 0x9e3],
    [0x9e6, 0x9f1], [0x9fc], [0x9fe], [0xa01, 0xa03], [0xa05, 0xa0a], [0xa0f, 0xa10],
    [0xa13, 0xa28], [0xa2a, 0xa30], [0xa32], [0xa35], [0xa38, 0xa39], [0xa3c], [0xa3e, 0xa42],
    [0xa47, 0xa48], [0xa4b, 0xa4d], [0xa51], [0xa5c], [0xa66, 0xa75], [0xa81, 0xa83],
    [0xa85, 0xa8d], [0xa8f, 0xa91], [0xa93, 0xaa8], [0xaaa, 0xab0], [0xab2, 0xab3], [0xab5, 0xab9],
    [0xabc, 0xac5], [0xac7, 0xac9], [0xacb, 0xacd], [0xad0], [0xae0, 0xae3], [0xae6, 0xaef],
    [0xaf9, 0xaff], [0xb01, 0xb03], [0xb05, 0xb0c], [0xb0f, 0xb10], [0xb13, 0xb28], [0xb2a, 0xb30],
    [0xb32, 0xb33], [0xb35, 0xb39], [0xb3c, 0xb44], [0xb47, 0xb48], [0xb4b, 0xb4d], [0xb55, 0xb57],
    [0xb5f, 0xb63], [0xb66, 0xb6f], [0xb71], [0xb82, 0xb83], [0xb85, 0xb8a], [0xb8e, 0xb90],
    [0xb92, 0xb95], [0xb99, 0xb9a], [0xb9c], [0xb9e, 0xb9f], [0xba3, 0xba4], [0xba8, 0xbaa],
    [0xbae, 0xbb9], [0xbbe, 0xbc2], [0xbc6, 0xbc8], [0xbca, 0xbcd], [0xbd0], [0xbd7],
    [0xbe6, 0xbef], [0xc00, 0xc0c], [0xc0e, 0xc10], [0xc12, 0xc28], [0xc2a, 0xc39], [0xc3c, 0xc44],
    [0xc46, 0xc48], [0xc4a, 0xc4d], [0xc55, 0xc56], [0xc58, 0xc5a], [0xc5c, 0xc5d], [0xc60, 0xc63],
    [0xc66, 0xc6f], [0xc80, 0xc83], [0xc85, 0xc8c], [0xc8e, 0xc90], [0xc92, 0xca8], [0xcaa, 0xcb3],
    [0xcb5, 0xcb9], [0xcbc, 0xcc4], [0xcc6, 0xcc8], [0xcca, 0xccd], [0xcd5, 0xcd6], [0xcdc, 0xcde],
    [0xce0, 0xce3], [0xce6, 0xcef], [0xcf1, 0xcf3], [0xd00, 0xd0c], [0xd0e, 0xd10], [0xd12, 0xd44],
    [0xd46, 0xd48], [0xd4a, 0xd4e], [0xd54, 0xd57], [0xd5f, 0xd63], [0xd66, 0xd6f], [0xd7a, 0xd7f],
    [0xd81, 0xd83], [0xd85, 0xd96], [0xd9a, 0xdb1], [0xdb3, 0xdbb], [0xdbd], [0xdc0, 0xdc6],
    [0xdca], [0xdcf, 0xdd4], [0xdd6], [0xdd8, 0xddf], [0xde6, 0xdef], [0xdf2, 0xdf3],
    [0xe01, 0xe32], [0xe34, 0xe3a], [0xe40, 0xe4e], [0xe50, 0xe59], [0xe81, 0xe82], [0xe84],
    [0xe86, 0xe8a], [0xe8c, 0xea3], [0xea5], [0xea7, 0xeb2], [0xeb4, 0xebd], [0xec0, 0xec4],
    [0xec6], [0xec8, 0xece], [0xed0, 0xed9], [0xede, 0xedf], [0xf00], [0xf0b], [0xf18, 0xf19],
    [0xf20, 0xf29], [0xf35, 0xf39, 2], [0xf3e, 0xf42], [0xf44, 0xf47], [0xf49, 0xf4c],
    [0xf4e, 0xf51], [0xf53, 0xf56], [0xf58, 0xf5b], [0xf5d, 0xf68], [0xf6a, 0xf6c], [0xf71, 0xf72],
    [0xf74], [0xf7a, 0xf80], [0xf82, 0xf84], [0xf86, 0xf92], [0xf94, 0xf97], [0xf99, 0xf9c],
    [0xf9e, 0xfa1], [0xfa3, 0xfa6], [0xfa8, 0xfab], [0xfad, 0xfb8], [0xfba, 0xfbc], [0xfc6],
    [0x1000, 0x1049], [0x1050, 0x109d], [0x10d0, 0x10fa], [0x10fd, 0x10ff], [0x1200, 0x1248],
    [0x124a, 0x124d], [0x1250, 0x1256], [0x1258], [0x125a, 0x125d], [0x1260, 0x1288],
    [0x128a, 0x128d], [0x1290, 0x12b0], [0x12b2, 0x12b5], [0x12b8, 0x12be], [0x12c0],
    [0x12c2, 0x12c5], [0x12c8, 0x12d6], [0x12d8, 0x1310], [0x1312, 0x1315], [0x1318, 0x135a],
    [0x135d, 0x135f], [0x1380, 0x138f], [0x13a0, 0x13f5], [0x1401, 0x166c], [0x166f, 0x167f],
    [0x1681, 0x169a], [0x16a0, 0x16ea], [0x16f1, 0x16f8], [0x1700, 0x1715], [0x171f, 0x1734],
    [0x1740, 0x1753], [0x1760, 0x176c], [0x176e, 0x1770], [0x1772, 0x1773], [0x1780, 0x17b3],
    [0x17b6, 0x17d3], [0x17d7], [0x17dc, 0x17dd], [0x17e0, 0x17e9], [0x1810, 0x1819],
    [0x1820, 0x1878], [0x1880, 0x18aa], [0x18b0, 0x18f5], [0x1900, 0x191e], [0x1920, 0x192b],
    [0x1930, 0x193b], [0x1946, 0x196d], [0x1970, 0x1974], [0x1980, 0x19ab], [0x19b0, 0x19c9],
    [0x19d0, 0x19d9], [0x1a00, 0x1a1b], [0x1a20, 0x1a5e], [0x1a60, 0x1a7c], [0x1a7f, 0x1a89],
    [0x1a90, 0x1a99], [0x1aa7], [0x1ab0, 0x1abd], [0x1abf, 0x1add], [0x1ae0, 0x1aeb],
    [0x1b00, 0x1b4c], [0x1b50, 0x1b59], [0x1b6b, 0x1b73], [0x1b80, 0x1bf3], [0x1c00, 0x1c37],
    [0x1c40, 0x1c49], [0x1c4d, 0x1c7d], [0x1c8a], [0x1cd0, 0x1cd2], [0x1cd4, 0x1cfa],
    [0x1d00, 0x1d2b], [0x1d2f], [0x1d3b], [0x1d4e], [0x1d6b, 0x1d77], [0x1d79, 0x1d9a],
    [0x1dc0, 0x1dff], [0x1e01, 0x1e95, 2], [0x1e96, 0x1e99], [0x1e9c, 0x1e9d], [0x1e9f, 0x1eff, 2],
    [0x1f00, 0x1f07], [0x1f10, 0x1f15], [0x1f20, 0x1f27], [0x1f30, 0x1f37], [0x1f40, 0x1f45],
    [0x1f50, 0x1f57], [0x1f60, 0x1f67], [0x1f70, 0x1f7c, 2], [0x1fb0, 0x1fb1], [0x1fb6], [0x1fc6],
    [0x1fd0, 0x1fd2], [0x1fd6, 0x1fd7], [0x1fe0, 0x1fe2], [0x1fe4, 0x1fe7], [0x1ff6], [0x214e],
    [0x2184], [0x2c30, 0x2c5f], [0x2c61], [0x2c65, 0x2c66], [0x2c68, 0x2c6c, 2], [0x2c71],
    [0x2c73, 0x2c74], [0x2c76, 0x2c7b], [0x2c81, 0x2ce3, 2], [0x2ce4], [0x2cec], [0x2cee, 0x2cf1],
    [0x2cf3], [0x2d00, 0x2d25], [0x2d27], [0x2d2d], [0x2d30, 0x2d67], [0x2d7f, 0x2d96],
    [0x2da0, 0x2da6], [0x2da8, 0x2dae], [0x2db0, 0x2db6], [0x2db8, 0x2dbe], [0x2dc0, 0x2dc6],
    [0x2dc8, 0x2dce], [0x2dd0, 0x2dd6], [0x2dd8, 0x2dde], [0x2de0, 0x2dff], [0x2e2f],
    [0x3005, 0x3007], [0x302a, 0x302d], [0x303c], [0x3041, 0x3096], [0x3099, 0x309a],
    [0x309d, 0x309e], [0x30a1, 0x30fa], [0x30fc, 0x30fe], [0x3105, 0x312f], [0x31a0, 0x31bf],
    [0x31f0, 0x31ff], [0x3400, 0x4dbf], [0x4e00, 0xa48c], [0xa4d0, 0xa4fd], [0xa500, 0xa60c],
    [0xa610, 0xa62b], [0xa641, 0xa66d, 2], [0xa66e, 0xa66f], [0xa674, 0xa67d], [0xa67f, 0xa69b, 2],
    [0xa69e, 0xa6e5], [0xa6f0, 0xa6f1], [0xa717, 0xa71f], [0xa723, 0xa72f, 2], [0xa730, 0xa731],
    [0xa733, 0xa771, 2], [0xa772, 0xa778], [0xa77a], [0xa77c], [0xa77f, 0xa787, 2], [0xa788],
    [0xa78c], [0xa78e, 0xa78f], [0xa791], [0xa793, 0xa795], [0xa797, 0xa7a9, 2], [0xa7af],
    [0xa7b5, 0xa7c3, 2], [0xa7c8], [0xa7ca], [0xa7cd, 0xa7db, 2], [0xa7de, 0xa7e2, 2],
    [0xa7f6, 0xa7f7], [0xa7fa, 0xa827], [0xa82c], [0xa840, 0xa873], [0xa880, 0xa8c5],
    [0xa8d0, 0xa8d9], [0xa8e0, 0xa8f7], [0xa8fb], [0xa8fd, 0xa92d], [0xa930, 0xa953],
    [0xa980, 0xa9c0], [0xa9cf, 0xa9d9], [0xa9e0, 0xa9fe], [0xaa00, 0xaa36], [0xaa40, 0xaa4d],
    [0xaa50, 0xaa59], [0xaa60, 0xaa76], [0xaa7a, 0xaac2], [0xaadb, 0xaadd], [0xaae0, 0xaaef],
    [0xaaf2, 0xaaf6], [0xab01, 0xab06], [0xab09, 0xab0e], [0xab11, 0xab16], [0xab20, 0xab26],
    [0xab28, 0xab2e], [0xab30, 0xab5a], [0xab60, 0xab68], [0xabc0, 0xabea], [0xabec, 0xabed],
    [0xabf0, 0xabf9], [0xac00, 0xd7a3], [0xfa0e, 0xfa0f], [0xfa11], [0xfa13, 0xfa14],
    [0xfa1f, 0xfa23, 2], [0xfa24], [0xfa27, 0xfa29], [0xfb1e], [0xfe20, 0xfe2f], [0xfe73],
    [0x10000, 0x1000b], [0x1000d, 0x10026], [0x10028, 0x1003a], [0x1003c, 0x1003d],
    [0x1003f, 0x1004d], [0x10050, 0x1005d], [0x10080, 0x100fa], [0x101fd], [0x10280, 0x1029c],
    [0x102a0, 0x102d0], [0x102e0], [0x10300, 0x1031f], [0x1032d, 0x10340], [0x10342, 0x10349],
    [0x10350, 0x1037a], [0x10380, 0x1039d], [0x103a0, 0x103c3], [0x103c8, 0x103cf],
    [0x10428, 0x1049d], [0x104a0, 0x104a9], [0x104d8, 0x104fb], [0x10500, 0x10527],
    [0x10530, 0x10563], [0x10597, 0x105a1], [0x105a3, 0x105b1], [0x105b3, 0x105b9],
    [0x105bb, 0x105bc], [0x105c0, 0x105f3], [0x10600, 0x10736], [0x10740, 0x10755],
    [0x10760, 0x10767], [0x10780], [0x10800, 0x10805], [0x10808], [0x1080a, 0x10835],
    [0x10837, 0x10838], [0x1083c], [0x1083f, 0x10855], [0x10860, 0x10876], [0x10880, 0x1089e],
    [0x108e0, 0x108f2], [0x108f4, 0x108f5], [0x10900, 0x10915], [0x10920, 0x10939],
    [0x10940, 0x10959], [0x10980, 0x109b7], [0x109be, 0x109bf], [0x10a00, 0x10a03],
    [0x10a05, 0x10a06], [0x10a0c, 0x10a13], [0x10a15, 0x10a17], [0x10a19, 0x10a35],
    [0x10a38, 0x10a3a], [0x10a3f], [0x10a60, 0x10a7c], [0x10a80, 0x10a9c], [0x10ac0, 0x10ac7],
    [0x10ac9, 0x10ae6], [0x10b00, 0x10b35], [0x10b40, 0x10b55], [0x10b60, 0x10b72],
    [0x10b80, 0x10b91], [0x10c00, 0x10c48], [0x10cc0, 0x10cf2], [0x10d00, 0x10d27],
    [0x10d30, 0x10d39], [0x10d40, 0x10d4f], [0x10d69, 0x10d6d], [0x10d6f, 0x10d85],
    [0x10e80, 0x10ea9], [0x10eab, 0x10eac], [0x10eb0, 0x10eb1], [0x10ec2, 0x10ec7],
    [0x10efa, 0x10f1c], [0x10f27], [0x10f30, 0x10f50], [0x10f70, 0x10f85], [0x10fb0, 0x10fc4],
    [0x10fe0, 0x10ff6], [0x11000, 0x11046], [0x11066, 0x11075], [0x1107f, 0x110ba], [0x110c2],
    [0x110d0, 0x110e8], [0x110f0, 0x110f9], [0x11100, 0x11134], [0x11136, 0x1113f],
    [0x11144, 0x11147], [0x11150, 0x11173], [0x11176], [0x11180, 0x111c4], [0x111c9, 0x111cc],
    [0x111ce, 0x111da], [0x111dc], [0x11200, 0x11211], [0x11213, 0x11237], [0x1123e, 0x11241],
    [0x11280, 0x11286], [0x11288], [0x1128a, 0x1128d], [0x1128f, 0x1129d], [0x1129f, 0x112a8],
    [0x112b0, 0x112ea], [0x112f0, 0x112f9], [0x11300, 0x11303], [0x11305, 0x1130c],
    [0x1130f, 0x11310], [0x11313, 0x11328], [0x1132a, 0x11330], [0x11332, 0x11333],
    [0x11335, 0x11339], [0x1133b, 0x11344], [0x11347, 0x11348], [0x1134b, 0x1134d], [0x11350],
    [0x11357], [0x1135d, 0x11363], [0x11366, 0x1136c], [0x11370, 0x11374], [0x11380, 0x11389],
    [0x1138b], [0x1138e], [0x11390, 0x113b5], [0x113b7, 0x113c0], [0x113c2], [0x113c5],
    [0x113c7, 0x113ca], [0x113cc, 0x113d3], [0x113e1, 0x113e2], [0x11400, 0x1144a],
    [0x11450, 0x11459], [0x1145e, 0x11461], [0x11480, 0x114c5], [0x114c7], [0x114d0, 0x114d9],
    [0x11580, 0x115b5], [0x115b8, 0x115c0], [0x115d8, 0x115dd], [0x11600, 0x11640], [0x11644],
    [0x11650, 0x11659], [0x11680, 0x116b8], [0x116c0, 0x116c9], [0x116d0, 0x116e3],
    [0x11700, 0x1171a], [0x1171d, 0x1172b], [0x11730, 0x11739], [0x11740, 0x11746],
    [0x11800, 0x1183a], [0x118c0, 0x118e9], [0x118ff, 0x11906], [0x11909], [0x1190c, 0x11913],
    [0x11915, 0x11916], [0x11918, 0x11935], [0x11937, 0x11938], [0x1193b, 0x11943],
    [0x11950, 0x11959], [0x119a0, 0x119a7], [0x119aa, 0x119d7], [0x119da, 0x119e1],
    [0x119e3, 0x119e4], [0x11a00, 0x11a3e], [0x11a47], [0x11a50, 0x11a99], [0x11a9d],
    [0x11ab0, 0x11af8], [0x11b60, 0x11b67], [0x11bc0, 0x11be0], [0x11bf0, 0x11bf9],
    [0x11c00, 0x11c08], [0x11c0a, 0x11c36], [0x11c38, 0x11c40], [0x11c50, 0x11c59],
    [0x11c72, 0x11c8f], [0x11c92, 0x11ca7], [0x11ca9, 0x11cb6], [0x11d00, 0x11d06],
    [0x11d08, 0x11d09], [0x11d0b, 0x11d36], [0x11d3a], [0x11d3c, 0x11d3d], [0x11d3f, 0x11d47],
    [0x11d50, 0x11d59], [0x11d60, 0x11d65], [0x11d67, 0x11d68], [0x11d6a, 0x11d8e],
    [0x11d90, 0x11d91], [0x11d93, 0x11d98], [0x11da0, 0x11da9], [0x11db0, 0x11ddb],
    [0x11de0, 0x11de9], [0x11ee0, 0x11ef6], [0x11f00, 0x11f10], [0x11f12, 0x11f3a],
    [0x11f3e, 0x11f42], [0x11f50, 0x11f5a], [0x11fb0], [0x12000, 0x12399], [0x12480, 0x12543],
    [0x12f90, 0x12ff0], [0x13000, 0x1342f], [0x13440, 0x13455], [0x13460, 0x143fa],
    [0x14400, 0x14646], [0x16100, 0x16139], [0x16800, 0x16a38], [0x16a40, 0x16a5e],
    [0x16a60, 0x16a69], [0x16a70, 0x16abe], [0x16ac0, 0x16ac9], [0x16ad0, 0x16aed],
    [0x16af0, 0x16af4], [0x16b00, 0x16b36], [0x16b40, 0x16b43], [0x16b50, 0x16b59],
    [0x16b63, 0x16b77], [0x16b7d, 0x16b8f], [0x16d40, 0x16d6c], [0x16d70, 0x16d79],
    [0x16d80, 0x16da8], [0x16db0, 0x16db9], [0x16e60, 0x16e7f], [0x16ebb, 0x16ed3],
    [0x16f00, 0x16f4a], [0x16f4f, 0x16f87], [0x16f8f, 0x16f9f], [0x16fe0, 0x16fe1],
    [0x16fe3, 0x16fe4], [0x16ff0, 0x16ff3], [0x17000, 0x18cd5], [0x18cff, 0x18d1e],
    [0x18d80, 0x18df2], [0x1aff0, 0x1aff3], [0x1aff5, 0x1affb], [0x1affd, 0x1affe],
    [0x1b000, 0x1b124], [0x1b132], [0x1b150, 0x1b152], [0x1b155], [0x1b164, 0x1b167],
    [0x1b170, 0x1b2fb], [0x1bc00, 0x1bc6a], [0x1bc70, 0x1bc7c], [0x1bc80, 0x1bc88],
    [0x1bc90, 0x1bc99], [0x1bc9d, 0x1bc9e], [0x1cf00, 0x1cf2d], [0x1cf30, 0x1cf46],
    [0x1da00, 0x1da36], [0x1da3b, 0x1da6c], [0x1da75], [0x1da84], [0x1da9b, 0x1da9f],
    [0x1daa1, 0x1daaf], [0x1df00, 0x1df1e], [0x1df25, 0x1df95], [0x1e000, 0x1e006],
    [0x1e008, 0x1e018], [0x1e01b, 0x1e021], [0x1e023, 0x1e024], [0x1e026, 0x1e02a], [0x1e08f],
    [0x1e100, 0x1e12c], [0x1e130, 0x1e13d], [0x1e140, 0x1e149], [0x1e14e], [0x1e290, 0x1e2ae],
    [0x1e2c0, 0x1e2f9], [0x1e4d0, 0x1e4f9], [0x1e5d0, 0x1e5fa], [0x1e6c0, 0x1e6de],
    [0x1e6e0, 0x1e6f5], [0x1e6fe, 0x1e6ff], [0x1e7e0, 0x1e7e6], [0x1e7e8, 0x1e7eb],
    [0x1e7ed, 0x1e7ee], [0x1e7f0, 0x1e7fe], [0x1e800, 0x1e8c4], [0x1e8d0, 0x1e8d6],
    [0x1e922, 0x1e94b], [0x1e950, 0x1e959], [0x20000, 0x2a6df], [0x2a700, 0x2b81d],
    [0x2b820, 0x2cead], [0x2ceb0, 0x2ebe0], [0x2ebf0, 0x2ee5d], [0x30000, 0x3134a],
    [0x31350, 0x33479], [0x3d000, 0x3fc3f]]

/-- Combining marks among them, which do not start a label. -/
def markRuns : String :=
  "300,33f 342 346,34e 350,36f 483,487 591,5bd 5bf 5c1,5c2 5c4,5c5 5c7 610,61a 64b,65f 670
   6d6,6dc 6df,6e4 6e7,6e8 6ea,6ed 711 730,74a 7a6,7b0 7eb,7f3 7fd 816,819 81b,823 825,827
   829,82d 859,85b 898,89f 8ca,8e1 8e3,903 93a,93c 93e,94f 951,957 962,963 981,983 9bc 9be,9c4
   9c7,9c8 9cb,9cd 9d7 9e2,9e3 9fe a01,a03 a3c a3e,a42 a47,a48 a4b,a4d a51 a70,a71 a75 a81,a83
   abc abe,ac5 ac7,ac9 acb,acd ae2,ae3 afa,aff b01,b03 b3c b3e,b44 b47,b48 b4b,b4d b55,b57
   b62,b63 b82 bbe,bc2 bc6,bc8 bca,bcd bd7 c00,c04 c3c c3e,c44 c46,c48 c4a,c4d c55,c56 c62,c63
   c81,c83 cbc cbe,cc4 cc6,cc8 cca,ccd cd5,cd6 ce2,ce3 d00,d03 d3b,d3c d3e,d44 d46,d48 d4a,d4d
   d57 d62,d63 d81,d83 dca dcf,dd4 dd6 dd8,ddf df2,df3 e31 e34,e3a e47,e4e eb1 eb4,ebc ec8,ecd
   f18,f19 f35,f39,2 f3e,f3f f71,f72 f74 f7a,f80 f82,f84 f86,f87 f8d,f92 f94,f97 f99,f9c
   f9e,fa1 fa3,fa6 fa8,fab fad,fb8 fba,fbc fc6 102b,103e 1056,1059 105e,1060 1062,1064
   1067,106d 1071,1074 1082,108d 108f 109a,109d 135d,135f 1712,1715 1732,1734 1752,1753
   1772,1773 17b6,17d3 17dd 1885,1886 18a9 1920,192b 1930,193b 1a17,1a1b 1a55,1a5e 1a60,1a7c
   1a7f 1ab0,1abd 1abf,1ace 1b00,1b04 1b34,1b44 1b6b,1b73 1b80,1b82 1ba1,1bad 1be6,1bf3
   1c24,1c37 1cd0,1cd2 1cd4,1ce8 1ced 1cf4 1cf7,1cf9 1dc0,1dff 2cef,2cf1 2d7f 2de0,2dff
   302a,302d 3099,309a a66f a674,a67d a69e,a69f a6f0,a6f1 a802 a806 a80b a823,a827 a82c
   a880,a881 a8b4,a8c5 a8e0,a8f1 a8ff a926,a92d a947,a953 a980,a983 a9b3,a9c0 a9e5 aa29,aa36
   aa43 aa4c,aa4d aa7b,aa7d aab0 aab2,aab4 aab7,aab8 aabe,aabf aac1 aaeb,aaef aaf5,aaf6
   abe3,abea abec,abed fb1e fe20,fe2f 101fd 102e0 10376,1037a 10a01,10a03 10a05,10a06
   10a0c,10a0f 10a38,10a3a 10a3f 10ae5,10ae6 10d24,10d27 10eab,10eac 10f46,10f50 10f82,10f85
   11000,11002 11038,11046 11070 11073,11074 1107f,11082 110b0,110ba 110c2 11100,11102
   11127,11134 11145,11146 11173 11180,11182 111b3,111c0 111c9,111cc 111ce,111cf 1122c,11237
   1123e 112df,112ea 11300,11303 1133b,1133c 1133e,11344 11347,11348 1134b,1134d 11357
   11362,11363 11366,1136c 11370,11374 11435,11446 1145e 114b0,114c3 115af,115b5 115b8,115c0
   115dc,115dd 11630,11640 116ab,116b7 1171d,1172b 1182c,1183a 11930,11935 11937,11938
   1193b,1193e 11940 11942,11943 119d1,119d7 119da,119e0 119e4 11a01,11a0a 11a33,11a39
   11a3b,11a3e 11a47 11a51,11a5b 11a8a,11a99 11c2f,11c36 11c38,11c3f 11c92,11ca7 11ca9,11cb6
   11d31,11d36 11d3a 11d3c,11d3d 11d3f,11d45 11d47 11d8a,11d8e 11d90,11d91 11d93,11d97
   11ef3,11ef6 16af0,16af4 16b30,16b36 16f4f 16f51,16f87 16f8f,16f92 16fe4 16ff0,16ff1
   1bc9d,1bc9e 1cf00,1cf2d 1cf30,1cf46 1da00,1da36 1da3b,1da6c 1da75 1da84 1da9b,1da9f
   1daa1,1daaf 1e000,1e006 1e008,1e018 1e01b,1e021 1e023,1e024 1e026,1e02a 1e130,1e136 1e2ae
   1e2ec,1e2ef 1e8d0,1e8d6 1e944,1e94a"

/-- Greek characters. -/
def greekRuns : String :=
  "370,373 375,377 37a,37d 37f 384,388,2 389,38a 38c 38e,3a1 3a3,3e1 3f0,3ff 1d26,1d2a
   1d5d,1d61 1d66,1d6a 1dbf 1f00,1f15 1f18,1f1d 1f20,1f45 1f48,1f4d 1f50,1f57 1f59,1f5f,2
   1f60,1f7d 1f80,1fb4 1fb6,1fc4 1fc6,1fd3 1fd6,1fdb 1fdd,1fef 1ff2,1ff4 1ff6,1ffe 2126 ab65
   10140,1018e 101a0 1d200,1d245"

/-- Hebrew characters. -/
def hebrewRuns : String :=
  "591,5c7 5d0,5ea 5ef,5f4 fb1d,fb36 fb38,fb3c fb3e fb40,fb41 fb43,fb44 fb46,fb4f"

/-- Hiragana, Katakana and Han characters. -/
def kanaHanRuns : String :=
  "2e80,2e99 2e9b,2ef3 2f00,2fd5 3005 3007 3021,3029 3038,303b 3041,3096 309d,309f 30a1,30fa
   30fd,30ff 31f0,31ff 32d0,32fe 3300,3357 3400,4dbf 4e00,9fff f900,fa6d fa70,fad9 ff66,ff6f
   ff71,ff9d 16fe2,16fe3 16ff0,16ff6 1aff0,1aff3 1aff5,1affb 1affd,1affe 1b000,1b122 1b132
   1b150,1b152 1b155 1b164,1b167 1f200 20000,2a6df 2a700,2b81d 2b820,2cead 2ceb0,2ebe0
   2ebf0,2ee5d 2f800,2fa1d 30000,3134a 31350,33479"

/-- Characters that joining looks through. -/
def joinTransparent : String :=
  "ad 300,36f 483,489 591,5bd 5bf 5c1,5c2 5c4,5c5 5c7 610,61a 61c 64b,65f 670 6d6,6dc 6df,6e4
   6e7,6e8 6ea,6ed 70f 711 730,74a 7a6,7b0 7eb,7f3 7fd 816,819 81b,823 825,827 829,82d 859,85b
   897,89f 8ca,8e1 8e3,902 93a 93c 941,948 94d 951,957 962,963 981 9bc 9c1,9c4 9cd 9e2,9e3 9fe
   a01,a02 a3c a41,a42 a47,a48 a4b,a4d a51 a70,a71 a75 a81,a82 abc ac1,ac5 ac7,ac8 acd ae2,ae3
   afa,aff b01 b3c b3f b41,b44 b4d b55,b56 b62,b63 b82 bc0 bcd c00 c04 c3c c3e,c40 c46,c48
   c4a,c4d c55,c56 c62,c63 c81 cbc cbf cc6 ccc,ccd ce2,ce3 d00,d01 d3b,d3c d41,d44 d4d d62,d63
   d81 dca dd2,dd4 dd6 e31 e34,e3a e47,e4e eb1 eb4,ebc ec8,ece f18,f19 f35,f39,2 f71,f7e
   f80,f84 f86,f87 f8d,f97 f99,fbc fc6 102d,1030 1032,1037 1039,103a 103d,103e 1058,1059
   105e,1060 1071,1074 1082 1085,1086 108d 109d 135d,135f 1712,1714 1732,1733 1752,1753
   1772,1773 17b4,17b5 17b7,17bd 17c6 17c9,17d3 17dd 180b,180d 180f 1885,1886 18a9 1920,1922
   1927,1928 1932 1939,193b 1a17,1a18 1a1b 1a56 1a58,1a5e 1a60 1a62 1a65,1a6c 1a73,1a7c 1a7f
   1ab0,1add 1ae0,1aeb 1b00,1b03 1b34 1b36,1b3a 1b3c 1b42 1b6b,1b73 1b80,1b81 1ba2,1ba5
   1ba8,1ba9 1bab,1bad 1be6 1be8,1be9 1bed 1bef,1bf1 1c2c,1c33 1c36,1c37 1cd0,1cd2 1cd4,1ce0
   1ce2,1ce8 1ced 1cf4 1cf8,1cf9 1dc0,1dff 200b 200e,200f 202a,202e 2060,2064 206a,206f
   20d0,20f0 2cef,2cf1 2d7f 2de0,2dff 302a,302d 3099,309a a66f,a672 a674,a67d a69e,a69f
   a6f0,a6f1 a802 a806 a80b a825,a826 a82c a8c4,a8c5 a8e0,a8f1 a8ff a926,a92d a947,a951
   a980,a982 a9b3 a9b6,a9b9 a9bc,a9bd a9e5 aa29,aa2e aa31,aa32 aa35,aa36 aa43 aa4c aa7c aab0
   aab2,aab4 aab7,aab8 aabe,aabf aac1 aaec,aaed aaf6 abe5 abe8 abed fb1e fe00,fe0f fe20,fe2f
   feff fff9,fffb 101fd 102e0 10376,1037a 10a01,10a03 10a05,10a06 10a0c,10a0f 10a38,10a3a 10a3f
   10ae5,10ae6 10d24,10d27 10d69,10d6d 10eab,10eac 10efa,10eff 10f46,10f50 10f82,10f85 11001
   11038,11046 11070 11073,11074 1107f,11081 110b3,110b6 110b9,110ba 110c2 11100,11102
   11127,1112b 1112d,11134 11173 11180,11181 111b6,111be 111c9,111cc 111cf 1122f,11231 11234
   11236,11237 1123e 11241 112df 112e3,112ea 11300,11301 1133b,1133c 11340 11366,1136c
   11370,11374 113bb,113c0 113ce,113d2,2 113e1,113e2 11438,1143f 11442,11444 11446 1145e
   114b3,114b8 114ba 114bf,114c0 114c2,114c3 115b2,115b5 115bc,115bd 115bf,115c0 115dc,115dd
   11633,1163a 1163d 1163f,11640 116ab 116ad 116b0,116b5 116b7 1171d 1171f 11722,11725
   11727,1172b 1182f,11837 11839,1183a 1193b,1193c 1193e 11943 119d4,119d7 119da,119db 119e0
   11a01,11a0a 11a33,11a38 11a3b,11a3e 11a47 11a51,11a56 11a59,11a5b 11a8a,11a96 11a98,11a99
   11b60 11b62,11b64 11b66 11c30,11c36 11c38,11c3d 11c3f 11c92,11ca7 11caa,11cb0 11cb2,11cb3
   11cb5,11cb6 11d31,11d36 11d3a 11d3c,11d3d 11d3f,11d45 11d47 11d90,11d91 11d95 11d97
   11ef3,11ef4 11f00,11f01 11f36,11f3a 11f40 11f42 11f5a 13430,13440 13447,13455 1611e,16129
   1612d,1612f 16af0,16af4 16b30,16b36 16f4f 16f8f,16f92 16fe4 1bc9d,1bc9e 1bca0,1bca3
   1cf00,1cf2d 1cf30,1cf46 1d167,1d169 1d173,1d182 1d185,1d18b 1d1aa,1d1ad 1d242,1d244
   1da00,1da36 1da3b,1da6c 1da75 1da84 1da9b,1da9f 1daa1,1daaf 1e000,1e006 1e008,1e018
   1e01b,1e021 1e023,1e024 1e026,1e02a 1e08f 1e130,1e136 1e2ae 1e2ec,1e2ef 1e4ec,1e4ef
   1e5ee,1e5ef 1e6e3 1e6e6 1e6ee,1e6ef 1e6f5 1e8d0,1e8d6 1e944,1e94b e0001 e0020,e007f
   e0100,e01ef"

/-- Letters that join on their left side only. -/
def joinLeft : String :=
  "a872 10acd 10ad7 10d00 10fcb"

/-- Letters that join on their right side only. -/
def joinRight : String :=
  "622,625 627 629 62f,632 648 671,673 675,677 688,699 6c0 6c3,6cb 6cd 6cf 6d2,6d3 6d5 6ee,6ef
   710 715,719 71e 728,72c,2 72f 74d 759,75b 76b,76c 771 773,774 778,779 840 846,847 849 854
   856,858 867 869,86a 870,882 88e 8aa,8ac 8ae 8b1,8b2 8b9 10ac5,10ac9,2 10aca 10ace,10ad2
   10add 10ae1 10ae4 10aef 10b81 10b83,10b85 10b89 10b8c 10b8e,10b8f 10b91 10ba9,10bac 10d22
   10ec2 10f33 10f54 10f74,10f75 10fb4,10fb6 10fb9,10fba 10fbd 10fc2,10fc3 10fc9"

/-- Letters that join on both sides. -/
def joinDual : String :=
  "620 626,62a,2 62b,62e 633,63f 641,647 649,64a 66e,66f 678,687 69a,6bf 6c1,6c2 6cc,6d0,2 6d1
   6fa,6fc 6ff 712,714 71a,71d 71f,727 729,72d,2 72e 74e,758 75c,76a 76d,770 772 775,777
   77a,77f 7ca,7ea 841,845 848 84a,853 855 860 862,865 868 886 889,88d 88f 8a0,8a9 8af,8b0
   8b3,8b8 8ba,8c8 1807 1820,1878 1887,18a8 18aa a840,a871 10ac0,10ac4 10ad3,10ad6 10ad8,10adc
   10ade,10ae0 10aeb,10aee 10b80 10b82 10b86,10b88 10b8a,10b8b 10b8d 10b90 10bad,10bae
   10d01,10d21 10d23 10ec3,10ec4 10ec6,10ec7 10f30,10f32 10f34,10f44 10f51,10f53 10f70,10f73
   10f76,10f81 10fb0 10fb2,10fb3 10fb8 10fbb,10fbc 10fbe,10fbf 10fc1 10fc4 10fca 1e900,1e943"

end HttpFetch.Host.LabelTable
