import Bookbinder.Text.Ranges

/-!
Characters of host names: which ones labels may hold wherever they stand.
-/

set_option autoImplicit false

namespace Bookbinder.Web

/-- Characters of a label: the European scripts and their neighbours. -/
def firstRanges : List (Nat × Nat) :=
  [
    (0x002d, 0x002d), (0x0030, 0x0039), (0x0061, 0x007a), (0x00df, 0x00f6), (0x00f8, 0x00ff),
    (0x0101, 0x0101), (0x0103, 0x0103), (0x0105, 0x0105), (0x0107, 0x0107), (0x0109, 0x0109),
    (0x010b, 0x010b), (0x010d, 0x010d), (0x010f, 0x010f), (0x0111, 0x0111), (0x0113, 0x0113),
    (0x0115, 0x0115), (0x0117, 0x0117), (0x0119, 0x0119), (0x011b, 0x011b), (0x011d, 0x011d),
    (0x011f, 0x011f), (0x0121, 0x0121), (0x0123, 0x0123), (0x0125, 0x0125), (0x0127, 0x0127),
    (0x0129, 0x0129), (0x012b, 0x012b), (0x012d, 0x012d), (0x012f, 0x012f), (0x0131, 0x0131),
    (0x0135, 0x0135), (0x0137, 0x0138), (0x013a, 0x013a), (0x013c, 0x013c), (0x013e, 0x013e),
    (0x0142, 0x0142), (0x0144, 0x0144), (0x0146, 0x0146), (0x0148, 0x0148), (0x014b, 0x014b),
    (0x014d, 0x014d), (0x014f, 0x014f), (0x0151, 0x0151), (0x0153, 0x0153), (0x0155, 0x0155),
    (0x0157, 0x0157), (0x0159, 0x0159), (0x015b, 0x015b), (0x015d, 0x015d), (0x015f, 0x015f),
    (0x0161, 0x0161), (0x0163, 0x0163), (0x0165, 0x0165), (0x0167, 0x0167), (0x0169, 0x0169),
    (0x016b, 0x016b), (0x016d, 0x016d), (0x016f, 0x016f), (0x0171, 0x0171), (0x0173, 0x0173),
    (0x0175, 0x0175), (0x0177, 0x0177), (0x017a, 0x017a), (0x017c, 0x017c), (0x017e, 0x017e),
    (0x0180, 0x0180), (0x0183, 0x0183), (0x0185, 0x0185), (0x0188, 0x0188), (0x018c, 0x018d),
    (0x0192, 0x0192), (0x0195, 0x0195), (0x0199, 0x019b), (0x019e, 0x019e), (0x01a1, 0x01a1),
    (0x01a3, 0x01a3), (0x01a5, 0x01a5), (0x01a8, 0x01a8), (0x01aa, 0x01ab), (0x01ad, 0x01ad),
    (0x01b0, 0x01b0), (0x01b4, 0x01b4), (0x01b6, 0x01b6), (0x01b9, 0x01bb), (0x01bd, 0x01c3),
    (0x01ce, 0x01ce), (0x01d0, 0x01d0), (0x01d2, 0x01d2), (0x01d4, 0x01d4), (0x01d6, 0x01d6),
    (0x01d8, 0x01d8), (0x01da, 0x01da), (0x01dc, 0x01dd), (0x01df, 0x01df), (0x01e1, 0x01e1),
    (0x01e3, 0x01e3), (0x01e5, 0x01e5), (0x01e7, 0x01e7), (0x01e9, 0x01e9), (0x01eb, 0x01eb),
    (0x01ed, 0x01ed), (0x01ef, 0x01f0), (0x01f5, 0x01f5), (0x01f9, 0x01f9), (0x01fb, 0x01fb),
    (0x01fd, 0x01fd), (0x01ff, 0x01ff), (0x0201, 0x0201), (0x0203, 0x0203), (0x0205, 0x0205),
    (0x0207, 0x0207), (0x0209, 0x0209), (0x020b, 0x020b), (0x020d, 0x020d), (0x020f, 0x020f),
    (0x0211, 0x0211), (0x0213, 0x0213), (0x0215, 0x0215), (0x0217, 0x0217), (0x0219, 0x0219),
    (0x021b, 0x021b), (0x021d, 0x021d), (0x021f, 0x021f), (0x0221, 0x0221), (0x0223, 0x0223),
    (0x0225, 0x0225), (0x0227, 0x0227), (0x0229, 0x0229), (0x022b, 0x022b), (0x022d, 0x022d),
    (0x022f, 0x022f), (0x0231, 0x0231), (0x0233, 0x0239), (0x023c, 0x023c), (0x023f, 0x0240),
    (0x0242, 0x0242), (0x0247, 0x0247), (0x0249, 0x0249), (0x024b, 0x024b), (0x024d, 0x024d),
    (0x024f, 0x02af), (0x02b9, 0x02c1), (0x02c6, 0x02d1), (0x02ec, 0x02ec), (0x02ee, 0x02ee),
    (0x0300, 0x033f), (0x0342, 0x0342), (0x0346, 0x034e), (0x0350, 0x036f), (0x0371, 0x0371),
    (0x0373, 0x0373), (0x0377, 0x0377), (0x037b, 0x037d), (0x0390, 0x0390), (0x03ac, 0x03ce),
    (0x03d7, 0x03d7), (0x03d9, 0x03d9), (0x03db, 0x03db), (0x03dd, 0x03dd), (0x03df, 0x03df),
    (0x03e1, 0x03e1), (0x03e3, 0x03e3), (0x03e5, 0x03e5), (0x03e7, 0x03e7), (0x03e9, 0x03e9),
    (0x03eb, 0x03eb), (0x03ed, 0x03ed), (0x03ef, 0x03ef), (0x03f3, 0x03f3), (0x03f8, 0x03f8),
    (0x03fb, 0x03fc), (0x0430, 0x045f), (0x0461, 0x0461), (0x0463, 0x0463), (0x0465, 0x0465),
    (0x0467, 0x0467), (0x0469, 0x0469), (0x046b, 0x046b), (0x046d, 0x046d), (0x046f, 0x046f),
    (0x0471, 0x0471), (0x0473, 0x0473), (0x0475, 0x0475), (0x0477, 0x0477), (0x0479, 0x0479),
    (0x047b, 0x047b), (0x047d, 0x047d), (0x047f, 0x047f), (0x0481, 0x0481), (0x0483, 0x0487),
    (0x048b, 0x048b), (0x048d, 0x048d), (0x048f, 0x048f), (0x0491, 0x0491), (0x0493, 0x0493),
    (0x0495, 0x0495), (0x0497, 0x0497), (0x0499, 0x0499), (0x049b, 0x049b), (0x049d, 0x049d),
    (0x049f, 0x049f), (0x04a1, 0x04a1), (0x04a3, 0x04a3), (0x04a5, 0x04a5), (0x04a7, 0x04a7),
    (0x04a9, 0x04a9), (0x04ab, 0x04ab), (0x04ad, 0x04ad), (0x04af, 0x04af), (0x04b1, 0x04b1),
    (0x04b3, 0x04b3), (0x04b5, 0x04b5), (0x04b7, 0x04b7), (0x04b9, 0x04b9), (0x04bb, 0x04bb),
    (0x04bd, 0x04bd), (0x04bf, 0x04bf), (0x04c2, 0x04c2), (0x04c4, 0x04c4), (0x04c6, 0x04c6),
    (0x04c8, 0x04c8), (0x04ca, 0x04ca), (0x04cc, 0x04cc), (0x04ce, 0x04cf), (0x04d1, 0x04d1),
    (0x04d3, 0x04d3), (0x04d5, 0x04d5), (0x04d7, 0x04d7), (0x04d9, 0x04d9), (0x04db, 0x04db),
    (0x04dd, 0x04dd), (0x04df, 0x04df), (0x04e1, 0x04e1), (0x04e3, 0x04e3), (0x04e5, 0x04e5),
    (0x04e7, 0x04e7), (0x04e9, 0x04e9), (0x04eb, 0x04eb), (0x04ed, 0x04ed), (0x04ef, 0x04ef),
    (0x04f1, 0x04f1), (0x04f3, 0x04f3), (0x04f5, 0x04f5), (0x04f7, 0x04f7), (0x04f9, 0x04f9),
    (0x04fb, 0x04fb), (0x04fd, 0x04fd), (0x04ff, 0x04ff), (0x0501, 0x0501), (0x0503, 0x0503),
    (0x0505, 0x0505), (0x0507, 0x0507), (0x0509, 0x0509), (0x050b, 0x050b), (0x050d, 0x050d),
    (0x050f, 0x050f), (0x0511, 0x0511), (0x0513, 0x0513), (0x0515, 0x0515), (0x0517, 0x0517),
    (0x0519, 0x0519), (0x051b, 0x051b), (0x051d, 0x051d), (0x051f, 0x051f), (0x0521, 0x0521),
    (0x0523, 0x0523), (0x0525, 0x0525), (0x0527, 0x0527), (0x0529, 0x0529), (0x052b, 0x052b),
    (0x052d, 0x052d), (0x052f, 0x052f), (0x0559, 0x0559), (0x0560, 0x0586), (0x0588, 0x0588),
    (0x0591, 0x05bd), (0x05bf, 0x05bf), (0x05c1, 0x05c2), (0x05c4, 0x05c5), (0x05c7, 0x05c7),
    (0x05d0, 0x05ea), (0x05ef, 0x05f2), (0x0610, 0x061a), (0x0620, 0x063f), (0x0641, 0x065f),
    (0x066e, 0x0674), (0x0679, 0x06d3), (0x06d5, 0x06dc), (0x06df, 0x06e8), (0x06ea, 0x06ef),
    (0x06fa, 0x06ff), (0x0710, 0x074a), (0x074d, 0x07b1), (0x07c0, 0x07f5), (0x07fd, 0x07fd) ]

/-- Characters of a label: the scripts of South and East Asia up to the added Latin letters. -/
def secondRanges : List (Nat × Nat) :=
  [
    (0x0800, 0x082d), (0x0840, 0x085b), (0x0860, 0x086a), (0x0870, 0x0887), (0x0889, 0x088f),
    (0x0897, 0x08e1), (0x08e3, 0x0957), (0x0960, 0x0963), (0x0966, 0x096f), (0x0971, 0x0983),
    (0x0985, 0x098c), (0x098f, 0x0990), (0x0993, 0x09a8), (0x09aa, 0x09b0), (0x09b2, 0x09b2),
    (0x09b6, 0x09b9), (0x09bc, 0x09c4), (0x09c7, 0x09c8), (0x09cb, 0x09ce), (0x09d7, 0x09d7),
    (0x09e0, 0x09e3), (0x09e6, 0x09f1), (0x09fc, 0x09fc), (0x09fe, 0x09fe), (0x0a01, 0x0a03),
    (0x0a05, 0x0a0a), (0x0a0f, 0x0a10), (0x0a13, 0x0a28), (0x0a2a, 0x0a30), (0x0a32, 0x0a32),
    (0x0a35, 0x0a35), (0x0a38, 0x0a39), (0x0a3c, 0x0a3c), (0x0a3e, 0x0a42), (0x0a47, 0x0a48),
    (0x0a4b, 0x0a4d), (0x0a51, 0x0a51), (0x0a5c, 0x0a5c), (0x0a66, 0x0a75), (0x0a81, 0x0a83),
    (0x0a85, 0x0a8d), (0x0a8f, 0x0a91), (0x0a93, 0x0aa8), (0x0aaa, 0x0ab0), (0x0ab2, 0x0ab3),
    (0x0ab5, 0x0ab9), (0x0abc, 0x0ac5), (0x0ac7, 0x0ac9), (0x0acb, 0x0acd), (0x0ad0, 0x0ad0),
    (0x0ae0, 0x0ae3), (0x0ae6, 0x0aef), (0x0af9, 0x0aff), (0x0b01, 0x0b03), (0x0b05, 0x0b0c),
    (0x0b0f, 0x0b10), (0x0b13, 0x0b28), (0x0b2a, 0x0b30), (0x0b32, 0x0b33), (0x0b35, 0x0b39),
    (0x0b3c, 0x0b44), (0x0b47, 0x0b48), (0x0b4b, 0x0b4d), (0x0b55, 0x0b57), (0x0b5f, 0x0b63),
    (0x0b66, 0x0b6f), (0x0b71, 0x0b71), (0x0b82, 0x0b83), (0x0b85, 0x0b8a), (0x0b8e, 0x0b90),
    (0x0b92, 0x0b95), (0x0b99, 0x0b9a), (0x0b9c, 0x0b9c), (0x0b9e, 0x0b9f), (0x0ba3, 0x0ba4),
    (0x0ba8, 0x0baa), (0x0bae, 0x0bb9), (0x0bbe, 0x0bc2), (0x0bc6, 0x0bc8), (0x0bca, 0x0bcd),
    (0x0bd0, 0x0bd0), (0x0bd7, 0x0bd7), (0x0be6, 0x0bef), (0x0c00, 0x0c0c), (0x0c0e, 0x0c10),
    (0x0c12, 0x0c28), (0x0c2a, 0x0c39), (0x0c3c, 0x0c44), (0x0c46, 0x0c48), (0x0c4a, 0x0c4d),
    (0x0c55, 0x0c56), (0x0c58, 0x0c5a), (0x0c5c, 0x0c5d), (0x0c60, 0x0c63), (0x0c66, 0x0c6f),
    (0x0c80, 0x0c83), (0x0c85, 0x0c8c), (0x0c8e, 0x0c90), (0x0c92, 0x0ca8), (0x0caa, 0x0cb3),
    (0x0cb5, 0x0cb9), (0x0cbc, 0x0cc4), (0x0cc6, 0x0cc8), (0x0cca, 0x0ccd), (0x0cd5, 0x0cd6),
    (0x0cdc, 0x0cde), (0x0ce0, 0x0ce3), (0x0ce6, 0x0cef), (0x0cf1, 0x0cf3), (0x0d00, 0x0d0c),
    (0x0d0e, 0x0d10), (0x0d12, 0x0d44), (0x0d46, 0x0d48), (0x0d4a, 0x0d4e), (0x0d54, 0x0d57),
    (0x0d5f, 0x0d63), (0x0d66, 0x0d6f), (0x0d7a, 0x0d7f), (0x0d81, 0x0d83), (0x0d85, 0x0d96),
    (0x0d9a, 0x0db1), (0x0db3, 0x0dbb), (0x0dbd, 0x0dbd), (0x0dc0, 0x0dc6), (0x0dca, 0x0dca),
    (0x0dcf, 0x0dd4), (0x0dd6, 0x0dd6), (0x0dd8, 0x0ddf), (0x0de6, 0x0def), (0x0df2, 0x0df3),
    (0x0e01, 0x0e32), (0x0e34, 0x0e3a), (0x0e40, 0x0e4e), (0x0e50, 0x0e59), (0x0e81, 0x0e82),
    (0x0e84, 0x0e84), (0x0e86, 0x0e8a), (0x0e8c, 0x0ea3), (0x0ea5, 0x0ea5), (0x0ea7, 0x0eb2),
    (0x0eb4, 0x0ebd), (0x0ec0, 0x0ec4), (0x0ec6, 0x0ec6), (0x0ec8, 0x0ece), (0x0ed0, 0x0ed9),
    (0x0ede, 0x0edf), (0x0f00, 0x0f00), (0x0f0b, 0x0f0b), (0x0f18, 0x0f19), (0x0f20, 0x0f29),
    (0x0f35, 0x0f35), (0x0f37, 0x0f37), (0x0f39, 0x0f39), (0x0f3e, 0x0f42), (0x0f44, 0x0f47),
    (0x0f49, 0x0f4c), (0x0f4e, 0x0f51), (0x0f53, 0x0f56), (0x0f58, 0x0f5b), (0x0f5d, 0x0f68),
    (0x0f6a, 0x0f6c), (0x0f71, 0x0f72), (0x0f74, 0x0f74), (0x0f7a, 0x0f80), (0x0f82, 0x0f84),
    (0x0f86, 0x0f92), (0x0f94, 0x0f97), (0x0f99, 0x0f9c), (0x0f9e, 0x0fa1), (0x0fa3, 0x0fa6),
    (0x0fa8, 0x0fab), (0x0fad, 0x0fb8), (0x0fba, 0x0fbc), (0x0fc6, 0x0fc6), (0x1000, 0x1049),
    (0x1050, 0x109d), (0x10d0, 0x10fa), (0x10fd, 0x10ff), (0x1200, 0x1248), (0x124a, 0x124d),
    (0x1250, 0x1256), (0x1258, 0x1258), (0x125a, 0x125d), (0x1260, 0x1288), (0x128a, 0x128d),
    (0x1290, 0x12b0), (0x12b2, 0x12b5), (0x12b8, 0x12be), (0x12c0, 0x12c0), (0x12c2, 0x12c5),
    (0x12c8, 0x12d6), (0x12d8, 0x1310), (0x1312, 0x1315), (0x1318, 0x135a), (0x135d, 0x135f),
    (0x1380, 0x138f), (0x13a0, 0x13f5), (0x1401, 0x166c), (0x166f, 0x167f), (0x1681, 0x169a),
    (0x16a0, 0x16ea), (0x16f1, 0x16f8), (0x1700, 0x1715), (0x171f, 0x1734), (0x1740, 0x1753),
    (0x1760, 0x176c), (0x176e, 0x1770), (0x1772, 0x1773), (0x1780, 0x17b3), (0x17b6, 0x17d3),
    (0x17d7, 0x17d7), (0x17dc, 0x17dd), (0x17e0, 0x17e9), (0x1810, 0x1819), (0x1820, 0x1878),
    (0x1880, 0x18aa), (0x18b0, 0x18f5), (0x1900, 0x191e), (0x1920, 0x192b), (0x1930, 0x193b),
    (0x1946, 0x196d), (0x1970, 0x1974), (0x1980, 0x19ab), (0x19b0, 0x19c9), (0x19d0, 0x19d9),
    (0x1a00, 0x1a1b), (0x1a20, 0x1a5e), (0x1a60, 0x1a7c), (0x1a7f, 0x1a89), (0x1a90, 0x1a99),
    (0x1aa7, 0x1aa7), (0x1ab0, 0x1abd), (0x1abf, 0x1add), (0x1ae0, 0x1aeb), (0x1b00, 0x1b4c),
    (0x1b50, 0x1b59), (0x1b6b, 0x1b73), (0x1b80, 0x1bf3), (0x1c00, 0x1c37), (0x1c40, 0x1c49),
    (0x1c4d, 0x1c7d), (0x1c8a, 0x1c8a), (0x1cd0, 0x1cd2), (0x1cd4, 0x1cfa), (0x1d00, 0x1d2b),
    (0x1d2f, 0x1d2f), (0x1d3b, 0x1d3b), (0x1d4e, 0x1d4e), (0x1d6b, 0x1d77), (0x1d79, 0x1d9a),
    (0x1dc0, 0x1dff) ]

/-- Characters of a label: the rest of the first plane. -/
def thirdRanges : List (Nat × Nat) :=
  [
    (0x1e01, 0x1e01), (0x1e03, 0x1e03), (0x1e05, 0x1e05), (0x1e07, 0x1e07), (0x1e09, 0x1e09),
    (0x1e0b, 0x1e0b), (0x1e0d, 0x1e0d), (0x1e0f, 0x1e0f), (0x1e11, 0x1e11), (0x1e13, 0x1e13),
    (0x1e15, 0x1e15), (0x1e17, 0x1e17), (0x1e19, 0x1e19), (0x1e1b, 0x1e1b), (0x1e1d, 0x1e1d),
    (0x1e1f, 0x1e1f), (0x1e21, 0x1e21), (0x1e23, 0x1e23), (0x1e25, 0x1e25), (0x1e27, 0x1e27),
    (0x1e29, 0x1e29), (0x1e2b, 0x1e2b), (0x1e2d, 0x1e2d), (0x1e2f, 0x1e2f), (0x1e31, 0x1e31),
    (0x1e33, 0x1e33), (0x1e35, 0x1e35), (0x1e37, 0x1e37), (0x1e39, 0x1e39), (0x1e3b, 0x1e3b),
    (0x1e3d, 0x1e3d), (0x1e3f, 0x1e3f), (0x1e41, 0x1e41), (0x1e43, 0x1e43), (0x1e45, 0x1e45),
    (0x1e47, 0x1e47), (0x1e49, 0x1e49), (0x1e4b, 0x1e4b), (0x1e4d, 0x1e4d), (0x1e4f, 0x1e4f),
    (0x1e51, 0x1e51), (0x1e53, 0x1e53), (0x1e55, 0x1e55), (0x1e57, 0x1e57), (0x1e59, 0x1e59),
    (0x1e5b, 0x1e5b), (0x1e5d, 0x1e5d), (0x1e5f, 0x1e5f), (0x1e61, 0x1e61), (0x1e63, 0x1e63),
    (0x1e65, 0x1e65), (0x1e67, 0x1e67), (0x1e69, 0x1e69), (0x1e6b, 0x1e6b), (0x1e6d, 0x1e6d),
    (0x1e6f, 0x1e6f), (0x1e71, 0x1e71), (0x1e73, 0x1e73), (0x1e75, 0x1e75), (0x1e77, 0x1e77),
    (0x1e79, 0x1e79), (0x1e7b, 0x1e7b), (0x1e7d, 0x1e7d), (0x1e7f, 0x1e7f), (0x1e81, 0x1e81),
    (0x1e83, 0x1e83), (0x1e85, 0x1e85), (0x1e87, 0x1e87), (0x1e89, 0x1e89), (0x1e8b, 0x1e8b),
    (0x1e8d, 0x1e8d), (0x1e8f, 0x1e8f), (0x1e91, 0x1e91), (0x1e93, 0x1e93), (0x1e95, 0x1e99),
    (0x1e9c, 0x1e9d), (0x1e9f, 0x1e9f), (0x1ea1, 0x1ea1), (0x1ea3, 0x1ea3), (0x1ea5, 0x1ea5),
    (0x1ea7, 0x1ea7), (0x1ea9, 0x1ea9), (0x1eab, 0x1eab), (0x1ead, 0x1ead), (0x1eaf, 0x1eaf),
    (0x1eb1, 0x1eb1), (0x1eb3, 0x1eb3), (0x1eb5, 0x1eb5), (0x1eb7, 0x1eb7), (0x1eb9, 0x1eb9),
    (0x1ebb, 0x1ebb), (0x1ebd, 0x1ebd), (0x1ebf, 0x1ebf), (0x1ec1, 0x1ec1), (0x1ec3, 0x1ec3),
    (0x1ec5, 0x1ec5), (0x1ec7, 0x1ec7), (0x1ec9, 0x1ec9), (0x1ecb, 0x1ecb), (0x1ecd, 0x1ecd),
    (0x1ecf, 0x1ecf), (0x1ed1, 0x1ed1), (0x1ed3, 0x1ed3), (0x1ed5, 0x1ed5), (0x1ed7, 0x1ed7),
    (0x1ed9, 0x1ed9), (0x1edb, 0x1edb), (0x1edd, 0x1edd), (0x1edf, 0x1edf), (0x1ee1, 0x1ee1),
    (0x1ee3, 0x1ee3), (0x1ee5, 0x1ee5), (0x1ee7, 0x1ee7), (0x1ee9, 0x1ee9), (0x1eeb, 0x1eeb),
    (0x1eed, 0x1eed), (0x1eef, 0x1eef), (0x1ef1, 0x1ef1), (0x1ef3, 0x1ef3), (0x1ef5, 0x1ef5),
    (0x1ef7, 0x1ef7), (0x1ef9, 0x1ef9), (0x1efb, 0x1efb), (0x1efd, 0x1efd), (0x1eff, 0x1f07),
    (0x1f10, 0x1f15), (0x1f20, 0x1f27), (0x1f30, 0x1f37), (0x1f40, 0x1f45), (0x1f50, 0x1f57),
    (0x1f60, 0x1f67), (0x1f70, 0x1f70), (0x1f72, 0x1f72), (0x1f74, 0x1f74), (0x1f76, 0x1f76),
    (0x1f78, 0x1f78), (0x1f7a, 0x1f7a), (0x1f7c, 0x1f7c), (0x1fb0, 0x1fb1), (0x1fb6, 0x1fb6),
    (0x1fc6, 0x1fc6), (0x1fd0, 0x1fd2), (0x1fd6, 0x1fd7), (0x1fe0, 0x1fe2), (0x1fe4, 0x1fe7),
    (0x1ff6, 0x1ff6), (0x214e, 0x214e), (0x2184, 0x2184), (0x2c30, 0x2c5f), (0x2c61, 0x2c61),
    (0x2c65, 0x2c66), (0x2c68, 0x2c68), (0x2c6a, 0x2c6a), (0x2c6c, 0x2c6c), (0x2c71, 0x2c71),
    (0x2c73, 0x2c74), (0x2c76, 0x2c7b), (0x2c81, 0x2c81), (0x2c83, 0x2c83), (0x2c85, 0x2c85),
    (0x2c87, 0x2c87), (0x2c89, 0x2c89), (0x2c8b, 0x2c8b), (0x2c8d, 0x2c8d), (0x2c8f, 0x2c8f),
    (0x2c91, 0x2c91), (0x2c93, 0x2c93), (0x2c95, 0x2c95), (0x2c97, 0x2c97), (0x2c99, 0x2c99),
    (0x2c9b, 0x2c9b), (0x2c9d, 0x2c9d), (0x2c9f, 0x2c9f), (0x2ca1, 0x2ca1), (0x2ca3, 0x2ca3),
    (0x2ca5, 0x2ca5), (0x2ca7, 0x2ca7), (0x2ca9, 0x2ca9), (0x2cab, 0x2cab), (0x2cad, 0x2cad),
    (0x2caf, 0x2caf), (0x2cb1, 0x2cb1), (0x2cb3, 0x2cb3), (0x2cb5, 0x2cb5), (0x2cb7, 0x2cb7),
    (0x2cb9, 0x2cb9), (0x2cbb, 0x2cbb), (0x2cbd, 0x2cbd), (0x2cbf, 0x2cbf), (0x2cc1, 0x2cc1),
    (0x2cc3, 0x2cc3), (0x2cc5, 0x2cc5), (0x2cc7, 0x2cc7), (0x2cc9, 0x2cc9), (0x2ccb, 0x2ccb),
    (0x2ccd, 0x2ccd), (0x2ccf, 0x2ccf), (0x2cd1, 0x2cd1), (0x2cd3, 0x2cd3), (0x2cd5, 0x2cd5),
    (0x2cd7, 0x2cd7), (0x2cd9, 0x2cd9), (0x2cdb, 0x2cdb), (0x2cdd, 0x2cdd), (0x2cdf, 0x2cdf),
    (0x2ce1, 0x2ce1), (0x2ce3, 0x2ce4), (0x2cec, 0x2cec), (0x2cee, 0x2cf1), (0x2cf3, 0x2cf3),
    (0x2d00, 0x2d25), (0x2d27, 0x2d27), (0x2d2d, 0x2d2d), (0x2d30, 0x2d67), (0x2d7f, 0x2d96),
    (0x2da0, 0x2da6), (0x2da8, 0x2dae), (0x2db0, 0x2db6), (0x2db8, 0x2dbe), (0x2dc0, 0x2dc6),
    (0x2dc8, 0x2dce), (0x2dd0, 0x2dd6), (0x2dd8, 0x2dde), (0x2de0, 0x2dff), (0x2e2f, 0x2e2f),
    (0x3005, 0x3007), (0x302a, 0x302d), (0x303c, 0x303c), (0x3041, 0x3096), (0x3099, 0x309a),
    (0x309d, 0x309e), (0x30a1, 0x30fa), (0x30fc, 0x30fe), (0x3105, 0x312f), (0x31a0, 0x31bf),
    (0x31f0, 0x31ff), (0x3400, 0x4dbf), (0x4e00, 0xa48c), (0xa4d0, 0xa4fd), (0xa500, 0xa60c),
    (0xa610, 0xa62b), (0xa641, 0xa641), (0xa643, 0xa643), (0xa645, 0xa645), (0xa647, 0xa647),
    (0xa649, 0xa649), (0xa64b, 0xa64b), (0xa64d, 0xa64d), (0xa64f, 0xa64f), (0xa651, 0xa651),
    (0xa653, 0xa653), (0xa655, 0xa655), (0xa657, 0xa657), (0xa659, 0xa659), (0xa65b, 0xa65b),
    (0xa65d, 0xa65d), (0xa65f, 0xa65f), (0xa661, 0xa661), (0xa663, 0xa663), (0xa665, 0xa665),
    (0xa667, 0xa667), (0xa669, 0xa669), (0xa66b, 0xa66b), (0xa66d, 0xa66f), (0xa674, 0xa67d),
    (0xa67f, 0xa67f), (0xa681, 0xa681), (0xa683, 0xa683), (0xa685, 0xa685), (0xa687, 0xa687),
    (0xa689, 0xa689), (0xa68b, 0xa68b), (0xa68d, 0xa68d), (0xa68f, 0xa68f), (0xa691, 0xa691),
    (0xa693, 0xa693), (0xa695, 0xa695), (0xa697, 0xa697), (0xa699, 0xa699), (0xa69b, 0xa69b),
    (0xa69e, 0xa6e5), (0xa6f0, 0xa6f1), (0xa717, 0xa71f), (0xa723, 0xa723), (0xa725, 0xa725),
    (0xa727, 0xa727), (0xa729, 0xa729), (0xa72b, 0xa72b), (0xa72d, 0xa72d), (0xa72f, 0xa731),
    (0xa733, 0xa733), (0xa735, 0xa735), (0xa737, 0xa737), (0xa739, 0xa739), (0xa73b, 0xa73b),
    (0xa73d, 0xa73d), (0xa73f, 0xa73f), (0xa741, 0xa741), (0xa743, 0xa743), (0xa745, 0xa745),
    (0xa747, 0xa747), (0xa749, 0xa749), (0xa74b, 0xa74b), (0xa74d, 0xa74d), (0xa74f, 0xa74f),
    (0xa751, 0xa751), (0xa753, 0xa753), (0xa755, 0xa755), (0xa757, 0xa757), (0xa759, 0xa759),
    (0xa75b, 0xa75b), (0xa75d, 0xa75d), (0xa75f, 0xa75f), (0xa761, 0xa761), (0xa763, 0xa763),
    (0xa765, 0xa765), (0xa767, 0xa767), (0xa769, 0xa769), (0xa76b, 0xa76b), (0xa76d, 0xa76d),
    (0xa76f, 0xa76f), (0xa771, 0xa778), (0xa77a, 0xa77a), (0xa77c, 0xa77c), (0xa77f, 0xa77f),
    (0xa781, 0xa781), (0xa783, 0xa783), (0xa785, 0xa785), (0xa787, 0xa788), (0xa78c, 0xa78c),
    (0xa78e, 0xa78f), (0xa791, 0xa791), (0xa793, 0xa795), (0xa797, 0xa797), (0xa799, 0xa799),
    (0xa79b, 0xa79b), (0xa79d, 0xa79d), (0xa79f, 0xa79f), (0xa7a1, 0xa7a1), (0xa7a3, 0xa7a3),
    (0xa7a5, 0xa7a5), (0xa7a7, 0xa7a7), (0xa7a9, 0xa7a9), (0xa7af, 0xa7af), (0xa7b5, 0xa7b5),
    (0xa7b7, 0xa7b7), (0xa7b9, 0xa7b9), (0xa7bb, 0xa7bb), (0xa7bd, 0xa7bd), (0xa7bf, 0xa7bf),
    (0xa7c1, 0xa7c1), (0xa7c3, 0xa7c3), (0xa7c8, 0xa7c8), (0xa7ca, 0xa7ca), (0xa7cd, 0xa7cd),
    (0xa7cf, 0xa7cf), (0xa7d1, 0xa7d1), (0xa7d3, 0xa7d3), (0xa7d5, 0xa7d5), (0xa7d7, 0xa7d7),
    (0xa7d9, 0xa7d9), (0xa7db, 0xa7db), (0xa7f6, 0xa7f7), (0xa7fa, 0xa827), (0xa82c, 0xa82c),
    (0xa840, 0xa873), (0xa880, 0xa8c5), (0xa8d0, 0xa8d9), (0xa8e0, 0xa8f7), (0xa8fb, 0xa8fb),
    (0xa8fd, 0xa92d), (0xa930, 0xa953), (0xa980, 0xa9c0), (0xa9cf, 0xa9d9), (0xa9e0, 0xa9fe),
    (0xaa00, 0xaa36), (0xaa40, 0xaa4d), (0xaa50, 0xaa59), (0xaa60, 0xaa76), (0xaa7a, 0xaac2),
    (0xaadb, 0xaadd), (0xaae0, 0xaaef), (0xaaf2, 0xaaf6), (0xab01, 0xab06), (0xab09, 0xab0e),
    (0xab11, 0xab16), (0xab20, 0xab26), (0xab28, 0xab2e), (0xab30, 0xab5a), (0xab60, 0xab68),
    (0xabc0, 0xabea), (0xabec, 0xabed), (0xabf0, 0xabf9), (0xac00, 0xd7a3), (0xfa0e, 0xfa0f),
    (0xfa11, 0xfa11), (0xfa13, 0xfa14), (0xfa1f, 0xfa1f), (0xfa21, 0xfa21), (0xfa23, 0xfa24),
    (0xfa27, 0xfa29), (0xfb1e, 0xfb1e), (0xfe20, 0xfe2f), (0xfe73, 0xfe73) ]

/-- Characters of a label: the other planes. -/
def higherRanges : List (Nat × Nat) :=
  [
    (0x10000, 0x1000b), (0x1000d, 0x10026), (0x10028, 0x1003a), (0x1003c, 0x1003d),
    (0x1003f, 0x1004d), (0x10050, 0x1005d), (0x10080, 0x100fa), (0x101fd, 0x101fd),
    (0x10280, 0x1029c), (0x102a0, 0x102d0), (0x102e0, 0x102e0), (0x10300, 0x1031f),
    (0x1032d, 0x10340), (0x10342, 0x10349), (0x10350, 0x1037a), (0x10380, 0x1039d),
    (0x103a0, 0x103c3), (0x103c8, 0x103cf), (0x10428, 0x1049d), (0x104a0, 0x104a9),
    (0x104d8, 0x104fb), (0x10500, 0x10527), (0x10530, 0x10563), (0x10597, 0x105a1),
    (0x105a3, 0x105b1), (0x105b3, 0x105b9), (0x105bb, 0x105bc), (0x105c0, 0x105f3),
    (0x10600, 0x10736), (0x10740, 0x10755), (0x10760, 0x10767), (0x10780, 0x10780),
    (0x10800, 0x10805), (0x10808, 0x10808), (0x1080a, 0x10835), (0x10837, 0x10838),
    (0x1083c, 0x1083c), (0x1083f, 0x10855), (0x10860, 0x10876), (0x10880, 0x1089e),
    (0x108e0, 0x108f2), (0x108f4, 0x108f5), (0x10900, 0x10915), (0x10920, 0x10939),
    (0x10940, 0x10959), (0x10980, 0x109b7), (0x109be, 0x109bf), (0x10a00, 0x10a03),
    (0x10a05, 0x10a06), (0x10a0c, 0x10a13), (0x10a15, 0x10a17), (0x10a19, 0x10a35),
    (0x10a38, 0x10a3a), (0x10a3f, 0x10a3f), (0x10a60, 0x10a7c), (0x10a80, 0x10a9c),
    (0x10ac0, 0x10ac7), (0x10ac9, 0x10ae6), (0x10b00, 0x10b35), (0x10b40, 0x10b55),
    (0x10b60, 0x10b72), (0x10b80, 0x10b91), (0x10c00, 0x10c48), (0x10cc0, 0x10cf2),
    (0x10d00, 0x10d27), (0x10d30, 0x10d39), (0x10d40, 0x10d4f), (0x10d69, 0x10d6d),
    (0x10d6f, 0x10d85), (0x10e80, 0x10ea9), (0x10eab, 0x10eac), (0x10eb0, 0x10eb1),
    (0x10ec2, 0x10ec7), (0x10efa, 0x10f1c), (0x10f27, 0x10f27), (0x10f30, 0x10f50),
    (0x10f70, 0x10f85), (0x10fb0, 0x10fc4), (0x10fe0, 0x10ff6), (0x11000, 0x11046),
    (0x11066, 0x11075), (0x1107f, 0x110ba), (0x110c2, 0x110c2), (0x110d0, 0x110e8),
    (0x110f0, 0x110f9), (0x11100, 0x11134), (0x11136, 0x1113f), (0x11144, 0x11147),
    (0x11150, 0x11173), (0x11176, 0x11176), (0x11180, 0x111c4), (0x111c9, 0x111cc),
    (0x111ce, 0x111da), (0x111dc, 0x111dc), (0x11200, 0x11211), (0x11213, 0x11237),
    (0x1123e, 0x11241), (0x11280, 0x11286), (0x11288, 0x11288), (0x1128a, 0x1128d),
    (0x1128f, 0x1129d), (0x1129f, 0x112a8), (0x112b0, 0x112ea), (0x112f0, 0x112f9),
    (0x11300, 0x11303), (0x11305, 0x1130c), (0x1130f, 0x11310), (0x11313, 0x11328),
    (0x1132a, 0x11330), (0x11332, 0x11333), (0x11335, 0x11339), (0x1133b, 0x11344),
    (0x11347, 0x11348), (0x1134b, 0x1134d), (0x11350, 0x11350), (0x11357, 0x11357),
    (0x1135d, 0x11363), (0x11366, 0x1136c), (0x11370, 0x11374), (0x11380, 0x11389),
    (0x1138b, 0x1138b), (0x1138e, 0x1138e), (0x11390, 0x113b5), (0x113b7, 0x113c0),
    (0x113c2, 0x113c2), (0x113c5, 0x113c5), (0x113c7, 0x113ca), (0x113cc, 0x113d3),
    (0x113e1, 0x113e2), (0x11400, 0x1144a), (0x11450, 0x11459), (0x1145e, 0x11461),
    (0x11480, 0x114c5), (0x114c7, 0x114c7), (0x114d0, 0x114d9), (0x11580, 0x115b5),
    (0x115b8, 0x115c0), (0x115d8, 0x115dd), (0x11600, 0x11640), (0x11644, 0x11644),
    (0x11650, 0x11659), (0x11680, 0x116b8), (0x116c0, 0x116c9), (0x116d0, 0x116e3),
    (0x11700, 0x1171a), (0x1171d, 0x1172b), (0x11730, 0x11739), (0x11740, 0x11746),
    (0x11800, 0x1183a), (0x118c0, 0x118e9), (0x118ff, 0x11906), (0x11909, 0x11909),
    (0x1190c, 0x11913), (0x11915, 0x11916), (0x11918, 0x11935), (0x11937, 0x11938),
    (0x1193b, 0x11943), (0x11950, 0x11959), (0x119a0, 0x119a7), (0x119aa, 0x119d7),
    (0x119da, 0x119e1), (0x119e3, 0x119e4), (0x11a00, 0x11a3e), (0x11a47, 0x11a47),
    (0x11a50, 0x11a99), (0x11a9d, 0x11a9d), (0x11ab0, 0x11af8), (0x11b60, 0x11b67),
    (0x11bc0, 0x11be0), (0x11bf0, 0x11bf9), (0x11c00, 0x11c08), (0x11c0a, 0x11c36),
    (0x11c38, 0x11c40), (0x11c50, 0x11c59), (0x11c72, 0x11c8f), (0x11c92, 0x11ca7),
    (0x11ca9, 0x11cb6), (0x11d00, 0x11d06), (0x11d08, 0x11d09), (0x11d0b, 0x11d36),
    (0x11d3a, 0x11d3a), (0x11d3c, 0x11d3d), (0x11d3f, 0x11d47), (0x11d50, 0x11d59),
    (0x11d60, 0x11d65), (0x11d67, 0x11d68), (0x11d6a, 0x11d8e), (0x11d90, 0x11d91),
    (0x11d93, 0x11d98), (0x11da0, 0x11da9), (0x11db0, 0x11ddb), (0x11de0, 0x11de9),
    (0x11ee0, 0x11ef6), (0x11f00, 0x11f10), (0x11f12, 0x11f3a), (0x11f3e, 0x11f42),
    (0x11f50, 0x11f5a), (0x11fb0, 0x11fb0), (0x12000, 0x12399), (0x12480, 0x12543),
    (0x12f90, 0x12ff0), (0x13000, 0x1342f), (0x13440, 0x13455), (0x13460, 0x143fa),
    (0x14400, 0x14646), (0x16100, 0x16139), (0x16800, 0x16a38), (0x16a40, 0x16a5e),
    (0x16a60, 0x16a69), (0x16a70, 0x16abe), (0x16ac0, 0x16ac9), (0x16ad0, 0x16aed),
    (0x16af0, 0x16af4), (0x16b00, 0x16b36), (0x16b40, 0x16b43), (0x16b50, 0x16b59),
    (0x16b63, 0x16b77), (0x16b7d, 0x16b8f), (0x16d40, 0x16d6c), (0x16d70, 0x16d79),
    (0x16e60, 0x16e7f), (0x16ebb, 0x16ed3), (0x16f00, 0x16f4a), (0x16f4f, 0x16f87),
    (0x16f8f, 0x16f9f), (0x16fe0, 0x16fe1), (0x16fe3, 0x16fe4), (0x16ff0, 0x16ff3),
    (0x17000, 0x18cd5), (0x18cff, 0x18d1e), (0x18d80, 0x18df2), (0x1aff0, 0x1aff3),
    (0x1aff5, 0x1affb), (0x1affd, 0x1affe), (0x1b000, 0x1b122), (0x1b132, 0x1b132),
    (0x1b150, 0x1b152), (0x1b155, 0x1b155), (0x1b164, 0x1b167), (0x1b170, 0x1b2fb),
    (0x1bc00, 0x1bc6a), (0x1bc70, 0x1bc7c), (0x1bc80, 0x1bc88), (0x1bc90, 0x1bc99),
    (0x1bc9d, 0x1bc9e), (0x1cf00, 0x1cf2d), (0x1cf30, 0x1cf46), (0x1da00, 0x1da36),
    (0x1da3b, 0x1da6c), (0x1da75, 0x1da75), (0x1da84, 0x1da84), (0x1da9b, 0x1da9f),
    (0x1daa1, 0x1daaf), (0x1df00, 0x1df1e), (0x1df25, 0x1df2a), (0x1e000, 0x1e006),
    (0x1e008, 0x1e018), (0x1e01b, 0x1e021), (0x1e023, 0x1e024), (0x1e026, 0x1e02a),
    (0x1e08f, 0x1e08f), (0x1e100, 0x1e12c), (0x1e130, 0x1e13d), (0x1e140, 0x1e149),
    (0x1e14e, 0x1e14e), (0x1e290, 0x1e2ae), (0x1e2c0, 0x1e2f9), (0x1e4d0, 0x1e4f9),
    (0x1e5d0, 0x1e5fa), (0x1e6c0, 0x1e6de), (0x1e6e0, 0x1e6f5), (0x1e6fe, 0x1e6ff),
    (0x1e7e0, 0x1e7e6), (0x1e7e8, 0x1e7eb), (0x1e7ed, 0x1e7ee), (0x1e7f0, 0x1e7fe),
    (0x1e800, 0x1e8c4), (0x1e8d0, 0x1e8d6), (0x1e922, 0x1e94b), (0x1e950, 0x1e959),
    (0x20000, 0x2a6df), (0x2a700, 0x2b81d), (0x2b820, 0x2cead), (0x2ceb0, 0x2ebe0),
    (0x2ebf0, 0x2ee5d), (0x30000, 0x3134a), (0x31350, 0x33479) ]

/-- Characters that a label may hold wherever they stand. -/
def validInLabel (code : Nat) : Bool :=
  [firstRanges, secondRanges, thirdRanges, higherRanges].any fun ranges => Text.inRanges ranges code

end Bookbinder.Web
