import Bookbinder.Text.Ranges

/-!
Marks: characters that are shown with the one before them. Most marks have a class; marks of one class
stay in their order, and marks of several classes stand in the order of the classes.
-/

set_option autoImplicit false

namespace Bookbinder.Text

def markRanges : List (Nat × Nat) :=
  [
    (0x0300, 0x036f), (0x0483, 0x0489), (0x0591, 0x05bd), (0x05bf, 0x05bf), (0x05c1, 0x05c2),
    (0x05c4, 0x05c5), (0x05c7, 0x05c7), (0x0610, 0x061a), (0x064b, 0x065f), (0x0670, 0x0670),
    (0x06d6, 0x06dc), (0x06df, 0x06e4), (0x06e7, 0x06e8), (0x06ea, 0x06ed), (0x0711, 0x0711),
    (0x0730, 0x074a), (0x07a6, 0x07b0), (0x07eb, 0x07f3), (0x07fd, 0x07fd), (0x0816, 0x0819),
    (0x081b, 0x0823), (0x0825, 0x0827), (0x0829, 0x082d), (0x0859, 0x085b), (0x0898, 0x089f),
    (0x08ca, 0x08e1), (0x08e3, 0x0903), (0x093a, 0x093c), (0x093e, 0x094f), (0x0951, 0x0957),
    (0x0962, 0x0963), (0x0981, 0x0983), (0x09bc, 0x09bc), (0x09be, 0x09c4), (0x09c7, 0x09c8),
    (0x09cb, 0x09cd), (0x09d7, 0x09d7), (0x09e2, 0x09e3), (0x09fe, 0x09fe), (0x0a01, 0x0a03),
    (0x0a3c, 0x0a3c), (0x0a3e, 0x0a42), (0x0a47, 0x0a48), (0x0a4b, 0x0a4d), (0x0a51, 0x0a51),
    (0x0a70, 0x0a71), (0x0a75, 0x0a75), (0x0a81, 0x0a83), (0x0abc, 0x0abc), (0x0abe, 0x0ac5),
    (0x0ac7, 0x0ac9), (0x0acb, 0x0acd), (0x0ae2, 0x0ae3), (0x0afa, 0x0aff), (0x0b01, 0x0b03),
    (0x0b3c, 0x0b3c), (0x0b3e, 0x0b44), (0x0b47, 0x0b48), (0x0b4b, 0x0b4d), (0x0b55, 0x0b57),
    (0x0b62, 0x0b63), (0x0b82, 0x0b82), (0x0bbe, 0x0bc2), (0x0bc6, 0x0bc8), (0x0bca, 0x0bcd),
    (0x0bd7, 0x0bd7), (0x0c00, 0x0c04), (0x0c3c, 0x0c3c), (0x0c3e, 0x0c44), (0x0c46, 0x0c48),
    (0x0c4a, 0x0c4d), (0x0c55, 0x0c56), (0x0c62, 0x0c63), (0x0c81, 0x0c83), (0x0cbc, 0x0cbc),
    (0x0cbe, 0x0cc4), (0x0cc6, 0x0cc8), (0x0cca, 0x0ccd), (0x0cd5, 0x0cd6), (0x0ce2, 0x0ce3),
    (0x0d00, 0x0d03), (0x0d3b, 0x0d3c), (0x0d3e, 0x0d44), (0x0d46, 0x0d48), (0x0d4a, 0x0d4d),
    (0x0d57, 0x0d57), (0x0d62, 0x0d63), (0x0d81, 0x0d83), (0x0dca, 0x0dca), (0x0dcf, 0x0dd4),
    (0x0dd6, 0x0dd6), (0x0dd8, 0x0ddf), (0x0df2, 0x0df3), (0x0e31, 0x0e31), (0x0e34, 0x0e3a),
    (0x0e47, 0x0e4e), (0x0eb1, 0x0eb1), (0x0eb4, 0x0ebc), (0x0ec8, 0x0ecd), (0x0f18, 0x0f19),
    (0x0f35, 0x0f35), (0x0f37, 0x0f37), (0x0f39, 0x0f39), (0x0f3e, 0x0f3f), (0x0f71, 0x0f84),
    (0x0f86, 0x0f87), (0x0f8d, 0x0f97), (0x0f99, 0x0fbc), (0x0fc6, 0x0fc6), (0x102b, 0x103e),
    (0x1056, 0x1059), (0x105e, 0x1060), (0x1062, 0x1064), (0x1067, 0x106d), (0x1071, 0x1074),
    (0x1082, 0x108d), (0x108f, 0x108f), (0x109a, 0x109d), (0x135d, 0x135f), (0x1712, 0x1715),
    (0x1732, 0x1734), (0x1752, 0x1753), (0x1772, 0x1773), (0x17b4, 0x17d3), (0x17dd, 0x17dd),
    (0x180b, 0x180d), (0x180f, 0x180f), (0x1885, 0x1886), (0x18a9, 0x18a9), (0x1920, 0x192b),
    (0x1930, 0x193b), (0x1a17, 0x1a1b), (0x1a55, 0x1a5e), (0x1a60, 0x1a7c), (0x1a7f, 0x1a7f),
    (0x1ab0, 0x1ace), (0x1b00, 0x1b04), (0x1b34, 0x1b44), (0x1b6b, 0x1b73), (0x1b80, 0x1b82),
    (0x1ba1, 0x1bad), (0x1be6, 0x1bf3), (0x1c24, 0x1c37), (0x1cd0, 0x1cd2), (0x1cd4, 0x1ce8),
    (0x1ced, 0x1ced), (0x1cf4, 0x1cf4), (0x1cf7, 0x1cf9), (0x1dc0, 0x1dff), (0x20d0, 0x20f0),
    (0x2cef, 0x2cf1), (0x2d7f, 0x2d7f), (0x2de0, 0x2dff), (0x302a, 0x302f), (0x3099, 0x309a),
    (0xa66f, 0xa672), (0xa674, 0xa67d), (0xa69e, 0xa69f), (0xa6f0, 0xa6f1), (0xa802, 0xa802),
    (0xa806, 0xa806), (0xa80b, 0xa80b), (0xa823, 0xa827), (0xa82c, 0xa82c), (0xa880, 0xa881),
    (0xa8b4, 0xa8c5), (0xa8e0, 0xa8f1), (0xa8ff, 0xa8ff), (0xa926, 0xa92d), (0xa947, 0xa953),
    (0xa980, 0xa983), (0xa9b3, 0xa9c0), (0xa9e5, 0xa9e5), (0xaa29, 0xaa36), (0xaa43, 0xaa43),
    (0xaa4c, 0xaa4d), (0xaa7b, 0xaa7d), (0xaab0, 0xaab0), (0xaab2, 0xaab4), (0xaab7, 0xaab8),
    (0xaabe, 0xaabf), (0xaac1, 0xaac1), (0xaaeb, 0xaaef), (0xaaf5, 0xaaf6), (0xabe3, 0xabea),
    (0xabec, 0xabed), (0xfb1e, 0xfb1e), (0xfe00, 0xfe0f), (0xfe20, 0xfe2f), (0x101fd, 0x101fd),
    (0x102e0, 0x102e0), (0x10376, 0x1037a), (0x10a01, 0x10a03), (0x10a05, 0x10a06),
    (0x10a0c, 0x10a0f), (0x10a38, 0x10a3a), (0x10a3f, 0x10a3f), (0x10ae5, 0x10ae6),
    (0x10d24, 0x10d27), (0x10eab, 0x10eac), (0x10f46, 0x10f50), (0x10f82, 0x10f85),
    (0x11000, 0x11002), (0x11038, 0x11046), (0x11070, 0x11070), (0x11073, 0x11074),
    (0x1107f, 0x11082), (0x110b0, 0x110ba), (0x110c2, 0x110c2), (0x11100, 0x11102),
    (0x11127, 0x11134), (0x11145, 0x11146), (0x11173, 0x11173), (0x11180, 0x11182),
    (0x111b3, 0x111c0), (0x111c9, 0x111cc), (0x111ce, 0x111cf), (0x1122c, 0x11237),
    (0x1123e, 0x1123e), (0x112df, 0x112ea), (0x11300, 0x11303), (0x1133b, 0x1133c),
    (0x1133e, 0x11344), (0x11347, 0x11348), (0x1134b, 0x1134d), (0x11357, 0x11357),
    (0x11362, 0x11363), (0x11366, 0x1136c), (0x11370, 0x11374), (0x11435, 0x11446),
    (0x1145e, 0x1145e), (0x114b0, 0x114c3), (0x115af, 0x115b5), (0x115b8, 0x115c0),
    (0x115dc, 0x115dd), (0x11630, 0x11640), (0x116ab, 0x116b7), (0x1171d, 0x1172b),
    (0x1182c, 0x1183a), (0x11930, 0x11935), (0x11937, 0x11938), (0x1193b, 0x1193e),
    (0x11940, 0x11940), (0x11942, 0x11943), (0x119d1, 0x119d7), (0x119da, 0x119e0),
    (0x119e4, 0x119e4), (0x11a01, 0x11a0a), (0x11a33, 0x11a39), (0x11a3b, 0x11a3e),
    (0x11a47, 0x11a47), (0x11a51, 0x11a5b), (0x11a8a, 0x11a99), (0x11c2f, 0x11c36),
    (0x11c38, 0x11c3f), (0x11c92, 0x11ca7), (0x11ca9, 0x11cb6), (0x11d31, 0x11d36),
    (0x11d3a, 0x11d3a), (0x11d3c, 0x11d3d), (0x11d3f, 0x11d45), (0x11d47, 0x11d47),
    (0x11d8a, 0x11d8e), (0x11d90, 0x11d91), (0x11d93, 0x11d97), (0x11ef3, 0x11ef6),
    (0x16af0, 0x16af4), (0x16b30, 0x16b36), (0x16f4f, 0x16f4f), (0x16f51, 0x16f87),
    (0x16f8f, 0x16f92), (0x16fe4, 0x16fe4), (0x16ff0, 0x16ff1), (0x1bc9d, 0x1bc9e),
    (0x1cf00, 0x1cf2d), (0x1cf30, 0x1cf46), (0x1d165, 0x1d169), (0x1d16d, 0x1d172),
    (0x1d17b, 0x1d182), (0x1d185, 0x1d18b), (0x1d1aa, 0x1d1ad), (0x1d242, 0x1d244),
    (0x1da00, 0x1da36), (0x1da3b, 0x1da6c), (0x1da75, 0x1da75), (0x1da84, 0x1da84),
    (0x1da9b, 0x1da9f), (0x1daa1, 0x1daaf), (0x1e000, 0x1e006), (0x1e008, 0x1e018),
    (0x1e01b, 0x1e021), (0x1e023, 0x1e024), (0x1e026, 0x1e02a), (0x1e130, 0x1e136),
    (0x1e2ae, 0x1e2ae), (0x1e2ec, 0x1e2ef), (0x1e8d0, 0x1e8d6), (0x1e944, 0x1e94a),
    (0xe0100, 0xe01ef) ]

/-- Ranges of characters and the class that they have. -/
def markClassRanges : List (Nat × Nat × Nat) :=
  [
    (0x0300, 0x0314, 230), (0x0315, 0x0315, 232), (0x0316, 0x0319, 220), (0x031a, 0x031a, 232),
    (0x031b, 0x031b, 216), (0x031c, 0x0320, 220), (0x0321, 0x0322, 202), (0x0323, 0x0326, 220),
    (0x0327, 0x0328, 202), (0x0329, 0x0333, 220), (0x0334, 0x0338, 1), (0x0339, 0x033c, 220),
    (0x033d, 0x0344, 230), (0x0345, 0x0345, 240), (0x0346, 0x0346, 230), (0x0347, 0x0349, 220),
    (0x034a, 0x034c, 230), (0x034d, 0x034e, 220), (0x0350, 0x0352, 230), (0x0353, 0x0356, 220),
    (0x0357, 0x0357, 230), (0x0358, 0x0358, 232), (0x0359, 0x035a, 220), (0x035b, 0x035b, 230),
    (0x035c, 0x035c, 233), (0x035d, 0x035e, 234), (0x035f, 0x035f, 233), (0x0360, 0x0361, 234),
    (0x0362, 0x0362, 233), (0x0363, 0x036f, 230), (0x0483, 0x0487, 230), (0x0591, 0x0591, 220),
    (0x0592, 0x0595, 230), (0x0596, 0x0596, 220), (0x0597, 0x0599, 230), (0x059a, 0x059a, 222),
    (0x059b, 0x059b, 220), (0x059c, 0x05a1, 230), (0x05a2, 0x05a7, 220), (0x05a8, 0x05a9, 230),
    (0x05aa, 0x05aa, 220), (0x05ab, 0x05ac, 230), (0x05ad, 0x05ad, 222), (0x05ae, 0x05ae, 228),
    (0x05af, 0x05af, 230), (0x05b0, 0x05b0, 10), (0x05b1, 0x05b1, 11), (0x05b2, 0x05b2, 12),
    (0x05b3, 0x05b3, 13), (0x05b4, 0x05b4, 14), (0x05b5, 0x05b5, 15), (0x05b6, 0x05b6, 16),
    (0x05b7, 0x05b7, 17), (0x05b8, 0x05b8, 18), (0x05b9, 0x05ba, 19), (0x05bb, 0x05bb, 20),
    (0x05bc, 0x05bc, 21), (0x05bd, 0x05bd, 22), (0x05bf, 0x05bf, 23), (0x05c1, 0x05c1, 24),
    (0x05c2, 0x05c2, 25), (0x05c4, 0x05c4, 230), (0x05c5, 0x05c5, 220), (0x05c7, 0x05c7, 18),
    (0x0610, 0x0617, 230), (0x0618, 0x0618, 30), (0x0619, 0x0619, 31), (0x061a, 0x061a, 32),
    (0x064b, 0x064b, 27), (0x064c, 0x064c, 28), (0x064d, 0x064d, 29), (0x064e, 0x064e, 30),
    (0x064f, 0x064f, 31), (0x0650, 0x0650, 32), (0x0651, 0x0651, 33), (0x0652, 0x0652, 34),
    (0x0653, 0x0654, 230), (0x0655, 0x0656, 220), (0x0657, 0x065b, 230), (0x065c, 0x065c, 220),
    (0x065d, 0x065e, 230), (0x065f, 0x065f, 220), (0x0670, 0x0670, 35), (0x06d6, 0x06dc, 230),
    (0x06df, 0x06e2, 230), (0x06e3, 0x06e3, 220), (0x06e4, 0x06e4, 230), (0x06e7, 0x06e8, 230),
    (0x06ea, 0x06ea, 220), (0x06eb, 0x06ec, 230), (0x06ed, 0x06ed, 220), (0x0711, 0x0711, 36),
    (0x0730, 0x0730, 230), (0x0731, 0x0731, 220), (0x0732, 0x0733, 230), (0x0734, 0x0734, 220),
    (0x0735, 0x0736, 230), (0x0737, 0x0739, 220), (0x073a, 0x073a, 230), (0x073b, 0x073c, 220),
    (0x073d, 0x073d, 230), (0x073e, 0x073e, 220), (0x073f, 0x0741, 230), (0x0742, 0x0742, 220),
    (0x0743, 0x0743, 230), (0x0744, 0x0744, 220), (0x0745, 0x0745, 230), (0x0746, 0x0746, 220),
    (0x0747, 0x0747, 230), (0x0748, 0x0748, 220), (0x0749, 0x074a, 230), (0x07eb, 0x07f1, 230),
    (0x07f2, 0x07f2, 220), (0x07f3, 0x07f3, 230), (0x07fd, 0x07fd, 220), (0x0816, 0x0819, 230),
    (0x081b, 0x0823, 230), (0x0825, 0x0827, 230), (0x0829, 0x082d, 230), (0x0859, 0x085b, 220),
    (0x0898, 0x0898, 230), (0x0899, 0x089b, 220), (0x089c, 0x089f, 230), (0x08ca, 0x08ce, 230),
    (0x08cf, 0x08d3, 220), (0x08d4, 0x08e1, 230), (0x08e3, 0x08e3, 220), (0x08e4, 0x08e5, 230),
    (0x08e6, 0x08e6, 220), (0x08e7, 0x08e8, 230), (0x08e9, 0x08e9, 220), (0x08ea, 0x08ec, 230),
    (0x08ed, 0x08ef, 220), (0x08f0, 0x08f0, 27), (0x08f1, 0x08f1, 28), (0x08f2, 0x08f2, 29),
    (0x08f3, 0x08f5, 230), (0x08f6, 0x08f6, 220), (0x08f7, 0x08f8, 230), (0x08f9, 0x08fa, 220),
    (0x08fb, 0x08ff, 230), (0x093c, 0x093c, 7), (0x094d, 0x094d, 9), (0x0951, 0x0951, 230),
    (0x0952, 0x0952, 220), (0x0953, 0x0954, 230), (0x09bc, 0x09bc, 7), (0x09cd, 0x09cd, 9),
    (0x09fe, 0x09fe, 230), (0x0a3c, 0x0a3c, 7), (0x0a4d, 0x0a4d, 9), (0x0abc, 0x0abc, 7),
    (0x0acd, 0x0acd, 9), (0x0b3c, 0x0b3c, 7), (0x0b4d, 0x0b4d, 9), (0x0bcd, 0x0bcd, 9),
    (0x0c3c, 0x0c3c, 7), (0x0c4d, 0x0c4d, 9), (0x0c55, 0x0c55, 84), (0x0c56, 0x0c56, 91),
    (0x0cbc, 0x0cbc, 7), (0x0ccd, 0x0ccd, 9), (0x0d3b, 0x0d3c, 9), (0x0d4d, 0x0d4d, 9),
    (0x0dca, 0x0dca, 9), (0x0e38, 0x0e39, 103), (0x0e3a, 0x0e3a, 9), (0x0e48, 0x0e4b, 107),
    (0x0eb8, 0x0eb9, 118), (0x0eba, 0x0eba, 9), (0x0ec8, 0x0ecb, 122), (0x0f18, 0x0f19, 220),
    (0x0f35, 0x0f35, 220), (0x0f37, 0x0f37, 220), (0x0f39, 0x0f39, 216), (0x0f71, 0x0f71, 129),
    (0x0f72, 0x0f72, 130), (0x0f74, 0x0f74, 132), (0x0f7a, 0x0f7d, 130), (0x0f80, 0x0f80, 130),
    (0x0f82, 0x0f83, 230), (0x0f84, 0x0f84, 9), (0x0f86, 0x0f87, 230), (0x0fc6, 0x0fc6, 220),
    (0x1037, 0x1037, 7), (0x1039, 0x103a, 9), (0x108d, 0x108d, 220), (0x135d, 0x135f, 230),
    (0x1714, 0x1715, 9), (0x1734, 0x1734, 9), (0x17d2, 0x17d2, 9), (0x17dd, 0x17dd, 230),
    (0x18a9, 0x18a9, 228), (0x1939, 0x1939, 222), (0x193a, 0x193a, 230), (0x193b, 0x193b, 220),
    (0x1a17, 0x1a17, 230), (0x1a18, 0x1a18, 220), (0x1a60, 0x1a60, 9), (0x1a75, 0x1a7c, 230),
    (0x1a7f, 0x1a7f, 220), (0x1ab0, 0x1ab4, 230), (0x1ab5, 0x1aba, 220), (0x1abb, 0x1abc, 230),
    (0x1abd, 0x1abd, 220), (0x1abf, 0x1ac0, 220), (0x1ac1, 0x1ac2, 230), (0x1ac3, 0x1ac4, 220),
    (0x1ac5, 0x1ac9, 230), (0x1aca, 0x1aca, 220), (0x1acb, 0x1ace, 230), (0x1b34, 0x1b34, 7),
    (0x1b44, 0x1b44, 9), (0x1b6b, 0x1b6b, 230), (0x1b6c, 0x1b6c, 220), (0x1b6d, 0x1b73, 230),
    (0x1baa, 0x1bab, 9), (0x1be6, 0x1be6, 7), (0x1bf2, 0x1bf3, 9), (0x1c37, 0x1c37, 7),
    (0x1cd0, 0x1cd2, 230), (0x1cd4, 0x1cd4, 1), (0x1cd5, 0x1cd9, 220), (0x1cda, 0x1cdb, 230),
    (0x1cdc, 0x1cdf, 220), (0x1ce0, 0x1ce0, 230), (0x1ce2, 0x1ce8, 1), (0x1ced, 0x1ced, 220),
    (0x1cf4, 0x1cf4, 230), (0x1cf8, 0x1cf9, 230), (0x1dc0, 0x1dc1, 230), (0x1dc2, 0x1dc2, 220),
    (0x1dc3, 0x1dc9, 230), (0x1dca, 0x1dca, 220), (0x1dcb, 0x1dcc, 230), (0x1dcd, 0x1dcd, 234),
    (0x1dce, 0x1dce, 214), (0x1dcf, 0x1dcf, 220), (0x1dd0, 0x1dd0, 202), (0x1dd1, 0x1df5, 230),
    (0x1df6, 0x1df6, 232), (0x1df7, 0x1df8, 228), (0x1df9, 0x1df9, 220), (0x1dfa, 0x1dfa, 218),
    (0x1dfb, 0x1dfb, 230), (0x1dfc, 0x1dfc, 233), (0x1dfd, 0x1dfd, 220), (0x1dfe, 0x1dfe, 230),
    (0x1dff, 0x1dff, 220), (0x20d0, 0x20d1, 230), (0x20d2, 0x20d3, 1), (0x20d4, 0x20d7, 230),
    (0x20d8, 0x20da, 1), (0x20db, 0x20dc, 230), (0x20e1, 0x20e1, 230), (0x20e5, 0x20e6, 1),
    (0x20e7, 0x20e7, 230), (0x20e8, 0x20e8, 220), (0x20e9, 0x20e9, 230), (0x20ea, 0x20eb, 1),
    (0x20ec, 0x20ef, 220), (0x20f0, 0x20f0, 230), (0x2cef, 0x2cf1, 230), (0x2d7f, 0x2d7f, 9),
    (0x2de0, 0x2dff, 230), (0x302a, 0x302a, 218), (0x302b, 0x302b, 228), (0x302c, 0x302c, 232),
    (0x302d, 0x302d, 222), (0x302e, 0x302f, 224), (0x3099, 0x309a, 8), (0xa66f, 0xa66f, 230),
    (0xa674, 0xa67d, 230), (0xa69e, 0xa69f, 230), (0xa6f0, 0xa6f1, 230), (0xa806, 0xa806, 9),
    (0xa82c, 0xa82c, 9), (0xa8c4, 0xa8c4, 9), (0xa8e0, 0xa8f1, 230), (0xa92b, 0xa92d, 220),
    (0xa953, 0xa953, 9), (0xa9b3, 0xa9b3, 7), (0xa9c0, 0xa9c0, 9), (0xaab0, 0xaab0, 230),
    (0xaab2, 0xaab3, 230), (0xaab4, 0xaab4, 220), (0xaab7, 0xaab8, 230), (0xaabe, 0xaabf, 230),
    (0xaac1, 0xaac1, 230), (0xaaf6, 0xaaf6, 9), (0xabed, 0xabed, 9), (0xfb1e, 0xfb1e, 26),
    (0xfe20, 0xfe26, 230), (0xfe27, 0xfe2d, 220), (0xfe2e, 0xfe2f, 230), (0x101fd, 0x101fd, 220),
    (0x102e0, 0x102e0, 220), (0x10376, 0x1037a, 230), (0x10a0d, 0x10a0d, 220),
    (0x10a0f, 0x10a0f, 230), (0x10a38, 0x10a38, 230), (0x10a39, 0x10a39, 1),
    (0x10a3a, 0x10a3a, 220), (0x10a3f, 0x10a3f, 9), (0x10ae5, 0x10ae5, 230),
    (0x10ae6, 0x10ae6, 220), (0x10d24, 0x10d27, 230), (0x10eab, 0x10eac, 230),
    (0x10f46, 0x10f47, 220), (0x10f48, 0x10f4a, 230), (0x10f4b, 0x10f4b, 220),
    (0x10f4c, 0x10f4c, 230), (0x10f4d, 0x10f50, 220), (0x10f82, 0x10f82, 230),
    (0x10f83, 0x10f83, 220), (0x10f84, 0x10f84, 230), (0x10f85, 0x10f85, 220),
    (0x11046, 0x11046, 9), (0x11070, 0x11070, 9), (0x1107f, 0x1107f, 9), (0x110b9, 0x110b9, 9),
    (0x110ba, 0x110ba, 7), (0x11100, 0x11102, 230), (0x11133, 0x11134, 9), (0x11173, 0x11173, 7),
    (0x111c0, 0x111c0, 9), (0x111ca, 0x111ca, 7), (0x11235, 0x11235, 9), (0x11236, 0x11236, 7),
    (0x112e9, 0x112e9, 7), (0x112ea, 0x112ea, 9), (0x1133b, 0x1133c, 7), (0x1134d, 0x1134d, 9),
    (0x11366, 0x1136c, 230), (0x11370, 0x11374, 230), (0x11442, 0x11442, 9), (0x11446, 0x11446, 7),
    (0x1145e, 0x1145e, 230), (0x114c2, 0x114c2, 9), (0x114c3, 0x114c3, 7), (0x115bf, 0x115bf, 9),
    (0x115c0, 0x115c0, 7), (0x1163f, 0x1163f, 9), (0x116b6, 0x116b6, 9), (0x116b7, 0x116b7, 7),
    (0x1172b, 0x1172b, 9), (0x11839, 0x11839, 9), (0x1183a, 0x1183a, 7), (0x1193d, 0x1193e, 9),
    (0x11943, 0x11943, 7), (0x119e0, 0x119e0, 9), (0x11a34, 0x11a34, 9), (0x11a47, 0x11a47, 9),
    (0x11a99, 0x11a99, 9), (0x11c3f, 0x11c3f, 9), (0x11d42, 0x11d42, 7), (0x11d44, 0x11d45, 9),
    (0x11d97, 0x11d97, 9), (0x16af0, 0x16af4, 1), (0x16b30, 0x16b36, 230), (0x16ff0, 0x16ff1, 6),
    (0x1bc9e, 0x1bc9e, 1), (0x1d165, 0x1d166, 216), (0x1d167, 0x1d169, 1), (0x1d16d, 0x1d16d, 226),
    (0x1d16e, 0x1d172, 216), (0x1d17b, 0x1d182, 220), (0x1d185, 0x1d189, 230),
    (0x1d18a, 0x1d18b, 220), (0x1d1aa, 0x1d1ad, 230), (0x1d242, 0x1d244, 230),
    (0x1e000, 0x1e006, 230), (0x1e008, 0x1e018, 230), (0x1e01b, 0x1e021, 230),
    (0x1e023, 0x1e024, 230), (0x1e026, 0x1e02a, 230), (0x1e130, 0x1e136, 230),
    (0x1e2ae, 0x1e2ae, 230), (0x1e2ec, 0x1e2ef, 230), (0x1e8d0, 0x1e8d6, 220),
    (0x1e944, 0x1e949, 230), (0x1e94a, 0x1e94a, 7) ]

def isMark (code : Nat) : Bool := inRanges markRanges code

/-- The class of a character. Characters that are not moved have the class zero. -/
def markClass (code : Nat) : Nat :=
  match markClassRanges.find? fun range => range.1 ≤ code && code ≤ range.2.1 with
  | some range => range.2.2
  | none => 0

/-- The class of the signs that take away the vowel of a consonant. -/
def viramaClass : Nat := 9

theorem markClass_ascii (code : Fin 0x80) : markClass code.val = 0 := by
  decide +kernel +revert

end Bookbinder.Text
