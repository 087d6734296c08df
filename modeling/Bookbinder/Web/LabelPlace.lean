import Bookbinder.Text.Mark
import Bookbinder.Web.LabelDirection

/-!
Characters that labels may hold in some places only: joiners between letters that join, and signs and
digits that belong to one script.
-/

set_option autoImplicit false

namespace Bookbinder.Web

/-- Signs through which letters join. -/
def transparentRanges : List (Nat × Nat) :=
  [
    (0x00ad, 0x00ad), (0x0300, 0x036f), (0x0483, 0x0489), (0x0591, 0x05bd), (0x05bf, 0x05bf),
    (0x05c1, 0x05c2), (0x05c4, 0x05c5), (0x05c7, 0x05c7), (0x0610, 0x061a), (0x061c, 0x061c),
    (0x064b, 0x065f), (0x0670, 0x0670), (0x06d6, 0x06dc), (0x06df, 0x06e4), (0x06e7, 0x06e8),
    (0x06ea, 0x06ed), (0x070f, 0x070f), (0x0711, 0x0711), (0x0730, 0x074a), (0x07a6, 0x07b0),
    (0x07eb, 0x07f3), (0x07fd, 0x07fd), (0x0816, 0x0819), (0x081b, 0x0823), (0x0825, 0x0827),
    (0x0829, 0x082d), (0x0859, 0x085b), (0x0897, 0x089f), (0x08ca, 0x08e1), (0x08e3, 0x0902),
    (0x093a, 0x093a), (0x093c, 0x093c), (0x0941, 0x0948), (0x094d, 0x094d), (0x0951, 0x0957),
    (0x0962, 0x0963), (0x0981, 0x0981), (0x09bc, 0x09bc), (0x09c1, 0x09c4), (0x09cd, 0x09cd),
    (0x09e2, 0x09e3), (0x09fe, 0x09fe), (0x0a01, 0x0a02), (0x0a3c, 0x0a3c), (0x0a41, 0x0a42),
    (0x0a47, 0x0a48), (0x0a4b, 0x0a4d), (0x0a51, 0x0a51), (0x0a70, 0x0a71), (0x0a75, 0x0a75),
    (0x0a81, 0x0a82), (0x0abc, 0x0abc), (0x0ac1, 0x0ac5), (0x0ac7, 0x0ac8), (0x0acd, 0x0acd),
    (0x0ae2, 0x0ae3), (0x0afa, 0x0aff), (0x0b01, 0x0b01), (0x0b3c, 0x0b3c), (0x0b3f, 0x0b3f),
    (0x0b41, 0x0b44), (0x0b4d, 0x0b4d), (0x0b55, 0x0b56), (0x0b62, 0x0b63), (0x0b82, 0x0b82),
    (0x0bc0, 0x0bc0), (0x0bcd, 0x0bcd), (0x0c00, 0x0c00), (0x0c04, 0x0c04), (0x0c3c, 0x0c3c),
    (0x0c3e, 0x0c40), (0x0c46, 0x0c48), (0x0c4a, 0x0c4d), (0x0c55, 0x0c56), (0x0c62, 0x0c63),
    (0x0c81, 0x0c81), (0x0cbc, 0x0cbc), (0x0cbf, 0x0cbf), (0x0cc6, 0x0cc6), (0x0ccc, 0x0ccd),
    (0x0ce2, 0x0ce3), (0x0d00, 0x0d01), (0x0d3b, 0x0d3c), (0x0d41, 0x0d44), (0x0d4d, 0x0d4d),
    (0x0d62, 0x0d63), (0x0d81, 0x0d81), (0x0dca, 0x0dca), (0x0dd2, 0x0dd4), (0x0dd6, 0x0dd6),
    (0x0e31, 0x0e31), (0x0e34, 0x0e3a), (0x0e47, 0x0e4e), (0x0eb1, 0x0eb1), (0x0eb4, 0x0ebc),
    (0x0ec8, 0x0ece), (0x0f18, 0x0f19), (0x0f35, 0x0f35), (0x0f37, 0x0f37), (0x0f39, 0x0f39),
    (0x0f71, 0x0f7e), (0x0f80, 0x0f84), (0x0f86, 0x0f87), (0x0f8d, 0x0f97), (0x0f99, 0x0fbc),
    (0x0fc6, 0x0fc6), (0x102d, 0x1030), (0x1032, 0x1037), (0x1039, 0x103a), (0x103d, 0x103e),
    (0x1058, 0x1059), (0x105e, 0x1060), (0x1071, 0x1074), (0x1082, 0x1082), (0x1085, 0x1086),
    (0x108d, 0x108d), (0x109d, 0x109d), (0x135d, 0x135f), (0x1712, 0x1714), (0x1732, 0x1733),
    (0x1752, 0x1753), (0x1772, 0x1773), (0x17b4, 0x17b5), (0x17b7, 0x17bd), (0x17c6, 0x17c6),
    (0x17c9, 0x17d3), (0x17dd, 0x17dd), (0x180b, 0x180d), (0x180f, 0x180f), (0x1885, 0x1886),
    (0x18a9, 0x18a9), (0x1920, 0x1922), (0x1927, 0x1928), (0x1932, 0x1932), (0x1939, 0x193b),
    (0x1a17, 0x1a18), (0x1a1b, 0x1a1b), (0x1a56, 0x1a56), (0x1a58, 0x1a5e), (0x1a60, 0x1a60),
    (0x1a62, 0x1a62), (0x1a65, 0x1a6c), (0x1a73, 0x1a7c), (0x1a7f, 0x1a7f), (0x1ab0, 0x1add),
    (0x1ae0, 0x1aeb), (0x1b00, 0x1b03), (0x1b34, 0x1b34), (0x1b36, 0x1b3a), (0x1b3c, 0x1b3c),
    (0x1b42, 0x1b42), (0x1b6b, 0x1b73), (0x1b80, 0x1b81), (0x1ba2, 0x1ba5), (0x1ba8, 0x1ba9),
    (0x1bab, 0x1bad), (0x1be6, 0x1be6), (0x1be8, 0x1be9), (0x1bed, 0x1bed), (0x1bef, 0x1bf1),
    (0x1c2c, 0x1c33), (0x1c36, 0x1c37), (0x1cd0, 0x1cd2), (0x1cd4, 0x1ce0), (0x1ce2, 0x1ce8),
    (0x1ced, 0x1ced), (0x1cf4, 0x1cf4), (0x1cf8, 0x1cf9), (0x1dc0, 0x1dff), (0x200b, 0x200b),
    (0x200e, 0x200f), (0x202a, 0x202e), (0x2060, 0x2064), (0x206a, 0x206f), (0x20d0, 0x20f0),
    (0x2cef, 0x2cf1), (0x2d7f, 0x2d7f), (0x2de0, 0x2dff), (0x302a, 0x302d), (0x3099, 0x309a),
    (0xa66f, 0xa672), (0xa674, 0xa67d), (0xa69e, 0xa69f), (0xa6f0, 0xa6f1), (0xa802, 0xa802),
    (0xa806, 0xa806), (0xa80b, 0xa80b), (0xa825, 0xa826), (0xa82c, 0xa82c), (0xa8c4, 0xa8c5),
    (0xa8e0, 0xa8f1), (0xa8ff, 0xa8ff), (0xa926, 0xa92d), (0xa947, 0xa951), (0xa980, 0xa982),
    (0xa9b3, 0xa9b3), (0xa9b6, 0xa9b9), (0xa9bc, 0xa9bd), (0xa9e5, 0xa9e5), (0xaa29, 0xaa2e),
    (0xaa31, 0xaa32), (0xaa35, 0xaa36), (0xaa43, 0xaa43), (0xaa4c, 0xaa4c), (0xaa7c, 0xaa7c),
    (0xaab0, 0xaab0), (0xaab2, 0xaab4), (0xaab7, 0xaab8), (0xaabe, 0xaabf), (0xaac1, 0xaac1),
    (0xaaec, 0xaaed), (0xaaf6, 0xaaf6), (0xabe5, 0xabe5), (0xabe8, 0xabe8), (0xabed, 0xabed),
    (0xfb1e, 0xfb1e), (0xfe00, 0xfe0f), (0xfe20, 0xfe2f), (0xfeff, 0xfeff), (0xfff9, 0xfffb),
    (0x101fd, 0x101fd), (0x102e0, 0x102e0), (0x10376, 0x1037a), (0x10a01, 0x10a03),
    (0x10a05, 0x10a06), (0x10a0c, 0x10a0f), (0x10a38, 0x10a3a), (0x10a3f, 0x10a3f),
    (0x10ae5, 0x10ae6), (0x10d24, 0x10d27), (0x10d69, 0x10d6d), (0x10eab, 0x10eac),
    (0x10efa, 0x10eff), (0x10f46, 0x10f50), (0x10f82, 0x10f85), (0x11001, 0x11001),
    (0x11038, 0x11046), (0x11070, 0x11070), (0x11073, 0x11074), (0x1107f, 0x11081),
    (0x110b3, 0x110b6), (0x110b9, 0x110ba), (0x110c2, 0x110c2), (0x11100, 0x11102),
    (0x11127, 0x1112b), (0x1112d, 0x11134), (0x11173, 0x11173), (0x11180, 0x11181),
    (0x111b6, 0x111be), (0x111c9, 0x111cc), (0x111cf, 0x111cf), (0x1122f, 0x11231),
    (0x11234, 0x11234), (0x11236, 0x11237), (0x1123e, 0x1123e), (0x11241, 0x11241),
    (0x112df, 0x112df), (0x112e3, 0x112ea), (0x11300, 0x11301), (0x1133b, 0x1133c),
    (0x11340, 0x11340), (0x11366, 0x1136c), (0x11370, 0x11374), (0x113bb, 0x113c0),
    (0x113ce, 0x113ce), (0x113d0, 0x113d0), (0x113d2, 0x113d2), (0x113e1, 0x113e2),
    (0x11438, 0x1143f), (0x11442, 0x11444), (0x11446, 0x11446), (0x1145e, 0x1145e),
    (0x114b3, 0x114b8), (0x114ba, 0x114ba), (0x114bf, 0x114c0), (0x114c2, 0x114c3),
    (0x115b2, 0x115b5), (0x115bc, 0x115bd), (0x115bf, 0x115c0), (0x115dc, 0x115dd),
    (0x11633, 0x1163a), (0x1163d, 0x1163d), (0x1163f, 0x11640), (0x116ab, 0x116ab),
    (0x116ad, 0x116ad), (0x116b0, 0x116b5), (0x116b7, 0x116b7), (0x1171d, 0x1171d),
    (0x1171f, 0x1171f), (0x11722, 0x11725), (0x11727, 0x1172b), (0x1182f, 0x11837),
    (0x11839, 0x1183a), (0x1193b, 0x1193c), (0x1193e, 0x1193e), (0x11943, 0x11943),
    (0x119d4, 0x119d7), (0x119da, 0x119db), (0x119e0, 0x119e0), (0x11a01, 0x11a0a),
    (0x11a33, 0x11a38), (0x11a3b, 0x11a3e), (0x11a47, 0x11a47), (0x11a51, 0x11a56),
    (0x11a59, 0x11a5b), (0x11a8a, 0x11a96), (0x11a98, 0x11a99), (0x11b60, 0x11b60),
    (0x11b62, 0x11b64), (0x11b66, 0x11b66), (0x11c30, 0x11c36), (0x11c38, 0x11c3d),
    (0x11c3f, 0x11c3f), (0x11c92, 0x11ca7), (0x11caa, 0x11cb0), (0x11cb2, 0x11cb3),
    (0x11cb5, 0x11cb6), (0x11d31, 0x11d36), (0x11d3a, 0x11d3a), (0x11d3c, 0x11d3d),
    (0x11d3f, 0x11d45), (0x11d47, 0x11d47), (0x11d90, 0x11d91), (0x11d95, 0x11d95),
    (0x11d97, 0x11d97), (0x11ef3, 0x11ef4), (0x11f00, 0x11f01), (0x11f36, 0x11f3a),
    (0x11f40, 0x11f40), (0x11f42, 0x11f42), (0x11f5a, 0x11f5a), (0x13430, 0x13440),
    (0x13447, 0x13455), (0x1611e, 0x16129), (0x1612d, 0x1612f), (0x16af0, 0x16af4),
    (0x16b30, 0x16b36), (0x16f4f, 0x16f4f), (0x16f8f, 0x16f92), (0x16fe4, 0x16fe4),
    (0x1bc9d, 0x1bc9e), (0x1bca0, 0x1bca3), (0x1cf00, 0x1cf2d), (0x1cf30, 0x1cf46),
    (0x1d167, 0x1d169), (0x1d173, 0x1d182), (0x1d185, 0x1d18b), (0x1d1aa, 0x1d1ad),
    (0x1d242, 0x1d244), (0x1da00, 0x1da36), (0x1da3b, 0x1da6c), (0x1da75, 0x1da75),
    (0x1da84, 0x1da84), (0x1da9b, 0x1da9f), (0x1daa1, 0x1daaf), (0x1e000, 0x1e006),
    (0x1e008, 0x1e018), (0x1e01b, 0x1e021), (0x1e023, 0x1e024), (0x1e026, 0x1e02a),
    (0x1e08f, 0x1e08f), (0x1e130, 0x1e136), (0x1e2ae, 0x1e2ae), (0x1e2ec, 0x1e2ef),
    (0x1e4ec, 0x1e4ef), (0x1e5ee, 0x1e5ef), (0x1e6e3, 0x1e6e3), (0x1e6e6, 0x1e6e6),
    (0x1e6ee, 0x1e6ef), (0x1e6f5, 0x1e6f5), (0x1e8d0, 0x1e8d6), (0x1e944, 0x1e94b),
    (0xe0001, 0xe0001), (0xe0020, 0xe007f), (0xe0100, 0xe01ef) ]

/-- Letters that join on both sides. -/
def dualJoiningRanges : List (Nat × Nat) :=
  [
    (0x0620, 0x0620), (0x0626, 0x0626), (0x0628, 0x0628), (0x062a, 0x062e), (0x0633, 0x063f),
    (0x0641, 0x0647), (0x0649, 0x064a), (0x066e, 0x066f), (0x0678, 0x0687), (0x069a, 0x06bf),
    (0x06c1, 0x06c2), (0x06cc, 0x06cc), (0x06ce, 0x06ce), (0x06d0, 0x06d1), (0x06fa, 0x06fc),
    (0x06ff, 0x06ff), (0x0712, 0x0714), (0x071a, 0x071d), (0x071f, 0x0727), (0x0729, 0x0729),
    (0x072b, 0x072b), (0x072d, 0x072e), (0x074e, 0x0758), (0x075c, 0x076a), (0x076d, 0x0770),
    (0x0772, 0x0772), (0x0775, 0x0777), (0x077a, 0x077f), (0x07ca, 0x07ea), (0x0841, 0x0845),
    (0x0848, 0x0848), (0x084a, 0x0853), (0x0855, 0x0855), (0x0860, 0x0860), (0x0862, 0x0865),
    (0x0868, 0x0868), (0x0886, 0x0886), (0x0889, 0x088d), (0x088f, 0x088f), (0x08a0, 0x08a9),
    (0x08af, 0x08b0), (0x08b3, 0x08b8), (0x08ba, 0x08c8), (0x1807, 0x1807), (0x1820, 0x1878),
    (0x1887, 0x18a8), (0x18aa, 0x18aa), (0xa840, 0xa871), (0x10ac0, 0x10ac4), (0x10ad3, 0x10ad6),
    (0x10ad8, 0x10adc), (0x10ade, 0x10ae0), (0x10aeb, 0x10aee), (0x10b80, 0x10b80),
    (0x10b82, 0x10b82), (0x10b86, 0x10b88), (0x10b8a, 0x10b8b), (0x10b8d, 0x10b8d),
    (0x10b90, 0x10b90), (0x10bad, 0x10bae), (0x10d01, 0x10d21), (0x10d23, 0x10d23),
    (0x10ec3, 0x10ec4), (0x10ec6, 0x10ec7), (0x10f30, 0x10f32), (0x10f34, 0x10f44),
    (0x10f51, 0x10f53), (0x10f70, 0x10f73), (0x10f76, 0x10f81), (0x10fb0, 0x10fb0),
    (0x10fb2, 0x10fb3), (0x10fb8, 0x10fb8), (0x10fbb, 0x10fbc), (0x10fbe, 0x10fbf),
    (0x10fc1, 0x10fc1), (0x10fc4, 0x10fc4), (0x10fca, 0x10fca), (0x1e900, 0x1e943) ]

/-- Letters that join only the one after them. -/
def forwardJoiningRanges : List (Nat × Nat) :=
  [
    (0xa872, 0xa872), (0x10acd, 0x10acd), (0x10ad7, 0x10ad7), (0x10d00, 0x10d00),
    (0x10fcb, 0x10fcb) ]

/-- Letters that join only the one before them. -/
def backwardJoiningRanges : List (Nat × Nat) :=
  [
    (0x0622, 0x0625), (0x0627, 0x0627), (0x0629, 0x0629), (0x062f, 0x0632), (0x0648, 0x0648),
    (0x0671, 0x0673), (0x0675, 0x0677), (0x0688, 0x0699), (0x06c0, 0x06c0), (0x06c3, 0x06cb),
    (0x06cd, 0x06cd), (0x06cf, 0x06cf), (0x06d2, 0x06d3), (0x06d5, 0x06d5), (0x06ee, 0x06ef),
    (0x0710, 0x0710), (0x0715, 0x0719), (0x071e, 0x071e), (0x0728, 0x0728), (0x072a, 0x072a),
    (0x072c, 0x072c), (0x072f, 0x072f), (0x074d, 0x074d), (0x0759, 0x075b), (0x076b, 0x076c),
    (0x0771, 0x0771), (0x0773, 0x0774), (0x0778, 0x0779), (0x0840, 0x0840), (0x0846, 0x0847),
    (0x0849, 0x0849), (0x0854, 0x0854), (0x0856, 0x0858), (0x0867, 0x0867), (0x0869, 0x086a),
    (0x0870, 0x0882), (0x088e, 0x088e), (0x08aa, 0x08ac), (0x08ae, 0x08ae), (0x08b1, 0x08b2),
    (0x08b9, 0x08b9), (0x10ac5, 0x10ac5), (0x10ac7, 0x10ac7), (0x10ac9, 0x10aca),
    (0x10ace, 0x10ad2), (0x10add, 0x10add), (0x10ae1, 0x10ae1), (0x10ae4, 0x10ae4),
    (0x10aef, 0x10aef), (0x10b81, 0x10b81), (0x10b83, 0x10b85), (0x10b89, 0x10b89),
    (0x10b8c, 0x10b8c), (0x10b8e, 0x10b8f), (0x10b91, 0x10b91), (0x10ba9, 0x10bac),
    (0x10d22, 0x10d22), (0x10ec2, 0x10ec2), (0x10f33, 0x10f33), (0x10f54, 0x10f54),
    (0x10f74, 0x10f75), (0x10fb4, 0x10fb6), (0x10fb9, 0x10fba), (0x10fbd, 0x10fbd),
    (0x10fc2, 0x10fc3), (0x10fc9, 0x10fc9) ]

def greekRanges : List (Nat × Nat) :=
  [
    (0x0370, 0x0373), (0x0375, 0x0377), (0x037a, 0x037d), (0x037f, 0x037f), (0x0384, 0x0384),
    (0x0386, 0x0386), (0x0388, 0x038a), (0x038c, 0x038c), (0x038e, 0x03a1), (0x03a3, 0x03e1),
    (0x03f0, 0x03ff), (0x1d26, 0x1d2a), (0x1d5d, 0x1d61), (0x1d66, 0x1d6a), (0x1dbf, 0x1dbf),
    (0x1f00, 0x1f15), (0x1f18, 0x1f1d), (0x1f20, 0x1f45), (0x1f48, 0x1f4d), (0x1f50, 0x1f57),
    (0x1f59, 0x1f59), (0x1f5b, 0x1f5b), (0x1f5d, 0x1f5d), (0x1f5f, 0x1f7d), (0x1f80, 0x1fb4),
    (0x1fb6, 0x1fc4), (0x1fc6, 0x1fd3), (0x1fd6, 0x1fdb), (0x1fdd, 0x1fef), (0x1ff2, 0x1ff4),
    (0x1ff6, 0x1ffe), (0x2126, 0x2126), (0xab65, 0xab65), (0x10140, 0x1018e), (0x101a0, 0x101a0),
    (0x1d200, 0x1d245) ]

def hebrewRanges : List (Nat × Nat) :=
  [
    (0x0591, 0x05c7), (0x05d0, 0x05ea), (0x05ef, 0x05f4), (0xfb1d, 0xfb36), (0xfb38, 0xfb3c),
    (0xfb3e, 0xfb3e), (0xfb40, 0xfb41), (0xfb43, 0xfb44), (0xfb46, 0xfb4f) ]

/-- The scripts of Japanese: its two alphabets and the Chinese characters. -/
def japaneseRanges : List (Nat × Nat) :=
  [
    (0x2e80, 0x2e99), (0x2e9b, 0x2ef3), (0x2f00, 0x2fd5), (0x3005, 0x3005), (0x3007, 0x3007),
    (0x3021, 0x3029), (0x3038, 0x303b), (0x3041, 0x3096), (0x309d, 0x309f), (0x30a1, 0x30fa),
    (0x30fd, 0x30ff), (0x31f0, 0x31ff), (0x32d0, 0x32fe), (0x3300, 0x3357), (0x3400, 0x4dbf),
    (0x4e00, 0x9fff), (0xf900, 0xfa6d), (0xfa70, 0xfad9), (0xff66, 0xff6f), (0xff71, 0xff9d),
    (0x16fe2, 0x16fe3), (0x16ff0, 0x16ff6), (0x1aff0, 0x1aff3), (0x1aff5, 0x1affb),
    (0x1affd, 0x1affe), (0x1b000, 0x1b122), (0x1b132, 0x1b132), (0x1b150, 0x1b152),
    (0x1b155, 0x1b155), (0x1b164, 0x1b167), (0x1f200, 0x1f200), (0x20000, 0x2a6df),
    (0x2a700, 0x2b81d), (0x2b820, 0x2cead), (0x2ceb0, 0x2ebe0), (0x2ebf0, 0x2ee5d),
    (0x2f800, 0x2fa1d), (0x30000, 0x3134a), (0x31350, 0x33479) ]

def isTransparent (code : Nat) : Bool := Text.inRanges transparentRanges code

def joinsNext (code : Nat) : Bool :=
  Text.inRanges dualJoiningRanges code || Text.inRanges forwardJoiningRanges code

def joinsLast (code : Nat) : Bool :=
  Text.inRanges dualJoiningRanges code || Text.inRanges backwardJoiningRanges code

/-- A character of a label where it stands; what is before it comes last one first. -/
structure LabelPlace where
  before : List Nat
  code : Nat
  after : List Nat
  deriving DecidableEq, Repr

namespace LabelPlace

/-- The sign that keeps letters apart. -/
def nonJoiner : Nat := 0x200c

def zeroWidthJoiner : Nat := 0x200d

def isJoiner (place : LabelPlace) : Bool := place.code == nonJoiner || place.code == zeroWidthJoiner

def afterVirama (place : LabelPlace) : Bool :=
  match place.before with
  | code :: _ => Text.markClass code == Text.viramaClass
  | [] => false

/-- Whether letters on both sides would join, but for signs through which they do. -/
def betweenJoining (place : LabelPlace) : Bool :=
  ((place.before.dropWhile isTransparent).head?.map joinsNext).getD false &&
    ((place.after.dropWhile isTransparent).head?.map joinsLast).getD false

/-- A joiner stands behind a sign that takes away a vowel; one that keeps letters apart may also stand
where they would join. Nothing is said behind a character whose class is not known. -/
def joinerFits (place : LabelPlace) : Bool :=
  place.afterVirama ||
    (place.code == nonJoiner && place.betweenJoining &&
      (place.before.head?.map Direction.ofCode) != some .unknown)

def arabicIndic (code : Nat) : Bool := 0x660 ≤ code && code ≤ 0x669

def extendedArabicIndic (code : Nat) : Bool := 0x6f0 ≤ code && code ≤ 0x6f9

def others (place : LabelPlace) : List Nat := place.before ++ place.after

/-- Whether a sign fits where it stands, if it is one that does not fit everywhere. -/
def signFits? (place : LabelPlace) : Option Bool :=
  if place.code = 0xb7 then some (place.before.head? == some 0x6c && place.after.head? == some 0x6c)
  else if place.code = 0x375 then
    some ((place.after.head?.map (Text.inRanges greekRanges)).getD false)
  else if place.code = 0x5f3 ∨ place.code = 0x5f4 then
    some ((place.before.head?.map (Text.inRanges hebrewRanges)).getD false)
  else if place.code = 0x30fb then
    some (place.others.any fun code => code != 0x30fb && Text.inRanges japaneseRanges code)
  else if arabicIndic place.code then some (!place.others.any extendedArabicIndic)
  else if extendedArabicIndic place.code then some (!place.others.any arabicIndic)
  else none

end LabelPlace

end Bookbinder.Web
