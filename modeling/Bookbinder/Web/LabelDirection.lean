import Bookbinder.Text.Quoted
import Bookbinder.Text.Ranges

/-!
The direction of labels. Scripts run from left to right or from right to left, and a label with
characters that run from right to left has to keep to one direction: it starts with a letter of that
direction and ends with a letter or a digit. The tables are for the characters of labels, so their
ranges may also cover some that no label holds.
-/

set_option autoImplicit false

namespace Bookbinder.Web

/-- The direction of a character. Marks go with the character before them, neutral characters with
those around them. -/
inductive Direction where
  | leftToRight
  | rightToLeft
  | arabicLetter
  | arabicDigit
  | digit
  | neutral
  | mark
  | unknown
  deriving DecidableEq, Repr

def rightToLeftRanges : List (Nat × Nat) :=
  [
    (0x05d0, 0x05f4), (0x07c0, 0x07ea), (0x07f4, 0x07f5), (0x0800, 0x0815), (0x081a, 0x081a),
    (0x0824, 0x0824), (0x0828, 0x0828), (0x0840, 0x0858), (0x10800, 0x10939), (0x10980, 0x10a00),
    (0x10a10, 0x10a35), (0x10a60, 0x10ae4), (0x10b00, 0x10cf2), (0x10e80, 0x10ea9),
    (0x10eb0, 0x10eb1), (0x10f00, 0x10f27), (0x10f70, 0x10f81), (0x10fb0, 0x10ff6),
    (0x1e800, 0x1e8c4), (0x1e922, 0x1e943), (0x1e94b, 0x1e959) ]

def arabicLetterRanges : List (Nat × Nat) :=
  [
    (0x0620, 0x064a), (0x066e, 0x066f), (0x0671, 0x06d5), (0x06e5, 0x06e6), (0x06ee, 0x06ef),
    (0x06fa, 0x0710), (0x0712, 0x072f), (0x074d, 0x07a5), (0x07b1, 0x07b1), (0x0860, 0x088e),
    (0x08a0, 0x08c9), (0xfe73, 0xfe73), (0x10d00, 0x10d23), (0x10f30, 0x10f45) ]

def arabicDigitRanges : List (Nat × Nat) := [(0x0660, 0x0669), (0x10d30, 0x10d39)]

def digitRanges : List (Nat × Nat) := [(0x0030, 0x0039), (0x06f0, 0x06f9)]

def neutralRanges : List (Nat × Nat) :=
  [
    (0x002d, 0x002d), (0x00b7, 0x00b7), (0x02b9, 0x02ba), (0x02c6, 0x02cf), (0x02ec, 0x02ec),
    (0x0375, 0x0375), (0x200c, 0x200d), (0x2e2f, 0x2e2f), (0x30fb, 0x30fb), (0xa67f, 0xa67f),
    (0xa717, 0xa71f), (0xa788, 0xa788) ]

def markDirectionRanges : List (Nat × Nat) :=
  [
    (0x0300, 0x036f), (0x0483, 0x0487), (0x0591, 0x05c7), (0x0610, 0x061a), (0x064b, 0x065f),
    (0x0670, 0x0670), (0x06d6, 0x06e4), (0x06e7, 0x06ed), (0x0711, 0x0711), (0x0730, 0x074a),
    (0x07a6, 0x07b0), (0x07eb, 0x07f3), (0x07fd, 0x07fd), (0x0816, 0x0819), (0x081b, 0x0823),
    (0x0825, 0x0827), (0x0829, 0x082d), (0x0859, 0x085b), (0x0898, 0x089f), (0x08ca, 0x0902),
    (0x093a, 0x093a), (0x093c, 0x093c), (0x0941, 0x0948), (0x094d, 0x094d), (0x0951, 0x0957),
    (0x0962, 0x0963), (0x0981, 0x0981), (0x09bc, 0x09bc), (0x09c1, 0x09c4), (0x09cd, 0x09cd),
    (0x09e2, 0x09e3), (0x09fe, 0x0a02), (0x0a3c, 0x0a3c), (0x0a41, 0x0a51), (0x0a70, 0x0a71),
    (0x0a75, 0x0a82), (0x0abc, 0x0abc), (0x0ac1, 0x0ac8), (0x0acd, 0x0acd), (0x0ae2, 0x0ae3),
    (0x0afa, 0x0b01), (0x0b3c, 0x0b3c), (0x0b3f, 0x0b3f), (0x0b41, 0x0b44), (0x0b4d, 0x0b56),
    (0x0b62, 0x0b63), (0x0b82, 0x0b82), (0x0bc0, 0x0bc0), (0x0bcd, 0x0bcd), (0x0c00, 0x0c00),
    (0x0c04, 0x0c04), (0x0c3c, 0x0c3c), (0x0c3e, 0x0c40), (0x0c46, 0x0c56), (0x0c62, 0x0c63),
    (0x0c81, 0x0c81), (0x0cbc, 0x0cbc), (0x0ccc, 0x0ccd), (0x0ce2, 0x0ce3), (0x0d00, 0x0d01),
    (0x0d3b, 0x0d3c), (0x0d41, 0x0d44), (0x0d4d, 0x0d4d), (0x0d62, 0x0d63), (0x0d81, 0x0d81),
    (0x0dca, 0x0dca), (0x0dd2, 0x0dd6), (0x0e31, 0x0e31), (0x0e34, 0x0e3a), (0x0e47, 0x0e4e),
    (0x0eb1, 0x0eb1), (0x0eb4, 0x0ebc), (0x0ec8, 0x0ecd), (0x0f18, 0x0f19), (0x0f35, 0x0f39),
    (0x0f71, 0x0f7e), (0x0f80, 0x0f87), (0x0f8d, 0x0fc6), (0x102d, 0x1030), (0x1032, 0x1037),
    (0x1039, 0x103a), (0x103d, 0x103e), (0x1058, 0x1059), (0x105e, 0x1060), (0x1071, 0x1074),
    (0x1082, 0x1082), (0x1085, 0x1086), (0x108d, 0x108d), (0x109d, 0x109d), (0x135d, 0x135f),
    (0x1712, 0x1714), (0x1732, 0x1733), (0x1752, 0x1753), (0x1772, 0x1773), (0x17b7, 0x17bd),
    (0x17c6, 0x17c6), (0x17c9, 0x17d3), (0x17dd, 0x17dd), (0x1885, 0x1886), (0x18a9, 0x18a9),
    (0x1920, 0x1922), (0x1927, 0x1928), (0x1932, 0x1932), (0x1939, 0x193b), (0x1a17, 0x1a18),
    (0x1a1b, 0x1a1b), (0x1a56, 0x1a56), (0x1a58, 0x1a60), (0x1a62, 0x1a62), (0x1a65, 0x1a6c),
    (0x1a73, 0x1a7f), (0x1ab0, 0x1ace), (0x1b00, 0x1b03), (0x1b34, 0x1b34), (0x1b36, 0x1b3a),
    (0x1b3c, 0x1b3c), (0x1b42, 0x1b42), (0x1b6b, 0x1b81), (0x1ba2, 0x1ba5), (0x1ba8, 0x1ba9),
    (0x1bab, 0x1bad), (0x1be6, 0x1be6), (0x1be8, 0x1be9), (0x1bed, 0x1bed), (0x1bef, 0x1bf1),
    (0x1c2c, 0x1c33), (0x1c36, 0x1c37), (0x1cd0, 0x1ce0), (0x1ce2, 0x1ce8), (0x1ced, 0x1ced),
    (0x1cf4, 0x1cf4), (0x1cf8, 0x1cf9), (0x1dc0, 0x1dff), (0x2cef, 0x2cf1), (0x2d7f, 0x2d7f),
    (0x2de0, 0x2dff), (0x302a, 0x302d), (0x3099, 0x309a), (0xa66f, 0xa67d), (0xa69e, 0xa69f),
    (0xa6f0, 0xa6f1), (0xa802, 0xa802), (0xa806, 0xa806), (0xa80b, 0xa80b), (0xa825, 0xa826),
    (0xa82c, 0xa82c), (0xa8c4, 0xa8c5), (0xa8e0, 0xa8f1), (0xa8ff, 0xa8ff), (0xa926, 0xa92d),
    (0xa947, 0xa951), (0xa980, 0xa982), (0xa9b3, 0xa9b3), (0xa9b6, 0xa9b9), (0xa9bc, 0xa9bd),
    (0xa9e5, 0xa9e5), (0xaa29, 0xaa2e), (0xaa31, 0xaa32), (0xaa35, 0xaa36), (0xaa43, 0xaa43),
    (0xaa4c, 0xaa4c), (0xaa7c, 0xaa7c), (0xaab0, 0xaab0), (0xaab2, 0xaab4), (0xaab7, 0xaab8),
    (0xaabe, 0xaabf), (0xaac1, 0xaac1), (0xaaec, 0xaaed), (0xaaf6, 0xaaf6), (0xabe5, 0xabe5),
    (0xabe8, 0xabe8), (0xabed, 0xabed), (0xfb1e, 0xfe2f), (0x101fd, 0x101fd), (0x102e0, 0x102e0),
    (0x10376, 0x1037a), (0x10a01, 0x10a0f), (0x10a38, 0x10a3f), (0x10ae5, 0x10ae6),
    (0x10d24, 0x10d27), (0x10eab, 0x10eac), (0x10f46, 0x10f50), (0x10f82, 0x10f85),
    (0x11001, 0x11001), (0x11038, 0x11046), (0x11070, 0x11070), (0x11073, 0x11074),
    (0x1107f, 0x11081), (0x110b3, 0x110b6), (0x110b9, 0x110c2), (0x11100, 0x11102),
    (0x11127, 0x1112b), (0x1112d, 0x11134), (0x11173, 0x11173), (0x11180, 0x11181),
    (0x111b6, 0x111be), (0x111c9, 0x111cc), (0x111cf, 0x111cf), (0x1122f, 0x11231),
    (0x11234, 0x11234), (0x11236, 0x1123e), (0x112df, 0x112df), (0x112e3, 0x112ea),
    (0x11300, 0x11301), (0x1133b, 0x1133c), (0x11340, 0x11340), (0x11366, 0x11374),
    (0x11438, 0x1143f), (0x11442, 0x11444), (0x11446, 0x11446), (0x1145e, 0x1145e),
    (0x114b3, 0x114b8), (0x114ba, 0x114ba), (0x114bf, 0x114c0), (0x114c2, 0x114c3),
    (0x115b2, 0x115b5), (0x115bc, 0x115bd), (0x115bf, 0x115c0), (0x115dc, 0x115dd),
    (0x11633, 0x1163a), (0x1163d, 0x1163d), (0x1163f, 0x11640), (0x116ab, 0x116ab),
    (0x116ad, 0x116ad), (0x116b0, 0x116b5), (0x116b7, 0x116b7), (0x1171d, 0x1171f),
    (0x11722, 0x11725), (0x11727, 0x1172b), (0x1182f, 0x11837), (0x11839, 0x1183a),
    (0x1193b, 0x1193c), (0x1193e, 0x1193e), (0x11943, 0x11943), (0x119d4, 0x119db),
    (0x119e0, 0x119e0), (0x11a01, 0x11a06), (0x11a09, 0x11a0a), (0x11a33, 0x11a38),
    (0x11a3b, 0x11a47), (0x11a51, 0x11a56), (0x11a59, 0x11a5b), (0x11a8a, 0x11a96),
    (0x11a98, 0x11a99), (0x11c30, 0x11c3d), (0x11c92, 0x11ca7), (0x11caa, 0x11cb0),
    (0x11cb2, 0x11cb3), (0x11cb5, 0x11cb6), (0x11d31, 0x11d45), (0x11d47, 0x11d47),
    (0x11d90, 0x11d91), (0x11d95, 0x11d95), (0x11d97, 0x11d97), (0x11ef3, 0x11ef4),
    (0x16af0, 0x16af4), (0x16b30, 0x16b36), (0x16f4f, 0x16f4f), (0x16f8f, 0x16f92),
    (0x16fe4, 0x16fe4), (0x1bc9d, 0x1daaf), (0x1e000, 0x1e02a), (0x1e130, 0x1e136),
    (0x1e2ae, 0x1e2ae), (0x1e2ec, 0x1e2ef), (0x1e8d0, 0x1e8d6), (0x1e944, 0x1e94a) ]

/-- Characters that are younger than the tables of directions. -/
def unknownDirectionRanges : List (Nat × Nat) :=
  [
    (0x088f, 0x0897), (0x0c5c, 0x0c5c), (0x0cdc, 0x0cdc), (0x0cf3, 0x0cf3), (0x0ece, 0x0ece),
    (0x1acf, 0x1aeb), (0x1c8a, 0x1c8a), (0xa7cd, 0xa7cf), (0xa7db, 0xa7db), (0x105c0, 0x105f3),
    (0x10940, 0x10959), (0x10d40, 0x10d85), (0x10ec2, 0x10eff), (0x1123f, 0x11241),
    (0x11380, 0x113e2), (0x116d0, 0x116e3), (0x11b60, 0x11bf9), (0x11db0, 0x11de9),
    (0x11f00, 0x11f5a), (0x1342f, 0x143fa), (0x16100, 0x16139), (0x16d40, 0x16d79),
    (0x16ebb, 0x16ed3), (0x16ff2, 0x16ff3), (0x187f8, 0x187ff), (0x18cff, 0x18cff),
    (0x18d09, 0x18df2), (0x1b132, 0x1b132), (0x1b155, 0x1b155), (0x1df25, 0x1df2a),
    (0x1e08f, 0x1e08f), (0x1e4d0, 0x1e6ff), (0x2b739, 0x2b73f), (0x2cea2, 0x2cead),
    (0x2ebf0, 0x2ee5d), (0x31350, 0x33479) ]

def Direction.ofCode (code : Nat) : Direction :=
  if Text.inRanges unknownDirectionRanges code then .unknown
  else if Text.inRanges digitRanges code then .digit
  else if Text.inRanges arabicDigitRanges code then .arabicDigit
  else if Text.inRanges rightToLeftRanges code then .rightToLeft
  else if Text.inRanges arabicLetterRanges code then .arabicLetter
  else if Text.inRanges markDirectionRanges code then .mark
  else if Text.inRanges neutralRanges code then .neutral
  else .leftToRight

namespace Direction

/-- Directions that make a label one that may run from right to left. -/
def isRight : Direction → Bool
  | .rightToLeft | .arabicLetter | .arabicDigit => true
  | _ => false

/-- Whether a label that runs from right to left, or else from left to right, may hold a character. -/
def fits (fromRight : Bool) : Direction → Bool
  | .leftToRight => !fromRight
  | .rightToLeft | .arabicLetter | .arabicDigit => fromRight
  | _ => true

/-- Whether the label may end here. -/
def mayEnd (fromRight : Bool) : Direction → Bool
  | .leftToRight => !fromRight
  | .rightToLeft | .arabicLetter | .arabicDigit => fromRight
  | .digit => true
  | _ => false

def isNumber : Direction → Bool
  | .digit | .arabicDigit => true
  | _ => false

end Direction

/-- What is wrong with the directions in a label. -/
inductive DirectionFault where
  | unknown (label : List Nat) (position : Nat)
  | first (label : List Nat)
  | misplaced (fromRight : Bool) (position : Nat)
  | mixedNumbers
  | ending
  deriving DecidableEq, Repr

def DirectionFault.message : DirectionFault → String
  | .unknown label position =>
    "Unknown directionality in label " ++ Text.quotedCodes label ++ " at position " ++
      Text.digits 10 position
  | .first label =>
    "First codepoint in label " ++ Text.quotedCodes label ++ " must be directionality L, R or AL"
  | .misplaced fromRight position =>
    "Invalid direction for codepoint at position " ++ Text.digits 10 position ++ " in a " ++
      (if fromRight then "right-to-left" else "left-to-right") ++ " label"
  | .mixedNumbers => "Can not mix numeral types in a right-to-left label"
  | .ending => "Label ends with illegal codepoint directionality"

/-- Whether the label may end, and the kind of numbers seen in it. -/
structure DirectionState where
  mayEnd : Bool := false
  numbers : Option Direction := none
  deriving DecidableEq, Repr

/-- One more character; marks leave the end as it is. -/
def DirectionState.step (state : DirectionState) (fromRight : Bool) (direction : Direction) :
    DirectionState where
  mayEnd := if direction = .mark then state.mayEnd else direction.mayEnd fromRight
  numbers := if fromRight && direction.isNumber then state.numbers.or (some direction) else state.numbers

def DirectionState.mixes (state : DirectionState) (fromRight : Bool) (direction : Direction) : Bool :=
  fromRight && direction.isNumber && state.numbers != none && state.numbers != some direction

def checkDirectionsFrom (fromRight : Bool) (state : DirectionState) (position : Nat) :
    List Direction → Except DirectionFault Unit
  | [] => if state.mayEnd then .ok () else .error .ending
  | direction :: rest =>
    if !direction.fits fromRight then .error (.misplaced fromRight position)
    else if state.mixes fromRight direction then .error .mixedNumbers
    else checkDirectionsFrom fromRight (state.step fromRight direction) (position + 1) rest

/-- Checks the directions in a label. Positions are counted from one. -/
def checkDirections (label : List Nat) : Except DirectionFault Unit :=
  let directions := label.map Direction.ofCode
  if directions.contains .unknown then
    .error (.unknown label ((directions.takeWhile (· != .unknown)).length + 1))
  else if !directions.any Direction.isRight then .ok ()
  else
    match directions.head? with
    | some .rightToLeft | some .arabicLetter => checkDirectionsFrom true {} 1 directions
    | some .leftToRight => checkDirectionsFrom false {} 1 directions
    | _ => .error (.first label)

theorem ofCode_small_letter (offset : Fin 26) :
    Direction.ofCode (0x61 + offset.val) = .leftToRight := by
  decide +kernel +revert

/-- A label of characters that run from left to right is not checked further. -/
theorem checkDirections_of_leftToRight {label : List Nat}
    (plain : ∀ code ∈ label, Direction.ofCode code = .leftToRight) :
    checkDirections label = .ok () := by
  have same : label.map Direction.ofCode = List.replicate label.length .leftToRight := by
    rw [List.eq_replicate_iff]
    simpa using plain
  have known : Direction.unknown ∉ label.map Direction.ofCode := by
    simp only [same, List.mem_replicate]
    simp
  have left : (label.map Direction.ofCode).any Direction.isRight = false := by
    simp only [same, List.any_replicate]
    simp [Direction.isRight]
  simp [checkDirections, left, List.contains_eq_mem, known]

end Bookbinder.Web
