import SearchSql.Text.Mark

/-!
# Labels in two directions

A domain with letters that are written from right to left could be read in more than one order. Each
label of such a domain begins with a letter, keeps to one direction, and ends with a letter or a
number, so that its place can be seen. The ranges are exact on what a domain can hold.
-/

namespace SearchSql.Http.Domain

open SearchSql.Text

/-- Letters of scripts that are written from right to left. -/
def rightToLeftRanges : List (Nat × Nat) := [
  (0x05be, 0x05be), (0x05c0, 0x05c0), (0x05c3, 0x05c3), (0x05c6, 0x05c6), (0x05d0, 0x05f4),
  (0x0608, 0x0608), (0x060b, 0x060b), (0x060d, 0x060d), (0x061b, 0x064a), (0x066d, 0x066f),
  (0x0671, 0x06d5), (0x06e5, 0x06e6), (0x06ee, 0x06ef), (0x06fa, 0x0710), (0x0712, 0x072f),
  (0x074d, 0x07a5), (0x07b1, 0x07b1), (0x07c0, 0x07ea), (0x07f4, 0x07f5), (0x07fa, 0x07fa),
  (0x07fe, 0x0815), (0x081a, 0x081a), (0x0824, 0x0824), (0x0828, 0x0828), (0x0830, 0x0858),
  (0x085e, 0x085e), (0x0860, 0x088f), (0x08a0, 0x08c9), (0xfbb2, 0xfbc2), (0xfe73, 0xfe73),
  (0x10800, 0x1091b), (0x10920, 0x10a00), (0x10a10, 0x10a35), (0x10a40, 0x10ae4),
  (0x10aeb, 0x10b35), (0x10b40, 0x10cff), (0x10d00, 0x10d23), (0x10d4a, 0x10d4f),
  (0x10d6f, 0x10d8f), (0x10e80, 0x10ea9), (0x10ead, 0x10eb1), (0x10ec2, 0x10ec7),
  (0x10f00, 0x10f27), (0x10f30, 0x10f45), (0x10f51, 0x10f59), (0x10f70, 0x10f81),
  (0x10f86, 0x10ff6), (0x1e800, 0x1e8cf), (0x1e922, 0x1e943), (0x1e94b, 0x1e95f),
  (0x1ec71, 0x1ed3d)]

/-- Digits and signs of numbers among such letters. -/
def arabicNumberRanges : List (Nat × Nat) := [
  (0x0660, 0x0669), (0x066b, 0x066c), (0x10d30, 0x10d49), (0x10e60, 0x10e7e)]

/-- Digits that run from left to right in every text. -/
def europeanNumberRanges : List (Nat × Nat) := [
  (0x0030, 0x0039), (0x06f0, 0x06f9), (0x102e1, 0x102fb)]

/-- Characters that take the direction of their neighbours. -/
def neutralRanges : List (Nat × Nat) := [
  (0x0000, 0x0008), (0x000e, 0x001b), (0x0021, 0x0022), (0x0023, 0x0025), (0x0026, 0x002a),
  (0x002b, 0x002b), (0x002c, 0x002c), (0x002d, 0x002d), (0x002e, 0x002f), (0x003a, 0x003a),
  (0x003b, 0x0060), (0x007b, 0x007e), (0x007f, 0x007f), (0x00a1, 0x00a1), (0x00a2, 0x00a5),
  (0x00a6, 0x00ae), (0x00b0, 0x00b1), (0x00b6, 0x00d7), (0x00f7, 0x00f7), (0x02b9, 0x02ba),
  (0x02c2, 0x02cf), (0x02d2, 0x02ed), (0x02ef, 0x02ff), (0x0375, 0x0375), (0x03f6, 0x03f6),
  (0x058a, 0x058e), (0x058f, 0x058f), (0x0606, 0x0607), (0x0609, 0x060a), (0x060c, 0x060c),
  (0x060e, 0x060f), (0x066a, 0x066a), (0x06de, 0x06de), (0x06e9, 0x06e9), (0x07f6, 0x07f9),
  (0x09f2, 0x09f3), (0x09fb, 0x09fb), (0x0af1, 0x0af1), (0x0bf3, 0x0bf8), (0x0bf9, 0x0bf9),
  (0x0bfa, 0x0bfa), (0x0c78, 0x0c7e), (0x0e3f, 0x0e3f), (0x0f3a, 0x0f3d), (0x1390, 0x1399),
  (0x1400, 0x1400), (0x169b, 0x169c), (0x17db, 0x17db), (0x17f0, 0x180a), (0x1940, 0x1945),
  (0x19de, 0x19ff), (0x200c, 0x200d), (0x2010, 0x2027), (0x2030, 0x2032), (0x2035, 0x2043),
  (0x2044, 0x2044), (0x2045, 0x205e), (0x20a0, 0x20c1), (0x2104, 0x2129), (0x212e, 0x212e),
  (0x213a, 0x214d), (0x218a, 0x2211), (0x2212, 0x2212), (0x2213, 0x2213), (0x2214, 0x2335),
  (0x237b, 0x2394), (0x2396, 0x26ab), (0x26ad, 0x27ff), (0x2900, 0x2bff), (0x2ce5, 0x2cea),
  (0x2cf9, 0x2cff), (0x2e00, 0x3004), (0x3008, 0x3020), (0x3030, 0x3030), (0x3037, 0x3037),
  (0x303d, 0x303f), (0x30a0, 0x30a0), (0x30fb, 0x30fb), (0x31c0, 0x31e5), (0x4dc0, 0x4dff),
  (0xa490, 0xa4c6), (0xa60d, 0xa60f), (0xa673, 0xa673), (0xa67e, 0xa67f), (0xa700, 0xa721),
  (0xa788, 0xa788), (0xa828, 0xa82b), (0xa838, 0xa839), (0xa874, 0xa877), (0xab6a, 0xab6b),
  (0xfbc3, 0xfdff), (0xfe45, 0xfe46), (0x10101, 0x10101), (0x10140, 0x1018c), (0x10190, 0x101a0),
  (0x1091f, 0x1091f), (0x10b39, 0x10b3f), (0x10d6e, 0x10d6e), (0x10ed0, 0x10ed8),
  (0x11052, 0x11065), (0x11660, 0x1166c), (0x11fd5, 0x11fdc), (0x11fdd, 0x11fe0),
  (0x11fe1, 0x11ff1), (0x16fe2, 0x16fe2), (0x1cc00, 0x1cef0), (0x1d1e9, 0x1d241),
  (0x1d245, 0x1d245), (0x1d300, 0x1d356), (0x1e2ff, 0x1e2ff), (0x1eef0, 0x1f12f),
  (0x1f16d, 0x1f16f), (0x1f1ad, 0x1f1ad), (0x1f260, 0x1fbfa)]

/-- The code points of marks that count as letters from left to right. -/
def letteredMarkRanges : List (Nat × Nat) := [
  (0x0cbf, 0x0cbf), (0x0cc6, 0x0cc6), (0x11a07, 0x11a08), (0x11c3f, 0x11c3f)]

/-- How a character takes part in the direction of a text. -/
inductive Direction
  | left
  | right
  | europeanNumber
  | arabicNumber
  | neutral
  | mark
deriving DecidableEq

def direction (c : Char) : Direction :=
  if inRanges rightToLeftRanges c.toNat then .right
  else if inRanges europeanNumberRanges c.toNat then .europeanNumber
  else if inRanges arabicNumberRanges c.toNat then .arabicNumber
  else if inRanges neutralRanges c.toNat then .neutral
  else if isNonspacing c && !inRanges letteredMarkRanges c.toNat then .mark
  else .left

/-- Whether a label makes its domain one of two directions. -/
def runsLeft (label : List Char) : Bool :=
  label.any fun c => [.right, .arabicNumber].contains (direction c)

/-- The directions in a label, without the marks at its end. -/
def directions (label : List Char) : List Direction :=
  ((label.map direction).reverse.dropWhile (· == .mark)).reverse

/-- Whether a label of a domain of two directions keeps to one. -/
def keepsDirection (label : List Char) : Bool :=
  let all := directions label
  match all.head?, all.getLast? with
  | some .left, some last =>
    [.left, .europeanNumber].contains last && !all.contains .right && !all.contains .arabicNumber
  | some .right, some last =>
    [.right, .europeanNumber, .arabicNumber].contains last && !all.contains .left &&
      !(all.contains .europeanNumber && all.contains .arabicNumber)
  | none, _ => label.isEmpty
  | _, _ => false

end SearchSql.Http.Domain
