import HostDialing.Text.Mark

/-!
# Direction of labels

Letters run to the right or to the left, and digits and signs follow their neighbours. In a name
with letters of both kinds each label has to run one way, so that its parts are shown in order.
-/

namespace HostDialing

/-- Where a character runs. -/
inductive Direction where
  | leftToRight
  | rightToLeft
  | arabicNumber
  | europeanNumber
  | nonspacing
  | other
deriving DecidableEq

/-- The characters that do not run from left to right. Nonspacing marks within a run count apart. -/
def directions : CharRuns Direction :=
  [(0x0, 0x2f, .other), (0x30, 0x39, .europeanNumber), (0x3a, 0x60, .other), (0x7b, 0xd7, .other),
    (0xf7, 0xf7, .other), (0x2b9, 0x2ba, .other), (0x2c2, 0x2cf, .other), (0x2d2, 0x2ed, .other),
    (0x2ef, 0x2ff, .other), (0x375, 0x375, .other), (0x3f6, 0x3f6, .other), (0x58a, 0x58f, .other),
    (0x5be, 0x5f4, .rightToLeft), (0x606, 0x607, .other), (0x608, 0x608, .rightToLeft),
    (0x609, 0x60a, .other), (0x60b, 0x60b, .rightToLeft), (0x60c, 0x60c, .other),
    (0x60d, 0x60d, .rightToLeft), (0x60e, 0x60f, .other), (0x61b, 0x64a, .rightToLeft),
    (0x660, 0x669, .arabicNumber), (0x66a, 0x66a, .other), (0x66b, 0x66c, .arabicNumber),
    (0x66d, 0x6d5, .rightToLeft), (0x6de, 0x6de, .other), (0x6e5, 0x6e6, .rightToLeft),
    (0x6e9, 0x6e9, .other), (0x6ee, 0x6ef, .rightToLeft), (0x6f0, 0x6f9, .europeanNumber),
    (0x6fa, 0x7f5, .rightToLeft), (0x7f6, 0x7f9, .other), (0x7fa, 0x8c9, .rightToLeft),
    (0x9f2, 0x9f3, .other), (0x9fb, 0x9fb, .other), (0xaf1, 0xaf1, .other), (0xbf3, 0xbfa, .other),
    (0xc78, 0xc7e, .other), (0xe3f, 0xe3f, .other), (0xf3a, 0xf3d, .other),
    (0x1390, 0x1399, .other), (0x1400, 0x1400, .other), (0x169b, 0x169c, .other),
    (0x17db, 0x17db, .other), (0x17f0, 0x180a, .other), (0x1940, 0x1945, .other),
    (0x19de, 0x19ff, .other), (0x200c, 0x214d, .other), (0x218a, 0x2335, .other),
    (0x237b, 0x2394, .other), (0x2396, 0x26ab, .other), (0x26ad, 0x27ff, .other),
    (0x2900, 0x2bff, .other), (0x2ce5, 0x2cea, .other), (0x2cf9, 0x2cff, .other),
    (0x2e00, 0x3004, .other), (0x3008, 0x3020, .other), (0x3030, 0x3030, .other),
    (0x3037, 0x3037, .other), (0x303d, 0x303f, .other), (0x30a0, 0x30a0, .other),
    (0x30fb, 0x30fb, .other), (0x31c0, 0x31e3, .other), (0x4dc0, 0x4dff, .other),
    (0xa490, 0xa4c6, .other), (0xa60d, 0xa60f, .other), (0xa673, 0xa67f, .other),
    (0xa700, 0xa721, .other), (0xa788, 0xa788, .other), (0xa828, 0xa82b, .other),
    (0xa838, 0xa839, .other), (0xa874, 0xa877, .other), (0xab6a, 0xab6b, .other),
    (0xfbb2, 0xfbc2, .rightToLeft), (0xfbc3, 0xfe46, .other), (0xfe73, 0xfe73, .rightToLeft),
    (0x10101, 0x10101, .other), (0x10140, 0x1018c, .other), (0x10190, 0x101a0, .other),
    (0x102e1, 0x102fb, .europeanNumber), (0x10800, 0x1091b, .rightToLeft),
    (0x1091f, 0x1091f, .other), (0x10920, 0x10b35, .rightToLeft), (0x10b39, 0x10b3f, .other),
    (0x10b40, 0x10d23, .rightToLeft), (0x10d30, 0x10d49, .arabicNumber),
    (0x10d4a, 0x10d8f, .rightToLeft), (0x10e60, 0x10e7e, .arabicNumber),
    (0x10e80, 0x10ec7, .rightToLeft), (0x10ed0, 0x10ed8, .other), (0x10f00, 0x10ff6, .rightToLeft),
    (0x11052, 0x11065, .other), (0x11660, 0x1166c, .other), (0x11fd5, 0x11ff1, .other),
    (0x16fe2, 0x16fe2, .other), (0x1cc00, 0x1cebf, .other), (0x1d1e9, 0x1d245, .other),
    (0x1d300, 0x1d356, .other), (0x1e2ff, 0x1e2ff, .other), (0x1e800, 0x1ed3d, .rightToLeft),
    (0x1eef0, 0x1f12f, .other), (0x1f16d, 0x1f16f, .other), (0x1f1ad, 0x1f1ad, .other),
    (0x1f260, 0x1fbfa, .other)]

/-- Nonspacing marks that run from left to right like the letters that bear them. -/
def leftToRightMarks : CharRanges :=
  [(0xcbf, 0xcbf), (0xcc6, 0xcc6), (0x11a07, 0x11a08), (0x11c3f, 0x11c3f)]

def direction (c : Char) : Direction :=
  if leftToRightMarks.has c then .leftToRight
  else if isNonspacing c then .nonspacing
  else directions.getD c .leftToRight

/-- The text has characters that run from right to left. -/
def hasRightToLeft (cs : List Char) : Bool :=
  cs.any fun c => direction c ∈ [.rightToLeft, .arabicNumber]

/-- The label runs one way. -/
def runsOneWay (label : List Char) : Bool :=
  let ways := label.map direction
  match ways, (ways.reverse.filter (· ≠ .nonspacing)).head? with
  | .leftToRight :: _, some last =>
    !hasRightToLeft label && last ∈ [.leftToRight, .europeanNumber]
  | .rightToLeft :: _, some last =>
    .leftToRight ∉ ways && last ∈ [.rightToLeft, .europeanNumber, .arabicNumber]
      && !(.europeanNumber ∈ ways && .arabicNumber ∈ ways)
  | [], _ => true
  | _, _ => false

end HostDialing
