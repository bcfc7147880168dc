import GivenNames.Unicode.CategoryTable
import GivenNames.Unicode.Runs

/-!
General categories, and the classes of characters that are given by them and a few exceptions.
-/

namespace GivenNames.Unicode

/-- The general categories by their codes. -/
inductive Category where
  | lu | ll | lt | lm | lo
  | mn | mc | me
  | nd | nl | no
  | pc | pd | ps | pe | pi | pf | po
  | sm | sc | sk | so
  | zs | zl | zp
  | cc | cf | cs | co | cn
  deriving DecidableEq, Repr

namespace Category

def all : List Category :=
  [lu, ll, lt, lm, lo, mn, mc, me, nd, nl, no, pc, pd, ps, pe, pi, pf, po, sm, sc, sk, so, zs, zl,
    zp, cc, cf, cs, co, cn]

/-- The two letters that stand for a category. -/
def code : Category → String
  | lu => "Lu" | ll => "Ll" | lt => "Lt" | lm => "Lm" | lo => "Lo"
  | mn => "Mn" | mc => "Mc" | me => "Me"
  | nd => "Nd" | nl => "Nl" | no => "No"
  | pc => "Pc" | pd => "Pd" | ps => "Ps" | pe => "Pe" | pi => "Pi" | pf => "Pf" | po => "Po"
  | sm => "Sm" | sc => "Sc" | sk => "Sk" | so => "So"
  | zs => "Zs" | zl => "Zl" | zp => "Zp"
  | cc => "Cc" | cf => "Cf" | cs => "Cs" | co => "Co" | cn => "Cn"

/-- The category of a code. -/
def ofCode? (code : String) : Option Category :=
  all.find? fun c => c.code == code

/-- The general categories of all code points. -/
def runs : Runs Category :=
  Runs.ofText ofCode? categoryRunText

/-- The general category of a code point. -/
def ofCodePoint (n : Nat) : Category :=
  (runs.find? n).getD cn

end Category

/-- The code points of the given categories. -/
def inCategories (categories : List Category) (n : Nat) : Bool :=
  categories.contains (Category.ofCodePoint n)

/-! ### Letters with case -/

/-- Small letters of other categories than Ll. -/
def otherLowercaseRanges : List (Nat × Nat) :=
  [(0xAA, 0xAA), (0xBA, 0xBA), (0x2B0, 0x2B8), (0x2C0, 0x2C1), (0x2E0, 0x2E4), (0x345, 0x345),
    (0x37A, 0x37A), (0x10FC, 0x10FC), (0x1D2C, 0x1D6A), (0x1D78, 0x1D78), (0x1D9B, 0x1DBF),
    (0x2071, 0x2071), (0x207F, 0x207F), (0x2090, 0x209C), (0x2170, 0x217F), (0x24D0, 0x24E9),
    (0x2C7C, 0x2C7D), (0xA69C, 0xA69D), (0xA770, 0xA770), (0xA7F1, 0xA7F4), (0xA7F8, 0xA7F9),
    (0xAB5C, 0xAB5F), (0xAB69, 0xAB69), (0x10780, 0x10780), (0x10783, 0x10785), (0x10787, 0x107B0),
    (0x107B2, 0x107BA), (0x1E030, 0x1E06D)]

/-- Capital letters of other categories than Lu. -/
def otherUppercaseRanges : List (Nat × Nat) :=
  [(0x2160, 0x216F), (0x24B6, 0x24CF), (0x1F130, 0x1F149), (0x1F150, 0x1F169), (0x1F170, 0x1F189)]

/-- The property Lowercase. -/
def isLowercase (n : Nat) : Bool :=
  inCategories [.ll] n || inRanges otherLowercaseRanges n

/-- The property Uppercase. -/
def isUppercase (n : Nat) : Bool :=
  inCategories [.lu] n || inRanges otherUppercaseRanges n

/-- The property Cased: the code point takes part in the distinction of capital and small. -/
def isCased (n : Nat) : Bool :=
  isLowercase n || isUppercase n || inCategories [.lt] n

/-- Punctuation that does not end a word. -/
def innerPunctuationRanges : List (Nat × Nat) :=
  [(0x27, 0x27), (0x2E, 0x2E), (0x3A, 0x3A), (0xB7, 0xB7), (0x387, 0x387), (0x55F, 0x55F),
    (0x5F4, 0x5F4), (0x2018, 0x2019), (0x2024, 0x2024), (0x2027, 0x2027), (0xFE13, 0xFE13),
    (0xFE52, 0xFE52), (0xFE55, 0xFE55), (0xFF07, 0xFF07), (0xFF0E, 0xFF0E), (0xFF1A, 0xFF1A)]

/-- The property Case_Ignorable: the code point is passed over when the ends of a word are looked
for. -/
def isCaseIgnorable (n : Nat) : Bool :=
  inCategories [.mn, .me, .cf, .lm, .sk] n || inRanges innerPunctuationRanges n

/-! ### Characters that attach or do not show -/

/-- Characters that extend the one before them, of other categories than Mn and Me. -/
def otherGraphemeExtendRanges : List (Nat × Nat) :=
  [(0x9BE, 0x9BE), (0x9D7, 0x9D7), (0xB3E, 0xB3E), (0xB57, 0xB57), (0xBBE, 0xBBE), (0xBD7, 0xBD7),
    (0xCC0, 0xCC0), (0xCC2, 0xCC2), (0xCC7, 0xCC8), (0xCCA, 0xCCB), (0xCD5, 0xCD6), (0xD3E, 0xD3E),
    (0xD57, 0xD57), (0xDCF, 0xDCF), (0xDDF, 0xDDF), (0x1715, 0x1715), (0x1734, 0x1734),
    (0x1B35, 0x1B35), (0x1B3B, 0x1B3B), (0x1B3D, 0x1B3D), (0x1B43, 0x1B44), (0x1BAA, 0x1BAA),
    (0x1BF2, 0x1BF3), (0x200C, 0x200C), (0x302E, 0x302F), (0xA953, 0xA953), (0xA9C0, 0xA9C0),
    (0xFF9E, 0xFF9F), (0x111C0, 0x111C0), (0x11235, 0x11235), (0x1133E, 0x1133E),
    (0x1134D, 0x1134D), (0x11357, 0x11357), (0x113B8, 0x113B8), (0x113C2, 0x113C2),
    (0x113C5, 0x113C5), (0x113C7, 0x113C9), (0x113CF, 0x113CF), (0x114B0, 0x114B0),
    (0x114BD, 0x114BD), (0x115AF, 0x115AF), (0x116B6, 0x116B6), (0x11930, 0x11930),
    (0x1193D, 0x1193D), (0x11F41, 0x11F41), (0x16FF0, 0x16FF1), (0x1D165, 0x1D166),
    (0x1D16D, 0x1D172), (0xE0020, 0xE007F)]

/-- The property Grapheme_Extend. -/
def isGraphemeExtend (n : Nat) : Bool :=
  inCategories [.mn, .me] n || inRanges otherGraphemeExtendRanges n

/-- Whether a code point is a control, a format, a separator other than the space, or stands for no
character that all agree on. -/
def isUnprintable (n : Nat) : Bool :=
  n ≠ 0x20 && inCategories [.cc, .cf, .cs, .co, .cn, .zl, .zp, .zs] n

/-- The letters of Hangul that fill a place and do not show. -/
def isHangulFiller (n : Nat) : Bool :=
  inRanges [(0x115F, 0x1160), (0x3164, 0x3164), (0xFFA0, 0xFFA0)] n

end GivenNames.Unicode
