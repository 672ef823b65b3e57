/-
**Characters of XML documents.**

The classes of the grammar of XML: white space, the characters of names, and the characters that a
document may hold at all, which depend on the version it declares.
-/

namespace ApkFeatures.Xml

/-- The versions of XML. -/
inductive Version where
  /-- Version 1.0. -/
  | v10
  /-- Version 1.1. -/
  | v11
deriving DecidableEq

/-- The code point lies in one of the ranges. -/
def inRanges (ranges : List (Nat × Nat)) (c : Char) : Bool :=
  ranges.any fun range => range.1 ≤ c.toNat && c.toNat ≤ range.2

/-- White space between the parts of a tag. -/
def isSpace (c : Char) : Bool := c = ' ' || c = '\t' || c = '\n' || c = '\r'

/-- A name may begin with the character. -/
def beginsName (c : Char) : Bool :=
  c.isAlpha || c = '_' || c = ':' ||
    inRanges [(0xC0, 0xD6), (0xD8, 0xF6), (0xF8, 0x2FF), (0x370, 0x37D), (0x37F, 0x1FFF),
      (0x200C, 0x200D), (0x2070, 0x218F), (0x2C00, 0x2FEF), (0x3001, 0xD7FF), (0xF900, 0xFDCF),
      (0xFDF0, 0xFFFD), (0x10000, 0xEFFFF)] c

/-- A name may go on with the character. -/
def continuesName (c : Char) : Bool :=
  beginsName c || c.isDigit || c = '-' || c = '.' ||
    inRanges [(0xB7, 0xB7), (0x300, 0x36F), (0x203F, 0x2040)] c

/-- A document may hold the character, possibly only as a reference. -/
def isAllowed (version : Version) (c : Char) : Bool :=
  match version with
  | .v10 => isSpace c || inRanges [(0x20, 0xD7FF), (0xE000, 0xFFFD), (0x10000, 0x10FFFF)] c
  | .v11 => inRanges [(0x1, 0xD7FF), (0xE000, 0xFFFD), (0x10000, 0x10FFFF)] c

/-- A document may hold the character as itself: version 1.1 asks for a reference to a control
character. -/
def isLiteral (version : Version) (c : Char) : Bool :=
  isAllowed version c &&
    match version with
    | .v10 => true
    | .v11 => !inRanges [(0x1, 0x8), (0xB, 0xC), (0xE, 0x1F), (0x7F, 0x84), (0x86, 0x9F)] c

end ApkFeatures.Xml
