/-
**Blank characters.**

The characters with the Unicode property White_Space, and the removal of them from both ends of a
text.
-/

namespace CallConsole

/-- The twenty-five code points with the property White_Space. -/
def blankCodes : List Nat :=
  [0x09, 0x0a, 0x0b, 0x0c, 0x0d, 0x20, 0x85, 0xa0, 0x1680, 0x2000, 0x2001, 0x2002, 0x2003, 0x2004,
    0x2005, 0x2006, 0x2007, 0x2008, 0x2009, 0x200a, 0x2028, 0x2029, 0x202f, 0x205f, 0x3000]

/-- The character is white space. -/
def isBlank (c : Char) : Bool := blankCodes.contains c.toNat

/-- The text without the blanks at its two ends. -/
def trimBlanks (text : List Char) : List Char :=
  ((text.dropWhile isBlank).reverse.dropWhile isBlank).reverse

end CallConsole
