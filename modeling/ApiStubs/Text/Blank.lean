/-!
# Blank characters

The blanks are the white-space and line-end characters of the pattern language:
tab to carriage return, the space separators, the two line separators and the
byte-order mark.  U+0085, U+200B and U+180E are not blank.
-/

namespace ApiStubs
namespace Text

def isBlankCode (n : Nat) : Bool :=
  (9 ≤ n && n ≤ 13) || n == 0x20 || n == 0xA0 || n == 0x1680 ||
    (0x2000 ≤ n && n ≤ 0x200A) || n == 0x2028 || n == 0x2029 ||
    n == 0x202F || n == 0x205F || n == 0x3000 || n == 0xFEFF

def isBlank (c : Char) : Bool :=
  isBlankCode c.toNat

/-- Every character is blank; true of the empty text. -/
def allBlank (text : String) : Bool :=
  text.toList.all isBlank

def trimStart (text : String) : String :=
  String.ofList (text.toList.dropWhile isBlank)

/-- The characters up to the last one that is not blank. -/
def dropBlankEnd (cs : List Char) : List Char :=
  (cs.reverse.dropWhile isBlank).reverse

def trimEnd (text : String) : String :=
  String.ofList (dropBlankEnd text.toList)

def trim (text : String) : String :=
  trimEnd (trimStart text)

end Text
end ApiStubs
