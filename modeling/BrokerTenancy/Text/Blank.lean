/-!
White space in the sense of the Unicode property `White_Space`, and trimming it.
-/

namespace BrokerTenancy

/-- The characters with the property `White_Space`. -/
def isBlank (character : Char) : Bool :=
  let code := character.toNat
  (0x09 ≤ code && code ≤ 0x0D) || code == 0x20 || code == 0x85 || code == 0xA0 ||
    code == 0x1680 || (0x2000 ≤ code && code ≤ 0x200A) || code == 0x2028 || code == 0x2029 ||
    code == 0x202F || code == 0x205F || code == 0x3000

def trimFront (characters : List Char) : List Char := characters.dropWhile isBlank

def trim (characters : List Char) : List Char :=
  (trimFront (trimFront characters).reverse).reverse

def isBlankText (text : String) : Bool := text.toList.all isBlank

end BrokerTenancy
