import BrokerTenancy.Text.Extending
import BrokerTenancy.Text.Unassigned

/-!
Characters that do not show as themselves: those that have no shape, marks that change the shape of
the character before them, and codes without a character.
-/

namespace BrokerTenancy

/-- Controls, format characters, separators other than the space, private characters, and letters
that only fill, as ranges of their codes in increasing order. -/
def shapelessRanges : List (Nat × Nat) :=
  [(0x0, 0x1F), (0x7F, 0xA0), (0xAD, 0xAD), (0x600, 0x605), (0x61C, 0x61C), (0x6DD, 0x6DD),
    (0x70F, 0x70F), (0x890, 0x891), (0x8E2, 0x8E2), (0x115F, 0x1160), (0x1680, 0x1680),
    (0x180E, 0x180E), (0x2000, 0x200F), (0x2028, 0x202F), (0x205F, 0x2064), (0x2066, 0x206F),
    (0x3000, 0x3000), (0x3164, 0x3164), (0xE000, 0xF8FF), (0xFEFF, 0xFEFF), (0xFFA0, 0xFFA0),
    (0xFFF9, 0xFFFB), (0x110BD, 0x110BD), (0x110CD, 0x110CD), (0x13430, 0x1343F),
    (0x1BCA0, 0x1BCA3), (0x1D173, 0x1D17A), (0xE0001, 0xE0001), (0xE0020, 0xE007F),
    (0xF0000, 0xFFFFD), (0x100000, 0x10FFFD)]

/-- Whether one of some ranges has a code. -/
def isWithin (ranges : List (Nat × Nat)) (code : Nat) : Bool :=
  ranges.any fun range => range.1 ≤ code && code ≤ range.2

/-- Whether a character does not show as itself. -/
def isHidden (character : Char) : Bool :=
  isWithin shapelessRanges character.toNat || isWithin extendingRanges character.toNat ||
    isWithin unassignedRanges character.toNat

end BrokerTenancy
