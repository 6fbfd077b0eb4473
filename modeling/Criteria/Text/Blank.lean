/-! White space as the Unicode property of that name has it. -/

namespace Criteria

/-- The twenty-five characters with the Unicode property White_Space. -/
def isBlank (c : Char) : Bool :=
  let point := c.toNat
  (0x09 ≤ point && point ≤ 0x0D) || point = 0x20 || point = 0x85 || point = 0xA0
    || point = 0x1680 || (0x2000 ≤ point && point ≤ 0x200A)
    || point = 0x2028 || point = 0x2029 || point = 0x202F || point = 0x205F || point = 0x3000

end Criteria
