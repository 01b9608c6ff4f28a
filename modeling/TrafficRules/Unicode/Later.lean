/-! # Later letters and numbers

The letters and numbers that came with version 17, as gap texts (`Ranges.ofText`). -/

namespace TrafficRules.Unicode

/-- Letters that are no letters in version 16. -/
def laterAlphabeticText : String :=
  "88f 3cc 7f 9af1+1 2 1 1c 614e+19 56b+2 32+1 c64+7 248+2b 50c4+18 2+18 11e+4 1801+7 509+15
    61+72 58cd+1e 1+15 8+1 d03a+5 1762+b 5502+10c9"

/-- Numbers that are no numbers in version 16. -/
def laterNumericText : String := "11de0+9 520a+2"

end TrafficRules.Unicode
