import ToolAssistant.Json.Writer

/-!
# Identifiers

Calls without an identifier of their own and finished turns are given one.  It has the form of a
random identifier of version 4, filled from a serial number, so no two of them are equal.
-/

namespace ToolAssistant.Identifier

/-- The last `count` hexadecimal digits of a number. -/
def hexText (count n : Nat) : String :=
  String.ofList ((List.range count).reverse.map fun place => Json.hexDigit (n / Nat.pow 16 place))

/-- The identifier with a serial number below `2 ^ 48`. -/
def ofSerial (serial : Nat) : String :=
  "00000000-0000-4000-8000-" ++ hexText 12 serial

end ToolAssistant.Identifier
