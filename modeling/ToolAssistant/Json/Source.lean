import ToolAssistant.Json.Basic

/-!
# JSON text as it was read

A `Source` is what the grammar of JSON says a text holds, before anyone asks what it means.  Keys
may be repeated, a text is a list of units some of which may be halves of surrogate pairs, and a
number may be out of range.  A reader of fixed fields passes over whatever stands in the fields it
does not know; `Source.value?` on the other hand needs all of it to make sense.
-/

namespace ToolAssistant.Json

/-- What a text holds by the grammar alone. -/
inductive Source where
  | null
  | bool (value : Bool)
  | number (value : Option Number)
  | text (units : List Nat)
  | array (items : List Source)
  | object (fields : List (List Nat × Source))

/-- One more than the number of arrays and objects that may be open at once. -/
def nestingLimit : Nat := 128

/-- Puts the two halves of every surrogate pair together; a half on its own is refused. -/
def charsOfUnits? : List Nat → Option (List Char)
  | [] => some []
  | [unit] => if 0xD800 ≤ unit ∧ unit ≤ 0xDFFF then none else some [Char.ofNat unit]
  | high :: low :: rest =>
    if 0xD800 ≤ high ∧ high ≤ 0xDBFF then
      if 0xDC00 ≤ low ∧ low ≤ 0xDFFF then
        (charsOfUnits? rest).map
          (Char.ofNat (0x10000 + (high - 0xD800) * 0x400 + (low - 0xDC00)) :: ·)
      else none
    else if 0xDC00 ≤ high ∧ high ≤ 0xDFFF then none
    else (charsOfUnits? (low :: rest)).map (Char.ofNat high :: ·)

/-- The text that a list of units spells. -/
def textOfUnits? (units : List Nat) : Option String :=
  (charsOfUnits? units).map String.ofList

namespace Source

mutual

/-- The value of a source; `depth` is how many levels may still be entered, less one. -/
def valueAt? (depth : Nat) : Source → Option Json
  | .null => some .null
  | .bool value => some (.bool value)
  | .number value => value.map .number
  | .text units => (textOfUnits? units).map .string
  | .array items => if depth ≤ 1 then none else (itemsAt? (depth - 1) items).map .array
  | .object fields =>
    if depth ≤ 1 then none else (fieldsAt? (depth - 1) fields).map Json.ofFields

/-- The values of the items of an array. -/
def itemsAt? (depth : Nat) : List Source → Option (List Json)
  | [] => some []
  | item :: rest => do some ((← valueAt? depth item) :: (← itemsAt? depth rest))

/-- The fields of an object. -/
def fieldsAt? (depth : Nat) : List (List Nat × Source) → Option (List (String × Json))
  | [] => some []
  | (key, value) :: rest => do
    some ((← textOfUnits? key, ← valueAt? depth value) :: (← fieldsAt? depth rest))

end

/-- The value of a source, if all of it makes sense. -/
def value? (source : Source) : Option Json :=
  valueAt? nestingLimit source

end Source

end ToolAssistant.Json
