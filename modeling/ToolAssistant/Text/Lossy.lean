/-!
# Bytes that may not be text

Reads bytes as UTF-8 where they may be broken: every longest run of bytes that only begins a
character, and every byte that begins none, is read as the replacement character.
-/

namespace ToolAssistant.Text

/-- What stands for bytes that are no text. -/
def replacement : Char := '\ufffd'

/-- The part of a character's number that its first byte gives, and the closed ranges of the bytes
that have to follow. -/
def firstByte? (byte : UInt8) : Option (Nat × List (UInt8 × UInt8)) :=
  let rest : UInt8 × UInt8 := (0x80, 0xBF)
  if byte < 0x80 then some (byte.toNat, [])
  else if byte < 0xC2 then none
  else if byte < 0xE0 then some (byte.toNat - 0xC0, [rest])
  else if byte < 0xF0 then
    let second := if byte = 0xE0 then (0xA0, 0xBF) else if byte = 0xED then (0x80, 0x9F) else rest
    some (byte.toNat - 0xE0, [second, rest])
  else if byte < 0xF5 then
    let second := if byte = 0xF0 then (0x90, 0xBF) else if byte = 0xF4 then (0x80, 0x8F) else rest
    some (byte.toNat - 0xF0, [second, rest, rest])
  else none

/-- Reads bytes; `number` and `awaited` belong to a character that has been begun. -/
def readLossy (number : Nat) (awaited : List (UInt8 × UInt8)) : List UInt8 → List Char
  | [] => if awaited.isEmpty then [] else [replacement]
  | byte :: bytes =>
    let begun :=
      match firstByte? byte with
      | none => replacement :: readLossy 0 [] bytes
      | some (number, []) => Char.ofNat number :: readLossy 0 [] bytes
      | some (number, awaited) => readLossy number awaited bytes
    match awaited with
    | [] => begun
    | (low, high) :: more =>
      if low ≤ byte ∧ byte ≤ high then
        let number := number * 64 + (byte.toNat - 0x80)
        if more.isEmpty then Char.ofNat number :: readLossy 0 [] bytes
        else readLossy number more bytes
      else replacement :: begun

/-- The text of bytes. -/
def ofBytes (bytes : List UInt8) : String := String.ofList (readLossy 0 [] bytes)

end ToolAssistant.Text
