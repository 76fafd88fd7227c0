/-!
# Lines in, text out

The input of a session is a list of lines, some of which may not be text at all.  Its output may
have room for only so many bytes; what does not fit is cut off and the session learns of it.
-/

namespace ToolAssistant

/-- A line of input, or nothing where the bytes of the line are no text. -/
abbrev InputLine := Option String

/-- Cuts bytes into lines.  A line ends with a line feed, before which a carriage return is dropped;
nothing follows the last line feed. -/
def splitLines (bytes : List UInt8) : List (List UInt8) :=
  let lines := bytes.splitOnP (· == 10)
  if lines.getLast? = some [] then lines.dropLast else lines

/-- A line without the carriage return at its end. -/
def dropReturn (line : List UInt8) : List UInt8 :=
  if line.getLast? = some 13 then line.dropLast else line

/-- The lines of an input. -/
def inputLines (bytes : ByteArray) : List InputLine :=
  (splitLines bytes.toList).map fun line => String.fromUTF8? ⟨(dropReturn line).toArray⟩

/-- Text written so far, and how many more bytes there is room for. -/
structure Output where
  text : String
  room : Option Nat

namespace Output

/-- An output without bounds. -/
def unbounded : Output := ⟨"", none⟩

/-- The longest beginning of a text that takes at most so many bytes; a character that is cut in two
shows as a replacement character. -/
def cut : Nat → List Char → List Char
  | _, [] => []
  | room, c :: rest =>
    if c.utf8Size ≤ room then c :: cut (room - c.utf8Size) rest
    else if room = 0 then [] else ['\ufffd']

/-- Writes a text; says whether all of it fitted. -/
def write (output : Output) (text : String) : Bool × Output :=
  match output.room with
  | none => (true, { output with text := output.text ++ text })
  | some room =>
    if text.utf8ByteSize ≤ room then (true, ⟨output.text ++ text, some (room - text.utf8ByteSize)⟩)
    else (false, ⟨output.text ++ String.ofList (cut room text.toList), some 0⟩)

end Output

end ToolAssistant
