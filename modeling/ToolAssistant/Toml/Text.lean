/-!
# Texts and blanks in configuration files

Line breaks, comments, keys and the four kinds of quoted text.  Every reader takes the characters
that are left and gives what it read with the rest, or nothing.
-/

namespace ToolAssistant.Toml

/-- Drops spaces and tabs. -/
def skipBlank (cs : List Char) : List Char :=
  cs.dropWhile fun c => c == ' ' || c == '\t'

/-- Reads a line break. -/
def lineBreak? : List Char → Option (List Char)
  | '\n' :: rest => some rest
  | '\r' :: '\n' :: rest => some rest
  | _ => none

/-- May the character stand in a comment or a literal text?  Control characters other than the tab
may not. -/
def isPrintable (c : Char) : Bool :=
  c == '\t' || (' ' ≤ c && c ≤ '~') || 0x80 ≤ c.toNat

/-- Drops a comment, if there is one. -/
def skipComment : List Char → List Char
  | '#' :: rest => rest.dropWhile isPrintable
  | cs => cs

/-- Reads what may follow a value on its line, and the end of the line. -/
def lineEnd? (cs : List Char) : Option (List Char) :=
  match skipComment (skipBlank cs) with
  | [] => some []
  | rest => lineBreak? rest

/-- Drops blanks, line breaks and comments; each round takes at least one character. -/
def skipGap : Nat → List Char → List Char
  | 0, cs => cs
  | fuel + 1, cs =>
    match cs with
    | ' ' :: rest | '\t' :: rest | '\n' :: rest | '\r' :: '\n' :: rest => skipGap fuel rest
    | '#' :: rest => skipGap fuel (rest.dropWhile isPrintable)
    | rest => rest

/-! ## Quoted texts -/

/-- The value of a hexadecimal digit. -/
def hexDigit? (c : Char) : Option Nat :=
  if c.isDigit then some (c.toNat - '0'.toNat)
  else if 'a' ≤ c ∧ c ≤ 'f' then some (c.toNat - 'a'.toNat + 10)
  else if 'A' ≤ c ∧ c ≤ 'F' then some (c.toNat - 'A'.toNat + 10)
  else none

/-- Reads a character by its number, of so many hexadecimal digits. -/
def numberedChar? (digits : Nat) (cs : List Char) : Option (Char × List Char) := do
  let values ← (cs.take digits).mapM hexDigit?
  let n := values.foldl (fun n digit => n * 16 + digit) 0
  if values.length = digits ∧ n.isValidChar then some (Char.ofNat n, cs.drop digits) else none

/-- Reads what follows a backslash. -/
def escape? : List Char → Option (Char × List Char)
  | 'b' :: rest => some ('\x08', rest)
  | 't' :: rest => some ('\t', rest)
  | 'n' :: rest => some ('\n', rest)
  | 'f' :: rest => some ('\x0c', rest)
  | 'r' :: rest => some ('\r', rest)
  | '"' :: rest => some ('"', rest)
  | '\\' :: rest => some ('\\', rest)
  | 'u' :: rest => numberedChar? 4 rest
  | 'U' :: rest => numberedChar? 8 rest
  | _ => none

/-- Reads the rest of a text between quotes. -/
def basicText? : Nat → List Char → Option (List Char × List Char)
  | 0, _ => none
  | _ + 1, [] => none
  | fuel + 1, c :: rest =>
    if c = '"' then some ([], rest)
    else if c = '\\' then do
      let (c, rest) ← escape? rest
      let (text, rest) ← basicText? fuel rest
      some (c :: text, rest)
    else if isPrintable c then do
      let (text, rest) ← basicText? fuel rest
      some (c :: text, rest)
    else none

/-- Reads the rest of a text between apostrophes. -/
def literalText? (cs : List Char) : Option (List Char × List Char) :=
  let text := cs.takeWhile fun c => c != '\'' && isPrintable c
  match cs.drop text.length with
  | '\'' :: rest => some (text, rest)
  | _ => none

/-- Drops a line break at the start of a text of several lines. -/
def skipFirstBreak (cs : List Char) : List Char :=
  (lineBreak? cs).getD cs

/-- After a backslash at the end of a line: the text from the next character on that is no blank. -/
def continuedLine? (cs : List Char) : Option (List Char) := do
  let rest ← lineBreak? (skipBlank cs)
  let blanks (c : Char) : Bool := c == ' ' || c == '\t' || c == '\n'
  -- A carriage return counts only in front of a line feed.
  let rec skip : Nat → List Char → List Char
    | 0, cs => cs
    | fuel + 1, cs =>
      match cs with
      | '\r' :: '\n' :: more => skip fuel more
      | c :: more => if blanks c then skip fuel more else c :: more
      | [] => []
  some (skip rest.length rest)

/-- Reads the rest of a text of several lines, which ends with three marks.  Up to two more marks in
front of them belong to the text, and so do one or two marks anywhere else.  `escapes` says whether
the backslash has a meaning. -/
def linesText? (mark : Char) (escapes : Bool) : Nat → List Char → Option (List Char × List Char)
  | 0, _ => none
  | _ + 1, [] => none
  | fuel + 1, c :: rest =>
    if c = mark then
      let marks := (c :: rest).takeWhile (· == mark)
      let after := (c :: rest).drop marks.length
      if marks.length ≥ 3 then
        let kept := min (marks.length - 3) 2
        some (marks.take kept, (c :: rest).drop (kept + 3))
      else do
        let (text, rest) ← linesText? mark escapes fuel after
        some (marks ++ text, rest)
    else if escapes && c == '\\' then
      match continuedLine? rest with
      | some rest => linesText? mark escapes fuel rest
      | none => do
        let (c, rest) ← escape? rest
        let (text, rest) ← linesText? mark escapes fuel rest
        some (c :: text, rest)
    else
      match lineBreak? (c :: rest) with
      | some rest => do
        let (text, rest) ← linesText? mark escapes fuel rest
        some ('\n' :: text, rest)
      | none =>
        if isPrintable c then do
          let (text, rest) ← linesText? mark escapes fuel rest
          some (c :: text, rest)
        else none

/-- Reads a quoted text of one or several lines. -/
def text? : List Char → Option (List Char × List Char)
  | '"' :: '"' :: '"' :: rest => linesText? '"' true (rest.length + 1) (skipFirstBreak rest)
  | '\'' :: '\'' :: '\'' :: rest => linesText? '\'' false (rest.length + 1) (skipFirstBreak rest)
  | '"' :: rest => basicText? (rest.length + 1) rest
  | '\'' :: rest => literalText? rest
  | _ => none

/-! ## Keys -/

/-- The characters of a bare key. -/
def isKeyChar (c : Char) : Bool :=
  c.isAlphanum || c == '-' || c == '_'

/-- Reads one part of a key. -/
def keyPart? : List Char → Option (String × List Char)
  | '"' :: rest => do
    let (text, rest) ← basicText? (rest.length + 1) rest
    some (String.ofList text, rest)
  | '\'' :: rest => do
    let (text, rest) ← literalText? rest
    some (String.ofList text, rest)
  | cs =>
    let part := cs.takeWhile isKeyChar
    if part.isEmpty then none else some (String.ofList part, cs.drop part.length)

/-- One more than the number of parts that a key may have. -/
def keyPartLimit : Nat := 80

/-- Reads the parts of a key, with points and blanks between them. -/
def keyParts? : Nat → List Char → Option (List String × List Char)
  | 0, _ => none
  | fuel + 1, cs => do
    let (part, rest) ← keyPart? (skipBlank cs)
    match skipBlank rest with
    | '.' :: rest =>
      let (parts, rest) ← keyParts? fuel rest
      some (part :: parts, rest)
    | rest => some ([part], rest)

/-- Reads a key with the blanks around it. -/
def key? (cs : List Char) : Option (List String × List Char) :=
  keyParts? (keyPartLimit - 1) cs

end ToolAssistant.Toml
