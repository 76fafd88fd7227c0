import ToolAssistant.Toml.Number
import ToolAssistant.Toml.Table
import ToolAssistant.Toml.Text

/-!
# Reading configuration files

`Toml.read?` reads a whole file as one record, or nothing if it is no such file.  Values are read by
recursion with a fuel that the length of the text bounds.
-/

namespace ToolAssistant.Toml

/-- How many arrays and inline tables may be open at once. -/
def nestingLimit : Nat := 79

/-- The rest of a text after a fixed beginning. -/
def afterStart? : List Char → List Char → Option (List Char)
  | [], cs => some cs
  | e :: expected, c :: cs => if e = c then afterStart? expected cs else none
  | _ :: _, [] => none

mutual

/-- Reads a value; `depth` more arrays and inline tables may be opened. -/
def value? : Nat → (depth : Nat) → List Char → Option (Json × List Char)
  | 0, _, _ => none
  | fuel + 1, depth, cs =>
    match cs with
    | '"' :: _ | '\'' :: _ => do
      let (text, rest) ← text? cs
      some (.string (String.ofList text), rest)
    | '[' :: rest =>
      if depth = 0 then none
      else if rest.head? = some ']' then some (.array [], rest.drop 1)
      else do
        let (items, rest) ← items? fuel (depth - 1) rest
        some (.array items, rest)
    | '\x7b' :: rest =>
      if depth = 0 then none
      else
        match skipBlank rest with
        | '\x7d' :: rest => some (.object [], rest)
        | _ => do
          let (entries, rest) ← pairs? fuel (depth - 1) [] rest
          some (entries.toJson, rest)
    | 't' :: rest => (afterStart? ['r', 'u', 'e'] rest).map fun rest => (.bool true, rest)
    | 'f' :: rest => (afterStart? ['a', 'l', 's', 'e'] rest).map fun rest => (.bool false, rest)
    | cs => number? cs

/-- Reads the items of an array up to its end. -/
def items? : Nat → (depth : Nat) → List Char → Option (List Json × List Char)
  | 0, _, _ => none
  | fuel + 1, depth, cs =>
    match skipGap cs.length cs with
    | ']' :: rest => some ([], rest)
    | cs => do
      let (item, rest) ← value? fuel depth cs
      match skipGap rest.length rest with
      | ',' :: rest =>
        let (items, rest) ← items? fuel depth rest
        some (item :: items, rest)
      | ']' :: rest => some ([item], rest)
      | _ => none

/-- Reads the pairs of an inline table up to its end. -/
def pairs? : Nat → (depth : Nat) → Entries → List Char → Option (Entries × List Char)
  | 0, _, _, _ => none
  | fuel + 1, depth, entries, cs => do
    let (key, rest) ← key? cs
    match rest with
    | '=' :: rest =>
      let (value, rest) ← value? fuel depth (skipBlank rest)
      let entries ← entries.addValue key value
      match skipBlank rest with
      | ',' :: rest => pairs? fuel depth entries rest
      | '\x7d' :: rest => some (entries, rest)
      | _ => none
    | _ => none

end

/-- What has been read of a file: its tables, and the header that values belong to. -/
structure Progress where
  entries : Entries
  header : List String

/-- Reads a header up to the end of its line. -/
def header? (closing : List Char) (cs : List Char) : Option (List String × List Char) := do
  let (parts, rest) ← key? cs
  some (parts, ← lineEnd? (← afterStart? closing rest))

/-- Reads a key and its value up to the end of the line. -/
def pair? (cs : List Char) : Option (List String × Json × List Char) := do
  let (key, rest) ← key? cs
  match rest with
  | '=' :: rest =>
    let (value, rest) ← value? (2 * rest.length + 2) nestingLimit (skipBlank rest)
    some (key, value, ← lineEnd? rest)
  | _ => none

/-- Reads the lines of a file. -/
def lines? : Nat → Progress → List Char → Option Entries
  | 0, _, _ => none
  | fuel + 1, progress, cs =>
    match skipBlank cs with
    | [] => some progress.entries
    | '#' :: rest => do lines? fuel progress (← lineEnd? ('#' :: rest))
    | '[' :: '[' :: rest => do
      let (header, rest) ← header? [']', ']'] rest
      lines? fuel ⟨← progress.entries.openListed header, header⟩ rest
    | '[' :: rest => do
      let (header, rest) ← header? [']'] rest
      lines? fuel ⟨← progress.entries.openTable header, header⟩ rest
    | '\n' :: rest | '\r' :: '\n' :: rest => lines? fuel progress rest
    | cs => do
      let (key, value, rest) ← pair? cs
      lines? fuel { progress with entries := ← progress.entries.addBelow progress.header key value }
        rest

/-- Reads a whole file; a byte order mark in front of it is dropped. -/
def read? (text : String) : Option Json := do
  let cs :=
    match text.toList with
    | '\ufeff' :: rest => rest
    | cs => cs
  (← lines? (cs.length + 1) ⟨[], []⟩ cs).toJson

end ToolAssistant.Toml
