import ToolAssistant.Text.Blank
import ToolAssistant.Text.Numeric

/-!
# Variables from a file

A file of variables adds to the environment what is not set there yet.  Values may be quoted, run
over several lines, and refer to other variables.  Reading stops at the first line that makes no
sense; what was set before it stays set.
-/

namespace ToolAssistant

/-- Variables with their values. -/
abbrev Environment := List (String × String)

namespace Dotenv

/-! ## Lines -/

/-- Where a reader of lines stands. -/
inductive LineState where
  | plain
  | blank
  | escape
  | literal
  | literalEscape
  | quoted
  | quotedEscape
  | comment
  deriving DecidableEq, Repr

/-- Outside all quotes: what a character begins. -/
def LineState.opening (c : Char) : LineState :=
  if c = '\\' then .escape else if c = '"' then .quoted else if c = '\'' then .literal else .plain

/-- The state after a character. -/
def LineState.next (c : Char) : LineState → LineState
  | blank => if c = '#' then .comment else opening c
  | plain => if Text.isBlank c && c != '\n' && c != '\r' then .blank else opening c
  | escape => .plain
  | quoted => if c = '\\' then .quotedEscape else if c = '"' then .plain else .quoted
  | quotedEscape => .quoted
  | literal => if c = '\\' then .literalEscape else if c = '\'' then .plain else .literal
  | literalEscape => .literal
  | comment => .comment

/-- The state after a line, and what stands in front of a comment. -/
def scanLine (state : LineState) : List Char → LineState × List Char
  | [] => (state, [])
  | c :: rest =>
    let after := state.next c
    if after = .comment then (.comment, [])
    else
      let (final, kept) := scanLine after rest
      (final, c :: kept)

/-- Cuts a text after its line feeds. -/
def cutLines : List Char → List (List Char)
  | [] => []
  | c :: rest =>
    if c = '\n' then [c] :: cutLines rest
    else
      match cutLines rest with
      | [] => [[c]]
      | line :: more => (c :: line) :: more

/-- A line without the break at its end. -/
def dropBreak (line : List Char) : List Char :=
  match line.reverse with
  | '\n' :: '\r' :: rest => rest.reverse
  | '\n' :: rest => rest.reverse
  | _ => line

/-- Joins lines while quotes are open.  Where they are never closed there is nothing. -/
def joinLines (state : LineState) (held : List Char) : List (List Char) → List (Option (List Char))
  | [] => if state = .plain then [] else [none]
  | line :: rest =>
    let whole := held ++ line
    if (whole.dropWhile Text.isBlank).head? = some '#' then some [] :: joinLines .plain [] rest
    else
      match scanLine state line with
      | (.plain, _) => some (dropBreak whole) :: joinLines .plain [] rest
      | (.comment, kept) => some (held ++ kept) :: joinLines .plain [] rest
      | (state, _) => joinLines state whole rest

/-! ## Values -/

/-- How a reference to a variable is written. -/
inductive Reference where
  | bare (name : List Char)
  | braced (name : List Char)

/-- Where a reader of a value stands. -/
structure ValueState where
  output : List Char := []
  quoted : Bool := false
  literal : Bool := false
  escaped : Bool := false
  ended : Bool := false
  reference : Option Reference := none

/-- What follows a name and an equals sign in a variable that is written as `NAME=VALUE`.  The name
may hold an equals sign of its own. -/
def after? (name : List Char) (pair : String × String) : Option (List Char) :=
  let start := name ++ ['=']
  let text := pair.1.toList ++ '=' :: pair.2.toList
  if start.isPrefixOf text then some (text.drop start.length) else none

/-- The value that a name refers to: that of the environment, or else the one that the file gave. -/
def refer (environment given : Environment) (name : List Char) : List Char :=
  match environment.findSome? (after? name) with
  | some value => value
  | none => ((given.lookup (String.ofList name)).getD "").toList

/-- Reads a character inside a reference. -/
def stepReference (value : List Char → List Char) (state : ValueState) (c : Char) :
    Reference → ValueState
  | .bare name =>
    if Text.isAlphanumeric c then { state with reference := some (.bare (name ++ [c])) }
    else if c = '\x7b' ∧ name = [] then { state with reference := some (.braced []) }
    else
      let output := state.output ++ value name
      if c = '$' then { state with output, reference := some (.bare []) }
      else { state with output := output ++ [c], reference := none }
  | .braced name =>
    if c = '\x7d' then { state with output := state.output ++ value name, reference := none }
    else { state with reference := some (.braced (name ++ [c])) }

/-- Reads a character of a value; `value` looks up what a name refers to. -/
def stepValue (value : List Char → List Char) (state : ValueState) (c : Char) :
    Option ValueState :=
  let push : ValueState := { state with output := state.output ++ [c] }
  if state.ended then
    -- Only blanks may follow; a comment has been cut off.
    if c = ' ' ∨ c = '\t' then some state else none
  else if state.escaped then
    if c = 'n' then some { state with output := state.output ++ ['\n'], escaped := false }
    else if "\\'\"$ ".contains c then some { push with escaped := false }
    else none
  else if state.literal then
    some (if c = '\'' then { state with literal := false } else push)
  else
    match state.reference with
    | some reference => some (stepReference value state c reference)
    | none =>
      if c = '$' then some { state with reference := some (.bare []) }
      else if state.quoted ∧ c = '"' then some { state with quoted := false }
      else if c = '\\' then some { state with escaped := true }
      else if state.quoted then some push
      else if c = '\'' then some { state with literal := true }
      else if c = '"' then some { state with quoted := true }
      else if c = ' ' ∨ c = '\t' then some { state with ended := true }
      else some push

/-- Reads the characters of a value up to a comment. -/
def readValue (value : List Char → List Char) : ValueState → List Char → Option ValueState
  | state, [] => some state
  | state, c :: rest =>
    if state.ended && c == '#' then some state
    else (stepValue value state c).bind fun state => readValue value state rest

/-- Reads a value to its end. -/
def value? (value : List Char → List Char) (cs : List Char) : Option String := do
  let state ← readValue value {} cs
  if state.quoted || state.literal then none
  else
    match state.reference with
    | some (.braced _) => none
    | some (.bare name) => some (String.ofList (state.output ++ value name))
    | none => some (String.ofList state.output)

/-! ## Assignments -/

/-- Reads the name of a variable. -/
def name? (cs : List Char) : Option (String × List Char) :=
  if cs.head?.any fun c => c.isAlpha || c == '_' then
    let name := cs.takeWhile fun c => c.isAlphanum || c == '_' || c == '.'
    some (String.ofList name, cs.drop name.length)
  else none

/-- Drops blanks. -/
def skipBlank (cs : List Char) : List Char :=
  cs.dropWhile Text.isBlank

/-- Reads the name on a line, which `export` may precede, and its equals sign. -/
def target? (cs : List Char) : Option (String × List Char) := do
  let (name, rest) ← name? cs
  match skipBlank rest with
  | '=' :: rest => some (name, rest)
  | rest =>
    if name = "export" then
      let (name, rest) ← name? rest
      match skipBlank rest with
      | '=' :: rest => some (name, rest)
      | _ => none
    else none

/-- What a line says. -/
inductive Line where
  | nothing
  | assignment (name value : String)
  | nonsense

/-- Reads a line; `value` looks up what a name refers to. -/
def readLine (value : List Char → List Char) (line : List Char) : Line :=
  let cs := skipBlank (Text.dropEndWhile Text.isBlank line)
  if cs.isEmpty ∨ cs.head? = some '#' then .nothing
  else
    match target? cs with
    | none => .nonsense
    | some (name, rest) =>
      let rest := skipBlank rest
      if rest.isEmpty ∨ rest.head? = some '#' then .assignment name ""
      else
        match value? value rest with
        | some text => .assignment name text
        | none => .nonsense

/-- Adds the variables of lines to an environment; `given` holds what the lines before them said. -/
def addLines (environment given : Environment) : List (Option (List Char)) → Environment
  | [] => environment
  | none :: _ => environment
  | some line :: rest =>
    match readLine (refer environment given) line with
    | .nonsense => environment
    | .nothing => addLines environment given rest
    | .assignment name value =>
      let isSet := (environment.lookup name).isSome
      addLines (if isSet then environment else (name, value) :: environment)
        ((name, value) :: given) rest

/-- Every run of characters in a text that may be the name of a variable. -/
def namesIn (text : String) : List String :=
  let isPart (c : Char) : Bool := Text.isAlphanumeric c || c == '_' || c == '.'
  ((text.toList.splitOnP (!isPart ·)).filter (!·.isEmpty)).map String.ofList

/-- Adds the variables of a file to an environment; a byte order mark in front of it is dropped. -/
def add (environment : Environment) (text : String) : Environment :=
  let cs :=
    match text.toList with
    | '\ufeff' :: rest => rest
    | cs => cs
  addLines environment [] (joinLines .plain [] (cutLines cs))

end Dotenv

end ToolAssistant
