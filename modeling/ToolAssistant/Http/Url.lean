import ToolAssistant.Http.Percent

/-!
# Web addresses

The address of a resource on a web service.  `Url.read?` accepts addresses of the two schemes that
web services have; it resolves the `.` and `..` segments of the path and escapes what has to be
escaped.  A fragment is passed over, because it is never sent.
-/

namespace ToolAssistant.Http

/-- The address of a resource on a web service. -/
structure Url where
  secure : Bool
  authority : String
  path : String
  query : Option String
  deriving DecidableEq, Repr

namespace Url

/-- Ends a segment of a path. -/
def isSlash (c : Char) : Bool :=
  c == '/' || c == '\\'

/-- Begins the query or the fragment. -/
def endsPath (c : Char) : Bool :=
  c == '?' || c == '#'

/-- The parts of a text between the characters of a class. -/
def splitBy (p : Char → Bool) : List Char → List (List Char)
  | [] => [[]]
  | c :: rest =>
    if p c then [] :: splitBy p rest
    else
      match splitBy p rest with
      | [] => [[c]]
      | part :: more => (c :: part) :: more

/-- The segment with its escaped dots written out. -/
def plainDots : List Char → List Char
  | '%' :: '2' :: e :: rest =>
    if e = 'e' ∨ e = 'E' then '.' :: plainDots rest else '%' :: '2' :: plainDots (e :: rest)
  | c :: rest => c :: plainDots rest
  | [] => []

/-- Is the segment a drive letter, with a colon or a bar after it? -/
def isDrive : List Char → Bool
  | [letter, mark] => letter.isAlpha && (mark == ':' || mark == '|')
  | _ => false

/-- The segments above a directory, the last one first; no drive is ever left. -/
def parents (above : List (List Char)) : List (List Char) :=
  if above.head?.any isDrive then above else above.drop 1

/-- Resolves `.` and `..` against the segments so far, the last one first.  At the end of a path
either of them leaves an empty segment. -/
def resolveDots (above : List (List Char)) : List (List Char) → List (List Char)
  | [] => above.reverse
  | segment :: rest =>
    let closing := if rest.isEmpty then [[]] else []
    if plainDots segment = ['.'] then resolveDots (closing ++ above) rest
    else if plainDots segment = ['.', '.'] then resolveDots (closing ++ parents above) rest
    else resolveDots (segment :: above) rest

/-- The normal form of a path, given what follows its first slash. -/
def normalPath (cs : List Char) : String :=
  let segments := resolveDots [] (splitBy isSlash cs)
  String.ofList (segments.flatMap fun segment => '/' :: escape escapedInPath segment)

/-- The text without the characters that are passed over: control characters and blanks at the
ends, tabs and line breaks anywhere. -/
def significant (text : String) : List Char :=
  let isEdge (c : Char) : Bool := c.toNat ≤ 0x20
  let cs := ((text.toList.dropWhile isEdge).reverse.dropWhile isEdge).reverse
  cs.filter fun c => !(c == '\t' || c == '\n' || c == '\r')

/-- The rest of a text after a scheme and its colon, in any case. -/
def afterScheme? (scheme : String) (cs : List Char) : Option (List Char) :=
  let start := cs.take (scheme.length + 1)
  if String.ofList (start.map Char.toLower) = scheme ++ ":" then some (cs.drop start.length)
  else none

/-- Whether the scheme of an address is the secure one, and what follows its colon. -/
def readScheme? (cs : List Char) : Option (Bool × List Char) :=
  match afterScheme? "http" cs, afterScheme? "https" cs with
  | some rest, _ => some (false, rest)
  | none, some rest => some (true, rest)
  | none, none => none

/-- The query behind a path, up to the fragment. -/
def readQuery? : List Char → Option String
  | '?' :: rest => some (String.ofList (escape escapedInQuery (rest.takeWhile (· != '#'))))
  | _ => none

/-- Reads an address. -/
def read? (text : String) : Option Url := do
  let (secure, cs) ← readScheme? (significant text)
  let cs := cs.dropWhile isSlash
  let authority := cs.takeWhile fun c => !(isSlash c || endsPath c)
  let rest := cs.drop authority.length
  let path := rest.takeWhile fun c => !endsPath c
  if authority.isEmpty then none
  else
    some
      { secure
        authority := (String.ofList authority).toLower
        path := normalPath (path.drop 1)
        query := readQuery? (rest.drop path.length) }

/-- The address with the pairs of a form added to its query. -/
def withForm (url : Url) (pairs : List (String × String)) : Url :=
  let added := String.ofList (formPairs pairs)
  match url.query with
  | none | some "" => { url with query := some added }
  | some query => { url with query := some (query ++ "&" ++ added) }

/-- The path and the query, as they are sent. -/
def target (url : Url) : String :=
  url.path ++
    match url.query with
    | none => ""
    | some query => "?" ++ query

/-- A base address without the slashes at its end. -/
def trimBase (base : String) : String :=
  String.ofList (base.toList.reverse.dropWhile (· == '/')).reverse

end Url

end ToolAssistant.Http
