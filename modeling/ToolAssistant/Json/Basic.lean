/-!
# JSON values

Numbers keep the difference between integers and doubles, because the two are told apart by type
checks and print differently.  The fields of an object are kept in increasing order of their keys,
each key once; `Fields.insert` is the only operation that adds one.
-/

namespace ToolAssistant

/-- A JSON number: an integer of at most 64 bits, or a double. -/
inductive Json.Number where
  | integer (value : Int)
  | float (value : Float)

/-- A JSON value. -/
inductive Json where
  | null
  | bool (value : Bool)
  | number (value : Json.Number)
  | string (value : String)
  | array (items : List Json)
  | object (fields : List (String × Json))

/-- The fields of an object, in increasing order of their keys. -/
abbrev Fields := List (String × Json)

namespace Fields

/-- Puts a field in its place; a field of the same key is replaced. -/
def insert (key : String) (value : Json) : Fields → Fields
  | [] => [(key, value)]
  | (k, v) :: rest =>
    if key < k then (key, value) :: (k, v) :: rest
    else if key = k then (key, value) :: rest
    else (k, v) :: insert key value rest

/-- The value of a key. -/
def get? (key : String) (fields : Fields) : Option Json :=
  fields.lookup key

/-- Inserts fields one after another, so that a later one wins over an earlier one of its key. -/
def ofList (pairs : List (String × Json)) : Fields :=
  pairs.foldl (fun fields pair => insert pair.1 pair.2 fields) []

/-- The keys, in increasing order. -/
def keys (fields : Fields) : List String :=
  fields.map Prod.fst

end Fields

namespace Json

/-- An object with the given fields. -/
def ofFields (pairs : List (String × Json)) : Json :=
  .object (Fields.ofList pairs)

/-- A natural number. -/
def ofNat (n : Nat) : Json :=
  .number (.integer n)

/-- An integer. -/
def ofInt (n : Int) : Json :=
  .number (.integer n)

/-- A double. -/
def ofFloat (x : Float) : Json :=
  .number (.float x)

/-- A list of texts. -/
def ofStrings (texts : List String) : Json :=
  .array (texts.map .string)

/-- Least and greatest signed 64-bit integers. -/
def minInt64 : Int := -9223372036854775808

@[inherit_doc minInt64]
def maxInt64 : Int := 9223372036854775807

/-- Does the integer fit a signed 64-bit word? -/
def fitsInt64 (n : Int) : Bool :=
  minInt64 ≤ n && n ≤ maxInt64

/-- The value of a key, if this is an object that has it. -/
def field? (key : String) : Json → Option Json
  | .object fields => Fields.get? key fields
  | _ => none

/-- The text, if this is one. -/
def string? : Json → Option String
  | .string text => some text
  | _ => none

/-- The truth value, if this is one. -/
def bool? : Json → Option Bool
  | .bool value => some value
  | _ => none

/-- The items, if this is an array. -/
def array? : Json → Option (List Json)
  | .array items => some items
  | _ => none

/-- The fields, if this is an object. -/
def object? : Json → Option Fields
  | .object fields => some fields
  | _ => none

/-- The signed 64-bit integer, if this is one. -/
def int64? : Json → Option Int
  | .number (.integer n) => if fitsInt64 n then some n else none
  | _ => none

/-- The unsigned 64-bit integer, if this is one. -/
def uint64? : Json → Option Nat
  | .number (.integer n) => if 0 ≤ n then some n.toNat else none
  | _ => none

/-- Is this `null`? -/
def isNull : Json → Bool
  | .null => true
  | _ => false

end Json

end ToolAssistant
