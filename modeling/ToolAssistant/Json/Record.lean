import ToolAssistant.Json.Source
import ToolAssistant.Decimal.Double

/-!
# Records in JSON

A record is written as an object, but an array of its fields in order is read as well.  Fields that
the record does not have are passed over.  A field may be left out of an object when it is optional
or has a default; at the end of an array only a field with a default may be missing.
-/

namespace ToolAssistant.Json

/-- The fields of a record that were given, by name. -/
structure Record (α : Type) where
  positional : Bool
  fields : List (String × α)

namespace Record

variable {α β : Type}

/-- A field that has to be there. -/
def required (record : Record α) (name : String) (decode : α → Option β) : Option β := do
  decode (← record.fields.lookup name)

/-- A field with a default. -/
def withDefault (record : Record α) (name : String) (default : β) (decode : α → Option β) :
    Option β :=
  match record.fields.lookup name with
  | some value => decode value
  | none => some default

/-- A field that may be left out of an object or be `null`; `decode` reads the `null` too. -/
def optional (record : Record α) (name : String) (decode : α → Option (Option β)) :
    Option (Option β) :=
  match record.fields.lookup name with
  | some value => decode value
  | none => if record.positional then none else some none

end Record

/-- The fields of a record from its value: the named ones of an object, or an array's items in the
order of the names. -/
def record? (names : List String) : Json → Option (Record Json)
  | .object fields => some ⟨false, fields⟩
  | .array items => if items.length ≤ names.length then some ⟨true, names.zip items⟩ else none
  | _ => none

/-- A value, or nothing for `null`. -/
def orNull {β : Type} (decode : Json → Option β) : Json → Option (Option β)
  | .null => some none
  | value => (decode value).map some

/-- A double as data; one that is infinite or no number at all becomes `null`. -/
def ofDouble (x : Float) : Json :=
  if Double.isFinite x then ofFloat x else .null

/-- The double that a number is or is rounded to. -/
def Number.toFloat : Number → Float
  | .integer n => Double.ofInt n
  | .float x => x

/-- The double, if this is a number. -/
def float? : Json → Option Float
  | .number value => some value.toFloat
  | _ => none

/-- A list of values that are all read in the same way. -/
def listOf? {β : Type} (decode : Json → Option β) : Json → Option (List β)
  | .array items => items.mapM decode
  | _ => none

/-- One of several names; an object with the name as its only key and `null` under it is read
as well. -/
def oneOf? {β : Type} (choices : List (String × β)) : Json → Option β
  | .string name => choices.lookup name
  | .object [(name, .null)] => choices.lookup name
  | _ => none

namespace Source

/-- The text, if this is one. -/
def string? : Source → Option String
  | .text units => textOfUnits? units
  | _ => none

/-- The double, if this is a number in range. -/
def float? : Source → Option Float
  | .number (some value) => some value.toFloat
  | _ => none

/-- A value, or nothing for `null`. -/
def orNull {β : Type} (decode : Source → Option β) : Source → Option (Option β)
  | .null => some none
  | value => (decode value).map some

/-- A list of values that are all read in the same way. -/
def listOf? {β : Type} (decode : Source → Option β) : Source → Option (List β)
  | .array items => items.mapM decode
  | _ => none

/-- The fields with known names; every key has to be a text, and no known key may be repeated. -/
def knownFields? (names : List String) :
    List (List Nat × Source) → Option (List (String × Source))
  | [] => some []
  | (key, value) :: rest => do
    let key ← textOfUnits? key
    let fields ← knownFields? names rest
    if !names.contains key then some fields
    else if (fields.lookup key).isSome then none
    else some ((key, value) :: fields)

/-- The fields of a record from its source. -/
def record? (names : List String) : Source → Option (Record Source)
  | .object fields => (knownFields? names fields).map (⟨false, ·⟩)
  | .array items => if items.length ≤ names.length then some ⟨true, names.zip items⟩ else none
  | _ => none

end Source

end ToolAssistant.Json
