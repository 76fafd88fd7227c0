import ToolAssistant.Failure
import ToolAssistant.Json.Record
import ToolAssistant.Json.Writer

/-!
# Argument schemas

A schema declares the parameters of a tool in order.  It is told to the oracle as a JSON Schema, and
`Schema.validate` holds raw arguments against it: no undeclared argument, every required one there,
each of its declared type.  An integral double is accepted for an integer and becomes one.
-/

namespace ToolAssistant

/-- The JSON type of a parameter. -/
inductive ParamKind where
  | string
  | integer
  | number
  | boolean
  deriving DecidableEq, Repr

/-- The name of the type in a schema and in messages. -/
def ParamKind.name : ParamKind → String
  | string => "string"
  | integer => "integer"
  | number => "number"
  | boolean => "boolean"

/-- Reads the name of a type. -/
def ParamKind.ofJson? : Json → Option ParamKind :=
  Json.oneOf? ([string, integer, number, boolean].map fun kind => (kind.name, kind))

/-- A declared parameter. -/
structure Param where
  name : String
  kind : ParamKind
  description : String
  required : Bool
  deriving DecidableEq, Repr

/-- A parameter as data. -/
def Param.toJson (param : Param) : Json :=
  .ofFields
    [("name", .string param.name), ("kind", .string param.kind.name),
      ("description", .string param.description), ("required", .bool param.required)]

/-- The parameters of a tool, in order. -/
structure Schema where
  params : List Param
  deriving DecidableEq, Repr

/-- Arguments that a schema has accepted. -/
structure Args where
  values : Fields

namespace Args

/-- The failure for an argument that a tool relies on and that is not there. -/
def absent (key : String) : Failure :=
  .toolExecution ("validated argument '" ++ key ++ "' is absent")

/-- A text argument. -/
def string (args : Args) (key : String) : Except Failure String :=
  match (Fields.get? key args.values).bind Json.string? with
  | some text => .ok text
  | none => .error (absent key)

/-- An integer argument. -/
def int64 (args : Args) (key : String) : Except Failure Int :=
  match (Fields.get? key args.values).bind Json.int64? with
  | some n => .ok n
  | none => .error (absent key)

/-- A truth value that may be missing. -/
def bool? (args : Args) (key : String) : Option Bool :=
  (Fields.get? key args.values).bind Json.bool?

end Args

/-- What a value is called when it has the wrong type. -/
def Json.typeName : Json → String
  | .null => "null"
  | .bool _ => "boolean"
  | .number (.integer _) => "integer"
  | .number (.float _) => "number"
  | .string _ => "string"
  | .array _ => "array"
  | .object _ => "object"

/-- The value as the parameter's type has it, if it is of that type. -/
def ParamKind.accept? : ParamKind → Json → Option Json
  | .string, value@(.string _) => some value
  | .boolean, value@(.bool _) => some value
  | .number, value@(.number _) => some value
  | .integer, .number (.integer n) => if Json.fitsInt64 n then some (.ofInt n) else none
  | .integer, .number (.float x) =>
    (Double.toInteger? x).bind fun n => if Json.fitsInt64 n then some (.ofInt n) else none
  | _, _ => none

namespace Schema

/-- The schema without parameters. -/
def empty : Schema := ⟨[]⟩

/-- Adds a required parameter at the end. -/
def required (schema : Schema) (name : String) (kind : ParamKind) (description : String) :
    Schema :=
  ⟨schema.params ++ [⟨name, kind, description, true⟩]⟩

/-- Adds an optional parameter at the end. -/
def optional (schema : Schema) (name : String) (kind : ParamKind) (description : String) :
    Schema :=
  ⟨schema.params ++ [⟨name, kind, description, false⟩]⟩

/-- The schema as a JSON Schema object. -/
def toJsonSchema (schema : Schema) : Json :=
  let property (param : Param) : String × Json :=
    (param.name,
      .ofFields [("type", .string param.kind.name), ("description", .string param.description)])
  .ofFields
    [("type", .string "object"), ("properties", .ofFields (schema.params.map property)),
      ("required", .ofStrings ((schema.params.filter (·.required)).map (·.name)))]

/-- The schema as data. -/
def toJson (schema : Schema) : Json :=
  .ofFields [("params", .array (schema.params.map Param.toJson))]

/-- Does the schema declare a parameter of this name? -/
def declares (schema : Schema) (name : String) : Bool :=
  schema.params.any (·.name == name)

/-- Checks the parameters in order and collects their values. -/
def collect (raw : Fields) : List Param → Fields → Except String Fields
  | [], values => .ok values
  | param :: rest, values =>
    match Fields.get? param.name raw with
    | none | some .null =>
      if param.required then .error ("missing required argument '" ++ param.name ++ "'")
      else collect raw rest values
    | some value =>
      match param.kind.accept? value with
      | some accepted => collect raw rest (Fields.insert param.name accepted values)
      | none =>
        .error ("argument '" ++ param.name ++ "' must be of type " ++ param.kind.name ++ ", got " ++
          value.typeName)

/-- Holds raw arguments against the schema.  The first undeclared argument is reported before
anything else, then the first parameter that is missing or of the wrong type. -/
def validate (schema : Schema) (tool : String) (raw : Fields) : Except Failure Args :=
  match raw.keys.find? (!schema.declares ·) with
  | some unknown => .error (.toolArgument tool ("unexpected argument '" ++ unknown ++ "'"))
  | none =>
    match collect raw schema.params [] with
    | .ok values => .ok ⟨values⟩
    | .error reason => .error (.toolArgument tool reason)

end Schema

end ToolAssistant
