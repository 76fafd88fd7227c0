import ToolAssistant.Proofs.Decimal.Integral
import ToolAssistant.Proofs.Tool.Arguments

/-!
# The schema that is told

A schema has two readers.  The validator goes by its parameters; the oracle is told a JSON Schema
object and goes by that.  `JsonSchema.Admits` is the second reading: it looks at nothing but the
object, and takes `properties`, `required` and the names of types as JSON Schema means them.

The two agree (`told_schema_decides`).  So two schemas that are told alike accept the same
arguments: nothing that the validator goes by is lost in the telling.

## Strategy

The parameters have different names, so `properties` holds the property of each of them under its
name and nothing else (`property?_told`), and each clause of the reading is a clause of
`Schema.Accepts` for one parameter.
-/

namespace ToolAssistant

/-- The number that a JSON number stands for. -/
def Json.Number.value? : Json.Number → Option ℚ
  | .integer n => some n
  | .float x => Double.value? x

namespace JsonSchema

/-- Is a value of the JSON type of this name?  An integer is a number without a fractional part, as
long as a signed word of 64 bits can hold it. -/
def HasType (type : String) : Json → Prop
  | .string _ => type = "string"
  | .bool _ => type = "boolean"
  | .number number => type = "number" ∨
      type = "integer" ∧ ∃ n : ℤ, number.value? = some (n : ℚ) ∧ -2 ^ 63 ≤ n ∧ n < 2 ^ 63
  | _ => False

/-- What a schema object says about a key. -/
def property? (schema : Json) (key : String) : Option Json :=
  (schema.field? "properties").bind (Json.field? key)

/-- A schema object, read by itself, lets these arguments through. -/
structure Admits (schema : Json) (raw : Fields) : Prop where
  listed : ∀ key ∈ raw.keys, (property? schema key).isSome
  present : ∀ names, schema.field? "required" = some (.array names) →
    ∀ name, .string name ∈ names → ∃ value, Fields.get? name raw = some value ∧ value ≠ .null
  typed : ∀ key value, Fields.get? key raw = some value → value ≠ .null →
    ∃ property type, property? schema key = some property ∧
      property.field? "type" = some (.string type) ∧ HasType type value

end JsonSchema

open JsonSchema

/-! ## Types -/

theorem Json.fitsInt64_iff (n : ℤ) : fitsInt64 n = true ↔ -2 ^ 63 ≤ n ∧ n < 2 ^ 63 := by
  unfold fitsInt64 minInt64 maxInt64
  rw [Bool.and_eq_true, decide_eq_true_iff, decide_eq_true_iff]
  omega

theorem hasType_integer_iff (number : Json.Number) :
    HasType "integer" (.number number) ↔
      ∃ n : ℤ, number.value? = some (n : ℚ) ∧ Json.fitsInt64 n = true := by
  have hname : ("integer" : String) ≠ "number" := by decide
  simp only [HasType, hname, false_or, true_and, Json.fitsInt64_iff]

/-- The validator takes a value for a parameter exactly when it is of the type that is told. -/
theorem ParamKind.accept?_isSome_iff (kind : ParamKind) (value : Json) :
    (kind.accept? value).isSome ↔ HasType kind.name value := by
  cases kind with
  | string => cases value <;> simp [accept?, HasType, name]
  | number => cases value <;> simp [accept?, HasType, name]
  | boolean => cases value <;> simp [accept?, HasType, name]
  | integer =>
      cases value with
      | number number =>
          rw [name, hasType_integer_iff]
          cases number with
          | integer n =>
              have hvalue (m : ℤ) : (Json.Number.integer n).value? = some (m : ℚ) ↔ n = m := by
                rw [Json.Number.value?, Option.some.injEq, Int.cast_inj]
              simp only [accept?, hvalue, exists_eq_left']
              split <;> simp [*]
          | float x =>
              have hvalue (n : ℤ) : (Json.Number.float x).value? = some (n : ℚ) ↔
                  Double.toInteger? x = some n := (Double.toInteger?_eq_some_iff x n).symm
              simp only [accept?, hvalue]
              cases Double.toInteger? x with
              | none => simp
              | some n =>
                  simp only [Option.bind_some, Option.some.injEq, exists_eq_left']
                  split <;> simp [*]
      | _ => simp [accept?, HasType, name]

/-! ## Properties -/

/-- What is told of a parameter. -/
def Param.property (param : Param) : Json :=
  .ofFields [("type", .string param.kind.name), ("description", .string param.description)]

theorem Param.property_type (param : Param) :
    param.property.field? "type" = some (.string param.kind.name) := by
  rw [property, Json.field?_ofFields]
  rfl

/-- With different keys, no field is lost to another. -/
theorem Fields.get?_ofList_eq_some_iff {pairs : List (String × Json)}
    (hkeys : (pairs.map Prod.fst).Nodup) (key : String) (value : Json) :
    Fields.get? key (Fields.ofList pairs) = some value ↔ (key, value) ∈ pairs := by
  rw [Fields.get?_ofList, List.lookup_eq_some_iff]
  constructor
  · rintro ⟨later, earlier, hsplit, -⟩
    rw [← List.mem_reverse, hsplit]
    exact List.mem_append_right later List.mem_cons_self
  · intro hmem
    obtain ⟨later, earlier, hsplit⟩ := List.append_of_mem (List.mem_reverse.mpr hmem)
    refine ⟨later, earlier, hsplit, ?_⟩
    rw [← List.nodup_reverse, ← List.map_reverse, hsplit, List.map_append, List.map_cons,
      List.nodup_append] at hkeys
    intro pair hpair
    have hne : pair.1 ≠ key := hkeys.2.2 pair.1 (List.mem_map_of_mem hpair) key List.mem_cons_self
    simpa using hne.symm

namespace Schema

variable {schema : Schema}

/-- Under a key the schema object has the property of the parameter of this name. -/
theorem property?_told (hnames : (schema.params.map (·.name)).Nodup) (key : String)
    (property : Json) :
    property? schema.toJsonSchema key = some property ↔
      ∃ param ∈ schema.params, param.name = key ∧ param.property = property := by
  let pairs := schema.params.map fun param => (param.name, param.property)
  have hproperties : schema.toJsonSchema.field? "properties" = some (.ofFields pairs) := by
    rw [toJsonSchema, Json.field?_ofFields]
    rfl
  have hkeys : (pairs.map Prod.fst).Nodup := by
    rw [List.map_map]
    exact hnames
  rw [property?, hproperties, Option.bind_some]
  refine (Fields.get?_ofList_eq_some_iff hkeys key property).trans ?_
  simp only [pairs, List.mem_map, Prod.mk.injEq]

theorem mem_required_iff (schema : Schema) (name : String) :
    Json.string name ∈ ((schema.params.filter (·.required)).map (·.name)).map Json.string ↔
      ∃ param ∈ schema.params, param.required = true ∧ param.name = name := by
  simp only [List.mem_map, List.mem_filter, Json.string.injEq, exists_eq_right, and_assoc]

theorem required_told (schema : Schema) :
    schema.toJsonSchema.field? "required" =
      some (.ofStrings ((schema.params.filter (·.required)).map (·.name))) := by
  rw [toJsonSchema, Json.field?_ofFields]
  rfl

/-! ## The two readings -/

theorem admits_of_accepts (hnames : (schema.params.map (·.name)).Nodup) {raw : Fields}
    (haccepts : schema.Accepts raw) : Admits schema.toJsonSchema raw where
  listed key hkey := by
    obtain ⟨param, hparam, hname⟩ := haccepts.declared key hkey
    rw [(property?_told hnames key param.property).mpr ⟨param, hparam, hname, rfl⟩]
    rfl
  present names htold name hname := by
    rw [required_told, Option.some.injEq, Json.ofStrings, Json.array.injEq] at htold
    rw [← htold, mem_required_iff] at hname
    obtain ⟨param, hparam, hrequired, rfl⟩ := hname
    have hgiven := (haccepts.satisfied param hparam).1 hrequired
    obtain ⟨value, hvalue⟩ := Option.isSome_iff_exists.mp hgiven
    exact ⟨value, Param.given?_eq_some_iff.mp hvalue⟩
  typed key value hget hvalue := by
    obtain ⟨param, hparam, rfl⟩ := haccepts.declared key (Fields.mem_keys_iff.mpr ⟨value, hget⟩)
    refine ⟨param.property, param.kind.name, ?_, param.property_type, ?_⟩
    · exact (property?_told hnames param.name param.property).mpr ⟨param, hparam, rfl, rfl⟩
    · rw [← ParamKind.accept?_isSome_iff]
      exact (haccepts.satisfied param hparam).2 value (Param.given?_eq_some_iff.mpr ⟨hget, hvalue⟩)

theorem accepts_of_admits (hnames : (schema.params.map (·.name)).Nodup) {raw : Fields}
    (hadmits : Admits schema.toJsonSchema raw) : schema.Accepts raw where
  declared key hkey := by
    obtain ⟨property, hproperty⟩ := Option.isSome_iff_exists.mp (hadmits.listed key hkey)
    obtain ⟨param, hparam, hname, -⟩ := (property?_told hnames key property).mp hproperty
    exact ⟨param, hparam, hname⟩
  satisfied param hparam := by
    constructor
    · intro hrequired
      have hmem := (mem_required_iff schema param.name).mpr ⟨param, hparam, hrequired, rfl⟩
      obtain ⟨value, hvalue⟩ := hadmits.present _ (required_told schema) param.name hmem
      rw [Param.given?_eq_some_iff.mpr hvalue]
      rfl
    · intro value hgiven
      obtain ⟨hget, hvalue⟩ := Param.given?_eq_some_iff.mp hgiven
      obtain ⟨property, type, hproperty, htype, htyped⟩ :=
        hadmits.typed param.name value hget hvalue
      -- The property under this name is the one of this very parameter.
      have hown := (property?_told hnames param.name param.property).mpr ⟨param, hparam, rfl, rfl⟩
      rw [hown, Option.some.injEq] at hproperty
      rw [← hproperty, param.property_type, Option.some.injEq, Json.string.injEq] at htype
      rw [ParamKind.accept?_isSome_iff, htype]
      exact htyped

theorem validates_iff_admits (hnames : (schema.params.map (·.name)).Nodup) (tool : String)
    (raw : Fields) :
    (∃ args, schema.validate tool raw = .ok args) ↔ Admits schema.toJsonSchema raw := by
  constructor
  · rintro ⟨args, hvalidate⟩
    exact admits_of_accepts hnames (validate_eq_ok_iff.mp hvalidate).1
  · intro hadmits
    exact ⟨_, validate_eq_ok_iff.mpr ⟨accepts_of_admits hnames hadmits, rfl⟩⟩

/-- **The validator accepts exactly the arguments that the schema object, as it is told, lets
through.**  So schemas that are told alike accept the same arguments. -/
theorem told_schema_decides {schema other : Schema}
    (hnames : (schema.params.map (·.name)).Nodup)
    (hothers : (other.params.map (·.name)).Nodup) :
    (∀ tool raw,
      (∃ args, schema.validate tool raw = .ok args) ↔ Admits schema.toJsonSchema raw) ∧
    (schema.toJsonSchema = other.toJsonSchema → ∀ tool otherTool raw,
      (∃ args, schema.validate tool raw = .ok args) ↔
        ∃ args, other.validate otherTool raw = .ok args) := by
  refine ⟨validates_iff_admits hnames, ?_⟩
  intro halike tool otherTool raw
  calc (∃ args, schema.validate tool raw = .ok args)
      ↔ Admits schema.toJsonSchema raw := validates_iff_admits hnames tool raw
    _ ↔ Admits other.toJsonSchema raw := by rw [halike]
    _ ↔ ∃ args, other.validate otherTool raw = .ok args :=
        (validates_iff_admits hothers otherTool raw).symm

/-- A forecast needs a city and may be asked for a number of days. -/
def forecast : Schema :=
  ⟨[⟨"city", .string, "City name", true⟩, ⟨"days", .integer, "Forecast days", false⟩]⟩

/-- The order of the parameters is not told; seven days may be written `7.0`, and `2 ^ 63` days are
too many. -/
theorem told_schema_decides_forecast :
    let swapped : Schema := ⟨forecast.params.reverse⟩
    let week : Fields := [("city", .string "Pune"), ("days", .ofFloat 7.0)]
    let tooLong : Fields := [("city", .string "Pune"), ("days", .ofFloat 9223372036854775808.0)]
    (forecast.params.map (·.name)).Nodup ∧ (swapped.params.map (·.name)).Nodup ∧
      forecast.toJsonSchema = swapped.toJsonSchema ∧
      Admits forecast.toJsonSchema week ∧ ¬Admits forecast.toJsonSchema tooLong ∧
      ∃ args, swapped.validate "get_weather" week = .ok args := by
  intro swapped week tooLong
  have hnames : (forecast.params.map (·.name)).Nodup := by decide
  have hothers : (swapped.params.map (·.name)).Nodup := by decide
  have halike : forecast.toJsonSchema = swapped.toJsonSchema := rfl
  have hweek : ∃ args, forecast.validate "get_weather" week = .ok args := ⟨_, rfl⟩
  have htooLong : forecast.validate "get_weather" tooLong =
      .error (.toolArgument "get_weather"
        "argument 'days' must be of type integer, got number") := rfl
  obtain ⟨hdecides, hsame⟩ := told_schema_decides hnames hothers
  refine ⟨hnames, hothers, halike, (hdecides "get_weather" week).mp hweek, ?_,
    (hsame halike "get_weather" "get_weather" week).mp hweek⟩
  rw [← hdecides "get_weather" tooLong, htooLong]
  rintro ⟨args, hargs⟩
  cases hargs

end Schema

end ToolAssistant
