import Mathlib.Data.List.Induction
import ToolAssistant.Tool.Schema

/-!
# Arguments that a schema has accepted

What validation lets through, apart from how it goes about it: `Schema.Accepts` says of raw
arguments that each is declared and that every parameter is satisfied, and `Schema.taken` gives the
arguments that are then handed on.  `validate_eq_ok_iff` says that validation is exactly this, and
`Schema.taken_fits` that what it hands on fits the schema.

## Strategy

The validator is a loop that inserts one field after another.  Everything about its result is said
through `Fields.get?`, which sees an insertion as an update at one key.
-/

namespace ToolAssistant

/-! ## Fields as a map -/

namespace Fields

@[simp]
theorem get?_nil (key : String) : get? key [] = none :=
  rfl

theorem get?_cons (key k : String) (value : Json) (rest : Fields) :
    get? key ((k, value) :: rest) = if key = k then some value else get? key rest := by
  rw [get?, List.lookup_cons]
  by_cases heq : key = k
  · simp [heq]
  · simp [beq_eq_false_iff_ne.mpr heq, heq, get?]

/-- Inserting a field changes the value of its key and of no other. -/
theorem get?_insert (key k : String) (value : Json) (fields : Fields) :
    get? key (insert k value fields) = if key = k then some value else get? key fields := by
  induction fields with
  | nil => simp [insert, get?_cons]
  | cons field rest ih =>
      obtain ⟨k', value'⟩ := field
      unfold insert
      split_ifs <;> simp_all [get?_cons]

/-- Of several fields of one key, the last one given stays. -/
theorem get?_ofList (key : String) (pairs : List (String × Json)) :
    get? key (ofList pairs) = pairs.reverse.lookup key := by
  induction pairs using List.reverseRecOn with
  | nil => rfl
  | append_singleton pairs pair ih =>
      rw [ofList, List.foldl_append, List.foldl_cons, List.foldl_nil, ← ofList, get?_insert, ih,
        List.reverse_append, List.reverse_singleton, List.singleton_append, ← get?, ← get?_cons]
      rfl

theorem mem_keys_iff {key : String} {fields : Fields} :
    key ∈ keys fields ↔ ∃ value, get? key fields = some value := by
  induction fields with
  | nil => simp [keys]
  | cons field rest ih =>
      obtain ⟨k, value⟩ := field
      rw [get?_cons]
      by_cases heq : key = k
      · simp [keys, heq]
      · simpa [keys, heq] using ih

end Fields

theorem Json.field?_ofFields (key : String) (pairs : List (String × Json)) :
    (Json.ofFields pairs).field? key = pairs.reverse.lookup key :=
  Fields.get?_ofList key pairs

/-! ## What a schema asks for -/

/-- The value is of the parameter's type; an integer is one of 64 bits. -/
def ParamKind.Holds : ParamKind → Json → Prop
  | .string, .string _ => True
  | .boolean, .bool _ => True
  | .number, .number _ => True
  | .integer, .number (.integer n) => Json.fitsInt64 n = true
  | _, _ => False

/-- The raw value of a parameter; `null` counts as none. -/
def Param.given? (param : Param) (raw : Fields) : Option Json :=
  (Fields.get? param.name raw).filter fun value => !value.isNull

/-- The value that is handed on for a parameter. -/
def Param.taken? (param : Param) (raw : Fields) : Option Json :=
  (param.given? raw).bind param.kind.accept?

/-- A value that is given is of the parameter's type, and one that is required is given. -/
def Param.Satisfied (param : Param) (raw : Fields) : Prop :=
  (param.required = true → (param.given? raw).isSome) ∧
    ∀ value, param.given? raw = some value → (param.kind.accept? value).isSome

namespace Schema

/-- Every argument is declared and every parameter satisfied. -/
structure Accepts (schema : Schema) (raw : Fields) : Prop where
  declared : ∀ key ∈ raw.keys, ∃ param ∈ schema.params, param.name = key
  satisfied : ∀ param ∈ schema.params, param.Satisfied raw

/-- The arguments that are handed on: the value of each parameter that has one. -/
def taken (params : List Param) (raw values : Fields) : Fields :=
  params.foldl (fun values param =>
    (param.taken? raw).elim values fun value => Fields.insert param.name value values) values

/-- Arguments fit a schema: only declared keys, a value of the declared type for every key, and a
value for every required parameter. -/
structure Fits (schema : Schema) (args : Args) : Prop where
  declared : ∀ key ∈ args.values.keys, ∃ param ∈ schema.params, param.name = key
  typed : ∀ param ∈ schema.params, ∀ value, Fields.get? param.name args.values = some value →
    param.kind.Holds value
  complete : ∀ param ∈ schema.params, param.required = true →
    ∃ value, Fields.get? param.name args.values = some value

end Schema

theorem ParamKind.holds_of_accept? {kind : ParamKind} {value accepted : Json}
    (haccept : kind.accept? value = some accepted) : kind.Holds accepted := by
  unfold accept? at haccept
  split at haccept
  · cases haccept
    trivial
  · cases haccept
    trivial
  · cases haccept
    trivial
  · split at haccept
    · next hfits =>
        cases haccept
        exact hfits
    · cases haccept
  · obtain ⟨n, -, hn⟩ := Option.bind_eq_some_iff.mp haccept
    split at hn
    · next hfits =>
        cases hn
        exact hfits
    · cases hn
  · cases haccept

/-! ## One parameter -/

section Parameter

variable {raw : Fields} {param : Param}

/-- A parameter without a value is not there or `null`. -/
theorem Param.given?_eq_none_iff :
    param.given? raw = none ↔
      Fields.get? param.name raw = none ∨ Fields.get? param.name raw = some .null := by
  unfold given?
  cases Fields.get? param.name raw with
  | none => simp
  | some value => cases value <;> simp [Option.filter, Json.isNull]

/-- A parameter with a value has one that is not `null`. -/
theorem Param.given?_eq_some_iff {value : Json} :
    param.given? raw = some value ↔
      Fields.get? param.name raw = some value ∧ value ≠ .null := by
  unfold given?
  cases Fields.get? param.name raw with
  | none => simp
  | some found =>
      rw [Option.filter_eq_some_iff]
      cases value <;> simp [Json.isNull]

/-- A parameter without a value is satisfied unless it is required, and nothing is taken for it. -/
theorem Param.satisfied_of_absent (hgiven : param.given? raw = none) :
    (param.Satisfied raw ↔ param.required = false) ∧ param.taken? raw = none := by
  simp [Satisfied, taken?, hgiven]

/-- A parameter with a value is satisfied if the value is accepted, and that is what is taken. -/
theorem Param.satisfied_of_given {value : Json} (hgiven : param.given? raw = some value) :
    (param.Satisfied raw ↔ (param.kind.accept? value).isSome) ∧
      param.taken? raw = param.kind.accept? value := by
  simp [Satisfied, taken?, hgiven]

end Parameter

/-! ## The validator -/

namespace Schema

section Loop

variable {raw : Fields} {param : Param} {params : List Param} {values : Fields}

theorem collect_of_absent (hgiven : param.given? raw = none) :
    collect raw (param :: params) values =
      if param.required then .error ("missing required argument '" ++ param.name ++ "'")
      else collect raw params values := by
  rw [collect.eq_def]
  rcases Param.given?_eq_none_iff.mp hgiven with hget | hget <;> simp only [hget]

theorem collect_of_given {value : Json} (hgiven : param.given? raw = some value) :
    collect raw (param :: params) values =
      (param.kind.accept? value).elim
        (.error ("argument '" ++ param.name ++ "' must be of type " ++ param.kind.name ++
          ", got " ++ value.typeName))
        fun accepted => collect raw params (Fields.insert param.name accepted values) := by
  obtain ⟨hget, hvalue⟩ := Param.given?_eq_some_iff.mp hgiven
  cases value with
  | null => exact absurd rfl hvalue
  | _ =>
      simp only [collect, hget]
      split <;> simp [*]

end Loop

theorem taken_cons (raw : Fields) (param : Param) (params : List Param) (values : Fields) :
    taken (param :: params) raw values =
      taken params raw
        ((param.taken? raw).elim values fun value => Fields.insert param.name value values) :=
  rfl

/-- The validator's loop accepts exactly when every parameter is satisfied, and then has taken the
value of each. -/
theorem collect_eq_ok_iff (raw : Fields) (params : List Param) (values result : Fields) :
    collect raw params values = .ok result ↔
      (∀ param ∈ params, param.Satisfied raw) ∧ taken params raw values = result := by
  induction params generalizing values with
  | nil => simp [collect, taken]
  | cons param params ih =>
      rw [List.forall_mem_cons]
      cases hgiven : param.given? raw with
      | none =>
          obtain ⟨hsatisfied, htaken⟩ := Param.satisfied_of_absent hgiven
          rw [collect_of_absent hgiven, hsatisfied, taken_cons, htaken]
          cases param.required with
          | true => simp
          | false => simpa using ih values
      | some value =>
          obtain ⟨hsatisfied, htaken⟩ := Param.satisfied_of_given hgiven
          rw [collect_of_given hgiven, hsatisfied, taken_cons, htaken]
          cases param.kind.accept? value with
          | none => simp
          | some accepted => simpa using ih (Fields.insert param.name accepted values)

/-- **Validation accepts exactly the arguments that the schema accepts, and hands on what is taken
of them.** -/
theorem validate_eq_ok_iff {schema : Schema} {tool : String} {raw : Fields} {args : Args} :
    schema.validate tool raw = .ok args ↔
      schema.Accepts raw ∧ args = ⟨taken schema.params raw []⟩ := by
  unfold validate
  cases hunknown : raw.keys.find? (!schema.declares ·) with
  | some unknown =>
      have hdeclares := List.find?_some hunknown
      have hmem := List.mem_of_find?_eq_some hunknown
      refine iff_of_false (by simp) fun haccepts => ?_
      obtain ⟨param, hparam, hname⟩ := haccepts.1.declared unknown hmem
      have : schema.declares unknown = true :=
        List.any_eq_true.mpr ⟨param, hparam, beq_iff_eq.mpr hname⟩
      simp [this] at hdeclares
  | none =>
      have hdeclared : ∀ key ∈ raw.keys, ∃ param ∈ schema.params, param.name = key := by
        intro key hkey
        have hknown := List.find?_eq_none.mp hunknown key hkey
        simpa [declares] using hknown
      cases hcollect : collect raw schema.params [] with
      | ok values =>
          obtain ⟨hsatisfied, rfl⟩ := (collect_eq_ok_iff ..).mp hcollect
          have haccepts : schema.Accepts raw := ⟨hdeclared, hsatisfied⟩
          simp [haccepts, eq_comm]
      | error reason =>
          refine iff_of_false (by simp) fun haccepts => ?_
          have hok := (collect_eq_ok_iff raw schema.params [] _).mpr ⟨haccepts.1.satisfied, rfl⟩
          rw [hcollect] at hok
          exact absurd hok (by simp)

/-- Arguments that are not accepted are reported as faulty, under the tool's name. -/
theorem validate_of_not_accepts {schema : Schema} {raw : Fields} (tool : String)
    (hrejects : ¬schema.Accepts raw) :
    ∃ reason, schema.validate tool raw = .error (.toolArgument tool reason) := by
  cases hvalidate : schema.validate tool raw with
  | ok args => exact absurd (validate_eq_ok_iff.mp hvalidate).1 hrejects
  | error failure =>
      unfold validate at hvalidate
      split at hvalidate
      · exact ⟨_, hvalidate.symm⟩
      · split at hvalidate
        · cases hvalidate
        · exact ⟨_, hvalidate.symm⟩

/-! ## What is handed on -/

/-- A key that is no parameter's name keeps its value. -/
theorem get?_taken_of_notMem {key : String} {params : List Param} (raw values : Fields)
    (hkey : key ∉ params.map (·.name)) :
    Fields.get? key (taken params raw values) = Fields.get? key values := by
  induction params generalizing values with
  | nil => rfl
  | cons param params ih =>
      rw [List.map_cons, List.mem_cons, not_or] at hkey
      rw [taken_cons, ih _ hkey.2]
      cases param.taken? raw with
      | none => rfl
      | some value => simp [Fields.get?_insert, hkey.1]

/-- A parameter's key has the value that is taken for it, if its name is not repeated. -/
theorem get?_taken {params : List Param} (raw values : Fields)
    (hnames : (params.map (·.name)).Nodup) {param : Param} (hparam : param ∈ params) :
    Fields.get? param.name (taken params raw values) =
      (param.taken? raw).or (Fields.get? param.name values) := by
  induction params generalizing values with
  | nil => exact absurd hparam (by simp)
  | cons first params ih =>
      rw [List.map_cons, List.nodup_cons] at hnames
      rw [taken_cons]
      -- What is taken later overwrites what was taken before, but only under another name.
      rcases List.mem_cons.mp hparam with rfl | hlater
      · rw [get?_taken_of_notMem raw _ hnames.1]
        cases param.taken? raw with
        | none => rfl
        | some value => simp [Fields.get?_insert]
      · have hne : param.name ≠ first.name := fun heq =>
          hnames.1 (heq ▸ List.mem_map_of_mem hlater)
        rw [ih _ hnames.2 hlater]
        cases first.taken? raw with
        | none => rfl
        | some value => simp [Fields.get?_insert, hne]

/-- **Arguments that are handed on fit the schema**, if no two of its parameters share a name. -/
theorem taken_fits {schema : Schema} {raw : Fields} (hnames : (schema.params.map (·.name)).Nodup)
    (haccepts : schema.Accepts raw) : schema.Fits ⟨taken schema.params raw []⟩ := by
  have hvalue : ∀ param ∈ schema.params,
      Fields.get? param.name (taken schema.params raw []) = param.taken? raw := by
    intro param hparam
    rw [get?_taken raw [] hnames hparam, Fields.get?_nil, Option.or_none]
  refine ⟨?_, ?_, ?_⟩
  · intro key hkey
    obtain ⟨value, hget⟩ := Fields.mem_keys_iff.mp hkey
    by_contra hundeclared
    rw [get?_taken_of_notMem raw [] (by simpa using hundeclared)] at hget
    cases hget
  · intro param hparam value hget
    rw [hvalue param hparam] at hget
    obtain ⟨given, -, haccept⟩ := Option.bind_eq_some_iff.mp hget
    exact ParamKind.holds_of_accept? haccept
  · intro param hparam hrequired
    obtain ⟨hgiven, haccepted⟩ := haccepts.satisfied param hparam
    obtain ⟨value, hvalue'⟩ := Option.isSome_iff_exists.mp (hgiven hrequired)
    obtain ⟨accepted, haccept⟩ := Option.isSome_iff_exists.mp (haccepted value hvalue')
    refine ⟨accepted, ?_⟩
    rw [hvalue param hparam, Param.taken?, hvalue', Option.bind_some, haccept]

end Schema

end ToolAssistant
