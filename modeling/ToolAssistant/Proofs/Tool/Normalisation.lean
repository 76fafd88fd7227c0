import ToolAssistant.Proofs.Json.Fields
import ToolAssistant.Proofs.Tool.Rendering

/-!
# What validation makes of arguments

`Normalises` compares the arguments that a validation hands on with the raw ones: the same keys but
for those that are `null`, the same values but for those of integer parameters, and there the same
number, written as an integer.  A second validation changes nothing any more, since each value is
one that its parameter takes as it is (`ParamKind.Holds.accept?`).

`Faults` says which reason a refusal gives.  An undeclared key comes before anything else, and the
least of several is named; after that the parameters count in the order of their declaration.  For
the least key the raw fields have to be in order, as those of every object are
(`Fields.ordered_ofList`).

## Strategy

Accepted arguments are known already: they are `taken` (`validate_eq_ok_iff`), and each value is
read off from the parameter of its name (`get?_taken`).  What is new here is the way a refusal goes.
The loop `collect` is at a parameter that is satisfied and goes on, or at one that fails and stops
(`collect_of_satisfied`, `collect_of_fails`); so it stops at the first one that fails
(`collect_eq_error_iff`).
-/

namespace ToolAssistant

open JsonSchema

/-! ## One value -/

namespace ParamKind

variable {kind : ParamKind} {value accepted : Json}

/-- A value of a parameter's type is taken as it is. -/
theorem Holds.accept? (hholds : kind.Holds value) : kind.accept? value = some value := by
  unfold Holds at hholds
  split at hholds
  · rfl
  · rfl
  · rfl
  · exact if_pos hholds
  · exact hholds.elim

theorem Holds.ne_null (hholds : kind.Holds value) : value ≠ .null := by
  rintro rfl
  cases kind <;> exact hholds

/-- Only an integer is ever rewritten. -/
theorem eq_of_accept? (hkind : kind ≠ .integer) (haccept : kind.accept? value = some accepted) :
    accepted = value := by
  unfold ParamKind.accept? at haccept
  split at haccept <;> simp_all

/-- For an integer the number is taken that the value stands for. -/
theorem accept?_integer (haccept : ParamKind.integer.accept? value = some accepted) :
    ∃ (number : Json.Number) (n : ℤ), value = .number number ∧ number.value? = some (n : ℚ) ∧
      accepted = .ofInt n ∧ Json.fitsInt64 n = true := by
  cases value with
  | number number =>
      cases number with
      | integer n =>
          obtain ⟨hfits, htaken⟩ := Option.ite_none_right_eq_some.mp haccept
          exact ⟨.integer n, n, rfl, rfl, (Option.some.inj htaken).symm, hfits⟩
      | float x =>
          obtain ⟨n, hinteger, hn⟩ := Option.bind_eq_some_iff.mp haccept
          obtain ⟨hfits, htaken⟩ := Option.ite_none_right_eq_some.mp hn
          have hvalue := (Double.toInteger?_eq_some_iff x n).mp hinteger
          exact ⟨.float x, n, rfl, hvalue, (Option.some.inj htaken).symm, hfits⟩
  | _ => cases haccept

end ParamKind

/-! ## Reading arguments -/

namespace Args

variable {args : Args} {key : String}

theorem string_eq_ok {text : String} (hget : Fields.get? key args.values = some (.string text)) :
    args.string key = .ok text := by
  simp only [string, hget, Option.bind_some, Json.string?]

theorem int64_eq_ok {n : ℤ} (hget : Fields.get? key args.values = some (.ofInt n))
    (hfits : Json.fitsInt64 n = true) : args.int64 key = .ok n := by
  simp only [int64, hget, Option.bind_some, Json.ofInt, Json.int64?, if_pos hfits]

theorem bool?_eq_some {truth : Bool} (hget : Fields.get? key args.values = some (.bool truth)) :
    args.bool? key = some truth := by
  simp only [bool?, hget, Option.bind_some, Json.bool?]

end Args

/-! ## One parameter -/

namespace Param

variable {param : Param} {raw : Fields}

/-- A parameter fails when it is required and has no value, or when it has one that is not of its
type; the reason names the parameter. -/
inductive Fails (param : Param) (raw : Fields) : String → Prop
  | missing (hrequired : param.required = true)
      (hnone : ∀ value, Fields.get? param.name raw = some value → value = .null) :
      Fails param raw ("missing required argument '" ++ param.name ++ "'")
  | illTyped {value : Json} (hget : Fields.get? param.name raw = some value)
      (hvalue : value ≠ .null) (htype : ¬HasType param.kind.name value) :
      Fails param raw ("argument '" ++ param.name ++ "' must be of type " ++ param.kind.name ++
        ", got " ++ value.typeName)

theorem taken?_eq_some_iff {accepted : Json} :
    param.taken? raw = some accepted ↔
      ∃ value, Fields.get? param.name raw = some value ∧ value ≠ .null ∧
        param.kind.accept? value = some accepted := by
  rw [taken?, Option.bind_eq_some_iff]
  simp only [given?_eq_some_iff, and_assoc]

theorem given?_eq_none_of_null
    (hnone : ∀ value, Fields.get? param.name raw = some value → value = .null) :
    param.given? raw = none := by
  by_contra hsome
  obtain ⟨value, hgiven⟩ := Option.ne_none_iff_exists'.mp hsome
  obtain ⟨hget, hvalue⟩ := given?_eq_some_iff.mp hgiven
  exact hvalue (hnone value hget)

/-- A parameter is satisfied exactly when it does not fail. -/
theorem satisfied_iff : param.Satisfied raw ↔ ∀ reason, ¬param.Fails raw reason := by
  constructor
  · rintro ⟨hcomplete, htyped⟩ reason hfails
    cases hfails with
    | missing hrequired hnone =>
        have hgiven := hcomplete hrequired
        rw [given?_eq_none_of_null hnone] at hgiven
        cases hgiven
    | illTyped hget hvalue htype =>
        have haccept := htyped _ (given?_eq_some_iff.mpr ⟨hget, hvalue⟩)
        exact htype ((ParamKind.accept?_isSome_iff ..).mp haccept)
  · intro hsound
    constructor
    · intro hrequired
      by_contra hnone
      refine hsound _ (.missing hrequired fun value hget => ?_)
      by_contra hvalue
      rw [given?_eq_some_iff.mpr ⟨hget, hvalue⟩] at hnone
      exact hnone rfl
    · intro value hgiven
      obtain ⟨hget, hvalue⟩ := given?_eq_some_iff.mp hgiven
      rw [ParamKind.accept?_isSome_iff]
      by_contra htype
      exact hsound _ (.illTyped hget hvalue htype)

/-- Without a reason to fail the parameter is satisfied, so there is a reason if it is not. -/
theorem exists_fails (hunsatisfied : ¬param.Satisfied raw) : ∃ reason, param.Fails raw reason := by
  rw [satisfied_iff] at hunsatisfied
  push Not at hunsatisfied
  exact hunsatisfied

end Param

namespace Schema

/-! ## The way of a refusal -/

/-- A refusal gives one of these reasons: the least undeclared key, or, if all keys are declared,
what is wrong with the first parameter that fails. -/
inductive Faults (schema : Schema) (raw : Fields) : String → Prop
  | undeclared {key : String} (hkey : key ∈ raw.keys)
      (hundeclared : key ∉ schema.params.map (·.name))
      (hleast : ∀ other ∈ raw.keys, other ∉ schema.params.map (·.name) → key ≤ other) :
      Faults schema raw ("unexpected argument '" ++ key ++ "'")
  | unfit {earlier later : List Param} {param : Param} {reason : String}
      (hdeclared : ∀ key ∈ raw.keys, key ∈ schema.params.map (·.name))
      (hparams : schema.params = earlier ++ param :: later)
      (hearlier : ∀ other ∈ earlier, ∀ reason, ¬other.Fails raw reason)
      (hfails : param.Fails raw reason) : Faults schema raw reason

section Loop

variable {raw : Fields} {param : Param}

/-- At a parameter that is satisfied the loop takes its value and goes on. -/
theorem collect_of_satisfied (hsatisfied : param.Satisfied raw) (params : List Param)
    (values : Fields) :
    collect raw (param :: params) values =
      collect raw params
        ((param.taken? raw).elim values fun value => Fields.insert param.name value values) := by
  cases hgiven : param.given? raw with
  | none =>
      obtain ⟨hoptional, htaken⟩ := Param.satisfied_of_absent hgiven
      rw [collect_of_absent hgiven, hoptional.mp hsatisfied, htaken]
      rfl
  | some value =>
      obtain ⟨haccepted, htaken⟩ := Param.satisfied_of_given hgiven
      obtain ⟨accepted, haccept⟩ := Option.isSome_iff_exists.mp (haccepted.mp hsatisfied)
      rw [collect_of_given hgiven, htaken, haccept]
      rfl

/-- At a parameter that fails the loop stops. -/
theorem collect_of_fails {reason : String} (hfails : param.Fails raw reason) (params : List Param)
    (values : Fields) : collect raw (param :: params) values = .error reason := by
  cases hfails with
  | missing hrequired hnone =>
      rw [collect_of_absent (Param.given?_eq_none_of_null hnone), if_pos hrequired]
  | illTyped hget hvalue htype =>
      have hrefused : param.kind.accept? _ = none :=
        Option.not_isSome_iff_eq_none.mp ((ParamKind.accept?_isSome_iff ..).not.mpr htype)
      rw [collect_of_given (Param.given?_eq_some_iff.mpr ⟨hget, hvalue⟩), hrefused]
      rfl

/-- **The loop stops at the first parameter that fails, with the reason for that.** -/
theorem collect_eq_error_iff (raw : Fields) (params : List Param) (values : Fields)
    (reason : String) :
    collect raw params values = .error reason ↔
      ∃ earlier param later, params = earlier ++ param :: later ∧
        (∀ other ∈ earlier, ∀ reason, ¬other.Fails raw reason) ∧ param.Fails raw reason := by
  induction params generalizing values with
  | nil => simp [collect]
  | cons first params ih =>
      by_cases hsatisfied : first.Satisfied raw
      · have hsound := Param.satisfied_iff.mp hsatisfied
        rw [collect_of_satisfied hsatisfied, ih]
        constructor
        · rintro ⟨earlier, param, later, rfl, hearlier, hfails⟩
          exact ⟨first :: earlier, param, later, rfl, List.forall_mem_cons.mpr ⟨hsound, hearlier⟩,
            hfails⟩
        · rintro ⟨earlier, param, later, hparams, hearlier, hfails⟩
          rcases List.cons_eq_append_iff.mp hparams with ⟨rfl, hhead⟩ | ⟨rest, rfl, rfl⟩
          · obtain ⟨rfl, -⟩ := List.cons_eq_cons.mp hhead
            exact absurd hfails (hsound reason)
          · exact ⟨rest, param, later, rfl, (List.forall_mem_cons.mp hearlier).2, hfails⟩
      · obtain ⟨own, hown⟩ := Param.exists_fails hsatisfied
        rw [collect_of_fails hown, Except.error.injEq]
        constructor
        · rintro rfl
          exact ⟨[], first, params, rfl, by simp, hown⟩
        · rintro ⟨earlier, param, later, hparams, hearlier, hfails⟩
          rcases List.cons_eq_append_iff.mp hparams with ⟨rfl, hhead⟩ | ⟨rest, rfl, -⟩
          · obtain ⟨rfl, -⟩ := List.cons_eq_cons.mp hhead
            -- The loop is a function, so a parameter fails for one reason only.
            have hsame := (collect_of_fails hown [] []).symm.trans (collect_of_fails hfails [] [])
            exact Except.error.inj hsame
          · exact absurd hown ((List.forall_mem_cons.mp hearlier).1 own)

end Loop

theorem declares_iff {schema : Schema} {key : String} :
    schema.declares key = true ↔ key ∈ schema.params.map (·.name) := by
  simp [declares]

/-- A refusal gives the reason that `Faults` tells, under the name of the tool. -/
theorem validate_eq_error_iff {schema : Schema} {raw : Fields} (hordered : raw.Ordered)
    (tool : String) (failure : Failure) :
    schema.validate tool raw = .error failure ↔
      ∃ reason, schema.Faults raw reason ∧ failure = .toolArgument tool reason := by
  have hundeclared (key : String) : (!schema.declares key) = true ↔
      key ∉ schema.params.map (·.name) := by
    rw [Bool.not_eq_true', ← Bool.not_eq_true, declares_iff]
  unfold validate
  cases hunknown : raw.keys.find? (!schema.declares ·) with
  | some unknown =>
      obtain ⟨⟨hkey, hwanted⟩, hleast⟩ := (hordered.find?_keys _ unknown).mp hunknown
      simp only [hundeclared] at hwanted hleast
      simp only [Except.error.injEq]
      constructor
      · rintro rfl
        exact ⟨_, .undeclared hkey hwanted hleast, rfl⟩
      · rintro ⟨reason, hfaults, rfl⟩
        cases hfaults with
        | undeclared hother hnot hleast' =>
            rw [le_antisymm (hleast _ hother hnot) (hleast' _ hkey hwanted)]
        | unfit hdeclared => exact absurd (hdeclared unknown hkey) hwanted
  | none =>
      have hdeclared : ∀ key ∈ raw.keys, key ∈ schema.params.map (·.name) := by
        intro key hkey
        have hknown := List.find?_eq_none.mp hunknown key hkey
        rw [hundeclared, not_not] at hknown
        exact hknown
      have hstops (reason : String) :
          schema.Faults raw reason ↔ collect raw schema.params [] = .error reason := by
        rw [collect_eq_error_iff]
        constructor
        · intro hfaults
          cases hfaults with
          | undeclared hkey hnot => exact absurd (hdeclared _ hkey) hnot
          | unfit _ hparams hearlier hfails => exact ⟨_, _, _, hparams, hearlier, hfails⟩
        · rintro ⟨earlier, param, later, hparams, hearlier, hfails⟩
          exact .unfit hdeclared hparams hearlier hfails
      simp only [hstops]
      cases collect raw schema.params [] with
      | ok values => simp
      | error reason => simp [eq_comm]

/-! ## Normal arguments -/

/-- The arguments are the raw ones in normal form: those that are not `null`, each with the value
that was given, except that the value of an integer parameter is written as an integer of 64 bits.
Every required one is there, and every reader of arguments finds those of its type. -/
structure Normalises (schema : Schema) (raw : Fields) (args : Args) : Prop where
  ordered : args.values.Ordered
  keys : ∀ key, key ∈ args.values.keys ↔ ∃ value, Fields.get? key raw = some value ∧ value ≠ .null
  kept : ∀ param ∈ schema.params, param.kind ≠ .integer → param.name ∈ args.values.keys →
    Fields.get? param.name args.values = Fields.get? param.name raw
  exact : ∀ param ∈ schema.params, param.kind = .integer → param.name ∈ args.values.keys →
    ∃ (number : Json.Number) (n : ℤ), Fields.get? param.name raw = some (.number number) ∧
      number.value? = some (n : ℚ) ∧ Fields.get? param.name args.values = some (.ofInt n) ∧
      -2 ^ 63 ≤ n ∧ n < 2 ^ 63 ∧ args.int64 param.name = .ok n
  complete : ∀ param ∈ schema.params, param.required = true → param.name ∈ args.values.keys
  texts : ∀ param ∈ schema.params, param.kind = .string → param.name ∈ args.values.keys →
    ∃ text, Fields.get? param.name args.values = some (.string text) ∧
      args.string param.name = .ok text
  truths : ∀ param ∈ schema.params, param.kind = .boolean → param.name ∈ args.values.keys →
    ∃ truth, Fields.get? param.name args.values = some (.bool truth) ∧
      args.bool? param.name = some truth

/-- What is taken stands in the order of its keys. -/
theorem ordered_taken (params : List Param) (raw : Fields) {values : Fields}
    (hordered : values.Ordered) : (taken params raw values).Ordered := by
  induction params generalizing values with
  | nil => exact hordered
  | cons param params ih =>
      rw [taken_cons]
      cases param.taken? raw with
      | none => exact ih hordered
      | some value => exact ih (hordered.insert param.name value)

/-- What is taken depends on nothing but what is taken for each parameter. -/
theorem taken_congr {params : List Param} {raw other : Fields}
    (hsame : ∀ param ∈ params, param.taken? raw = param.taken? other) (values : Fields) :
    taken params raw values = taken params other values := by
  induction params generalizing values with
  | nil => rfl
  | cons param params ih =>
      obtain ⟨hparam, hparams⟩ := List.forall_mem_cons.mp hsame
      rw [taken_cons, taken_cons, hparam, ih hparams]

section Accepted

variable {schema : Schema} {raw : Fields} {param : Param}

/-- The value of a parameter in the arguments that are handed on. -/
theorem get?_taken_self (hnames : (schema.params.map (·.name)).Nodup)
    (hparam : param ∈ schema.params) :
    Fields.get? param.name (taken schema.params raw []) = param.taken? raw := by
  rw [get?_taken raw [] hnames hparam, Fields.get?_nil, Option.or_none]

/-- A key is handed on exactly when a value is given for it. -/
theorem mem_keys_taken_iff (hnames : (schema.params.map (·.name)).Nodup)
    (haccepts : schema.Accepts raw) (key : String) :
    key ∈ (taken schema.params raw []).keys ↔
      ∃ value, Fields.get? key raw = some value ∧ value ≠ .null := by
  rw [Fields.mem_keys_iff]
  constructor
  · rintro ⟨accepted, hget⟩
    have hkey : key ∈ (taken schema.params raw []).keys := Fields.mem_keys_iff.mpr ⟨accepted, hget⟩
    obtain ⟨param, hparam, rfl⟩ := (taken_fits hnames haccepts).declared key hkey
    rw [get?_taken_self hnames hparam] at hget
    obtain ⟨value, hgiven, hvalue, -⟩ := Param.taken?_eq_some_iff.mp hget
    exact ⟨value, hgiven, hvalue⟩
  · rintro ⟨value, hget, hvalue⟩
    obtain ⟨param, hparam, rfl⟩ := haccepts.declared key (Fields.mem_keys_iff.mpr ⟨value, hget⟩)
    have haccepted := (haccepts.satisfied param hparam).2 value
      (Param.given?_eq_some_iff.mpr ⟨hget, hvalue⟩)
    obtain ⟨accepted, haccept⟩ := Option.isSome_iff_exists.mp haccepted
    refine ⟨accepted, ?_⟩
    rw [get?_taken_self hnames hparam]
    exact Param.taken?_eq_some_iff.mpr ⟨value, hget, hvalue, haccept⟩

/-- The value of a parameter that is handed on is the one that was accepted for it. -/
theorem exists_accepted (hnames : (schema.params.map (·.name)).Nodup)
    (hparam : param ∈ schema.params) (hkey : param.name ∈ (taken schema.params raw []).keys) :
    ∃ value accepted, Fields.get? param.name raw = some value ∧
      param.kind.accept? value = some accepted ∧
      Fields.get? param.name (taken schema.params raw []) = some accepted := by
  obtain ⟨accepted, hget⟩ := Fields.mem_keys_iff.mp hkey
  have htaken : param.taken? raw = some accepted := by
    rw [← get?_taken_self hnames hparam, hget]
  obtain ⟨value, hgiven, -, haccept⟩ := Param.taken?_eq_some_iff.mp htaken
  exact ⟨value, accepted, hgiven, haccept, hget⟩

/-- What has been taken is taken again. -/
theorem taken?_taken (hnames : (schema.params.map (·.name)).Nodup)
    (hparam : param ∈ schema.params) :
    param.taken? (taken schema.params raw []) = param.taken? raw := by
  have hget : Fields.get? param.name (taken schema.params raw []) = param.taken? raw :=
    get?_taken_self hnames hparam
  cases htaken : param.taken? raw with
  | none =>
      rw [htaken] at hget
      rw [Param.taken?, Param.given?_eq_none_iff.mpr (.inl hget), Option.bind_none]
  | some accepted =>
      obtain ⟨value, -, -, haccept⟩ := Param.taken?_eq_some_iff.mp htaken
      have hholds := ParamKind.holds_of_accept? haccept
      rw [htaken] at hget
      exact Param.taken?_eq_some_iff.mpr ⟨accepted, hget, hholds.ne_null, hholds.accept?⟩

/-- Arguments that fit the schema are accepted. -/
theorem Fits.accepts {args : Args} (hfits : schema.Fits args) : schema.Accepts args.values where
  declared := hfits.declared
  satisfied param hparam := by
    constructor
    · intro hrequired
      obtain ⟨value, hget⟩ := hfits.complete param hparam hrequired
      have hvalue := (hfits.typed param hparam value hget).ne_null
      rw [Param.given?_eq_some_iff.mpr ⟨hget, hvalue⟩]
      rfl
    · intro value hgiven
      have hget := (Param.given?_eq_some_iff.mp hgiven).1
      rw [(hfits.typed param hparam value hget).accept?]
      rfl

/-- A second validation hands on the same arguments. -/
theorem validate_taken (hnames : (schema.params.map (·.name)).Nodup)
    (haccepts : schema.Accepts raw) (tool : String) :
    schema.validate tool (taken schema.params raw []) = .ok ⟨taken schema.params raw []⟩ := by
  refine validate_eq_ok_iff.mpr ⟨(taken_fits hnames haccepts).accepts, ?_⟩
  rw [taken_congr fun param hparam => taken?_taken hnames hparam]

theorem normalises_taken (hnames : (schema.params.map (·.name)).Nodup)
    (haccepts : schema.Accepts raw) : schema.Normalises raw ⟨taken schema.params raw []⟩ := by
  constructor
  case ordered => exact ordered_taken _ _ List.Pairwise.nil
  case keys => exact mem_keys_taken_iff hnames haccepts
  case kept =>
    intro param hparam hkind hkey
    obtain ⟨value, accepted, hgiven, haccept, hget⟩ := exists_accepted hnames hparam hkey
    rw [hget, hgiven, ParamKind.eq_of_accept? hkind haccept]
  case exact =>
    intro param hparam hkind hkey
    obtain ⟨value, accepted, hgiven, haccept, hget⟩ := exists_accepted hnames hparam hkey
    rw [hkind] at haccept
    obtain ⟨number, n, rfl, hvalue, rfl, hfits⟩ := ParamKind.accept?_integer haccept
    obtain ⟨hlow, hhigh⟩ := (Json.fitsInt64_iff n).mp hfits
    exact ⟨number, n, hgiven, hvalue, hget, hlow, hhigh, Args.int64_eq_ok hget hfits⟩
  case complete =>
    intro param hparam hrequired
    obtain ⟨value, hget⟩ := (taken_fits hnames haccepts).complete param hparam hrequired
    exact Fields.mem_keys_iff.mpr ⟨value, hget⟩
  case texts =>
    intro param hparam hkind hkey
    obtain ⟨value, accepted, -, haccept, hget⟩ := exists_accepted hnames hparam hkey
    have hholds := ParamKind.holds_of_accept? haccept
    rw [hkind] at hholds
    cases accepted with
    | string text => exact ⟨text, hget, Args.string_eq_ok hget⟩
    | _ => exact hholds.elim
  case truths =>
    intro param hparam hkind hkey
    obtain ⟨value, accepted, -, haccept, hget⟩ := exists_accepted hnames hparam hkey
    have hholds := ParamKind.holds_of_accept? haccept
    rw [hkind] at hholds
    cases accepted with
    | bool truth => exact ⟨truth, hget, Args.bool?_eq_some hget⟩
    | _ => exact hholds.elim

end Accepted

/-- **A validation that accepts hands on the arguments in normal form, and validating those changes
nothing; one that refuses names the least undeclared key or else the first parameter that
fails.** -/
theorem validate_normalises {schema : Schema} (hnames : (schema.params.map (·.name)).Nodup)
    {raw : Fields} (hordered : raw.Ordered) (tool : String) :
    (∀ args, schema.validate tool raw = .ok args →
      schema.Normalises raw args ∧ ∀ again, schema.validate again args.values = .ok args) ∧
    (∀ failure, schema.validate tool raw = .error failure ↔
      ∃ reason, schema.Faults raw reason ∧ failure = .toolArgument tool reason) := by
  refine ⟨fun args hvalidate => ?_, validate_eq_error_iff hordered tool⟩
  obtain ⟨haccepts, rfl⟩ := validate_eq_ok_iff.mp hvalidate
  exact ⟨normalises_taken hnames haccepts, validate_taken hnames haccepts⟩

/-- Seven days that are written `7.0` are handed on as `7`.  Of two undeclared keys the lesser one
is named, and a city that is missing comes before days that are not whole. -/
theorem validate_normalises_forecast :
    let week : Fields := [("city", .string "Pune"), ("days", .ofFloat 7.0)]
    let stray : Fields := [("city", .null), ("units", .string "metric"), ("zone", .null)]
    let cityless : Fields := [("days", .ofFloat 7.5)]
    (forecast.params.map (·.name)).Nodup ∧ week.Ordered ∧ stray.Ordered ∧ cityless.Ordered ∧
      (∃ args, forecast.validate "get_weather" week = .ok args ∧ forecast.Normalises week args ∧
        args.int64 "days" = .ok 7 ∧ forecast.validate "get_weather" args.values = .ok args) ∧
      forecast.Faults stray "unexpected argument 'units'" ∧
      forecast.Faults cityless "missing required argument 'city'" := by
  intro week stray cityless
  have hnames : (forecast.params.map (·.name)).Nodup := by decide
  have hweek : week.Ordered := by decide
  have hstray : stray.Ordered := by decide
  have hcityless : cityless.Ordered := by decide
  let args : Args := ⟨[("city", .string "Pune"), ("days", .ofInt 7)]⟩
  have hvalidate : forecast.validate "get_weather" week = .ok args := rfl
  obtain ⟨hnormal, hagain⟩ := (validate_normalises hnames hweek "get_weather").1 args hvalidate
  refine ⟨hnames, hweek, hstray, hcityless, ⟨args, hvalidate, hnormal, rfl, hagain _⟩, ?_, ?_⟩
  · obtain ⟨reason, hfaults, hreason⟩ :=
      ((validate_normalises hnames hstray "get_weather").2 _).mp rfl
    obtain ⟨-, rfl⟩ := Failure.toolArgument.inj hreason
    exact hfaults
  · obtain ⟨reason, hfaults, hreason⟩ :=
      ((validate_normalises hnames hcityless "get_weather").2 _).mp rfl
    obtain ⟨-, rfl⟩ := Failure.toolArgument.inj hreason
    exact hfaults

end Schema

end ToolAssistant
