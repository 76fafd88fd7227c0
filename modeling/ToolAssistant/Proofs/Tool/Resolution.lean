import ToolAssistant.Proofs.Tool.Arguments
import ToolAssistant.Proofs.Watched

/-!
# What becomes of a call

The reference for a call is `Registry.Resolves`, in three cases:

| the call | its outcome | what is invoked |
|---|---|---|
| no tool has its name | not found | nothing |
| the tool's schema does not accept its arguments | invalid arguments | nothing |
| otherwise | as the tool's work ends, `Settles` | that tool, once |

`Registry.resolve_resolves` says that every call is resolved so, whatever the registry, the time
limit and the world, and that the invoked tool meets arguments that fit its schema.
-/

namespace ToolAssistant

variable {σ : Type}

/-- The kind of call failure that the oracle is told of for a failure. -/
inductive Failure.AmountsTo : Failure → CallFailure.Kind → Prop where
  | notFound (detail : String) : AmountsTo (.toolNotFound detail) .notFound
  | arguments (tool reason : String) : AmountsTo (.toolArgument tool reason) .invalidArguments
  | evaluation (detail : String) : AmountsTo (.evaluation detail) .evaluation
  | timeout (limit : Duration) : AmountsTo (.toolTimeout limit) .timeout
  | other {failure : Failure} (hnotFound : ∀ detail, failure ≠ .toolNotFound detail)
      (harguments : ∀ tool reason, failure ≠ .toolArgument tool reason)
      (hevaluation : ∀ detail, failure ≠ .evaluation detail)
      (htimeout : ∀ limit, failure ≠ .toolTimeout limit) : AmountsTo failure .execution

theorem Failure.amountsTo_callKind (failure : Failure) : failure.AmountsTo failure.callKind := by
  cases failure with
  | toolNotFound detail => exact .notFound detail
  | toolArgument tool reason => exact .arguments tool reason
  | evaluation detail => exact .evaluation detail
  | toolTimeout limit => exact .timeout limit
  | _ => exact .other (by simp) (by simp) (by simp) (by simp)

/-- What a tool's work comes to under a time limit; just at the limit is within it. -/
inductive Settles (limit : Duration) : Timed (Except Failure Json) → ToolOutcome → Prop where
  | output {duration : Duration} {output : Json} (htime : duration ≤ limit) :
      Settles limit (.ends duration (.ok output)) (.success output)
  | failed {duration : Duration} {failure : Failure} {kind : CallFailure.Kind}
      (htime : duration ≤ limit) (hkind : failure.AmountsTo kind) :
      Settles limit (.ends duration (.error failure)) (.failure ⟨kind, failure.message⟩)
  | late {duration : Duration} {outcome : Except Failure Json} (hlate : ¬duration ≤ limit) :
      Settles limit (.ends duration outcome)
        (.failure ⟨.timeout, "Tool timed out after " ++ limit.text⟩)
  | never : Settles limit .never (.failure ⟨.timeout, "Tool timed out after " ++ limit.text⟩)

namespace Registry

/-- The tool is the first of its name. -/
def Offers (registry : Registry σ) (name : String) (tool : Tool σ) : Prop :=
  ∃ earlier later, registry.tools = earlier ++ tool :: later ∧ tool.spec.name = name ∧
    ∀ other ∈ earlier, other.spec.name ≠ name

/-- What a call comes to in a world: its outcome, the tools that are invoked for it with their
arguments, and the world afterwards. -/
inductive Resolves (registry : Registry σ) (limit : Duration) (call : ToolCall) (world : σ) :
    ToolOutcome → List (Tool σ × Args) → σ → Prop where
  | unknown (hunknown : ∀ tool ∈ registry.tools, tool.spec.name ≠ call.name) :
      Resolves registry limit call world
        (.failure ⟨.notFound, (registry.unknownTool call.name).message⟩) [] world
  | refused {tool : Tool σ} {reason : String} (hoffers : registry.Offers call.name tool)
      (hrejects : ¬tool.spec.schema.Accepts call.arguments)
      (hreason : tool.spec.schema.validate tool.spec.name call.arguments =
        .error (.toolArgument tool.spec.name reason)) :
      Resolves registry limit call world
        (.failure ⟨.invalidArguments, (Failure.toolArgument tool.spec.name reason).message⟩)
        [] world
  | invoked {tool : Tool σ} {args : Args} {work : Timed (Except Failure Json)}
      {outcome : ToolOutcome} {after : σ} (hoffers : registry.Offers call.name tool)
      (haccepts : tool.spec.schema.Accepts call.arguments)
      (hargs : tool.spec.schema.validate tool.spec.name call.arguments = .ok args)
      (hwork : tool.invoke args world = (work, after)) (hsettles : Settles limit work outcome) :
      Resolves registry limit call world outcome [(tool, args)] after

theorem find?_eq_some_iff {registry : Registry σ} {name : String} {tool : Tool σ} :
    registry.find? name = some tool ↔ registry.Offers name tool := by
  rw [find?, List.find?_eq_some_iff_append, Offers]
  simp only [beq_iff_eq, Bool.not_eq_eq_eq_not, Bool.not_true, beq_eq_false_iff_ne]
  constructor
  · rintro ⟨hname, earlier, later, htools, hearlier⟩
    exact ⟨earlier, later, htools, hname, hearlier⟩
  · rintro ⟨earlier, later, htools, hname, hearlier⟩
    exact ⟨hname, earlier, later, htools, hearlier⟩

theorem find?_eq_none_iff {registry : Registry σ} {name : String} :
    registry.find? name = none ↔ ∀ tool ∈ registry.tools, tool.spec.name ≠ name := by
  rw [find?, List.find?_eq_none]
  simp

/-! ## The cases of a call -/

section Cases

variable {registry : Registry σ} {limit : Duration} {call : ToolCall} {world : σ}

/-- The failure of a call is told as the kind that it amounts to. -/
private theorem resolve_of_error {failure : Failure} {after : σ}
    (hperform : registry.perform limit call world = (.error failure, after)) :
    registry.resolve limit call world =
      (⟨call.id, call.name, .failure ⟨failure.callKind, failure.message⟩⟩, after) := by
  rw [resolve, hperform]
  rfl

private theorem resolve_of_ok {output : Json} {after : σ}
    (hperform : registry.perform limit call world = (.ok output, after)) :
    registry.resolve limit call world = (⟨call.id, call.name, .success output⟩, after) := by
  rw [resolve, hperform]
  rfl

/-- A call to a tool that accepts its arguments settles as the tool's work ends. -/
private theorem resolve_of_args {tool : Tool σ} {args : Args} {work : Timed (Except Failure Json)}
    {after : σ} (hfind : registry.find? call.name = some tool)
    (hargs : tool.spec.schema.validate tool.spec.name call.arguments = .ok args)
    (hwork : tool.invoke args world = (work, after)) :
    ∃ outcome, Settles limit work outcome ∧
      registry.resolve limit call world = (⟨call.id, call.name, outcome⟩, after) := by
  have hperform : registry.perform limit call world =
      ((work.within limit).getD (.error (.toolTimeout limit)), after) := by
    simp only [perform, hfind, hargs, Action.within, hwork]
  cases work with
  | never => exact ⟨_, .never, resolve_of_error hperform⟩
  | ends duration result =>
      by_cases htime : duration ≤ limit
      · rw [Timed.within, if_pos htime, Option.getD_some] at hperform
        cases result with
        | ok output => exact ⟨_, .output htime, resolve_of_ok hperform⟩
        | error failure =>
            exact ⟨_, .failed htime failure.amountsTo_callKind, resolve_of_error hperform⟩
      · rw [Timed.within, if_neg htime, Option.getD_none] at hperform
        exact ⟨_, .late htime, resolve_of_error hperform⟩

end Cases

/-- **Every call is resolved into one result, under its own id and name, and invokes at most the one
tool that it names.**  A watched run notes exactly these invocations.  What a tool is invoked with
fits its schema, if no two parameters of the schema share a name. -/
theorem resolve_resolves (registry : Registry σ) (limit : Duration) (call : ToolCall) (world : σ) :
    ∃ outcome invocations after,
      registry.Resolves limit call world outcome invocations after ∧
      registry.resolve limit call world = (⟨call.id, call.name, outcome⟩, after) ∧
      (∀ past, (Watched.registry registry).resolve limit call ⟨past, world⟩ =
        (⟨call.id, call.name, outcome⟩, ⟨past ++ invocations.map .ofInvocation, after⟩)) ∧
      ∀ tool args, (tool, args) ∈ invocations →
        (tool.spec.schema.params.map (·.name)).Nodup → tool.spec.schema.Fits args := by
  -- The events of the watched run are the invocations, whatever the case.
  suffices hplain : ∃ outcome after,
      registry.Resolves limit call world outcome (registry.invocations call) after ∧
      registry.resolve limit call world = (⟨call.id, call.name, outcome⟩, after) ∧
      ∀ tool args, (tool, args) ∈ registry.invocations call →
        (tool.spec.schema.params.map (·.name)).Nodup → tool.spec.schema.Fits args by
    obtain ⟨outcome, after, hresolves, hresolve, hfits⟩ := hplain
    refine ⟨outcome, registry.invocations call, after, hresolves, hresolve, ?_, hfits⟩
    intro past
    rw [Watched.registry_resolve registry limit call world past, hresolve]
  cases hfind : registry.find? call.name with
  | none =>
      have hinvocations : registry.invocations call = [] := by rw [invocations, hfind]
      have hperform : registry.perform limit call world =
          (.error (registry.unknownTool call.name), world) := by rw [perform, hfind]
      rw [hinvocations]
      exact ⟨_, world, .unknown (find?_eq_none_iff.mp hfind), resolve_of_error hperform, by simp⟩
  | some tool =>
      have hoffers := find?_eq_some_iff.mp hfind
      by_cases haccepts : tool.spec.schema.Accepts call.arguments
      · let args : Args := ⟨Schema.taken tool.spec.schema.params call.arguments []⟩
        have hargs : tool.spec.schema.validate tool.spec.name call.arguments = .ok args :=
          Schema.validate_eq_ok_iff.mpr ⟨haccepts, rfl⟩
        have hinvocations : registry.invocations call = [(tool, args)] := by
          simp only [invocations, hfind, hargs]
        rcases hwork : tool.invoke args world with ⟨work, after⟩
        obtain ⟨outcome, hsettles, hresolve⟩ := resolve_of_args hfind hargs hwork
        rw [hinvocations]
        refine ⟨outcome, after, .invoked hoffers haccepts hargs hwork hsettles, hresolve, ?_⟩
        intro invoked given hmem hnames
        obtain ⟨rfl, rfl⟩ := Prod.mk.inj (List.mem_singleton.mp hmem)
        exact Schema.taken_fits hnames haccepts
      · obtain ⟨reason, hreason⟩ := Schema.validate_of_not_accepts tool.spec.name haccepts
        have hinvocations : registry.invocations call = [] := by
          simp only [invocations, hfind, hreason]
        have hperform : registry.perform limit call world =
            (.error (.toolArgument tool.spec.name reason), world) := by
          simp only [perform, hfind, hreason]
        rw [hinvocations]
        exact ⟨_, world, .refused hoffers haccepts hreason, resolve_of_error hperform, by simp⟩

end Registry

end ToolAssistant
