import Mathlib.Data.List.Forall2
import ToolAssistant.Proofs.Turn.Step

/-!
# Turns as compositions

A turn is put together from consultations and calls, one step after another, and nothing else in it
looks at the world.  So a relation between computations that composition keeps relates whole turns
as soon as it relates what the oracles and the tools do (`run_related`).  Two orchestrators may be
compared that way even if they work in worlds of different kinds.
-/

namespace ToolAssistant

variable {σ τ α β : Type}

/-- One step and then another, which may use the outcome of the first. -/
def andThen (first : σ → α × σ) (next : α → σ → β × σ) : σ → β × σ := fun world =>
  next (first world).1 (first world).2

/-- The relation between computations in two kinds of worlds is kept by composition. -/
structure Composes (Rel : ∀ α : Type, (σ → α × σ) → (τ → α × τ) → Prop) : Prop where
  outcome : ∀ {α : Type} (outcome : α), Rel α (Prod.mk outcome) (Prod.mk outcome)
  andThen : ∀ {α β : Type} {first : σ → α × σ} {other : τ → α × τ} {next : α → σ → β × σ}
    {otherNext : α → τ → β × τ}, Rel α first other →
    (∀ outcome, Rel β (next outcome) (otherNext outcome)) →
    Rel β (andThen first next) (andThen other otherNext)

/-! ## Related tools -/

/-- The result of a call that came to the given outcome. -/
def ToolCall.resultOf (call : ToolCall) : Except Failure Json → ToolResult
  | .ok output => .success call output
  | .error failure => .failure call failure

/-- Two registries hold tools of the same specifications in the same order, and what the tools do is
related. -/
def Registry.Related (Rel : ∀ α : Type, (σ → α × σ) → (τ → α × τ) → Prop) (first : Registry σ)
    (second : Registry τ) : Prop :=
  List.Forall₂
    (fun tool other =>
      tool.spec = other.spec ∧ ∀ args, Rel _ (tool.invoke args) (other.invoke args))
    first.tools second.tools

namespace Registry.Related

variable {Rel : ∀ α : Type, (σ → α × σ) → (τ → α × τ) → Prop} {first : Registry σ}
  {second : Registry τ}

/-- Tools may be changed one by one, as long as their specifications stay. -/
theorem of_map {registry : Registry τ} {change : Tool τ → Tool σ}
    (hspec : ∀ tool, (change tool).spec = tool.spec)
    (hinvoke : ∀ tool args, Rel _ ((change tool).invoke args) (tool.invoke args)) :
    Registry.Related Rel ⟨registry.tools.map change⟩ registry := by
  rw [Registry.Related, List.forall₂_map_left_iff, List.forall₂_same]
  intro tool _
  exact ⟨hspec tool, hinvoke tool⟩

theorem catalogue (hrelated : first.Related Rel second) : first.catalogue = second.catalogue := by
  unfold Registry.Related at hrelated
  unfold Registry.catalogue
  generalize first.tools = tools at hrelated
  generalize second.tools = others at hrelated
  induction hrelated with
  | nil => rfl
  | cons htool _ ih => rw [List.map_cons, List.map_cons, htool.1, ih]

theorem names (hrelated : first.Related Rel second) : first.names = second.names := by
  have hnames : ∀ {ρ : Type} (registry : Registry ρ),
      registry.names = registry.catalogue.map (·.name) := by
    intro ρ registry
    rw [Registry.names, Registry.catalogue, List.map_map]
    rfl
  rw [hnames, hnames, hrelated.catalogue]

/-- A name finds a tool in both registries or in none. -/
theorem find? (hrelated : first.Related Rel second) (name : String) :
    (first.find? name = none ∧ second.find? name = none) ∨
      ∃ tool other, first.find? name = some tool ∧ second.find? name = some other ∧
        tool.spec = other.spec ∧ ∀ args, Rel _ (tool.invoke args) (other.invoke args) := by
  unfold Registry.Related at hrelated
  unfold Registry.find?
  generalize first.tools = tools at hrelated
  generalize second.tools = others at hrelated
  induction hrelated with
  | nil => exact Or.inl ⟨rfl, rfl⟩
  | @cons tool other tools others htool _ ih =>
      by_cases hname : (other.spec.name == name) = true
      · simp only [List.find?_cons, htool.1, hname]
        exact Or.inr ⟨tool, other, rfl, rfl, htool⟩
      · simp only [List.find?_cons, htool.1, hname]
        exact ih

/-- Calls on related tools are related. -/
theorem resolve (hRel : Composes Rel) (hrelated : first.Related Rel second) (limit : Duration)
    (call : ToolCall) : Rel _ (first.resolve limit call) (second.resolve limit call) := by
  have hperform : Rel _ (first.perform limit call) (second.perform limit call) := by
    rcases hrelated.find? call.name with ⟨hfirst, hsecond⟩ | ⟨tool, other, hfirst, hsecond, htool⟩
    · have hunknown : first.unknownTool call.name = second.unknownTool call.name := by
        rw [Registry.unknownTool, Registry.unknownTool, hrelated.names]
      unfold Registry.perform
      simp only [hfirst, hsecond, hunknown]
      exact hRel.outcome _
    · unfold Registry.perform
      simp only [hfirst, hsecond, htool.1]
      cases other.spec.schema.validate other.spec.name call.arguments with
      | error failure => exact hRel.outcome _
      | ok args =>
          -- Cutting the invocation off at the limit uses nothing of the world.
          exact hRel.andThen (htool.2 args) fun timed =>
            hRel.outcome ((timed.within limit).getD (.error (.toolTimeout limit)))
  have hresolve : ∀ {ρ : Type} (registry : Registry ρ), registry.resolve limit call =
      andThen (registry.perform limit call) fun outcome => Prod.mk (call.resultOf outcome) := by
    intro ρ registry
    funext world
    unfold Registry.resolve andThen
    rcases registry.perform limit call world with ⟨outcome, after⟩
    cases outcome <;> rfl
  rw [hresolve, hresolve]
  exact hRel.andThen hperform fun outcome => hRel.outcome _

end Registry.Related

namespace Orchestrator

/-! ## The steps of a turn -/

theorem resolveInTurn_cons (self : Orchestrator σ) (call : ToolCall) (calls : List ToolCall) :
    self.resolveInTurn (call :: calls) =
      andThen (self.registry.resolve self.limits.toolTimeout call) fun result =>
        andThen (self.resolveInTurn calls) fun results => Prod.mk (result :: results) :=
  rfl

theorem resolveAt_of_none (self : Orchestrator σ) {calls : List ToolCall} {position : Nat}
    (hcall : calls[position]? = none) (positions : List Nat) :
    self.resolveAt calls (position :: positions) = self.resolveAt calls positions := by
  funext world
  simp only [resolveAt, hcall]

theorem resolveAt_of_some (self : Orchestrator σ) {calls : List ToolCall} {position : Nat}
    {call : ToolCall} (hcall : calls[position]? = some call) (positions : List Nat) :
    self.resolveAt calls (position :: positions) =
      andThen (self.registry.resolve self.limits.toolTimeout call) fun result =>
        andThen (self.resolveAt calls positions) fun results =>
          Prod.mk ((position, result) :: results) := by
  funext world
  simp only [resolveAt, hcall, andThen]

theorem resolveTogether_eq_andThen (self : Orchestrator σ) (calls : List ToolCall) :
    self.resolveTogether calls =
      andThen (self.resolveAt calls (self.schedule.order calls.length)) fun results =>
        Prod.mk ((List.range calls.length).filterMap fun position => results.lookup position) :=
  rfl

/-- What a turn does after a batch: it gives up or goes on. -/
def afterBatch (self : Orchestrator σ) (more : Nat) (window : Window)
    (exchanges : List Exchange) (iterations : Nat) (calls : List ToolCall)
    (results : List ToolResult) : σ → Except Failure TurnOutcome × σ :=
  let exchanges := exchanges ++ List.zipWith Exchange.mk calls results
  match more with
  | 0 => Prod.mk
    (.ok ⟨incompleteAnswer (iterations + 1) exchanges, exchanges, iterations + 1, true⟩)
  | more + 1 => self.continueTurn more
    ((window.add (.issuing calls)).addAll (results.map .observing)) exchanges (iterations + 1)

/-- What a turn does with a decision. -/
def proceedWith (self : Orchestrator σ) (more : Nat) (window : Window)
    (exchanges : List Exchange) (iterations : Nat) :
    Except Failure Decision → σ → Except Failure TurnOutcome × σ
  | .error failure => Prod.mk (.error failure)
  | .ok (.finalAnswer answer) => Prod.mk (.ok ⟨answer, exchanges, iterations, false⟩)
  | .ok (.toolCalls calls) =>
    andThen (self.resolveBatch calls) (self.afterBatch more window exchanges iterations calls)

theorem continueTurn_eq (self : Orchestrator σ) (more : Nat) (window : Window)
    (exchanges : List Exchange) (iterations : Nat) :
    self.continueTurn more window exchanges iterations =
      andThen (self.decide window.messages)
        (self.proceedWith more window exchanges iterations) := by
  funext world
  unfold continueTurn andThen
  rcases self.decide window.messages world with ⟨failure | text | calls, asked⟩
  · rfl
  · rfl
  · cases more <;> rfl

/-! ## Related orchestrators -/

/-- Two orchestrators have the same limits and the same schedule, and what their oracles and their
tools do is related. -/
structure Related (Rel : ∀ α : Type, (σ → α × σ) → (τ → α × τ) → Prop) (first : Orchestrator σ)
    (second : Orchestrator τ) : Prop where
  limits : first.limits = second.limits
  schedule : first.schedule = second.schedule
  oracle : ∀ messages catalogue,
    Rel _ (first.oracle.decide messages catalogue) (second.oracle.decide messages catalogue)
  registry : first.registry.Related Rel second.registry

section Related

variable {Rel : ∀ α : Type, (σ → α × σ) → (τ → α × τ) → Prop} {self : Orchestrator σ}
  {other : Orchestrator τ}

/-- The consultations of related orchestrators are related. -/
theorem decide_related (hRel : Composes Rel) (hrelated : self.Related Rel other)
    (messages : List Message) : Rel _ (self.decide messages) (other.decide messages) := by
  have hdecide : ∀ {ρ : Type} (orchestrator : Orchestrator ρ), orchestrator.decide messages =
      andThen (orchestrator.oracle.decide messages orchestrator.registry.catalogue)
        fun timed => Prod.mk (Decision.judge orchestrator.limits.oracleTimeout
          (timed.within orchestrator.limits.oracleTimeout)) := by
    intro ρ orchestrator
    funext world
    exact orchestrator.decide_eq messages world
  rw [hdecide, hdecide, ← hrelated.limits, ← hrelated.registry.catalogue]
  exact hRel.andThen (hrelated.oracle _ _) fun timed => hRel.outcome _

private theorem resolveInTurn_related (hRel : Composes Rel) (hrelated : self.Related Rel other)
    (calls : List ToolCall) : Rel _ (self.resolveInTurn calls) (other.resolveInTurn calls) := by
  induction calls with
  | nil => exact hRel.outcome []
  | cons call calls ih =>
      have hcall := hrelated.registry.resolve hRel self.limits.toolTimeout call
      rw [resolveInTurn_cons, resolveInTurn_cons, ← hrelated.limits]
      exact hRel.andThen hcall fun result => hRel.andThen ih fun results => hRel.outcome _

private theorem resolveAt_related (hRel : Composes Rel) (hrelated : self.Related Rel other)
    (calls : List ToolCall) (positions : List Nat) :
    Rel _ (self.resolveAt calls positions) (other.resolveAt calls positions) := by
  induction positions with
  | nil => exact hRel.outcome []
  | cons position positions ih =>
      cases hcall : calls[position]? with
      | none =>
          rw [self.resolveAt_of_none hcall, other.resolveAt_of_none hcall]
          exact ih
      | some call =>
          have hresult := hrelated.registry.resolve hRel self.limits.toolTimeout call
          rw [self.resolveAt_of_some hcall, other.resolveAt_of_some hcall, ← hrelated.limits]
          exact hRel.andThen hresult fun result => hRel.andThen ih fun results => hRel.outcome _

/-- The batches of related orchestrators are related. -/
theorem resolveBatch_related (hRel : Composes Rel) (hrelated : self.Related Rel other)
    (calls : List ToolCall) : Rel _ (self.resolveBatch calls) (other.resolveBatch calls) := by
  have hbatch : ∀ {ρ : Type} (orchestrator : Orchestrator ρ), orchestrator.resolveBatch calls =
      if orchestrator.limits.parallel then orchestrator.resolveTogether calls
      else orchestrator.resolveInTurn calls := by
    intro ρ orchestrator
    funext world
    rw [resolveBatch]
    cases orchestrator.limits.parallel <;> rfl
  rw [hbatch, hbatch, ← hrelated.limits]
  cases self.limits.parallel with
  | false => exact resolveInTurn_related hRel hrelated calls
  | true =>
      rw [if_pos rfl, if_pos rfl, resolveTogether_eq_andThen, resolveTogether_eq_andThen,
        ← hrelated.schedule]
      exact hRel.andThen (resolveAt_related hRel hrelated calls _) fun results => hRel.outcome _

/-- What follows a consultation is related if what follows its batch is. -/
private theorem continueTurn_related_of_afterBatch (hRel : Composes Rel)
    (hrelated : self.Related Rel other) {more : Nat} {window : Window} {exchanges : List Exchange}
    {iterations : Nat} (hafter : ∀ calls results,
      Rel _ (self.afterBatch more window exchanges iterations calls results)
        (other.afterBatch more window exchanges iterations calls results)) :
    Rel _ (self.continueTurn more window exchanges iterations)
      (other.continueTurn more window exchanges iterations) := by
  rw [continueTurn_eq, continueTurn_eq]
  refine hRel.andThen (decide_related hRel hrelated window.messages) fun decision => ?_
  rcases decision with failure | text | calls
  · exact hRel.outcome _
  · exact hRel.outcome _
  · exact hRel.andThen (resolveBatch_related hRel hrelated calls) (hafter calls)

private theorem continueTurn_related (hRel : Composes Rel) (hrelated : self.Related Rel other)
    (more : Nat) (window : Window) (exchanges : List Exchange) (iterations : Nat) :
    Rel _ (self.continueTurn more window exchanges iterations)
      (other.continueTurn more window exchanges iterations) := by
  induction more generalizing window exchanges iterations with
  | zero =>
      apply continueTurn_related_of_afterBatch hRel hrelated
      intro calls results
      exact hRel.outcome _
  | succ more ih =>
      apply continueTurn_related_of_afterBatch hRel hrelated
      intro calls results
      exact ih _ _ _

/-- **The turns of related orchestrators are related.** -/
theorem run_related (hRel : Composes Rel) (hrelated : self.Related Rel other)
    (systemPrompt userInput : String) :
    Rel _ (self.run systemPrompt userInput) (other.run systemPrompt userInput) := by
  have hrun : ∀ {ρ : Type} (orchestrator : Orchestrator ρ),
      orchestrator.run systemPrompt userInput =
        orchestrator.continueTurn (orchestrator.limits.maxIterations - 1)
          ((Window.empty orchestrator.limits.contextTokens).addAll
            [.system systemPrompt, .user userInput]) [] 0 := fun _ => rfl
  rw [hrun, hrun, ← hrelated.limits]
  exact continueTurn_related hRel hrelated ..

end Related

end Orchestrator

end ToolAssistant
