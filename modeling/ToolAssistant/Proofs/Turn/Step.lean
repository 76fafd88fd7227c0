import Mathlib.Data.List.Basic
import ToolAssistant.Orchestration

/-!
# The steps of a turn

A turn asks the oracle and runs batches of calls.  This file says what one consultation and one
batch come to.

* A consultation leaves the world that the oracle leaves, whatever its decision is worth;
  `Decision.judge` says what it is worth.
* A batch is resolved in turn or concurrently.  Either way the calls act on the world in some order
  of their positions, each exactly once, and every call keeps the result that the registry gives for
  it at its place in that order.

## Strategy

For batches, `resolveAt` is settled first, for any order without repetitions: the world that a call
meets is the one after the positions in front of it.  Resolving in turn is `resolveAt` on the
positions as they are, and looking the results up again by position only undoes the order.
-/

namespace ToolAssistant

variable {σ : Type}

/-! ## One consultation -/

/-- What an oracle's outcome is worth to a turn; `none` is one that did not come in time. -/
def Decision.judge (limit : Duration) :
    Option (Except OracleError Decision) → Except Failure Decision
  | none => .error (.oracleUnavailable ("no decision within " ++ limit.text))
  | some (.error error) => .error (.oracleUnavailable error.message)
  | some (.ok (.toolCalls [])) => .error (.oracleUnavailable "decision contained no tool calls")
  | some (.ok decision) => .ok decision

/-- **A consultation is the oracle's action, cut off at the limit and judged.** -/
theorem Orchestrator.decide_eq (self : Orchestrator σ) (messages : List Message) (world : σ) :
    self.decide messages world =
      (Decision.judge self.limits.oracleTimeout
          ((self.oracle.decide messages self.registry.catalogue world).1.within
            self.limits.oracleTimeout),
        (self.oracle.decide messages self.registry.catalogue world).2) := by
  rcases hask : self.oracle.decide messages self.registry.catalogue world with ⟨timed, asked⟩
  have hwithin : Action.within self.limits.oracleTimeout
      (self.oracle.decide messages self.registry.catalogue) world =
        (timed.within self.limits.oracleTimeout, asked) := by
    rw [Action.within, hask]
  unfold Orchestrator.decide
  simp only [hwithin]
  rcases timed.within self.limits.oracleTimeout with _ | ⟨error⟩ | ⟨text | calls⟩
  · rfl
  · rfl
  · rfl
  · cases calls <;> rfl

/-! ## One call -/

/-- A result carries the id of the call that it answers. -/
@[simp]
theorem Registry.resolve_callId (registry : Registry σ) (limit : Duration) (call : ToolCall)
    (world : σ) : (registry.resolve limit call world).1.callId = call.id := by
  unfold Registry.resolve
  split <;> rfl

/-- A result names the tool that was called. -/
@[simp]
theorem Registry.resolve_toolName (registry : Registry σ) (limit : Duration) (call : ToolCall)
    (world : σ) : (registry.resolve limit call world).1.toolName = call.name := by
  unfold Registry.resolve
  split <;> rfl

namespace Orchestrator

/-! ## The order of acting -/

/-- The world after the call at a position has acted. -/
def afterCall (self : Orchestrator σ) (calls : List ToolCall) (world : σ) (position : Nat) : σ :=
  match calls[position]? with
  | none => world
  | some call => (self.registry.resolve self.limits.toolTimeout call world).2

/-- The world after the calls at the given positions have acted one after another. -/
def worldAfter (self : Orchestrator σ) (calls : List ToolCall) (positions : List Nat) (world : σ) :
    σ :=
  positions.foldl (self.afterCall calls) world

/-- The order in which the calls of a batch act. -/
def actingOrder (self : Orchestrator σ) (count : Nat) : List Nat :=
  if self.limits.parallel then self.schedule.order count else List.range count

/-- A call with the result that the registry gives for it when the calls act in the given order. -/
def exchangeIn (self : Orchestrator σ) (calls : List ToolCall) (order : List Nat) (world : σ)
    (position : Nat) (call : ToolCall) : Exchange :=
  let met := self.worldAfter calls (order.takeWhile (· != position)) world
  ⟨call, (self.registry.resolve self.limits.toolTimeout call met).1⟩

/-- Every call with its result, in the order of the calls, when they act in the given order. -/
def executeIn (self : Orchestrator σ) (calls : List ToolCall) (order : List Nat) (world : σ) :
    List Exchange :=
  calls.mapIdx (self.exchangeIn calls order world)

/-- What a batch comes to: every call with its result, in the order of the calls. -/
def execute (self : Orchestrator σ) (calls : List ToolCall) (world : σ) : List Exchange :=
  self.executeIn calls (self.actingOrder calls.length) world

/-- The world that a batch leaves behind. -/
def settle (self : Orchestrator σ) (calls : List ToolCall) (world : σ) : σ :=
  self.worldAfter calls (self.actingOrder calls.length) world

/-! ## Resolving at positions -/

/-- Putting a position in front of an order makes every other call meet the world one call
later. -/
private theorem exchangeIn_cons (self : Orchestrator σ) (calls : List ToolCall) (order : List Nat)
    (world : σ) (call : ToolCall) {first position : Nat} (hne : first ≠ position) :
    self.exchangeIn calls (first :: order) world position call =
      self.exchangeIn calls order (self.afterCall calls world first) position call := by
  have hmet : (first :: order).takeWhile (· != position) =
      first :: order.takeWhile (· != position) := by
    rw [List.takeWhile_cons_of_pos]
    simpa using hne
  simp only [exchangeIn, hmet, worldAfter, List.foldl_cons]

/-- Each call at a position of the order keeps the result that it gets at that place. -/
theorem resolveAt_eq (self : Orchestrator σ) (calls : List ToolCall) {order : List Nat}
    (hnodup : order.Nodup) (world : σ) :
    self.resolveAt calls order world =
      (order.filterMap fun position => calls[position]?.map fun call =>
          (position, (self.exchangeIn calls order world position call).result),
        self.worldAfter calls order world) := by
  induction order generalizing world with
  | nil => rfl
  | cons first order ih =>
      obtain ⟨hfirst, hnodup⟩ := List.nodup_cons.mp hnodup
      -- The positions behind the first one see the order without it, from one call later.
      have hlater : (order.filterMap fun position => calls[position]?.map fun call =>
            (position, (self.exchangeIn calls (first :: order) world position call).result)) =
          order.filterMap fun position => calls[position]?.map fun call =>
            (position, (self.exchangeIn calls order (self.afterCall calls world first)
              position call).result) := by
        apply List.filterMap_congr
        intro position hposition
        have hne : first ≠ position := fun heq => hfirst (heq ▸ hposition)
        simp only [exchangeIn_cons self calls order world _ hne]
      rw [List.filterMap_cons, hlater]
      cases hcall : calls[first]? with
      | none =>
          have hworld : self.afterCall calls world first = world := by
            simp only [afterCall, hcall]
          simp only [resolveAt, hcall, ih hnodup, Option.map_none, worldAfter, List.foldl_cons,
            hworld]
      | some call =>
          have hworld : self.afterCall calls world first =
              (self.registry.resolve self.limits.toolTimeout call world).2 := by
            simp only [afterCall, hcall]
          have hmet : (first :: order).takeWhile (· != first) = [] := by
            rw [List.takeWhile_cons_of_neg]
            simp
          simp only [resolveAt, hcall, ih hnodup, Option.map_some, worldAfter, List.foldl_cons,
            hworld, exchangeIn, hmet, List.foldl_nil]

/-- Resolving in turn is resolving at the positions as they stand. -/
private theorem resolveInTurn_eq_resolveAt (self : Orchestrator σ) (done rest : List ToolCall)
    (world : σ) :
    self.resolveInTurn rest world =
      (self.resolveAt (done ++ rest) (List.range' done.length rest.length) world).map
        (List.map Prod.snd) id := by
  induction rest generalizing done world with
  | nil => rfl
  | cons call rest ih =>
      have hcall : (done ++ call :: rest)[done.length]? = some call := by simp
      have hdone : done ++ call :: rest = (done ++ [call]) ++ rest := by simp
      have hlength : (done ++ [call]).length = done.length + 1 := by simp
      rw [List.length_cons, List.range'_succ]
      simp only [resolveInTurn, resolveAt, hcall]
      rw [hdone, ← hlength, ih (done ++ [call])]
      rfl

/-! ## Putting the results back -/

private theorem filterMap_range_eq_mapIdx {α β : Type} (values : List α) (f : Nat → α → β) :
    ((List.range values.length).filterMap fun position => values[position]?.map (f position)) =
      values.mapIdx f := by
  induction values generalizing f with
  | nil => rfl
  | cons value values ih =>
      rw [List.length_cons, List.range_succ_eq_map, List.filterMap_cons, List.mapIdx_cons,
        List.filterMap_map, ← ih]
      rfl

/-- Looking a position up among results that carry their positions finds its own. -/
private theorem lookup_filterMap {α β : Type} (value? : Nat → Option α) (f : Nat → α → β)
    (order : List Nat) {position : Nat} (hmem : position ∈ order) :
    (order.filterMap fun i => (value? i).map fun value => (i, f i value)).lookup position =
      (value? position).map (f position) := by
  induction order with
  | nil => simp at hmem
  | cons first order ih =>
      by_cases hfirst : position = first
      · subst hfirst
        cases hvalue : value? position with
        | none =>
            rw [List.filterMap_cons_none (by simp [hvalue])]
            by_cases hmore : position ∈ order
            · rw [ih hmore, hvalue]
            · rw [Option.map_none, List.lookup_eq_none_iff]
              intro entry hentry
              obtain ⟨i, hi, hmade⟩ := List.mem_filterMap.mp hentry
              obtain ⟨value, -, rfl⟩ := Option.map_eq_some_iff.mp hmade
              have hne : position ≠ i := fun heq => hmore (heq ▸ hi)
              simpa using hne
        | some value =>
            rw [List.filterMap_cons_some (b := (position, f position value)) (by simp [hvalue])]
            simp
      · have hmore : position ∈ order := by
          rcases List.mem_cons.mp hmem with heq | hmore
          · exact absurd heq hfirst
          · exact hmore
        cases hvalue : value? first with
        | none => rw [List.filterMap_cons_none (by simp [hvalue]), ih hmore]
        | some value =>
            rw [List.filterMap_cons_some (b := (first, f first value)) (by simp [hvalue]),
              List.lookup_cons, beq_eq_false_iff_ne.mpr hfirst]
            exact ih hmore

/-! ## The batch -/

/-- The results of a batch, read off position by position. -/
private theorem executeIn_results (self : Orchestrator σ) (calls : List ToolCall)
    (order : List Nat) (world : σ) :
    (self.executeIn calls order world).map (·.result) =
      (List.range calls.length).filterMap fun position => calls[position]?.map fun call =>
        (self.exchangeIn calls order world position call).result := by
  rw [executeIn, ← filterMap_range_eq_mapIdx, List.map_filterMap]
  apply List.filterMap_congr
  intro position _
  rw [Option.map_map]
  rfl

private theorem resolveTogether_eq (self : Orchestrator σ) (calls : List ToolCall) (world : σ) :
    self.resolveTogether calls world =
      ((self.executeIn calls (self.schedule.order calls.length) world).map (·.result),
        self.worldAfter calls (self.schedule.order calls.length) world) := by
  have hperm := self.schedule.order_perm calls.length
  have hnodup : (self.schedule.order calls.length).Nodup := hperm.nodup_iff.mpr List.nodup_range
  rw [resolveTogether, self.resolveAt_eq calls hnodup world, executeIn_results]
  refine Prod.ext (List.filterMap_congr ?_) rfl
  intro position hposition
  exact lookup_filterMap (calls[·]?) _ _ (hperm.mem_iff.mpr hposition)

private theorem resolveInTurn_eq (self : Orchestrator σ) (calls : List ToolCall) (world : σ) :
    self.resolveInTurn calls world =
      ((self.executeIn calls (List.range calls.length) world).map (·.result),
        self.worldAfter calls (List.range calls.length) world) := by
  have hrange : List.range' ([] : List ToolCall).length calls.length = List.range calls.length :=
    List.range_eq_range'.symm
  rw [self.resolveInTurn_eq_resolveAt [] calls world, hrange, List.nil_append,
    self.resolveAt_eq calls List.nodup_range world, Prod.map_apply, List.map_filterMap,
    executeIn_results]
  refine Prod.ext (List.filterMap_congr ?_) rfl
  intro position _
  rw [Option.map_map]
  rfl

/-- **A batch is its calls, acting in the order of the orchestrator, each with the result that the
registry gives for it.** -/
theorem resolveBatch_eq (self : Orchestrator σ) (calls : List ToolCall) (world : σ) :
    self.resolveBatch calls world =
      ((self.execute calls world).map (·.result), self.settle calls world) := by
  unfold resolveBatch execute settle actingOrder
  by_cases hparallel : self.limits.parallel = true
  · simp only [hparallel, if_true]
    exact self.resolveTogether_eq calls world
  · simp only [hparallel]
    exact self.resolveInTurn_eq calls world

/-- The calls of what a batch comes to are the calls that were issued, in order. -/
@[simp]
theorem execute_calls (self : Orchestrator σ) (calls : List ToolCall) (world : σ) :
    (self.execute calls world).map (·.call) = calls := by
  apply List.ext_getElem?
  intro position
  rw [List.getElem?_map, execute, executeIn, List.getElem?_mapIdx, Option.map_map]
  exact Option.map_id'

theorem execute_ne_nil (self : Orchestrator σ) {calls : List ToolCall} (hcalls : calls ≠ [])
    (world : σ) : self.execute calls world ≠ [] := by
  intro hnil
  have hissued := self.execute_calls calls world
  rw [hnil] at hissued
  exact hcalls hissued.symm

/-- Pairing the calls with their results gives what the batch comes to. -/
theorem zipWith_execute (self : Orchestrator σ) (calls : List ToolCall) (world : σ) :
    List.zipWith Exchange.mk calls ((self.execute calls world).map (·.result)) =
      self.execute calls world := by
  calc List.zipWith Exchange.mk calls ((self.execute calls world).map (·.result))
      = List.zipWith Exchange.mk ((self.execute calls world).map (·.call))
          ((self.execute calls world).map (·.result)) := by rw [execute_calls]
    _ = (self.execute calls world).map id := by rw [List.zipWith_map, List.zipWith_self]; rfl
    _ = self.execute calls world := List.map_id _

/-- Every result of a batch carries the id and the tool name of its call. -/
theorem execute_answers (self : Orchestrator σ) (calls : List ToolCall) (world : σ) :
    ∀ exchange ∈ self.execute calls world,
      exchange.result.callId = exchange.call.id ∧
        exchange.result.toolName = exchange.call.name := by
  intro exchange hexchange
  obtain ⟨position, hposition, rfl⟩ := List.mem_mapIdx.mp hexchange
  exact ⟨Registry.resolve_callId .., Registry.resolve_toolName ..⟩

end Orchestrator

end ToolAssistant
