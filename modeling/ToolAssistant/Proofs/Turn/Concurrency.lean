import Mathlib.Data.List.Induction
import Mathlib.Data.List.Nodup
import Mathlib.Logic.Relation
import ToolAssistant.Proofs.Turn.Composition
import ToolAssistant.Proofs.Turn.Journal

/-!
# Batches that finish in any order

The reference for a concurrent batch is a step relation on what has been gathered so far: any call
that is still running may be the next one to finish, to fail or to run out of time
(`Orchestrator.Finishes`), and the batch is over when every call has its result
(`Orchestrator.Gathers`).  `Orchestrator.Unfolds` is a turn whose batches are gathered so, each in
an order of its own.

The orchestrator is one of these turns, whatever its mode and its schedule.  If the tools go by
their arguments and the oracle by what it is shown, there is only one: `run_ignores_order`.

## Strategy

Each call leaves alone what the oracle remembers, and its result is the same in every world.  So the
gathered results are those that the calls have alone (`Steady`, one step at a time), and two turns
that start with the same memory are equal, consultation by consultation.
-/

namespace ToolAssistant

variable {σ ω : Type}

/-! ## What may depend on what -/

/-- The outcome and the time that it takes depend on the arguments only, and what is remembered
stays. -/
structure Tool.GoesByArguments (tool : Tool σ) (memory : σ → ω) : Prop where
  outcome : ∀ args world other, (tool.invoke args world).1 = (tool.invoke args other).1
  memory : ∀ args world, memory (tool.invoke args world).2 = memory world

/-- The decision, the time that it takes and what is remembered afterwards depend on what is shown
and on what was remembered. -/
structure Oracle.GoesByMemory (oracle : Oracle σ) (memory : σ → ω) : Prop where
  decision : ∀ messages catalogue world other, memory world = memory other →
    (oracle.decide messages catalogue world).1 = (oracle.decide messages catalogue other).1
  memory : ∀ messages catalogue world other, memory world = memory other →
    memory (oracle.decide messages catalogue world).2 =
      memory (oracle.decide messages catalogue other).2

/-- The outcomes are the same in every world, and what is remembered stays. -/
def SameEverywhere (memory : σ → ω) (α : Type) (act otherAct : σ → α × σ) : Prop :=
  ∀ world other, (act world).1 = (otherAct other).1 ∧ memory (act world).2 = memory world ∧
    memory (otherAct other).2 = memory other

theorem SameEverywhere.composes (memory : σ → ω) : Composes (SameEverywhere memory) where
  outcome _ := fun _ _ => ⟨rfl, rfl, rfl⟩
  andThen := by
    intro α β first other next otherNext hfirst hnext world otherWorld
    obtain ⟨houtcome, hmemory, hotherMemory⟩ := hfirst world otherWorld
    obtain ⟨hlast, hkept, hotherKept⟩ :=
      hnext (first world).1 (first world).2 (other otherWorld).2
    unfold ToolAssistant.andThen
    rw [← houtcome]
    exact ⟨hlast, hkept.trans hmemory, hotherKept.trans hotherMemory⟩

/-- A turn's work so far, as it is before a consultation. -/
structure Progress where
  window : Window
  exchanges : List Exchange
  iterations : Nat

/-- The work so far after one more batch. -/
def Progress.add (progress : Progress) (calls : List ToolCall) (results : List ToolResult) :
    Progress where
  window := (progress.window.add (.issuing calls)).addAll (results.map .observing)
  exchanges := progress.exchanges ++ List.zipWith Exchange.mk calls results
  iterations := progress.iterations + 1

/-- The outcome when no further batch is allowed. -/
def Progress.cut (progress : Progress) : TurnOutcome :=
  ⟨incompleteAnswer progress.iterations progress.exchanges, progress.exchanges, progress.iterations,
    true⟩

/-- A batch on its way: the results that are there, each at the place of its call. -/
structure Gathering (σ : Type) where
  slots : List (Option ToolResult)
  world : σ

namespace Orchestrator

/-- The tools go by their arguments, and the oracle by what it is shown. -/
structure Insulated (orchestrator : Orchestrator σ) (memory : σ → ω) : Prop where
  tools : ∀ tool ∈ orchestrator.registry.tools, tool.GoesByArguments memory
  oracle : orchestrator.oracle.GoesByMemory memory

/-- The orchestrator in another mode: concurrent with a schedule, or one call after another. -/
def inMode (self : Orchestrator σ) (parallel : Bool) (schedule : Schedule) : Orchestrator σ :=
  { self with limits := { self.limits with parallel := parallel }, schedule := schedule }

/-- The result that a call has alone. -/
def resultAlone (self : Orchestrator σ) (world : σ) (call : ToolCall) : ToolResult :=
  (self.registry.resolve self.limits.toolTimeout call world).1

/-- One of the calls that are still running finishes, fails or runs out of its time. -/
inductive Finishes (self : Orchestrator σ) (calls : List ToolCall) :
    Gathering σ → Gathering σ → Prop where
  | next {batch : Gathering σ} {position : Nat} {call : ToolCall} {result : ToolResult} {after : σ}
      (hcall : calls[position]? = some call) (hrunning : batch.slots[position]? = some none)
      (hresolve : self.registry.resolve self.limits.toolTimeout call batch.world =
        (result, after)) :
      Finishes self calls batch ⟨batch.slots.set position (some result), after⟩

/-- All calls of a batch finish, in some order. -/
def Gathers (self : Orchestrator σ) (calls : List ToolCall) (world : σ) (results : List ToolResult)
    (after : σ) : Prop :=
  Relation.ReflTransGen (self.Finishes calls) ⟨calls.map fun _ => none, world⟩
    ⟨results.map some, after⟩

/-- A turn whose batches are gathered in any order: what the oracle is shown at each consultation,
and the outcome.  After the next batch at most `more` others may follow. -/
inductive Unfolds (self : Orchestrator σ) : Nat → Progress → σ → List (List Message) →
    Except Failure TurnOutcome → Prop where
  | failed {more : Nat} {progress : Progress} {world asked : σ} {failure : Failure}
      (hdecide : self.decide progress.window.messages world = (.error failure, asked)) :
      Unfolds self more progress world [progress.window.messages] (.error failure)
  | answered {more : Nat} {progress : Progress} {world asked : σ} {text : String}
      (hdecide : self.decide progress.window.messages world = (.ok (.finalAnswer text), asked)) :
      Unfolds self more progress world [progress.window.messages]
        (.ok ⟨text, progress.exchanges, progress.iterations, false⟩)
  | capped {progress : Progress} {world asked after : σ} {calls : List ToolCall}
      {results : List ToolResult}
      (hdecide : self.decide progress.window.messages world = (.ok (.toolCalls calls), asked))
      (hgathers : self.Gathers calls asked results after) :
      Unfolds self 0 progress world [progress.window.messages]
        (.ok (progress.add calls results).cut)
  | batch {more : Nat} {progress : Progress} {world asked after : σ} {calls : List ToolCall}
      {results : List ToolResult} {shown : List (List Message)}
      {outcome : Except Failure TurnOutcome}
      (hdecide : self.decide progress.window.messages world = (.ok (.toolCalls calls), asked))
      (hgathers : self.Gathers calls asked results after)
      (hrest : Unfolds self more (progress.add calls results) after shown outcome) :
      Unfolds self (more + 1) progress world (progress.window.messages :: shown) outcome

/-- The start of a turn. -/
def opening (self : Orchestrator σ) (systemPrompt userInput : String) : Progress :=
  ⟨(Window.empty self.limits.contextTokens).addAll [.system systemPrompt, .user userInput], [], 0⟩

/-- A whole turn whose batches are gathered in any order. -/
def Turns (self : Orchestrator σ) (systemPrompt userInput : String) (world : σ)
    (shown : List (List Message)) (outcome : Except Failure TurnOutcome) : Prop :=
  self.Unfolds (self.limits.maxIterations - 1) (self.opening systemPrompt userInput) world shown
    outcome

/-! ## The orchestrator gathers -/

theorem actingOrder_perm (self : Orchestrator σ) (count : Nat) :
    (self.actingOrder count).Perm (List.range count) := by
  unfold actingOrder
  split
  · exact self.schedule.order_perm count
  · exact .refl _

/-- What has been gathered when the calls at the given positions have acted. -/
private def gathered (self : Orchestrator σ) (calls : List ToolCall) (order done : List Nat)
    (world : σ) : Gathering σ where
  slots := calls.mapIdx fun position call =>
    if position ∈ done then some (self.exchangeIn calls order world position call).result else none
  world := self.worldAfter calls done world

/-- The next position of an order finishes. -/
private theorem gathered_finishes (self : Orchestrator σ) {calls : List ToolCall}
    {done rest : List Nat} {position : Nat} (hnodup : (done ++ position :: rest).Nodup)
    (hposition : position < calls.length) (world : σ) :
    self.Finishes calls (self.gathered calls (done ++ position :: rest) done world)
      (self.gathered calls (done ++ position :: rest) (done ++ [position]) world) := by
  have hnew : position ∉ done := by
    intro hmem
    exact List.disjoint_of_nodup_append hnodup hmem (by simp)
  have hcall : calls[position]? = some calls[position] := List.getElem?_eq_getElem hposition
  -- The call meets the world that the positions in front of it have left.
  have hmet : (done ++ position :: rest).takeWhile (· != position) = done := by
    rw [List.takeWhile_append_of_pos, List.takeWhile_cons_of_neg (by simp), List.append_nil]
    intro earlier hearlier
    have hne : earlier ≠ position := fun heq => hnew (heq ▸ hearlier)
    simpa using hne
  have hafter : self.worldAfter calls (done ++ [position]) world =
      (self.registry.resolve self.limits.toolTimeout calls[position]
        (self.worldAfter calls done world)).2 := by
    rw [worldAfter, List.foldl_append, List.foldl_cons, List.foldl_nil, ← worldAfter, afterCall,
      hcall]
  have hslots : (self.gathered calls (done ++ position :: rest) (done ++ [position]) world).slots =
      (self.gathered calls (done ++ position :: rest) done world).slots.set position
        (some (self.resultAlone (self.worldAfter calls done world) calls[position])) := by
    apply List.ext_getElem?
    intro place
    simp only [gathered, List.getElem?_set, List.getElem?_mapIdx, List.length_mapIdx,
      List.mem_append, List.mem_singleton]
    by_cases hplace : position = place
    · subst hplace
      simp only [hposition, hcall, Option.map_some, or_true, if_true, exchangeIn, hmet, resultAlone]
    · have hother : place ≠ position := fun heq => hplace heq.symm
      simp only [hplace, hother, or_false, if_false]
  have hrunning : (self.gathered calls (done ++ position :: rest) done world).slots[position]? =
      some none := by
    simp only [gathered, List.getElem?_mapIdx, hcall, Option.map_some, hnew, if_false]
  have hnext : self.gathered calls (done ++ position :: rest) (done ++ [position]) world =
      ⟨_, self.worldAfter calls (done ++ [position]) world⟩ := congrArg (Gathering.mk · _) hslots
  rw [hnext]
  exact .next hcall hrunning (Prod.ext rfl hafter.symm)

/-- **Every batch of the orchestrator is gathered**, in the order in which its calls act. -/
theorem resolveBatch_gathers (self : Orchestrator σ) (calls : List ToolCall) (world : σ) :
    self.Gathers calls world (self.resolveBatch calls world).1
      (self.resolveBatch calls world).2 := by
  have hperm := self.actingOrder_perm calls.length
  let order := self.actingOrder calls.length
  have hnodup : order.Nodup := hperm.nodup_iff.mpr List.nodup_range
  have hstart : self.gathered calls order [] world = ⟨calls.map fun _ => none, world⟩ := by
    refine congrArg (Gathering.mk · world) (List.ext_getElem? ?_)
    intro position
    simp only [List.getElem?_mapIdx, List.getElem?_map, List.not_mem_nil, if_false]
  have hend : self.gathered calls order order world =
      ⟨(self.resolveBatch calls world).1.map some, (self.resolveBatch calls world).2⟩ := by
    rw [resolveBatch_eq, gathered]
    refine congrArg (Gathering.mk · _) (List.ext_getElem? ?_)
    intro position
    rw [execute, executeIn, List.getElem?_map, List.getElem?_map, List.getElem?_mapIdx,
      List.getElem?_mapIdx, Option.map_map, Option.map_map]
    cases hcall : calls[position]? with
    | none => rfl
    | some call =>
        have hlength : position < calls.length := (List.getElem?_eq_some_iff.mp hcall).1
        have hmem : position ∈ order := hperm.mem_iff.mpr (List.mem_range.mpr hlength)
        simp only [Option.map_some, Function.comp_apply, hmem, if_true, order]
  have hreach : ∀ done rest, done ++ rest = order →
      Relation.ReflTransGen (self.Finishes calls) (self.gathered calls order [] world)
        (self.gathered calls order done world) := by
    intro done
    induction done using List.reverseRecOn with
    | nil =>
        intro rest _
        exact .refl
    | append_singleton done position ih =>
        intro rest horder
        rw [List.append_assoc, List.singleton_append] at horder
        have hposition : position < calls.length := by
          have hmem : position ∈ order := by rw [← horder]; simp
          exact List.mem_range.mp (hperm.mem_iff.mp hmem)
        refine (ih _ horder).tail ?_
        rw [← horder] at hnodup ⊢
        exact self.gathered_finishes hnodup hposition world
  have hall := hreach order [] (List.append_nil order)
  rw [hstart, hend] at hall
  exact hall

/-! ## The orchestrator unfolds -/

/-- The rest of a turn after the work so far. -/
def resume (self : Orchestrator σ) (more : Nat) (progress : Progress) (world : σ) :
    Except Failure TurnOutcome × σ :=
  self.continueTurn more progress.window progress.exchanges progress.iterations world

section Resume

variable {self : Orchestrator σ} {progress : Progress} {world asked : σ}

theorem resume_of_failure {failure : Failure} (more : Nat)
    (hdecide : self.decide progress.window.messages world = (.error failure, asked)) :
    self.resume more progress world = (.error failure, asked) := by
  rw [resume, continueTurn_eq, andThen, hdecide]
  rfl

theorem resume_of_answer {text : String} (more : Nat)
    (hdecide : self.decide progress.window.messages world = (.ok (.finalAnswer text), asked)) :
    self.resume more progress world =
      (.ok ⟨text, progress.exchanges, progress.iterations, false⟩, asked) := by
  rw [resume, continueTurn_eq, andThen, hdecide]
  rfl

theorem resume_of_last_calls {calls : List ToolCall}
    (hdecide : self.decide progress.window.messages world = (.ok (.toolCalls calls), asked)) :
    self.resume 0 progress world =
      (.ok (progress.add calls (self.resolveBatch calls asked).1).cut,
        (self.resolveBatch calls asked).2) := by
  rw [resume, continueTurn_eq, andThen, hdecide]
  rfl

theorem resume_of_calls {calls : List ToolCall} (more : Nat)
    (hdecide : self.decide progress.window.messages world = (.ok (.toolCalls calls), asked)) :
    self.resume (more + 1) progress world =
      self.resume more (progress.add calls (self.resolveBatch calls asked).1)
        (self.resolveBatch calls asked).2 := by
  rw [resume, continueTurn_eq, andThen, hdecide]
  rfl

end Resume

private theorem journaled_resolveBatch (self : Orchestrator σ) (calls : List ToolCall)
    (before : List (List Message)) (world : σ) :
    self.journaled.resolveBatch calls ⟨before, world⟩ =
      ((self.resolveBatch calls world).1, ⟨before, (self.resolveBatch calls world).2⟩) := by
  rw [resolveBatch_eq, resolveBatch_eq, journaled_execute, journaled_settle]

private theorem resume_unfolds_of_failure {self : Orchestrator σ} {progress : Progress}
    {world asked : σ} {failure : Failure} (more : Nat)
    (hdecide : self.decide progress.window.messages world = (.error failure, asked)) :
    ∃ shown, self.Unfolds more progress world shown (self.resume more progress world).1 ∧
      ∀ before,
        (self.journaled.resume more progress ⟨before, world⟩).2.shown = before ++ shown := by
  refine ⟨[progress.window.messages], ?_, ?_⟩
  · rw [resume_of_failure more hdecide]
    exact .failed hdecide
  · intro before
    rw [resume_of_failure more (self.journaled_decide _ before hdecide)]

private theorem resume_unfolds_of_answer {self : Orchestrator σ} {progress : Progress}
    {world asked : σ} {text : String} (more : Nat)
    (hdecide : self.decide progress.window.messages world = (.ok (.finalAnswer text), asked)) :
    ∃ shown, self.Unfolds more progress world shown (self.resume more progress world).1 ∧
      ∀ before,
        (self.journaled.resume more progress ⟨before, world⟩).2.shown = before ++ shown := by
  refine ⟨[progress.window.messages], ?_, ?_⟩
  · rw [resume_of_answer more hdecide]
    exact .answered hdecide
  · intro before
    rw [resume_of_answer more (self.journaled_decide _ before hdecide)]

/-- **The rest of every turn unfolds**, and its journal gets what is shown. -/
theorem resume_unfolds (self : Orchestrator σ) (more : Nat) (progress : Progress) (world : σ) :
    ∃ shown, self.Unfolds more progress world shown (self.resume more progress world).1 ∧
      ∀ before,
        (self.journaled.resume more progress ⟨before, world⟩).2.shown = before ++ shown := by
  induction more generalizing progress world with
  | zero =>
      rcases hdecide : self.decide progress.window.messages world with
        ⟨failure | text | calls, asked⟩
      · exact resume_unfolds_of_failure 0 hdecide
      · exact resume_unfolds_of_answer 0 hdecide
      · refine ⟨[progress.window.messages], ?_, ?_⟩
        · rw [resume_of_last_calls hdecide]
          exact .capped hdecide (self.resolveBatch_gathers calls asked)
        · intro before
          rw [resume_of_last_calls (self.journaled_decide _ before hdecide), journaled_resolveBatch]
  | succ more ih =>
      rcases hdecide : self.decide progress.window.messages world with
        ⟨failure | text | calls, asked⟩
      · exact resume_unfolds_of_failure (more + 1) hdecide
      · exact resume_unfolds_of_answer (more + 1) hdecide
      · obtain ⟨shown, hrest, hjournal⟩ := ih
          (progress.add calls (self.resolveBatch calls asked).1) (self.resolveBatch calls asked).2
        refine ⟨progress.window.messages :: shown, ?_, ?_⟩
        · rw [resume_of_calls more hdecide]
          exact .batch hdecide (self.resolveBatch_gathers calls asked) hrest
        · intro before
          rw [resume_of_calls more (self.journaled_decide _ before hdecide), journaled_resolveBatch,
            hjournal, List.append_assoc, List.singleton_append]

/-! ## Insulated tools -/

section Insulated

variable {self : Orchestrator σ} {memory : σ → ω}

/-- A call comes to the same in every world, and leaves alone what is remembered. -/
theorem Insulated.resolve (hself : self.Insulated memory) (call : ToolCall) :
    SameEverywhere memory _ (self.registry.resolve self.limits.toolTimeout call)
      (self.registry.resolve self.limits.toolTimeout call) := by
  have hrelated : self.registry.Related (SameEverywhere memory) self.registry := by
    apply List.forall₂_same.mpr
    intro tool htool
    obtain ⟨houtcome, hmemory⟩ := hself.tools tool htool
    exact ⟨rfl, fun args world other =>
      ⟨houtcome args world other, hmemory args world, hmemory args other⟩⟩
  exact hrelated.resolve (SameEverywhere.composes memory) self.limits.toolTimeout call

theorem Insulated.resultAlone_eq (hself : self.Insulated memory) (world other : σ)
    (call : ToolCall) : self.resultAlone world call = self.resultAlone other call :=
  (hself.resolve call world other).1

/-- What has been gathered is what the calls come to alone, and nothing was forgotten. -/
private structure Gathered (orchestrator : Orchestrator σ) (memory : σ → ω)
    (calls : List ToolCall) (world : σ) (batch : Gathering σ) : Prop where
  length : batch.slots.length = calls.length
  own : ∀ (position : Nat) (result : ToolResult), batch.slots[position]? = some (some result) →
    calls[position]?.map (orchestrator.resultAlone world) = some result
  memory : memory batch.world = memory world

private theorem Gathered.finishes (hself : self.Insulated memory) {calls : List ToolCall}
    {world : σ} {batch next : Gathering σ} (hbatch : self.Gathered memory calls world batch)
    (hstep : self.Finishes calls batch next) : self.Gathered memory calls world next := by
  obtain ⟨hlength, hown, hmemory⟩ := hbatch
  obtain ⟨hcall, hrunning, hresolve⟩ := hstep
  rename_i position call result after
  obtain ⟨hresult, hkept, -⟩ := hself.resolve call batch.world world
  rw [hresolve] at hresult hkept
  refine ⟨?_, ?_, hkept.trans hmemory⟩
  · rw [List.length_set, hlength]
  · intro place held hheld
    rw [List.getElem?_set] at hheld
    by_cases hplace : position = place
    · subst hplace
      have hin : position < batch.slots.length := (List.getElem?_eq_some_iff.mp hrunning).1
      simp only [hin, if_true] at hheld
      obtain rfl : result = held := Option.some.inj (Option.some.inj hheld)
      rw [hcall, Option.map_some, resultAlone, ← hresult]
    · rw [if_neg hplace] at hheld
      exact hown place held hheld

private theorem Gathered.reaches (hself : self.Insulated memory) {calls : List ToolCall}
    {world : σ} {batch last : Gathering σ} (hbatch : self.Gathered memory calls world batch)
    (hsteps : Relation.ReflTransGen (self.Finishes calls) batch last) :
    self.Gathered memory calls world last := by
  induction hsteps with
  | refl => exact hbatch
  | tail _ hstep ih => exact ih.finishes hself hstep

/-- **Whatever the order, every call gets the result that it has alone.** -/
theorem Gathers.eq_alone (hself : self.Insulated memory) {calls : List ToolCall} {world after : σ}
    {results : List ToolResult} (hgathers : self.Gathers calls world results after) :
    results = calls.map (self.resultAlone world) ∧ memory after = memory world := by
  have hstart : self.Gathered memory calls world ⟨calls.map fun _ => none, world⟩ := by
    refine ⟨List.length_map _, ?_, rfl⟩
    intro position result hresult
    rw [List.getElem?_map] at hresult
    cases hcall : calls[position]? <;> simp [hcall] at hresult
  obtain ⟨hlength, hown, hmemory⟩ := hstart.reaches hself hgathers
  refine ⟨List.ext_getElem? ?_, hmemory⟩
  intro position
  rw [List.length_map] at hlength
  rw [List.getElem?_map]
  cases hresult : results[position]? with
  | some result => exact (hown position result (by simp [hresult])).symm
  | none =>
      have hbeyond : calls[position]? = none := by
        rw [List.getElem?_eq_none_iff] at hresult ⊢
        omega
      rw [hbeyond, Option.map_none]

theorem Gathers.same (hself : self.Insulated memory) {calls : List ToolCall}
    {world other after otherAfter : σ} {results otherResults : List ToolResult}
    (hgathers : self.Gathers calls world results after) (hmemory : memory world = memory other)
    (hother : self.Gathers calls other otherResults otherAfter) :
    results = otherResults ∧ memory after = memory otherAfter := by
  obtain ⟨rfl, hafter⟩ := hgathers.eq_alone hself
  obtain ⟨rfl, hotherAfter⟩ := hother.eq_alone hself
  refine ⟨List.map_congr_left fun call _ => hself.resultAlone_eq world other call, ?_⟩
  rw [hafter, hotherAfter, hmemory]

/-- A consultation comes to the same whenever the same is remembered. -/
theorem Insulated.decide (hself : self.Insulated memory) (messages : List Message) {world other : σ}
    (hmemory : memory world = memory other) :
    ∃ decision asked otherAsked, self.decide messages world = (decision, asked) ∧
      self.decide messages other = (decision, otherAsked) ∧ memory asked = memory otherAsked := by
  have hdecision := hself.oracle.decision messages self.registry.catalogue world other hmemory
  refine ⟨_, _, _, self.decide_eq messages world, ?_,
    hself.oracle.memory messages self.registry.catalogue world other hmemory⟩
  rw [decide_eq, hdecision]

section Inversion

variable {more : Nat} {progress : Progress} {world asked : σ} {shown : List (List Message)}
  {outcome : Except Failure TurnOutcome}

theorem Unfolds.of_failure {failure : Failure}
    (hunfolds : self.Unfolds more progress world shown outcome)
    (hdecide : self.decide progress.window.messages world = (.error failure, asked)) :
    shown = [progress.window.messages] ∧ outcome = .error failure := by
  cases hunfolds with
  | failed hother =>
      rw [hdecide] at hother
      cases hother
      exact ⟨rfl, rfl⟩
  | answered hother => exact absurd (hdecide.symm.trans hother) (by simp)
  | capped hother => exact absurd (hdecide.symm.trans hother) (by simp)
  | batch hother => exact absurd (hdecide.symm.trans hother) (by simp)

theorem Unfolds.of_answer {text : String}
    (hunfolds : self.Unfolds more progress world shown outcome)
    (hdecide : self.decide progress.window.messages world = (.ok (.finalAnswer text), asked)) :
    shown = [progress.window.messages] ∧
      outcome = .ok ⟨text, progress.exchanges, progress.iterations, false⟩ := by
  cases hunfolds with
  | failed hother => exact absurd (hdecide.symm.trans hother) (by simp)
  | answered hother =>
      rw [hdecide] at hother
      cases hother
      exact ⟨rfl, rfl⟩
  | capped hother => exact absurd (hdecide.symm.trans hother) (by simp)
  | batch hother => exact absurd (hdecide.symm.trans hother) (by simp)

theorem Unfolds.of_last_calls {calls : List ToolCall}
    (hunfolds : self.Unfolds 0 progress world shown outcome)
    (hdecide : self.decide progress.window.messages world = (.ok (.toolCalls calls), asked)) :
    shown = [progress.window.messages] ∧ ∃ results after, self.Gathers calls asked results after ∧
      outcome = .ok (progress.add calls results).cut := by
  cases hunfolds with
  | failed hother => exact absurd (hdecide.symm.trans hother) (by simp)
  | answered hother => exact absurd (hdecide.symm.trans hother) (by simp)
  | capped hother hgathers =>
      rw [hdecide] at hother
      cases hother
      exact ⟨rfl, _, _, hgathers, rfl⟩

theorem Unfolds.of_calls {calls : List ToolCall}
    (hunfolds : self.Unfolds (more + 1) progress world shown outcome)
    (hdecide : self.decide progress.window.messages world = (.ok (.toolCalls calls), asked)) :
    ∃ results after rest, self.Gathers calls asked results after ∧
      shown = progress.window.messages :: rest ∧
      self.Unfolds more (progress.add calls results) after rest outcome := by
  cases hunfolds with
  | failed hother => exact absurd (hdecide.symm.trans hother) (by simp)
  | answered hother => exact absurd (hdecide.symm.trans hother) (by simp)
  | batch hother hgathers hrest =>
      rw [hdecide] at hother
      cases hother
      exact ⟨_, _, _, hgathers, rfl, hrest⟩

end Inversion

/-- **Turns that start with the same memory are the same.** -/
theorem Unfolds.unique (hself : self.Insulated memory) {more : Nat} {progress : Progress}
    {world other : σ} (hmemory : memory world = memory other)
    {shown otherShown : List (List Message)} {outcome otherOutcome : Except Failure TurnOutcome}
    (hfirst : self.Unfolds more progress world shown outcome)
    (hsecond : self.Unfolds more progress other otherShown otherOutcome) :
    shown = otherShown ∧ outcome = otherOutcome := by
  induction more generalizing progress world other shown otherShown with
  | zero =>
      obtain ⟨decision, asked, otherAsked, hdecide, hother, hasked⟩ :=
        hself.decide progress.window.messages hmemory
      rcases decision with failure | text | calls
      · obtain ⟨rfl, rfl⟩ := hfirst.of_failure hdecide
        obtain ⟨rfl, rfl⟩ := hsecond.of_failure hother
        exact ⟨rfl, rfl⟩
      · obtain ⟨rfl, rfl⟩ := hfirst.of_answer hdecide
        obtain ⟨rfl, rfl⟩ := hsecond.of_answer hother
        exact ⟨rfl, rfl⟩
      · obtain ⟨rfl, results, after, hgathers, rfl⟩ := hfirst.of_last_calls hdecide
        obtain ⟨rfl, otherResults, otherAfter, hotherGathers, rfl⟩ := hsecond.of_last_calls hother
        obtain ⟨rfl, -⟩ := hgathers.same hself hasked hotherGathers
        exact ⟨rfl, rfl⟩
  | succ more ih =>
      obtain ⟨decision, asked, otherAsked, hdecide, hother, hasked⟩ :=
        hself.decide progress.window.messages hmemory
      rcases decision with failure | text | calls
      · obtain ⟨rfl, rfl⟩ := hfirst.of_failure hdecide
        obtain ⟨rfl, rfl⟩ := hsecond.of_failure hother
        exact ⟨rfl, rfl⟩
      · obtain ⟨rfl, rfl⟩ := hfirst.of_answer hdecide
        obtain ⟨rfl, rfl⟩ := hsecond.of_answer hother
        exact ⟨rfl, rfl⟩
      · obtain ⟨results, after, rest, hgathers, rfl, hrest⟩ := hfirst.of_calls hdecide
        obtain ⟨otherResults, otherAfter, otherRest, hotherGathers, rfl, hotherRest⟩ :=
          hsecond.of_calls hother
        obtain ⟨rfl, hafter⟩ := hgathers.same hself hasked hotherGathers
        obtain ⟨rfl, rfl⟩ := ih hafter hrest hotherRest
        exact ⟨rfl, rfl⟩

/-! ## Modes -/

theorem Insulated.inMode (hself : self.Insulated memory) (parallel : Bool) (schedule : Schedule) :
    (self.inMode parallel schedule).Insulated memory :=
  ⟨hself.tools, hself.oracle⟩

theorem Gathers.ofMode {parallel : Bool} {schedule : Schedule} {calls : List ToolCall}
    {world after : σ} {results : List ToolResult}
    (hgathers : (self.inMode parallel schedule).Gathers calls world results after) :
    self.Gathers calls world results after := by
  refine Relation.ReflTransGen.mono ?_ _ _ hgathers
  rintro batch last ⟨hcall, hrunning, hresolve⟩
  exact .next hcall hrunning hresolve

theorem Unfolds.ofMode {parallel : Bool} {schedule : Schedule} {more : Nat} {progress : Progress}
    {world : σ} {shown : List (List Message)} {outcome : Except Failure TurnOutcome}
    (hunfolds : (self.inMode parallel schedule).Unfolds more progress world shown outcome) :
    self.Unfolds more progress world shown outcome := by
  induction hunfolds with
  | failed hdecide => exact .failed hdecide
  | answered hdecide => exact .answered hdecide
  | capped hdecide hgathers => exact .capped hdecide hgathers.ofMode
  | batch hdecide hgathers _ ih => exact .batch hdecide hgathers.ofMode ih

/-- In any mode a turn is one whose batches are gathered in some order. -/
theorem run_turns (self : Orchestrator σ) (parallel : Bool) (schedule : Schedule)
    (systemPrompt userInput : String) (world : σ) :
    self.Turns systemPrompt userInput world
      ((self.inMode parallel schedule).journaled.run systemPrompt userInput ⟨[], world⟩).2.shown
      ((self.inMode parallel schedule).run systemPrompt userInput world).1 := by
  obtain ⟨shown, hunfolds, hjournal⟩ := (self.inMode parallel schedule).resume_unfolds
    (self.limits.maxIterations - 1) (self.opening systemPrompt userInput) world
  have hshown := hjournal []
  rw [List.nil_append] at hshown
  rw [← hshown] at hunfolds
  exact hunfolds.ofMode

/-- **The order in which calls finish cannot be told from a turn.**  If the tools go by their
arguments and the oracle by what it is shown, a concurrent turn has the same outcome as one whose
calls are made one after another, and the oracle is shown the same.  In fact there is only one turn,
in whatever order the calls of each batch finish.  Every call of a batch has the result that it has
alone, with the time limit for itself, so replacing one leaves the results of the others. -/
theorem run_ignores_order (self : Orchestrator σ) {memory : σ → ω} (hself : self.Insulated memory)
    (systemPrompt userInput : String) (world : σ) :
    (∀ schedule,
      let together := self.inMode true schedule
      let inTurn := self.inMode false schedule
      (together.run systemPrompt userInput world).1 = (inTurn.run systemPrompt userInput world).1 ∧
        (together.journaled.run systemPrompt userInput ⟨[], world⟩).2.shown =
          (inTurn.journaled.run systemPrompt userInput ⟨[], world⟩).2.shown) ∧
    (∀ shown outcome, self.Turns systemPrompt userInput world shown outcome ↔
      shown = (self.journaled.run systemPrompt userInput ⟨[], world⟩).2.shown ∧
        outcome = (self.run systemPrompt userInput world).1) ∧
    (∀ parallel schedule calls met,
      let batch := (self.inMode parallel schedule).resolveBatch calls met
      self.Gathers calls met batch.1 batch.2) ∧
    ∀ calls met results after, self.Gathers calls met results after →
      (∀ other, results = calls.map (self.resultAlone other)) ∧
      ∀ position call otherResults otherAfter,
        self.Gathers (calls.set position call) met otherResults otherAfter →
          ∀ place ≠ position, otherResults[place]? = results[place]? := by
  refine ⟨?_, ?_, ?_, ?_⟩
  · intro schedule together inTurn
    obtain ⟨hshown, houtcome⟩ := Unfolds.unique hself rfl
      (self.run_turns true schedule systemPrompt userInput world)
      (self.run_turns false schedule systemPrompt userInput world)
    exact ⟨houtcome, hshown⟩
  · intro shown outcome
    have hrun := self.run_turns self.limits.parallel self.schedule systemPrompt userInput world
    constructor
    · intro hturns
      exact Unfolds.unique hself rfl hturns hrun
    · rintro ⟨rfl, rfl⟩
      exact hrun
  · intro parallel schedule calls met batch
    exact ((self.inMode parallel schedule).resolveBatch_gathers calls met).ofMode
  · intro calls met results after hgathers
    obtain ⟨rfl, -⟩ := hgathers.eq_alone hself
    refine ⟨?_, ?_⟩
    · intro other
      exact List.map_congr_left fun call _ => hself.resultAlone_eq met other call
    · intro position call otherResults otherAfter hother place hplace
      obtain ⟨rfl, -⟩ := hother.eq_alone hself
      rw [List.getElem?_map, List.getElem?_map, List.getElem?_set_ne (Ne.symm hplace)]

end Insulated

/-! ## An example -/

/-- A tool that writes its name down and takes so long. -/
def scribe (name : String) (duration : Duration) : Tool (Nat × List String) :=
  ⟨⟨name, "", ⟨[]⟩⟩, fun _ world =>
    (.ends duration (.ok (.string name)), (world.1, world.2 ++ [name]))⟩

/-- Two tools, one of them too slow, and an oracle that first calls both of them and one that is not
there. -/
def dispatcher : Orchestrator (Nat × List String) where
  oracle :=
    ⟨"dispatcher", fun _ _ world =>
      (.ends .zero (.ok (if world.1 = 0 then
        .toolCalls [⟨"1", "slow", []⟩, ⟨"2", "quick", []⟩, ⟨"3", "missing", []⟩]
        else .finalAnswer "Done.")), (world.1 + 1, world.2))⟩
  registry := ⟨[scribe "slow" (.ofSeconds 60), scribe "quick" .zero]⟩
  limits := ⟨3, .ofSeconds 60, .ofSeconds 5, true, 8000⟩

/-- The calls act in the opposite order. -/
def lastFirst : Schedule := ⟨fun n => (List.range n).reverse, fun _ => List.reverse_perm _⟩

theorem dispatcher_insulated : dispatcher.Insulated Prod.fst := by
  refine ⟨?_, ?_, ?_⟩
  · intro tool htool
    rcases List.mem_cons.mp htool with rfl | hlast
    · exact ⟨fun _ _ _ => rfl, fun _ _ => rfl⟩
    · rw [List.mem_singleton.mp hlast]
      exact ⟨fun _ _ _ => rfl, fun _ _ => rfl⟩
  · intro messages catalogue world other hmemory
    show Timed.ends _ _ = Timed.ends _ _
    rw [hmemory]
  · intro messages catalogue world other hmemory
    show world.1 + 1 = other.1 + 1
    rw [hmemory]

theorem run_ignores_order_lastFirst :
    dispatcher.Insulated Prod.fst ∧
      ((dispatcher.inMode true lastFirst).run "Be brief." "Go!" (0, [])).1 =
        ((dispatcher.inMode false lastFirst).run "Be brief." "Go!" (0, [])).1 := by
  have hignored := dispatcher.run_ignores_order dispatcher_insulated "Be brief." "Go!" (0, [])
  exact ⟨dispatcher_insulated, (hignored.1 lastFirst).1⟩

end Orchestrator

end ToolAssistant
