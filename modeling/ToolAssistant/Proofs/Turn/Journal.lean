import ToolAssistant.Proofs.Turn.Step

/-!
# A journal of what the oracle is shown

An oracle may be watched without touching the program: in a world that carries a journal, the oracle
writes down every message list that it is shown and then decides as before, and tools act beside
the journal.  What the orchestrator does in such a world is what it does without it, and the journal
gets one entry for every consultation.
-/

namespace ToolAssistant

variable {σ α : Type}

/-- A world with a journal of the message lists that the oracle was shown. -/
structure Journaled (σ : Type) where
  shown : List (List Message)
  world : σ

namespace Journaled

/-- An action that leaves the journal as it is. -/
def action (act : Action σ α) : Action (Journaled σ) α := fun noted =>
  ((act noted.world).1, { noted with world := (act noted.world).2 })

/-- A tool that leaves the journal as it is. -/
def tool (original : Tool σ) : Tool (Journaled σ) :=
  ⟨original.spec, fun args => action (original.invoke args)⟩

/-- The same tools in a world with a journal. -/
def registry (original : Registry σ) : Registry (Journaled σ) :=
  ⟨original.tools.map tool⟩

/-- An oracle that writes down what it is shown. -/
def oracle (original : Oracle σ) : Oracle (Journaled σ) where
  name := original.name
  decide messages catalogue := fun noted =>
    ((original.decide messages catalogue noted.world).1,
      ⟨noted.shown ++ [messages], (original.decide messages catalogue noted.world).2⟩)

/-! ## Tools -/

private theorem registry_names (original : Registry σ) :
    (registry original).names = original.names := by
  simp [registry, Registry.names, tool]

@[simp]
theorem registry_catalogue (original : Registry σ) :
    (registry original).catalogue = original.catalogue := by
  simp [registry, Registry.catalogue, tool]

private theorem registry_find? (original : Registry σ) (name : String) :
    (registry original).find? name = (original.find? name).map tool := by
  rw [Registry.find?, Registry.find?, registry, List.find?_map]
  rfl

private theorem registry_perform (original : Registry σ) (limit : Duration) (call : ToolCall)
    (noted : Journaled σ) :
    (registry original).perform limit call noted =
      ((original.perform limit call noted.world).1,
        { noted with world := (original.perform limit call noted.world).2 }) := by
  unfold Registry.perform
  rw [registry_find?, Registry.unknownTool, registry_names, ← Registry.unknownTool]
  cases original.find? call.name with
  | none => rfl
  | some found =>
      have hspec : (tool found).spec = found.spec := rfl
      simp only [Option.map_some, hspec]
      cases found.spec.schema.validate found.spec.name call.arguments <;> rfl

/-- A call comes to the same result beside a journal. -/
theorem registry_resolve (original : Registry σ) (limit : Duration) (call : ToolCall)
    (noted : Journaled σ) :
    (registry original).resolve limit call noted =
      ((original.resolve limit call noted.world).1,
        { noted with world := (original.resolve limit call noted.world).2 }) := by
  rw [Registry.resolve, registry_perform, Registry.resolve]
  rcases original.perform limit call noted.world with ⟨outcome, after⟩
  cases outcome <;> rfl

end Journaled

namespace Orchestrator

/-- The orchestrator in a world with a journal. -/
def journaled (self : Orchestrator σ) : Orchestrator (Journaled σ) where
  oracle := Journaled.oracle self.oracle
  registry := Journaled.registry self.registry
  limits := self.limits
  schedule := self.schedule

/-! ## Batches -/

private theorem journaled_worldAfter (self : Orchestrator σ) (calls : List ToolCall)
    (positions : List Nat) (noted : Journaled σ) :
    self.journaled.worldAfter calls positions noted =
      { noted with world := self.worldAfter calls positions noted.world } := by
  induction positions generalizing noted with
  | nil => rfl
  | cons position positions ih =>
      have hcall : self.journaled.afterCall calls noted position =
          { noted with world := self.afterCall calls noted.world position } := by
        unfold afterCall
        cases calls[position]? with
        | none => rfl
        | some call =>
            exact congrArg Prod.snd
              (Journaled.registry_resolve self.registry self.limits.toolTimeout call noted)
      rw [worldAfter, List.foldl_cons, hcall, ← worldAfter, ih]
      rfl

/-- A batch comes to the same beside a journal. -/
@[simp]
theorem journaled_execute (self : Orchestrator σ) (calls : List ToolCall) (noted : Journaled σ) :
    self.journaled.execute calls noted = self.execute calls noted.world := by
  unfold execute executeIn
  congr 1
  funext position call
  simp only [exchangeIn, journaled_worldAfter]
  rw [journaled, Journaled.registry_resolve]
  rfl

@[simp]
theorem journaled_settle (self : Orchestrator σ) (calls : List ToolCall) (noted : Journaled σ) :
    self.journaled.settle calls noted = { noted with world := self.settle calls noted.world } :=
  self.journaled_worldAfter calls _ noted

/-! ## Consultations -/

/-- **A consultation adds what was shown to the journal and decides as before.** -/
theorem journaled_decide (self : Orchestrator σ) (messages : List Message)
    (before : List (List Message)) {world asked : σ} {decision : Except Failure Decision}
    (hdecide : self.decide messages world = (decision, asked)) :
    self.journaled.decide messages ⟨before, world⟩ = (decision, ⟨before ++ [messages], asked⟩) := by
  rw [decide_eq, Prod.mk.injEq] at hdecide
  obtain ⟨rfl, rfl⟩ := hdecide
  rw [decide_eq]
  simp only [journaled, Journaled.oracle, Journaled.registry_catalogue]

end Orchestrator

end ToolAssistant
