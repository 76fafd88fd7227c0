import ToolAssistant.Proofs.Session.Conversation

/-!
# Sessions in a world of two parts

Memory and the clock may act on a part of the world of their own, beside the part that the oracle
and the tools act on.  A turn's work is then done on the first part alone (`run_beside`), and a
whole turn splits into what memory brings up, the work with the prompt, and what memory keeps
(`runTurn_inParts_of_failure`, `runTurn_inParts_of_outcome`).

A store may be split once more, into what it searches and what it adds to
(`MemoryStore.ofParts`): then what it finds is fixed, whatever it is given.
-/

namespace ToolAssistant

variable {σ μ ν α : Type}

/-! ## Worlds of two parts -/

/-- A computation on the first part of a world. -/
def onFirst (act : σ → α × σ) : σ × μ → α × (σ × μ) := fun world =>
  ((act world.1).1, (act world.1).2, world.2)

/-- A computation on the second part of a world. -/
def onSecond (act : μ → α × μ) : σ × μ → α × (σ × μ) := fun world =>
  ((act world.2).1, world.1, (act world.2).2)

/-- A tool that acts on the first part of a world. -/
def Tool.beside (μ : Type) (tool : Tool σ) : Tool (σ × μ) :=
  ⟨tool.spec, fun args => onFirst (tool.invoke args)⟩

/-- A registry whose tools act on the first part of a world. -/
def Registry.beside (μ : Type) (registry : Registry σ) : Registry (σ × μ) :=
  ⟨registry.tools.map (.beside μ)⟩

/-- An orchestrator whose oracle and tools act on the first part of a world. -/
def Orchestrator.beside (μ : Type) (self : Orchestrator σ) : Orchestrator (σ × μ) where
  oracle :=
    { name := self.oracle.name
      decide messages catalogue := onFirst (self.oracle.decide messages catalogue) }
  registry := self.registry.beside μ
  limits := self.limits
  schedule := self.schedule

/-- A store that acts on the second part of a world. -/
def MemoryStore.beside (σ : Type) (store : MemoryStore μ) : MemoryStore (σ × μ) where
  name := store.name
  search query userId limit := onSecond (store.search query userId limit)
  add turn userId := onSecond (store.add turn userId)

/-- A gateway to a store that acts on the second part of a world. -/
def MemoryGateway.beside (σ : Type) (gateway : MemoryGateway μ) : MemoryGateway (σ × μ) where
  store := gateway.store.map (.beside σ)
  minQueryChars := gateway.minQueryChars
  maxSnippets := gateway.maxSnippets
  timeout := gateway.timeout

/-- A session in a world of two parts: the oracle and the tools act on the first, memory and the
clock on the second. -/
def Controller.inParts (orchestrator : Orchestrator σ) (gateway : MemoryGateway μ)
    (stamp : μ → (String × Instant) × μ) (instructions userId : String) : Controller (σ × μ) where
  orchestrator := orchestrator.beside μ
  instructions := instructions
  gateway := gateway.beside σ
  userId := userId
  stamp := onSecond stamp

/-! ## What each part does -/

/-- Working on the first part of a world is kept by composition. -/
private theorem onFirst_composes :
    Composes fun α (both : σ × μ → α × (σ × μ)) (first : σ → α × σ) => both = onFirst first where
  outcome _ := rfl
  andThen hfirst hnext := by
    subst hfirst
    funext world
    simp only [andThen, hnext]
    rfl

private theorem Orchestrator.beside_related (self : Orchestrator σ) :
    Related (fun _ both first => both = onFirst first) (self.beside μ) self :=
  ⟨rfl, rfl, fun _ _ => rfl, .of_map (fun _ => rfl) fun _ _ => rfl⟩

/-- **A turn works on its own part of the world.** -/
theorem Orchestrator.run_beside (self : Orchestrator σ) (systemPrompt userInput : String) :
    (self.beside μ).run systemPrompt userInput = onFirst (self.run systemPrompt userInput) :=
  run_related onFirst_composes self.beside_related systemPrompt userInput

/-- Looking something up works on memory's part of the world. -/
theorem MemoryGateway.retrieve_beside (gateway : MemoryGateway μ) (query userId : String) :
    (gateway.beside σ).retrieve query userId = onSecond (gateway.retrieve query userId) := by
  funext world
  rcases gateway with ⟨store, minQueryChars, maxSnippets, timeout⟩
  simp only [retrieve, onSecond, beside]
  by_cases hshort : (Text.trim query).length < minQueryChars
  · simp only [hshort, if_true]
  · simp only [hshort, if_false]
    cases store with
    | error reason => rfl
    | ok store =>
        simp only [Except.map, MemoryStore.beside, onSecond, Action.within]
        rcases (store.search _ userId maxSnippets world.2).1.within timeout with
          _ | failure | snippets <;> rfl

/-- Storing a turn works on memory's part of the world. -/
theorem MemoryGateway.remember_beside (gateway : MemoryGateway μ) (turn : Turn)
    (userId : String) :
    (gateway.beside σ).remember turn userId = onSecond (gateway.remember turn userId) := by
  funext world
  rcases gateway with ⟨store, minQueryChars, maxSnippets, timeout⟩
  simp only [remember, onSecond, beside]
  cases store with
  | error reason => rfl
  | ok store =>
      simp only [Except.map, MemoryStore.beside, onSecond, Action.within]
      rcases (store.add turn userId world.2).1.within timeout with _ | failure | _ <;> rfl

/-! ## A turn in both parts of the world -/

namespace Controller

section InParts

variable {orchestrator : Orchestrator σ} {gateway : MemoryGateway μ}
  {stamp : μ → (String × Instant) × μ} {instructions userId input : String} {session : Session}
  {retrieval : Retrieval} {world worked : σ} {memory searched stamped : μ}

private theorem inParts_retrieve (hretrieve : gateway.retrieve input userId memory =
      (retrieval, searched)) (world : σ) :
    (gateway.beside σ).retrieve input userId (world, memory) = (retrieval, world, searched) := by
  rw [MemoryGateway.retrieve_beside, onSecond, hretrieve]

/-- What memory brings up comes from its own part of the world. -/
theorem inParts_retrieval (orchestrator : Orchestrator σ) (gateway : MemoryGateway μ)
    (stamp : μ → (String × Instant) × μ) (instructions userId input : String) (world : σ)
    (memory : μ) :
    let self := inParts orchestrator gateway stamp instructions userId
    (self.gateway.retrieve input self.userId (world, memory)).1 =
      (gateway.retrieve input userId memory).1 :=
  congrArg Prod.fst (inParts_retrieve rfl world)

private theorem inParts_run {result : Except Failure TurnOutcome}
    (hrun : orchestrator.run (Prompt.compose instructions orchestrator.registry.catalogue retrieval)
      input world = (result, worked)) (memory : μ) :
    let self := inParts orchestrator gateway stamp instructions userId
    self.orchestrator.run (self.promptWith retrieval) input (world, memory) =
      (result, worked, memory) := by
  have hcatalogue := (orchestrator.beside_related (μ := μ)).registry.catalogue
  simp only [inParts, promptWith, hcatalogue, Orchestrator.run_beside, onFirst, hrun]

theorem runTurn_inParts_of_failure {failure : Failure}
    (hretrieve : gateway.retrieve input userId memory = (retrieval, searched))
    (hrun : orchestrator.run (Prompt.compose instructions orchestrator.registry.catalogue retrieval)
      input world = (.error failure, worked)) :
    (inParts orchestrator gateway stamp instructions userId).runTurn session input
      (world, memory) = (.error failure, session, worked, searched) :=
  runTurn_of_failure (inParts_retrieve hretrieve world) (inParts_run hrun searched)

/-- A turn that is completed is stored on memory's part of the world. -/
theorem runTurn_inParts_of_outcome {outcome : TurnOutcome} {id : String} {timestamp : Instant}
    {turn : Turn} (hretrieve : gateway.retrieve input userId memory = (retrieval, searched))
    (hrun : orchestrator.run (Prompt.compose instructions orchestrator.registry.catalogue retrieval)
      input world = (.ok outcome, worked))
    (hstamp : stamp searched = ((id, timestamp), stamped))
    (hturn : turn = ⟨id, input, outcome.answer, outcome.exchanges, outcome.iterations,
      outcome.incomplete, timestamp⟩) :
    (inParts orchestrator gateway stamp instructions userId).runTurn session input
      (world, memory) = (.ok turn, { session with history := session.history ++ [turn] }, worked,
        (gateway.remember turn userId stamped).2) := by
  let self := inParts orchestrator gateway stamp instructions userId
  have hnow : self.stamp (worked, searched) = ((id, timestamp), worked, stamped) := by
    simp only [self, inParts, onSecond, hstamp]
  have hkeep := congrFun (gateway.remember_beside (σ := σ) turn userId) (worked, stamped)
  exact runTurn_of_outcome (inParts_retrieve hretrieve world) (inParts_run hrun searched) hnow
    hturn hkeep

end InParts

end Controller

/-! ## Stores of two parts -/

namespace MemoryStore

/-- A store that searches on one part of its world and adds on the other: what it finds is fixed,
whatever it is given. -/
def ofParts (name : String)
    (search : String → String → Nat → Action μ (Except Failure (List Snippet)))
    (add : Turn → String → Action ν (Except Failure Unit)) : MemoryStore (μ × ν) where
  name := name
  search query userId limit := onFirst (search query userId limit)
  add turn userId := onSecond (add turn userId)

end MemoryStore

namespace MemoryGateway

/-- What a store of two parts brings up depends on the part that it searches, which adding leaves
alone. -/
theorem retrieve_ofParts (name : String)
    (search : String → String → Nat → Action μ (Except Failure (List Snippet)))
    (add otherAdd : Turn → String → Action ν (Except Failure Unit))
    (minQueryChars maxSnippets : Nat) (timeout : Duration) (query userId : String)
    (searched : μ) (added otherAdded : ν) :
    let first : MemoryGateway (μ × ν) :=
      ⟨.ok (.ofParts name search add), minQueryChars, maxSnippets, timeout⟩
    let second : MemoryGateway (μ × ν) :=
      ⟨.ok (.ofParts name search otherAdd), minQueryChars, maxSnippets, timeout⟩
    ∃ retrieval after, first.retrieve query userId (searched, added) = (retrieval, after, added) ∧
      second.retrieve query userId (searched, otherAdded) = (retrieval, after, otherAdded) := by
  intro first second
  simp only [first, second, retrieve, MemoryStore.ofParts, Action.within, onFirst]
  split_ifs with hshort
  · exact ⟨_, _, rfl, rfl⟩
  · rcases search (Text.trim query) userId maxSnippets searched with ⟨timed, after⟩
    rcases timed.within timeout with _ | failure | snippets
    · exact ⟨_, _, rfl, rfl⟩
    · exact ⟨_, _, rfl, rfl⟩
    · exact ⟨_, _, rfl, rfl⟩

theorem remember_ofParts (name : String)
    (search : String → String → Nat → Action μ (Except Failure (List Snippet)))
    (add : Turn → String → Action ν (Except Failure Unit)) (minQueryChars maxSnippets : Nat)
    (timeout : Duration) (turn : Turn) (userId : String) (memory : μ × ν) :
    let gateway : MemoryGateway (μ × ν) :=
      ⟨.ok (.ofParts name search add), minQueryChars, maxSnippets, timeout⟩
    (gateway.remember turn userId memory).2.1 = memory.1 := by
  simp only [remember, MemoryStore.ofParts, Action.within, onSecond]
  rcases add turn userId memory.2 with ⟨timed, after⟩
  rcases timed.within timeout with _ | failure | _ <;> rfl

end MemoryGateway

end ToolAssistant
