import ToolAssistant.Proofs.Turn.Composition
import ToolAssistant.Proofs.Turn.Step
import ToolAssistant.Session.Controller

/-!
# A watched world

Everything that the program asks of the world can be watched without touching the program: in a
world that carries a list of events, the oracle, the tools and the memory store note that they are
used and then act as before.  What the program does in a watched world is what it does without the
watching (`Notes`), and the events tell which of its surroundings it used, when and for what.

## Strategy

Nothing in the program looks at the world itself, so one equation for each function carries the
events through.  A turn's own events are not spelled out here: that they are its work, and neither
search memory nor add to it, is all that a session needs (`NotesWork`).  Composition keeps this, so
that it holds of a turn because it holds of a consultation and of a call.
-/

namespace ToolAssistant

variable {σ α β : Type}

/-- Something that is asked of the world. -/
inductive Event (σ : Type) where
  | consulted (shown : List Message)
  | invoked (tool : Tool σ) (args : Args)
  | searched (query userId : String) (limit : Nat)
  | added (turn : Turn) (userId : String)

/-- The event belongs to the work of a turn: the oracle is consulted or a tool is invoked. -/
def Event.IsWork : Event σ → Prop
  | consulted _ => True
  | invoked .. => True
  | searched .. => False
  | added .. => False

/-- A world with a list of what was asked of it. -/
structure Watched (σ : Type) where
  events : List (Event σ)
  world : σ

namespace Watched

/-- An action that is noted when it is taken. -/
def noting (event : Event σ) (act : Action σ α) : Action (Watched σ) α := fun seen =>
  ((act seen.world).1, ⟨seen.events ++ [event], (act seen.world).2⟩)

/-- Cutting an action off does not keep it from being noted. -/
theorem noting_within (event : Event σ) (act : Action σ α) (limit : Duration)
    (past : List (Event σ)) (world : σ) :
    (noting event act).within limit ⟨past, world⟩ =
      ((act.within limit world).1, ⟨past ++ [event], (act.within limit world).2⟩) :=
  rfl

/-- A tool whose invocations are noted. -/
def tool (original : Tool σ) : Tool (Watched σ) :=
  ⟨original.spec, fun args => noting (.invoked original args) (original.invoke args)⟩

/-- The same tools in a watched world. -/
def registry (original : Registry σ) : Registry (Watched σ) :=
  ⟨original.tools.map tool⟩

/-- An oracle whose consultations are noted. -/
def oracle (original : Oracle σ) : Oracle (Watched σ) where
  name := original.name
  decide messages catalogue := noting (.consulted messages) (original.decide messages catalogue)

/-- A memory store whose uses are noted. -/
def store (original : MemoryStore σ) : MemoryStore (Watched σ) where
  name := original.name
  search query userId limit :=
    noting (.searched query userId limit) (original.search query userId limit)
  add turn userId := noting (.added turn userId) (original.add turn userId)

end Watched

/-- From a world on, the watched computation does what the plain one does and notes the events. -/
def Notes (watched : Watched σ → α × Watched σ) (plain : σ → α × σ) (world : σ)
    (events : List (Event σ)) : Prop :=
  ∀ past, watched ⟨past, world⟩ = ((plain world).1, ⟨past ++ events, (plain world).2⟩)

/-- From a world on, the watched computation does what the plain one does and notes nothing but
work. -/
def NotesWork (watched : Watched σ → α × Watched σ) (plain : σ → α × σ) (world : σ) : Prop :=
  ∃ events, (∀ event ∈ events, event.IsWork) ∧ Notes watched plain world events

/-- One step after another notes only work if both do. -/
theorem NotesWork.composes :
    Composes fun (α : Type) (watched : Watched σ → α × Watched σ) plain =>
      ∀ world, NotesWork watched plain world where
  outcome outcome world := ⟨[], by simp, fun past => by simp⟩
  andThen := by
    intro α β watched plain next otherNext hfirst hnext world
    obtain ⟨earlier, hearlier, hfirst⟩ := hfirst world
    obtain ⟨later, hlater, hnext⟩ := hnext (plain world).1 (plain world).2
    refine ⟨earlier ++ later, fun event hevent => ?_, fun past => ?_⟩
    · exact (List.mem_append.mp hevent).elim (hearlier event) (hlater event)
    · simp only [ToolAssistant.andThen, hfirst past, hnext (past ++ earlier), List.append_assoc]

/-! ## Calls -/

/-- The invocations that resolving a call takes: one, or none if no tool has that name or its schema
refuses the arguments. -/
def Registry.invocations (registry : Registry σ) (call : ToolCall) : List (Tool σ × Args) :=
  match registry.find? call.name with
  | none => []
  | some tool =>
    match tool.spec.schema.validate tool.spec.name call.arguments with
    | .error _ => []
    | .ok args => [(tool, args)]

/-- An invocation as an event. -/
def Event.ofInvocation (invocation : Tool σ × Args) : Event σ :=
  .invoked invocation.1 invocation.2

namespace Watched

@[simp]
theorem registry_names (original : Registry σ) : (registry original).names = original.names := by
  simp [registry, Registry.names, tool]

@[simp]
theorem registry_catalogue (original : Registry σ) :
    (registry original).catalogue = original.catalogue := by
  simp [registry, Registry.catalogue, tool]

private theorem registry_find? (original : Registry σ) (name : String) :
    (registry original).find? name = (original.find? name).map tool := by
  rw [Registry.find?, Registry.find?, registry, List.find?_map]
  rfl

private theorem registry_perform (original : Registry σ) (limit : Duration) (call : ToolCall)
    (world : σ) :
    Notes ((registry original).perform limit call) (original.perform limit call) world
      ((original.invocations call).map .ofInvocation) := by
  intro past
  unfold Registry.perform Registry.invocations
  rw [registry_find?, Registry.unknownTool, registry_names, ← Registry.unknownTool]
  cases original.find? call.name with
  | none => simp
  | some found =>
      have hspec : (tool found).spec = found.spec := rfl
      simp only [Option.map_some, hspec]
      cases found.spec.schema.validate found.spec.name call.arguments with
      | error failure => simp
      | ok args => rfl

/-- **Resolving a call notes its invocations.** -/
theorem registry_resolve (original : Registry σ) (limit : Duration) (call : ToolCall) (world : σ) :
    Notes ((registry original).resolve limit call) (original.resolve limit call) world
      ((original.invocations call).map .ofInvocation) := by
  intro past
  rw [Registry.resolve, registry_perform original limit call world past, Registry.resolve]
  rcases original.perform limit call world with ⟨outcome, after⟩
  cases outcome <;> rfl

end Watched

/-! ## Turns -/

namespace Orchestrator

/-- The orchestrator in a watched world. -/
def watched (self : Orchestrator σ) : Orchestrator (Watched σ) where
  oracle := Watched.oracle self.oracle
  registry := Watched.registry self.registry
  limits := self.limits
  schedule := self.schedule

private theorem watched_related (self : Orchestrator σ) :
    Related (fun _ watched plain => ∀ world, NotesWork watched plain world) self.watched self where
  limits := rfl
  schedule := rfl
  oracle messages catalogue world :=
    ⟨[.consulted messages], by simp [Event.IsWork], fun past => rfl⟩
  registry :=
    .of_map (fun tool => rfl) fun tool args world =>
      ⟨[.invoked tool args], by simp [Event.IsWork], fun past => rfl⟩

/-- **A turn does the same in a watched world, and notes only its work.** -/
theorem watched_run (self : Orchestrator σ) (systemPrompt userInput : String) (world : σ) :
    NotesWork (self.watched.run systemPrompt userInput) (self.run systemPrompt userInput) world :=
  run_related NotesWork.composes self.watched_related systemPrompt userInput world

end Orchestrator

/-! ## Memory -/

namespace MemoryGateway

/-- The gateway in a watched world. -/
def watched (self : MemoryGateway σ) : MemoryGateway (Watched σ) where
  store := self.store.map Watched.store
  minQueryChars := self.minQueryChars
  maxSnippets := self.maxSnippets
  timeout := self.timeout

/-- What is asked of the store to look up a query: nothing if the query is too short or there is no
store. -/
def lookups (self : MemoryGateway σ) (query userId : String) : List (Event σ) :=
  if self.isEnabled ∧ self.minQueryChars ≤ (Text.trim query).length then
    [.searched (Text.trim query) userId self.maxSnippets]
  else []

/-- What is asked of the store to keep a turn: nothing if there is no store. -/
def additions (self : MemoryGateway σ) (turn : Turn) (userId : String) : List (Event σ) :=
  if self.isEnabled then [.added turn userId] else []

theorem watched_backendName (self : MemoryGateway σ) :
    self.watched.backendName = self.backendName := by
  unfold backendName watched
  cases self.store <;> rfl

theorem isEnabled_of_store {self : MemoryGateway σ} {store : MemoryStore σ}
    (hstore : self.store = .ok store) : self.isEnabled = true := by
  rw [isEnabled, hstore]
  rfl

theorem isEnabled_of_reason {self : MemoryGateway σ} {reason : String}
    (hstore : self.store = .error reason) : self.isEnabled = false := by
  rw [isEnabled, hstore]
  rfl

/-- Looking up a query notes the search. -/
theorem watched_retrieve (self : MemoryGateway σ) (query userId : String) (world : σ) :
    Notes (self.watched.retrieve query userId) (self.retrieve query userId) world
      (self.lookups query userId) := by
  intro past
  have hwatched : self.watched.store = self.store.map Watched.store := rfl
  have hmin : self.watched.minQueryChars = self.minQueryChars := rfl
  unfold retrieve lookups
  rw [hmin, hwatched]
  by_cases hshort : (Text.trim query).length < self.minQueryChars
  · simp [hshort]
  · cases hstore : self.store with
    | error reason => simp [hshort, isEnabled_of_reason hstore, Except.map]
    | ok store =>
        have hlong := Nat.le_of_not_lt hshort
        have hsearch := Watched.noting_within
          (.searched (Text.trim query) userId self.maxSnippets)
          (store.search (Text.trim query) userId self.maxSnippets) self.timeout past world
        simp only [hshort, if_false, isEnabled_of_store hstore, hlong, and_self, if_true,
          Except.map, watched, Watched.store, hsearch]
        rcases Action.within self.timeout _ world with ⟨_ | failure | snippets, after⟩ <;> rfl

/-- Keeping a turn notes the addition. -/
theorem watched_remember (self : MemoryGateway σ) (turn : Turn) (userId : String) (world : σ) :
    Notes (self.watched.remember turn userId) (self.remember turn userId) world
      (self.additions turn userId) := by
  intro past
  have hwatched : self.watched.store = self.store.map Watched.store := rfl
  unfold remember additions
  rw [hwatched]
  cases hstore : self.store with
  | error reason => simp [isEnabled_of_reason hstore, Except.map]
  | ok store =>
      have hadd := Watched.noting_within (.added turn userId) (store.add turn userId) self.timeout
        past world
      simp only [isEnabled_of_store hstore, if_true, Except.map, watched, Watched.store, hadd]
      rcases Action.within self.timeout _ world with ⟨_ | failure | _, after⟩ <;> rfl

end MemoryGateway

end ToolAssistant
