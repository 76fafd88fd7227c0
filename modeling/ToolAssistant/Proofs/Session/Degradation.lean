import ToolAssistant.Proofs.Session.Parts
import ToolAssistant.Proofs.Turn.Journal

/-!
# Degraded memory goes unnoticed

Two sessions that differ only in their memory are compared by what they tell (`accounts`,
`linesAccount`): how every turn went and what the oracle was shown, but neither the stamps of the
turns nor what was stored.

* A store of which every search fails or is late is as good as none.
* If what a store finds does not depend on what it is given, it does not matter what comes of
  adding.

## Strategy

All that a turn sees of memory is the section that it makes in the prompt.  So sessions whose
memories make the same sections, turn after turn (`SameSections`), tell the same, and each of the
two statements is an induction on the inputs that says so of its memories.
-/

namespace ToolAssistant

variable {σ τ μ ν : Type}

/-! ## What a session tells -/

/-- A turn without its stamp. -/
def Turn.unstamped (turn : Turn) : Turn :=
  { turn with id := "", timestamp := ⟨⟨1970, 1, 1⟩, 0, 0⟩ }

/-- A session without the stamps of its turns. -/
def Session.unstamped (session : Session) : Session :=
  { session with history := session.history.map .unstamped }

/-- Recording turns that differ in their stamps keeps sessions equal but for the stamps. -/
theorem unstamped_record {session otherSession : Session} {turn otherTurn : Turn}
    (hsession : session.unstamped = otherSession.unstamped)
    (hturn : turn.unstamped = otherTurn.unstamped) :
    ({ session with history := session.history ++ [turn] } : Session).unstamped =
      ({ otherSession with
        history := otherSession.history ++ [otherTurn] } : Session).unstamped := by
  have hhistory : session.unstamped.history = otherSession.unstamped.history :=
    congrArg Session.history hsession
  have hactive : session.unstamped.active = otherSession.unstamped.active :=
    congrArg Session.active hsession
  simp only [Session.unstamped] at hhistory hactive ⊢
  rw [List.map_append, List.map_append, List.map_singleton, List.map_singleton, hhistory, hturn,
    hactive]

/-- Ending sessions keeps them equal but for the stamps. -/
theorem unstamped_ended {session otherSession : Session}
    (hsession : session.unstamped = otherSession.unstamped) :
    ({ session with active := false } : Session).unstamped =
      ({ otherSession with active := false } : Session).unstamped := by
  have hhistory : session.unstamped.history = otherSession.unstamped.history :=
    congrArg Session.history hsession
  simp only [Session.unstamped] at hhistory ⊢
  rw [hhistory]

/-- What can be told after a turn: its result, the session, and all message lists that the oracle
has been shown. -/
structure TurnAccount where
  result : Except Failure Turn
  session : Session
  shown : List (List Message)

/-- What can be told after lines of input: how they ended, the session, what was written, and all
message lists that the oracle has been shown. -/
structure LinesAccount where
  result : Except Controller.ConsoleError Unit
  session : Session
  output : Output
  shown : List (List Message)

/-- The queries among lines of input, up to the first line that ends the session or is no text. -/
def queries : List InputLine → List String
  | [] => []
  | none :: _ => []
  | some line :: rest =>
    match SessionCommand.ofLine line with
    | .query query => query :: queries rest
    | .exit => []
    | .info | .empty => queries rest

namespace Controller

/-- The turns of a session, one for each input, told without stamps. -/
def accounts (self : Controller (Journaled σ × μ)) (session : Session) :
    List String → Journaled σ × μ → List TurnAccount
  | [], _ => []
  | input :: rest, world =>
    let (result, next, after) := self.runTurn session input world
    ⟨result.map .unstamped, next.unstamped, after.1.shown⟩ :: self.accounts next rest after

/-- Lines of input, told without stamps. -/
def linesAccount (self : Controller (Journaled σ × μ)) (session : Session) (output : Output)
    (lines : List InputLine) (world : Journaled σ × μ) : LinesAccount :=
  let run := self.runLines session output world lines
  ⟨run.result, run.session.unstamped, run.output, run.world.1.shown⟩

/-! ## Memories that make the same sections -/

/-- Turn after turn, the memories of two sessions make the same section of the prompt. -/
def SameSections (first : Controller σ) (second : Controller τ) :
    Session → Session → List String → σ → τ → Prop
  | _, _, [], _, _ => True
  | session, otherSession, input :: rest, world, other =>
    let (_, next, after) := first.runTurn session input world
    let (_, otherNext, otherAfter) := second.runTurn otherSession input other
    Prompt.memorySection (first.gateway.retrieve input first.userId world).1 =
        Prompt.memorySection (second.gateway.retrieve input second.userId other).1 ∧
      SameSections first second next otherNext rest after otherAfter

/-- Whatever turns two memories are given and however those are stamped, `Kept` stays true of the
worlds of the memories. -/
structure KeptByTurns (Kept : μ → ν → Prop) (gateway : MemoryGateway μ)
    (otherGateway : MemoryGateway ν) (stamp : μ → (String × Instant) × μ)
    (otherStamp : ν → (String × Instant) × ν) : Prop where
  stamp : ∀ memory other, Kept memory other → Kept (stamp memory).2 (otherStamp other).2
  remember : ∀ turn otherTurn userId memory other, Kept memory other →
    Kept (gateway.remember turn userId memory).2 (otherGateway.remember otherTurn userId other).2

/-- Two turns came to the same, apart from their stamps and from what memory keeps. -/
structure SameTurn (Kept : μ → ν → Prop) (first : Except Failure Turn × Session × σ × μ)
    (second : Except Failure Turn × Session × σ × ν) : Prop where
  result : first.1.map Turn.unstamped = second.1.map Turn.unstamped
  session : first.2.1.unstamped = second.2.1.unstamped
  world : first.2.2.1 = second.2.2.1
  kept : Kept first.2.2.2 second.2.2.2

section Alike

variable {gateway : MemoryGateway μ} {otherGateway : MemoryGateway ν}
  {stamp : μ → (String × Instant) × μ} {otherStamp : ν → (String × Instant) × ν}
  {session otherSession : Session} {memory : μ} {other : ν}

/-- **A turn tells the same if the two memories make the same section.** -/
theorem runTurn_sameTurn {Kept : μ → ν → Prop}
    (hkeeps : KeptByTurns Kept gateway otherGateway stamp otherStamp)
    (orchestrator : Orchestrator σ) (instructions userId input : String) (world : σ)
    (hsession : session.unstamped = otherSession.unstamped)
    (hsection : Prompt.memorySection (gateway.retrieve input userId memory).1 =
      Prompt.memorySection (otherGateway.retrieve input userId other).1)
    (hkept : Kept (gateway.retrieve input userId memory).2
      (otherGateway.retrieve input userId other).2) :
    SameTurn Kept
      ((inParts orchestrator gateway stamp instructions userId).runTurn session input
        (world, memory))
      ((inParts orchestrator otherGateway otherStamp instructions userId).runTurn otherSession input
        (world, other)) := by
  rcases hretrieve : gateway.retrieve input userId memory with ⟨retrieval, searched⟩
  rcases hretrieve' : otherGateway.retrieve input userId other with ⟨retrieval', searched'⟩
  rw [hretrieve, hretrieve'] at hsection hkept
  -- Equal sections make equal prompts, and the work sees nothing of memory but the prompt.
  let prompt (retrieval : Retrieval) :=
    Prompt.compose instructions orchestrator.registry.catalogue retrieval
  have hprompt : prompt retrieval = prompt retrieval' := by
    simp only [prompt, Prompt.compose, hsection]
  rcases hrun : orchestrator.run (prompt retrieval) input world with ⟨result, worked⟩
  have hrun' : orchestrator.run (prompt retrieval') input world = (result, worked) := by
    rw [← hprompt, hrun]
  cases result with
  | error failure =>
      rw [runTurn_inParts_of_failure hretrieve hrun, runTurn_inParts_of_failure hretrieve' hrun']
      exact ⟨rfl, hsession, rfl, hkept⟩
  | ok outcome =>
      have hstamped := hkeeps.stamp searched searched' hkept
      rcases hstamp : stamp searched with ⟨⟨id, timestamp⟩, stamped⟩
      rcases hstamp' : otherStamp searched' with ⟨⟨id', timestamp'⟩, stamped'⟩
      rw [hstamp, hstamp'] at hstamped
      rw [runTurn_inParts_of_outcome hretrieve hrun hstamp rfl,
        runTurn_inParts_of_outcome hretrieve' hrun' hstamp' rfl]
      exact ⟨rfl, unstamped_record hsession rfl, rfl,
        hkeeps.remember _ _ userId stamped stamped' hstamped⟩

/-- What memory keeps does not matter to the sections of a whole session if it does not matter to
one. -/
theorem sameSections_of_kept {Kept : μ → ν → Prop}
    (hkeeps : KeptByTurns Kept gateway otherGateway stamp otherStamp)
    (orchestrator : Orchestrator σ) (instructions userId : String)
    (hretrieve : ∀ input memory other, Kept memory other →
      Prompt.memorySection (gateway.retrieve input userId memory).1 =
          Prompt.memorySection (otherGateway.retrieve input userId other).1 ∧
        Kept (gateway.retrieve input userId memory).2 (otherGateway.retrieve input userId other).2)
    (inputs : List String) (world : σ) (hsession : session.unstamped = otherSession.unstamped)
    (hkept : Kept memory other) :
    SameSections (inParts orchestrator gateway stamp instructions userId)
      (inParts orchestrator otherGateway otherStamp instructions userId) session otherSession inputs
      (world, memory) (world, other) := by
  induction inputs generalizing session otherSession world memory other with
  | nil => trivial
  | cons input inputs ih =>
      obtain ⟨hsection, hsearched⟩ := hretrieve input memory other hkept
      have hturn := runTurn_sameTurn hkeeps orchestrator instructions userId input world hsession
        hsection hsearched
      rw [← inParts_retrieval orchestrator gateway stamp instructions userId input world memory,
        ← inParts_retrieval orchestrator otherGateway otherStamp instructions userId input world
          other] at hsection
      simp only [SameSections]
      rcases hfirst : runTurn _ session input (world, memory) with ⟨result, next, worked, kept⟩
      rcases hsecond : runTurn _ otherSession input (world, other) with
        ⟨result', next', worked', kept'⟩
      rw [hfirst, hsecond] at hturn
      obtain ⟨-, hnext, hworld, hafter⟩ := hturn
      obtain rfl : worked = worked' := hworld
      exact ⟨hsection, ih worked hnext hafter⟩

variable {orchestrator : Orchestrator (Journaled σ)} {instructions userId : String}

/-- Two turns whose memories make the same section, one of them with all that follows. -/
private theorem runTurn_of_sameSections {input : String} {inputs : List String}
    {world : Journaled σ} (hsession : session.unstamped = otherSession.unstamped)
    (hsections : SameSections (inParts orchestrator gateway stamp instructions userId)
      (inParts orchestrator otherGateway otherStamp instructions userId) session otherSession
      (input :: inputs) (world, memory) (world, other)) :
    ∃ result result' next next' worked kept kept',
      (inParts orchestrator gateway stamp instructions userId).runTurn session input
        (world, memory) = (result, next, worked, kept) ∧
      (inParts orchestrator otherGateway otherStamp instructions userId).runTurn otherSession input
        (world, other) = (result', next', worked, kept') ∧
      result.map Turn.unstamped = result'.map Turn.unstamped ∧ next.unstamped = next'.unstamped ∧
      SameSections (inParts orchestrator gateway stamp instructions userId)
        (inParts orchestrator otherGateway otherStamp instructions userId) next next' inputs
        (worked, kept) (worked, kept') := by
  have hkeeps : KeptByTurns (fun _ _ => True) gateway otherGateway stamp otherStamp :=
    ⟨fun _ _ _ => trivial, fun _ _ _ _ _ _ => trivial⟩
  simp only [SameSections] at hsections
  obtain ⟨hsection, hrest⟩ := hsections
  rw [inParts_retrieval orchestrator gateway, inParts_retrieval orchestrator otherGateway]
    at hsection
  have hturn := runTurn_sameTurn hkeeps orchestrator instructions userId input world hsession
    hsection trivial
  rcases hfirst : runTurn _ session input (world, memory) with ⟨result, next, worked, kept⟩
  rcases hsecond : runTurn _ otherSession input (world, other) with ⟨result', next', worked', kept'⟩
  rw [hfirst, hsecond] at hturn hrest
  obtain ⟨hresult, hnext, hworld, -⟩ := hturn
  obtain rfl : worked = worked' := hworld
  exact ⟨result, result', next, next', worked, kept, kept', rfl, rfl, hresult, hnext, hrest⟩

/-- **Sessions whose memories make the same sections tell the same, turn by turn.** -/
theorem accounts_of_sameSections {inputs : List String} {world : Journaled σ}
    (hsession : session.unstamped = otherSession.unstamped)
    (hsections : SameSections (inParts orchestrator gateway stamp instructions userId)
      (inParts orchestrator otherGateway otherStamp instructions userId) session otherSession
      inputs (world, memory) (world, other)) :
    (inParts orchestrator gateway stamp instructions userId).accounts session inputs
        (world, memory) =
      (inParts orchestrator otherGateway otherStamp instructions userId).accounts otherSession
        inputs (world, other) := by
  induction inputs generalizing session otherSession world memory other with
  | nil => rfl
  | cons input inputs ih =>
      obtain ⟨result, result', next, next', worked, kept, kept', hfirst, hsecond, hresult, hnext,
        hrest⟩ := runTurn_of_sameSections hsession hsections
      have hlater := ih hnext hrest
      simp only [accounts, hfirst, hsecond, hresult, hnext, hlater]

/-- A text that is shown for a turn tells nothing of its stamp. -/
theorem turnText_unstamped (result : Except Failure Turn) :
    turnText (result.map Turn.unstamped) = turnText result := by
  cases result <;> rfl

/-- A report tells nothing of the stamps. -/
theorem reportText_unstamped (session : Session) :
    reportText session.unstamped = reportText session := by
  simp only [reportText, Session.unstamped, List.length_map]

/-- A line is answered the same, and the queries after it remain. -/
private theorem respond_of_sameSections {line : String} {lines : List InputLine}
    {world : Journaled σ} (hsession : session.unstamped = otherSession.unstamped)
    (hsections : SameSections (inParts orchestrator gateway stamp instructions userId)
      (inParts orchestrator otherGateway otherStamp instructions userId) session otherSession
      (queries (some line :: lines)) (world, memory) (world, other)) :
    ∃ text next next' worked kept kept',
      (inParts orchestrator gateway stamp instructions userId).respond (.ofLine line) session
        (world, memory) = (text, next, worked, kept) ∧
      (inParts orchestrator otherGateway otherStamp instructions userId).respond (.ofLine line)
        otherSession (world, other) = (text, next', worked, kept') ∧
      next.unstamped = next'.unstamped ∧
      (SessionCommand.ofLine line ≠ .exit →
        SameSections (inParts orchestrator gateway stamp instructions userId)
          (inParts orchestrator otherGateway otherStamp instructions userId) next next'
          (queries lines) (worked, kept) (worked, kept')) := by
  unfold queries at hsections
  cases hcommand : SessionCommand.ofLine line with
  | empty =>
      rw [hcommand] at hsections
      exact ⟨_, _, _, _, _, _, rfl, rfl, hsession, fun _ => hsections⟩
  | exit => exact ⟨_, _, _, _, _, _, rfl, rfl, hsession, fun hgoesOn => absurd rfl hgoesOn⟩
  | info =>
      rw [hcommand] at hsections
      have hreport : reportText session = reportText otherSession := by
        rw [← reportText_unstamped, hsession, reportText_unstamped]
      simp only [respond, hreport]
      exact ⟨_, _, _, _, _, _, rfl, rfl, hsession, fun _ => hsections⟩
  | query query =>
      rw [hcommand] at hsections
      obtain ⟨result, result', next, next', worked, kept, kept', hfirst, hsecond, hresult, hnext,
        hrest⟩ := runTurn_of_sameSections hsession hsections
      have htext : turnText result = turnText result' := by
        rw [← turnText_unstamped, hresult, turnText_unstamped]
      simp only [respond, hfirst, hsecond, htext]
      exact ⟨_, _, _, _, _, _, rfl, rfl, hnext, fun _ => hrest⟩

/-- Sessions whose memories make the same sections write the same for lines of input. -/
theorem linesAccount_of_sameSections {output : Output} {lines : List InputLine}
    {world : Journaled σ} (hsession : session.unstamped = otherSession.unstamped)
    (hsections : SameSections (inParts orchestrator gateway stamp instructions userId)
      (inParts orchestrator otherGateway otherStamp instructions userId) session otherSession
      (queries lines) (world, memory) (world, other)) :
    (inParts orchestrator gateway stamp instructions userId).linesAccount session output lines
        (world, memory) =
      (inParts orchestrator otherGateway otherStamp instructions userId).linesAccount otherSession
        output lines (world, other) := by
  unfold linesAccount
  induction lines generalizing session otherSession output world memory other with
  | nil =>
      simp only [runLines]
      rcases output.write (inputPrompt ++ "\n") with ⟨_ | _, shown⟩
      · simp only [hsession]
      · simp only [unstamped_ended hsession]
  | cons line lines ih =>
      cases line with
      | none =>
          simp only [runLines]
          rcases output.write inputPrompt with ⟨_ | _, shown⟩ <;> simp only [hsession]
      | some line =>
          obtain ⟨text, next, next', worked, kept, kept', hfirst, hsecond, hnext, hrest⟩ :=
            respond_of_sameSections hsession hsections
          simp only [runLines, hfirst, hsecond]
          rcases output.write inputPrompt with ⟨_ | _, prompted⟩
          · simp only [hsession]
          · dsimp only
            rcases prompted.write text with ⟨_ | _, shown⟩
            · simp only [hnext]
            · dsimp only
              split_ifs with hexit
              · simp only [unstamped_ended hnext]
              · exact ih hnext (hrest hexit)

end Alike

/-! ## Searches that fail -/

/-- Every search that the turns make fails or is late. -/
def SearchesFail (self : Controller σ) : Session → List String → σ → Prop
  | _, [], _ => True
  | session, input :: rest, world =>
    let query := Text.trim input
    let (_, next, after) := self.runTurn session input world
    (∀ store, self.gateway.store = .ok store → self.gateway.minQueryChars ≤ query.length →
      let found := ((store.search query self.userId self.gateway.maxSnippets).within
        self.gateway.timeout world).1
      found = none ∨ ∃ failure, found = some (.error failure)) ∧
      SearchesFail self next rest after

theorem searchesFail_of_disabled {self : Controller σ} {reason : String}
    (hdisabled : self.gateway.store = .error reason) (session : Session) (inputs : List String)
    (world : σ) : self.SearchesFail session inputs world := by
  induction inputs generalizing session world with
  | nil => trivial
  | cons input inputs ih =>
      refine ⟨fun store hstore => ?_, ih _ _⟩
      rw [hdisabled] at hstore
      exact nomatch hstore

/-- A search that fails makes no section of the prompt. -/
theorem memorySection_of_searchesFail {self : Controller σ} {session : Session} {input : String}
    {inputs : List String} {world : σ}
    (hfails : self.SearchesFail session (input :: inputs) world) :
    Prompt.memorySection (self.gateway.retrieve input self.userId world).1 = "" := by
  unfold MemoryGateway.retrieve
  dsimp only
  split_ifs with hshort
  · rfl
  · cases hstore : self.gateway.store with
    | error reason => rfl
    | ok store =>
        have hfound := hfails.1 store hstore (Nat.le_of_not_lt hshort)
        rcases hsearch : (store.search (Text.trim input) self.userId
          self.gateway.maxSnippets).within self.gateway.timeout world with ⟨found, after⟩
        rw [hsearch] at hfound
        rcases hfound with rfl | ⟨failure, rfl⟩ <;> simp only [hsearch] <;> rfl

theorem sameSections_of_searchesFail {self : Controller σ} {other : Controller τ}
    {session otherSession : Session} {inputs : List String} {world : σ} {otherWorld : τ}
    (hself : self.SearchesFail session inputs world)
    (hother : other.SearchesFail otherSession inputs otherWorld) :
    SameSections self other session otherSession inputs world otherWorld := by
  induction inputs generalizing session otherSession world otherWorld with
  | nil => trivial
  | cons input inputs ih =>
      refine ⟨?_, ih hself.2 hother.2⟩
      rw [memorySection_of_searchesFail hself, memorySection_of_searchesFail hother]

/-! ## Degraded memory -/

/-- What is added to a store of two parts makes no difference to the sections. -/
theorem sameSections_ofParts (orchestrator : Orchestrator σ) (instructions userId name : String)
    (search : String → String → Nat → Action ν (Except Failure (List Snippet)))
    (add otherAdd : Turn → String → Action μ (Except Failure Unit))
    (minQueryChars maxSnippets : Nat) (timeout : Duration)
    (stamp otherStamp : μ → (String × Instant) × μ) (session : Session)
    (inputs : List String) (world : σ) (searched : ν) (added otherAdded : μ) :
    SameSections
      (inParts orchestrator ⟨.ok (.ofParts name search add), minQueryChars, maxSnippets, timeout⟩
        (onSecond stamp) instructions userId)
      (inParts orchestrator
        ⟨.ok (.ofParts name search otherAdd), minQueryChars, maxSnippets, timeout⟩
        (onSecond otherStamp) instructions userId)
      session session inputs (world, searched, added) (world, searched, otherAdded) := by
  let Kept (memory other : ν × μ) : Prop := memory.1 = other.1
  have hkeeps : KeptByTurns Kept
      ⟨.ok (.ofParts name search add), minQueryChars, maxSnippets, timeout⟩
      ⟨.ok (.ofParts name search otherAdd), minQueryChars, maxSnippets, timeout⟩
      (onSecond stamp) (onSecond otherStamp) := by
    refine ⟨fun _ _ hkept => hkept, fun turn otherTurn userId memory other hkept => ?_⟩
    show Prod.fst _ = Prod.fst _
    rw [MemoryGateway.remember_ofParts, MemoryGateway.remember_ofParts, hkept]
  refine sameSections_of_kept hkeeps orchestrator instructions userId ?_ inputs world rfl rfl
  rintro input ⟨searched, added⟩ ⟨_, otherAdded⟩ rfl
  obtain ⟨retrieval, after, hfirst, hsecond⟩ := MemoryGateway.retrieve_ofParts name search add
    otherAdd minQueryChars maxSnippets timeout input userId searched added otherAdded
  rw [hfirst, hsecond]
  exact ⟨rfl, rfl⟩

/-- **Degraded memory goes unnoticed.**  The oracle may decide by all that it was shown so far, and
the tools act by what they did so far; neither sees memory.  Then a session in which every search
fails or is late tells the same as one without a store, and where what a store finds is fixed,
whatever it is given, it does not matter what comes of adding. -/
theorem degraded_memory_unnoticed (orchestrator : Orchestrator σ) (instructions userId : String)
    (minQueryChars maxSnippets : Nat) (timeout : Duration) (session : Session)
    (world : Journaled σ) :
    (∀ (μ : Type) (store : MemoryStore μ) (reason : String)
      (stamp otherStamp : μ → (String × Instant) × μ) (memory other : μ),
      let served := inParts orchestrator.journaled
        ⟨.ok store, minQueryChars, maxSnippets, timeout⟩ stamp instructions userId
      let disabled := inParts orchestrator.journaled
        ⟨.error reason, minQueryChars, maxSnippets, timeout⟩ otherStamp instructions userId
      (∀ inputs, served.SearchesFail session inputs (world, memory) →
        served.accounts session inputs (world, memory) =
          disabled.accounts session inputs (world, other)) ∧
      ∀ output lines, served.SearchesFail session (queries lines) (world, memory) →
        served.linesAccount session output lines (world, memory) =
          disabled.linesAccount session output lines (world, other)) ∧
    ∀ (ν μ : Type) (name : String)
      (search : String → String → Nat → Action ν (Except Failure (List Snippet)))
      (add otherAdd : Turn → String → Action μ (Except Failure Unit))
      (stamp otherStamp : μ → (String × Instant) × μ) (searched : ν) (added otherAdded : μ),
      let first := inParts orchestrator.journaled
        ⟨.ok (.ofParts name search add), minQueryChars, maxSnippets, timeout⟩ (onSecond stamp)
        instructions userId
      let second := inParts orchestrator.journaled
        ⟨.ok (.ofParts name search otherAdd), minQueryChars, maxSnippets, timeout⟩
        (onSecond otherStamp) instructions userId
      (∀ inputs, first.accounts session inputs (world, searched, added) =
        second.accounts session inputs (world, searched, otherAdded)) ∧
      ∀ output lines, first.linesAccount session output lines (world, searched, added) =
        second.linesAccount session output lines (world, searched, otherAdded) := by
  constructor
  · intro μ store reason stamp otherStamp memory other served disabled
    have hsections (inputs : List String) (hfails : served.SearchesFail session inputs _) :
        SameSections served disabled session session inputs (world, memory) (world, other) :=
      sameSections_of_searchesFail hfails (searchesFail_of_disabled rfl session inputs _)
    exact ⟨fun inputs hfails => accounts_of_sameSections rfl (hsections inputs hfails),
      fun output lines hfails => linesAccount_of_sameSections rfl (hsections _ hfails)⟩
  · intro ν μ name search add otherAdd stamp otherStamp searched added otherAdded first second
    have hsections (inputs : List String) := sameSections_ofParts orchestrator.journaled
      instructions userId name search add otherAdd minQueryChars maxSnippets timeout stamp
      otherStamp session inputs world searched added otherAdded
    exact ⟨fun inputs => accounts_of_sameSections rfl (hsections inputs),
      fun output lines => linesAccount_of_sameSections rfl (hsections _)⟩

/-- A store whose searches never end; it counts what it is asked. -/
def deafStore : MemoryStore Nat where
  name := "deaf"
  search _ _ _ := fun count => (.never, count + 1)
  add _ _ := fun count => (.ends .zero (.ok ()), count + 1)

/-- A session with a store that never answers. -/
def unheard : Controller (Journaled Nat × Nat) :=
  inParts greeter.orchestrator.journaled ⟨.ok deafStore, 3, 5, .ofSeconds 2⟩ greeter.stamp
    "Be brief." "anna"

/-- The same session without a store. -/
def forgetful : Controller (Journaled Nat × Nat) :=
  inParts greeter.orchestrator.journaled ⟨.error "disabled", 3, 5, .ofSeconds 2⟩ greeter.stamp
    "Be brief." "anna"

theorem degraded_memory_unnoticed_deaf :
    unheard.SearchesFail .fresh ["Good day"] (⟨[], 0⟩, 0) ∧
      unheard.accounts .fresh ["Good day"] (⟨[], 0⟩, 0) =
        forgetful.accounts .fresh ["Good day"] (⟨[], 0⟩, 0) := by
  have hfails : unheard.SearchesFail .fresh ["Good day"] (⟨[], 0⟩, 0) := by
    refine ⟨fun store hstore _ => Or.inl ?_, trivial⟩
    obtain rfl : deafStore.beside (Journaled Nat) = store := Except.ok.inj hstore
    rfl
  have htells := degraded_memory_unnoticed greeter.orchestrator "Be brief." "anna" 3 5
    (.ofSeconds 2) .fresh ⟨[], 0⟩
  exact ⟨hfails, (htells.1 Nat deafStore "disabled" greeter.stamp greeter.stamp 0 0).1 _ hfails⟩

end Controller

end ToolAssistant
