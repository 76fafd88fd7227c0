import ToolAssistant.Proofs.Watched

/-!
# A conversation

The reference for an interactive session is a fold over the lines that it hears, which are those up
to the first that ends it.  `Controller.Takes` says what one line comes to after the turns so far,
and `Controller.Converses` strings the lines together.

`Controller.run_converses` says that a session which is active runs so, as long as there is room for
what it writes: with the same turns in its history, the same text shown, and, in a watched world,
with exactly the events of its lines.  `Controller.Accounts` lists what can be read off the lines.

## Strategy

One lemma for a single line (`respond_takes`) gives its record, with and without watching.  An
induction on the lines puts the records together.
-/

namespace ToolAssistant

variable {σ : Type}

/-! ## What is written -/

namespace Output

/-- There is room for all of a text. -/
def HasRoomFor (output : Output) (text : String) : Prop :=
  ∀ room, output.room = some room → text.utf8ByteSize ≤ room

/-- The output after a text for which there was room. -/
def append (output : Output) (text : String) : Output :=
  ⟨output.text ++ text, output.room.map (· - text.utf8ByteSize)⟩

theorem write_of_hasRoomFor {output : Output} {text : String} (hroom : output.HasRoomFor text) :
    output.write text = (true, output.append text) := by
  unfold write append
  cases hbound : output.room with
  | none => simp
  | some room => simp [hroom room hbound]

@[simp]
theorem append_append (output : Output) (first second : String) :
    (output.append first).append second = output.append (first ++ second) := by
  unfold append
  cases output.room with
  | none => simp [String.append_assoc]
  | some room => simp [String.append_assoc, String.utf8ByteSize_append, Nat.sub_sub]

/-- There is room for two texts if there is room for the first and then for the second. -/
theorem hasRoomFor_append {output : Output} {first second : String} :
    output.HasRoomFor (first ++ second) ↔
      output.HasRoomFor first ∧ (output.append first).HasRoomFor second := by
  unfold HasRoomFor append
  cases output.room with
  | none => simp
  | some room =>
      simp only [Option.some.injEq, forall_eq', Option.map_some, String.utf8ByteSize_append]
      omega

end Output

/-! ## The lines of a session -/

/-- What the lines that a session hears ask for: those up to the first that ends it. -/
def heard : List String → List SessionCommand
  | [] => []
  | line :: rest =>
    let command := SessionCommand.ofLine line
    if command = .exit then [command] else command :: heard rest

/-- What comes of one line. -/
inductive Reaction where
  | blank
  | farewell
  | report (turns : Nat)
  | answered (turn : Turn)
  | failed (failure : Failure)

/-- The text that is shown. -/
def Reaction.text : Reaction → String
  | blank => "Please enter a message.\n\n"
  | farewell => "\nGoodbye! Your conversation has been saved to memory.\n"
  | report turns =>
    "\nYou've had " ++ toString turns ++ " conversation turn(s) in this session.\n\n"
  | answered turn => "Assistant: " ++ turn.answer ++ "\n\n"
  | failed failure =>
    "\nError: " ++ failure.hint ++ "\nPlease try again or type 'exit' to quit.\n\n"

/-- The turns that are recorded: one, or none. -/
def Reaction.turns : Reaction → List Turn
  | answered turn => [turn]
  | _ => []

/-- One line of a session: what it asked for, what came of it, and what was asked of the world
meanwhile. -/
structure LineRecord (σ : Type) where
  command : SessionCommand
  reaction : Reaction
  events : List (Event σ)

/-- The turns that the lines recorded. -/
def turnsOf (records : List (LineRecord σ)) : List Turn :=
  records.flatMap (·.reaction.turns)

/-- The text that the lines showed.  Where no line ended the session, the end of the input did. -/
def shownFor (commands : List SessionCommand) (records : List (LineRecord σ)) : String :=
  String.join (records.map fun record => "You: " ++ record.reaction.text) ++
    if .exit ∈ commands then "" else "You: " ++ "\n"

/-- The user for whom something is asked of memory. -/
def Event.user? : Event σ → Option String
  | searched _ userId _ => some userId
  | added _ userId => some userId
  | _ => none

/-- The turn and the user of an addition to memory. -/
def Event.addition? : Event σ → Option (Turn × String)
  | added turn userId => some (turn, userId)
  | _ => none

namespace Controller

/-- The session's surroundings in a watched world. -/
def watched (self : Controller σ) : Controller (Watched σ) where
  orchestrator := self.orchestrator.watched
  instructions := self.instructions
  gateway := self.gateway.watched
  userId := self.userId
  stamp seen := ((self.stamp seen.world).1, { seen with world := (self.stamp seen.world).2 })

/-- The instructions for the oracle, with what memory brought up. -/
def promptWith (self : Controller σ) (retrieval : Retrieval) : String :=
  Prompt.compose self.instructions self.orchestrator.registry.catalogue retrieval

/-- The work of one turn, from what memory brought up to its result.  Watched or not it comes to the
same, and it asks nothing of memory. -/
structure Works (controller : Controller σ) (retrieval : Retrieval) (query : String) (world : σ)
    (result : Except Failure TurnOutcome) (work : List (Event σ)) (after : σ) : Prop where
  plain : controller.orchestrator.run (controller.promptWith retrieval) query world =
    (result, after)
  watched : ∀ past, controller.orchestrator.watched.run (controller.promptWith retrieval) query
    ⟨past, world⟩ = (result, ⟨past ++ work, after⟩)
  isWork : ∀ event ∈ work, event.IsWork

/-- What one line comes to after the turns so far, with the world afterwards. -/
inductive Takes (self : Controller σ) (done : List Turn) (world : σ) : LineRecord σ → σ → Prop where
  | blank : Takes self done world ⟨.empty, .blank, []⟩ world
  | farewell : Takes self done world ⟨.exit, .farewell, []⟩ world
  | report : Takes self done world ⟨.info, .report done.length, []⟩ world
  | answered {query id : String} {retrieval : Retrieval} {outcome : TurnOutcome}
      {timestamp : Instant} {work : List (Event σ)} {asked worked stamped after : σ} {turn : Turn}
      (hretrieve : self.gateway.retrieve query self.userId world = (retrieval, asked))
      (hworks : self.Works retrieval query asked (.ok outcome) work worked)
      (hstamp : self.stamp worked = ((id, timestamp), stamped))
      (hturn : turn = ⟨id, query, outcome.answer, outcome.exchanges, outcome.iterations,
        outcome.incomplete, timestamp⟩)
      (hremember : (self.gateway.remember turn self.userId stamped).2 = after) :
      Takes self done world ⟨.query query, .answered turn,
        self.gateway.lookups query self.userId ++ work ++
          self.gateway.additions turn self.userId⟩ after
  | failed {query : String} {retrieval : Retrieval} {failure : Failure} {work : List (Event σ)}
      {asked after : σ}
      (hretrieve : self.gateway.retrieve query self.userId world = (retrieval, asked))
      (hworks : self.Works retrieval query asked (.error failure) work after) :
      Takes self done world
        ⟨.query query, .failed failure, self.gateway.lookups query self.userId ++ work⟩ after

/-- What a sequence of lines comes to after the turns so far, with the world afterwards. -/
inductive Converses (self : Controller σ) :
    List Turn → σ → List SessionCommand → List (LineRecord σ) → σ → Prop where
  | silent (done : List Turn) (world : σ) : Converses self done world [] [] world
  | line {done : List Turn} {world after final : σ} {record : LineRecord σ}
      {commands : List SessionCommand} {records : List (LineRecord σ)}
      (htakes : self.Takes done world record after)
      (hrest : Converses self (done ++ record.reaction.turns) after commands records final) :
      Converses self done world (record.command :: commands) (record :: records) final

/-- What can be told from one line of a session in which the given turns were recorded before. -/
structure Accounts (controller : Controller σ) (before : List Turn) (record : LineRecord σ) :
    Prop where
  /-- Only a query asks anything of the world. -/
  quiet : record.events ≠ [] → ∃ query, record.command = .query query
  /-- Whatever is asked of memory is asked for the session's user. -/
  ownUser : ∀ event ∈ record.events, event.IsWork ∨ event.user? = some controller.userId
  /-- Every query is answered with a turn or fails. -/
  queries : ∀ query, record.command = .query query →
    (∃ turn, record.reaction = .answered turn ∧ turn.userInput = query) ∨
      ∃ failure, record.reaction = .failed failure
  /-- Only a query that is answered records a turn. -/
  recorded : ∀ turn ∈ record.reaction.turns, record.command = .query turn.userInput
  /-- A turn that is recorded is added to memory once, and nothing else is. -/
  additions : record.events.filterMap (·.addition?) =
    if controller.gateway.isEnabled then record.reaction.turns.map (·, controller.userId) else []
  /-- A report counts the turns so far. -/
  report : record.command = .info → record.reaction = .report before.length

/-! ## One line -/

theorem works_of_run (self : Controller σ) (retrieval : Retrieval) (query : String) (world : σ) :
    ∃ result work after, self.Works retrieval query world result work after := by
  obtain ⟨work, hwork, hnotes⟩ :=
    self.orchestrator.watched_run (self.promptWith retrieval) query world
  exact ⟨_, work, _, rfl, hnotes, hwork⟩

section Turns

variable {self : Controller σ} {session : Session} {query : String} {retrieval : Retrieval}
  {world asked worked : σ}

theorem runTurn_of_failure {failure : Failure}
    (hretrieve : self.gateway.retrieve query self.userId world = (retrieval, asked))
    (hrun : self.orchestrator.run (self.promptWith retrieval) query asked =
      (.error failure, worked)) :
    self.runTurn session query world = (.error failure, session, worked) := by
  rw [promptWith] at hrun
  simp only [runTurn, hretrieve, hrun]

theorem runTurn_of_outcome {outcome : TurnOutcome} {id : String} {timestamp : Instant}
    {stamped after : σ} {turn : Turn} {kept : StoreOutcome}
    (hretrieve : self.gateway.retrieve query self.userId world = (retrieval, asked))
    (hrun : self.orchestrator.run (self.promptWith retrieval) query asked = (.ok outcome, worked))
    (hstamp : self.stamp worked = ((id, timestamp), stamped))
    (hturn : turn = ⟨id, query, outcome.answer, outcome.exchanges, outcome.iterations,
      outcome.incomplete, timestamp⟩)
    (hremember : self.gateway.remember turn self.userId stamped = (kept, after)) :
    self.runTurn session query world =
      (.ok turn, { session with history := session.history ++ [turn] }, after) := by
  rw [promptWith] at hrun
  subst hturn
  simp only [runTurn, hretrieve, hrun, hstamp, hremember]

end Turns

@[simp]
theorem watched_promptWith (self : Controller σ) (retrieval : Retrieval) :
    self.watched.promptWith retrieval = self.promptWith retrieval := by
  unfold promptWith
  exact congrArg (Prompt.compose self.instructions · retrieval)
    (Watched.registry_catalogue self.orchestrator.registry)

/-- A query is answered as the reference has it, and a watched session does the same. -/
private theorem runTurn_takes (self : Controller σ) (query : String) (session : Session)
    (world : σ) :
    ∃ reaction events after,
      self.Takes session.history world ⟨.query query, reaction, events⟩ after ∧
      ∃ result, turnText result = reaction.text ∧
        (let next := { session with history := session.history ++ reaction.turns }
        self.runTurn session query world = (result, next, after) ∧
          ∀ past, self.watched.runTurn session query ⟨past, world⟩ =
            (result, next, ⟨past ++ events, after⟩)) := by
  rcases hretrieve : self.gateway.retrieve query self.userId world with ⟨retrieval, asked⟩
  have hlookup (past : List (Event σ)) :
      self.watched.gateway.retrieve query self.watched.userId ⟨past, world⟩ =
        (retrieval, ⟨past ++ self.gateway.lookups query self.userId, asked⟩) := by
    have hnotes := self.gateway.watched_retrieve query self.userId world past
    rwa [hretrieve] at hnotes
  obtain ⟨result, work, worked, hworks⟩ := self.works_of_run retrieval query asked
  have hrun (past : List (Event σ)) : self.watched.orchestrator.run
      (self.watched.promptWith retrieval) query ⟨past, asked⟩ =
        (result, ⟨past ++ work, worked⟩) := by
    rw [watched_promptWith]
    exact hworks.watched past
  cases result with
  | error failure =>
      refine ⟨_, _, worked, .failed hretrieve hworks, .error failure, rfl, ?_, fun past => ?_⟩
      · simp only [runTurn_of_failure hretrieve hworks.plain, Reaction.turns, List.append_nil]
      · simp only [runTurn_of_failure (hlookup past) (hrun _), Reaction.turns, List.append_nil,
          List.append_assoc]
  | ok outcome =>
      rcases hstamp : self.stamp worked with ⟨⟨id, timestamp⟩, stamped⟩
      have hstamp' (past : List (Event σ)) :
          self.watched.stamp ⟨past, worked⟩ = ((id, timestamp), ⟨past, stamped⟩) := by
        simp only [watched, hstamp]
      let turn : Turn := ⟨id, query, outcome.answer, outcome.exchanges, outcome.iterations,
        outcome.incomplete, timestamp⟩
      rcases hremember : self.gateway.remember turn self.userId stamped with ⟨kept, after⟩
      have hkeep (past : List (Event σ)) :
          self.watched.gateway.remember turn self.watched.userId ⟨past, stamped⟩ =
            (kept, ⟨past ++ self.gateway.additions turn self.userId, after⟩) := by
        have hnotes := self.gateway.watched_remember turn self.userId stamped past
        rwa [hremember] at hnotes
      refine ⟨_, _, after, .answered hretrieve hworks hstamp rfl (congrArg Prod.snd hremember),
        .ok turn, rfl, ?_, fun past => ?_⟩
      · exact runTurn_of_outcome hretrieve hworks.plain hstamp rfl hremember
      · rw [runTurn_of_outcome (hlookup past) (hrun _) (hstamp' _) rfl (hkeep _)]
        simp only [List.append_assoc, Reaction.turns]
        rfl

/-- A line is answered as the reference has it, and a watched session does the same. -/
theorem respond_takes (self : Controller σ) (command : SessionCommand) (session : Session)
    (world : σ) :
    ∃ record after, record.command = command ∧ self.Takes session.history world record after ∧
      (let next := { session with history := session.history ++ record.reaction.turns }
      self.respond command session world = (record.reaction.text, next, after) ∧
        ∀ past, self.watched.respond command session ⟨past, world⟩ =
          (record.reaction.text, next, ⟨past ++ record.events, after⟩)) := by
  cases command with
  | empty => exact ⟨_, world, rfl, .blank, by simp [respond, Reaction.turns, Reaction.text]⟩
  | exit =>
      exact ⟨_, world, rfl, .farewell, by simp [respond, Reaction.turns, Reaction.text, farewell]⟩
  | info =>
      exact ⟨_, world, rfl, .report, by simp [respond, Reaction.turns, Reaction.text, reportText]⟩
  | query query =>
      obtain ⟨reaction, events, after, htakes, result, htext, hplain, hwatched⟩ :=
        self.runTurn_takes query session world
      refine ⟨_, after, rfl, htakes, ?_, fun past => ?_⟩
      · simp only [respond, hplain, htext]
      · simp only [respond, hwatched past, htext]

/-! ## Line after line -/

section Lines

variable {self : Controller σ} {session : Session} {output : Output} {world : σ}

/-- At the end of the input the prompt is left standing. -/
private theorem runLines_nil (hroom : output.HasRoomFor ("You: " ++ "\n")) :
    self.runLines session output world [] =
      ⟨.ok (), { session with active := false }, output.append ("You: " ++ "\n"), world⟩ := by
  simp only [runLines, inputPrompt, Output.write_of_hasRoomFor hroom]

private theorem runLines_cons {line text : String} {rest : List InputLine} {next : Session}
    {after : σ} (hrespond : self.respond (.ofLine line) session world = (text, next, after))
    (hroom : output.HasRoomFor ("You: " ++ text)) :
    self.runLines session output world (some line :: rest) =
      if SessionCommand.ofLine line = .exit then
        ⟨.ok (), { next with active := false }, output.append ("You: " ++ text), after⟩
      else self.runLines next (output.append ("You: " ++ text)) after rest := by
  obtain ⟨hprompt, htext⟩ := Output.hasRoomFor_append.mp hroom
  simp only [runLines, inputPrompt, Output.write_of_hasRoomFor hprompt, hrespond,
    Output.write_of_hasRoomFor htext, Output.append_append]

/-- A line that ends the session makes the lines after it unheard. -/
theorem runLines_append_of_exit (self : Controller σ) (session : Session) (output : Output)
    (world : σ) {lines : List String} (hexit : .exit ∈ heard lines) (rest : List InputLine) :
    self.runLines session output world (lines.map some ++ rest) =
      self.runLines session output world (lines.map some) := by
  induction lines generalizing session output world with
  | nil => exact absurd hexit (by simp [heard])
  | cons line lines ih =>
      simp only [List.map_cons, List.cons_append, runLines]
      rcases output.write inputPrompt with ⟨_ | _, prompted⟩
      · rfl
      · dsimp only
        rcases self.respond (.ofLine line) session world with ⟨text, next, after⟩
        dsimp only
        rcases prompted.write text with ⟨_ | _, shown⟩
        · rfl
        · dsimp only
          split_ifs with hline
          · rfl
          · exact ih next shown after (by simpa [heard, hline, Ne.symm hline] using hexit)

end Lines

private theorem shownFor_cons (record : LineRecord σ) (records : List (LineRecord σ))
    {command : SessionCommand} {commands : List SessionCommand} (hline : command ≠ .exit) :
    shownFor (command :: commands) (record :: records) =
      "You: " ++ record.reaction.text ++ shownFor commands records := by
  simp [shownFor, hline.symm, String.append_assoc]

/-- The lines of a session run as the reference has it, and a watched session does the same. -/
theorem runLines_converses (self : Controller σ) (session : Session) (lines : List String)
    (world : σ) :
    ∃ records final, self.Converses session.history world (heard lines) records final ∧
      ∀ output, output.HasRoomFor (shownFor (heard lines) records) →
        (let ended : Session := ⟨session.history ++ turnsOf records, false⟩
        let shown := output.append (shownFor (heard lines) records)
        self.runLines session output world (lines.map some) = ⟨.ok (), ended, shown, final⟩ ∧
          ∀ past, self.watched.runLines session output ⟨past, world⟩ (lines.map some) =
            ⟨.ok (), ended, shown, ⟨past ++ records.flatMap (·.events), final⟩⟩) := by
  -- The records come before the output, so they do not depend on the room that there is.
  induction lines generalizing session world with
  | nil =>
      refine ⟨[], world, .silent _ _, fun output hroom => ?_⟩
      have hshown : shownFor (heard []) ([] : List (LineRecord σ)) = "You: " ++ "\n" := by
        simp [shownFor, heard]
      rw [hshown] at hroom
      simp [hshown, turnsOf, runLines_nil hroom]
  | cons line lines ih =>
      obtain ⟨record, after, hcommand, htakes, hplain, hwatched⟩ :=
        self.respond_takes (.ofLine line) session world
      by_cases hexit : SessionCommand.ofLine line = .exit
      · have hheard : heard (line :: lines) = [record.command] := by
          rw [heard, if_pos hexit, hcommand]
        have hshown : shownFor [record.command] [record] =
            "You: " ++ record.reaction.text := by
          simp [shownFor, hcommand, hexit]
        refine ⟨[record], after, ?_, fun output hroom => ?_⟩
        · rw [hheard]
          exact .line htakes (.silent _ _)
        · rw [hheard, hshown] at hroom ⊢
          simp [turnsOf, runLines_cons hplain hroom, runLines_cons (hwatched _) hroom, hexit]
      · let next : Session := { session with history := session.history ++ record.reaction.turns }
        obtain ⟨records, final, hconverses, hlater⟩ := ih next after
        have hheard : heard (line :: lines) = record.command :: heard lines := by
          rw [heard, if_neg hexit, hcommand]
        have hshown : shownFor (record.command :: heard lines) (record :: records) =
            "You: " ++ record.reaction.text ++ shownFor (heard lines) records :=
          shownFor_cons record records (hcommand ▸ hexit)
        refine ⟨record :: records, final, ?_, fun output hroom => ?_⟩
        · rw [hheard]
          exact .line htakes hconverses
        · rw [hheard, hshown] at hroom ⊢
          obtain ⟨hroom, hrest⟩ := Output.hasRoomFor_append.mp hroom
          obtain ⟨hplain', hwatched'⟩ := hlater _ hrest
          refine ⟨?_, fun past => ?_⟩
          · rw [List.map_cons, runLines_cons hplain hroom, if_neg hexit, hplain']
            simp [next, turnsOf]
          · rw [List.map_cons, runLines_cons (hwatched past) hroom, if_neg hexit, hwatched']
            simp [next, turnsOf]

/-! ## Reading the lines -/

private theorem filterMap_addition?_of_isWork {work : List (Event σ)}
    (hwork : ∀ event ∈ work, event.IsWork) : work.filterMap Event.addition? = [] := by
  rw [List.filterMap_eq_nil_iff]
  intro event hevent
  cases event with
  | added turn userId => exact absurd (hwork _ hevent) id
  | _ => rfl

private theorem filterMap_addition?_lookups (gateway : MemoryGateway σ) (query userId : String) :
    (gateway.lookups query userId).filterMap Event.addition? = [] := by
  unfold MemoryGateway.lookups
  split_ifs <;> rfl

private theorem filterMap_addition?_additions (gateway : MemoryGateway σ) (turn : Turn)
    (userId : String) :
    (gateway.additions turn userId).filterMap Event.addition? =
      if gateway.isEnabled then [(turn, userId)] else [] := by
  unfold MemoryGateway.additions
  split_ifs <;> rfl

private theorem user?_of_mem_lookups {gateway : MemoryGateway σ} {query userId : String}
    {event : Event σ} (hevent : event ∈ gateway.lookups query userId) :
    event.user? = some userId := by
  unfold MemoryGateway.lookups at hevent
  split_ifs at hevent
  · rw [List.mem_singleton.mp hevent]
    rfl
  · exact absurd hevent (by simp)

private theorem user?_of_mem_additions {gateway : MemoryGateway σ} {turn : Turn} {userId : String}
    {event : Event σ} (hevent : event ∈ gateway.additions turn userId) :
    event.user? = some userId := by
  unfold MemoryGateway.additions at hevent
  split_ifs at hevent
  · rw [List.mem_singleton.mp hevent]
    rfl
  · exact absurd hevent (by simp)

/-- **What a line comes to can be accounted for.** -/
theorem Takes.accounts {self : Controller σ} {done : List Turn} {world after : σ}
    {record : LineRecord σ} (htakes : self.Takes done world record after) :
    self.Accounts done record := by
  cases htakes with
  | blank => constructor <;> simp [Reaction.turns]
  | farewell => constructor <;> simp [Reaction.turns]
  | report => constructor <;> simp [Reaction.turns]
  | @failed query _ failure work _ _ _ hworks =>
      refine ⟨fun _ => ⟨query, rfl⟩, fun event hevent => ?_, fun _ _ => .inr ⟨failure, rfl⟩,
        by simp [Reaction.turns], ?_, by simp⟩
      · rcases List.mem_append.mp hevent with hlookup | hwork
        · exact .inr (user?_of_mem_lookups hlookup)
        · exact .inl (hworks.isWork event hwork)
      · rw [List.filterMap_append, filterMap_addition?_lookups,
          filterMap_addition?_of_isWork hworks.isWork]
        simp [Reaction.turns]
  | @answered query _ _ _ _ work _ _ _ _ turn _ hworks _ hturn _ =>
      have hinput : turn.userInput = query := by rw [hturn]
      refine ⟨fun _ => ⟨query, rfl⟩, fun event hevent => ?_, ?_, ?_, ?_, by simp⟩
      · rcases List.mem_append.mp hevent with hearlier | haddition
        · rcases List.mem_append.mp hearlier with hlookup | hwork
          · exact .inr (user?_of_mem_lookups hlookup)
          · exact .inl (hworks.isWork event hwork)
        · exact .inr (user?_of_mem_additions haddition)
      · rintro _ ⟨rfl⟩
        exact .inl ⟨turn, rfl, hinput⟩
      · intro recorded hrecorded
        rw [List.mem_singleton.mp hrecorded, hinput]
      · rw [List.filterMap_append, List.filterMap_append, filterMap_addition?_lookups,
          filterMap_addition?_of_isWork hworks.isWork, filterMap_addition?_additions]
        simp [Reaction.turns]

section Reading

variable {self : Controller σ} {before : List Turn} {world final : σ}
  {commands : List SessionCommand} {records : List (LineRecord σ)}

/-- Every line that is heard has its record. -/
theorem Converses.map_command
    (hconverses : self.Converses before world commands records final) :
    records.map (·.command) = commands := by
  induction hconverses with
  | silent => rfl
  | line _ _ ih => rw [List.map_cons, ih]

/-- **Every line of a session can be accounted for.** -/
theorem Converses.accounts (hconverses : self.Converses before world commands records final)
    {k : Nat} {record : LineRecord σ} (hk : records[k]? = some record) :
    self.Accounts (before ++ turnsOf (records.take k)) record := by
  induction hconverses generalizing k with
  | silent => exact absurd hk (by simp)
  | @line before _ _ _ first _ later htakes _ ih =>
      cases k with
      | zero =>
          obtain rfl : first = record := by simpa using hk
          simpa [turnsOf] using htakes.accounts
      | succ k =>
          have haccounts := ih hk
          rw [List.append_assoc] at haccounts
          exact haccounts

/-- Memory gets the turns that are recorded, in their order. -/
theorem Converses.filterMap_addition?
    (hconverses : self.Converses before world commands records final) :
    (records.flatMap (·.events)).filterMap Event.addition? =
      if self.gateway.isEnabled then (turnsOf records).map (·, self.userId) else [] := by
  induction hconverses with
  | silent => simp [turnsOf]
  | line htakes _ ih =>
      rw [List.flatMap_cons, List.filterMap_append, ih, htakes.accounts.additions]
      split_ifs <;> simp [turnsOf]

end Reading

/-! ## The whole session -/

/-- The text of a whole session. -/
def transcript (self : Controller σ) (commands : List SessionCommand)
    (records : List (LineRecord σ)) : String :=
  self.banner ++ shownFor commands records

private theorem watched_banner (self : Controller σ) : self.watched.banner = self.banner := by
  have hnames : self.watched.orchestrator.registry.names = self.orchestrator.registry.names :=
    Watched.registry_names _
  have hmemory : self.watched.gateway.backendName = self.gateway.backendName :=
    self.gateway.watched_backendName
  rw [banner, banner, hnames, hmemory]

/-- **An active session is a fold over the lines that it hears.**  If there is room for what it
writes it ends well and inactive, with one more turn in its history for every query that was
answered; watched or not it does the same, and the events are those of its lines.  Memory gets the
turns that are recorded, in their order.  Nothing after a line that ends the session matters. -/
theorem run_converses (self : Controller σ) (session : Session) (hactive : session.active = true)
    (lines : List String) (world : σ) :
    ∃ records final, self.Converses session.history world (heard lines) records final ∧
      records.map (·.command) = heard lines ∧
      (∀ k record, records[k]? = some record →
        self.Accounts (session.history ++ turnsOf (records.take k)) record) ∧
      (records.flatMap (·.events)).filterMap (·.addition?) =
        (if self.gateway.isEnabled then (turnsOf records).map (·, self.userId) else []) ∧
      (∀ output, output.HasRoomFor (self.transcript (heard lines) records) →
        let ended : Session := ⟨session.history ++ turnsOf records, false⟩
        let shown := output.append (self.transcript (heard lines) records)
        self.run session (lines.map some) output world = ⟨.ok (), ended, shown, final⟩ ∧
          ∀ past, self.watched.run session (lines.map some) output ⟨past, world⟩ =
            ⟨.ok (), ended, shown, ⟨past ++ records.flatMap (·.events), final⟩⟩) ∧
      (.exit ∈ heard lines → ∀ output rest,
        self.run session (lines.map some ++ rest) output world =
          self.run session (lines.map some) output world) := by
  obtain ⟨records, final, hconverses, hlines⟩ := self.runLines_converses session lines world
  refine ⟨records, final, hconverses, hconverses.map_command, fun _ _ => hconverses.accounts,
    hconverses.filterMap_addition?, ?_, ?_⟩
  · intro output hroom
    obtain ⟨hbanner, hroom⟩ := Output.hasRoomFor_append.mp hroom
    obtain ⟨hplain, hwatched⟩ := hlines _ hroom
    refine ⟨?_, fun past => ?_⟩
    · rw [run, Output.write_of_hasRoomFor hbanner]
      simp only [hactive, if_true, hplain, transcript, Output.append_append]
    · rw [run, watched_banner, Output.write_of_hasRoomFor hbanner]
      simp only [hactive, if_true, hwatched, transcript, Output.append_append]
  · intro hexit output rest
    rw [run, run]
    rcases output.write self.banner with ⟨_ | _, shown⟩
    · rfl
    · simp only [hactive, if_true, self.runLines_append_of_exit session shown world hexit rest]

/-- A session without tools and memory, whose oracle always says the same. -/
def greeter : Controller Nat where
  orchestrator :=
    { oracle := ⟨"greeter", fun _ _ => Action.pure (.ok (.finalAnswer "Hello."))⟩
      registry := .empty
      limits := ⟨3, .ofSeconds 30, .ofSeconds 10, false, 4000⟩ }
  instructions := "Be brief."
  gateway := ⟨.error "disabled", 3, 5, .ofSeconds 2⟩
  userId := "anna"
  stamp count := ((toString count, ⟨⟨2024, 5, 17⟩, 0, 0⟩), count + 1)

/-- A query, a report and a farewell; the line behind them is not heard. -/
theorem run_converses_greeter :
    Session.fresh.active = true ∧
      ∃ records final, greeter.Converses [] 0 [.query "Hi", .info, .exit] records final ∧
        (turnsOf records).length = 1 ∧
        greeter.run .fresh [some "Hi", some "clear", some " Quit", some "Hi"] .unbounded 0 =
          ⟨.ok (), ⟨turnsOf records, false⟩,
            Output.unbounded.append (greeter.transcript [.query "Hi", .info, .exit] records),
            final⟩ := by
  have hheard : heard ["Hi", "clear", " Quit", "Hi"] = [.query "Hi", .info, .exit] := by decide
  have hlength : (greeter.run .fresh [some "Hi", some "clear", some " Quit", some "Hi"]
      .unbounded 0).session.history.length = 1 := by decide
  obtain ⟨records, final, hconverses, -, -, -, hrun, -⟩ :=
    greeter.run_converses .fresh rfl ["Hi", "clear", " Quit", "Hi"] 0
  rw [hheard] at hconverses hrun
  have hended := (hrun .unbounded (by simp [Output.HasRoomFor, Output.unbounded])).1
  refine ⟨rfl, records, final, hconverses, ?_, hended⟩
  have hhistory := congrArg (·.session.history.length) hended
  exact hhistory.symm.trans hlength

end Controller

end ToolAssistant
