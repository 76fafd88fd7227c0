import ToolAssistant.Proofs.Turn.Context
import ToolAssistant.Proofs.Turn.Journal

/-!
# The course of a turn

The reference for a turn is `Course`: the oracle is consulted and its batches are run, until it
answers, gives no usable decision, or the last batch that the limit allows has been run.  Nothing in
it is trimmed, counted or accumulated; the outcome is read off the rounds afterwards (`report`).

`Orchestrator.run` follows a course, `run_follows_course`, and what it shows to the oracle on the
way is settled by `shows_latest_blocks`.

## Strategy

The loop of the orchestrator is in one state whenever it consults the oracle: its window is the one
after the blocks of the batches so far, its exchanges are their concatenation and its counter is
their number (`proceed`).  One step lemma for each way a consultation can go keeps it there, and an
induction on how many batches may still follow puts the steps together.  The journal is carried
through the same induction, since the orchestrator takes the same step in a world with a journal.
-/

namespace ToolAssistant

variable {σ : Type}

/-! ## The reference turn -/

/-- One consultation that led to a batch: what the oracle was shown, the calls that it issued and
what came of them. -/
structure Round where
  shown : List Message
  calls : List ToolCall
  exchanges : List Exchange

/-- How a turn ends, with what the oracle was shown last if it is consulted once more. -/
inductive Ending where
  | answered (shown : List Message) (text : String)
  | unusable (shown : List Message) (detail : String)
  | capped

/-- What the oracle is shown at the end of a turn. -/
def Ending.shown : Ending → List (List Message)
  | answered shown _ => [shown]
  | unusable shown _ => [shown]
  | capped => []

/-- What the oracle is shown in a whole turn, consultation by consultation. -/
def consultations (rounds : List Round) (ending : Ending) : List (List Message) :=
  rounds.map (·.shown) ++ ending.shown

/-- What a turn opens with: the system prompt and the user's text. -/
def turnOpening (systemPrompt userInput : String) : List Message :=
  [{ role := .system, content := systemPrompt, toolCalls := [], toolCallId := none, name := none },
    { role := .user, content := userInput, toolCalls := [], toolCallId := none, name := none }]

/-- The opening messages of a turn belong to no block. -/
private theorem opening_opensBlock (systemPrompt userInput : String) :
    ∀ message ∈ turnOpening systemPrompt userInput, message.opensBlock = false := by
  intro message hmessage
  rcases List.mem_cons.mp hmessage with rfl | hlast
  · rfl
  · rw [List.mem_singleton.mp hlast]
    rfl

namespace Orchestrator

/-- The oracle comes to an outcome in time. -/
def Replies (self : Orchestrator σ) (shown : List Message) (world : σ)
    (outcome : Except OracleError Decision) (asked : σ) : Prop :=
  ∃ duration ≤ self.limits.oracleTimeout,
    self.oracle.decide shown self.registry.catalogue world = (.ends duration outcome, asked)

/-- The oracle comes to no usable decision. -/
inductive Refuses (self : Orchestrator σ) (shown : List Message) (world : σ) :
    String → σ → Prop where
  | never {asked : σ}
      (hask : self.oracle.decide shown self.registry.catalogue world = (.never, asked)) :
      Refuses self shown world ("no decision within " ++ self.limits.oracleTimeout.text) asked
  | late {asked : σ} {duration : Duration} {outcome : Except OracleError Decision}
      (hask : self.oracle.decide shown self.registry.catalogue world =
        (.ends duration outcome, asked))
      (hlate : ¬duration ≤ self.limits.oracleTimeout) :
      Refuses self shown world ("no decision within " ++ self.limits.oracleTimeout.text) asked
  | failed {asked : σ} {error : OracleError}
      (hreply : self.Replies shown world (.error error) asked) :
      Refuses self shown world error.message asked
  | noCalls {asked : σ} (hreply : self.Replies shown world (.ok (.toolCalls [])) asked) :
      Refuses self shown world "decision contained no tool calls" asked

/-- A turn in which at most so many batches are run, from one world to another. -/
inductive Course (self : Orchestrator σ) : Nat → σ → List Round → Ending → σ → Prop where
  | capped (world : σ) : Course self 0 world [] .capped world
  | answered {left : Nat} {world asked : σ} {shown : List Message} {text : String}
      (hreply : self.Replies shown world (.ok (.finalAnswer text)) asked) :
      Course self (left + 1) world [] (.answered shown text) asked
  | unusable {left : Nat} {world asked : σ} {shown : List Message} {detail : String}
      (hrefusal : self.Refuses shown world detail asked) :
      Course self (left + 1) world [] (.unusable shown detail) asked
  | batch {left : Nat} {world asked final : σ} {shown : List Message} {calls : List ToolCall}
      {rounds : List Round} {ending : Ending}
      (hreply : self.Replies shown world (.ok (.toolCalls calls)) asked) (hcalls : calls ≠ [])
      (hrest : Course self left (self.settle calls asked) rounds ending final) :
      Course self (left + 1) world (⟨shown, calls, self.execute calls asked⟩ :: rounds) ending final

end Orchestrator

/-- What a turn comes to when it has run the given batches and ends so. -/
def report (batches : List (List Exchange)) : Ending → Except Failure TurnOutcome
  | .answered _ text => .ok ⟨text, batches.flatten, batches.length, false⟩
  | .unusable _ detail => .error (.oracleUnavailable detail)
  | .capped =>
    .ok ⟨incompleteAnswer batches.length batches.flatten, batches.flatten, batches.length, true⟩

/-- The first line of an answer that the limit forced. -/
def incompleteHeading (iterations : Nat) (successes : List Exchange) : String :=
  "[incomplete]" ++ " Stopped after " ++ toString iterations ++
    " tool iteration(s) without a final answer." ++
    if successes.isEmpty then " No tool produced a usable result." else " Results gathered so far:"

/-- One line for each exchange: the name of its tool and what was observed. -/
def listing (exchanges : List Exchange) : String :=
  String.join (exchanges.map fun exchange =>
    "\n- " ++ exchange.call.name ++ ": " ++ exchange.observed)

/-- What the outcome of a turn tells about its rounds, when at most `cap` batches could run. -/
structure TurnOutcome.Recounts (outcome : TurnOutcome) (cap : Nat) (rounds : List Round)
    (ending : Ending) : Prop where
  /-- The exchanges are those of all rounds, in order. -/
  exchanges : outcome.exchanges = rounds.flatMap (·.exchanges)
  /-- Every call that was issued is there, in the order of issuance. -/
  issued : outcome.exchanges.map (·.call) = rounds.flatMap (·.calls)
  /-- Every result belongs to its call. -/
  answers : ∀ exchange ∈ outcome.exchanges, exchange.result.callId = exchange.call.id ∧
    exchange.result.toolName = exchange.call.name
  iterations : outcome.iterations = rounds.length
  incomplete_iff : outcome.incomplete = true ↔ rounds.length = cap
  /-- A turn that was cut short lists what succeeded. -/
  cut : outcome.incomplete = true →
    ending = .capped ∧ (consultations rounds ending).length = cap ∧
      let successes := outcome.exchanges.filter (·.succeeded)
      outcome.answer = incompleteHeading outcome.iterations successes ++ listing successes
  /-- Any other turn has the oracle's answer. -/
  answered : outcome.incomplete = false →
    (∃ shown, ending = .answered shown outcome.answer) ∧
      (consultations rounds ending).length = outcome.iterations + 1

namespace Orchestrator

/-! ## One consultation -/

/-- A consultation gives a refusal, an answer or calls to run. -/
theorem decide_cases (self : Orchestrator σ) (shown : List Message) (world : σ) :
    (∃ detail asked, self.Refuses shown world detail asked ∧
        self.decide shown world = (.error (.oracleUnavailable detail), asked)) ∨
      (∃ text asked, self.Replies shown world (.ok (.finalAnswer text)) asked ∧
        self.decide shown world = (.ok (.finalAnswer text), asked)) ∨
      ∃ calls asked, calls ≠ [] ∧ self.Replies shown world (.ok (.toolCalls calls)) asked ∧
        self.decide shown world = (.ok (.toolCalls calls), asked) := by
  rw [decide_eq]
  rcases hask : self.oracle.decide shown self.registry.catalogue world with ⟨timed, asked⟩
  cases timed with
  | never => exact Or.inl ⟨_, asked, .never hask, rfl⟩
  | ends duration outcome =>
      by_cases hin : duration ≤ self.limits.oracleTimeout
      · have hreply : self.Replies shown world outcome asked := ⟨duration, hin, hask⟩
        simp only [Timed.within, hin, if_true]
        rcases outcome with error | text | calls
        · exact Or.inl ⟨error.message, asked, .failed hreply, rfl⟩
        · exact Or.inr (Or.inl ⟨text, asked, hreply, rfl⟩)
        · cases calls with
          | nil => exact Or.inl ⟨_, asked, .noCalls hreply, rfl⟩
          | cons call calls =>
              exact Or.inr (Or.inr ⟨call :: calls, asked, by simp, hreply, rfl⟩)
      · simp only [Timed.within, hin, if_false]
        exact Or.inl ⟨_, asked, .late hask hin, rfl⟩

/-! ## The loop between two consultations -/

/-- The window after the given batches. -/
def contextAfter (self : Orchestrator σ) (opening : List Message) (done : List (List Exchange)) :
    Window :=
  .afterBlocks self.limits.contextTokens opening (done.map Exchange.block)

/-- The rest of a turn after the given batches, with at most so many batches still to come. -/
def proceed (self : Orchestrator σ) (opening : List Message) (left : Nat)
    (done : List (List Exchange)) (world : σ) : Except Failure TurnOutcome × σ :=
  match left with
  | 0 => (report done .capped, world)
  | left + 1 =>
    self.continueTurn left (self.contextAfter opening done) done.flatten done.length world

section Steps

variable {self : Orchestrator σ} {opening : List Message} {left : Nat}
  {done : List (List Exchange)} {world asked : σ}

theorem proceed_of_refusal {detail : String}
    (hdecide : self.decide (self.contextAfter opening done).messages world =
      (.error (.oracleUnavailable detail), asked)) (shown : List Message) :
    self.proceed opening (left + 1) done world = (report done (.unusable shown detail), asked) := by
  unfold proceed continueTurn
  rw [hdecide]
  rfl

theorem proceed_of_answer {text : String}
    (hdecide : self.decide (self.contextAfter opening done).messages world =
      (.ok (.finalAnswer text), asked)) (shown : List Message) :
    self.proceed opening (left + 1) done world = (report done (.answered shown text), asked) := by
  unfold proceed continueTurn
  rw [hdecide]
  rfl

/-- The observations of a batch are the replies to its calls. -/
private theorem map_observing_execute (self : Orchestrator σ) (calls : List ToolCall) (world : σ) :
    ((self.execute calls world).map (·.result)).map Message.observing =
      (self.execute calls world).map Exchange.reply := by
  rw [List.map_map]
  apply List.map_congr_left
  intro exchange hexchange
  obtain ⟨hid, hname⟩ := self.execute_answers calls world exchange hexchange
  simp only [Function.comp_apply, Message.observing, Exchange.reply, Exchange.observation_eq, hid,
    hname]

private theorem append_execute_ne_nil (self : Orchestrator σ) {done : List (List Exchange)}
    (hdone : ∀ batch ∈ done, batch ≠ []) {calls : List ToolCall} (hcalls : calls ≠ [])
    (asked : σ) : ∀ batch ∈ done ++ [self.execute calls asked], batch ≠ [] := by
  intro batch hbatch
  rcases List.mem_append.mp hbatch with hold | hnew
  · exact hdone batch hold
  · rw [List.mem_singleton.mp hnew]
    exact self.execute_ne_nil hcalls asked

/-- Adding a batch to the window makes it the window after that batch, too. -/
private theorem contextAfter_append (self : Orchestrator σ) (asked : σ)
    (hopening : ∀ message ∈ opening, message.opensBlock = false)
    (hdone : ∀ batch ∈ done, batch ≠ []) {calls : List ToolCall} (hcalls : calls ≠ []) :
    ((self.contextAfter opening done).add (.issuing calls)).addAll
        (((self.execute calls asked).map (·.result)).map .observing) =
      self.contextAfter opening (done ++ [self.execute calls asked]) := by
  have hbatch := self.execute_ne_nil hcalls asked
  have hopener := Exchange.opener_opensBlock hbatch
  have hissuing : Message.issuing calls = Exchange.opener (self.execute calls asked) := by
    rw [← Exchange.issuing_eq, execute_calls]
  have hblocks : ∀ block ∈ done.map Exchange.block, Message.IsBlock block := by
    intro block hblock
    obtain ⟨batch, hmem, rfl⟩ := List.mem_map.mp hblock
    exact Exchange.block_isBlock (hdone batch hmem)
  rw [map_observing_execute, contextAfter, contextAfter, List.map_append, List.map_singleton,
    hissuing, Window.addAll_block hopening hblocks hopener Exchange.reply_role, Exchange.block]

/-- A batch is run, and the turn proceeds after it. -/
theorem proceed_of_calls (hopening : ∀ message ∈ opening, message.opensBlock = false)
    (hdone : ∀ batch ∈ done, batch ≠ []) {calls : List ToolCall} (hcalls : calls ≠ [])
    (hdecide : self.decide (self.contextAfter opening done).messages world =
      (.ok (.toolCalls calls), asked)) :
    self.proceed opening (left + 1) done world =
      self.proceed opening left (done ++ [self.execute calls asked]) (self.settle calls asked) := by
  have hcontext := self.contextAfter_append asked hopening hdone hcalls
  have hflatten : (done ++ [self.execute calls asked]).flatten =
      done.flatten ++ self.execute calls asked := by simp
  have hlength : (done ++ [self.execute calls asked]).length = done.length + 1 := by simp
  rw [proceed, continueTurn, hdecide]
  simp only [resolveBatch_eq, zipWith_execute, hcontext]
  cases left with
  | zero => simp only [proceed, report, hflatten, hlength]
  | succ left => simp only [proceed, hflatten, hlength]

end Steps

/-! ## The whole loop -/

/-- What the oracle is shown at each consultation is the window after the batches before it. -/
def ShowsContexts (self : Orchestrator σ) (opening : List Message) (done : List (List Exchange))
    (rounds : List Round) (ending : Ending) : Prop :=
  ∀ k shown, (consultations rounds ending)[k]? = some shown →
    shown = (self.contextAfter opening (done ++ (rounds.take k).map (·.exchanges))).messages

private theorem showsContexts_nil {self : Orchestrator σ} {opening : List Message}
    {done : List (List Exchange)} {ending : Ending}
    (hlast : ending.shown = [(self.contextAfter opening done).messages]) :
    self.ShowsContexts opening done [] ending := by
  intro k shown hshown
  rw [consultations, hlast, List.map_nil, List.nil_append, List.getElem?_singleton] at hshown
  split at hshown
  · rw [List.take_nil, List.map_nil, List.append_nil]
    exact (Option.some.inj hshown).symm
  · exact absurd hshown (by simp)

private theorem showsContexts_cons {self : Orchestrator σ} {opening : List Message}
    {done : List (List Exchange)} {calls : List ToolCall} {batch : List Exchange}
    {rounds : List Round} {ending : Ending}
    (hrest : self.ShowsContexts opening (done ++ [batch]) rounds ending) :
    self.ShowsContexts opening done
      (⟨(self.contextAfter opening done).messages, calls, batch⟩ :: rounds) ending := by
  intro k shown hshown
  cases k with
  | zero =>
      rw [List.take_zero, List.map_nil, List.append_nil]
      exact (Option.some.inj hshown).symm
  | succ k =>
      have hlater := hrest k shown hshown
      rw [List.append_assoc] at hlater
      exact hlater

/-- The rest of a turn follows a course: its result is that of the course, with or without a
journal, and the journal gets the consultations of the course. -/
def Follows (self : Orchestrator σ) (opening : List Message) (left : Nat)
    (done : List (List Exchange)) (world : σ) : Prop :=
  ∃ rounds ending final, self.Course left world rounds ending final ∧
    self.proceed opening left done world =
      (report (done ++ rounds.map (·.exchanges)) ending, final) ∧
    (∀ before, self.journaled.proceed opening left done ⟨before, world⟩ =
      (report (done ++ rounds.map (·.exchanges)) ending,
        ⟨before ++ consultations rounds ending, final⟩)) ∧
    self.ShowsContexts opening done rounds ending

/-- A turn that ends with its next consultation follows a course without rounds. -/
private theorem follows_of_ending {self : Orchestrator σ} {opening : List Message} {left : Nat}
    {done : List (List Exchange)} {world asked : σ} {ending : Ending}
    (hcourse : self.Course left world [] ending asked)
    (hlast : ending.shown = [(self.contextAfter opening done).messages])
    (hresult : self.proceed opening left done world = (report done ending, asked))
    (hjournal : ∀ before, self.journaled.proceed opening left done ⟨before, world⟩ =
      (report done ending, ⟨before ++ [(self.contextAfter opening done).messages], asked⟩)) :
    self.Follows opening left done world := by
  refine ⟨[], ending, asked, hcourse, ?_, ?_, showsContexts_nil hlast⟩
  · rw [hresult, List.map_nil, List.append_nil]
  · intro before
    rw [hjournal, List.map_nil, List.append_nil, consultations, List.map_nil, List.nil_append,
      hlast]

/-- **Between any two batches the rest of a turn follows a course.** -/
theorem proceed_follows_course (self : Orchestrator σ) {opening : List Message}
    (hopening : ∀ message ∈ opening, message.opensBlock = false) (left : Nat)
    (done : List (List Exchange)) (hdone : ∀ batch ∈ done, batch ≠ []) (world : σ) :
    self.Follows opening left done world := by
  induction left generalizing done world with
  | zero =>
      refine ⟨[], .capped, world, .capped world, ?_, ?_, ?_⟩
      · rw [List.map_nil, List.append_nil]
        rfl
      · intro before
        simp only [proceed, List.map_nil, List.append_nil, consultations, Ending.shown]
      · intro k shown hshown
        simp [consultations, Ending.shown] at hshown
  | succ left ih =>
      let context := (self.contextAfter opening done).messages
      rcases self.decide_cases context world with ⟨detail, asked, hrefusal, hdecide⟩ |
        ⟨text, asked, hreply, hdecide⟩ | ⟨calls, asked, hcalls, hreply, hdecide⟩
      · exact follows_of_ending (.unusable hrefusal) rfl (proceed_of_refusal hdecide context)
          fun before => proceed_of_refusal (self.journaled_decide context before hdecide) context
      · exact follows_of_ending (.answered hreply) rfl (proceed_of_answer hdecide context)
          fun before => proceed_of_answer (self.journaled_decide context before hdecide) context
      · -- The batch joins those before it, and the course of what is left is put behind its round.
        have hgrown := self.append_execute_ne_nil hdone hcalls asked
        obtain ⟨rounds, ending, final, hcourse, hresult, hjournal, hshown⟩ :=
          ih (done ++ [self.execute calls asked]) hgrown (self.settle calls asked)
        let round : Round := ⟨context, calls, self.execute calls asked⟩
        have hbatches : done ++ (round :: rounds).map (·.exchanges) =
            done ++ [self.execute calls asked] ++ rounds.map (·.exchanges) := by simp [round]
        refine ⟨round :: rounds, ending, final, .batch hreply hcalls hcourse, ?_, ?_,
          showsContexts_cons hshown⟩
        · rw [proceed_of_calls hopening hdone hcalls hdecide, hresult, hbatches]
        · -- With a journal the same step is taken, after one more entry.
          intro before
          have hnoted := self.journaled_decide context before hdecide
          have hentries : before ++ consultations (round :: rounds) ending =
              before ++ [context] ++ consultations rounds ending := by simp [consultations, round]
          rw [proceed_of_calls hopening hdone hcalls hnoted, journaled_execute, journaled_settle,
            hjournal, hbatches, hentries]

/-! ## Reading the outcome off the course -/

section Reading

variable {self : Orchestrator σ} {left : Nat} {world final : σ} {rounds : List Round}
  {ending : Ending}

/-- A course is as long as it may be exactly when nothing else ends it. -/
theorem Course.length_eq_iff (hcourse : self.Course left world rounds ending final) :
    rounds.length = left ↔ ending = .capped := by
  induction hcourse with
  | capped => simp
  | answered => simp
  | unusable => simp
  | batch _ _ _ ih => rw [List.length_cons, Nat.add_right_cancel_iff, ih]

/-- Every round of a course is a batch that was run. -/
theorem Course.executed (hcourse : self.Course left world rounds ending final) :
    ∀ round ∈ rounds, round.calls ≠ [] ∧
      ∃ asked, round.exchanges = self.execute round.calls asked := by
  induction hcourse with
  | capped => simp
  | answered => simp
  | unusable => simp
  | @batch _ _ asked _ _ _ _ _ _ hcalls _ ih =>
      intro round hround
      rcases List.mem_cons.mp hround with rfl | hlater
      · exact ⟨hcalls, asked, rfl⟩
      · exact ih round hlater

private theorem incompleteAnswer_eq (iterations : Nat) (exchanges : List Exchange) :
    incompleteAnswer iterations exchanges =
      incompleteHeading iterations (exchanges.filter (·.succeeded)) ++
        listing (exchanges.filter (·.succeeded)) := by
  have hsuccesses : exchanges.filter (·.result.isSuccess) = exchanges.filter (·.succeeded) :=
    congrArg (exchanges.filter ·) (funext Exchange.isSuccess_eq)
  unfold incompleteAnswer incompleteHeading listing
  rw [hsuccesses]
  by_cases hnone : (exchanges.filter (·.succeeded)).isEmpty = true
  · -- Without a success the listing is empty, too.
    have hnil := List.isEmpty_iff.mp hnone
    simp only [hnil, List.isEmpty_nil, if_true, List.map_nil, incompleteMarker]
    rw [String.join_nil, String.append_empty]
  · simp only [hnone, incompleteMarker, if_false, Bool.false_eq_true, String.append_assoc,
      Exchange.observation_eq]

/-- **The outcome of a course recounts its rounds.** -/
theorem Course.recounts (hcourse : self.Course left world rounds ending final)
    {outcome : TurnOutcome} (hreport : report (rounds.map (·.exchanges)) ending = .ok outcome) :
    outcome.Recounts left rounds ending := by
  have hcapped := hcourse.length_eq_iff
  have hissued : (rounds.flatMap (·.exchanges)).map (·.call) = rounds.flatMap (·.calls) := by
    rw [List.map_flatMap, List.flatMap_def, List.flatMap_def]
    congr 1
    apply List.map_congr_left
    intro round hround
    obtain ⟨-, asked, hround⟩ := hcourse.executed round hround
    rw [hround, execute_calls]
  have hanswers : ∀ exchange ∈ rounds.flatMap (·.exchanges),
      exchange.result.callId = exchange.call.id ∧
        exchange.result.toolName = exchange.call.name := by
    intro exchange hexchange
    obtain ⟨round, hround, hmem⟩ := List.mem_flatMap.mp hexchange
    obtain ⟨-, asked, hround⟩ := hcourse.executed round hround
    exact self.execute_answers round.calls asked exchange (hround ▸ hmem)
  -- Exchanges are the same however it ended; what is incomplete depends on the limit alone.
  cases ending with
  | unusable shown detail => exact absurd hreport (by simp [report])
  | answered shown text =>
      obtain rfl := Except.ok.inj hreport
      refine ⟨List.flatMap_def.symm, ?_, ?_, List.length_map _, ?_, ?_, ?_⟩
      · rw [← List.flatMap_def, hissued]
      · rw [← List.flatMap_def]
        exact hanswers
      · simp [hcapped]
      · simp
      · intro _
        exact ⟨⟨shown, rfl⟩, by simp [consultations, Ending.shown]⟩
  | capped =>
      obtain rfl := Except.ok.inj hreport
      have hlength := hcapped.mpr rfl
      refine ⟨List.flatMap_def.symm, ?_, ?_, List.length_map _, ?_, ?_, ?_⟩
      · rw [← List.flatMap_def, hissued]
      · rw [← List.flatMap_def]
        exact hanswers
      · simp [hlength]
      · intro _
        exact ⟨rfl, by simpa [consultations, Ending.shown] using hlength, incompleteAnswer_eq _ _⟩
      · simp

end Reading

/-- The orchestrator with another limit on its batches. -/
def withCap (self : Orchestrator σ) (cap : Nat) : Orchestrator σ :=
  { self with limits := { self.limits with maxIterations := cap } }

/-- More room for batches does not change a turn that ends without using it up. -/
theorem proceed_withCap (self : Orchestrator σ) {opening : List Message}
    (hopening : ∀ message ∈ opening, message.opensBlock = false) (cap left extra : Nat)
    (done : List (List Exchange)) (hdone : ∀ batch ∈ done, batch ≠ []) (world : σ)
    (hended : ∀ outcome, (self.proceed opening left done world).1 = .ok outcome →
      outcome.incomplete = false) :
    (self.withCap cap).proceed opening (left + extra) done world =
      self.proceed opening left done world := by
  induction left generalizing done world with
  | zero => exact absurd (hended _ rfl) (by simp)
  | succ left ih =>
      let context := (self.contextAfter opening done).messages
      -- the oracle never learns of the limit
      have hsame : (self.withCap cap).decide ((self.withCap cap).contextAfter opening done).messages
          world = self.decide context world := rfl
      rw [Nat.add_right_comm]
      rcases self.decide_cases context world with ⟨detail, asked, -, hdecide⟩ |
        ⟨text, asked, -, hdecide⟩ | ⟨calls, asked, hcalls, -, hdecide⟩
      · rw [proceed_of_refusal hdecide context, proceed_of_refusal (hsame.trans hdecide) context]
      · rw [proceed_of_answer hdecide context, proceed_of_answer (hsame.trans hdecide) context]
      · have hgrown := self.append_execute_ne_nil hdone hcalls asked
        rw [proceed_of_calls hopening hdone hcalls hdecide] at hended
        rw [proceed_of_calls hopening hdone hcalls hdecide,
          proceed_of_calls hopening hdone hcalls (hsame.trans hdecide), ← ih _ hgrown _ hended]
        rfl

/-! ## Whole turns -/

/-- How many batches a turn may run: the limit, which is first looked at after a batch. -/
def batchCap (self : Orchestrator σ) : Nat :=
  max 1 self.limits.maxIterations

private theorem run_eq_proceed (self : Orchestrator σ) (systemPrompt userInput : String)
    (world : σ) :
    self.run systemPrompt userInput world =
      self.proceed (turnOpening systemPrompt userInput) self.batchCap [] world := by
  have hcap : self.batchCap = self.limits.maxIterations - 1 + 1 := by
    unfold batchCap
    omega
  have hopening : [.system systemPrompt, .user userInput] = turnOpening systemPrompt userInput :=
    rfl
  rw [hcap, run, hopening,
    Window.addAll_opening _ _ (opening_opensBlock systemPrompt userInput)]
  rfl

/-- The course that a turn follows, with all that is known about it. -/
private theorem run_course (self : Orchestrator σ) (systemPrompt userInput : String) (world : σ) :
    ∃ rounds ending final, self.Course self.batchCap world rounds ending final ∧
      self.run systemPrompt userInput world =
        (report (rounds.map (·.exchanges)) ending, final) ∧
      self.journaled.run systemPrompt userInput ⟨[], world⟩ =
        (report (rounds.map (·.exchanges)) ending, ⟨consultations rounds ending, final⟩) ∧
      self.ShowsContexts (turnOpening systemPrompt userInput) [] rounds ending := by
  obtain ⟨rounds, ending, final, hcourse, hresult, hjournal, hshown⟩ :=
    self.proceed_follows_course (opening_opensBlock systemPrompt userInput) self.batchCap []
      (by simp) world
  refine ⟨rounds, ending, final, hcourse, ?_, ?_, hshown⟩
  · rw [run_eq_proceed, hresult, List.nil_append]
  · have hstart := hjournal []
    rw [List.nil_append, List.nil_append] at hstart
    rw [run_eq_proceed, ← hstart]
    rfl

/-- All that the oracle is shown is the opening messages and blocks of batches that were run. -/
theorem shown_blocks (self : Orchestrator σ) (systemPrompt userInput : String) (world : σ)
    {shown : List Message}
    (hshown : shown ∈ (self.journaled.run systemPrompt userInput ⟨[], world⟩).2.shown) :
    ∃ kept : List (List Exchange), (∀ batch ∈ kept, batch ≠ []) ∧
      shown = turnOpening systemPrompt userInput ++ kept.flatMap Exchange.block := by
  obtain ⟨rounds, ending, final, hcourse, -, hjournal, hcontexts⟩ :=
    self.run_course systemPrompt userInput world
  rw [hjournal] at hshown
  obtain ⟨k, hk⟩ := List.mem_iff_getElem?.mp hshown
  have hcontext := hcontexts k shown hk
  rw [List.nil_append] at hcontext
  let opening := turnOpening systemPrompt userInput
  let fitting (run : List (List Exchange)) : Bool :=
    Window.fits self.limits.contextTokens opening (run.map Exchange.block)
  refine ⟨keepLatest fitting ((rounds.take k).map (·.exchanges)), ?_, ?_⟩
  · intro batch hbatch
    have hrun := (keepLatest_suffix fitting _).subset hbatch
    obtain ⟨round, hround, rfl⟩ := List.mem_map.mp hrun
    obtain ⟨hcalls, asked, hexecuted⟩ := hcourse.executed round (List.mem_of_mem_take hround)
    rw [hexecuted]
    exact self.execute_ne_nil hcalls asked
  · rw [hcontext, List.flatMap_def, ← keepLatest_map]
    rfl

/-- **A turn follows the reference turn.**  It stops at the first final answer, at the first
unusable decision or after as many batches as the limit allows.  Its outcome recounts the batches
that were run; the oracle was consulted once for each of them, and once more unless the limit ended
the turn.  The only failure is that of the oracle.  A larger limit changes nothing about a turn that
the limit did not end. -/
theorem run_follows_course (self : Orchestrator σ) (systemPrompt userInput : String) (world : σ) :
    ∃ rounds ending final, self.Course self.batchCap world rounds ending final ∧
      self.run systemPrompt userInput world =
        (report (rounds.map (·.exchanges)) ending, final) ∧
      self.journaled.run systemPrompt userInput ⟨[], world⟩ =
        ((self.run systemPrompt userInput world).1, ⟨consultations rounds ending, final⟩) ∧
      (match (self.run systemPrompt userInput world).1 with
        | .ok outcome => outcome.Recounts self.batchCap rounds ending
        | .error failure => ∃ shown detail, ending = .unusable shown detail ∧
          failure = .oracleUnavailable detail) ∧
      ∀ cap, self.batchCap ≤ cap → ending ≠ .capped →
        (self.withCap cap).run systemPrompt userInput world =
          self.run systemPrompt userInput world := by
  obtain ⟨rounds, ending, final, hcourse, hrun, hjournal, -⟩ :=
    self.run_course systemPrompt userInput world
  refine ⟨rounds, ending, final, hcourse, hrun, ?_, ?_, ?_⟩
  · rw [hjournal, hrun]
  · rw [hrun]
    cases hreport : report (rounds.map (·.exchanges)) ending with
    | ok outcome => exact hcourse.recounts hreport
    | error failure =>
        cases ending with
        | unusable shown detail => exact ⟨shown, detail, rfl, (Except.error.inj hreport).symm⟩
        | answered shown text => exact absurd hreport (by simp [report])
        | capped => exact absurd hreport (by simp [report])
  · intro cap hcap hended
    have hroom : (self.withCap cap).batchCap = self.batchCap + (cap - self.batchCap) := by
      have hpositive : 1 ≤ self.batchCap := Nat.le_max_left 1 _
      show max 1 cap = _
      omega
    rw [run_eq_proceed, run_eq_proceed, hroom]
    -- an outcome that is incomplete would have been forced by the limit
    apply self.proceed_withCap (opening_opensBlock systemPrompt userInput) cap _ _ [] (by simp)
    intro outcome houtcome
    rw [← run_eq_proceed, hrun] at houtcome
    have hcut := (hcourse.recounts houtcome).cut
    exact Bool.eq_false_iff.mpr fun hincomplete => hended (hcut hincomplete).1

/-- **The oracle is shown the opening messages and the latest batches that fit, as whole blocks.**
What is kept is the longest run of latest batches within the limit, or the latest batch alone if
none fits; a single trim of all messages so far would keep the same. -/
theorem shows_latest_blocks (self : Orchestrator σ) (systemPrompt userInput : String) (world : σ) :
    ∃ rounds ending final, self.Course self.batchCap world rounds ending final ∧
      self.journaled.run systemPrompt userInput ⟨[], world⟩ =
        ((self.run systemPrompt userInput world).1, ⟨consultations rounds ending, final⟩) ∧
      ∀ k shown, (consultations rounds ending)[k]? = some shown →
        let opening := turnOpening systemPrompt userInput
        let done := (rounds.take k).map (·.exchanges)
        ∃ kept, shown = opening ++ kept.flatMap Exchange.block ∧
          IsLatestRun (fun run => Window.estimate (opening ++ run.flatMap Exchange.block) ≤
            self.limits.contextTokens) done kept ∧
          shown = ((Window.ofMessages self.limits.contextTokens
            (opening ++ done.flatMap Exchange.block)).trim done.length).messages := by
  obtain ⟨rounds, ending, final, hcourse, hrun, hjournal, hshown⟩ :=
    self.run_course systemPrompt userInput world
  refine ⟨rounds, ending, final, hcourse, by rw [hjournal, hrun], ?_⟩
  intro k shown hk opening done
  have hcontext := hshown k shown hk
  rw [List.nil_append] at hcontext
  have hblocks : ∀ block ∈ done.map Exchange.block, Message.IsBlock block := by
    intro block hblock
    obtain ⟨batch, hbatch, rfl⟩ := List.mem_map.mp hblock
    obtain ⟨round, hround, rfl⟩ := List.mem_map.mp hbatch
    obtain ⟨hcalls, asked, hexecuted⟩ := hcourse.executed round (List.mem_of_mem_take hround)
    rw [hexecuted]
    exact Exchange.block_isBlock (self.execute_ne_nil hcalls asked)
  let fitting (run : List (List Exchange)) : Bool :=
    Window.fits self.limits.contextTokens opening (run.map Exchange.block)
  have hfitting : (fun run => fitting run = true) = fun run =>
      Window.estimate (opening ++ run.flatMap Exchange.block) ≤ self.limits.contextTokens := by
    funext run
    rw [List.flatMap_def]
    exact propext Window.fits_iff
  -- The window keeps blocks, and each block is that of one batch, so it keeps batches.
  refine ⟨keepLatest fitting done, ?_, ?_, ?_⟩
  · rw [hcontext, List.flatMap_def, ← keepLatest_map]
    rfl
  · rw [← hfitting]
    exact keepLatest_isLatestRun fitting done
  · -- As many trims as there are blocks are enough for any window.
    have htrim := @Window.trim_ofMessages self.limits.contextTokens opening
      (done.map Exchange.block) (opening_opensBlock systemPrompt userInput) hblocks done.length
      (Nat.le_of_eq (List.length_map Exchange.block))
    rw [hcontext, List.flatMap_def, htrim]
    rfl

end Orchestrator

end ToolAssistant
