import ToolAssistant.Proofs.Watched

/-!
# What a gateway makes of its store

The reference for one request to a memory gateway is `MemoryGateway.Serves`:

| the request | the reply | what is asked of the store |
|---|---|---|
| a query that is too short | skipped, store or not | nothing |
| a query, no store | unavailable, with the reason | nothing |
| a query | as the search ends, `Ends` | one search |
| a turn, no store | dropped, with the reason | nothing |
| a turn | as the addition ends, `Ends` | one addition |

`answerAll_serves` says that any sequence of requests is served so, one after another, whatever the
store does, and that the store hears exactly what the requests call for.  What was asked before may
have moved the store, but it cannot move the gateway: the reply is decided by the request and by
what the store comes to for it (`reply_congr`).
-/

namespace ToolAssistant

variable {σ τ α β : Type}

/-- What is asked of a memory gateway. -/
inductive MemoryRequest where
  | lookUp (query userId : String)
  | keep (turn : Turn) (userId : String)

/-- What a memory gateway replies. -/
inductive MemoryReply where
  | found (retrieval : Retrieval)
  | kept (outcome : StoreOutcome)

/-- What a store comes to when it is asked. -/
inductive StoreWork where
  | searching (work : Timed (Except Failure (List Snippet)))
  | adding (work : Timed (Except Failure Unit))

/-- How work ends under a time limit: with what becomes of its value, or with a reason.  Just at the
limit is within it. -/
inductive Ends (limit : Duration) (good : α → β) (bad : String → β) :
    Timed (Except Failure α) → β → Prop where
  | inTime {duration : Duration} {value : α} (htime : duration ≤ limit) :
      Ends limit good bad (.ends duration (.ok value)) (good value)
  | failed {duration : Duration} {failure : Failure} (htime : duration ≤ limit) :
      Ends limit good bad (.ends duration (.error failure)) (bad failure.message)
  | late {duration : Duration} {outcome : Except Failure α} (hlate : ¬duration ≤ limit) :
      Ends limit good bad (.ends duration outcome) (bad ("timed out after " ++ limit.text))
  | never : Ends limit good bad .never (bad ("timed out after " ++ limit.text))

/-- What a time limit leaves of some work, as a value or a reason. -/
def settled (limit : Duration) (good : α → β) (bad : String → β) :
    Option (Except Failure α) → β
  | some (.ok value) => good value
  | some (.error failure) => bad failure.message
  | none => bad ("timed out after " ++ limit.text)

theorem ends_settled (limit : Duration) (good : α → β) (bad : String → β)
    (work : Timed (Except Failure α)) :
    Ends limit good bad work (settled limit good bad (work.within limit)) := by
  cases work with
  | never => exact .never
  | ends duration outcome =>
      by_cases htime : duration ≤ limit
      · rw [Timed.within, if_pos htime]
        cases outcome with
        | ok value => exact .inTime htime
        | error failure => exact .failed htime
      · rw [Timed.within, if_neg htime]
        exact .late htime

namespace MemoryGateway

/-- The reply to a request. -/
def answer (self : MemoryGateway σ) : MemoryRequest → σ → MemoryReply × σ
  | .lookUp query userId, world => (self.retrieve query userId world).map .found id
  | .keep turn userId, world => (self.remember turn userId world).map .kept id

/-- The replies to requests that are made one after another. -/
def answerAll (self : MemoryGateway σ) : List MemoryRequest → σ → List MemoryReply × σ
  | [], world => ([], world)
  | request :: rest, world =>
    let (reply, world) := self.answer request world
    let (replies, world) := self.answerAll rest world
    (reply :: replies, world)

/-- What a request calls for: a query that is long enough one search, and a turn one addition, if
there is a store. -/
def callsFor (self : MemoryGateway σ) : MemoryRequest → List (Event σ)
  | .lookUp query userId => self.lookups query userId
  | .keep turn userId => self.additions turn userId

/-- What the store comes to if it is asked for the sake of a request. -/
def work? (self : MemoryGateway σ) (request : MemoryRequest) (world : σ) : Option StoreWork :=
  match self.store, request with
  | .error _, _ => none
  | .ok store, .lookUp query userId =>
    some (.searching (store.search (Text.trim query) userId self.maxSnippets world).1)
  | .ok store, .keep turn userId => some (.adding (store.add turn userId world).1)

/-- What a request comes to in a world: the reply, what is asked of the store, and the world
afterwards. -/
inductive Serves (self : MemoryGateway σ) (world : σ) :
    MemoryRequest → MemoryReply → List (Event σ) → σ → Prop where
  | skipped {query userId : String} (hshort : (Text.trim query).length < self.minQueryChars) :
      Serves self world (.lookUp query userId) (.found .skipped) [] world
  | unavailable {query userId reason : String}
      (hlong : self.minQueryChars ≤ (Text.trim query).length)
      (hstore : self.store = .error reason) :
      Serves self world (.lookUp query userId) (.found (.unavailable reason)) [] world
  | searched {query userId : String} {store : MemoryStore σ} {after : σ} {retrieval : Retrieval}
      {work : Timed (Except Failure (List Snippet))}
      (hlong : self.minQueryChars ≤ (Text.trim query).length) (hstore : self.store = .ok store)
      (hsearch : store.search (Text.trim query) userId self.maxSnippets world = (work, after))
      (hends : Ends self.timeout (fun snippets => .retrieved (snippets.take self.maxSnippets))
        .unavailable work retrieval) :
      Serves self world (.lookUp query userId) (.found retrieval)
        [.searched (Text.trim query) userId self.maxSnippets] after
  | withheld {turn : Turn} {userId reason : String} (hstore : self.store = .error reason) :
      Serves self world (.keep turn userId) (.kept (.dropped reason)) [] world
  | added {turn : Turn} {userId : String} {store : MemoryStore σ} {after : σ}
      {outcome : StoreOutcome} {work : Timed (Except Failure Unit)}
      (hstore : self.store = .ok store) (hadd : store.add turn userId world = (work, after))
      (hends : Ends self.timeout (fun _ => .stored) .dropped work outcome) :
      Serves self world (.keep turn userId) (.kept outcome) [.added turn userId] after

/-- What requests come to one after another, each with its reply and with what is asked of the
store for it. -/
inductive ServesAll (self : MemoryGateway σ) :
    σ → List MemoryRequest → List MemoryReply → List (List (Event σ)) → σ → Prop where
  | nil (world : σ) : ServesAll self world [] [] [] world
  | cons {world between after : σ} {request : MemoryRequest} {reply : MemoryReply}
      {events : List (Event σ)} {requests : List MemoryRequest} {replies : List MemoryReply}
      {log : List (List (Event σ))} (hfirst : self.Serves world request reply events between)
      (hrest : ServesAll self between requests replies log after) :
      ServesAll self world (request :: requests) (reply :: replies) (events :: log) after

/-- Two gateways go by the same settings, and they have a store or else the same reason. -/
structure SamePolicy (first : MemoryGateway σ) (second : MemoryGateway τ) : Prop where
  minQueryChars : first.minQueryChars = second.minQueryChars
  maxSnippets : first.maxSnippets = second.maxSnippets
  timeout : first.timeout = second.timeout
  reason : ∀ reason, first.store = .error reason ↔ second.store = .error reason

/-! ## One request -/

section Cases

variable {self : MemoryGateway σ} {query userId reason : String} {turn : Turn}
  {store : MemoryStore σ}

theorem retrieve_of_short (hshort : (Text.trim query).length < self.minQueryChars) (world : σ) :
    self.retrieve query userId world = (.skipped, world) := by
  rw [retrieve, if_pos hshort]

theorem retrieve_of_reason (hlong : self.minQueryChars ≤ (Text.trim query).length)
    (hstore : self.store = .error reason) (world : σ) :
    self.retrieve query userId world = (.unavailable reason, world) := by
  rw [retrieve, if_neg (Nat.not_lt.mpr hlong), hstore]

theorem retrieve_of_store (hlong : self.minQueryChars ≤ (Text.trim query).length)
    (hstore : self.store = .ok store) {world after : σ}
    {work : Timed (Except Failure (List Snippet))}
    (hsearch : store.search (Text.trim query) userId self.maxSnippets world = (work, after)) :
    self.retrieve query userId world =
      (settled self.timeout (fun snippets => .retrieved (snippets.take self.maxSnippets))
        .unavailable (work.within self.timeout), after) := by
  have hwithin : (store.search (Text.trim query) userId self.maxSnippets).within self.timeout
      world = (work.within self.timeout, after) := by rw [Action.within, hsearch]
  rw [retrieve, if_neg (Nat.not_lt.mpr hlong), hstore]
  simp only [hwithin]
  rcases work.within self.timeout with _ | failure | snippets <;> rfl

theorem remember_of_reason (hstore : self.store = .error reason) (world : σ) :
    self.remember turn userId world = (.dropped reason, world) := by
  rw [remember, hstore]

theorem remember_of_store (hstore : self.store = .ok store) {world after : σ}
    {work : Timed (Except Failure Unit)} (hadd : store.add turn userId world = (work, after)) :
    self.remember turn userId world =
      (settled self.timeout (fun _ => .stored) .dropped (work.within self.timeout), after) := by
  have hwithin : (store.add turn userId).within self.timeout world =
      (work.within self.timeout, after) := by rw [Action.within, hadd]
  rw [remember, hstore]
  simp only [hwithin]
  rcases work.within self.timeout with _ | failure | _ <;> rfl

theorem lookups_of_short (hshort : (Text.trim query).length < self.minQueryChars) :
    self.lookups query userId = [] := by
  rw [lookups, if_neg]
  intro hcalled
  omega

theorem lookups_of_reason (hstore : self.store = .error reason) :
    self.lookups query userId = [] := by
  rw [lookups, isEnabled_of_reason hstore, if_neg (by simp)]

theorem lookups_of_store (hlong : self.minQueryChars ≤ (Text.trim query).length)
    (hstore : self.store = .ok store) :
    self.lookups query userId = [.searched (Text.trim query) userId self.maxSnippets] := by
  rw [lookups, isEnabled_of_store hstore, if_pos ⟨rfl, hlong⟩]

theorem additions_of_reason (hstore : self.store = .error reason) :
    self.additions turn userId = [] := by
  rw [additions, isEnabled_of_reason hstore, if_neg (by simp)]

theorem additions_of_store (hstore : self.store = .ok store) :
    self.additions turn userId = [.added turn userId] := by
  rw [additions, isEnabled_of_store hstore, if_pos rfl]

end Cases

/-- **Every request is served, and the store hears what it calls for.** -/
theorem answer_serves (self : MemoryGateway σ) (request : MemoryRequest) (world : σ) :
    ∃ reply after, self.Serves world request reply (self.callsFor request) after ∧
      self.answer request world = (reply, after) ∧
      ∀ past, self.watched.answer request ⟨past, world⟩ =
        (reply, ⟨past ++ self.callsFor request, after⟩) := by
  -- Watching is settled for each kind of request already, so the plain gateway is enough.
  suffices hplain : self.Serves world request (self.answer request world).1 (self.callsFor request)
      (self.answer request world).2 by
    refine ⟨_, _, hplain, rfl, ?_⟩
    intro past
    cases request with
    | lookUp query userId =>
        simp only [answer, self.watched_retrieve query userId world past]
        rfl
    | keep turn userId =>
        simp only [answer, self.watched_remember turn userId world past]
        rfl
  cases request with
  | lookUp query userId =>
      rcases Nat.lt_or_ge (Text.trim query).length self.minQueryChars with hshort | hlong
      · rw [callsFor, lookups_of_short hshort, answer, retrieve_of_short hshort]
        exact .skipped hshort
      · cases hstore : self.store with
        | error reason =>
            rw [callsFor, lookups_of_reason hstore, answer, retrieve_of_reason hlong hstore]
            exact .unavailable hlong hstore
        | ok store =>
            rcases hsearch : store.search (Text.trim query) userId self.maxSnippets world with
              ⟨work, after⟩
            rw [callsFor, lookups_of_store hlong hstore, answer,
              retrieve_of_store hlong hstore hsearch]
            exact .searched hlong hstore hsearch (ends_settled ..)
  | keep turn userId =>
      cases hstore : self.store with
      | error reason =>
          rw [callsFor, additions_of_reason hstore, answer, remember_of_reason hstore]
          exact .withheld hstore
      | ok store =>
          rcases hadd : store.add turn userId world with ⟨work, after⟩
          rw [callsFor, additions_of_store hstore, answer, remember_of_store hstore hadd]
          exact .added hstore hadd (ends_settled ..)

/-- **A reply is decided by the request and by what the store comes to for it.** -/
theorem reply_congr {first : MemoryGateway σ} {second : MemoryGateway τ}
    (hpolicy : first.SamePolicy second) {request : MemoryRequest} {world : σ} {other : τ}
    (hwork : first.work? request world = second.work? request other) :
    (first.answer request world).1 = (second.answer request other).1 := by
  obtain ⟨hmin, hmax, htimeout, hreason⟩ := hpolicy
  cases hstore : first.store with
  | error reason =>
      have hother := (hreason reason).mp hstore
      cases request with
      | lookUp query userId =>
          rcases Nat.lt_or_ge (Text.trim query).length first.minQueryChars with hshort | hlong
          · rw [answer, answer, retrieve_of_short hshort, retrieve_of_short (hmin ▸ hshort)]
            rfl
          · rw [answer, answer, retrieve_of_reason hlong hstore,
              retrieve_of_reason (hmin ▸ hlong) hother]
            rfl
      | keep turn userId =>
          rw [answer, answer, remember_of_reason hstore, remember_of_reason hother]
          rfl
  | ok store =>
      cases hother : second.store with
      | error reason =>
          rw [(hreason reason).mpr hother] at hstore
          cases hstore
      | ok otherStore =>
          simp only [work?, hstore, hother] at hwork
          cases request with
          | lookUp query userId =>
              rcases Nat.lt_or_ge (Text.trim query).length first.minQueryChars with hshort | hlong
              · rw [answer, answer, retrieve_of_short hshort, retrieve_of_short (hmin ▸ hshort)]
                rfl
              · have hsame := StoreWork.searching.inj (Option.some.inj hwork)
                rw [answer, answer, retrieve_of_store hlong hstore rfl,
                  retrieve_of_store (hmin ▸ hlong) hother rfl, hsame, hmax, htimeout]
                rfl
          | keep turn userId =>
              have hsame := StoreWork.adding.inj (Option.some.inj hwork)
              rw [answer, answer, remember_of_store hstore rfl, remember_of_store hother rfl, hsame,
                htimeout]
              rfl

/-! ## Sequences of requests -/

theorem answerAll_append_singleton (self : MemoryGateway σ) (earlier : List MemoryRequest)
    (request : MemoryRequest) (world : σ) :
    (self.answerAll (earlier ++ [request]) world).1 =
      (self.answerAll earlier world).1 ++
        [(self.answer request (self.answerAll earlier world).2).1] := by
  induction earlier generalizing world with
  | nil => rfl
  | cons first earlier ih => simp only [List.cons_append, answerAll, ih]

/-- **A gateway serves any sequence of requests.**  Each is replied to as the case table says,
whatever became of those before it.  Watched, the store hears the search or the addition that each
request calls for, once and in order, and nothing else.  And a reply is the same after any two
histories, with any two stores, in which the store comes to the same for the request itself. -/
theorem answerAll_serves (self : MemoryGateway σ) (requests : List MemoryRequest) (world : σ) :
    (∃ replies log after, self.ServesAll world requests replies log after ∧
      log = requests.map self.callsFor ∧ self.answerAll requests world = (replies, after) ∧
      ∀ past, self.watched.answerAll requests ⟨past, world⟩ =
        (replies, ⟨past ++ log.flatten, after⟩)) ∧
    ∀ {τ : Type} (other : MemoryGateway τ) (otherRequests : List MemoryRequest) (otherWorld : τ)
      (request : MemoryRequest), self.SamePolicy other →
      self.work? request (self.answerAll requests world).2 =
        other.work? request (other.answerAll otherRequests otherWorld).2 →
      (self.answerAll (requests ++ [request]) world).1.getLast? =
        (other.answerAll (otherRequests ++ [request]) otherWorld).1.getLast? := by
  constructor
  · induction requests generalizing world with
    | nil =>
        refine ⟨[], [], world, .nil world, rfl, rfl, ?_⟩
        intro past
        rw [List.flatten_nil, List.append_nil]
        rfl
    | cons request requests ih =>
        obtain ⟨reply, between, hserves, hanswer, hwatched⟩ := self.answer_serves request world
        obtain ⟨replies, log, after, hall, rfl, hanswers, hwatchedAll⟩ := ih between
        refine ⟨reply :: replies, _ :: requests.map self.callsFor, after, .cons hserves hall, rfl,
          ?_, ?_⟩
        · simp only [answerAll, hanswer, hanswers]
        · intro past
          simp only [answerAll, hwatched past, hwatchedAll, List.flatten_cons, List.append_assoc]
  · intro τ other otherRequests otherWorld request hpolicy hwork
    rw [answerAll_append_singleton, answerAll_append_singleton, List.getLast?_concat,
      List.getLast?_concat, reply_congr hpolicy hwork]

/-- A store that does not come back from its first search. -/
def slowStarter : MemoryStore Nat where
  name := "slow starter"
  search query userId _ := fun asked =>
    (if asked = 0 then .never else .ends .zero (.ok [⟨query, 1, userId⟩]), asked + 1)
  add _ _ := fun asked => (.ends .zero (.ok ()), asked)

/-- The second search is replied to as if the first had not been lost. -/
theorem answerAll_serves_slowStarter :
    let gateway : MemoryGateway Nat := ⟨.ok slowStarter, 3, 5, .ofSeconds 2⟩
    let request := MemoryRequest.lookUp " my name" "anna"
    gateway.SamePolicy gateway ∧
      gateway.work? request (gateway.answerAll [request] 0).2 =
        gateway.work? request (gateway.answerAll [] 1).2 ∧
      (gateway.answerAll [request, request] 0).1.getLast? =
        (gateway.answerAll [request] 1).1.getLast? := by
  intro gateway request
  have hpolicy : gateway.SamePolicy gateway := ⟨rfl, rfl, rfl, fun _ => Iff.rfl⟩
  have hwork : gateway.work? request (gateway.answerAll [request] 0).2 =
      gateway.work? request (gateway.answerAll [] 1).2 := by rfl
  have hserves := (gateway.answerAll_serves [request] 0).2 gateway [] 1 request hpolicy hwork
  exact ⟨hpolicy, hwork, hserves⟩

end MemoryGateway

end ToolAssistant
