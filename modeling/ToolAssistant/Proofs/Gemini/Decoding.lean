import ToolAssistant.Gemini.Reply
import ToolAssistant.Proofs.Gemini.Contents
import ToolAssistant.Proofs.Text.Blank

/-!
# What a reply decides

All that counts of a reply is the parts of its first candidate (`HasParts`).  The calls among them
are read in order, with an identifier of their own or a fresh one (`Issues`), or not at all; the
texts count where no part issues a call.

Reading undoes telling: the entry in which the assistant's calls or text are told, read as the
content of a candidate, gives the calls or the text back.
-/

namespace ToolAssistant

namespace Json

theorem array?_eq_some_iff {value : Json} {items : List Json} :
    value.array? = some items ↔ value = .array items := by
  cases value <;> simp [array?]

/-- The text of an optional value, if it is one. -/
theorem bind_string?_eq_some_iff {value? : Option Json} {text : String} :
    value?.bind string? = some text ↔ value? = some (.string text) := by
  rcases value? with _ | value
  · simp
  · cases value <;> simp [string?]

theorem bind_string?_eq_none_iff {value? : Option Json} :
    value?.bind string? = none ↔ ∀ text, value? ≠ some (.string text) := by
  simp only [Option.eq_none_iff_forall_ne_some, ne_eq, bind_string?_eq_some_iff]

end Json

namespace Gemini

variable {σ : Type} {fresh : σ → String × σ} {reply : Json} {parts : List Json} {world after : σ}

/-! ## The first candidate -/

/-- The content of the first candidate. -/
def HasContent (reply content : Json) : Prop :=
  ∃ candidate others, reply.field? "candidates" = some (.array (candidate :: others)) ∧
    candidate.field? "content" = some content

/-- The parts of the first candidate. -/
def HasParts (reply : Json) (parts : List Json) : Prop :=
  ∃ content, HasContent reply content ∧ content.field? "parts" = some (.array parts)

theorem path?_pair (first second : String) (value : Json) :
    path? [first, second] value = (value.field? first).bind (Json.field? second) := by
  simp [path?]

theorem candidateParts_of_hasParts (hparts : HasParts reply parts) :
    candidateParts reply = .ok parts := by
  obtain ⟨content, ⟨candidate, others, hcandidates, hcontent⟩, hparts⟩ := hparts
  rw [candidateParts, hcandidates]
  simp only [Option.bind_some, Json.array?, List.head?_cons, path?_pair, hcontent, hparts]

theorem candidateParts_cases (reply : Json) :
    (∃ parts, HasParts reply parts) ∨
      ∃ message, candidateParts reply = .error (.protocol message) := by
  unfold candidateParts
  cases hfirst : ((reply.field? "candidates").bind Json.array?).bind List.head? with
  | none =>
      dsimp only
      exact Or.inr ⟨_, rfl⟩
  | some candidate =>
      dsimp only
      rw [path?_pair]
      cases hpath : ((candidate.field? "content").bind (Json.field? "parts")).bind Json.array? with
      | none => exact Or.inr ⟨_, rfl⟩
      | some parts =>
          obtain ⟨items, hitems, hhead⟩ := Option.bind_eq_some_iff.mp hfirst
          obtain ⟨value, hcandidates, hitems⟩ := Option.bind_eq_some_iff.mp hitems
          obtain rfl := Json.array?_eq_some_iff.mp hitems
          obtain ⟨others, rfl⟩ := List.head?_eq_some_iff.mp hhead
          obtain ⟨value, hpath, hvalue⟩ := Option.bind_eq_some_iff.mp hpath
          obtain rfl := Json.array?_eq_some_iff.mp hvalue
          obtain ⟨content, hcontent, hparts⟩ := Option.bind_eq_some_iff.mp hpath
          exact Or.inl ⟨parts, content, ⟨candidate, others, hcandidates, hcontent⟩, hparts⟩

/-! ## The calls -/

/-- The arguments of a call are the fields of an object; anything else gives none. -/
def argumentsOf (call : Json) : Fields :=
  ((call.field? "args").bind Json.object?).getD []

/-- The calls that parts issue, in order, each with a name, and an identifier of its own or a fresh
one. -/
inductive Issues (fresh : σ → String × σ) : List Json → σ → List ToolCall → σ → Prop
  | nil (world : σ) : Issues fresh [] world [] world
  | other {part : Json} {parts : List Json} {world after : σ} {calls : List ToolCall} :
      part.field? "functionCall" = none → Issues fresh parts world calls after →
        Issues fresh (part :: parts) world calls after
  | identified {part call : Json} {parts : List Json} {world after : σ} {calls : List ToolCall}
      {id name : String} :
      part.field? "functionCall" = some call → call.field? "name" = some (.string name) →
        call.field? "id" = some (.string id) → Issues fresh parts world calls after →
          Issues fresh (part :: parts) world (⟨id, name, argumentsOf call⟩ :: calls) after
  | unidentified {part call : Json} {parts : List Json} {world after : σ} {calls : List ToolCall}
      {name : String} :
      part.field? "functionCall" = some call → call.field? "name" = some (.string name) →
        (∀ id, call.field? "id" ≠ some (.string id)) →
        Issues fresh parts (fresh world).2 calls after →
          Issues fresh (part :: parts) world
            (⟨"call_" ++ (fresh world).1, name, argumentsOf call⟩ :: calls) after

/-- The part issues a call that has no name. -/
def IssuesNameless (part : Json) : Prop :=
  ∃ call, part.field? "functionCall" = some call ∧ ∀ name, call.field? "name" ≠ some (.string name)

section ReadCall

variable {call : Json} {id name : String}

theorem ofArguments_args (id name : String) (call : Json) :
    ToolCall.ofArguments id name ((call.field? "args").getD .null) =
      ⟨id, name, argumentsOf call⟩ := by
  rw [ToolCall.ofArguments, argumentsOf]
  cases call.field? "args" <;> rfl

theorem readCall_identified (hname : call.field? "name" = some (.string name))
    (hid : call.field? "id" = some (.string id)) :
    readCall fresh call world = (.ok ⟨id, name, argumentsOf call⟩, world) := by
  rw [readCall, hname, hid, ← ofArguments_args]
  rfl

theorem readCall_unidentified (hname : call.field? "name" = some (.string name))
    (hid : ∀ id, call.field? "id" ≠ some (.string id)) :
    readCall fresh call world =
      (.ok ⟨"call_" ++ (fresh world).1, name, argumentsOf call⟩, (fresh world).2) := by
  rw [readCall, hname, Json.bind_string?_eq_none_iff.mpr hid, ← ofArguments_args]
  rfl

theorem readCall_nameless (hname : ∀ name, call.field? "name" ≠ some (.string name)) :
    readCall fresh call world = (.error (.protocol "functionCall without a name"), world) := by
  rw [readCall, Json.bind_string?_eq_none_iff.mpr hname]

end ReadCall

theorem issuedCalls_eq_nil_iff :
    issuedCalls parts = [] ↔ ∀ part ∈ parts, part.field? "functionCall" = none :=
  List.filterMap_eq_nil_iff

theorem issuedCalls_cons_other {part : Json} (hother : part.field? "functionCall" = none)
    (parts : List Json) : issuedCalls (part :: parts) = issuedCalls parts :=
  List.filterMap_cons_none hother

theorem issuedCalls_cons_call {part call : Json} (hcall : part.field? "functionCall" = some call)
    (parts : List Json) : issuedCalls (part :: parts) = call :: issuedCalls parts :=
  List.filterMap_cons_some hcall

theorem readCalls_cons {call : Json} {rest : List Json} {first : ToolCall} {next : σ}
    (hcall : readCall fresh call world = (.ok first, next)) {calls : List ToolCall}
    (hrest : readCalls fresh rest next = (.ok calls, after)) :
    readCalls fresh (call :: rest) world = (.ok (first :: calls), after) := by
  simp only [readCalls, hcall, hrest]

theorem readCalls_cons_error {call : Json} {rest : List Json} {first : ToolCall} {next : σ}
    (hcall : readCall fresh call world = (.ok first, next)) {error : OracleError}
    (hrest : (readCalls fresh rest next).1 = .error error) :
    (readCalls fresh (call :: rest) world).1 = .error error := by
  rcases hread : readCalls fresh rest next with ⟨result, last⟩
  rw [hread] at hrest
  obtain rfl : result = .error error := hrest
  simp only [readCalls, hcall, hread]

/-- Calls that parts issue are read as they are. -/
theorem readCalls_of_issues {calls : List ToolCall}
    (hissues : Issues fresh parts world calls after) :
    readCalls fresh (issuedCalls parts) world = (.ok calls, after) := by
  induction hissues with
  | nil => rfl
  | other hother _ ih => rwa [issuedCalls_cons_other hother]
  | identified hcall hname hid _ ih =>
      rw [issuedCalls_cons_call hcall]
      exact readCalls_cons (readCall_identified hname hid) ih
  | unidentified hcall hname hid _ ih =>
      rw [issuedCalls_cons_call hcall]
      exact readCalls_cons (readCall_unidentified hname hid) ih

/-- Parts issue calls, or one of them has no name and none is read. -/
theorem issues_cases (fresh : σ → String × σ) (parts : List Json) (world : σ) :
    (∃ calls after, Issues fresh parts world calls after) ∨
      (∃ part ∈ parts, IssuesNameless part) ∧
        (readCalls fresh (issuedCalls parts) world).1 =
          .error (.protocol "functionCall without a name") := by
  induction parts generalizing world with
  | nil => exact Or.inl ⟨[], world, .nil world⟩
  | cons part parts ih =>
      cases hcall : part.field? "functionCall" with
      | none =>
          rw [issuedCalls_cons_other hcall]
          rcases ih world with ⟨calls, after, hissues⟩ | ⟨⟨nameless, hmem, hnameless⟩, herror⟩
          · exact Or.inl ⟨calls, after, .other hcall hissues⟩
          · exact Or.inr ⟨⟨nameless, List.mem_cons_of_mem part hmem, hnameless⟩, herror⟩
      | some call =>
          rw [issuedCalls_cons_call hcall]
          by_cases hname : ∃ name, call.field? "name" = some (.string name)
          · obtain ⟨name, hname⟩ := hname
            -- Reading a call without an identifier takes one, so what follows starts elsewhere.
            by_cases hid : ∃ id, call.field? "id" = some (.string id)
            · obtain ⟨id, hid⟩ := hid
              rcases ih world with ⟨calls, after, hissues⟩ | ⟨⟨nameless, hmem, hnameless⟩, herror⟩
              · exact Or.inl ⟨_, after, .identified hcall hname hid hissues⟩
              · exact Or.inr ⟨⟨nameless, List.mem_cons_of_mem part hmem, hnameless⟩,
                  readCalls_cons_error (readCall_identified hname hid) herror⟩
            · have hid := not_exists.mp hid
              rcases ih (fresh world).2 with ⟨calls, after, hissues⟩ |
                ⟨⟨nameless, hmem, hnameless⟩, herror⟩
              · exact Or.inl ⟨_, after, .unidentified hcall hname hid hissues⟩
              · exact Or.inr ⟨⟨nameless, List.mem_cons_of_mem part hmem, hnameless⟩,
                  readCalls_cons_error (readCall_unidentified hname hid) herror⟩
          · have hname := not_exists.mp hname
            refine Or.inr ⟨⟨part, List.mem_cons_self, call, hcall, hname⟩, ?_⟩
            rw [readCalls, readCall_nameless hname]

theorem Issues.named {calls : List ToolCall} (hissues : Issues fresh parts world calls after) :
    ∀ part ∈ parts, ¬IssuesNameless part := by
  have hgiven {part call : Json} {name : String} (hcall : part.field? "functionCall" = some call)
      (hname : call.field? "name" = some (.string name)) : ¬IssuesNameless part := by
    rintro ⟨found, hfound, hnameless⟩
    obtain rfl : call = found := Option.some.inj (hcall.symm.trans hfound)
    exact hnameless name hname
  induction hissues with
  | nil => exact nofun
  | other hother _ ih =>
      refine List.forall_mem_cons.mpr ⟨?_, ih⟩
      rintro ⟨call, hcall, -⟩
      exact nomatch hother.symm.trans hcall
  | identified hcall hname _ _ ih => exact List.forall_mem_cons.mpr ⟨hgiven hcall hname, ih⟩
  | unidentified hcall hname _ _ ih => exact List.forall_mem_cons.mpr ⟨hgiven hcall hname, ih⟩

/-- No calls are issued just if no part issues one. -/
theorem Issues.eq_nil_iff {calls : List ToolCall} (hissues : Issues fresh parts world calls after) :
    calls = [] ↔ issuedCalls parts = [] := by
  induction hissues with
  | nil => exact iff_of_true rfl rfl
  | other hother _ ih => rwa [issuedCalls_cons_other hother]
  | identified hcall => simp [issuedCalls_cons_call hcall]
  | unidentified hcall => simp [issuedCalls_cons_call hcall]

/-! ## Decisions -/

theorem readReply_of_calls {calls : List ToolCall} (hparts : HasParts reply parts)
    (hissues : Issues fresh parts world calls after) (hcalls : calls ≠ []) :
    readReply fresh reply world = (.ok (.toolCalls calls), after) := by
  have hissued : (issuedCalls parts).isEmpty = false :=
    List.isEmpty_eq_false_iff.mpr fun hnil => hcalls (hissues.eq_nil_iff.mpr hnil)
  have hsome : calls.isEmpty = false := List.isEmpty_eq_false_iff.mpr hcalls
  rw [readReply, candidateParts_of_hasParts hparts]
  simp only [decideParts, hissued, readCalls_of_issues hissues, Decision.ofCalls, hsome,
    Bool.false_eq_true, if_false]

theorem readReply_of_nameless {part : Json} (hparts : HasParts reply parts) (hmem : part ∈ parts)
    (hnameless : IssuesNameless part) :
    (readReply fresh reply world).1 = .error (.protocol "functionCall without a name") := by
  have hissued : (issuedCalls parts).isEmpty = false := by
    obtain ⟨call, hcall, -⟩ := hnameless
    refine List.isEmpty_eq_false_iff.mpr fun hnil => ?_
    exact nomatch (issuedCalls_eq_nil_iff.mp hnil part hmem).symm.trans hcall
  rcases issues_cases fresh parts world with ⟨calls, after, hissues⟩ | ⟨-, herror⟩
  · exact absurd hnameless (hissues.named part hmem)
  · rcases hread : readCalls fresh (issuedCalls parts) world with ⟨result, last⟩
    rw [hread] at herror
    obtain rfl : result = .error _ := herror
    rw [readReply, candidateParts_of_hasParts hparts]
    simp only [decideParts, hissued, hread, Bool.false_eq_true, if_false]

theorem readReply_of_texts (hparts : HasParts reply parts)
    (htexts : ∀ part ∈ parts, part.field? "functionCall" = none) :
    readReply fresh reply world =
      (if Text.trim (answerText parts) = "" then .error (.protocol "Empty response")
        else .ok (.finalAnswer (Text.trim (answerText parts))), world) := by
  have hissued : (issuedCalls parts).isEmpty = true :=
    List.isEmpty_iff.mpr (issuedCalls_eq_nil_iff.mpr htexts)
  rw [readReply, candidateParts_of_hasParts hparts]
  simp only [decideParts, hissued, if_true, String.isEmpty_iff]

/-- A reply is read as calls, as a text, or not at all. -/
theorem readReply_cases (fresh : σ → String × σ) (reply : Json) (world : σ) :
    (∃ parts calls after, HasParts reply parts ∧ Issues fresh parts world calls after ∧
        calls ≠ [] ∧ readReply fresh reply world = (.ok (.toolCalls calls), after)) ∨
      (∃ parts, HasParts reply parts ∧ (∀ part ∈ parts, part.field? "functionCall" = none) ∧
        Text.trim (answerText parts) ≠ "" ∧
        readReply fresh reply world = (.ok (.finalAnswer (Text.trim (answerText parts))), world)) ∨
      ∃ message, (readReply fresh reply world).1 = .error (.protocol message) := by
  rcases candidateParts_cases reply with ⟨parts, hparts⟩ | ⟨message, herror⟩
  · rcases issues_cases fresh parts world with ⟨calls, after, hissues⟩ |
      ⟨⟨part, hmem, hnameless⟩, -⟩
    · -- Where no call is issued, the texts count.
      by_cases hcalls : calls = []
      · have htexts := issuedCalls_eq_nil_iff.mp (hissues.eq_nil_iff.mp hcalls)
        have hread : readReply fresh reply world = _ := readReply_of_texts hparts htexts
        by_cases hblank : Text.trim (answerText parts) = ""
        · rw [if_pos hblank] at hread
          exact Or.inr (Or.inr ⟨_, congrArg Prod.fst hread⟩)
        · rw [if_neg hblank] at hread
          exact Or.inr (Or.inl ⟨parts, hparts, htexts, hblank, hread⟩)
      · exact Or.inl ⟨parts, calls, after, hparts, hissues, hcalls,
          readReply_of_calls hparts hissues hcalls⟩
    · exact Or.inr (Or.inr ⟨_, readReply_of_nameless hparts hmem hnameless⟩)
  · refine Or.inr (Or.inr ⟨message, ?_⟩)
    rw [readReply, herror]

theorem readReply_eq_toolCalls_iff {calls : List ToolCall} :
    readReply fresh reply world = (.ok (.toolCalls calls), after) ↔
      calls ≠ [] ∧ ∃ parts, HasParts reply parts ∧ Issues fresh parts world calls after := by
  constructor
  · intro hread
    rcases readReply_cases fresh reply world with
      ⟨parts, issued, last, hparts, hissues, hsome, hcalls⟩ | ⟨parts, -, -, -, htext⟩ |
      ⟨message, herror⟩
    · obtain ⟨hdecision, rfl⟩ := Prod.mk.inj (hcalls.symm.trans hread)
      obtain rfl := Decision.toolCalls.inj (Except.ok.inj hdecision)
      exact ⟨hsome, parts, hparts, hissues⟩
    · exact nomatch htext.symm.trans hread
    · rw [hread] at herror
      exact nomatch herror
  · rintro ⟨hsome, parts, hparts, hissues⟩
    exact readReply_of_calls hparts hissues hsome

theorem readReply_eq_finalAnswer_iff {text : String} :
    readReply fresh reply world = (.ok (.finalAnswer text), after) ↔
      after = world ∧ text ≠ "" ∧ ∃ parts, HasParts reply parts ∧
        (∀ part ∈ parts, part.field? "functionCall" = none) ∧
        text = Text.trim (answerText parts) := by
  constructor
  · intro hread
    rcases readReply_cases fresh reply world with ⟨parts, issued, last, -, -, -, hcalls⟩ |
      ⟨parts, hparts, htexts, hsome, htext⟩ | ⟨message, herror⟩
    · exact nomatch hcalls.symm.trans hread
    · obtain ⟨hdecision, rfl⟩ := Prod.mk.inj (htext.symm.trans hread)
      obtain rfl := Decision.finalAnswer.inj (Except.ok.inj hdecision)
      exact ⟨rfl, hsome, parts, hparts, htexts, rfl⟩
    · rw [hread] at herror
      exact nomatch herror
  · rintro ⟨rfl, hsome, parts, hparts, htexts, rfl⟩
    rw [readReply_of_texts hparts htexts, if_neg hsome]

theorem readReply_error {error : OracleError}
    (hread : readReply fresh reply world = (.error error, after)) :
    ∃ message, error = .protocol message := by
  rcases readReply_cases fresh reply world with ⟨parts, issued, last, -, -, -, hcalls⟩ |
    ⟨parts, -, -, -, htext⟩ | ⟨message, herror⟩
  · exact nomatch hcalls.symm.trans hread
  · exact nomatch htext.symm.trans hread
  · rw [hread] at herror
    exact ⟨message, Except.error.inj herror⟩

theorem readReply_congr {other : Json} (hparts : HasParts reply parts)
    (hother : HasParts other parts) :
    readReply fresh other world = readReply fresh reply world := by
  rw [readReply, readReply, candidateParts_of_hasParts hparts, candidateParts_of_hasParts hother]

/-! ## Telling and reading -/

/-- The content of the first candidate is the entry in which the message is told. -/
def Echoes (reply : Json) (message : Message) : Prop :=
  ∃ content, HasContent reply content ∧
    ∀ (model : ModelSettings) (catalogue : List ToolSpec),
      (payload model [message] catalogue).field? "contents" = some (.array [content])

theorem hasParts_of_echoes {message : Message} (hechoes : Echoes reply message)
    (hrole : message.role = .assistant) : HasParts reply (assistantParts message) := by
  obtain ⟨content, hcontent, htold⟩ := hechoes
  have hentry : contents [message] = [⟨"model", assistantParts message⟩] := by
    rw [contents, List.foldl_cons, addMessage, hrole]
    rfl
  have hsame := htold {} []
  rw [payload_contents, hentry, List.map_singleton] at hsame
  have hjson : Entry.toJson ⟨"model", assistantParts message⟩ = content :=
    (List.cons.inj (Json.array.inj (Option.some.inj hsame))).1
  refine ⟨content, hcontent, ?_⟩
  rw [← hjson, Entry.toJson]
  exact Json.field?_ofFields "parts" _

/-- The parts that tell calls issue calls of the same names and arguments. -/
theorem issues_callParts (fresh : σ → String × σ) (calls : List ToolCall) (world : σ) :
    ∃ decoded after, Issues fresh (calls.map callPart) world decoded after ∧
      decoded.map (fun call => (call.name, call.arguments)) =
        calls.map fun call => (call.name, call.arguments) := by
  induction calls generalizing world with
  | nil => exact ⟨[], world, .nil world, rfl⟩
  | cons call calls ih =>
      -- A call is told without its identifier, so it is read with a fresh one.
      obtain ⟨decoded, after, hissues, hsame⟩ := ih (fresh world).2
      let told := Json.ofFields [("name", .string call.name), ("args", .object call.arguments)]
      have hcall : (callPart call).field? "functionCall" = some told := Json.field?_ofFields _ _
      have hname : told.field? "name" = some (.string call.name) := Json.field?_ofFields _ _
      have hid : told.field? "id" = none := Json.field?_ofFields _ _
      have hargs : told.field? "args" = some (.object call.arguments) := Json.field?_ofFields _ _
      have hcarried : argumentsOf told = call.arguments := by
        rw [argumentsOf, hargs]
        rfl
      have hfresh : ∀ id, told.field? "id" ≠ some (.string id) :=
        fun id hgiven => nomatch hid.symm.trans hgiven
      refine ⟨_, after, .unidentified hcall hname hfresh hissues, ?_⟩
      rw [List.map_cons, List.map_cons, hsame, hcarried]

theorem readReply_of_told_calls {calls : List ToolCall} (hcalls : calls ≠ [])
    (hechoes : Echoes reply (.issuing calls)) :
    ∃ decoded after, readReply fresh reply world = (.ok (.toolCalls decoded), after) ∧
      decoded.map (fun call => (call.name, call.arguments)) =
        calls.map fun call => (call.name, call.arguments) := by
  have hparts : HasParts reply (calls.map callPart) := hasParts_of_echoes hechoes rfl
  obtain ⟨decoded, after, hissues, hsame⟩ := issues_callParts fresh calls world
  have hsome : decoded ≠ [] := by
    rintro rfl
    exact hcalls (List.map_eq_nil_iff.mp hsame.symm)
  exact ⟨decoded, after, readReply_of_calls hparts hissues hsome, hsame⟩

theorem readReply_of_told_text {message : Message} (hrole : message.role = .assistant)
    (hcalls : message.toolCalls = []) (htext : Text.isBlankText message.content = false)
    (hechoes : Echoes reply message) :
    readReply fresh reply world = (.ok (.finalAnswer (Text.trim message.content)), world) := by
  have hsome : Text.trim message.content ≠ "" := by
    rw [ne_eq, Text.trim_eq_empty_iff, htext]
    exact Bool.false_ne_true
  have hpart : assistantParts message = [textPart message.content] := by
    have hcontent : message.content.isEmpty = false := by
      refine Bool.eq_false_iff.mpr fun hempty => ?_
      rw [String.isEmpty_iff.mp hempty] at htext
      exact nomatch htext
    rw [assistantParts, hcontent, hcalls]
    rfl
  have hparts := hasParts_of_echoes hechoes hrole
  rw [hpart] at hparts
  have hread : answerText [textPart message.content] = message.content := by
    have hfield : (textPart message.content).field? "text" = some (.string message.content) :=
      Json.field?_ofFields _ _
    simp only [answerText, List.filterMap_cons, List.filterMap_nil, hfield, Option.bind_some,
      Json.string?, String.join_cons, String.join_nil, String.append_empty]
  refine readReply_eq_finalAnswer_iff.mpr ⟨rfl, hsome, _, hparts, ?_, by rw [hread]⟩
  intro part hmem
  rw [List.mem_singleton.mp hmem]
  exact Json.field?_ofFields _ _

/-- **What a reply decides, and that reading undoes telling.**  A reply decides for calls just if
the parts of its first candidate issue some, all of them named, and for an answer just if they issue
none and their texts make one; anything else is a protocol error.  The entry in which calls are told
is read as calls of the same names and arguments, and that of a text as this text. -/
theorem readReply_decides (fresh : σ → String × σ) (reply : Json) (world : σ) :
    (∀ calls after, readReply fresh reply world = (.ok (.toolCalls calls), after) ↔
      calls ≠ [] ∧ ∃ parts, HasParts reply parts ∧ Issues fresh parts world calls after) ∧
    (∀ text after, readReply fresh reply world = (.ok (.finalAnswer text), after) ↔
      after = world ∧ text ≠ "" ∧ ∃ parts, HasParts reply parts ∧
        (∀ part ∈ parts, part.field? "functionCall" = none) ∧
        text = Text.trim (String.join
          (parts.filterMap fun part => (part.field? "text").bind Json.string?))) ∧
    (∀ error after, readReply fresh reply world = (.error error, after) →
      ∃ message, error = .protocol message) ∧
    (∀ parts, HasParts reply parts → (∃ part ∈ parts, IssuesNameless part) →
      (readReply fresh reply world).1 = .error (.protocol "functionCall without a name")) ∧
    (∀ parts, HasParts reply parts → ∀ other, HasParts other parts →
      readReply fresh other world = readReply fresh reply world) ∧
    (∀ calls : List ToolCall, calls ≠ [] → Echoes reply (.issuing calls) →
      ∃ decoded after, readReply fresh reply world = (.ok (.toolCalls decoded), after) ∧
        decoded.map (fun call => (call.name, call.arguments)) =
          calls.map fun call => (call.name, call.arguments)) ∧
    ∀ message : Message, message.role = .assistant → message.toolCalls = [] →
      Text.isBlankText message.content = false → Echoes reply message →
        readReply fresh reply world = (.ok (.finalAnswer (Text.trim message.content)), world) := by
  refine ⟨fun calls after => readReply_eq_toolCalls_iff,
    fun text after => readReply_eq_finalAnswer_iff, fun error after hread => readReply_error hread,
    ?_, fun parts hparts other hother => readReply_congr hparts hother,
    fun calls hcalls hechoes => readReply_of_told_calls hcalls hechoes,
    fun message hrole hcalls htext hechoes => readReply_of_told_text hrole hcalls htext hechoes⟩
  rintro parts hparts ⟨part, hmem, hnameless⟩
  exact readReply_of_nameless hparts hmem hnameless

/-- A reply of which the only candidate repeats a message of the assistant. -/
def echo (message : Message) : Json :=
  .ofFields
    [("candidates",
      .array [.ofFields [("content", Entry.toJson ⟨"model", assistantParts message⟩)]])]

theorem echo_echoes (message : Message) (hrole : message.role = .assistant) :
    Echoes (echo message) message := by
  refine ⟨_, ⟨_, [], Json.field?_ofFields _ _, Json.field?_ofFields _ _⟩, fun model catalogue => ?_⟩
  rw [payload_contents, contents, List.foldl_cons, addMessage, hrole]
  rfl

theorem readReply_decides_echo :
    ∃ decoded after, readReply (fun count : Nat => (toString count, count + 1))
        (echo (.issuing [⟨"call_1", "clock", []⟩, ⟨"call_2", "sum", [("x", .ofNat 1)]⟩])) 0 =
      (.ok (.toolCalls decoded), after) ∧
    decoded.map (fun call => (call.name, call.arguments)) =
      [("clock", []), ("sum", [("x", .ofNat 1)])] := by
  obtain ⟨-, -, -, -, -, hcalls, -⟩ := readReply_decides
    (fun count : Nat => (toString count, count + 1))
    (echo (.issuing [⟨"call_1", "clock", []⟩, ⟨"call_2", "sum", [("x", .ofNat 1)]⟩])) 0
  exact hcalls _ (List.cons_ne_nil _ _) (echo_echoes _ rfl)

end Gemini

end ToolAssistant
