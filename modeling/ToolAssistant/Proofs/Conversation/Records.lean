import ToolAssistant.Conversation.Decision
import ToolAssistant.Memory.Store
import ToolAssistant.Proofs.Calendar.Instant
import ToolAssistant.Proofs.Json.Record

/-!
# The records of a conversation are read back

Every record of a conversation has a JSON form, and reading the form gives the record back
(`records_read_back`).  For most of them this holds without exception; a snippet has to have a
finite score, which is exactly what it takes (`Snippet.ofJson?_toJson_eq_some_iff`), and the time of
a turn a year of four digits.

## Strategy

Each form is an object of fields with different keys, so a field that is looked up by its key is the
one that was written, and reading the parts is left to the lemmas of the parts: a turn holds
exchanges, these hold calls and results, and a result holds an outcome.  Messages are different, as
they leave out what they do not have.  `Message.IsFormOf` describes all the values that stand for a
message, the written form among them.
-/

namespace ToolAssistant

open Json

/-! ## Calls and results -/

theorem ToolCall.ofJson?_toJson (call : ToolCall) : ofJson? call.toJson = some call := by
  rw [toJson, ofJson?]
  simp [Fields.get?_ofList, List.lookup_cons]

theorem CallFailure.Kind.ofJson?_name (kind : CallFailure.Kind) :
    ofJson? (.string kind.name) = some kind := by
  cases kind <;> rfl

theorem ToolOutcome.ofJson?_ofFields (pairs : List (String × Json)) :
    ofJson? (ofFields pairs) =
      ((Fields.get? "status" (Fields.ofList pairs)).bind string?).bind fun status =>
        ofRest? status (ofFields pairs) :=
  rfl

theorem ToolOutcome.ofJson?_toJson (outcome : ToolOutcome) :
    ofJson? outcome.toJson = some outcome := by
  cases outcome with
  | success output =>
      rw [toJson, ofJson?_ofFields]
      simp [ofRest?, Fields.get?_ofList, List.lookup_cons]
  | failure cause =>
      rw [toJson, ofJson?_ofFields]
      simp [ofRest?, Fields.get?_ofList, List.lookup_cons, CallFailure.Kind.ofJson?_name]

theorem ToolResult.ofJson?_toJson (result : ToolResult) : ofJson? result.toJson = some result := by
  rw [toJson, ofJson?]
  simp [Fields.get?_ofList, List.lookup_cons, ToolOutcome.ofJson?_toJson]

/-! ## Messages -/

namespace Message

/-- Does a field hold a text, if there is one?  Otherwise it may be left out or be `null`. -/
def HoldsText (field : Option Json) : Option String → Prop
  | some text => field = some (.string text)
  | none => field = none ∨ field = some .null

/-- Does a value stand for a message, whether what the message lacks is left out or not? -/
structure IsFormOf (value : Json) (message : Message) : Prop where
  role : value.field? "role" = some (.string message.role.name)
  content : value.field? "content" = some (.string message.content)
  toolCalls : value.field? "tool_calls" = some (.array (message.toolCalls.map ToolCall.toJson)) ∨
    value.field? "tool_calls" = none ∧ message.toolCalls = []
  toolCallId : HoldsText (value.field? "tool_call_id") message.toolCallId
  name : HoldsText (value.field? "name") message.name

theorem HoldsText.reads {field : Option Json} {text : Option String}
    (hholds : HoldsText field text) : field.elim (some none) (orNull string?) = some text := by
  cases text with
  | some text =>
      rw [show field = some (.string text) from hholds]
      rfl
  | none =>
      rcases hholds with hleft | hnull
      · rw [hleft]
        rfl
      · rw [hnull]
        rfl

theorem holdsText_map (text : Option String) : HoldsText (text.map .string) text := by
  cases text with
  | some text => rfl
  | none => exact Or.inl rfl

theorem ofJson?_role (role : Role) : Role.ofJson? (.string role.name) = some role := by
  cases role <;> rfl

/-- Every form of a message is read as the message. -/
theorem IsFormOf.reads {value : Json} {message : Message} (hform : IsFormOf value message) :
    ofJson? value = some message := by
  obtain ⟨hrole, hcontent, hcalls, hid, hname⟩ := hform
  cases value with
  | object fields =>
      have hcalls : (Fields.get? "tool_calls" fields).elim (some []) (listOf? ToolCall.ofJson?) =
          some message.toolCalls := by
        rcases hcalls with hwritten | ⟨hleft, hempty⟩
        · rw [show Fields.get? "tool_calls" fields = _ from hwritten]
          exact listOf?_map ToolCall.ofJson?_toJson message.toolCalls
        · rw [show Fields.get? "tool_calls" fields = _ from hleft, hempty]
          rfl
      have hid := hid.reads
      have hname := hname.reads
      simp only [field?] at hrole hcontent hid hname
      simp [ofJson?, record?, hrole, hcontent, hcalls, hid, hname, ofJson?_role]
  -- Nothing but an object has a field for the role.
  | _ => cases hrole

theorem lookup_optionalField (key name : String) (value : Option String) :
    (optionalField name value).reverse.lookup key =
      if key = name then value.map .string else none := by
  cases value with
  | none => simp [optionalField]
  | some text =>
      by_cases heq : key = name
      · simp [optionalField, heq]
      · simp [optionalField, List.lookup_cons, heq, beq_eq_false_iff_ne.mpr heq]

/-- What the written form holds under each key; what is empty is not there. -/
theorem field?_toJson (message : Message) :
    message.toJson.field? "role" = some (.string message.role.name) ∧
      message.toJson.field? "content" = some (.string message.content) ∧
      (message.toJson.field? "tool_calls" =
        if message.toolCalls = [] then none
        else some (.array (message.toolCalls.map ToolCall.toJson))) ∧
      message.toJson.field? "tool_call_id" = message.toolCallId.map .string ∧
      message.toJson.field? "name" = message.name.map .string := by
  unfold toJson
  cases hcalls : message.toolCalls with
  | nil => simp [field?_ofFields, List.lookup_append, lookup_optionalField, List.lookup_cons]
  | cons call calls =>
      simp [field?_ofFields, List.lookup_append, lookup_optionalField, List.lookup_cons]

theorem isFormOf_toJson (message : Message) : IsFormOf message.toJson message := by
  obtain ⟨hrole, hcontent, hcalls, hid, hname⟩ := field?_toJson message
  refine ⟨hrole, hcontent, ?_, hid ▸ holdsText_map _, hname ▸ holdsText_map _⟩
  split_ifs at hcalls with hempty
  · exact Or.inr ⟨hcalls, hempty⟩
  · exact Or.inl hcalls

/-- The written form has a field for calls, an id or a name exactly if the message has them. -/
theorem field?_toJson_eq_none_iff (message : Message) :
    (message.toJson.field? "tool_calls" = none ↔ message.toolCalls = []) ∧
      (message.toJson.field? "tool_call_id" = none ↔ message.toolCallId = none) ∧
      (message.toJson.field? "name" = none ↔ message.name = none) := by
  obtain ⟨-, -, hcalls, hid, hname⟩ := field?_toJson message
  rw [hcalls, hid, hname]
  simp

end Message

/-! ## Decisions, snippets and turns -/

theorem Decision.ofJson?_toJson (decision : Decision) :
    ofJson? decision.toJson = some decision := by
  cases decision with
  | finalAnswer text =>
      rw [toJson, ofJson?]
      simp [Fields.get?_ofList, List.lookup_cons, readers]
  | toolCalls calls =>
      rw [toJson, ofJson?]
      simp [Fields.get?_ofList, List.lookup_cons, readers, listOf?_map ToolCall.ofJson?_toJson]

/-- A snippet is read back exactly if its score is finite. -/
theorem Snippet.ofJson?_toJson_eq_some_iff (snippet : Snippet) :
    ofJson? snippet.toJson = some snippet ↔ Double.isFinite snippet.score = true := by
  have hread : ofJson? snippet.toJson =
      (float? (ofDouble snippet.score)).bind fun score => some { snippet with score } := by
    rw [toJson, ofJson?]
    simp [Fields.get?_ofList, List.lookup_cons]
  rw [hread, float?_ofDouble]
  split_ifs with hfinite
  · exact iff_of_true rfl hfinite
  · exact iff_of_false (Option.some_ne_none _).symm hfinite

theorem Exchange.ofJson?_toJson (exchange : Exchange) :
    ofJson? exchange.toJson = some exchange := by
  rw [toJson, ofJson?]
  simp [Fields.get?_ofList, List.lookup_cons, ToolCall.ofJson?_toJson, ToolResult.ofJson?_toJson]

theorem Turn.ofJson?_toJson {turn : Turn} (hplain : turn.timestamp.IsPlain) :
    ofJson? turn.toJson = some turn := by
  rw [toJson, ofJson?]
  simp [Fields.get?_ofList, List.lookup_cons, listOf?_map Exchange.ofJson?_toJson,
    Instant.read?_text hplain]

/-! ## All of them -/

/-- **The records of a conversation are read back from their JSON form**, which tells them apart:
calls, results, messages and decisions without exception, snippets with a finite score, and turns in
a year of four digits and outside leap seconds.  A message leaves out what it lacks and nothing
else, and it is read back as well from a form that does not. -/
theorem records_read_back :
    ReadsBack ToolCall.toJson ToolCall.ofJson? (fun _ => True) ∧
      ReadsBack ToolResult.toJson ToolResult.ofJson? (fun _ => True) ∧
      ReadsBack Message.toJson Message.ofJson? (fun _ => True) ∧
      ReadsBack Decision.toJson Decision.ofJson? (fun _ => True) ∧
      ReadsBack Snippet.toJson Snippet.ofJson? (fun snippet =>
        Double.isFinite snippet.score = true) ∧
      ReadsBack Turn.toJson Turn.ofJson? (fun turn => turn.timestamp.IsPlain) ∧
      (∀ message : Message,
        (message.toJson.field? "tool_calls" = none ↔ message.toolCalls = []) ∧
          (message.toJson.field? "tool_call_id" = none ↔ message.toolCallId = none) ∧
          (message.toJson.field? "name" = none ↔ message.name = none)) ∧
      ∀ message value, Message.IsFormOf value message → Message.ofJson? value = some message := by
  refine ⟨?_, ?_, ?_, ?_, ?_, ?_, Message.field?_toJson_eq_none_iff, ?_⟩
  · exact .of_reads fun call _ => call.ofJson?_toJson
  · exact .of_reads fun result _ => result.ofJson?_toJson
  · exact .of_reads fun message _ => message.isFormOf_toJson.reads
  · exact .of_reads fun decision _ => decision.ofJson?_toJson
  · exact .of_reads fun snippet hfinite => snippet.ofJson?_toJson_eq_some_iff.mpr hfinite
  · exact .of_reads fun turn hplain => Turn.ofJson?_toJson hplain
  · intro message value hform
    exact hform.reads

/-- A turn on a leap day whose only call came to `null`, a snippet, and a user's message that is
written out in full. -/
theorem records_read_back_leapDay :
    let call : ToolCall := ⟨"call_1", "get_weather", [("city", .string "Pune")]⟩
    let time : Instant := ⟨⟨2024, 2, 29⟩, 86399, 500000000⟩
    let turn : Turn :=
      ⟨"turn_1", "Rain?", "None.", [⟨call, .success call .null⟩], 1, false, time⟩
    let snippet : Snippet := ⟨"User: Rain?", 0.5, "anna"⟩
    let full : Json := .ofFields
      [("role", .string "user"), ("content", .string "Rain?"), ("tool_calls", .array []),
        ("tool_call_id", .null), ("name", .null)]
    (time.IsPlain ∧ Turn.ofJson? turn.toJson = some turn) ∧
      (Double.isFinite snippet.score = true ∧ Snippet.ofJson? snippet.toJson = some snippet) ∧
      Message.IsFormOf full (.user "Rain?") ∧ Message.ofJson? full = some (.user "Rain?") := by
  intro call time turn snippet full
  obtain ⟨-, -, -, -, hsnippets, hturns, -, hforms⟩ := records_read_back
  have htime : time.IsPlain :=
    ⟨⟨by decide, by decide, by decide, by decide⟩, by decide, by decide, by decide, by decide⟩
  have hscore : Double.isFinite snippet.score = true := by decide
  have hfull : Message.IsFormOf full (.user "Rain?") :=
    ⟨rfl, rfl, Or.inl rfl, Or.inr rfl, Or.inr rfl⟩
  exact ⟨⟨htime, hturns.reads turn htime⟩, ⟨hscore, hsnippets.reads snippet hscore⟩, hfull,
    hforms _ _ hfull⟩

end ToolAssistant
