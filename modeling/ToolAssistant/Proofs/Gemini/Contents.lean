import ToolAssistant.Gemini.Payload
import ToolAssistant.Proofs.Tool.Arguments
import ToolAssistant.Proofs.Turn.Course
import Mathlib.Data.List.Chain

/-!
# What a request tells the model

The entries of a request are the messages that are not the system's, told in groups: a message of
the user or the assistant alone, observations as many as follow one another (`IsGrouping`).
`contents_grouping` says so of any messages.  What an orchestrator shows its oracle is opening
messages and observation blocks, so it is told as the user's text and then batches of calls, each
followed by its observations (`Alternates`).  All of this is said of the JSON of the request, which
is spelled out here, with the fields of an object in the order of their keys.

## Strategy

Whether an observation joins the last entry is decided by looking into that entry.  The invariant
of the fold is that the last entry tells observations just if its group is a batch
(`entryOf_tellsResponses`).
-/

namespace ToolAssistant

namespace Gemini

/-! ## What is told, as JSON -/

/-- An entry of the contents: who speaks, and in which parts. -/
def entryJson (role : String) (parts : List Json) : Json :=
  .object [("parts", .array parts), ("role", .string role)]

/-- The parts of an entry. -/
def partsOf (entry : Json) : List Json :=
  ((entry.field? "parts").bind Json.array?).getD []

/-- A text. -/
def textJson (text : String) : Json :=
  .object [("text", .string text)]

/-- A call with its arguments. -/
def callJson (call : ToolCall) : Json :=
  .object
    [("functionCall",
      .object [("args", .object call.arguments), ("name", .string call.name)])]

/-- What was observed of a tool. -/
def responseJson (name text : String) : Json :=
  .object
    [("functionResponse",
      .object [("name", .string name), ("response", .object [("content", .string text)])])]

end Gemini

/-- The parts in which a message is told; the system's messages are told elsewhere. -/
def Message.parts (message : Message) : List Json :=
  match message.role with
  | .system => []
  | .user => [Gemini.textJson message.content]
  | .assistant =>
    (if message.content = "" then [] else [Gemini.textJson message.content]) ++
      message.toolCalls.map Gemini.callJson
  | .tool => [Gemini.responseJson (message.name.getD "") message.content]

namespace Gemini

variable {σ : Type}

theorem entry_toJson (entry : Entry) : entry.toJson = entryJson entry.role entry.parts := by
  have hkeys : "parts" < "role" := by decide
  simp [Entry.toJson, entryJson, Json.ofFields, Fields.ofList, Fields.insert, hkeys]

theorem textPart_eq (text : String) : textPart text = textJson text :=
  rfl

theorem callPart_eq (call : ToolCall) : callPart call = callJson call := by
  have hkeys : "args" < "name" := by decide
  simp [callPart, callJson, Json.ofFields, Fields.ofList, Fields.insert, hkeys]

theorem responsePart_eq (message : Message) :
    responsePart message = responseJson (message.name.getD "") message.content := by
  have hkeys : ¬"response" < "name" := by decide
  simp [responsePart, responseKey, responseJson, Json.ofFields, Fields.ofList, Fields.insert, hkeys]

theorem assistantParts_eq (message : Message) :
    assistantParts message =
      (if message.content = "" then [] else [textJson message.content]) ++
        message.toolCalls.map callJson := by
  have hcalls : callPart = callJson := funext callPart_eq
  simp only [assistantParts, String.isEmpty_iff, textPart_eq, hcalls]

/-! ## Groups of messages -/

/-- All messages are observations. -/
def IsBatch (group : List Message) : Prop :=
  ∀ message ∈ group, message.role = .tool

theorem IsBatch.snoc {group : List Message} (hbatch : IsBatch group) {message : Message}
    (hrole : message.role = .tool) : IsBatch (group ++ [message]) :=
  List.forall_mem_append.mpr ⟨hbatch, List.forall_mem_singleton.mpr hrole⟩

/-- The messages in groups: each alone, but for observations in a row, which are together. -/
structure IsGrouping (messages : List Message) (groups : List (List Message)) : Prop where
  flatten : groups.flatten = messages
  nonempty : ∀ group ∈ groups, group ≠ []
  alone : ∀ group ∈ groups, (∃ message, group = [message]) ∨ IsBatch group
  apart : groups.IsChain fun group next => ¬(IsBatch group ∧ IsBatch next)

namespace IsGrouping

variable {messages : List Message} {groups : List (List Message)} {last : List Message}
  {message : Message}

theorem nil : IsGrouping [] [] :=
  ⟨rfl, nofun, nofun, .nil⟩

/-- A message may be told alone unless it is an observation after another. -/
theorem snoc (hgroups : IsGrouping messages groups)
    (hapart : ∀ last ∈ groups.getLast?, ¬(IsBatch last ∧ IsBatch [message])) :
    IsGrouping (messages ++ [message]) (groups ++ [[message]]) where
  flatten := by rw [List.flatten_append, hgroups.flatten, List.flatten_singleton]
  nonempty := List.forall_mem_append.mpr
    ⟨hgroups.nonempty, List.forall_mem_singleton.mpr (List.cons_ne_nil message [])⟩
  alone := List.forall_mem_append.mpr
    ⟨hgroups.alone, List.forall_mem_singleton.mpr (Or.inl ⟨message, rfl⟩)⟩
  apart := by
    refine List.isChain_append.mpr ⟨hgroups.apart, .singleton _, fun last hlast next hnext => ?_⟩
    obtain rfl : [message] = next := Option.some.inj hnext
    exact hapart last hlast

theorem extend (hgroups : IsGrouping messages (groups ++ [last])) (hbatch : IsBatch last)
    (hrole : message.role = .tool) :
    IsGrouping (messages ++ [message]) (groups ++ [last ++ [message]]) := by
  obtain ⟨hnonempty, -⟩ := List.forall_mem_append.mp hgroups.nonempty
  obtain ⟨halone, -⟩ := List.forall_mem_append.mp hgroups.alone
  obtain ⟨hchain, -, hapart⟩ := List.isChain_append.mp hgroups.apart
  have hlonger : last ++ [message] ≠ [] :=
    List.append_ne_nil_of_right_ne_nil last (List.cons_ne_nil message [])
  refine ⟨?_, List.forall_mem_append.mpr ⟨hnonempty, List.forall_mem_singleton.mpr hlonger⟩,
    List.forall_mem_append.mpr
      ⟨halone, List.forall_mem_singleton.mpr (Or.inr (hbatch.snoc hrole))⟩, ?_⟩
  · rw [← hgroups.flatten]
    simp only [List.flatten_append, List.flatten_singleton, List.append_assoc]
  · -- The group before the last was no batch, as the last is one already.
    refine List.isChain_append.mpr ⟨hchain, .singleton _, fun before hbefore next hnext => ?_⟩
    obtain rfl : last ++ [message] = next := Option.some.inj hnext
    exact fun hboth => hapart before hbefore last rfl ⟨hboth.1, hbatch⟩

end IsGrouping

/-! ## Entries -/

/-- Who speaks in a group of messages. -/
def speaker (group : List Message) : String :=
  if group.any (·.role == .assistant) then "model" else "user"

/-- The entry that tells a group. -/
def entryOf (group : List Message) : Entry :=
  ⟨speaker group, group.flatMap Message.parts⟩

theorem parts_of_tool {message : Message} (hrole : message.role = .tool) :
    message.parts = [responsePart message] := by
  rw [Message.parts, hrole, responsePart_eq]

theorem entryOf_batch {group : List Message} (hbatch : IsBatch group) :
    entryOf group = ⟨"user", group.map responsePart⟩ := by
  have hrole : group.any (·.role == .assistant) = false := by
    refine List.any_eq_false.mpr fun message hmem => ?_
    rw [hbatch message hmem]
    decide
  have hparts : group.flatMap Message.parts = group.map responsePart := by
    rw [List.map_eq_flatMap]
    exact List.flatMap_congr fun message hmem => parts_of_tool (hbatch message hmem)
  rw [entryOf, speaker, hrole, hparts]
  rfl

/-- An entry tells observations just if its group is a batch. -/
theorem entryOf_tellsResponses {group : List Message} (hne : group ≠ [])
    (hkind : (∃ message, group = [message]) ∨ IsBatch group) :
    (entryOf group).tellsResponses = true ↔ IsBatch group := by
  by_cases hbatch : IsBatch group
  · obtain ⟨message, rest, rfl⟩ := List.exists_cons_of_ne_nil hne
    rw [entryOf_batch hbatch, List.map_cons, responsePart_eq]
    exact iff_of_true rfl hbatch
  · -- A message that is alone and no observation makes no part of an observation.
    obtain ⟨message, rfl⟩ := hkind.resolve_right hbatch
    have hrole : message.role ≠ .tool :=
      fun htool => hbatch (List.forall_mem_singleton.mpr htool)
    refine iff_of_false ?_ hbatch
    rw [Bool.not_eq_true, entryOf, speaker, List.flatMap_singleton, List.any_cons, List.any_nil,
      Message.parts]
    cases hcase : message.role with
    | tool => exact absurd hcase hrole
    | user => rfl
    | assistant => rfl
    | system => rfl

/-! ## Adding messages -/

theorem addResponse_append (part : Json) (entries : List Entry) (last : Entry) :
    addResponse part (entries ++ [last]) =
      if last.tellsResponses then entries ++ [⟨last.role, last.parts ++ [part]⟩]
      else entries ++ [last] ++ [⟨"user", [part]⟩] := by
  induction entries with
  | nil => rfl
  | cons entry entries ih =>
      have hskips : addResponse part (entry :: (entries ++ [last])) =
          entry :: addResponse part (entries ++ [last]) := by
        cases entries <;> rfl
      rw [List.cons_append, hskips, ih]
      split_ifs <;> rfl

theorem addMessage_of_alone {message : Message} (hsystem : message.role ≠ .system)
    (htool : message.role ≠ .tool) (entries : List Entry) :
    addMessage entries message = entries ++ [entryOf [message]] := by
  rw [addMessage, entryOf, speaker, List.flatMap_singleton, List.any_cons, List.any_nil,
    Message.parts]
  cases hrole : message.role with
  | system => exact absurd hrole hsystem
  | tool => exact absurd hrole htool
  | user => rfl
  | assistant =>
      rw [assistantParts_eq]
      rfl

/-- An observation is told in the last group if that is a batch, else in one of its own. -/
theorem addResponse_grouping {messages : List Message} {groups : List (List Message)}
    (hgroups : IsGrouping messages groups) {message : Message} (htool : message.role = .tool) :
    ∃ grown, IsGrouping (messages ++ [message]) grown ∧
      addResponse (responsePart message) (groups.map entryOf) = grown.map entryOf := by
  have hentry : entryOf [message] = ⟨"user", [responsePart message]⟩ :=
    entryOf_batch (List.forall_mem_singleton.mpr htool)
  rcases List.eq_nil_or_concat' groups with rfl | ⟨earlier, last, rfl⟩
  · refine ⟨[[message]], hgroups.snoc nofun, ?_⟩
    rw [List.map_singleton, hentry]
    rfl
  · have hmem : last ∈ earlier ++ [last] := List.mem_append_right _ List.mem_cons_self
    have htells := entryOf_tellsResponses (hgroups.nonempty last hmem) (hgroups.alone last hmem)
    rw [List.map_append, List.map_singleton, addResponse_append]
    by_cases hjoins : IsBatch last
    · refine ⟨_, hgroups.extend hjoins htool, ?_⟩
      rw [if_pos (htells.mpr hjoins), List.map_append, List.map_singleton,
        entryOf_batch (hjoins.snoc htool), entryOf_batch hjoins, List.map_append,
        List.map_singleton]
    · have hapart : ∀ found ∈ (earlier ++ [last]).getLast?,
          ¬(IsBatch found ∧ IsBatch [message]) := by
        intro found hfound hboth
        rw [List.getLast?_concat] at hfound
        obtain rfl : last = found := Option.some.inj hfound
        exact hjoins hboth.1
      refine ⟨_, hgroups.snoc hapart, ?_⟩
      rw [if_neg fun h => hjoins (htells.mp h), List.map_append, List.map_append,
        List.map_singleton, List.map_singleton, hentry]

theorem addMessage_grouping {messages : List Message} {groups : List (List Message)}
    (hgroups : IsGrouping messages groups) {message : Message} (hsystem : message.role ≠ .system) :
    ∃ grown, IsGrouping (messages ++ [message]) grown ∧
      addMessage (groups.map entryOf) message = grown.map entryOf := by
  by_cases htool : message.role = .tool
  · rw [addMessage, htool]
    exact addResponse_grouping hgroups htool
  · refine ⟨groups ++ [[message]], hgroups.snoc fun _ _ hboth => ?_, ?_⟩
    · exact htool (hboth.2 message List.mem_cons_self)
    · rw [addMessage_of_alone hsystem htool, List.map_append, List.map_singleton]

theorem contents_append (messages : List Message) (message : Message) :
    contents (messages ++ [message]) = addMessage (contents messages) message := by
  rw [contents, List.foldl_append]
  rfl

/-- **What the entries tell is the messages that are not the system's, in groups.** -/
theorem contents_grouping (messages : List Message) :
    ∃ groups, IsGrouping (messages.filter (·.role != .system)) groups ∧
      contents messages = groups.map entryOf := by
  -- The entries are a fold from the left, so the induction takes messages from the end.
  induction messages using List.reverseRecOn with
  | nil => exact ⟨[], .nil, rfl⟩
  | append_singleton messages message ih =>
      obtain ⟨groups, hgroups, hcontents⟩ := ih
      rw [contents_append, hcontents, List.filter_append]
      by_cases hsystem : message.role = .system
      · have hsilent : (message.role != .system) = false := bne_eq_false_iff_eq.mpr hsystem
        refine ⟨groups, ?_, ?_⟩
        · rwa [List.filter_singleton, hsilent, cond_false, List.append_nil]
        · rw [addMessage, hsystem]
      · have hspoken : (message.role != .system) = true := bne_iff_ne.mpr hsystem
        rw [List.filter_singleton, hspoken, cond_true]
        exact addMessage_grouping hgroups hsystem

/-- The entry that tells a group, as JSON. -/
def groupJson (group : List Message) : Json :=
  entryJson (speaker group) (group.flatMap Message.parts)

theorem map_toJson_entryOf (groups : List (List Message)) :
    (groups.map entryOf).map Entry.toJson = groups.map groupJson := by
  rw [List.map_map]
  exact List.map_congr_left fun group _ => entry_toJson (entryOf group)

/-! ## The payload -/

theorem payload_contents (model : ModelSettings) (messages : List Message)
    (catalogue : List ToolSpec) :
    (payload model messages catalogue).field? "contents" =
      some (.array ((contents messages).map Entry.toJson)) := by
  simp only [payload, Json.field?_ofFields]
  split_ifs <;> rfl

/-- The system's messages are told apart, if there are any. -/
theorem payload_systemInstruction (model : ModelSettings) (messages : List Message)
    (catalogue : List ToolSpec) :
    (payload model messages catalogue).field? "systemInstruction" =
      if systemParts messages = [] then none
      else some (.ofFields [("parts", .array (systemParts messages))]) := by
  simp only [payload, Json.field?_ofFields, List.isEmpty_iff]
  split_ifs <;> rfl

/-! ## Calls and observations in turn -/

/-- The part holds, under the key, an object of this name. -/
def Names (key : String) (part : Json) (name : String) : Prop :=
  (part.field? key).bind (Json.field? "name") = some (.string name)

/-- Entries of the model and the user in turn: calls, and then one observation for each of them
under its name, in the same order. -/
inductive Alternates : List Json → Prop
  | nil : Alternates []
  | batch {names : List String} {calls responses rest : List Json} :
      names ≠ [] → List.Forall₂ (Names "functionCall") calls names →
        List.Forall₂ (Names "functionResponse") responses names → Alternates rest →
        Alternates (entryJson "model" calls :: entryJson "user" responses :: rest)

/-- The entries that tell a batch. -/
def batchEntries (batch : List Exchange) : List Entry :=
  [⟨"model", batch.map fun exchange => callPart exchange.call⟩,
    ⟨"user", batch.map fun exchange => responsePart exchange.reply⟩]

theorem callPart_names (call : ToolCall) : Names "functionCall" (callPart call) call.name := by
  rw [Names, callPart, Json.field?_ofFields]
  exact Json.field?_ofFields "name" _

theorem responsePart_names (exchange : Exchange) :
    Names "functionResponse" (responsePart exchange.reply) exchange.call.name := by
  rw [Names, responsePart, Json.field?_ofFields]
  exact Json.field?_ofFields "name" _

theorem alternates_batches {batches : List (List Exchange)}
    (hbatches : ∀ batch ∈ batches, batch ≠ []) :
    Alternates ((batches.flatMap batchEntries).map Entry.toJson) := by
  induction batches with
  | nil => exact .nil
  | cons batch batches ih =>
      rw [List.flatMap_cons, List.map_append, batchEntries, List.map_cons, List.map_singleton,
        entry_toJson, entry_toJson]
      have hnames : batch.map (·.call.name) ≠ [] :=
        fun hnil => hbatches batch List.mem_cons_self (List.map_eq_nil_iff.mp hnil)
      refine .batch hnames ?_ ?_ (ih fun later hlater =>
        hbatches later (List.mem_cons_of_mem batch hlater))
      · rw [List.forall₂_map_left_iff, List.forall₂_map_right_iff, List.forall₂_same]
        exact fun exchange _ => callPart_names exchange.call
      · rw [List.forall₂_map_left_iff, List.forall₂_map_right_iff, List.forall₂_same]
        exact fun exchange _ => responsePart_names exchange

theorem contents_append_replies {messages : List Message} {before : List Entry} {calls : List Json}
    (hcalls : contents messages = before ++ [⟨"model", calls⟩]) {batch : List Exchange}
    (hne : batch ≠ []) :
    contents (messages ++ batch.map Exchange.reply) =
      contents messages ++ [⟨"user", batch.map fun exchange => responsePart exchange.reply⟩] := by
  induction batch using List.reverseRecOn with
  | nil => exact absurd rfl hne
  | append_singleton batch exchange ih =>
      rw [List.map_append, List.map_singleton, ← List.append_assoc, contents_append]
      show addResponse (responsePart exchange.reply) _ = _
      -- The first observation comes after an entry of the model, the others after an observation.
      cases batch with
      | nil =>
          rw [List.map_nil, List.append_nil, hcalls, addResponse_append]
          rfl
      | cons first batch =>
          rw [ih (List.cons_ne_nil first batch), addResponse_append, List.map_append]
          rfl

theorem contents_append_block (messages : List Message) {batch : List Exchange} (hne : batch ≠ []) :
    contents (messages ++ Exchange.block batch) = contents messages ++ batchEntries batch := by
  have hopener : contents (messages ++ [Exchange.opener batch]) =
      contents messages ++ [⟨"model", batch.map fun exchange => callPart exchange.call⟩] := by
    have hparts : assistantParts (Exchange.opener batch) =
        batch.map fun exchange => callPart exchange.call := by
      rw [assistantParts]
      exact List.map_map
    rw [contents_append, ← hparts]
    rfl
  rw [Exchange.block, ← List.singleton_append, ← List.append_assoc,
    contents_append_replies hopener hne, hopener, List.append_assoc]
  rfl

theorem contents_append_blocks (messages : List Message) {batches : List (List Exchange)}
    (hbatches : ∀ batch ∈ batches, batch ≠ []) :
    contents (messages ++ batches.flatMap Exchange.block) =
      contents messages ++ batches.flatMap batchEntries := by
  induction batches generalizing messages with
  | nil => rw [List.flatMap_nil, List.flatMap_nil, List.append_nil, List.append_nil]
  | cons batch batches ih =>
      have hlater := ih (messages ++ Exchange.block batch) fun later hlater =>
        hbatches later (List.mem_cons_of_mem batch hlater)
      rw [List.flatMap_cons, ← List.append_assoc, hlater,
        contents_append_block messages (hbatches batch List.mem_cons_self), List.flatMap_cons,
        List.append_assoc]

/-- **A request tells what was said, whole and in order.**  Of any messages, its entries are those
that are not the system's, in groups, and the system's are told apart.  Of what a turn shows its
oracle, they are the user's text and then calls and their observations in turn. -/
theorem payload_tells :
    (∀ (model : ModelSettings) (messages : List Message) (catalogue : List ToolSpec),
      let told := messages.filter (·.role != .system)
      let instructions := messages.filter (·.role == .system)
      (∃ groups, IsGrouping told groups ∧
        (payload model messages catalogue).field? "contents" =
          some (.array (groups.map groupJson)) ∧
        (groups.map groupJson).flatMap partsOf = told.flatMap Message.parts) ∧
      (payload model messages catalogue).field? "systemInstruction" =
        if instructions = [] then none
        else some (.object
          [("parts", .array (instructions.map fun message => textJson message.content))])) ∧
    ∀ (σ : Type) (orchestrator : Orchestrator σ) (systemPrompt userInput : String) (world : σ),
      ∀ shown ∈ (orchestrator.journaled.run systemPrompt userInput ⟨[], world⟩).2.shown,
      ∃ rest, Alternates rest ∧ ∀ (model : ModelSettings) (catalogue : List ToolSpec),
        (payload model shown catalogue).field? "contents" =
          some (.array (entryJson "user" [textJson userInput] :: rest)) := by
  refine ⟨fun model messages catalogue => ⟨?_, ?_⟩, ?_⟩
  · obtain ⟨groups, hgroups, hcontents⟩ := contents_grouping messages
    refine ⟨groups, hgroups, by rw [payload_contents, hcontents, map_toJson_entryOf], ?_⟩
    calc (groups.map groupJson).flatMap partsOf
        = groups.flatMap (·.flatMap Message.parts) := List.flatMap_map _ _ _
      _ = (groups.flatMap id).flatMap Message.parts := List.flatMap_assoc.symm
      _ = (messages.filter (·.role != .system)).flatMap Message.parts := by
        rw [← List.flatten_eq_flatMap, hgroups.flatten]
  · rw [payload_systemInstruction, systemParts]
    simp only [List.map_eq_nil_iff]
    rfl
  · intro σ orchestrator systemPrompt userInput world shown hshown
    obtain ⟨kept, hkept, rfl⟩ := orchestrator.shown_blocks systemPrompt userInput world hshown
    refine ⟨_, alternates_batches hkept, fun model catalogue => ?_⟩
    have hopening : contents (turnOpening systemPrompt userInput) =
        [⟨"user", [textPart userInput]⟩] := rfl
    rw [payload_contents, contents_append_blocks _ hkept, hopening, List.singleton_append,
      List.map_cons, entry_toJson, textPart_eq]

/-- An oracle that asks for a call, and answers when it has been told what came of it. -/
def caller : Orchestrator Unit where
  oracle := ⟨"caller", fun messages _ => Action.pure (.ok
    (if messages.any (·.role == .tool) then .finalAnswer "Done."
      else .toolCalls [⟨"call_1", "clock", []⟩]))⟩
  registry := .empty
  limits := ⟨3, .ofSeconds 30, .ofSeconds 10, false, 4000⟩

/-- What is shown last to such an oracle is told in three entries. -/
theorem payload_tells_caller :
    ∃ shown rest, (caller.journaled.run "Be brief." "What time is it?" ⟨[], ()⟩).2.shown.getLast? =
        some shown ∧ rest.length = 2 ∧ Alternates rest ∧
      ∀ (model : ModelSettings) (catalogue : List ToolSpec),
        (payload model shown catalogue).field? "contents" =
          some (.array (entryJson "user" [textJson "What time is it?"] :: rest)) := by
  have hentries : (caller.journaled.run "Be brief." "What time is it?"
      ⟨[], ()⟩).2.shown.getLast?.map (fun shown => (contents shown).length) = some 3 := rfl
  obtain ⟨shown, hlast, hlength⟩ := Option.map_eq_some_iff.mp hentries
  obtain ⟨rest, hrest, htold⟩ := payload_tells.2 Unit caller "Be brief." "What time is it?" ()
    shown (List.mem_of_getLast? hlast)
  refine ⟨shown, rest, hlast, ?_, hrest, htold⟩
  have hsame := htold {} []
  rw [payload_contents] at hsame
  have hcounts := congrArg List.length (Json.array.inj (Option.some.inj hsame))
  rw [List.length_map, hlength] at hcounts
  exact Nat.succ.inj hcounts.symm

end Gemini

end ToolAssistant
