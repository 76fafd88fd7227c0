import ToolAssistant.Orchestration

/-!
# The blocks that the window keeps

A turn's window holds its opening messages and whole observation blocks.  It trims after every
single message, so it may already drop old blocks while the newest one is still growing.  The
outcome is the same as if all blocks had been added first and trimmed once: the longest run of
latest blocks that fits the limit, and the latest block in any case.

## Strategy

`keepLatest` is what one trim leaves of a list of blocks, and `trim_ofMessages` says so.  Trimming
early does no harm because blocks only grow: a run of blocks that is too large now is too large
later, so whatever an early trim drops would have been dropped in the end
(`keepLatest_append_keepLatest` for a block that begins, `keepLatest_replace` for one that grows).
-/

namespace ToolAssistant

/-! ## The latest elements that fit -/

section KeepLatest

variable {α β : Type} {fits : List α → Bool}

/-- The longest run of latest elements that fits, but at least the latest one. -/
def keepLatest (fits : List α → Bool) : List α → List α
  | [] => []
  | first :: rest =>
    if rest.isEmpty || fits (first :: rest) then first :: rest else keepLatest fits rest

theorem keepLatest_of_stays {first : α} {rest : List α}
    (hstays : rest = [] ∨ fits (first :: rest) = true) :
    keepLatest fits (first :: rest) = first :: rest := by
  rw [keepLatest, if_pos]
  rcases hstays with rfl | hfits
  · rfl
  · rw [hfits, Bool.or_true]

theorem keepLatest_of_drops {first : α} {rest : List α}
    (hdrops : ¬(rest = [] ∨ fits (first :: rest) = true)) :
    keepLatest fits (first :: rest) = keepLatest fits rest := by
  rw [keepLatest, if_neg]
  simpa using hdrops

theorem keepLatest_suffix (fits : List α → Bool) (values : List α) :
    keepLatest fits values <:+ values := by
  induction values with
  | nil => exact List.suffix_refl []
  | cons first rest ih =>
      by_cases hstays : rest = [] ∨ fits (first :: rest) = true
      · exact ⟨[], keepLatest_of_stays hstays⟩
      · rw [keepLatest_of_drops hstays]
        exact ih.trans (List.suffix_cons first rest)

theorem keepLatest_ne_nil {values : List α} (hvalues : values ≠ []) :
    keepLatest fits values ≠ [] := by
  induction values with
  | nil => exact absurd rfl hvalues
  | cons first rest ih =>
      by_cases hstays : rest = [] ∨ fits (first :: rest) = true
      · rw [keepLatest_of_stays hstays]
        exact List.cons_ne_nil first rest
      · rw [keepLatest_of_drops hstays]
        exact ih fun hrest => hstays (Or.inl hrest)

/-- No run of latest elements that fits is longer. -/
theorem keepLatest_longest {values latest : List α} (hlatest : latest <:+ values)
    (hfits : fits latest = true) : latest.length ≤ (keepLatest fits values).length := by
  induction values with
  | nil => exact hlatest.length_le
  | cons first rest ih =>
      by_cases hstays : rest = [] ∨ fits (first :: rest) = true
      · rw [keepLatest_of_stays hstays]
        exact hlatest.length_le
      · rw [keepLatest_of_drops hstays]
        rcases List.suffix_cons_iff.mp hlatest with rfl | hrest
        · exact absurd (Or.inr hfits) hstays
        · exact ih hrest

/-- What is kept fits, unless it is a single element. -/
theorem keepLatest_fits {values : List α} (hvalues : values ≠ []) :
    fits (keepLatest fits values) = true ∨ (keepLatest fits values).length = 1 := by
  induction values with
  | nil => exact absurd rfl hvalues
  | cons first rest ih =>
      by_cases hstays : rest = [] ∨ fits (first :: rest) = true
      · rw [keepLatest_of_stays hstays]
        rcases hstays with rfl | hfits
        · exact Or.inr rfl
        · exact Or.inl hfits
      · rw [keepLatest_of_drops hstays]
        exact ih fun hrest => hstays (Or.inl hrest)

theorem keepLatest_map (f : α → β) (fits : List β → Bool) (values : List α) :
    keepLatest fits (values.map f) =
      (keepLatest (fun latest => fits (latest.map f)) values).map f := by
  induction values with
  | nil => rfl
  | cons first rest ih =>
      rw [List.map_cons, keepLatest, keepLatest, List.isEmpty_map, ← List.map_cons, ih]
      split <;> rfl

/-- What is dropped before an element comes would be dropped after it has come. -/
theorem keepLatest_append_keepLatest {added : α}
    (hgrows : ∀ latest, fits (latest ++ [added]) = true → fits latest = true) (values : List α) :
    keepLatest fits (keepLatest fits values ++ [added]) = keepLatest fits (values ++ [added]) := by
  induction values with
  | nil => rfl
  | cons first rest ih =>
      by_cases hstays : rest = [] ∨ fits (first :: rest) = true
      · rw [keepLatest_of_stays hstays]
      · have hdrops : ¬(rest ++ [added] = [] ∨ fits (first :: (rest ++ [added])) = true) := by
          rintro (hnil | hfits)
          · exact List.append_ne_nil_of_right_ne_nil rest (List.cons_ne_nil added []) hnil
          · exact hstays (Or.inr (hgrows (first :: rest) hfits))
        rw [keepLatest_of_drops hstays, ih, List.cons_append, keepLatest_of_drops hdrops]

/-- What is dropped while the latest element is small would be dropped when it has grown. -/
theorem keepLatest_replace {small large : α}
    (hgrows : ∀ latest, fits (latest ++ [large]) = true → fits (latest ++ [small]) = true)
    (values : List α) :
    ∃ kept, kept <:+ values ∧ keepLatest fits (values ++ [small]) = kept ++ [small] ∧
      keepLatest fits (kept ++ [large]) = keepLatest fits (values ++ [large]) := by
  induction values with
  | nil => exact ⟨[], List.suffix_refl [], rfl, rfl⟩
  | cons first rest ih =>
      have hsome (value : α) : rest ++ [value] ≠ [] :=
        List.append_ne_nil_of_right_ne_nil rest (List.cons_ne_nil value [])
      by_cases hfits : fits (first :: (rest ++ [small])) = true
      · exact ⟨first :: rest, List.suffix_refl _, keepLatest_of_stays (Or.inr hfits), rfl⟩
      · obtain ⟨kept, hsuffix, hsmall, hlarge⟩ := ih
        have hdrops : ¬(rest ++ [small] = [] ∨ fits (first :: (rest ++ [small])) = true) :=
          not_or.mpr ⟨hsome small, hfits⟩
        have hdropsLarge : ¬(rest ++ [large] = [] ∨ fits (first :: (rest ++ [large])) = true) :=
          not_or.mpr ⟨hsome large, fun hlargeFits => hfits (hgrows (first :: rest) hlargeFits)⟩
        refine ⟨kept, hsuffix.trans (List.suffix_cons first rest), ?_, ?_⟩
        · rw [List.cons_append, keepLatest_of_drops hdrops, hsmall]
        · rw [List.cons_append, keepLatest_of_drops hdropsLarge, hlarge]

/-- `kept` is the longest run of latest elements that fits, and if none fits the latest element
alone. -/
structure IsLatestRun (Fits : List α → Prop) (values kept : List α) : Prop where
  suffix : kept <:+ values
  latest : values ≠ [] → kept ≠ []
  longest : ∀ run, run <:+ values → Fits run → run.length ≤ kept.length
  fits_or_alone : values ≠ [] →
    Fits kept ∨ kept.length = 1 ∧ ∀ run, run <:+ values → run ≠ [] → ¬Fits run

theorem keepLatest_isLatestRun (fits : List α → Bool) (values : List α) :
    IsLatestRun (fun run => fits run = true) values (keepLatest fits values) where
  suffix := keepLatest_suffix fits values
  latest := keepLatest_ne_nil
  longest _ hrun hfits := keepLatest_longest hrun hfits
  fits_or_alone hvalues := by
    by_cases hkept : fits (keepLatest fits values) = true
    · exact Or.inl hkept
    · have halone := (keepLatest_fits hvalues).resolve_left hkept
      refine Or.inr ⟨halone, ?_⟩
      intro run hrun hsome hfits
      -- A run that fits is no longer than the one that is kept, so it would be that one.
      have hle := keepLatest_longest hrun hfits
      have hpositive := List.length_pos_iff.mpr hsome
      have hsuffix := List.suffix_of_suffix_length_le hrun (keepLatest_suffix fits values) hle
      rw [hsuffix.eq_of_length (by omega)] at hfits
      exact hkept hfits

example : keepLatest (fun run => run.length ≤ 2) [1, 2, 3] = [2, 3] := rfl

example : keepLatest (fun _ => false) [1, 2, 3] = [3] := rfl

end KeepLatest

/-! ## Blocks -/

/-- What came of a call, as it is read aloud: a text as it is, any other output as JSON, and a
failure with its kind. -/
def Exchange.observed (exchange : Exchange) : String :=
  match exchange.result.outcome with
  | .success (.string text) => text
  | .success output => output.compact
  | .failure cause => "ERROR (" ++ cause.kind.name ++ "): " ++ cause.message

/-- Did the call come to an output? -/
def Exchange.succeeded (exchange : Exchange) : Bool :=
  match exchange.result.outcome with
  | .success _ => true
  | .failure _ => false

/-- The observation of an exchange, as the oracle is shown it. -/
def Exchange.reply (exchange : Exchange) : Message where
  role := .tool
  content := exchange.observed
  toolCalls := []
  toolCallId := some exchange.call.id
  name := some exchange.call.name

/-- The message that issues the calls of a batch. -/
def Exchange.opener (batch : List Exchange) : Message where
  role := .assistant
  content := ""
  toolCalls := batch.map (·.call)
  toolCallId := none
  name := none

/-- The observation block of a batch: the message that issues its calls, and then one observation
for each call, in order. -/
def Exchange.block (batch : List Exchange) : List Message :=
  opener batch :: batch.map reply

theorem Exchange.observation_eq (exchange : Exchange) :
    exchange.result.observation = exchange.observed :=
  rfl

theorem Exchange.isSuccess_eq (exchange : Exchange) :
    exchange.result.isSuccess = exchange.succeeded := by
  unfold ToolResult.isSuccess ToolResult.output? succeeded
  cases exchange.result.outcome <;> rfl

theorem Exchange.issuing_eq (batch : List Exchange) :
    Message.issuing (batch.map (·.call)) = opener batch :=
  rfl

/-- Messages of which the first issues calls and all others are observations. -/
def Message.IsBlock (block : List Message) : Prop :=
  ∃ opener replies, block = opener :: replies ∧ opener.opensBlock = true ∧
    ∀ reply ∈ replies, reply.role = .tool

/-- A block with another observation is a block. -/
theorem Message.IsBlock.append_reply {block : List Message} (hblock : IsBlock block)
    {reply : Message} (hreply : reply.role = .tool) : IsBlock (block ++ [reply]) := by
  obtain ⟨opener, replies, rfl, hopener, hreplies⟩ := hblock
  refine ⟨opener, replies ++ [reply], rfl, hopener, ?_⟩
  intro other hother
  rcases List.mem_append.mp hother with hearlier | hlast
  · exact hreplies other hearlier
  · rw [List.mem_singleton.mp hlast, hreply]

theorem Exchange.opener_opensBlock {batch : List Exchange} (hbatch : batch ≠ []) :
    (opener batch).opensBlock = true := by
  simpa [Message.opensBlock, opener] using hbatch

/-- Every observation of a batch is one. -/
theorem Exchange.reply_role {batch : List Exchange} :
    ∀ message ∈ batch.map Exchange.reply, message.role = .tool := by
  intro message hmessage
  obtain ⟨exchange, -, rfl⟩ := List.mem_map.mp hmessage
  rfl

theorem Exchange.block_isBlock {batch : List Exchange} (hbatch : batch ≠ []) :
    Message.IsBlock (Exchange.block batch) :=
  ⟨_, _, rfl, opener_opensBlock hbatch, reply_role⟩

/-- The bytes of a message that count: its content, the id of the call that it answers, and the ids,
names and arguments of the calls that it issues. -/
def Message.countedBytes (message : Message) : Nat :=
  message.content.utf8ByteSize + (message.toolCallId.getD "").utf8ByteSize +
    (message.toolCalls.map fun call => call.id.utf8ByteSize + call.name.utf8ByteSize +
      (Json.object call.arguments).compact.utf8ByteSize).foldr (· + ·) 0

namespace Window

/-- An estimate of the tokens that messages take together: for each of them a quarter of its bytes,
rounded up, and ten more. -/
def estimate (messages : List Message) : Nat :=
  (messages.map fun message => (message.countedBytes + 3) / 4 + 10).foldr (· + ·) 0

theorem estimate_singleton (message : Message) : estimate [message] = message.tokens :=
  rfl

@[simp]
theorem estimate_append (first second : List Message) :
    estimate (first ++ second) = estimate first + estimate second := by
  induction first with
  | nil => simp [estimate]
  | cons message first ih =>
      simp only [estimate, List.cons_append, List.map_cons, List.foldr_cons] at ih ⊢
      omega

/-- The window of the given messages. -/
def ofMessages (limit : Nat) (messages : List Message) : Window :=
  ⟨limit, messages, estimate messages⟩

/-- Do the opening messages and the blocks together stay within the limit? -/
def fits (limit : Nat) (opening : List Message) (blocks : List (List Message)) : Bool :=
  estimate (opening ++ blocks.flatten) ≤ limit

theorem fits_iff {limit : Nat} {opening : List Message} {blocks : List (List Message)} :
    fits limit opening blocks = true ↔ estimate (opening ++ blocks.flatten) ≤ limit :=
  decide_eq_true_iff

/-- The window of a turn after some blocks. -/
def afterBlocks (limit : Nat) (opening : List Message) (blocks : List (List Message)) : Window :=
  ofMessages limit (opening ++ (keepLatest (fits limit opening) blocks).flatten)

/-! ## The oldest block -/

/-- `block` is the oldest block of some messages: it comes behind `front`, which opens none, and
what follows it is not another of its observations. -/
structure IsOldestBlock (messages front block rest : List Message) : Prop where
  split : messages = front ++ block ++ rest
  quiet : ∀ message ∈ front, message.opensBlock = false
  block : Message.IsBlock block
  whole : ∀ next ∈ rest.head?, next.role ≠ .tool

/-- The oldest block is what is cut out. -/
theorem cutBlock_eq {messages front block rest : List Message}
    (holdest : IsOldestBlock messages front block rest) :
    cutBlock messages = (block, front ++ rest) := by
  obtain ⟨rfl, hquiet, ⟨opener, replies, rfl, hopener, hreplies⟩, hwhole⟩ := holdest
  induction front with
  | nil =>
      have htool : ∀ reply ∈ replies, (reply.role == .tool) = true :=
        fun reply hreply => beq_iff_eq.mpr (hreplies reply hreply)
      simp only [List.nil_append, List.cons_append, cutBlock, hopener, if_true,
        List.takeWhile_append_of_pos htool, List.dropWhile_append_of_pos htool]
      cases rest with
      | nil => simp
      | cons next rest => simp [beq_eq_false_iff_ne.mpr (hwhole next rfl)]
  | cons message front ih =>
      obtain ⟨hfirst, hrest⟩ := List.forall_mem_cons.mp hquiet
      simp only [List.cons_append, cutBlock, hfirst, Bool.false_eq_true, if_false]
      rw [ih hrest]

/-! ## One trim -/

section Trim

variable {limit : Nat} {opening : List Message} {blocks : List (List Message)}

private theorem opensBlock_false_of_tool {message : Message} (htool : message.role = .tool) :
    message.opensBlock = false := by
  simp [Message.opensBlock, htool]

/-- Behind a block, what comes next is not an observation. -/
private theorem head_not_tool (hblocks : ∀ block ∈ blocks, Message.IsBlock block) :
    blocks.flatten = [] ∨
      ∃ opener rest, blocks.flatten = opener :: rest ∧ (opener.role == .tool) = false := by
  cases blocks with
  | nil => exact Or.inl rfl
  | cons block blocks =>
      obtain ⟨opener, replies, rfl, hopener, -⟩ := hblocks block List.mem_cons_self
      refine Or.inr ⟨opener, replies ++ blocks.flatten, rfl, ?_⟩
      rw [beq_eq_false_iff_ne]
      intro htool
      rw [opensBlock_false_of_tool htool] at hopener
      exact Bool.false_ne_true hopener

/-- The oldest block is cut out as a whole, from behind the opening messages. -/
private theorem cutBlock_blocks {block : List Message}
    (hopening : ∀ message ∈ opening, message.opensBlock = false) (hblock : Message.IsBlock block)
    (hblocks : ∀ later ∈ blocks, Message.IsBlock later) :
    cutBlock (opening ++ (block :: blocks).flatten) = (block, opening ++ blocks.flatten) := by
  refine cutBlock_eq ⟨by simp, hopening, hblock, ?_⟩
  intro next hnext htool
  rcases head_not_tool hblocks with hnil | ⟨opener, rest, hopener, hstop⟩
  · simp [hnil] at hnext
  · simp_all

private theorem blockCount_blocks
    (hopening : ∀ message ∈ opening, message.opensBlock = false)
    (hblocks : ∀ block ∈ blocks, Message.IsBlock block) :
    blockCount (opening ++ blocks.flatten) = blocks.length := by
  have hnone : opening.countP Message.opensBlock = 0 := by
    rw [List.countP_eq_zero]
    intro message hmessage
    simp [hopening message hmessage]
  rw [blockCount, List.countP_append, hnone, Nat.zero_add]
  induction blocks with
  | nil => rfl
  | cons block blocks ih =>
      have hlater := ih fun later hlater => hblocks later (List.mem_cons_of_mem block hlater)
      obtain ⟨opener, replies, rfl, hopener, hreplies⟩ := hblocks block List.mem_cons_self
      have hquiet : replies.countP Message.opensBlock = 0 := by
        rw [List.countP_eq_zero]
        intro reply hreply
        simp [opensBlock_false_of_tool (hreplies reply hreply)]
      rw [List.flatten_cons, List.countP_append, List.countP_cons_of_pos hopener, hquiet, hlater,
        List.length_cons]
      omega

private theorem dropBlock_blocks {block : List Message}
    (hopening : ∀ message ∈ opening, message.opensBlock = false) (hblock : Message.IsBlock block)
    (hblocks : ∀ later ∈ blocks, Message.IsBlock later) :
    (ofMessages limit (opening ++ (block :: blocks).flatten)).dropBlock =
      ofMessages limit (opening ++ blocks.flatten) := by
  have hcut := cutBlock_blocks hopening hblock hblocks
  simp only [dropBlock, ofMessages, hcut, Window.mk.injEq, true_and]
  show estimate _ - estimate block = _
  simp only [List.flatten_cons, estimate_append]
  omega

/-- **One trim keeps the longest run of latest blocks that fits, and at least the latest one.** -/
theorem trim_ofMessages (hopening : ∀ message ∈ opening, message.opensBlock = false)
    (hblocks : ∀ block ∈ blocks, Message.IsBlock block) {fuel : Nat}
    (hfuel : blocks.length ≤ fuel) :
    (ofMessages limit (opening ++ blocks.flatten)).trim fuel =
      afterBlocks limit opening blocks := by
  induction blocks generalizing fuel with
  | nil =>
      cases fuel with
      | zero => rfl
      | succ fuel =>
          have hcount := blockCount_blocks hopening hblocks
          simp only [trim, ofMessages, hcount, List.length_nil]
          simp [afterBlocks, keepLatest, ofMessages]
  | cons block blocks ih =>
      have hblock := hblocks block List.mem_cons_self
      have hlater : ∀ later ∈ blocks, Message.IsBlock later :=
        fun later hlater => hblocks later (List.mem_cons_of_mem block hlater)
      have hcount := blockCount_blocks hopening hblocks
      cases fuel with
      | zero => simp at hfuel
      | succ fuel =>
          rw [List.length_cons, Nat.succ_le_succ_iff] at hfuel
          by_cases hstays : blocks = [] ∨ fits limit opening (block :: blocks) = true
          · have hstop : ¬(limit < estimate (opening ++ (block :: blocks).flatten) ∧
                2 ≤ (block :: blocks).length) := by
              rintro ⟨hlarge, hmore⟩
              rcases hstays with rfl | hfits
              · simp at hmore
              · exact absurd (fits_iff.mp hfits) (Nat.not_le.mpr hlarge)
            rw [← hcount] at hstop
            rw [trim, afterBlocks, keepLatest_of_stays hstays]
            exact if_neg hstop
          · obtain ⟨hmore, hlarge⟩ := not_or.mp hstays
            rw [fits_iff, Nat.not_le] at hlarge
            have hpositive : 0 < blocks.length := List.length_pos_iff.mpr hmore
            have hgo : limit < estimate (opening ++ (block :: blocks).flatten) ∧
                2 ≤ blockCount (opening ++ (block :: blocks).flatten) := by
              rw [hcount, List.length_cons]
              exact ⟨hlarge, by omega⟩
            rw [afterBlocks, keepLatest_of_drops hstays, ← afterBlocks, ← ih hlater hfuel,
              ← dropBlock_blocks hopening hblock hlater, trim]
            exact if_pos hgo

end Trim

/-! ## One message after another -/

section Growing

variable {limit : Nat} {opening : List Message} {blocks : List (List Message)}

/-- A block that has grown leaves less room for the blocks in front of it. -/
private theorem fits_of_fits_larger (limit : Nat) (opening : List Message)
    {small large : List Message} (hle : estimate small ≤ estimate large)
    (latest : List (List Message)) (hfits : fits limit opening (latest ++ [large]) = true) :
    fits limit opening (latest ++ [small]) = true := by
  rw [fits_iff] at hfits ⊢
  simp only [List.flatten_append, List.flatten_singleton, estimate_append] at hfits ⊢
  omega

private theorem add_ofMessages (messages : List Message) (message : Message) :
    (ofMessages limit messages).add message =
      (ofMessages limit (messages ++ [message])).trim (blockCount (messages ++ [message])) := by
  have htokens : estimate (messages ++ [message]) = estimate messages + message.tokens := by
    rw [estimate_append, estimate_singleton]
  rw [ofMessages, ofMessages, htokens]
  rfl

/-- Messages that open no block are never trimmed. -/
private theorem addAll_quiet (limit : Nat) (done more : List Message)
    (hquiet : ∀ message ∈ done ++ more, message.opensBlock = false) :
    (ofMessages limit done).addAll more = ofMessages limit (done ++ more) := by
  induction more generalizing done with
  | nil =>
      rw [List.append_nil]
      rfl
  | cons message more ih =>
      rw [List.append_cons] at hquiet
      have hgrown : ∀ other ∈ done ++ [message], other.opensBlock = false :=
        fun other hother => hquiet other (List.mem_append_left more hother)
      have htrim := @trim_ofMessages limit (done ++ [message]) [] hgrown (by simp)
        (blockCount (done ++ [message])) (Nat.zero_le _)
      rw [afterBlocks, keepLatest, List.flatten_nil, List.append_nil] at htrim
      rw [addAll, List.foldl_cons, add_ofMessages, htrim, ← addAll, ih _ hquiet, ← List.append_cons]

theorem addAll_opening (limit : Nat) (opening : List Message)
    (hopening : ∀ message ∈ opening, message.opensBlock = false) :
    (empty limit).addAll opening = afterBlocks limit opening [] := by
  have hquiet := addAll_quiet limit [] opening hopening
  rw [List.nil_append] at hquiet
  rw [afterBlocks, keepLatest, List.flatten_nil, List.append_nil, ← hquiet]
  rfl

/-- Adding a message to blocks that are blocks with it trims them once more. -/
private theorem add_trims (hopening : ∀ message ∈ opening, message.opensBlock = false)
    {before after : List (List Message)} {message : Message}
    (hafter : before.flatten ++ [message] = after.flatten)
    (hblocks : ∀ block ∈ after, Message.IsBlock block) :
    (ofMessages limit (opening ++ before.flatten)).add message =
      afterBlocks limit opening after := by
  rw [add_ofMessages, List.append_assoc, hafter]
  exact trim_ofMessages hopening hblocks (Nat.le_of_eq (blockCount_blocks hopening hblocks).symm)

/-- A message that issues calls begins a block. -/
private theorem add_opener (hopening : ∀ message ∈ opening, message.opensBlock = false)
    (hblocks : ∀ block ∈ blocks, Message.IsBlock block) {opener : Message}
    (hopener : opener.opensBlock = true) :
    (afterBlocks limit opening blocks).add opener =
      afterBlocks limit opening (blocks ++ [[opener]]) := by
  have hgrows (latest : List (List Message))
      (hfits : fits limit opening (latest ++ [[opener]]) = true) :
      fits limit opening latest = true := by
    rw [fits_iff] at hfits ⊢
    simp only [List.flatten_append, estimate_append] at hfits ⊢
    omega
  have hkept : ∀ block ∈ keepLatest (fits limit opening) blocks ++ [[opener]],
      Message.IsBlock block := by
    intro block hblock
    rcases List.mem_append.mp hblock with hold | hnew
    · exact hblocks block ((keepLatest_suffix _ blocks).mem hold)
    · rw [List.mem_singleton.mp hnew]
      exact ⟨opener, [], rfl, hopener, by simp⟩
  rw [afterBlocks, add_trims hopening (by simp) hkept, afterBlocks,
    keepLatest_append_keepLatest hgrows, ← afterBlocks]

/-- An observation makes the latest block longer. -/
private theorem add_reply (hopening : ∀ message ∈ opening, message.opensBlock = false)
    (hblocks : ∀ block ∈ blocks, Message.IsBlock block) {block : List Message}
    (hblock : Message.IsBlock block) {reply : Message} (hreply : reply.role = .tool) :
    (afterBlocks limit opening (blocks ++ [block])).add reply =
      afterBlocks limit opening (blocks ++ [block ++ [reply]]) := by
  have hle : estimate block ≤ estimate (block ++ [reply]) := by
    rw [estimate_append]
    omega
  obtain ⟨kept, hsuffix, hsmall, hlarge⟩ :=
    keepLatest_replace (fits_of_fits_larger limit opening hle) blocks
  have hkept : ∀ later ∈ kept ++ [block ++ [reply]], Message.IsBlock later := by
    intro later hlater
    rcases List.mem_append.mp hlater with hold | hnew
    · exact hblocks later (hsuffix.mem hold)
    · rw [List.mem_singleton.mp hnew]
      exact hblock.append_reply hreply
  rw [afterBlocks, hsmall, add_trims hopening (by simp) hkept, afterBlocks, hlarge, ← afterBlocks]

private theorem addAll_replies (hopening : ∀ message ∈ opening, message.opensBlock = false)
    (hblocks : ∀ block ∈ blocks, Message.IsBlock block) {block : List Message}
    (hblock : Message.IsBlock block) (replies : List Message)
    (hreplies : ∀ reply ∈ replies, reply.role = .tool) :
    (afterBlocks limit opening (blocks ++ [block])).addAll replies =
      afterBlocks limit opening (blocks ++ [block ++ replies]) := by
  induction replies generalizing block with
  | nil =>
      rw [List.append_nil]
      rfl
  | cons reply replies ih =>
      have hreply : reply.role = .tool := hreplies reply List.mem_cons_self
      have hrest : ∀ other ∈ replies, other.role = .tool :=
        fun other hother => hreplies other (List.mem_cons_of_mem reply hother)
      rw [addAll, List.foldl_cons, add_reply hopening hblocks hblock hreply, ← addAll,
        ih (hblock.append_reply hreply) hrest, List.append_assoc, List.singleton_append]

/-- **Adding a batch message by message leaves what one trim of all blocks would leave.** -/
theorem addAll_block (hopening : ∀ message ∈ opening, message.opensBlock = false)
    (hblocks : ∀ block ∈ blocks, Message.IsBlock block) {opener : Message}
    (hopener : opener.opensBlock = true) {replies : List Message}
    (hreplies : ∀ reply ∈ replies, reply.role = .tool) :
    ((afterBlocks limit opening blocks).add opener).addAll replies =
      afterBlocks limit opening (blocks ++ [opener :: replies]) := by
  have hbegun : Message.IsBlock [opener] := ⟨opener, [], rfl, hopener, by simp⟩
  rw [add_opener hopening hblocks hopener, addAll_replies hopening hblocks hbegun replies hreplies,
    List.singleton_append]

end Growing

end Window

end ToolAssistant
