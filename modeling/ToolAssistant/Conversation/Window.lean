import ToolAssistant.Conversation.Message

/-!
# The context window

The messages of a running turn, with an estimate of how many tokens they take.  When the estimate
passes the limit, the oldest observation blocks are dropped as wholes: a message that issues calls,
with the observations that directly follow it.  The last block always stays, because it is what the
oracle has to reason about next, and so does everything outside the blocks.
-/

namespace ToolAssistant

namespace Message

/-- How many bytes count as one token. -/
def bytesPerToken : Nat := 4

/-- Tokens that every message takes beside its text. -/
def tokenOverhead : Nat := 10

/-- The bytes of a call that count. -/
def callBytes (call : ToolCall) : Nat :=
  call.id.utf8ByteSize + call.name.utf8ByteSize + (Json.object call.arguments).compact.utf8ByteSize

/-- An estimate of the tokens that a message takes. -/
def tokens (message : Message) : Nat :=
  let bytes := message.content.utf8ByteSize + (message.toolCallId.getD "").utf8ByteSize +
    (message.toolCalls.map callBytes).foldr (· + ·) 0
  (bytes + (bytesPerToken - 1)) / bytesPerToken + tokenOverhead

end Message

/-- The messages of a running turn. -/
structure Window where
  limit : Nat
  messages : List Message
  tokens : Nat

namespace Window

/-- A window without messages. -/
def empty (limit : Nat) : Window := ⟨limit, [], 0⟩

/-- How many observation blocks there are. -/
def blockCount (messages : List Message) : Nat :=
  messages.countP Message.opensBlock

/-- Cuts out the oldest observation block: the block and what is left. -/
def cutBlock : List Message → List Message × List Message
  | [] => ([], [])
  | message :: rest =>
    if message.opensBlock then
      (message :: rest.takeWhile (·.role == .tool), rest.dropWhile (·.role == .tool))
    else
      let (block, kept) := cutBlock rest
      (block, message :: kept)

/-- Drops the oldest block. -/
def dropBlock (window : Window) : Window :=
  let (block, kept) := cutBlock window.messages
  let removed := (block.map Message.tokens).foldr (· + ·) 0
  { window with messages := kept, tokens := window.tokens - removed }

/-- Drops oldest blocks while the window is over its limit and has more than one, at most `fuel` of
them. -/
def trim : Nat → Window → Window
  | 0, window => window
  | fuel + 1, window =>
    if window.tokens > window.limit ∧ 2 ≤ blockCount window.messages then
      trim fuel window.dropBlock
    else window

/-- Appends a message and trims. -/
def add (window : Window) (message : Message) : Window :=
  let grown : Window :=
    { window with
      messages := window.messages ++ [message], tokens := window.tokens + message.tokens }
  -- Every step drops one block.
  grown.trim (blockCount grown.messages)

/-- Appends messages one after another. -/
def addAll (window : Window) (messages : List Message) : Window :=
  messages.foldl add window

/-- Forgets all messages. -/
def clear (window : Window) : Window :=
  empty window.limit

end Window

end ToolAssistant
