import Mathlib.Data.List.Induction
import ToolAssistant.Proofs.Turn.Context

/-!
# Windows under any use

A turn fills its window in one order only: an opening, and then batches.  The window does not rely
on it.  Whatever messages are added, in whatever order and however often it is cleared in between,

* `tokens` is the sum of the estimates of the messages that are held, and what is taken off for a
  dropped block never exceeds it (`DropsWhole`);
* the window is within its limit or down to one block;
* what is missing are the oldest blocks, each with all its observations (`Shortened`), so the latest
  block is there, and so is every message that belongs to none.

## Strategy

`Shortened added dropped held` is the invariant.  A message that comes in extends both ends of it
(`Shortened.snoc`), and a block that is dropped is the oldest one held, so it lies behind everything
dropped before (`Shortened.drop`).  The rest is read off the relation.
-/

namespace ToolAssistant.Window

/-! ## Dropping one block -/

section OldestBlock

variable {messages front block rest : List Message}

theorem dropBlock_eq {window : Window}
    (holdest : IsOldestBlock window.messages front block rest) :
    window.dropBlock = ⟨window.limit, front ++ rest, window.tokens - estimate block⟩ := by
  rw [dropBlock, cutBlock_eq holdest]
  rfl

theorem IsOldestBlock.blockCount_eq (holdest : IsOldestBlock messages front block rest) :
    blockCount messages = blockCount (front ++ rest) + 1 := by
  obtain ⟨opener, replies, rfl, hopener, hreplies⟩ := holdest.block
  have hquiet : replies.countP Message.opensBlock = 0 := by
    rw [List.countP_eq_zero]
    intro reply hreply
    simp [Message.opensBlock, hreplies reply hreply]
  rw [holdest.split, blockCount, blockCount, List.countP_append, List.countP_append,
    List.countP_append, List.countP_cons_of_pos hopener, hquiet]
  omega

/-- With two blocks there is one behind the oldest. -/
theorem IsOldestBlock.exists_later (holdest : IsOldestBlock messages front block rest)
    (hmore : 2 ≤ blockCount messages) : ∃ message ∈ rest, message.opensBlock = true := by
  have hfront : front.countP Message.opensBlock = 0 := by
    rw [List.countP_eq_zero]
    intro message hmessage
    simp [holdest.quiet message hmessage]
  have hcount := holdest.blockCount_eq
  rw [blockCount, blockCount, List.countP_append, hfront] at hcount
  rw [← List.countP_pos_iff]
  rw [blockCount] at hmore
  omega

theorem exists_oldestBlock (hsome : 1 ≤ blockCount messages) :
    ∃ front block rest, IsOldestBlock messages front block rest := by
  induction messages with
  | nil => simp [blockCount] at hsome
  | cons message messages ih =>
      cases hopens : message.opensBlock with
      | true =>
          refine ⟨[], message :: messages.takeWhile (·.role == .tool),
            messages.dropWhile (·.role == .tool), ?_, by simp, ?_, ?_⟩
          · simp
          · refine ⟨message, _, rfl, hopens, ?_⟩
            intro reply hreply
            exact beq_iff_eq.mp (List.all_eq_true.mp List.all_takeWhile reply hreply)
          · intro next hnext htool
            have hstops := List.head?_dropWhile_not (·.role == .tool) messages
            rw [Option.mem_def] at hnext
            rw [hnext] at hstops
            simp [htool] at hstops
      | false =>
          rw [blockCount, List.countP_cons_of_neg (by simp [hopens])] at hsome
          obtain ⟨front, block, rest, holdest⟩ := ih hsome
          refine ⟨message :: front, block, rest, by simp [holdest.split], ?_, holdest.block,
            holdest.whole⟩
          exact List.forall_mem_cons.mpr ⟨hopens, holdest.quiet⟩

end OldestBlock

/-! ## What is left of the messages that were added -/

/-- `held` is what is left of `added` when the blocks in `dropped` are cut out, the oldest first.
Each of them is whole and has another block behind it. -/
inductive Shortened : List Message → List (List Message) → List Message → Prop
  | whole (messages : List Message) : Shortened messages [] messages
  | keep {message : Message} {added held : List Message} {dropped : List (List Message)}
      (hquiet : message.opensBlock = false) (hrest : Shortened added dropped held) :
      Shortened (message :: added) dropped (message :: held)
  | drop {block rest held : List Message} {dropped : List (List Message)}
      (hblock : Message.IsBlock block) (hwhole : ∀ next ∈ rest.head?, next.role ≠ .tool)
      (hlater : ∃ message ∈ rest, message.opensBlock = true)
      (hrest : Shortened rest dropped held) :
      Shortened (block ++ rest) (block :: dropped) held

/-- Is this a message that belongs to no block, whatever it stands next to: a system prompt, a text
of the user, or a text of the assistant without calls? -/
def standsAlone (message : Message) : Bool :=
  message.role != .tool && !message.opensBlock

namespace Shortened

variable {added held : List Message} {dropped : List (List Message)}

theorem sublist (hshortened : Shortened added dropped held) : held.Sublist added := by
  induction hshortened with
  | whole messages => exact List.Sublist.refl messages
  | keep _ _ ih => exact ih.cons_cons _
  | drop _ _ _ _ ih => exact ih.trans (List.sublist_append_right _ _)

theorem filter_standsAlone (hshortened : Shortened added dropped held) :
    added.filter standsAlone = held.filter standsAlone := by
  induction hshortened with
  | whole messages => rfl
  | keep _ _ ih => rw [List.filter_cons, List.filter_cons, ih]
  | drop hblock _ _ _ ih =>
      obtain ⟨opener, replies, rfl, hopener, hreplies⟩ := hblock
      have hnone : (opener :: replies).filter standsAlone = [] := by
        rw [List.filter_eq_nil_iff]
        intro message hmessage
        rcases List.mem_cons.mp hmessage with rfl | hreply
        · simp [standsAlone, hopener]
        · simp [standsAlone, hreplies message hreply]
      rw [List.filter_append, hnone, List.nil_append, ih]

/-- The latest block that was added is there, with everything that was added after it. -/
theorem latest (hshortened : Shortened added dropped held) {front rest : List Message}
    {opener : Message} (hadded : added = front ++ opener :: rest)
    (hopener : opener.opensBlock = true) (hrest : ∀ later ∈ rest, later.opensBlock = false) :
    ∃ kept, kept.Sublist front ∧ held = kept ++ opener :: rest := by
  induction hshortened generalizing front with
  | whole messages => exact ⟨front, List.Sublist.refl front, hadded⟩
  | keep hquiet _ ih =>
      cases front with
      | nil =>
          obtain ⟨rfl, -⟩ := List.cons.inj hadded
          rw [hopener] at hquiet
          exact absurd hquiet (by decide)
      | cons first front =>
          obtain ⟨rfl, hbehind⟩ := List.cons.inj hadded
          obtain ⟨kept, hkept, rfl⟩ := ih hbehind
          exact ⟨_ :: kept, hkept.cons_cons _, rfl⟩
  | drop _ _ hlater _ ih =>
      rcases List.append_eq_append_iff.mp hadded with ⟨between, hfront, hbehind⟩ | ⟨end_, -, hend⟩
      · obtain ⟨kept, hkept, rfl⟩ := ih hbehind
        exact ⟨kept, hkept.trans (hfront ▸ List.sublist_append_right _ _), rfl⟩
      · -- The opener is in front of a block that opens later, which it is not.
        cases end_ with
        | nil =>
            obtain ⟨kept, hkept, rfl⟩ := @ih [] hend.symm
            exact ⟨kept, hkept.trans (List.nil_sublist front), rfl⟩
        | cons first end_ =>
            obtain ⟨-, rfl⟩ := List.cons.inj hend
            obtain ⟨later, hmem, hopens⟩ := hlater
            rw [hrest later (List.mem_append_right end_ hmem)] at hopens
            exact absurd hopens (by decide)

/-- A message that comes in is held. -/
theorem snoc (hshortened : Shortened added dropped held) (message : Message) :
    Shortened (added ++ [message]) dropped (held ++ [message]) := by
  induction hshortened with
  | whole messages => exact .whole _
  | keep hquiet _ ih => exact .keep hquiet ih
  | drop hblock hwhole hlater _ ih =>
      obtain ⟨opener, hopener, hopens⟩ := hlater
      rw [List.append_assoc]
      refine .drop hblock ?_ ⟨opener, List.mem_append_left _ hopener, hopens⟩ ih
      -- There is something behind the block, so the new message does not follow it directly.
      intro next hnext
      have hsome := List.isSome_head?.mpr (List.ne_nil_of_mem hopener)
      rw [List.head?_append, Option.or_of_isSome hsome] at hnext
      exact hwhole next hnext

private theorem of_oldestBlock {messages front block rest : List Message}
    (holdest : IsOldestBlock messages front block rest)
    (hlater : ∃ message ∈ rest, message.opensBlock = true) :
    Shortened messages [block] (front ++ rest) := by
  obtain ⟨rfl, hquiet, hblock, hwhole⟩ := holdest
  induction front with
  | nil => exact .drop hblock hwhole hlater (.whole rest)
  | cons message front ih =>
      obtain ⟨hfirst, hfront⟩ := List.forall_mem_cons.mp hquiet
      exact .keep hfirst (ih hfront)

/-- The oldest block that is held lies behind all that were dropped before. -/
theorem dropOldest (hshortened : Shortened added dropped held) {front block rest : List Message}
    (holdest : IsOldestBlock held front block rest)
    (hlater : ∃ message ∈ rest, message.opensBlock = true) :
    Shortened added (dropped ++ [block]) (front ++ rest) := by
  induction hshortened generalizing front with
  | whole messages => exact of_oldestBlock holdest hlater
  | keep hquiet _ ih =>
      obtain ⟨hsplit, hfront, hblock, hwhole⟩ := holdest
      cases front with
      | nil =>
          obtain ⟨opener, replies, rfl, hopener, -⟩ := hblock
          obtain ⟨rfl, -⟩ := List.cons.inj hsplit
          rw [hopener] at hquiet
          exact absurd hquiet (by decide)
      | cons first front =>
          obtain ⟨rfl, hbehind⟩ := List.cons.inj hsplit
          obtain ⟨-, hquietFront⟩ := List.forall_mem_cons.mp hfront
          exact .keep hquiet (ih ⟨hbehind, hquietFront, hblock, hwhole⟩)
  | drop hblock hwhole hnext _ ih => exact .drop hblock hwhole hnext (ih holdest)

end Shortened

/-! ## One trim, block by block -/

/-- The block that is dropped next. -/
def oldestBlock (window : Window) : List Message :=
  (cutBlock window.messages).1

/-- The windows at which a trim drops a block, in order. -/
def drops : Nat → Window → List Window
  | 0, _ => []
  | fuel + 1, window =>
    if window.tokens > window.limit ∧ 2 ≤ blockCount window.messages then
      window :: drops fuel window.dropBlock
    else []

/-- What is dropped here is a block with all the observations that follow it, nothing else goes, and
its tokens are among those that are counted, so that taking them off is exact. -/
def DropsWhole (window : Window) : Prop :=
  ∃ front rest, IsOldestBlock window.messages front window.oldestBlock rest ∧
    window.dropBlock.messages = front ++ rest ∧
    estimate window.oldestBlock ≤ window.tokens ∧
    window.dropBlock.tokens + estimate window.oldestBlock = window.tokens

/-- The window counts what it holds, and it holds what is left of `added` without `dropped`. -/
structure Holds (added : List Message) (dropped : List (List Message)) (window : Window) :
    Prop where
  counted : window.tokens = estimate window.messages
  shortened : Shortened added dropped window.messages

section Trim

variable {added : List Message} {dropped : List (List Message)} {window : Window}

theorem Holds.dropBlock (hholds : Holds added dropped window)
    (hmore : 2 ≤ blockCount window.messages) :
    DropsWhole window ∧ Holds added (dropped ++ [window.oldestBlock]) window.dropBlock := by
  obtain ⟨front, block, rest, holdest⟩ := exists_oldestBlock (Nat.le_of_succ_le hmore)
  have hblock : window.oldestBlock = block := by rw [oldestBlock, cutBlock_eq holdest]
  have htokens : window.tokens = estimate (front ++ rest) + estimate block := by
    rw [hholds.counted, holdest.split]
    simp only [estimate_append]
    omega
  rw [DropsWhole, hblock, dropBlock_eq holdest]
  refine ⟨⟨front, rest, holdest, rfl, by omega, ?_⟩, ?_, ?_⟩
  · show window.tokens - estimate block + estimate block = window.tokens
    omega
  · show window.tokens - estimate block = estimate (front ++ rest)
    omega
  · exact hholds.shortened.dropOldest holdest (holdest.exists_later hmore)

theorem Holds.trim (hholds : Holds added dropped window) (fuel : Nat) :
    (∀ before ∈ drops fuel window, DropsWhole before) ∧
      Holds added (dropped ++ (drops fuel window).map oldestBlock) (window.trim fuel) := by
  induction fuel generalizing window dropped with
  | zero => simpa [drops, Window.trim] using hholds
  | succ fuel ih =>
      rw [drops, Window.trim]
      split
      · next hgo =>
          obtain ⟨hwhole, hnext⟩ := hholds.dropBlock hgo.2
          obtain ⟨hlater, hrest⟩ := ih hnext
          refine ⟨List.forall_mem_cons.mpr ⟨hwhole, hlater⟩, ?_⟩
          rwa [List.map_cons, List.append_cons]
      · simpa using hholds

theorem trim_limit (window : Window) (fuel : Nat) : (window.trim fuel).limit = window.limit := by
  induction fuel generalizing window with
  | zero => rfl
  | succ fuel ih =>
      rw [trim]
      split
      · rw [ih]
        rfl
      · rfl

/-- A trim with fuel for every block comes to its end. -/
theorem trim_settles (window : Window) {fuel : Nat} (hfuel : blockCount window.messages ≤ fuel) :
    (window.trim fuel).tokens ≤ window.limit ∨ blockCount (window.trim fuel).messages ≤ 1 := by
  induction fuel generalizing window with
  | zero =>
      refine Or.inr ?_
      rw [trim]
      omega
  | succ fuel ih =>
      rw [trim]
      split
      · next hgo =>
          obtain ⟨front, block, rest, holdest⟩ := exists_oldestBlock (Nat.le_of_succ_le hgo.2)
          have hcount := holdest.blockCount_eq
          have hdrop := dropBlock_eq holdest
          have hnext : blockCount window.dropBlock.messages ≤ fuel := by
            rw [hdrop]
            show blockCount (front ++ rest) ≤ fuel
            omega
          have hlimit : window.dropBlock.limit = window.limit := rfl
          exact hlimit ▸ ih window.dropBlock hnext
      · next hstop =>
          rw [not_and_or] at hstop
          omega

end Trim

/-! ## Any use -/

/-- What can be done to a window. -/
inductive Use where
  | add (message : Message)
  | clear

/-- The window after a use. -/
def perform (window : Window) : Use → Window
  | .add message => window.add message
  | .clear => window.clear

/-- A window with what has happened to it since it was last cleared: the messages that were added,
and the windows at which a block was dropped. -/
structure History where
  window : Window
  added : List Message
  dropped : List Window

namespace History

/-- The window has another message, before it is trimmed. -/
def grown (history : History) (message : Message) : Window :=
  ⟨history.window.limit, history.window.messages ++ [message],
    history.window.tokens + message.tokens⟩

def next (history : History) : Use → History
  | .add message =>
    ⟨history.window.add message, history.added ++ [message],
      history.dropped ++
        (history.grown message).drops (blockCount (history.grown message).messages)⟩
  | .clear => ⟨history.window.clear, [], []⟩

/-- The history of a new window that is put to some uses. -/
def after (limit : Nat) (uses : List Use) : History :=
  uses.foldl next ⟨empty limit, [], []⟩

/-- What holds of a window at any time. -/
structure Upkeep (limit : Nat) (history : History) : Prop where
  counted : history.window.tokens = estimate history.window.messages
  bounded : history.window.tokens ≤ limit ∨
    history.window.messages.countP Message.opensBlock ≤ 1
  inOrder : history.window.messages.Sublist history.added
  alone : history.window.messages.filter standsAlone = history.added.filter standsAlone
  whole : ∀ before ∈ history.dropped, DropsWhole before
  shortened :
    Shortened history.added (history.dropped.map oldestBlock) history.window.messages
  latest : ∀ front opener rest, history.added = front ++ opener :: rest →
    opener.opensBlock = true → (∀ later ∈ rest, later.opensBlock = false) →
    ∃ kept, kept.Sublist front ∧ history.window.messages = kept ++ opener :: rest

/-- What a use preserves. -/
structure Sound (limit : Nat) (history : History) : Prop where
  limit_eq : history.window.limit = limit
  settled : history.window.tokens ≤ limit ∨ blockCount history.window.messages ≤ 1
  whole : ∀ before ∈ history.dropped, DropsWhole before
  holds : Holds history.added (history.dropped.map oldestBlock) history.window

variable {limit : Nat} {history : History}

theorem sound_new (limit : Nat) : Sound limit ⟨empty limit, [], []⟩ where
  limit_eq := rfl
  settled := Or.inl (Nat.zero_le limit)
  whole := by simp
  holds := ⟨rfl, .whole []⟩

theorem Sound.next (hsound : Sound limit history) (use : Use) : Sound limit (history.next use) := by
  cases use with
  | clear =>
      have hcleared : history.next .clear = ⟨empty limit, [], []⟩ := by
        rw [History.next, clear, hsound.limit_eq]
      exact hcleared ▸ sound_new limit
  | add message =>
      have hgrown : Holds (history.added ++ [message]) (history.dropped.map oldestBlock)
          (history.grown message) := by
        refine ⟨?_, hsound.holds.shortened.snoc message⟩
        show history.window.tokens + message.tokens = _
        rw [hsound.holds.counted, grown, estimate_append]
        rfl
      obtain ⟨hwhole, hholds⟩ := hgrown.trim (blockCount (history.grown message).messages)
      refine ⟨?_, ?_, ?_, ?_⟩
      · exact (trim_limit _ _).trans hsound.limit_eq
      · exact hsound.limit_eq ▸ trim_settles (history.grown message) (Nat.le_refl _)
      · intro before hbefore
        rcases List.mem_append.mp hbefore with hearlier | hnow
        · exact hsound.whole before hearlier
        · exact hwhole before hnow
      · show Holds _ (List.map _ (_ ++ _)) _
        rw [List.map_append]
        exact hholds

theorem sound_after (limit : Nat) (uses : List Use) : Sound limit (after limit uses) := by
  induction uses using List.reverseRecOn with
  | nil => exact sound_new limit
  | append_singleton uses use ih =>
      rw [after, List.foldl_append]
      exact ih.next use

theorem Sound.upkeep (hsound : Sound limit history) : Upkeep limit history where
  counted := hsound.holds.counted
  bounded := hsound.settled
  inOrder := hsound.holds.shortened.sublist
  alone := hsound.holds.shortened.filter_standsAlone.symm
  whole := hsound.whole
  shortened := hsound.holds.shortened
  latest _ _ _ hadded hopener hrest := hsound.holds.shortened.latest hadded hopener hrest

theorem after_window (limit : Nat) (uses : List Use) :
    (after limit uses).window = uses.foldl perform (empty limit) := by
  induction uses using List.reverseRecOn with
  | nil => rfl
  | append_singleton uses use ih =>
      rw [List.foldl_append, ← ih, after, List.foldl_append]
      cases use <;> rfl

end History

/-- **Whatever a window is used for, it counts what it holds, stays within its limit or comes down
to one block, and misses nothing but whole blocks, the oldest ones and never the latest.** -/
theorem any_use_upheld (limit : Nat) (uses : List Use) :
    (History.after limit uses).window = uses.foldl perform (empty limit) ∧
      History.Upkeep limit (History.after limit uses) :=
  ⟨History.after_window limit uses, (History.sound_after limit uses).upkeep⟩

end ToolAssistant.Window
