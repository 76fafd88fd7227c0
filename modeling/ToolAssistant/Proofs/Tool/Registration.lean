import Mathlib.Data.List.Induction
import Mathlib.Data.List.Nodup
import ToolAssistant.Tool.Registry

/-!
# Registering tools one after another

A registry starts empty and is offered tools, in any order and with any repetitions of names.
`Registry.registering` follows such a history: it gives the answer to each registration and the
registry that is left in the end.  `Registry.Registers` is the reference for one registration, and
`Registry.Recounts` says what a registry has to do with its whole history.  The main statement is
that every history is recounted so.

## Strategy

`register_eq` says all that one registration can do, so `offer_registers` is its step lemma.  A
history is then taken from its end (`registering_append_singleton`): the last registration is
refused and changes nothing, or it puts a tool with a new name behind the others.
-/

namespace ToolAssistant.Registry

variable {σ : Type}

/-! ## One registration -/

/-- A registration: what it is answered with, and the registry that it leaves. -/
def offer (registry : Registry σ) (tool : Tool σ) : Except Failure Unit × Registry σ :=
  match registry.register tool with
  | .ok grown => (.ok (), grown)
  | .error failure => (.error failure, registry)

/-- What one registration comes to.  A tool whose name is there is refused and changes nothing; any
other goes behind the tools that are there. -/
inductive Registers (before : Registry σ) (tool : Tool σ) :
    Except Failure Unit → Registry σ → Prop where
  | duplicate (hpresent : tool.spec.name ∈ before.names) :
      Registers before tool (.error (.duplicateTool tool.spec.name)) before
  | added (hnew : tool.spec.name ∉ before.names) :
      Registers before tool (.ok ()) ⟨before.tools ++ [tool]⟩

theorem find?_isSome_iff (registry : Registry σ) (name : String) :
    (registry.find? name).isSome = true ↔ name ∈ registry.names := by
  rw [find?, List.find?_isSome, names, List.mem_map]
  simp only [beq_iff_eq]

theorem register_eq (registry : Registry σ) (tool : Tool σ) :
    registry.register tool =
      if tool.spec.name ∈ registry.names then .error (.duplicateTool tool.spec.name)
      else .ok ⟨registry.tools ++ [tool]⟩ := by
  simp only [register, find?_isSome_iff]

/-- Every registration comes to what the reference says. -/
theorem offer_registers (registry : Registry σ) (tool : Tool σ) :
    Registers registry tool (registry.offer tool).1 (registry.offer tool).2 := by
  by_cases hpresent : tool.spec.name ∈ registry.names
  · have hrefused := (register_eq registry tool).trans (if_pos hpresent)
    simpa only [offer, hrefused] using Registers.duplicate hpresent
  · have hadded := (register_eq registry tool).trans (if_neg hpresent)
    simpa only [offer, hadded] using Registers.added hpresent

/-! ## A history of registrations -/

/-- The answers to the registrations of a history, and the registry that it leaves. -/
def registering (history : List (Tool σ)) : List (Except Failure Unit) × Registry σ :=
  history.foldl (fun past tool =>
    let last := past.2.offer tool
    (past.1 ++ [last.1], last.2)) ([], empty)

/-- What a registry and the answers on the way to it have to do with the registrations. -/
structure Recounts (history : List (Tool σ)) (answers : List (Except Failure Unit))
    (registry : Registry σ) : Prop where
  /-- No two tools share a name. -/
  distinct : registry.names.Nodup
  /-- Each registration came to what it had to, in the registry that the earlier ones had left. -/
  answered : ∀ earlier tool later, history = earlier ++ tool :: later →
    ∃ answer, answers[earlier.length]? = some answer ∧
      Registers (registering earlier).2 tool answer (registering (earlier ++ [tool])).2
  /-- There is an answer for each registration and no other. -/
  length_answers : answers.length = history.length
  /-- The catalogue tells of the tools whose registration succeeded, in their order. -/
  catalogue_eq : registry.catalogue =
    ((history.zip answers).filter fun entry => entry.2.isOk).map fun entry => entry.1.spec
  /-- Under each name there is the tool that was first registered under it. -/
  find?_eq : ∀ name, registry.find? name = history.find? fun tool => tool.spec.name == name
  /-- The names are those of the catalogue, in its order. -/
  names_eq : registry.names = registry.catalogue.map (·.name)
  /-- The size is the number of names. -/
  size_eq : registry.size = registry.names.length

theorem registering_append_singleton (history : List (Tool σ)) (tool : Tool σ) :
    registering (history ++ [tool]) =
      ((registering history).1 ++ [((registering history).2.offer tool).1],
        ((registering history).2.offer tool).2) := by
  simp only [registering, List.foldl_append, List.foldl_cons, List.foldl_nil]

/-- Later registrations leave the answers to earlier ones as they are. -/
theorem registering_begins (earlier later : List (Tool σ)) :
    (registering earlier).1 <+: (registering (earlier ++ later)).1 := by
  induction later using List.reverseRecOn with
  | nil => simp
  | append_singleton later tool ih =>
      rw [← List.append_assoc, registering_append_singleton]
      exact ih.trans (List.prefix_append _ _)

theorem length_registering (history : List (Tool σ)) :
    (registering history).1.length = history.length := by
  induction history using List.reverseRecOn with
  | nil => rfl
  | append_singleton history tool ih =>
      rw [registering_append_singleton, List.length_append, ih, List.length_append]
      rfl

theorem registering_answered (earlier : List (Tool σ)) (tool : Tool σ) (later : List (Tool σ)) :
    (registering (earlier ++ tool :: later)).1[earlier.length]? =
      some ((registering earlier).2.offer tool).1 := by
  obtain ⟨rest, hanswers⟩ := registering_begins (earlier ++ [tool]) later
  rw [List.append_assoc, List.singleton_append, registering_append_singleton] at hanswers
  rw [← hanswers, List.append_assoc, ← length_registering earlier, List.getElem?_append_right
    (Nat.le_refl _), Nat.sub_self]
  rfl

/-! ## What a registration preserves -/

section Step

variable {before after : Registry σ} {tool : Tool σ} {answer : Except Failure Unit}

theorem Registers.nodup (hregisters : Registers before tool answer after)
    (hdistinct : before.names.Nodup) : after.names.Nodup := by
  cases hregisters with
  | duplicate _ => exact hdistinct
  | added hnew =>
      rw [names, List.map_append, List.map_singleton, List.nodup_append]
      refine ⟨hdistinct, List.nodup_singleton _, fun name hname other hother => ?_⟩
      rw [List.mem_singleton.mp hother]
      exact fun heq => hnew (heq ▸ hname)

/-- The catalogue grows by the tool exactly if the registration succeeds. -/
theorem Registers.catalogue (hregisters : Registers before tool answer after) :
    after.catalogue = before.catalogue ++ if answer.isOk then [tool.spec] else [] := by
  cases hregisters with
  | duplicate _ => exact (List.append_nil _).symm
  | added _ => exact List.map_append

/-- The tool is found where nothing was found before. -/
theorem Registers.find? (hregisters : Registers before tool answer after) (name : String) :
    after.find? name =
      (before.find? name).or (if tool.spec.name = name then some tool else none) := by
  cases hregisters with
  | duplicate hpresent =>
      split
      · next hname =>
          rw [← find?_isSome_iff, hname] at hpresent
          rw [Option.or_of_isSome hpresent]
      · rw [Option.or_none]
  | added _ =>
      rw [Registry.find?, List.find?_append, List.find?_singleton]
      simp only [beq_iff_eq]
      rfl

end Step

/-! ## The main statement -/

theorem nodup_registering (history : List (Tool σ)) : (registering history).2.names.Nodup := by
  induction history using List.reverseRecOn with
  | nil => exact List.nodup_nil
  | append_singleton history tool ih =>
      rw [registering_append_singleton]
      exact (offer_registers _ tool).nodup ih

theorem catalogue_registering (history : List (Tool σ)) :
    (registering history).2.catalogue =
      ((history.zip (registering history).1).filter fun entry => entry.2.isOk).map
        fun entry => entry.1.spec := by
  induction history using List.reverseRecOn with
  | nil => rfl
  | append_singleton history tool ih =>
      rw [registering_append_singleton, (offer_registers _ tool).catalogue, ih,
        List.zip_append (length_registering history).symm, List.filter_append, List.map_append]
      congr 1
      cases ((registering history).2.offer tool).1 <;> rfl

theorem find?_registering (history : List (Tool σ)) (name : String) :
    (registering history).2.find? name = history.find? fun tool => tool.spec.name == name := by
  induction history using List.reverseRecOn with
  | nil => rfl
  | append_singleton history tool ih =>
      rw [registering_append_singleton, (offer_registers _ tool).find?, ih, List.find?_append,
        List.find?_singleton]
      simp only [beq_iff_eq]

/-- **A registry recounts its history, whatever that is.**  Names stay distinct, because a
registration is refused exactly if its name is there, and then nothing changes.  The catalogue lists
the successful registrations in order, a name leads to the first tool that was registered under it,
and the names and the size agree with the catalogue. -/
theorem registering_recounts (history : List (Tool σ)) :
    Recounts history (registering history).1 (registering history).2 where
  distinct := nodup_registering history
  answered earlier tool later hhistory := by
    subst hhistory
    refine ⟨_, registering_answered earlier tool later, ?_⟩
    rw [registering_append_singleton]
    exact offer_registers _ tool
  length_answers := length_registering history
  catalogue_eq := catalogue_registering history
  find?_eq := find?_registering history
  names_eq := List.map_map.symm
  size_eq := (List.length_map _).symm

end ToolAssistant.Registry
