import ToolAssistant.Json.Record
import ToolAssistant.Proofs.Tool.Arguments

/-!
# Records that are read back

What it is for the records of a kind to survive being written as JSON: the form of a record is read
as that record, so no two of them share a form (`ReadsBack`).  The rest is about the parts that
forms are made of, each with what reading it gives, for `simp` to put together: fields of an object,
plain values, lists of records (`listOf?_map`) and doubles (`float?_ofDouble`).
-/

namespace ToolAssistant.Json

/-- The records of a kind are read back from their form, and the form tells them apart. -/
structure ReadsBack {α : Type} (encode : α → Json) (decode : Json → Option α)
    (Sound : α → Prop) : Prop where
  reads : ∀ record, Sound record → decode (encode record) = some record
  apart : ∀ record other, Sound record → Sound other → encode record = encode other →
    record = other

variable {α β : Type}

theorem ReadsBack.of_reads {encode : α → Json} {decode : Json → Option α} {Sound : α → Prop}
    (hreads : ∀ record, Sound record → decode (encode record) = some record) :
    ReadsBack encode decode Sound := by
  refine ⟨hreads, ?_⟩
  intro record other hrecord hother hforms
  apply Option.some.inj
  calc some record = decode (encode record) := (hreads record hrecord).symm
    _ = decode (encode other) := by rw [hforms]
    _ = some other := hreads other hother

/-! ## Fields of an object -/

@[simp]
theorem record?_ofFields (names : List String) (pairs : List (String × Json)) :
    record? names (ofFields pairs) = some ⟨false, Fields.ofList pairs⟩ :=
  rfl

section Object

variable (fields : Fields) (name : String)

@[simp]
theorem Record.required_object (decode : Json → Option β) :
    (⟨false, fields⟩ : Record Json).required name decode = (Fields.get? name fields).bind decode :=
  rfl

@[simp]
theorem Record.withDefault_object (default : β) (decode : Json → Option β) :
    (⟨false, fields⟩ : Record Json).withDefault name default decode =
      (Fields.get? name fields).elim (some default) decode := by
  unfold withDefault Fields.get?
  cases fields.lookup name <;> rfl

@[simp]
theorem Record.optional_object (decode : Json → Option (Option β)) :
    (⟨false, fields⟩ : Record Json).optional name decode =
      (Fields.get? name fields).elim (some none) decode := by
  unfold optional Fields.get?
  cases fields.lookup name <;> rfl

end Object

/-! ## Values -/

@[simp]
theorem string?_string (text : String) : (Json.string text).string? = some text :=
  rfl

@[simp]
theorem bool?_bool (value : Bool) : (Json.bool value).bool? = some value :=
  rfl

@[simp]
theorem object?_object (fields : Fields) : (Json.object fields).object? = some fields :=
  rfl

@[simp]
theorem uint64?_ofNat (n : Nat) : (ofNat n).uint64? = some n := by
  show (if 0 ≤ (n : Int) then some (n : Int).toNat else none) = some n
  rw [if_pos (Int.natCast_nonneg n), Int.toNat_natCast]

/-- A list is read back if its items are. -/
theorem listOf?_map {encode : α → Json} {decode : Json → Option α}
    (hreads : ∀ item, decode (encode item) = some item) (items : List α) :
    listOf? decode (.array (items.map encode)) = some items := by
  have hpure : decode ∘ encode = pure := funext hreads
  show (items.map encode).mapM decode = some items
  rw [List.mapM_map, hpure, List.mapM_pure, List.map_id']
  rfl

@[simp]
theorem oneOf?_string {choices : List (String × β)} (name : String) :
    oneOf? choices (.string name) = choices.lookup name :=
  rfl

/-- A double is read back exactly if it is finite; otherwise there is nothing to read. -/
theorem float?_ofDouble (x : Float) :
    float? (ofDouble x) = if Double.isFinite x then some x else none := by
  unfold ofDouble
  split_ifs with hfinite
  · rfl
  · rfl

end ToolAssistant.Json
