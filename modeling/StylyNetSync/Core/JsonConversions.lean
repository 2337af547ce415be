import StylyNetSync.Core.JsonNumbers
import StylyNetSync.Core.JsonNumerals

/-!
# Conversions to integers

To print a number, the decoder converts it to a 64-bit integer: first to see whether it is one, and
only then does it look at the magnitude. Here the decoder runs once more and keeps a record of the
values that it converts. A value outside the range of the integer type is converted exactly if the
text has a numeral with such a value (`conversions_fit_iff`).
-/

namespace StylyNetSync

open JsonParser

section Recording

variable {D : Type} [Double D] [NumberText D]

/-- A computation that records which values it converts to integers. -/
abbrev Recording (D α : Type) : Type := StateM (List D) α

/-- The conversion of a value to a 64-bit integer. -/
def toInt64 (value : D) : Recording D ℤ := do
  modify (· ++ [value])
  pure (Double.toInt value)

namespace JsonValue

def formatNumberRecorded (value : D) : Recording D Bytes := do
  if !Double.isFinite value then
    pure (ascii "null")
  else
    let whole ← toInt64 value
    if Double.eq value (Double.lit whole) &&
        Double.lt (Double.fabs value) (Double.lit 1000000000000000) then
      let printed ← toInt64 value
      pure (ascii (toString printed))
    else
      pure (NumberText.formatG17 value)

mutual

def dumpRecorded : JsonValue D → Recording D Bytes
  | null => pure (ascii "null")
  | bool value => pure (ascii (if value then "true" else "false"))
  | number value => formatNumberRecorded value
  | string value => pure (encodeJsonString value)
  | array items => do
    let texts ← dumpItemsRecorded items
    pure (91 :: ([(44 : UInt8)].intercalate texts ++ [93]))
  | object members => do
    let texts ← dumpMembersRecorded members
    pure (123 :: ([(44 : UInt8)].intercalate texts ++ [125]))

def dumpItemsRecorded : List (JsonValue D) → Recording D (List Bytes)
  | [] => pure []
  | item :: rest => do
    let text ← dumpRecorded item
    let texts ← dumpItemsRecorded rest
    pure (text :: texts)

def dumpMembersRecorded : List (Bytes × JsonValue D) → Recording D (List Bytes)
  | [] => pure []
  | (key, value) :: rest => do
    let text ← dumpRecorded value
    let texts ← dumpMembersRecorded rest
    pure ((encodeJsonString key ++ 58 :: text) :: texts)

end

def argumentTextRecorded : JsonValue D → Recording D Bytes
  | string value => pure value
  | null => pure []
  | value => value.dumpRecorded

end JsonValue

end Recording

/-- The decoder, with a record of its conversions. -/
def decodeRecorded (D : Type) [Double D] [NumberText D] (json : Bytes) :
    Recording D (Option (List Bytes)) :=
  match (JsonValue.parse json : Except String (JsonValue D)) with
  | .ok (.array items) => do
    let out ← items.mapM JsonValue.argumentTextRecorded
    pure (some out)
  | _ => pure none

/-- The values that are converted while a text is decoded. -/
def conversions (D : Type) [Double D] [NumberText D] (json : Bytes) : List D :=
  ((decodeRecorded D json).run []).2

/-- The numbers in the array of arguments that a text stands for. -/
def argumentNumbers (D : Type) [NumberText D] (json : Bytes) : List D :=
  match (JsonValue.parse json : Except String (JsonValue D)) with
  | .ok (.array items) => JsonValue.itemNumbers items
  | _ => []

/-- The numerals in an array of arguments, as they are written. -/
def numerals (json : Bytes) : List Bytes := argumentNumbers Bytes json

/-- The value can be converted: without its fraction it lies in the range of the integer type. -/
def FitsInt64 {D : Type} [Double D] (value : D) : Prop :=
  -2 ^ 63 ≤ Double.toInt value ∧ Double.toInt value < 2 ^ 63

instance {D : Type} [Double D] : DecidablePred (FitsInt64 : D → Prop) := fun _ ↦ instDecidableAnd

/-! ### What is recorded -/

/-- The computation yields this result and records these values. -/
def Records {D α : Type} (computation : Recording D α) (result : α) (converted : List D) : Prop :=
  ∀ record, computation.run record = (result, record ++ converted)

namespace Records

variable {D α β : Type}

theorem pure (result : α) : Records (pure result : Recording D α) result [] := fun record ↦
  congrArg (Prod.mk result) (List.append_nil record).symm

theorem bind {computation : Recording D α} {result : α} {converted converted' : List D}
    {rest : α → Recording D β} {result' : β} (h : Records computation result converted)
    (hrest : Records (rest result) result' converted') :
    Records (computation >>= rest) result' (converted ++ converted') := by
  intro record
  show (rest (computation.run record).1).run (computation.run record).2 = _
  rw [h record, ← List.append_assoc]
  exact hrest (record ++ converted)

/-- A computation whose result is put into something larger. -/
theorem bind_pure {computation : Recording D α} {result : α} {converted : List D} (f : α → β)
    (h : Records computation result converted) :
    Records (computation >>= fun a ↦ Pure.pure (f a)) (f result) converted := by
  have hboth : Records (computation >>= fun a ↦ Pure.pure (f a)) (f result) (converted ++ []) :=
    h.bind (Records.pure (f result))
  rwa [List.append_nil] at hboth

theorem toInt64 [Double D] (value : D) :
    Records (StylyNetSync.toInt64 value) (Double.toInt value) [value] := fun _ ↦ rfl

end Records

section Recorded

variable {D : Type} [Double D]

/-- The conversions that printing a number takes. -/
def formatConversions (value : D) : List D :=
  if Double.isFinite value then
    value :: if isShortInteger value then [value] else []
  else []

theorem mem_formatConversions {v value : D} :
    v ∈ formatConversions value ↔ v = value ∧ Double.isFinite value = true := by
  rw [formatConversions]
  split_ifs with hfinite hshort <;> simp [hfinite]

variable [NumberText D]

theorem records_formatNumber (value : D) :
    Records (JsonValue.formatNumberRecorded value) (JsonValue.formatNumber value)
      (formatConversions value) := by
  rw [formatNumber_eq, formatConversions, JsonValue.formatNumberRecorded]
  cases Double.isFinite value with
  | false => exact Records.pure _
  | true =>
    refine (Records.toInt64 value).bind ?_
    show Records (if isShortInteger value then _ else _) _ _
    cases isShortInteger value with
    | false => exact Records.pure _
    | true => exact (Records.toInt64 value).bind_pure _

theorem records_dump (value : JsonValue D) :
    Records value.dumpRecorded value.dump (value.numbers.flatMap formatConversions) := by
  induction value using JsonValue.induction with
  | null => exact Records.pure _
  | bool _ => exact Records.pure _
  | number value =>
    rw [JsonValue.numbers, List.flatMap_singleton]
    exact records_formatNumber value
  | string _ => exact Records.pure _
  | array items ih =>
    have hitems : Records (JsonValue.dumpItemsRecorded items) (JsonValue.dumpItems items)
        ((JsonValue.itemNumbers items).flatMap formatConversions) := by
      induction items with
      | nil => exact Records.pure _
      | cons item items ihs =>
        rw [List.forall_mem_cons] at ih
        rw [JsonValue.itemNumbers, List.flatMap_append]
        exact ih.1.bind ((ihs ih.2).bind_pure _)
    exact hitems.bind_pure _
  | object members ih =>
    have hmembers : Records (JsonValue.dumpMembersRecorded members) (JsonValue.dumpMembers members)
        ((JsonValue.memberNumbers members).flatMap formatConversions) := by
      induction members with
      | nil => exact Records.pure _
      | cons member members ihs =>
        rw [List.forall_mem_cons] at ih
        rw [JsonValue.memberNumbers, List.flatMap_append]
        exact ih.1.bind ((ihs ih.2).bind_pure _)
    exact hmembers.bind_pure _

theorem records_argumentText (value : JsonValue D) :
    Records value.argumentTextRecorded value.argumentText
      (value.numbers.flatMap formatConversions) := by
  cases value with
  | null => exact Records.pure _
  | string _ => exact Records.pure _
  | bool value => exact records_dump (.bool value)
  | number value => exact records_dump (.number value)
  | array items => exact records_dump (.array items)
  | object members => exact records_dump (.object members)

theorem records_arguments (items : List (JsonValue D)) :
    Records (items.mapM JsonValue.argumentTextRecorded) (items.map JsonValue.argumentText)
      ((JsonValue.itemNumbers items).flatMap formatConversions) := by
  induction items with
  | nil => exact Records.pure _
  | cons item items ih =>
    rw [List.mapM_cons, List.map_cons, JsonValue.itemNumbers, List.flatMap_append]
    exact (records_argumentText item).bind (ih.bind_pure _)

/-- **The record of the decoder**: its result is that of the decoder, and it converts the numbers
of the array. -/
theorem records_decode (json : Bytes) :
    Records (decodeRecorded D json) (decodeJsonStringArray D json)
      ((argumentNumbers D json).flatMap formatConversions) := by
  rw [decodeRecorded, decodeJsonStringArray, argumentNumbers]
  rcases (JsonValue.parse json : Except String (JsonValue D)) with - | value
  · exact Records.pure _
  · cases value with
    | array items => exact (records_arguments items).bind_pure _
    | _ => exact Records.pure _

end Recorded

/-- The numbers of an array are the values of its numerals. -/
theorem argumentNumbers_eq_map (D : Type) [NumberText D] (json : Bytes) :
    argumentNumbers D json = (numerals json).map NumberText.strtod := by
  have hparse := parse_map (D := Bytes) (E := D) (f := NumberText.strtod) (fun _ ↦ rfl) json
  rw [numerals, argumentNumbers, argumentNumbers, hparse]
  rcases (JsonValue.parse json : Except String (JsonValue Bytes)) with - | value
  · rfl
  · cases value with
    | array items => exact JsonValue.numbers_map NumberText.strtod (.array items)
    | _ => rfl

theorem mem_conversions_iff {D : Type} [Double D] [NumberText D] {json : Bytes} {v : D} :
    v ∈ conversions D json ↔
      ∃ literal ∈ numerals json, NumberText.strtod literal = v ∧ Double.isFinite v = true := by
  have hrecord : conversions D json = (argumentNumbers D json).flatMap formatConversions := by
    rw [conversions, records_decode json []]
    rfl
  rw [hrecord, argumentNumbers_eq_map, List.flatMap_map, List.mem_flatMap]
  refine exists_congr fun literal ↦ and_congr_right fun _ ↦ ?_
  rw [mem_formatConversions]
  constructor
  · rintro ⟨rfl, hfinite⟩
    exact ⟨rfl, hfinite⟩
  · rintro ⟨rfl, hfinite⟩
    exact ⟨rfl, hfinite⟩

/-- **When every conversion is in range.** The finite numerals of the text, at any depth, must have
values that fit. The guard on the magnitude comes too late to make a difference. -/
theorem conversions_fit_iff (D : Type) [Double D] [NumberText D] (json : Bytes) :
    (∀ v ∈ conversions D json, FitsInt64 v) ↔
      ∀ literal ∈ numerals json, Double.isFinite (NumberText.strtod literal : D) = true →
        FitsInt64 (NumberText.strtod literal : D) := by
  constructor
  · intro h literal hliteral hfinite
    exact h _ (mem_conversions_iff.mpr ⟨literal, hliteral, rfl, hfinite⟩)
  · intro h v hv
    obtain ⟨literal, hliteral, rfl, hfinite⟩ := mem_conversions_iff.mp hv
    exact h literal hliteral hfinite

/-- The value of `1e19`, one level down, is converted and does not fit. -/
theorem conversion_out_of_range : ¬∀ json, ∀ v ∈ conversions ℚ json, FitsInt64 v := by
  intro h
  have hrun : (10 ^ 19 : ℚ) ∈ conversions ℚ (ascii "[[1e19]]") := by decide +kernel
  exact absurd (h _ _ hrun) (by decide +kernel)

end StylyNetSync
