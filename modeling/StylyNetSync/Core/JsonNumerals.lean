import StylyNetSync.Core.JsonParser
import StylyNetSync.Foundation.ParserImage

/-!
# The numerals of a text

The parser hands every numeral it meets to the C library and never looks at the value it gets back.
So a text can be parsed with each numeral standing for itself, and the values put in afterwards
(`parse_map`): which numerals of a text are read does not depend on the arithmetic.
-/

namespace StylyNetSync

open TextParser JsonParser

/-- A numeral that stands for itself. -/
instance : NumberText Bytes where
  strtod text := text
  formatG17 text := text

namespace JsonValue

variable {D E : Type}

mutual

/-- Another value for every number. -/
def map (f : D → E) : JsonValue D → JsonValue E
  | null => null
  | bool value => bool value
  | number value => number (f value)
  | string value => string value
  | array items => array (mapItems f items)
  | object members => object (mapMembers f members)

def mapItems (f : D → E) : List (JsonValue D) → List (JsonValue E)
  | [] => []
  | item :: rest => map f item :: mapItems f rest

def mapMembers (f : D → E) : List (Bytes × JsonValue D) → List (Bytes × JsonValue E)
  | [] => []
  | (key, value) :: rest => (key, map f value) :: mapMembers f rest

end

mutual

/-- The numbers in a value, in the order in which they are written. -/
def numbers : JsonValue D → List D
  | null => []
  | bool _ => []
  | number value => [value]
  | string _ => []
  | array items => itemNumbers items
  | object members => memberNumbers members

def itemNumbers : List (JsonValue D) → List D
  | [] => []
  | item :: rest => numbers item ++ itemNumbers rest

def memberNumbers : List (Bytes × JsonValue D) → List D
  | [] => []
  | (_, value) :: rest => numbers value ++ memberNumbers rest

end

theorem mapItems_append (f : D → E) (items items' : List (JsonValue D)) :
    mapItems f (items ++ items') = mapItems f items ++ mapItems f items' := by
  induction items with
  | nil => rfl
  | cons item items ih => rw [List.cons_append, mapItems, mapItems, ih, List.cons_append]

theorem insertMember_mapMembers (f : D → E) (key : Bytes) (value : JsonValue D)
    (members : List (Bytes × JsonValue D)) :
    mapMembers f (insertMember key value members) =
      insertMember key (map f value) (mapMembers f members) := by
  induction members with
  | nil => rfl
  | cons member members ih =>
    obtain ⟨key', value'⟩ := member
    rw [mapMembers, insertMember, insertMember]
    cases compare key key' with
    | lt => rfl
    | eq => rfl
    | gt => exact congrArg _ ih

/-- The numbers of a value whose numbers were replaced. -/
theorem numbers_map (f : D → E) (value : JsonValue D) :
    (value.map f).numbers = value.numbers.map f := by
  induction value using JsonValue.induction with
  | null => rfl
  | bool _ => rfl
  | number _ => rfl
  | string _ => rfl
  | array items ih =>
    rw [map, numbers, numbers]
    induction items with
    | nil => rfl
    | cons item items ihs =>
      rw [List.forall_mem_cons] at ih
      rw [mapItems, itemNumbers, itemNumbers, List.map_append, ih.1, ihs ih.2]
  | object members ih =>
    rw [map, numbers, numbers]
    induction members with
    | nil => rfl
    | cons member members ihs =>
      rw [List.forall_mem_cons] at ih
      rw [mapMembers, memberNumbers, memberNumbers, List.map_append, ih.1, ihs ih.2]

end JsonValue

namespace JsonParser

variable {D E : Type} {f : D → E}

theorem image_parseElement {p : JsonParse (JsonValue D)} {q : JsonParse (JsonValue E)}
    (h : Image (JsonValue.map f) p q) (items : List (JsonValue D)) :
    Image (Sum.map (JsonValue.mapItems f) (JsonValue.map f)) (parseElement p items)
      (parseElement q (JsonValue.mapItems f items)) := by
  refine h.bind fun item ↦ Image.bind_left _ fun closed ↦ ?_
  have hitems : JsonValue.mapItems f items ++ [item.map f] =
      JsonValue.mapItems f (items ++ [item]) := by rw [JsonValue.mapItems_append]; rfl
  rw [hitems]
  cases closed with
  | true => exact Image.pure _ _
  | false => exact Image.pure _ _

theorem image_parseArray {p : JsonParse (JsonValue D)} {q : JsonParse (JsonValue E)}
    (h : Image (JsonValue.map f) p q) : Image (JsonValue.map f) (parseArray p) (parseArray q) := by
  refine Image.bind_left _ fun _ ↦ Image.bind_left _ fun _ ↦ Image.bind_left _ fun closing ↦ ?_
  exact Image.ite (Image.loop (image_parseElement h) []) (Image.pure _ _)

theorem image_parseMember {p : JsonParse (JsonValue D)} {q : JsonParse (JsonValue E)}
    (h : Image (JsonValue.map f) p q) (members : List (Bytes × JsonValue D)) :
    Image (Sum.map (JsonValue.mapMembers f) (JsonValue.map f)) (parseMember p members)
      (parseMember q (JsonValue.mapMembers f members)) := by
  refine Image.bind_left _ fun _ ↦ Image.bind_left _ fun key ↦ Image.bind_left _ fun _ ↦
    Image.bind_left _ fun _ ↦ h.bind fun item ↦ Image.bind_left _ fun closed ↦ ?_
  rw [← JsonValue.insertMember_mapMembers]
  cases closed with
  | true => exact Image.pure _ _
  | false => exact Image.pure _ _

theorem image_parseObject {p : JsonParse (JsonValue D)} {q : JsonParse (JsonValue E)}
    (h : Image (JsonValue.map f) p q) :
    Image (JsonValue.map f) (parseObject p) (parseObject q) := by
  refine Image.bind_left _ fun _ ↦ Image.bind_left _ fun _ ↦ Image.bind_left _ fun closing ↦ ?_
  exact Image.ite (Image.loop (image_parseMember h) []) (Image.pure _ _)

theorem image_parseLiteral (word : String) {value : JsonValue D} {value' : JsonValue E}
    (h : value.map f = value') :
    Image (JsonValue.map f) (parseLiteral word value) (parseLiteral word value') := by
  rw [← h]
  exact Image.bind_left _ fun found ↦ Image.ite (Image.pure _ _) (Image.reject _ _)

variable [NumberText D] [NumberText E]

theorem image_parseNumber
    (hf : ∀ text, f (NumberText.strtod text) = (NumberText.strtod text : E)) :
    Image (JsonValue.map f) parseNumber parseNumber := by
  refine Image.bind_left _ fun sign ↦ Image.bind_left _ fun whole ↦ Image.bind_left _ fun point ↦
    Image.bind_left _ fun fraction ↦ Image.ite (Image.reject _ _) ?_
  refine Image.bind_left _ fun exponent ↦ ?_
  rw [← hf]
  exact Image.pure _ _

theorem image_parseValue
    (hf : ∀ text, f (NumberText.strtod text) = (NumberText.strtod text : E)) (levels : ℕ) :
    Image (JsonValue.map f) (parseValue levels) (parseValue levels) := by
  induction levels with
  | zero => exact Image.reject _ _
  | succ levels ih =>
    refine Image.bind_left _ fun _ ↦ Image.bind_left _ fun c ↦ ?_
    refine (image_parseObject ih).ite ((image_parseArray ih).ite ?_)
    refine Image.ite (Image.bind_left _ fun _ ↦ Image.pure _ _) ?_
    refine (image_parseLiteral "true" rfl).ite ((image_parseLiteral "false" rfl).ite ?_)
    exact (image_parseLiteral "null" rfl).ite (image_parseNumber hf)

end JsonParser

/-- **Parsing commutes with putting the values of the numerals in.** -/
theorem parse_map {D E : Type} [NumberText D] [NumberText E] {f : D → E}
    (hf : ∀ text, f (NumberText.strtod text) = (NumberText.strtod text : E)) (text : Bytes) :
    (JsonValue.parse text : Except String (JsonValue E)) =
      (JsonValue.parse text).map (JsonValue.map f) := by
  have hdocument : Image (JsonValue.map f) document document :=
    Image.bind_left _ fun _ ↦ (image_parseValue hf _).bind fun value ↦
      Image.bind_left _ fun _ ↦ Image.pure _ value
  rw [JsonValue.parse, JsonValue.parse, hdocument]
  rcases document (D := D) { rest := text } with ⟨- | value, c⟩
  · rfl
  · show (if c.rest.isEmpty then _ else _) = Except.map _ (if c.rest.isEmpty then _ else _)
    cases c.rest.isEmpty <;> rfl

end StylyNetSync
