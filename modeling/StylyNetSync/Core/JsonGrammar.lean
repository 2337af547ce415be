import Mathlib.Data.List.DropRight
import StylyNetSync.Core.JsonRoundTrip

/-!
# Arrays in any layout

The layout of an array in a text: brackets, commas, and whitespace wherever the grammar of RFC 8259
allows it. The items are left open: a relation says which texts stand for an item. If the parser
reads each of these, it reads the array.

Strings and containers end by themselves. A numeral ends where the next byte cannot continue it, so
a text is said to be read in front of a delimiter.
-/

namespace StylyNetSync

open TextParser JsonParser

/-- Spaces, tabs, line feeds and carriage returns. -/
def Whitespace (text : Bytes) : Prop := ∀ c ∈ text, c = 32 ∨ c = 9 ∨ c = 10 ∨ c = 13

instance : DecidablePred Whitespace := fun text ↦ List.decidableBAll _ text

section Layout

variable {β : Type} (item : β → Bytes → Prop)

/-- The items of an array up to its closing bracket. -/
inductive ItemsForm : List β → Bytes → Prop
  | last {b : β} {before text after : Bytes} (hbefore : Whitespace before) (h : item b text)
      (hafter : Whitespace after) : ItemsForm [b] (before ++ text ++ (after ++ [93]))
  | cons {b : β} {bs : List β} {before text after rest : Bytes} (hbefore : Whitespace before)
      (h : item b text) (hafter : Whitespace after) (hrest : ItemsForm bs rest) :
      ItemsForm (b :: bs) (before ++ text ++ (after ++ [44]) ++ rest)

inductive ArrayForm : List β → Bytes → Prop
  | empty {inner : Bytes} (h : Whitespace inner) : ArrayForm [] (91 :: (inner ++ [93]))
  | items {bs : List β} {body : Bytes} (h : ItemsForm item bs body) : ArrayForm bs (91 :: body)

/-- An array alone in a text, with whitespace around it. -/
def DocumentForm (bs : List β) (text : Bytes) : Prop :=
  ∃ before array after, Whitespace before ∧ ArrayForm item bs array ∧ Whitespace after ∧
    text = before ++ array ++ after

variable {item}

theorem ItemsForm.exists_form {bs : List β} {text : Bytes} (h : ItemsForm item bs text) :
    ∀ b ∈ bs, ∃ form, item b form := by
  induction h with
  | last _ h _ => exact List.forall_mem_singleton.mpr ⟨_, h⟩
  | cons _ h _ _ ih => exact List.forall_mem_cons.mpr ⟨⟨_, h⟩, ih⟩

/-- Each item of a document has its text. -/
theorem DocumentForm.exists_form {bs : List β} {text : Bytes} (h : DocumentForm item bs text) :
    ∀ b ∈ bs, ∃ form, item b form := by
  obtain ⟨_, _, _, _, harray, _, _⟩ := h
  cases harray with
  | empty _ => exact fun b hb ↦ absurd hb List.not_mem_nil
  | items h => exact h.exists_form

end Layout

namespace JsonParser

/-! ### Whitespace -/

theorem isWhitespace_iff {c : UInt8} :
    isWhitespace c = true ↔ c = 32 ∨ c = 9 ∨ c = 10 ∨ c = 13 := by
  simp [isWhitespace, or_assoc]

theorem skipWhitespace_apply {before : Bytes} (h : Whitespace before) (rest : Bytes)
    (error : Option String) :
    skipWhitespace ⟨before ++ rest, error⟩ = skipWhitespace ⟨rest, error⟩ := by
  have hskip : ∀ c ∈ before, isWhitespace c = true := fun c hc ↦ isWhitespace_iff.mpr (h c hc)
  simp only [skipWhitespace, skipWhile, List.dropWhile_append_of_pos hskip]

theorem reads_whitespace {before : Bytes} (h : Whitespace before) :
    Reads skipWhitespace before () (StopsAt isWhitespace) :=
  Reads.skipWhile fun c hc ↦ isWhitespace_iff.mpr (h c hc)

theorem whitespace_nil : Whitespace [] := fun _ hc ↦ absurd hc List.not_mem_nil

/-- A text that begins with this byte stops a test that it fails. -/
theorem stopsAt_cons {test : UInt8 → Bool} {c : UInt8} (h : test c = false) (rest : Bytes) :
    StopsAt test (c :: rest) := by
  intro a ha
  rw [← Option.some.inj ha]
  exact h

/-! ### Delimiters -/

/-- A byte that may continue a numeral. -/
def continuesNumber (c : UInt8) : Bool := isDigit c || c == 46 || c == 101 || c == 69

/-- No numeral goes on here. -/
def Delimited (after : Bytes) : Prop := StopsAt continuesNumber after

theorem delimited_nil : Delimited [] := fun _ h ↦ absurd h (by simp)

/-- Whitespace, or the delimiter behind it. -/
theorem delimited_append {after : Bytes} (h : Whitespace after) {c : UInt8}
    (hc : continuesNumber c = false) (rest : Bytes) : Delimited (after ++ [c] ++ rest) := by
  cases after with
  | nil => exact stopsAt_cons hc rest
  | cons a after =>
    refine stopsAt_cons ?_ _
    obtain rfl | rfl | rfl | rfl := h a List.mem_cons_self <;> decide

variable {D : Type} [NumberText D]

/-- A text that stands for a value: it begins with neither whitespace nor a closing bracket, and is
read in front of a delimiter, with so many levels of nesting left behind its own. -/
structure ReadsAs (levels : ℕ) (text : Bytes) (value : JsonValue D) : Prop where
  first : ∃ c rest, text = c :: rest ∧ isWhitespace c = false ∧ c ≠ 93
  reads : Reads (parseValue (levels + 1)) text value Delimited

/-- A value reads over the whitespace in front of it. -/
theorem parseValue_whitespace {before : Bytes} (h : Whitespace before) (levels : ℕ) (rest : Bytes)
    (error : Option String) :
    (parseValue (levels + 1) : JsonParse (JsonValue D)) ⟨before ++ rest, error⟩ =
      parseValue (levels + 1) ⟨rest, error⟩ := by
  obtain ⟨c, hskip⟩ : ∃ c, skipWhitespace ⟨rest, error⟩ = (some (), c) := ⟨_, rfl⟩
  rw [parseValue, bind_apply_some hskip,
    bind_apply_some ((skipWhitespace_apply h rest error).trans hskip)]

/-- So it does not matter whether the whitespace has been skipped before. -/
theorem parseValue_skipped {c c' : TextCursor UInt8 String}
    (h : skipWhitespace c = (some (), c')) (levels : ℕ) :
    (parseValue (levels + 1) : JsonParse (JsonValue D)) c' = parseValue (levels + 1) c := by
  have hagain : skipWhitespace c' = (some (), c') := by
    rw [skipWhitespace, skipWhile, Prod.mk.injEq] at h ⊢
    rw [← h.2]
    simp only [List.dropWhile_idempotent, true_and]
  rw [parseValue, bind_apply_some hagain, bind_apply_some h]

/-! ### Items -/

theorem reads_closing {after : Bytes} (h : Whitespace after) {closing : UInt8}
    (hspace : isWhitespace closing = false) (hcomma : closing ≠ 44)
    (unterminated unexpected : String) :
    Reads (parseClosing closing unterminated unexpected) (after ++ [closing]) true Anything := by
  refine (reads_whitespace h).bind (Reads.look ?_) fun rest _ ↦ stopsAt_cons hspace rest
  rw [if_neg hcomma, if_pos rfl]
  exact (Reads.advance closing).bind_nil (Reads.pure true)

theorem reads_comma {after : Bytes} (h : Whitespace after) (closing : UInt8)
    (unterminated unexpected : String) :
    Reads (parseClosing closing unterminated unexpected) (after ++ [44]) false Anything := by
  refine (reads_whitespace h).bind (Reads.look ?_) fun rest _ ↦ stopsAt_cons rfl rest
  rw [if_pos rfl]
  exact (Reads.advance 44).bind_nil (Reads.pure false)

theorem ReadsAs.padded {levels : ℕ} {text before : Bytes} {value : JsonValue D}
    (h : ReadsAs levels text value) (hbefore : Whitespace before) :
    Reads (parseValue (levels + 1)) (before ++ text) value Delimited := by
  intro after error hafter
  rw [List.append_assoc, parseValue_whitespace hbefore]
  exact h.reads after error hafter

variable {β : Type} {item : β → Bytes → Prop} {levels : ℕ} {valueOf : β → JsonValue D}

/-- **The items of an array are read** if each of them is. -/
theorem reads_items (hitem : ∀ b text, item b text → ReadsAs levels text (valueOf b)) {bs : List β}
    {text : Bytes} (h : ItemsForm item bs text) (items : List (JsonValue D)) :
    Reads (loop (parseElement (parseValue (levels + 1))) items) text
      (.array (items ++ bs.map valueOf)) Anything := by
  have htakes := parseElement_takes (parseValue_takes (D := D) (levels + 1))
  induction h generalizing items with
  | last hbefore h hafter =>
    refine Reads.loop_end htakes (((hitem _ _ h).padded hbefore).bind
      ((reads_closing hafter (by decide) (by decide) _ _).bind_nil (Reads.pure _))
      fun rest _ ↦ delimited_append hafter (by decide) rest)
  | @cons b _ _ _ _ _ hbefore h hafter _ ih =>
    have hrest := ih (items ++ [valueOf b])
    rw [List.append_assoc] at hrest
    refine Reads.loop_cons htakes (((hitem _ _ h).padded hbefore).bind
      ((reads_comma hafter 93 _ _).bind_nil (Reads.pure _))
      fun rest _ ↦ delimited_append hafter (by decide) rest) hrest fun _ _ ↦ trivial

/-- The items begin behind some whitespace. -/
theorem trim_items (hitem : ∀ b text, item b text → ReadsAs levels text (valueOf b)) {bs : List β}
    {text : Bytes} (h : ItemsForm item bs text) :
    ∃ before c rest, Whitespace before ∧ isWhitespace c = false ∧ c ≠ 93 ∧
      text = before ++ c :: rest ∧ ItemsForm item bs (c :: rest) := by
  cases h with
  | @last b before text after hbefore h hafter =>
    obtain ⟨c, rest, rfl, hspace, hclosing⟩ := (hitem _ _ h).first
    refine ⟨before, c, rest ++ (after ++ [93]), hbefore, hspace, hclosing, ?_, ?_⟩
    · rw [List.append_assoc, List.cons_append]
    · exact ItemsForm.last whitespace_nil h hafter
  | @cons b bs before text after rest' hbefore h hafter hrest =>
    obtain ⟨c, rest, rfl, hspace, hclosing⟩ := (hitem _ _ h).first
    refine ⟨before, c, rest ++ (after ++ [44]) ++ rest', hbefore, hspace, hclosing, ?_, ?_⟩
    · simp only [List.append_assoc, List.cons_append]
    · exact ItemsForm.cons whitespace_nil h hafter hrest

/-- **An array is read in any layout.** -/
theorem reads_array (hitem : ∀ b text, item b text → ReadsAs levels text (valueOf b)) {bs : List β}
    {text : Bytes} (h : ArrayForm item bs text) :
    ReadsAs (levels + 1) text (.array (bs.map valueOf)) := by
  have hvalue {body : Bytes} (hbody : Reads (parseArray (parseValue (levels + 1))) (91 :: body)
      (.array (bs.map valueOf)) Delimited) :
      ReadsAs (levels + 1) (91 :: body) (.array (bs.map valueOf)) := by
    refine ⟨⟨91, body, rfl, by decide, by decide⟩, ?_⟩
    refine (reads_whitespace whitespace_nil).nil_bind (Reads.look ?_) fun rest _ ↦
      stopsAt_cons (by decide) _
    rw [if_neg (by decide), if_pos rfl]
    exact hbody
  cases h with
  | empty hinner =>
    refine hvalue ((Reads.advance 91).bind ((reads_whitespace hinner).bind
      ((Reads.takeIf_pos rfl).bind_nil (Reads.pure _)) fun rest _ ↦ stopsAt_cons (by decide) rest)
      fun _ _ ↦ trivial)
  | items hitems =>
    obtain ⟨before, c, rest, hbefore, hspace, hclosing, rfl, htrimmed⟩ := trim_items hitem hitems
    refine hvalue ((Reads.advance 91).bind ((reads_whitespace hbefore).bind
      (Reads.takeIf_neg.nil_bind ((reads_items hitem htrimmed []).mono fun _ _ ↦ trivial)
        fun after _ ↦ stopsAt_cons (by simpa using hclosing) _)
      fun after _ ↦ stopsAt_cons hspace _) fun _ _ ↦ trivial)

end JsonParser

/-! ### Documents -/

variable {D : Type} [Double D] [NumberText D]

omit [Double D] in
/-- A value alone in a text is parsed. -/
theorem parse_of_readsAs {before text after : Bytes} {value : JsonValue D}
    (hbefore : Whitespace before) (h : ReadsAs kMaxDepth text value) (hafter : Whitespace after) :
    JsonValue.parse (before ++ text ++ after) = .ok value := by
  have hvalue := h.padded hbefore after none (by
    cases after with
    | nil => exact delimited_nil
    | cons a after =>
      refine stopsAt_cons ?_ _
      obtain rfl | rfl | rfl | rfl := hafter a List.mem_cons_self <;> decide)
  have hend : skipWhitespace ⟨after, none⟩ = (some (), ⟨[], none⟩) := by
    have hskip := reads_whitespace hafter [] none fun _ ha ↦ absurd ha (by simp)
    rwa [List.append_nil] at hskip
  obtain ⟨c, hskip⟩ : ∃ c, skipWhitespace ⟨before ++ text ++ after, none⟩ = (some (), c) := ⟨_, rfl⟩
  have hdocument : (document : JsonParse (JsonValue D)) { rest := before ++ text ++ after } =
      (some value, ⟨[], none⟩) := by
    rw [document, bind_apply_some hskip,
      bind_apply_some ((parseValue_skipped hskip kMaxDepth).trans hvalue), bind_apply_some hend]
    rfl
  rw [JsonValue.parse, hdocument]
  rfl

/-- **An array of arguments is decoded in any layout.** -/
theorem decode_of_documentForm {β : Type} {item : β → Bytes → Prop} (valueOf : β → JsonValue D)
    (hitem : ∀ b text, item b text → ReadsAs 63 text (valueOf b)) {bs : List β} {text : Bytes}
    (h : DocumentForm item bs text) :
    decodeJsonStringArray D text = some (bs.map fun b ↦ (valueOf b).argumentText) := by
  obtain ⟨before, array, after, hbefore, harray, hafter, rfl⟩ := h
  have hparse := parse_of_readsAs hbefore (reads_array hitem harray) hafter
  rw [decodeJsonStringArray, hparse]
  simp

end StylyNetSync
