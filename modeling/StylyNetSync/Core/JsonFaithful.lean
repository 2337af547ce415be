import StylyNetSync.Core.JsonNumbers

/-!
# Values survive their compact form

A value whose numbers are integers of up to fifteen digits is parsed back from its compact form
(`parse_dump`), as long as its containers are nested no deeper than the parser goes. The argument
follows the value: the compact form of each part is read wherever the parser expects a value. An
object is a map, so its members are written in the order of their keys, and the parser puts them
back in this order.
-/

namespace StylyNetSync

open TextParser JsonParser

namespace JsonValue

/-- The members of a map: no key twice, and in the order of the keys. -/
def KeysAscend {D : Type} (members : List (Bytes × JsonValue D)) : Prop :=
  members.Pairwise fun a b ↦ compare a.1 b.1 = .lt

/-- A value with at most so many containers inside one another, and with integers below `10 ^ 15` in
magnitude for numbers. -/
inductive Plain {D : Type} [Double D] : ℕ → JsonValue D → Prop
  | null {levels : ℕ} : Plain levels null
  | bool {levels : ℕ} (value : Bool) : Plain levels (bool value)
  | integer {levels : ℕ} {n : ℤ} (h : |n| < 10 ^ 15) : Plain levels (number (Double.lit n))
  | string {levels : ℕ} (value : Bytes) : Plain levels (string value)
  | array {levels : ℕ} {items : List (JsonValue D)} (h : ∀ item ∈ items, Plain levels item) :
      Plain (levels + 1) (array items)
  | object {levels : ℕ} {members : List (Bytes × JsonValue D)} (hkeys : KeysAscend members)
      (h : ∀ member ∈ members, Plain levels member.2) : Plain (levels + 1) (object members)

end JsonValue

namespace JsonParser

variable {D : Type}

/-! ### Words and strings -/

theorem reads_parseLiteral (word : String) (value : JsonValue D) :
    Reads (parseLiteral word value) (ascii word) value Delimited := by
  intro after error _
  have hword : literal (ascii word) ⟨ascii word ++ after, error⟩ =
      (some true, (⟨after, error⟩ : TextCursor UInt8 String)) := by
    rw [literal, if_pos (List.isPrefixOf_iff_prefix.mpr (List.prefix_append _ _)),
      List.drop_left]
  rw [parseLiteral, bind_apply_some hword]
  rfl

variable [NumberText D]

theorem readsAs_null (levels : ℕ) : ReadsAs levels (ascii "null") (.null : JsonValue D) := by
  refine ⟨⟨110, _, rfl, by decide, by decide⟩, ?_⟩
  refine (reads_whitespace whitespace_nil).nil_bind (Reads.look ?_) fun rest _ ↦
    stopsAt_cons (by decide) _
  exact reads_parseLiteral "null" .null

theorem readsAs_bool (levels : ℕ) (value : Bool) :
    ReadsAs levels (ascii (if value then "true" else "false")) (.bool value : JsonValue D) := by
  cases value with
  | true =>
    refine ⟨⟨116, _, rfl, by decide, by decide⟩, ?_⟩
    refine (reads_whitespace whitespace_nil).nil_bind (Reads.look ?_) fun rest _ ↦
      stopsAt_cons (by decide) _
    exact reads_parseLiteral "true" (.bool true)
  | false =>
    refine ⟨⟨102, _, rfl, by decide, by decide⟩, ?_⟩
    refine (reads_whitespace whitespace_nil).nil_bind (Reads.look ?_) fun rest _ ↦
      stopsAt_cons (by decide) _
    exact reads_parseLiteral "false" (.bool false)

theorem readsAs_encodeJsonString (levels : ℕ) (value : Bytes) :
    ReadsAs levels (encodeJsonString value) (.string value : JsonValue D) :=
  ⟨⟨34, _, rfl, by decide, by decide⟩, (complete_string levels value).toReads Delimited⟩

/-! ### Arrays -/

section Layout

variable {β : Type} {item : β → Bytes → Prop} (textOf : β → Bytes)

/-- Items with commas between them and nothing else. -/
theorem itemsForm_intercalate (b : β) (bs : List β) (h : ∀ b' ∈ b :: bs, item b' (textOf b')) :
    ItemsForm item (b :: bs) ([(44 : UInt8)].intercalate ((b :: bs).map textOf) ++ [93]) := by
  rw [List.forall_mem_cons] at h
  induction bs generalizing b with
  | nil =>
    rw [List.map_singleton, List.intercalate_singleton]
    exact ItemsForm.last whitespace_nil h.1 whitespace_nil
  | cons next bs ih =>
    have hrest := ih next (List.forall_mem_cons.mp h.2)
    have hall := ItemsForm.cons whitespace_nil h.1 whitespace_nil hrest
    simpa [List.intercalate_cons_cons] using hall

theorem arrayForm_intercalate (bs : List β) (h : ∀ b ∈ bs, item b (textOf b)) :
    ArrayForm item bs (91 :: ([(44 : UInt8)].intercalate (bs.map textOf) ++ [93])) := by
  cases bs with
  | nil => exact ArrayForm.empty whitespace_nil
  | cons b bs => exact ArrayForm.items (itemsForm_intercalate textOf b bs h)

end Layout

/-! ### Objects -/

omit [NumberText D] in
/-- A key behind all others goes to the end. -/
theorem insertMember_of_lt {key : Bytes} {value : JsonValue D}
    {members : List (Bytes × JsonValue D)} (h : ∀ member ∈ members, compare member.1 key = .lt) :
    insertMember key value members = members ++ [(key, value)] := by
  induction members with
  | nil => rfl
  | cons member members ih =>
    rw [List.forall_mem_cons] at h
    have hgt : compare key member.1 = .gt := Std.OrientedCmp.gt_of_lt h.1
    rw [insertMember, hgt, ih h.2]
    rfl

/-- A member of an object and what follows it. -/
theorem reads_member {levels : ℕ} {text closing : Bytes} {value : JsonValue D} (closed : Bool)
    (key : Bytes) (members : List (Bytes × JsonValue D)) (h : ReadsAs levels text value)
    (hclosing : ∀ unterminated unexpected,
      Reads (parseClosing 125 unterminated unexpected) closing closed Anything)
    (hdelimited : ∀ after, Delimited (closing ++ after)) :
    Reads (parseMember (parseValue (levels + 1)) members)
      (encodeJsonString key ++ ([58] ++ (text ++ closing)))
      (if closed then .inr (.object (insertMember key value members))
        else .inl (insertMember key value members)) Anything := by
  have hspace : Reads skipWhitespace [] () (StopsAt isWhitespace) :=
    reads_whitespace whitespace_nil
  have hkey : Reads parseString (encodeJsonString key) key Anything :=
    (complete_parseString key).toReads Anything
  have hcolon : Reads (satisfy (· == 58) "expected ':' in object" : JsonParse UInt8) [58] 58
      Anything := Reads.satisfy _ rfl
  refine hspace.nil_bind (hkey.bind (hspace.nil_bind (hcolon.bind (h.reads.bind ?_ ?_)
    fun _ _ ↦ trivial) fun after _ ↦ stopsAt_cons (by decide) _) fun _ _ ↦ trivial)
    fun after _ ↦ stopsAt_cons (by decide) _
  · exact (hclosing _ _).bind_nil (Reads.pure _)
  · exact fun after _ ↦ hdelimited after

variable [Double D]

/-- The members of an object up to its closing brace. The keys to come are behind those seen. -/
theorem reads_members {levels : ℕ} (member : Bytes × JsonValue D)
    (members seen : List (Bytes × JsonValue D))
    (h : ∀ m ∈ member :: members, ReadsAs levels (JsonValue.dump m.2) m.2)
    (hkeys : JsonValue.KeysAscend (seen ++ member :: members)) :
    Reads (loop (parseMember (parseValue (levels + 1))) seen)
      ([(44 : UInt8)].intercalate (JsonValue.dumpMembers (member :: members)) ++ [125])
      (.object (seen ++ member :: members)) Anything := by
  have htakes := parseMember_takes (parseValue_takes (D := D) (levels + 1))
  induction members generalizing member seen with
  | nil =>
    obtain ⟨key, value⟩ := member
    have hlast : insertMember key value seen = seen ++ [(key, value)] :=
      insertMember_of_lt fun m hm ↦ (List.pairwise_append.mp hkeys).2.2 m hm _ List.mem_cons_self
    have hround := reads_member true key seen (h _ List.mem_cons_self)
      (fun _ _ ↦ reads_closing whitespace_nil (by decide) (by decide) _ _)
      fun after ↦ stopsAt_cons (by decide) after
    rw [if_pos rfl, hlast] at hround
    have hloop := Reads.loop_end htakes hround
    simpa [JsonValue.dumpMembers] using hloop
  | cons next members ih =>
    obtain ⟨key, value⟩ := member
    have hlast : insertMember key value seen = seen ++ [(key, value)] :=
      insertMember_of_lt fun m hm ↦ (List.pairwise_append.mp hkeys).2.2 m hm _ List.mem_cons_self
    have hround := reads_member false key seen (h _ List.mem_cons_self)
      (fun _ _ ↦ reads_comma whitespace_nil 125 _ _) fun after ↦ stopsAt_cons (by decide) after
    rw [if_neg Bool.false_ne_true, hlast] at hround
    have hrest := ih next (seen ++ [(key, value)]) (List.forall_mem_cons.mp h).2
      (by rwa [List.append_assoc])
    rw [List.append_assoc] at hrest
    have hloop := Reads.loop_cons htakes hround hrest fun _ _ ↦ trivial
    simpa [JsonValue.dumpMembers, List.intercalate_cons_cons] using hloop

/-- **An object is read in its compact form.** -/
theorem readsAs_object {levels : ℕ} {members : List (Bytes × JsonValue D)}
    (h : ∀ m ∈ members, ReadsAs levels (JsonValue.dump m.2) m.2)
    (hkeys : JsonValue.KeysAscend members) :
    ReadsAs (levels + 1) (JsonValue.dump (.object members)) (.object members) := by
  have hspace : Reads skipWhitespace [] () (StopsAt isWhitespace) :=
    reads_whitespace whitespace_nil
  have hvalue {body : Bytes} (hbody : Reads (parseObject (parseValue (levels + 1))) (123 :: body)
      (.object members) Delimited) : ReadsAs (levels + 1) (123 :: body) (.object members) := by
    refine ⟨⟨123, body, rfl, by decide, by decide⟩, ?_⟩
    refine hspace.nil_bind (Reads.look ?_) fun rest _ ↦ stopsAt_cons (by decide) _
    rw [if_pos rfl]
    exact hbody
  cases members with
  | nil =>
    refine hvalue ((Reads.advance 123).bind (hspace.nil_bind ((Reads.takeIf_pos rfl).bind_nil
      (Reads.pure _)) fun _ _ ↦ stopsAt_cons (by decide) _) fun _ _ ↦ trivial)
  | cons member members =>
    obtain ⟨tail, hfirst⟩ : ∃ tail, ([(44 : UInt8)].intercalate
        (JsonValue.dumpMembers (member :: members)) ++ [125]) = 34 :: tail := by
      cases members with
      | nil => exact ⟨_, rfl⟩
      | cons next members => exact ⟨_, rfl⟩
    have hmembers := reads_members member members [] h hkeys
    rw [hfirst] at hmembers
    rw [JsonValue.dump, hfirst]
    exact hvalue ((Reads.advance 123).bind (hspace.nil_bind (Reads.takeIf_neg.nil_bind
      (hmembers.mono fun _ _ ↦ trivial) fun _ _ ↦ stopsAt_cons (by decide) _)
      fun _ _ ↦ stopsAt_cons (by decide) _) fun _ _ ↦ trivial)

theorem dumpItems_eq_map (items : List (JsonValue D)) :
    JsonValue.dumpItems items = items.map JsonValue.dump := by
  induction items with
  | nil => rfl
  | cons item items ih => rw [JsonValue.dumpItems, ih, List.map_cons]

/-- **An array is read in its compact form.** -/
theorem readsAs_compactArray {levels : ℕ} {items : List (JsonValue D)}
    (h : ∀ item ∈ items, ReadsAs levels (JsonValue.dump item) item) :
    ReadsAs (levels + 1) (JsonValue.dump (.array items)) (.array items) := by
  have hform : ArrayForm (fun item text ↦ ReadsAs levels text item) items
      (JsonValue.dump (.array items)) := by
    rw [JsonValue.dump, dumpItems_eq_map]
    exact arrayForm_intercalate JsonValue.dump items h
  have harray : ReadsAs (levels + 1) (JsonValue.dump (.array items)) (.array (items.map id)) :=
    reads_array (fun _ _ hitem ↦ hitem) hform
  rwa [List.map_id] at harray

end JsonParser

open JsonValue in
/-- **The compact form of a value is read as the value.** -/
theorem readsAs_dump {D : Type} [Double D] [NumberText D] [NumberLaws D] {levels : ℕ}
    {value : JsonValue D} (h : Plain levels value) : ReadsAs levels value.dump value := by
  induction h with
  | null => exact readsAs_null _
  | bool value => exact readsAs_bool _ value
  | @integer levels n hn =>
    have hread := readsAs_toString (D := D) n levels
    rw [NumberLaws.strtod_toString hn] at hread
    rwa [dump, formatNumber_lit hn]
  | string value => exact readsAs_encodeJsonString _ value
  | array _ ih => exact readsAs_compactArray ih
  | object hkeys _ ih => exact readsAs_object ih hkeys

/-- **Compact JSON is faithful.** Containers may be nested as deep as the parser goes. -/
theorem parse_dump (D : Type) [Double D] [NumberText D] [NumberLaws D] (value : JsonValue D)
    (h : JsonValue.Plain 64 value) : JsonValue.parse value.dump = .ok value := by
  have hparse := parse_of_readsAs whitespace_nil (readsAs_dump h) whitespace_nil
  rwa [List.nil_append, List.append_nil] at hparse

/-- The value `{"":[-3,{}],"a":null}`. -/
def nestedValue : JsonValue ℚ :=
  .object [([], .array [.number (Double.lit (-3 : ℤ)), .object []]), ([97], .null)]

theorem parse_dump_nested : JsonValue.parse nestedValue.dump = .ok nestedValue := by
  refine parse_dump ℚ nestedValue (.object ?_ ?_)
  · exact List.pairwise_pair.mpr (by decide)
  · refine List.forall_mem_cons.mpr ⟨.array ?_, List.forall_mem_singleton.mpr .null⟩
    refine List.forall_mem_cons.mpr ⟨.integer (by norm_num), List.forall_mem_singleton.mpr ?_⟩
    exact .object .nil (List.forall_mem_nil _)

end StylyNetSync
