import Mathlib.Data.List.DropRight
import Mathlib.Data.List.TakeDrop
import StylyNetSync.Core.JsonUtil

/-!
# The id of a device

`device_id.cpp`: an installation makes up a random UUID at its first launch and keeps it in a file.
The server keys its rooms on the id, so it has to be the same at every launch. The file system may
refuse to open the file, hand out less of it than there is, and store less than it was given; a
launch goes on with whatever comes of it.

An id lasts from a launch that leaves it in the file, and for as long as the launches can read the
file: then none of them writes (`device_identity`). A launch that cannot read the file makes up a
new id, and if it can write, the old one is lost for good.
-/

namespace StylyNetSync

/-! ### Making up an id -/

/-- A random byte, with the version in the sixth and the variant in the eighth. -/
def uuidByte (draw : Fin 16 → UInt8) (i : Fin 16) : UInt8 :=
  if i = 6 then (draw i &&& 0x0F) ||| 0x40
  else if i = 8 then (draw i &&& 0x3F) ||| 0x80
  else draw i

/-- The digits of a byte, behind a hyphen where a group begins. -/
def uuidDigits (draw : Fin 16 → UInt8) (i : Fin 16) : Bytes :=
  (if i = 4 ∨ i = 6 ∨ i = 8 ∨ i = 10 then ([45] : Bytes) else []) ++
    [hexDigit (uuidByte draw i >>> 4), hexDigit (uuidByte draw i &&& 0x0F)]

/-- A random UUID of version 4 in lowercase hyphenated form. -/
def generateUuidV4 (draw : Fin 16 → UInt8) : Bytes := (List.finRange 16).flatMap (uuidDigits draw)

/-! ### The file -/

/-- What `trim` removes. -/
def isBlank (c : UInt8) : Bool := c == 32 || c == 9 || c == 13 || c == 10 || c == 0

def trim (value : Bytes) : Bytes := (value.dropWhile isBlank).rdropWhile isBlank

/-- How much of the file is read at most: the buffer keeps a place for the terminator. -/
def kDeviceIdRead : ℕ := 511

/-- A launch of the application: how many bytes of the file a read yields and how many a write
reports and stores, if the file can be opened for it; and the random bytes. -/
structure Launch where
  read : Option ℕ
  write : Option (ℕ × ℕ)
  draw : Fin 16 → UInt8

/-- The id in the file; nothing if there is no file or it cannot be opened. -/
def readDeviceId (read : Option ℕ) (file : Option Bytes) : Bytes :=
  match file, read with
  | some content, some count => trim (content.take (min count kDeviceIdRead))
  | _, _ => []

/-- Store an id. Opening the file for it empties it. -/
def writeDeviceId (write : Option (ℕ × ℕ)) (deviceId : Bytes) (file : Option Bytes) :
    Bool × Option Bytes :=
  match write with
  | none => (false, file)
  | some (written, stored) =>
    (min written deviceId.length = deviceId.length, some (deviceId.take stored))

/-- The id of a launch, and the file after it. What becomes of the write is not asked. -/
def loadOrCreateDeviceId (file : Option Bytes) (launch : Launch) : Bytes × Option Bytes :=
  let existing := readDeviceId launch.read file
  if existing ≠ [] then (existing, file)
  else
    let generated := generateUuidV4 launch.draw
    (generated, (writeDeviceId launch.write generated file).2)

/-! ### Bytes and blanks -/

theorem forall_uInt8 {P : UInt8 → Prop} (h : ∀ n < 256, P (UInt8.ofNat n)) (byte : UInt8) :
    P byte := by
  rw [← UInt8.ofNat_toNat (x := byte)]
  exact h _ byte.toNat_lt

theorem isBlank_hexDigits (byte : UInt8) :
    isBlank (hexDigit (byte >>> 4)) = false ∧ isBlank (hexDigit (byte &&& 0x0F)) = false :=
  forall_uInt8 (P := fun byte ↦ isBlank (hexDigit (byte >>> 4)) = false ∧
    isBlank (hexDigit (byte &&& 0x0F)) = false) (by decide +kernel) byte

/-- The byte that two digits spell. -/
def spelled (high low : UInt8) : UInt8 :=
  (if high < 58 then high - 48 else high - 87) * 16 + (if low < 58 then low - 48 else low - 87)

theorem spelled_hexDigits (byte : UInt8) :
    spelled (hexDigit (byte >>> 4)) (hexDigit (byte &&& 0x0F)) = byte :=
  forall_uInt8 (P := fun byte ↦ spelled (hexDigit (byte >>> 4)) (hexDigit (byte &&& 0x0F)) = byte)
    (by decide +kernel) byte

/-- Nothing is trimmed off a text without blanks. -/
theorem trim_of_no_blank {value : Bytes} (h : ∀ c ∈ value, isBlank c = false) :
    trim value = value := by
  have hfront : value.dropWhile isBlank = value := by
    rcases value with - | ⟨c, rest⟩
    · rfl
    · exact List.dropWhile_cons_of_neg (by simp [h c List.mem_cons_self])
  rw [trim, hfront, List.rdropWhile_eq_self_iff]
  intro hne
  simp [h _ (List.getLast_mem hne)]

theorem trim_trim (value : Bytes) : trim (trim value) = trim value := by
  have hfront : (trim value).dropWhile isBlank = trim value := by
    rw [List.dropWhile_eq_self_iff]
    intro hlength
    -- the first byte is the one the front was trimmed to
    have hstart : trim value <+: value.dropWhile isBlank := List.rdropWhile_prefix _ _
    have hfixed := List.dropWhile_eq_self_iff.mp (List.dropWhile_idempotent isBlank value)
      (hlength.trans_le hstart.length_le)
    rwa [hstart.getElem hlength]
  rw [trim, hfront]
  exact List.rdropWhile_idempotent _ _

theorem length_trim_le (value : Bytes) : (trim value).length ≤ value.length :=
  ((List.rdropWhile_prefix _ _).length_le).trans (List.dropWhile_suffix _).length_le

/-! ### The UUID -/

theorem no_blank_generateUuidV4 (draw : Fin 16 → UInt8) :
    ∀ c ∈ generateUuidV4 draw, isBlank c = false := by
  intro c hc
  obtain ⟨i, -, hdigits⟩ := List.mem_flatMap.mp hc
  rw [uuidDigits, List.mem_append] at hdigits
  rcases hdigits with hhyphen | hdigit
  · split at hhyphen
    · obtain rfl := List.mem_singleton.mp hhyphen
      rfl
    · simp at hhyphen
  · rcases List.mem_pair.mp hdigit with rfl | rfl
    · exact (isBlank_hexDigits _).1
    · exact (isBlank_hexDigits _).2

theorem length_generateUuidV4 (draw : Fin 16 → UInt8) : (generateUuidV4 draw).length = 36 := rfl

/-- The digits that tell the version and the variant. -/
theorem version_generateUuidV4 (draw : Fin 16 → UInt8) :
    (generateUuidV4 draw)[14]? = some 52 ∧
      ∃ c ∈ [(56 : UInt8), 57, 97, 98], (generateUuidV4 draw)[19]? = some c := by
  have hversion (byte : UInt8) : hexDigit (((byte &&& 0x0F) ||| 0x40) >>> 4) = 52 :=
    forall_uInt8 (P := fun byte ↦ hexDigit (((byte &&& 0x0F) ||| 0x40) >>> 4) = 52)
      (by decide +kernel) byte
  have hvariant (byte : UInt8) :
      hexDigit (((byte &&& 0x3F) ||| 0x80) >>> 4) ∈ [(56 : UInt8), 57, 97, 98] :=
    forall_uInt8
      (P := fun byte ↦ hexDigit (((byte &&& 0x3F) ||| 0x80) >>> 4) ∈ [(56 : UInt8), 57, 97, 98])
      (by decide +kernel) byte
  exact ⟨congrArg some (hversion (draw 6)), _, hvariant (draw 8), rfl⟩

theorem generateUuidV4_ne_nil (draw : Fin 16 → UInt8) : generateUuidV4 draw ≠ [] :=
  List.ne_nil_of_length_pos (by rw [length_generateUuidV4]; decide)

theorem trim_generateUuidV4 (draw : Fin 16 → UInt8) :
    trim (generateUuidV4 draw) = generateUuidV4 draw :=
  trim_of_no_blank (no_blank_generateUuidV4 draw)

/-- Texts put together of parts of the same lengths are the same if the parts are. -/
theorem flatMap_inj {α : Type} {f g : α → Bytes} (hlength : ∀ a, (f a).length = (g a).length)
    (items : List α) (h : items.flatMap f = items.flatMap g) : ∀ a ∈ items, f a = g a := by
  induction items with
  | nil => simp
  | cons a rest ih =>
    rw [List.flatMap_cons, List.flatMap_cons] at h
    obtain ⟨hhead, htail⟩ := List.append_inj h (hlength a)
    intro b hb
    rcases List.mem_cons.mp hb with rfl | hrest
    · exact hhead
    · exact ih htail b hrest

/-- **Two UUIDs differ** unless the random bytes agree, the six fixed bits apart. -/
theorem generateUuidV4_inj {draw draw' : Fin 16 → UInt8} :
    generateUuidV4 draw = generateUuidV4 draw' ↔ uuidByte draw = uuidByte draw' := by
  constructor
  · intro h
    have hlength (i : Fin 16) : (uuidDigits draw i).length = (uuidDigits draw' i).length := by
      rw [uuidDigits, uuidDigits, List.length_append, List.length_append]
      rfl
    funext i
    have hdigits := flatMap_inj hlength _ h i (List.mem_finRange i)
    obtain ⟨hhigh, hlow⟩ := List.cons_eq_cons.mp (List.append_cancel_left hdigits)
    rw [← spelled_hexDigits (uuidByte draw i), ← spelled_hexDigits (uuidByte draw' i), hhigh,
      (List.cons_eq_cons.mp hlow).1]
  · intro h
    have hdigits : uuidDigits draw = uuidDigits draw' := by
      funext i
      rw [uuidDigits, uuidDigits, h]
    rw [generateUuidV4, generateUuidV4, hdigits]

/-! ### Launches -/

/-- A launch and the file it finds. -/
structure Visit where
  before : Option Bytes
  launch : Launch

namespace Visit

def id (v : Visit) : Bytes := (loadOrCreateDeviceId v.before v.launch).1

def after (v : Visit) : Option Bytes := (loadOrCreateDeviceId v.before v.launch).2

/-- What the launch reads. -/
def found (v : Visit) : Bytes := readDeviceId v.launch.read v.before

/-- The id the launch makes up if it reads none. -/
def generated (v : Visit) : Bytes := generateUuidV4 v.launch.draw

end Visit

/-- The launches of an installation, from a file on. -/
def visits : Option Bytes → List Launch → List Visit
  | _, [] => []
  | file, launch :: rest => ⟨file, launch⟩ :: visits (Visit.after ⟨file, launch⟩) rest

/-- The id that a file holds for whoever can read it. -/
def kept (file : Option Bytes) : Bytes :=
  file.elim [] fun content ↦ trim (content.take kDeviceIdRead)

namespace Visit

/-- If there is a file, the launch gets as much of it as the buffer takes. -/
def ReadsWhole (v : Visit) : Prop :=
  ∀ content, v.before = some content →
    ∃ count, v.launch.read = some count ∧ min content.length kDeviceIdRead ≤ count

/-- The launch can store a UUID. -/
def StoresWhole (v : Visit) : Prop :=
  ∃ written stored, v.launch.write = some (written, stored) ∧ 36 ≤ stored

/-- The launch leaves its id in the file. -/
def Keeps (v : Visit) : Prop := kept v.after = v.id

theorem id_of_found {v : Visit} (h : v.found ≠ []) : v.id = v.found ∧ v.after = v.before := by
  have hfound : readDeviceId v.launch.read v.before ≠ [] := h
  rw [id, after, loadOrCreateDeviceId, if_pos hfound]
  exact ⟨rfl, rfl⟩

theorem id_of_not_found {v : Visit} (h : v.found = []) :
    v.id = v.generated ∧ v.after = (writeDeviceId v.launch.write v.generated v.before).2 := by
  have hfound : ¬readDeviceId v.launch.read v.before ≠ [] := not_not.mpr h
  rw [id, after, loadOrCreateDeviceId, if_neg hfound]
  exact ⟨rfl, rfl⟩

theorem found_of_readsWhole {v : Visit} (h : v.ReadsWhole) : v.found = kept v.before := by
  rw [found]
  rcases hbefore : v.before with - | content
  · rfl
  · obtain ⟨count, hread, hcount⟩ := h content hbefore
    rw [hread]
    change trim (content.take (min count kDeviceIdRead)) = trim (content.take kDeviceIdRead)
    congr 1
    rw [List.take_eq_take_iff]
    omega

theorem trim_found (v : Visit) : trim v.found = v.found := by
  unfold found readDeviceId
  split
  · exact trim_trim _
  · rfl

theorem length_found_le (v : Visit) : v.found.length ≤ kDeviceIdRead := by
  unfold found readDeviceId
  split
  · refine (length_trim_le _).trans ?_
    rw [List.length_take]
    omega
  · exact Nat.zero_le _

theorem id_ne_nil (v : Visit) : v.id ≠ [] := by
  by_cases h : v.found = []
  · rw [(id_of_not_found h).1]
    exact generateUuidV4_ne_nil _
  · rwa [(id_of_found h).1]

theorem trim_id (v : Visit) : trim v.id = v.id := by
  by_cases h : v.found = []
  · rw [(id_of_not_found h).1]
    exact trim_generateUuidV4 _
  · rw [(id_of_found h).1]
    exact trim_found v

theorem length_id_le (v : Visit) : v.id.length ≤ kDeviceIdRead := by
  by_cases h : v.found = []
  · rw [(id_of_not_found h).1, generated, length_generateUuidV4]
    decide
  · rw [(id_of_found h).1]
    exact length_found_le v

/-- What a stored UUID is worth to a reader. -/
theorem kept_stored (draw : Fin 16 → UInt8) (stored : ℕ) :
    kept (some ((generateUuidV4 draw).take stored)) = (generateUuidV4 draw).take stored := by
  have hshort : ((generateUuidV4 draw).take stored).length ≤ kDeviceIdRead := by
    refine (List.length_take_le' _ _).trans ?_
    rw [length_generateUuidV4]
    decide
  change trim (((generateUuidV4 draw).take stored).take kDeviceIdRead) = _
  rw [List.take_of_length_le hshort]
  exact trim_of_no_blank fun c hc ↦ no_blank_generateUuidV4 draw c (List.mem_of_mem_take hc)

/-- A launch that reads no id keeps the one it makes up if it can store it; and only then, unless
the file that it could not read holds the same. -/
theorem keeps_of_not_found {v : Visit} (h : v.found = []) :
    v.Keeps ↔ v.StoresWhole ∨ v.launch.write = none ∧ kept v.before = v.generated := by
  obtain ⟨hid, hafter⟩ := id_of_not_found h
  rw [Keeps, hid, hafter, StoresWhole]
  rcases hwrite : v.launch.write with - | ⟨written, stored⟩
  · simp [writeDeviceId]
  · have hkept : kept (writeDeviceId (some (written, stored)) v.generated v.before).2 =
        v.generated.take stored := kept_stored v.launch.draw stored
    have hlength : v.generated.length = 36 := length_generateUuidV4 _
    rw [hkept, List.take_eq_self_iff, hlength]
    simp

theorem keeps_iff {v : Visit} (h : v.ReadsWhole) :
    v.Keeps ↔ kept v.before ≠ [] ∨ v.StoresWhole := by
  have hfound := found_of_readsWhole h
  by_cases hkept : kept v.before = []
  · rw [keeps_of_not_found (hfound.trans hkept), hkept]
    have hne := (generateUuidV4_ne_nil v.launch.draw).symm
    simp only [generated, hne, and_false, or_false, ne_eq, not_true_eq_false, false_or]
  · obtain ⟨hid, hafter⟩ := id_of_found (hfound.trans_ne hkept)
    rw [Keeps, hid, hafter, hfound]
    simp [hkept]

end Visit

/-- What a launch leaves is what the next one finds. -/
theorem visits_split {file : Option Bytes} {launches : List Launch} {early late : List Visit}
    {a : Visit} (h : visits file launches = early ++ a :: late) :
    ∃ rest, late = visits a.after rest := by
  induction launches generalizing file early with
  | nil => simp [visits] at h
  | cons launch launches ih =>
    rw [visits] at h
    rcases early with - | ⟨first, early⟩
    · obtain ⟨rfl, htail⟩ := List.cons_eq_cons.mp h
      exact ⟨launches, htail.symm⟩
    · exact ih (List.cons_eq_cons.mp h).2

/-- Nobody writes as long as the id is read. -/
theorem id_stays {file : Option Bytes} {launches : List Launch} {mid late : List Visit}
    {c : Visit} (h : visits file launches = mid ++ c :: late) (hkept : kept file ≠ [])
    (hwhole : ∀ v ∈ mid ++ [c], v.ReadsWhole) : c.id = kept file := by
  induction launches generalizing file mid with
  | nil => simp [visits] at h
  | cons launch launches ih =>
    rw [visits] at h
    rcases mid with - | ⟨first, mid⟩
    · obtain ⟨rfl, -⟩ := List.cons_eq_cons.mp h
      have hfound := Visit.found_of_readsWhole (hwhole _ List.mem_cons_self)
      rw [(Visit.id_of_found (hfound.trans_ne hkept)).1, hfound]
    · obtain ⟨rfl, htail⟩ := List.cons_eq_cons.mp h
      have hfound := Visit.found_of_readsWhole (hwhole _ List.mem_cons_self)
      rw [(Visit.id_of_found (hfound.trans_ne hkept)).2] at htail
      exact ih htail hkept fun v hv ↦ hwhole v (List.mem_cons_of_mem _ hv)

/-- What an installation can expect of its id, over all its launches. -/
structure DeviceIdentity (launched : List Visit) : Prop where
  /-- Every launch has an id, without blanks around it. -/
  identified : ∀ v ∈ launched,
    v.id ≠ [] ∧ v.id.length ≤ kDeviceIdRead ∧ trim v.id = v.id
  /-- An id that a launch left in the file lasts as long as the file can be read, whatever becomes
  of the writes. -/
  lasts : ∀ early a mid c late, launched = early ++ a :: (mid ++ c :: late) → a.Keeps →
    (∀ v ∈ mid ++ [c], v.ReadsWhole) → c.id = a.id
  /-- One that was not left there lasts by chance only. -/
  lost : ∀ early a b late, launched = early ++ a :: b :: late → b.ReadsWhole →
    (b.id = a.id ↔ a.Keeps ∨ kept a.after = [] ∧ b.generated = a.id)
  /-- A launch that can read the file leaves its id there if it found it there or can store it. -/
  keeps : ∀ v ∈ launched, v.ReadsWhole → (v.Keeps ↔ kept v.before ≠ [] ∨ v.StoresWhole)
  /-- A launch that finds no id makes one up, in place of one that it could not read if it can
  store it. -/
  madeUp : ∀ v ∈ launched, v.found = [] →
    v.id = v.generated ∧
      (v.Keeps ↔ v.StoresWhole ∨ v.launch.write = none ∧ kept v.before = v.generated)
  /-- What a launch makes up has the length, the version and the variant of a random UUID. -/
  uuid : ∀ v ∈ launched, v.generated.length = 36 ∧ v.generated[14]? = some 52 ∧
    ∃ c ∈ [(56 : UInt8), 57, 97, 98], v.generated[19]? = some c
  /-- Ids that were made up differ unless the random bytes agree but for the six fixed bits. -/
  distinct : ∀ v ∈ launched, ∀ w ∈ launched,
    (v.generated = w.generated ↔ uuidByte v.launch.draw = uuidByte w.launch.draw)

theorem id_lasts {file : Option Bytes} {launches : List Launch} {early mid late : List Visit}
    {a c : Visit} (h : visits file launches = early ++ a :: (mid ++ c :: late)) (hkeeps : a.Keeps)
    (hwhole : ∀ v ∈ mid ++ [c], v.ReadsWhole) : c.id = a.id := by
  obtain ⟨rest, hrest⟩ := visits_split h
  have hkept : kept a.after ≠ [] := by
    rw [hkeeps]
    exact a.id_ne_nil
  rw [id_stays hrest.symm hkept hwhole, hkeeps]

theorem id_next {file : Option Bytes} {launches : List Launch} {early late : List Visit}
    {a b : Visit} (h : visits file launches = early ++ a :: b :: late) (hwhole : b.ReadsWhole) :
    b.id = a.id ↔ a.Keeps ∨ kept a.after = [] ∧ b.generated = a.id := by
  obtain ⟨rest, hrest⟩ := visits_split h
  have hfound : b.found = kept a.after := by
    rw [Visit.found_of_readsWhole hwhole]
    rcases rest with - | ⟨launch, rest⟩
    · simp [visits] at hrest
    · rw [(List.cons_eq_cons.mp hrest).1]
  rw [Visit.Keeps, ← hfound]
  by_cases hnil : b.found = []
  · rw [(Visit.id_of_not_found hnil).1, hnil]
    simp [a.id_ne_nil.symm]
  · rw [(Visit.id_of_found hnil).1]
    simp [hnil]

/-- **The identity of a device**, over all launches of an installation. -/
theorem device_identity (file : Option Bytes) (launches : List Launch) :
    DeviceIdentity (visits file launches) where
  identified v _ := ⟨v.id_ne_nil, v.length_id_le, v.trim_id⟩
  lasts _ _ _ _ _ h hkeeps hwhole := id_lasts h hkeeps hwhole
  lost _ _ _ _ h hwhole := id_next h hwhole
  keeps _ _ hwhole := Visit.keeps_iff hwhole
  madeUp _ _ hnone := ⟨(Visit.id_of_not_found hnone).1, Visit.keeps_of_not_found hnone⟩
  uuid _ _ := ⟨length_generateUuidV4 _, version_generateUuidV4 _⟩
  distinct _ _ _ _ := generateUuidV4_inj

def launchWith (read : Option ℕ) (write : Option (ℕ × ℕ)) (byte : UInt8) : Launch :=
  ⟨read, write, fun _ ↦ byte⟩

/-- The first launch cannot store its id, the second can, the next two read it, and the last one can
store but not read. -/
def fiveLaunches : List Launch :=
  [launchWith none none 0, launchWith none (some (36, 36)) 1, launchWith (some 511) none 2,
    launchWith (some 36) none 3, launchWith none (some (36, 36)) 4]

/-- The first id is lost, the second lasts for three launches, and the third replaces it. -/
theorem device_identity_fiveLaunches :
    ∃ first second third fourth fifth,
      visits none fiveLaunches = [first, second, third, fourth, fifth] ∧
      second.id ≠ first.id ∧ second.Keeps ∧ third.ReadsWhole ∧ fourth.ReadsWhole ∧
      fourth.id = second.id ∧ fifth.id ≠ second.id ∧ fifth.Keeps := by
  obtain ⟨first, second, third, fourth, fifth, hvisits⟩ : ∃ first second third fourth fifth,
    visits none fiveLaunches = [first, second, third, fourth, fifth] := ⟨_, _, _, _, _, rfl⟩
  have h := device_identity none fiveLaunches
  have hbegin : (visits none fiveLaunches).map (fun v ↦ v.id.take 2) =
      [[48, 48], [48, 49], [48, 49], [48, 49], [48, 52]] := by
    decide +kernel
  have hkeeps : (visits none fiveLaunches).map (fun v ↦ decide (kept v.after = v.id)) =
      [false, true, true, true, true] := by
    decide +kernel
  have hreads : (visits none fiveLaunches).map
      (fun v ↦ (v.before.map List.length, v.launch.read)) =
        [(none, none), (none, none), (some 36, some 511), (some 36, some 36), (some 36, none)] := by
    decide +kernel
  rw [hvisits] at h hbegin hkeeps hreads
  simp only [List.map_cons, List.map_nil, List.cons.injEq, and_true, Prod.mk.injEq,
    decide_eq_true_eq] at hbegin hkeeps hreads
  obtain ⟨hfirst, hsecond, -, -, hfifth⟩ := hbegin
  obtain ⟨-, -, ⟨hthird, hthirdRead⟩, ⟨hfourth, hfourthRead⟩, -⟩ := hreads
  have hwhole {v : Visit} {count : ℕ} (hlength : v.before.map List.length = some 36)
      (hread : v.launch.read = some count) (hcount : 36 ≤ count) : v.ReadsWhole := by
    intro content hcontent
    rw [hcontent] at hlength
    exact ⟨count, hread, (min_le_left _ _).trans ((Option.some.inj hlength).trans_le hcount)⟩
  have hthirdWhole := hwhole hthird hthirdRead (by decide)
  have hfourthWhole := hwhole hfourth hfourthRead le_rfl
  refine ⟨first, second, third, fourth, fifth, hvisits, fun hsame ↦ ?_, hkeeps.2.1, hthirdWhole,
    hfourthWhole, ?_, fun hsame ↦ ?_, hkeeps.2.2.2.2⟩
  · rw [hsame, hfirst] at hsecond
    exact absurd hsecond (by decide)
  · refine h.lasts [first] second [third] fourth [fifth] rfl hkeeps.2.1 ?_
    simp [hthirdWhole, hfourthWhole]
  · rw [hsame, hsecond] at hfifth
    exact absurd hfifth (by decide)

end StylyNetSync
