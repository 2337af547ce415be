import StylyNetSync.Core.JsonNumbers
import StylyNetSync.Core.SharedState

/-!
# Discovery replies

`parse_discovery_response` of the source with the helpers it is made of. A reply is one line of
fields with a separator between them: the version, four ports and the name of the server, which is
the remainder of the line and may contain the separator.

Bytes are unsigned here. On a platform where `char` is signed the comparisons with digits come out
the same: a byte from 128 on is not a digit on either side.
-/

namespace StylyNetSync

open JsonParser

def kDiscoveryResponseVersion : Bytes := ascii "STYLY-NETSYNC3"

/-- The parts between the delimiters: `find` and `substr` on what is left of the text. -/
def split (text : Bytes) (delimiter : UInt8) : List Bytes :=
  match _h : text.dropWhile (· != delimiter) with
  | [] => [text]
  | _ :: rest => text.takeWhile (· != delimiter) :: split rest delimiter
termination_by text.length
decreasing_by
  have hle := (List.dropWhile_sublist (· != delimiter) (l := text)).length_le
  rw [_h, List.length_cons] at hle
  omega

/-- The loop of `parse_port`, which ends at the first digit that leads beyond the range. -/
def parsePortLoop (value : ℕ) : Bytes → Option ℕ
  | [] => some value
  | c :: rest =>
    if !isDigit c then none
    else
      let value := value * 10 + (c.toNat - 48)
      if 65535 < value then none else parsePortLoop value rest

def parsePort (text : Bytes) : Option ℕ := if text.isEmpty then none else parsePortLoop 0 text

/-- Line feed, carriage return, space, tab and NUL. -/
def isStripped (c : UInt8) : Bool := c == 10 || c == 13 || c == 32 || c == 9 || c == 0

/-- The loop of `rstrip` over the end of the text. -/
def rstripEnd (text : Bytes) : ℕ → ℕ
  | 0 => 0
  | last + 1 => if text[last]?.any isStripped then rstripEnd text last else last + 1

/-- Strip trailing CR/LF and spaces. -/
def rstrip (text : Bytes) : Bytes := text.take (rstripEnd text text.length)

/-- The separator of the fields. -/
def fieldSeparator : UInt8 := 124

/-- The answer of `parse_discovery_response`, and its output parameter afterwards. -/
def parseDiscoveryResponse (message senderIp : Bytes) (out : DiscoveredServer) :
    Bool × DiscoveredServer :=
  match split (rstrip message) fieldSeparator with
  | version :: control :: transform :: sub :: restApi :: name :: rest =>
    if version ≠ kDiscoveryResponseVersion then (false, out)
    else
      match parsePort control, parsePort transform, parsePort sub, parsePort restApi with
      | some controlPort, some transformPort, some subPort, some restApiPort =>
        (true,
          { address := ascii "tcp://" ++ senderIp
            ip := senderIp
            controlPort := controlPort
            transformPort := transformPort
            subPort := subPort
            restApiPort := restApiPort
            serverName := rest.foldl (fun acc part ↦ acc ++ (fieldSeparator :: part)) name })
      | _, _, _, _ => (false, out)
  | _ => (false, out)

/-! ### The helpers -/

/-- The parts are those of the library's function. -/
theorem split_eq_splitOn (text : Bytes) (delimiter : UInt8) :
    split text delimiter = text.splitOn delimiter := by
  induction text using split.induct delimiter with
  | case1 text h =>
    have hnot : delimiter ∉ text := by
      intro hmem
      have hall := List.dropWhile_eq_nil_iff.mp h delimiter hmem
      simp at hall
    rw [split]
    split
    · exact (List.splitOn_eq_singleton hnot).symm
    · next heq => rw [h] at heq; cases heq
  | case2 text head rest h ih =>
    have hhead : head = delimiter := by
      have hne : text.dropWhile (· != delimiter) ≠ [] := by
        rw [h]
        exact List.cons_ne_nil _ _
      have hfirst := List.head_dropWhile_not (· != delimiter) hne
      simpa [h] using hfirst
    have hnot : delimiter ∉ text.takeWhile (· != delimiter) := by
      intro hmem
      have htaken := List.mem_takeWhile_imp hmem
      simp at htaken
    have htext : text = text.takeWhile (· != delimiter) ++ delimiter :: rest := by
      rw [← hhead, ← h, hhead]
      exact List.takeWhile_append_dropWhile.symm
    rw [split]
    split
    · next heq => rw [h] at heq; cases heq
    · next head' rest' heq =>
      rw [h, List.cons.injEq] at heq
      obtain ⟨-, rfl⟩ := heq
      conv_rhs => rw [htext, List.splitOn_append_cons_self_of_not_mem hnot]
      rw [ih]

/-- Stripping removes the trailing run of stripped bytes. -/
theorem rstrip_eq_rdropWhile (text : Bytes) : rstrip text = text.rdropWhile isStripped := by
  have hloop (last : ℕ) (h : last ≤ text.length) :
      text.take (rstripEnd text last) = (text.take last).rdropWhile isStripped := by
    induction last with
    | zero => rfl
    | succ last ih =>
      have hget : text[last]? = some text[last] := List.getElem?_eq_getElem h
      rw [rstripEnd, hget, Option.any_some, List.take_succ_eq_append_getElem h,
        List.rdropWhile_concat]
      split
      · exact ih (Nat.le_of_succ_le h)
      · exact List.take_succ_eq_append_getElem h
  rw [rstrip, hloop _ le_rfl, List.take_length]

/-- The number that digits spell. -/
def numeral (text : Bytes) : ℕ := text.foldl (fun value c ↦ value * 10 + (c.toNat - 48)) 0

theorem le_foldl_digits (text : Bytes) (value : ℕ) :
    value ≤ text.foldl (fun value c ↦ value * 10 + (c.toNat - 48)) value := by
  induction text generalizing value with
  | nil => exact le_rfl
  | cons c rest ih =>
    rw [List.foldl_cons]
    exact le_trans (by omega) (ih _)

/-- The text of a port, and the port. -/
def IsPort (text : Bytes) (port : ℕ) : Prop :=
  text ≠ [] ∧ Digits text ∧ numeral text = port ∧ port ≤ 65535

theorem parsePortLoop_eq_some_iff {text : Bytes} {value port : ℕ} (hvalue : value ≤ 65535) :
    parsePortLoop value text = some port ↔
      Digits text ∧ text.foldl (fun value c ↦ value * 10 + (c.toNat - 48)) value = port ∧
        port ≤ 65535 := by
  induction text generalizing value with
  | nil =>
    rw [parsePortLoop, Option.some_inj, List.foldl_nil]
    constructor
    · rintro rfl
      exact ⟨fun c hc ↦ absurd hc List.not_mem_nil, rfl, hvalue⟩
    · exact fun h ↦ h.2.1
  | cons c rest ih =>
    have hdigits : Digits (c :: rest) ↔ isDigit c = true ∧ Digits rest := List.forall_mem_cons
    rw [parsePortLoop, hdigits, List.foldl_cons]
    by_cases hc : isDigit c = true
    · rw [hc]
      by_cases hlarge : 65535 < value * 10 + (c.toNat - 48)
      · -- The value only grows from here on.
        have hgrow := le_foldl_digits rest (value * 10 + (c.toNat - 48))
        simp only [hlarge, if_true]
        simp
        omega
      · simp only [hlarge, if_false]
        simp [ih (not_lt.mp hlarge)]
    · simp [hc]

theorem parsePort_eq_some_iff {text : Bytes} {port : ℕ} :
    parsePort text = some port ↔ IsPort text port := by
  rw [parsePort, IsPort, numeral]
  cases text with
  | nil => simp
  | cons c rest =>
    rw [List.isEmpty_cons, if_neg Bool.false_ne_true, parsePortLoop_eq_some_iff (Nat.zero_le _)]
    simp

/-- The rest of the line is put together again. -/
theorem foldl_separated (name : Bytes) (rest : List Bytes) :
    rest.foldl (fun acc part ↦ acc ++ (fieldSeparator :: part)) name =
      [fieldSeparator].intercalate (name :: rest) := by
  induction rest generalizing name with
  | nil => simp
  | cons part rest ih =>
    rw [List.foldl_cons, ih, List.intercalate_cons_cons]
    cases rest with
    | nil => simp
    | cons next rest => simp

/-! ### Replies -/

/-- The ports of a reply. -/
inductive DiscoveryPort
  | control
  | transform
  | sub
  | restApi

/-- One value for each port. -/
def DiscoveryPort.pick {α : Type} (control transform sub restApi : α) : DiscoveryPort → α
  | .control => control
  | .transform => transform
  | .sub => sub
  | .restApi => restApi

/-- The line of a reply, without what may trail it. -/
def discoveryReply (ports : DiscoveryPort → Bytes) (name : Bytes) : Bytes :=
  kDiscoveryResponseVersion ++ fieldSeparator :: (ports .control ++ fieldSeparator ::
    (ports .transform ++ fieldSeparator :: (ports .sub ++ fieldSeparator ::
      (ports .restApi ++ fieldSeparator :: name))))

/-- The server that a reply describes. -/
def DiscoveredServer.ofReply (senderIp : Bytes) (ports : DiscoveryPort → ℕ) (name : Bytes) :
    DiscoveredServer where
  address := ascii "tcp://" ++ senderIp
  ip := senderIp
  controlPort := ports .control
  transformPort := ports .transform
  subPort := ports .sub
  restApiPort := ports .restApi
  serverName := name

theorem fieldSeparator_not_mem_digits {text : Bytes} (h : Digits text) : fieldSeparator ∉ text := by
  intro hmem
  have hdigit := h _ hmem
  revert hdigit
  decide

/-- The fields of a reply end where they should, and the name is split further. -/
theorem split_discoveryReply {ports : DiscoveryPort → Bytes} (h : ∀ i, Digits (ports i))
    (name : Bytes) :
    split (discoveryReply ports name) fieldSeparator =
      kDiscoveryResponseVersion :: ports .control :: ports .transform :: ports .sub ::
        ports .restApi :: split name fieldSeparator := by
  have hversion : fieldSeparator ∉ kDiscoveryResponseVersion := by decide
  have hport (i : DiscoveryPort) := fieldSeparator_not_mem_digits (h i)
  rw [split_eq_splitOn, split_eq_splitOn, discoveryReply,
    List.splitOn_append_cons_self_of_not_mem hversion,
    List.splitOn_append_cons_self_of_not_mem (hport .control),
    List.splitOn_append_cons_self_of_not_mem (hport .transform),
    List.splitOn_append_cons_self_of_not_mem (hport .sub),
    List.splitOn_append_cons_self_of_not_mem (hport .restApi)]

/-- A reply is accepted. -/
theorem parseDiscoveryResponse_of_reply {message : Bytes} {texts : DiscoveryPort → Bytes}
    {ports : DiscoveryPort → ℕ} {name : Bytes} (h : ∀ i, IsPort (texts i) (ports i))
    (hmessage : rstrip message = discoveryReply texts name) (senderIp : Bytes)
    (out : DiscoveredServer) :
    parseDiscoveryResponse message senderIp out = (true, .ofReply senderIp ports name) := by
  have hname : [fieldSeparator].intercalate (split name fieldSeparator) = name := by
    rw [split_eq_splitOn, List.intercalate_splitOn]
  have hport (i : DiscoveryPort) := parsePort_eq_some_iff.mpr (h i)
  rw [parseDiscoveryResponse, hmessage, split_discoveryReply fun i ↦ (h i).2.1]
  cases hsplit : split name fieldSeparator with
  | nil =>
    rw [split_eq_splitOn] at hsplit
    exact absurd hsplit (List.splitOn_ne_nil _ _)
  | cons first rest =>
    rw [hsplit] at hname
    simp only [ne_eq, not_true_eq_false, if_false, hport, foldl_separated, hname]
    rfl

/-- What is accepted is a reply. -/
theorem exists_reply_of_accepted {message senderIp : Bytes} {out server : DiscoveredServer}
    (h : parseDiscoveryResponse message senderIp out = (true, server)) :
    ∃ (texts : DiscoveryPort → Bytes) (ports : DiscoveryPort → ℕ) (name : Bytes),
      (∀ i, IsPort (texts i) (ports i)) ∧ rstrip message = discoveryReply texts name ∧
        server = .ofReply senderIp ports name := by
  have hmessage : [fieldSeparator].intercalate (split (rstrip message) fieldSeparator) =
      rstrip message := by
    rw [split_eq_splitOn, List.intercalate_splitOn]
  rw [parseDiscoveryResponse] at h
  split at h
  · next version control transform sub restApi first rest hsplit =>
    split at h
    · simp at h
    · next hversion =>
      rw [not_not] at hversion
      split at h
      · next controlPort transformPort subPort restApiPort hcontrol htransform hsub hrest =>
        obtain ⟨-, rfl⟩ := Prod.mk.inj h
        refine ⟨DiscoveryPort.pick control transform sub restApi,
          DiscoveryPort.pick controlPort transformPort subPort restApiPort,
          [fieldSeparator].intercalate (first :: rest), fun i ↦ ?_, ?_, ?_⟩
        · match i with
          | .control => exact parsePort_eq_some_iff.mp hcontrol
          | .transform => exact parsePort_eq_some_iff.mp htransform
          | .sub => exact parsePort_eq_some_iff.mp hsub
          | .restApi => exact parsePort_eq_some_iff.mp hrest
        · rw [← hmessage, hsplit, hversion, discoveryReply]
          simp only [List.intercalate_cons_cons, List.append_assoc, List.singleton_append]
          rfl
        · rw [foldl_separated]
          rfl
      · simp at h
  · simp at h

/-- What is not accepted leaves the output parameter alone. -/
theorem parseDiscoveryResponse_of_rejected {message senderIp : Bytes} {out : DiscoveredServer}
    (h : (parseDiscoveryResponse message senderIp out).1 = false) :
    (parseDiscoveryResponse message senderIp out).2 = out := by
  rw [parseDiscoveryResponse] at h ⊢
  split at h
  · split at h
    · next hversion => rw [if_pos hversion]
    · next hversion =>
      rw [if_neg hversion]
      split at h
      · simp at h
      · rfl
  · rfl

/-! ### The line of a server -/

/-- Stripped bytes behind a text that does not end in one are all that is stripped. -/
theorem rdropWhile_append_stripped {text tail : Bytes}
    (htext : ∀ hne : text ≠ [], ¬isStripped (text.getLast hne) = true)
    (htail : ∀ c ∈ tail, isStripped c = true) : (text ++ tail).rdropWhile isStripped = text := by
  induction tail using List.reverseRecOn with
  | nil =>
    rw [List.append_nil]
    exact List.rdropWhile_eq_self_iff.mpr htext
  | append_singleton tail c ih =>
    have hc : isStripped c = true := htail c (List.mem_append_right _ (List.mem_singleton_self c))
    rw [← List.append_assoc, List.rdropWhile_concat_pos _ _ _ hc]
    exact ih fun d hd ↦ htail d (List.mem_append_left _ hd)

theorem isPort_decimal {port : ℕ} (h : port ≤ 65535) : IsPort (decimal port) port := by
  refine ⟨decimal_ne_nil port, digits_decimal port, ?_, h⟩
  rw [numeral]
  simp only [Nat.mul_comm _ 10]
  exact foldl_decimal port

/-- The last byte of a reply is that of the name, or a separator. -/
theorem getLast_discoveryReply {ports : DiscoveryPort → Bytes} {name : Bytes}
    (h : ∀ c, name.getLast? = some c → isStripped c = false)
    (hne : discoveryReply ports name ≠ []) :
    ¬isStripped ((discoveryReply ports name).getLast hne) = true := by
  have hlast : (discoveryReply ports name).getLast? =
      some (name.getLast?.getD fieldSeparator) := by
    rw [discoveryReply]
    cases name using List.reverseRecOn with
    | nil => simp [List.getLast?_append, List.getLast?_cons]
    | append_singleton name c => simp [List.getLast?_append, List.getLast?_cons]
  rw [List.getLast?_eq_some_getLast hne, Option.some_inj] at hlast
  rw [hlast]
  cases hname : name.getLast? with
  | none => decide
  | some c => simp [h c hname]

/-- **Discovery replies are parsed exactly.** A message is accepted if, without what trails it, it
is a reply; the server is then the one it describes, and otherwise the output is left alone. What a
server sends is read back. -/
theorem parseDiscoveryResponse_exact (message senderIp : Bytes) (out : DiscoveredServer) :
    ((parseDiscoveryResponse message senderIp out).1 = true ↔
        ∃ (texts : DiscoveryPort → Bytes) (ports : DiscoveryPort → ℕ) (name : Bytes),
          (∀ i, IsPort (texts i) (ports i)) ∧
            message.rdropWhile isStripped = discoveryReply texts name) ∧
      (∀ (texts : DiscoveryPort → Bytes) (ports : DiscoveryPort → ℕ) (name : Bytes),
        (∀ i, IsPort (texts i) (ports i)) →
          message.rdropWhile isStripped = discoveryReply texts name →
            (parseDiscoveryResponse message senderIp out).2 = .ofReply senderIp ports name) ∧
      ((parseDiscoveryResponse message senderIp out).1 = false →
        (parseDiscoveryResponse message senderIp out).2 = out) ∧
      ∀ (ports : DiscoveryPort → ℕ) (name tail : Bytes), (∀ i, ports i ≤ 65535) →
        (∀ c, name.getLast? = some c → isStripped c = false) →
          (∀ c ∈ tail, isStripped c = true) →
            parseDiscoveryResponse (discoveryReply (fun i ↦ decimal (ports i)) name ++ tail)
              senderIp out = (true, .ofReply senderIp ports name) := by
  refine ⟨⟨fun haccepted ↦ ?_, ?_⟩, ?_, parseDiscoveryResponse_of_rejected, ?_⟩
  · obtain ⟨texts, ports, name, hports, hmessage, -⟩ :=
      exists_reply_of_accepted (Prod.ext haccepted rfl : _ = (true, _))
    rw [rstrip_eq_rdropWhile] at hmessage
    exact ⟨texts, ports, name, hports, hmessage⟩
  · rintro ⟨texts, ports, name, hports, hmessage⟩
    rw [← rstrip_eq_rdropWhile] at hmessage
    rw [parseDiscoveryResponse_of_reply hports hmessage]
  · intro texts ports name hports hmessage
    rw [← rstrip_eq_rdropWhile] at hmessage
    rw [parseDiscoveryResponse_of_reply hports hmessage]
  · intro ports name tail hports hname htail
    refine parseDiscoveryResponse_of_reply (fun i ↦ isPort_decimal (hports i)) ?_ senderIp out
    rw [rstrip_eq_rdropWhile]
    exact rdropWhile_append_stripped (getLast_discoveryReply hname) htail

/-- The line that a responder sends over TCP, with a separator in the name. -/
example (out : DiscoveredServer) : parseDiscoveryResponse
    (ascii "STYLY-NETSYNC3|5555|5556|5557|8800|desk|top" ++ [13, 10]) (ascii "10.0.0.4") out =
      (true, .ofReply (ascii "10.0.0.4") (DiscoveryPort.pick 5555 5556 5557 8800)
        (ascii "desk|top")) := by
  have hports (i : DiscoveryPort) : DiscoveryPort.pick 5555 5556 5557 8800 i ≤ 65535 := by
    cases i <;> decide
  exact parseDiscoveryResponse_of_reply (fun i ↦ isPort_decimal (hports i))
    (by rw [rstrip_eq_rdropWhile]; decide) _ _

end StylyNetSync
