import StylyNetSync.Core.JsonNumbers

/-!
# Endpoints

`build_endpoint` of the source, which makes an endpoint of the configured address and a port. The
address may carry a scheme and a port of its own; both are stripped first. Where a port is, the
source finds out from the colons, and it takes an address with a closing bracket for one without a
port.
-/

namespace StylyNetSync

open JsonParser

def kScheme : Bytes := ascii "tcp://"

/-- The position of the first byte of its kind, `npos` if there is none. -/
def findByte (text : Bytes) (c : UInt8) : Option ℕ := text.findIdx? (· == c)

/-- The position of the last byte of its kind. -/
def rfindByte (text : Bytes) (c : UInt8) : Option ℕ :=
  (text.reverse.findIdx? (· == c)).map (text.length - 1 - ·)

/-- A trailing `:port` is stripped. -/
def withoutPort (host : Bytes) : Bytes :=
  match rfindByte host 58 with
  | none => host
  | some colon =>
    if (findByte host 93).isNone && findByte host 58 == some colon then
      if colon + 1 < host.length && (host.drop (colon + 1)).all isDigit then host.take colon
      else host
    else host

def buildEndpoint (serverAddress : Bytes) (port : ℤ) : Bytes :=
  let host :=
    if kScheme.isPrefixOf serverAddress then serverAddress.drop kScheme.length else serverAddress
  kScheme ++ withoutPort host ++ 58 :: ascii (toString port)

/-! ### Stripping -/

theorem findByte_eq_none_iff {text : Bytes} {c : UInt8} : findByte text c = none ↔ c ∉ text := by
  rw [findByte, List.findIdx?_eq_none_iff]
  constructor
  · intro h hmem
    simpa using h c hmem
  · intro h d hd
    rw [beq_eq_false_iff_ne]
    exact fun heq ↦ h (heq ▸ hd)

theorem rfindByte_eq_none {text : Bytes} {c : UInt8} (h : c ∉ text) : rfindByte text c = none := by
  have hreverse : findByte text.reverse c = none :=
    findByte_eq_none_iff.mpr (mt List.mem_reverse.mp h)
  rw [rfindByte]
  show (findByte text.reverse c).map _ = none
  rw [hreverse, Option.map_none]

theorem findByte_append {front rest : Bytes} {c : UInt8} (h : c ∉ front) :
    findByte (front ++ c :: rest) c = some front.length := by
  have hfront : front.findIdx? (· == c) = none := findByte_eq_none_iff.mpr h
  rw [findByte, List.findIdx?_append, hfront, List.findIdx?_cons]
  simp

theorem rfindByte_append {front rest : Bytes} {c : UInt8} (h : c ∉ rest) :
    rfindByte (front ++ c :: rest) c = some front.length := by
  have hreverse : (front ++ c :: rest).reverse = rest.reverse ++ c :: front.reverse := by simp
  have hfind : findByte (rest.reverse ++ c :: front.reverse) c = some rest.reverse.length :=
    findByte_append (mt List.mem_reverse.mp h)
  rw [rfindByte, hreverse]
  show (findByte (rest.reverse ++ c :: front.reverse) c).map _ = _
  rw [hfind, Option.map_some, List.length_reverse, List.length_append, List.length_cons,
    Option.some_inj]
  omega

theorem withoutPort_of_no_colon {host : Bytes} (h : 58 ∉ host) : withoutPort host = host := by
  rw [withoutPort, rfindByte_eq_none h]

/-- A closing bracket keeps whatever is behind it. -/
theorem withoutPort_of_bracket {host : Bytes} (h : 93 ∈ host) : withoutPort host = host := by
  have hfound : (findByte host 93).isNone = false := by
    rw [Bool.eq_false_iff, Ne, Option.isNone_iff_eq_none, findByte_eq_none_iff]
    exact not_not.mpr h
  rw [withoutPort]
  split
  · rfl
  · rw [hfound, Bool.false_and, if_neg Bool.false_ne_true]

theorem not_mem_digits {digits : Bytes} (h : Digits digits) {c : UInt8} (hc : isDigit c = false) :
    c ∉ digits := by
  intro hmem
  rw [h c hmem] at hc
  cases hc

/-- A port behind a name is stripped. -/
theorem withoutPort_append {host digits : Bytes} (hcolon : 58 ∉ host) (hbracket : 93 ∉ host)
    (hdigits : Digits digits) (hne : digits ≠ []) : withoutPort (host ++ 58 :: digits) = host := by
  have hrfind : rfindByte (host ++ 58 :: digits) 58 = some host.length :=
    rfindByte_append (not_mem_digits hdigits (by decide))
  have hfind : findByte (host ++ 58 :: digits) 58 = some host.length := findByte_append hcolon
  have hclosing : findByte (host ++ 58 :: digits) 93 = none := by
    rw [findByte_eq_none_iff, List.mem_append, List.mem_cons]
    rintro (hmem | heq | hmem)
    · exact hbracket hmem
    · exact absurd heq (by decide)
    · exact not_mem_digits hdigits (by decide) hmem
  have hall : digits.all isDigit = true := List.all_eq_true.mpr hdigits
  have hlength : host.length + 1 < (host ++ 58 :: digits).length := by
    have hpos := List.length_pos_of_ne_nil hne
    rw [List.length_append, List.length_cons]
    omega
  rw [withoutPort, hrfind]
  simp only [hfind, hclosing, hlength]
  simp [hall]

/-! ### Configured addresses -/

/-- A name or an IPv4 literal. -/
def IsHostName (host : Bytes) : Prop := host ≠ [] ∧ 58 ∉ host ∧ 91 ∉ host ∧ 93 ∉ host

/-- An IPv6 literal in brackets. -/
def IsBracketed (host : Bytes) : Prop := ∃ literal, host = 91 :: (literal ++ [93])

/-- A host as it is configured: with a scheme or without, and with a port or without. -/
def configuredAddress (scheme : Bool) (host : Bytes) (port : Option Bytes) : Bytes :=
  (if scheme then kScheme else []) ++ host ++ (port.elim [] (58 :: ·))

/-- The endpoint of a host. -/
def endpoint (host : Bytes) (port : ℤ) : Bytes := kScheme ++ host ++ 58 :: ascii (toString port)

/-- What may stand behind the colon of a configured address. -/
def IsPortText (port : Option Bytes) : Prop := ∀ digits ∈ port, digits ≠ [] ∧ Digits digits

/-- Without a scheme, an address does not begin with one. -/
theorem scheme_not_prefix {host : Bytes} (h : IsHostName host ∨ IsBracketed host)
    {port : Option Bytes} (hport : IsPortText port) :
    kScheme.isPrefixOf (configuredAddress false host port) = false := by
  rw [Bool.eq_false_iff, Ne, List.isPrefixOf_iff_prefix]
  rintro ⟨rest, hrest⟩
  have hscheme : kScheme = [116, 99, 112] ++ [58, 47, 47] := by decide
  rw [hscheme, configuredAddress, if_neg Bool.false_ne_true, List.nil_append,
    List.append_assoc] at hrest
  rcases h with ⟨-, hcolon, -, -⟩ | ⟨literal, rfl⟩
  · cases port with
    | none =>
      rw [Option.elim_none, List.append_nil] at hrest
      refine hcolon ?_
      rw [← hrest]
      simp
    | some digits =>
      -- The first colon is that of the port, and no slash is behind it.
      rw [Option.elim_some] at hrest
      have hfirst : findByte (host ++ 58 :: digits) 58 = some 3 := by
        rw [← hrest]
        exact findByte_append (by decide)
      rw [findByte_append hcolon, Option.some_inj] at hfirst
      have hbehind := (List.append_inj hrest hfirst.symm).2
      have hslash : 47 ∈ digits := by
        rw [List.cons_append, List.cons.injEq] at hbehind
        rw [← hbehind.2]
        exact List.mem_cons_self
      exact not_mem_digits (hport digits rfl).2 (by decide) hslash
  · have hhead : (116 : UInt8) = 91 := (List.cons.inj hrest).1
    exact absurd hhead (by decide)

/-- The scheme of a configured address makes no difference. -/
theorem buildEndpoint_configuredAddress {host : Bytes} (h : IsHostName host ∨ IsBracketed host)
    (scheme : Bool) {portText : Option Bytes} (hport : IsPortText portText) (port : ℤ) :
    buildEndpoint (configuredAddress scheme host portText) port =
      endpoint (withoutPort (host ++ portText.elim [] (58 :: ·))) port := by
  cases scheme with
  | false =>
    rw [buildEndpoint, scheme_not_prefix h hport, if_neg Bool.false_ne_true, configuredAddress,
      if_neg Bool.false_ne_true, List.nil_append, endpoint]
  | true =>
    have haddress : configuredAddress true host portText =
        kScheme ++ (host ++ portText.elim [] (58 :: ·)) := by
      rw [configuredAddress, if_pos rfl, List.append_assoc]
    have hprefix : kScheme.isPrefixOf (kScheme ++ (host ++ portText.elim [] (58 :: ·))) = true :=
      List.isPrefixOf_iff_prefix.mpr (List.prefix_append _ _)
    rw [buildEndpoint, haddress, hprefix, if_pos rfl, List.drop_left, endpoint]

theorem not_isBracketed_of_isHostName {host : Bytes} (h : IsHostName host) : ¬IsBracketed host := by
  rintro ⟨literal, rfl⟩
  exact h.2.2.1 List.mem_cons_self

theorem endpoint_injective (port : ℤ) {host host' : Bytes} :
    endpoint host port = endpoint host' port ↔ host = host' := by
  rw [endpoint, endpoint, List.append_assoc, List.append_assoc, List.append_cancel_left_eq,
    List.append_cancel_right_eq]

/-- **When an endpoint is well formed.** Of a bracketed host with a port behind it the port stays;
of every other host a scheme and a port are stripped. -/
theorem buildEndpoint_eq_endpoint_iff {host : Bytes} (h : IsHostName host ∨ IsBracketed host)
    (scheme : Bool) {portText : Option Bytes} (hport : IsPortText portText) (port : ℤ) :
    buildEndpoint (configuredAddress scheme host portText) port = endpoint host port ↔
      ¬(IsBracketed host ∧ portText.isSome = true) := by
  rw [buildEndpoint_configuredAddress h scheme hport, endpoint_injective]
  rcases h with hname | hbracketed
  · have hstripped : withoutPort (host ++ portText.elim [] (58 :: ·)) = host := by
      cases portText with
      | none =>
        rw [Option.elim_none, List.append_nil]
        exact withoutPort_of_no_colon hname.2.1
      | some digits =>
        exact withoutPort_append hname.2.1 hname.2.2.2 (hport digits rfl).2 (hport digits rfl).1
    simp [hstripped, not_isBracketed_of_isHostName hname]
  · have hclosing : 93 ∈ host := by
      obtain ⟨literal, rfl⟩ := hbracketed
      simp
    rw [withoutPort_of_bracket (List.mem_append_left _ hclosing)]
    cases portText with
    | none => simp
    | some digits => simp [hbracketed]

theorem isPortText_none : IsPortText none := fun digits hnone ↦
  absurd hnone (Option.not_mem_none digits)

theorem isPortText_decimal (p : ℕ) : IsPortText (some (decimal p)) := by
  intro digits hdigits
  obtain rfl := Option.mem_some.mp hdigits
  exact ⟨decimal_ne_nil p, digits_decimal p⟩

/-- An endpoint is an address with a scheme and a port. -/
theorem endpoint_eq_configuredAddress (host : Bytes) (p : ℕ) :
    endpoint host p = configuredAddress true host (some (decimal p)) := by
  rw [endpoint, configuredAddress, if_pos rfl, ascii_toString, if_neg (by omega)]
  rfl

/-- **Endpoints are built of every configured address but a bracketed host with a port**, and an
endpoint is an address again but for a bracketed host. -/
theorem buildEndpoint_configured (host : Bytes) (h : IsHostName host ∨ IsBracketed host)
    (scheme : Bool) (portText : Option Bytes) (hport : IsPortText portText) (q : ℤ) (p : ℕ) :
    (buildEndpoint (configuredAddress scheme host portText) q = endpoint host q ↔
        ¬(IsBracketed host ∧ portText.isSome = true)) ∧
      (buildEndpoint (buildEndpoint host p) q = buildEndpoint host q ↔ ¬IsBracketed host) := by
  refine ⟨buildEndpoint_eq_endpoint_iff h scheme hport q, ?_⟩
  have hbare (port : ℤ) : buildEndpoint host port = endpoint host port := by
    have hall := (buildEndpoint_eq_endpoint_iff h false
      isPortText_none port).mpr (by simp)
    have haddress : configuredAddress false host none = host := by simp [configuredAddress]
    rwa [haddress] at hall
  rw [hbare p, hbare q, endpoint_eq_configuredAddress,
    buildEndpoint_eq_endpoint_iff h true (isPortText_decimal p)]
  simp

/-- A bracketed host without a port, and a name with one. -/
theorem buildEndpoint_configured_hosts :
    buildEndpoint (configuredAddress true (ascii "[::1]") none) 80 = endpoint (ascii "[::1]") 80 ∧
      buildEndpoint (buildEndpoint (ascii "localhost") 5555) 80 =
        buildEndpoint (ascii "localhost") 80 := by
  have hbracketed : IsBracketed (ascii "[::1]") := ⟨ascii "::1", by decide⟩
  have hname : IsHostName (ascii "localhost") := by
    refine ⟨?_, ?_, ?_, ?_⟩ <;> decide
  exact ⟨(buildEndpoint_configured _ (.inr hbracketed) true none isPortText_none 80 0).1.mpr
      (by simp),
    (buildEndpoint_configured _ (.inl hname) true none isPortText_none 80 5555).2.mpr
      (not_isBracketed_of_isHostName hname)⟩

/-- **The port of a bracketed host stays in the endpoint**, before the one that is asked for. -/
theorem buildEndpoint_bracketed_port :
    IsBracketed (ascii "[::1]") ∧
      buildEndpoint (ascii "[::1]:5555") 80 = ascii "tcp://[::1]:5555:80" ∧
      buildEndpoint (ascii "[::1]:5555") 80 ≠ endpoint (ascii "[::1]") 80 ∧
      buildEndpoint (buildEndpoint (ascii "[::1]") 5555) 80 ≠ buildEndpoint (ascii "[::1]") 80 := by
  refine ⟨⟨ascii "::1", by decide⟩, ?_, ?_, ?_⟩
  · decide
  · decide
  · decide

end StylyNetSync
