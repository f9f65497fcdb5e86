import LocalCloud.Http.Url
import LocalCloud.Proofs.Text.Decimal
import LocalCloud.Proofs.Text.Segments
import Mathlib.Tactic.Common

/-!
# Where a URI leads

A URI without a query and a fragment is a scheme, a host with a port behind it, if any,
and a path.  It is a colon that parts the host from the port, and therefore a host which
holds colons itself, an IPv6 address, stands in square brackets.  What is written by this
grammar is read back, and an address with colons is read as nothing at all when its
brackets are left out.
-/

namespace LocalCloud.Http

namespace Url

variable {chars : List Char}

/-- The characters of an IPv6 address. -/
def isIpv6Char (c : Char) : Bool :=
  (Text.hexDigit? c).isSome || c == ':' || c == '.'

/-- The number of groups on one side of a run that is left out. -/
def groupCount? (chars : List Char) : Option Nat :=
  if chars.isEmpty then some 0 else groups? (Text.splitOn ':' chars)

theorem isIpv6Char_of_isDigit {c : Char} (h : c.isDigit = true) : isIpv6Char c = true := by
  have hrange : 48 ≤ c.toNat ∧ c.toNat ≤ 57 := Char.isDigit_iff_toNat.1 h
  rw [isIpv6Char, Text.hexDigit?, if_pos hrange]
  rfl

theorem isIpv6Char_of_isGroup {part : List Char} (h : groups?.isGroup part = true) :
    ∀ c ∈ part, isIpv6Char c = true := by
  intro c hc
  rw [groups?.isGroup, Bool.and_eq_true, List.all_eq_true] at h
  rw [isIpv6Char, h.2 c hc]
  rfl

theorem isIpv6Char_of_bytes {last : List Char}
    (h : ∀ byte ∈ Text.splitOn '.' last, ∃ value, Text.decimalChars value = byte) :
    ∀ c ∈ last, isIpv6Char c = true := by
  intro c hc
  rcases Text.mem_parts_of_mem hc '.' with rfl | ⟨byte, hbyte, hc⟩
  · rfl
  · obtain ⟨value, rfl⟩ := h byte hbyte
    exact isIpv6Char_of_isDigit (Text.isDigit_decimalChars value c hc)

/-- The last group stands for two of them when it is an IPv4 address. -/
theorem groups?_singleton_eq_some {last : List Char} {count : Nat}
    (h : groups? [last] = some count) : count ≤ 2 ∧ ∀ c ∈ last, isIpv6Char c = true := by
  rw [groups?] at h
  split at h
  next =>
    dsimp only at h
    split at h
    next hbytes =>
      cases h
      apply And.intro le_rfl
      apply isIpv6Char_of_bytes
      intro byte hbyte
      have hdecimal := List.all_eq_true.1 hbytes.2 byte hbyte
      obtain ⟨value, -, hvalue⟩ := (Option.any_eq_true _ _).1 hdecimal
      exact ⟨value, (decide_eq_true_iff.1 hvalue).2⟩
    next => cases h
  next =>
    split at h
    next hgroup =>
      cases h
      exact ⟨by decide, isIpv6Char_of_isGroup hgroup⟩
    next => cases h

theorem groups?_cons_cons (part next : List Char) (rest : List (List Char)) :
    groups? (part :: next :: rest) =
      if groups?.isGroup part then (groups? (next :: rest)).map (· + 1) else none := rfl

theorem isIpv6Char_of_groups? {parts : List (List Char)} {count : Nat}
    (h : groups? parts = some count) : ∀ part ∈ parts, ∀ c ∈ part, isIpv6Char c = true := by
  induction parts generalizing count with
  | nil => simp
  | cons part rest ih =>
      cases rest with
      | nil =>
          rw [List.forall_mem_singleton]
          exact (groups?_singleton_eq_some h).2
      | cons next rest =>
          rw [groups?_cons_cons] at h
          split at h
          next hgroup =>
            obtain ⟨others, hothers, -⟩ := Option.map_eq_some_iff.1 h
            exact List.forall_mem_cons.2 ⟨isIpv6Char_of_isGroup hgroup, ih hothers⟩
          next => cases h

theorem isIpv6Char_of_groupCount? {count : Nat} (h : groupCount? chars = some count) :
    ∀ c ∈ chars, isIpv6Char c = true := by
  intro c hc
  rw [groupCount?, if_neg (by simpa using List.ne_nil_of_mem hc)] at h
  rcases Text.mem_parts_of_mem hc ':' with rfl | ⟨part, hpart, hc⟩
  · rfl
  · exact isIpv6Char_of_groups? h part hpart c hc

/-- An IPv6 address has all its groups, or leaves a run of them out. -/
theorem exists_groupCount?_of_isIpv6 (h : isIpv6 chars = true) :
    groupCount? chars = some 8 ∨
      ∃ before after left right, chars = before ++ ([':', ':'] ++ after) ∧
        groupCount? before = some left ∧ groupCount? after = some right := by
  unfold isIpv6 at h
  cases hsplit : Text.splitWord? [':', ':'] chars with
  | none =>
      rw [hsplit] at h
      exact .inl (beq_iff_eq.1 h)
  | some parts =>
      obtain ⟨before, after⟩ := parts
      rw [hsplit] at h
      dsimp only at h
      split at h
      next left right hleft hright =>
        exact .inr ⟨before, after, left, right, Text.eq_of_splitWord? hsplit, hleft, hright⟩
      next => cases h

theorem isIpv6Char_of_isIpv6 (h : isIpv6 chars = true) : ∀ c ∈ chars, isIpv6Char c = true := by
  rcases exists_groupCount?_of_isIpv6 h with hcount | ⟨before, after, _, _, rfl, hleft, hright⟩
  · exact isIpv6Char_of_groupCount? hcount
  · intro c hc
    rcases List.mem_append.1 hc with hc | hc
    · exact isIpv6Char_of_groupCount? hleft c hc
    · rcases List.mem_append.1 hc with hc | hc
      · have hcolons : [':', ':'].all isIpv6Char = true := by decide
        exact List.all_eq_true.1 hcolons c hc
      · exact isIpv6Char_of_groupCount? hright c hc

theorem colon_mem_of_isIpv6 (h : isIpv6 chars = true) : ':' ∈ chars := by
  rcases exists_groupCount?_of_isIpv6 h with hcount | ⟨before, after, _, _, rfl, -, -⟩
  · by_contra hcolon
    rw [groupCount?, Text.splitOn_of_not_mem hcolon] at hcount
    split at hcount
    next => cases hcount
    next => exact absurd (groups?_singleton_eq_some hcount).1 (by decide)
  · simp

end Url

/-- What a URI without a query and a fragment tells. -/
structure Location where
  scheme : String
  /-- The host, without the brackets around an IPv6 address. -/
  host : String
  port : Option Nat
  /-- The path with its slash in front. -/
  path : String
deriving DecidableEq, Repr

namespace Location

/-- The characters between the parts of a URI. -/
def isDelimiter (c : Char) : Bool :=
  [':', '/', '?', '#', '[', ']', '@'].contains c

def isScheme (scheme : List Char) : Bool :=
  scheme.head?.any Char.isAlpha && scheme.all fun c => c.isAlphanum || ['+', '-', '.'].contains c

/-- A host name, or any other host that is written as it is. -/
def isName (host : List Char) : Bool :=
  !host.isEmpty && host.all fun c => !isDelimiter c

/-- Four bytes in decimal digits with dots between them. -/
def IsIpv4 (host : List Char) : Prop :=
  ∃ a b c d : UInt8,
    host = ['.'].intercalate ([a, b, c, d].map fun byte => Text.decimalChars byte.toNat)

/-- A path is empty or starts with a slash, and ends where a query would start. -/
def isPath (path : List Char) : Bool :=
  path.head?.all (· == '/') && path.all fun c => c != '?' && c != '#'

/-- Reads a host and what follows it. -/
def authority? (chars : List Char) : Option (List Char × Option Nat) :=
  match chars with
  | '[' :: inner => do
    let (host, rest) ← Text.splitOnce? ']' inner
    let port ← Url.port? rest
    if Url.isIpv6 host then some (host, port) else none
  | chars => do
    let port ← Url.port? (chars.dropWhile (· != ':'))
    let host := chars.takeWhile (· != ':')
    if isName host then some (host, port) else none

/-- Reads a URI by the grammar `scheme "://" host [":" port] path`. -/
def ofString? (text : String) : Option Location := do
  let (scheme, rest) ← Text.splitWord? [':', '/', '/'] text.toList
  let (host, port) ← authority? (rest.takeWhile (· != '/'))
  let path := rest.dropWhile (· != '/')
  if isScheme scheme && isPath path then
    some ⟨String.ofList scheme, String.ofList host, port, String.ofList path⟩
  else none

/-- A host with the brackets that its colons call for. -/
def hostChars (host : List Char) : List Char :=
  if ':' ∈ host then '[' :: (host ++ [']']) else host

def portChars : Option Nat → List Char
  | none => []
  | some port => ':' :: Text.decimalChars port

/-- The URI of a location. -/
def toString (location : Location) : String :=
  String.ofList (location.scheme.toList ++ ([':', '/', '/'] ++
    (hostChars location.host.toList ++ portChars location.port ++ location.path.toList)))

/-- Every part of the location has its form. -/
structure WellFormed (location : Location) : Prop where
  scheme : isScheme location.scheme.toList = true
  host : isName location.host.toList = true ∨ Url.isIpv6 location.host.toList = true
  port : ∀ port ∈ location.port, port ≤ 65535
  path : isPath location.path.toList = true

section Parts

variable {scheme host path chars : List Char} {port : Option Nat}

theorem colon_not_mem_of_isScheme (h : isScheme scheme = true) : ':' ∉ scheme := by
  intro hcolon
  rw [isScheme, Bool.and_eq_true, List.all_eq_true] at h
  exact absurd (h.2 ':' hcolon) (by decide)

theorem not_mem_of_isName {c : Char} (h : isName host = true) (hc : isDelimiter c = true) :
    c ∉ host := by
  intro hmem
  rw [isName, Bool.and_eq_true, List.all_eq_true] at h
  have hplain := h.2 c hmem
  rw [hc] at hplain
  cases hplain

theorem isDelimiter_of_isDigit {c : Char} (h : c.isDigit = true) : isDelimiter c = false := by
  have hnone : [':', '/', '?', '#', '[', ']', '@'].all (fun c => !c.isDigit) = true := by decide
  rw [isDelimiter, Bool.eq_false_iff, ne_eq, List.contains_iff_mem]
  intro hmem
  have hdigit := List.all_eq_true.1 hnone c hmem
  rw [h] at hdigit
  cases hdigit

theorem isName_of_isIpv4 (h : IsIpv4 host) : isName host = true := by
  obtain ⟨a, b, c, d, rfl⟩ := h
  rw [isName, Bool.and_eq_true, List.all_eq_true]
  constructor
  · simp
  · intro c hc
    rw [Bool.not_eq_true']
    rcases Text.mem_of_mem_intercalate hc with rfl | ⟨part, hpart, hc⟩
    · rfl
    · obtain ⟨byte, -, rfl⟩ := List.mem_map.1 hpart
      exact isDelimiter_of_isDigit (Text.isDigit_decimalChars _ c hc)

/-- No address holds a character that ends a host. -/
theorem not_mem_of_isIpv6 {c : Char} (h : Url.isIpv6 host = true)
    (hc : Url.isIpv6Char c = false) : c ∉ host := by
  intro hmem
  rw [Url.isIpv6Char_of_isIpv6 h c hmem] at hc
  cases hc

theorem slash_not_mem_portChars (port : Option Nat) : '/' ∉ portChars port := by
  cases port with
  | none => exact List.not_mem_nil
  | some port =>
      intro hmem
      rcases List.mem_cons.1 hmem with hcolon | hdigit
      · exact absurd hcolon (by decide)
      · exact absurd (Text.isDigit_decimalChars port _ hdigit) (by decide)

theorem port?_portChars (h : ∀ value ∈ port, value ≤ 65535) :
    Url.port? (portChars port) = some port := by
  cases port with
  | none => rfl
  | some value =>
      have hread := Text.decimal?_decimalChars value
      have hvalue : value ≤ 65535 := h value rfl
      rw [portChars]
      cases hdigits : Text.decimalChars value with
      | nil => exact absurd hdigits Nat.toDigits_ne_nil
      | cons digit digits =>
          rw [hdigits] at hread
          rw [Url.port?, hread]
          · exact if_pos hvalue
          · simp

theorem authority?_of_head?_ne (h : chars.head? ≠ some '[') :
    authority? chars = (Url.port? (chars.dropWhile (· != ':'))).bind fun port =>
      if isName (chars.takeWhile (· != ':')) then some (chars.takeWhile (· != ':'), port)
      else none := by
  unfold authority?
  split
  · exact absurd rfl h
  · rfl

/-- A host without colons ends in front of the first one. -/
theorem authority?_of_isName (h : isName host = true) (hport : ∀ value ∈ port, value ≤ 65535) :
    authority? (host ++ portChars port) = some (host, port) := by
  have hhead : (host ++ portChars port).head? ≠ some '[' := by
    cases host with
    | nil => cases h
    | cons c host =>
        intro hc
        cases hc
        exact not_mem_of_isName h rfl List.mem_cons_self
  have hcolon : ':' ∉ host := not_mem_of_isName h rfl
  have hstart : (portChars port).head?.all (· == ':') = true := by
    cases port <;> rfl
  rw [authority?_of_head?_ne hhead, Text.takeWhile_bne_append hcolon hstart,
    Text.dropWhile_bne_append hcolon hstart, port?_portChars hport, Option.bind_some, if_pos h]

theorem authority?_of_isIpv6 (h : Url.isIpv6 host = true)
    (hport : ∀ value ∈ port, value ≤ 65535) :
    authority? ('[' :: (host ++ [']']) ++ portChars port) = some (host, port) := by
  have hsplit : Text.splitOnce? ']' (host ++ ']' :: portChars port) =
      some (host, portChars port) := Text.splitOnce?_append_cons (not_mem_of_isIpv6 h rfl) _
  rw [List.cons_append, List.append_assoc, List.singleton_append, authority?, hsplit]
  simp [port?_portChars hport, h]

/-- Behind a host with a colon that is not in brackets there is no port. -/
theorem authority?_of_colon_mem (hcolon : ':' ∈ host) (hhead : host.head? ≠ some '[')
    (port : Nat) : authority? (host ++ portChars (some port)) = none := by
  obtain ⟨first, rest, rfl, hfirst⟩ := List.eq_append_cons_of_mem hcolon
  have hdrop : (first ++ (':' :: rest ++ portChars (some port))).dropWhile (· != ':') =
      ':' :: (rest ++ portChars (some port)) := Text.dropWhile_bne_append hfirst rfl
  have hmem : ':' ∈ rest ++ portChars (some port) := by simp [portChars]
  have hport : Url.port? (':' :: (rest ++ portChars (some port))) = none := by
    cases hdigits : rest ++ portChars (some port) with
    | nil => simp [portChars] at hdigits
    | cons digit digits =>
        rw [hdigits] at hmem
        rw [Url.port?, Text.decimal?_of_not_isAsciiDigit hmem rfl]
        simp
  rw [List.append_assoc, authority?_of_head?_ne, hdrop, hport, Option.bind_none]
  cases first with
  | nil => simp
  | cons c first => simpa using hhead

/-- The authority stands between the two slashes and the path. -/
theorem ofString?_append {authority : List Char} (hscheme : isScheme scheme = true)
    (hauthority : '/' ∉ authority) (hpath : isPath path = true) :
    ofString? (String.ofList (scheme ++ ([':', '/', '/'] ++ (authority ++ path)))) =
      (authority? authority).map fun parts =>
        ⟨String.ofList scheme, String.ofList parts.1, parts.2, String.ofList path⟩ := by
  have hsplit : Text.splitWord? [':', '/', '/']
      (scheme ++ ([':', '/', '/'] ++ (authority ++ path))) = some (scheme, authority ++ path) :=
    Text.splitWord?_append_word (colon_not_mem_of_isScheme hscheme) ['/', '/'] _
  have hhead : path.head?.all (· == '/') = true := by
    rw [isPath, Bool.and_eq_true] at hpath
    exact hpath.1
  simp only [ofString?, String.toList_ofList, hsplit, Option.bind_eq_bind, Option.bind_some,
    Text.takeWhile_bne_append hauthority hhead, Text.dropWhile_bne_append hauthority hhead,
    hscheme, hpath, Bool.and_self, if_true, Option.map_eq_bind]
  rfl

theorem slash_not_mem_hostChars (h : isName host = true ∨ Url.isIpv6 host = true) :
    '/' ∉ hostChars host := by
  have hhost : '/' ∉ host := by
    rcases h with hname | haddress
    · exact not_mem_of_isName hname rfl
    · exact not_mem_of_isIpv6 haddress rfl
  rw [hostChars]
  split
  · simpa using hhost
  · exact hhost

theorem authority?_hostChars (h : isName host = true ∨ Url.isIpv6 host = true)
    (hport : ∀ value ∈ port, value ≤ 65535) :
    authority? (hostChars host ++ portChars port) = some (host, port) := by
  rcases h with hname | haddress
  · rw [hostChars, if_neg (not_mem_of_isName hname rfl)]
    exact authority?_of_isName hname hport
  · rw [hostChars, if_pos (Url.colon_mem_of_isIpv6 haddress)]
    exact authority?_of_isIpv6 haddress hport

end Parts

/-- What is written for a location is read as that location. -/
theorem ofString?_toString {location : Location} (h : location.WellFormed) :
    ofString? location.toString = some location := by
  have hauthority : '/' ∉ hostChars location.host.toList ++ portChars location.port := by
    rw [List.mem_append, not_or]
    exact ⟨slash_not_mem_hostChars h.host, slash_not_mem_portChars _⟩
  rw [toString, ofString?_append h.scheme hauthority h.path, authority?_hostChars h.host h.port]
  simp

/-- The brackets around an address keep its colons apart from the one in front of the port. -/
example : ofString? "https://[::1]:8000/echo" = some ⟨"https", "::1", some 8000, "/echo"⟩ ∧
    ofString? "https://::1:8000/echo" = none := by decide +kernel

end Location

end LocalCloud.Http
