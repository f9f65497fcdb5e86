import LocalCloud.Codec.Percent
import LocalCloud.Text.Split
import LocalCloud.Text.Whitespace

/-!
# URLs

Takes a URL apart into scheme, host, port, path and query, and tells whether the
host can be called: a domain, an IPv4 address or an IPv6 address in brackets.
-/

namespace LocalCloud.Http

/-- The parts of a URL. -/
structure Url where
  scheme : String
  /-- The host, without the brackets around an IPv6 address. -/
  host : String
  port : Option Nat
  /-- The path with its slash in front. -/
  path : String
  query : Option String := none
deriving DecidableEq, Repr

namespace Url

/-- The number an IPv4 part denotes: octal behind a zero, hexadecimal behind
`0x`, decimal otherwise. -/
def ipv4Number? (chars : List Char) : Option Nat :=
  match chars with
  | [] => none
  | ['0', 'x'] => some 0
  | '0' :: 'x' :: digits => digits.foldlM (fun n c => (Text.hexDigit? c).map (n * 16 + ·)) 0
  | '0' :: c :: digits =>
    (c :: digits).foldlM (fun n c => (Text.digit? c).bind fun d =>
      if d < 8 then some (n * 8 + d) else none) 0
  | digits => Text.decimal? digits

/-- Whether parts separated by dots form an IPv4 address; the last part fills the
bytes that are left. -/
def isIpv4 (parts : List (List Char)) : Bool :=
  match parts.mapM ipv4Number? with
  | none => false
  | some numbers =>
    numbers.length ≤ 4 && numbers.dropLast.all (· < 256)
      && numbers.getLast?.any fun last => last < Nat.pow 256 (5 - numbers.length)

/-- Whether the last part of a domain makes it an IPv4 address. -/
def endsInNumber (parts : List (List Char)) : Bool :=
  parts.getLast?.any fun last =>
    (!last.isEmpty && last.all Text.isAsciiDigit)
      || ((['0', 'x'].isPrefixOf last) && (ipv4Number? last).isSome)

/-- The characters that stand in no domain. -/
def isForbidden (c : Char) : Bool :=
  c.toNat ≤ 0x20 || c.toNat == 0x7F
    || ['#', '/', ':', '<', '>', '?', '@', '[', '\\', ']', '^', '|', '%'].contains c

/-- Whether a text is a domain or an IPv4 address. -/
def isDomain (chars : List Char) : Bool :=
  match Percent.decode? (String.ofList chars) with
  | none => false
  | some decoded =>
    let domain := decoded.toList.map Text.asciiLowerChar
    let parts := Text.splitOn '.' domain
    let parts := if parts.length > 1 ∧ parts.getLast? = some [] then parts.dropLast else parts
    !domain.isEmpty && !domain.any isForbidden && (!endsInNumber parts || isIpv4 parts)

/-- The number of 16-bit groups in a list of hexadecimal groups, the last of which
may be an IPv4 address. -/
def groups? (parts : List (List Char)) : Option Nat :=
  match parts with
  | [] => some 0
  | [last] =>
    if last.contains '.' then
      let bytes := Text.splitOn '.' last
      if bytes.length = 4 ∧ bytes.all (fun byte =>
          (Text.decimal? byte).any fun n => n < 256 ∧ Text.decimalChars n = byte) then some 2
      else none
    else if isGroup last then some 1 else none
  | part :: rest => if isGroup part then (groups? rest).map (· + 1) else none
where
  /-- One to four hexadecimal digits. -/
  isGroup (part : List Char) : Bool :=
    !part.isEmpty && part.length ≤ 4 && part.all fun c => (Text.hexDigit? c).isSome

/-- Whether a text is an IPv6 address: eight groups, of which one run may be left
out. -/
def isIpv6 (chars : List Char) : Bool :=
  let count (chars : List Char) : Option Nat :=
    if chars.isEmpty then some 0 else groups? (Text.splitOn ':' chars)
  match Text.splitWord? [':', ':'] chars with
  | none => count chars == some 8
  | some (before, after) =>
    match count before, count after with
    | some n, some k => n + k ≤ 7 && !before.contains '.'
    | _, _ => false

/-- Reads what follows the host: nothing, or a colon and a port. -/
def port? : List Char → Option (Option Nat)
  | [] => some none
  | [':'] => some none
  | ':' :: digits =>
    match Text.decimal? digits with
    | some port => if port ≤ 65535 then some (some port) else none
    | none => none
  | _ => none

/-- Reads an authority without user information. -/
def hostAndPort? (chars : List Char) : Option (List Char × Option Nat) :=
  match chars with
  | '[' :: inner =>
    match Text.splitOnce? ']' inner with
    | none => none
    | some (host, rest) =>
      if isIpv6 host then (port? rest).map fun port => (host, port) else none
  | chars =>
    let host := chars.takeWhile (· != ':')
    if isDomain host then (port? (chars.dropWhile (· != ':'))).map fun port => (host, port)
    else none

/-- What follows the last `@`, which ends the user information. -/
def afterUser (chars : List Char) : List Char :=
  (chars.reverse.takeWhile (· != '@')).reverse

/-- What precedes the last `@`. -/
def beforeHost (chars : List Char) : List Char :=
  ((chars.reverse.dropWhile (· != '@')).drop 1).reverse

/-- Whether a character ends the authority. -/
def endsAuthority (c : Char) : Bool :=
  c == '/' || c == '\\' || c == '?' || c == '#'

/-- Drops what does not count in a URL: blanks around it, and tabs and line ends
anywhere. -/
def clean (text : String) : List Char :=
  (Text.stripChars (fun c => c.toNat ≤ 0x20) text.toList).filter fun c =>
    c != '\t' && c != '\n' && c != '\r'

/-- Takes a URL with an authority apart; nothing if its host cannot be called. -/
def ofString? (text : String) : Option Url := do
  let (scheme, rest) ← Text.splitWord? [':', '/', '/'] (clean text)
  let authority := rest.takeWhile fun c => !endsAuthority c
  let (host, port) ← hostAndPort? (afterUser authority)
  let rest := (rest.dropWhile fun c => !endsAuthority c).takeWhile (· != '#')
  let path := rest.takeWhile (· != '?')
  let query := (rest.dropWhile (· != '?')).drop 1
  some {
    scheme := String.ofList scheme
    host := String.ofList host
    port := port
    path := String.ofList path
    query := if rest.contains '?' then some (String.ofList query) else none }

/-- The name and the password in front of the host of a URL, unless both are
empty. -/
def user? (text : String) : Option (String × String) := do
  let (_, rest) ← Text.splitWord? [':', '/', '/'] (clean text)
  let user := beforeHost (rest.takeWhile fun c => !endsAuthority c)
  let name ← Percent.decode? (String.ofList (user.takeWhile (· != ':')))
  let password := Percent.decode? (String.ofList ((user.dropWhile (· != ':')).drop 1))
  let password := password.getD ""
  if name.isEmpty && password.isEmpty then none else some (name, password)

end Url

/-- Adds parameters to a URL, behind a query that is there and before a
fragment. -/
def appendQuery (url query : String) : String :=
  let chars := url.toList
  let beforeFragment := chars.takeWhile (· != '#')
  let fragment := chars.dropWhile (· != '#')
  let separator := if beforeFragment.contains '?' then '&' else '?'
  String.ofList (beforeFragment ++ separator :: (query.toList ++ fragment))

end LocalCloud.Http
