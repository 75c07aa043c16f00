import SqlWorkload.Text.Percent
import SqlWorkload.Url.Domain
/-!
# Hosts

The forms of a host in a URL: an IPv6 address in brackets, an IPv4 address, or a name. In the URLs
of the web a name is a domain, in which percent signs stand for bytes; a domain that ends in a number
has to be an address. Anywhere else a name is any text without certain marks.
-/

namespace SqlWorkload

/-- Why a text is no URL. -/
inductive UrlError where
  | noScheme
  | emptyHost
  | invalidDomain
  | forbiddenCharacter
  | invalidIpv4
  | invalidIpv6
  | invalidPort
deriving DecidableEq, Repr

def UrlError.message : UrlError → String
  | noScheme => "relative URL without a base"
  | emptyHost => "empty host"
  | invalidDomain => "invalid international domain name"
  | forbiddenCharacter => "invalid domain character"
  | invalidIpv4 => "invalid IPv4 address"
  | invalidIpv6 => "invalid IPv6 address"
  | invalidPort => "invalid port number"

namespace Host

/-! ## Addresses -/

/-- One of the numbers of an IPv4 address: at most 255, without zeros in front. -/
def isOctet (s : List Char) : Bool :=
  s ≠ [] && s.all Char.isDigit && (s.length = 1 || s.head? ≠ some '0') &&
    Text.digitsValue s ≤ 255

def isIpv4 (s : List Char) : Bool :=
  let parts := Text.pieces (· == '.') s
  parts.length = 4 && parts.all isOctet

/-- One of the groups of an IPv6 address. -/
def isGroup (s : List Char) : Bool :=
  s ≠ [] && s.length ≤ 4 && s.all fun c => (Text.hexDigit? c).isSome

/-- How many groups a part of an IPv6 address has. An IPv4 address at the end, where it is allowed,
counts as two. -/
def groupCount? (withIpv4 : Bool) (s : List Char) : Option Nat :=
  let parts := Text.pieces (· == ':') s
  if s = [] then some 0
  else if parts.all isGroup then some parts.length
  else if withIpv4 && parts.dropLast.all isGroup && isIpv4 (parts.getLastD []) then
    some (parts.length + 1)
  else none

/-- The text before the first double colon and the text after it. -/
def splitGap? : List Char → Option (List Char × List Char)
  | ':' :: ':' :: rest => some ([], rest)
  | c :: rest => (splitGap? rest).map fun (left, right) => (c :: left, right)
  | [] => none

/-- Whether a text is an IPv6 address: eight groups, or fewer and a double colon in place of those
that are left out. -/
def isIpv6 (s : List Char) : Bool :=
  match splitGap? s with
  | none => groupCount? true s == some 8
  | some (left, right) =>
    match groupCount? false left, groupCount? true right with
    | some m, some n => m + n < 8
    | _, _ => false

/-! ## Domains -/

/-- The value of digits to a base of at most 16. -/
def baseValue? (base : Nat) (digits : List Char) : Option Nat :=
  digits.foldlM (fun n c => do
    let digit ← Text.hexDigit? c
    if digit < base then some (n * base + digit) else none) 0

/-- A number in a domain: to base 16 after `0x`, to base 8 after another zero, or to base 10. -/
def number? : List Char → Option Nat
  | [] => none
  | '0' :: c :: digits =>
    if c = 'x' ∨ c = 'X' then baseValue? 16 digits else baseValue? 8 (c :: digits)
  | digits => baseValue? 10 digits

/-- The labels of a domain without the empty one after a point at its end. -/
def labels (domain : List Char) : List (List Char) :=
  let labels := Text.pieces (· == '.') domain
  if labels.length ≠ 1 ∧ labels.getLastD [] = [] then labels.dropLast else labels

def endsInNumber (domain : List Char) : Bool :=
  let last := (labels domain).getLastD []
  (last ≠ [] && last.all Char.isDigit) || (number? last).isSome

/-- Whether a domain is an IPv4 address of up to four numbers: each of them is one byte, but the
last has all the bytes that are left of four. -/
def isAddress (domain : List Char) : Bool :=
  match (labels domain).mapM number? with
  | some numbers =>
    numbers.length ≤ 4 && numbers.dropLast.all (· ≤ 255) &&
      numbers.getLastD 0 ≤ (UInt32.size - 1) >>> (8 * (numbers.length - 1))
  | none => false

/-! ## Hosts -/

/-- The marks that no host has outside of brackets. -/
def isForbidden (c : Char) : Bool :=
  ['\x00', '\t', '\n', '\r', ' ', '#', '/', ':', '<', '>', '?', '@', '[', '\\', ']', '^',
    '|'].contains c

/-- Whether the text stands for a domain that a host can have. Bytes that are no text stand for a
character that no domain has. -/
def checkDomain (s : List Char) : Except UrlError Unit :=
  match Domain.ofText? (Text.Utf8.lossy (Text.Percent.decode s)) with
  | none => .error .invalidDomain
  | some domain =>
    if domain = [] then .error .emptyHost
    else if endsInNumber domain && !isAddress domain then .error .invalidIpv4
    else .ok ()

/-- Whether the text can stand in the place of a host. -/
def check (isDomain : Bool) (s : List Char) : Except UrlError Unit :=
  if s.head? = some '[' then
    if s.getLast? = some ']' ∧ isIpv6 (s.drop 1).dropLast then .ok () else .error .invalidIpv6
  else if isDomain then checkDomain s
  else if s.any isForbidden then .error .forbiddenCharacter
  else .ok ()

end Host

end SqlWorkload
