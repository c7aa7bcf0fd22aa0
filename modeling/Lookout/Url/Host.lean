import Lookout.Text.Percent
import Lookout.Text.Unprintable
import Lookout.Url.Ip
import Lookout.Url.Punycode

/-! The hosts of addresses. A host in square brackets is an IPv6 address. The schemes of the web know domains
    and IPv4 addresses beside it; with other schemes nearly any name will do. -/

namespace Lookout.Url

/-- A character that no host has in its name. -/
def isForbidden (c : Char) : Bool :=
  [' ', '#', '/', ':', '<', '>', '?', '@', '[', '\\', ']', '^', '|', '\x00', '\t', '\n', '\r'].contains c

/-- A character that no domain has in its name. -/
def isForbiddenInDomain (c : Char) : Bool := isForbidden c || c == '%' || c.toNat < 0x20 || c == '\x7f'

/-- An IPv6 address in brackets. -/
def isBracketed : List Char → Bool
  | '[' :: s => s.getLast? == some ']' && isIpv6 s.dropLast
  | _ => false

/-- The host of a scheme that sets no rules for it. -/
def isOpaqueHost (s : List Char) : Bool :=
  if s.head? == some '[' then isBracketed s else !s.any isForbidden

/-! ### Domains -/

/-- Characters that a domain may hold without meaning anything. -/
def isIgnored (c : Char) : Bool :=
  let n := c.toNat
  n == 0xAD || n == 0x200B || n == 0x2060 || n == 0xFEFF || (0x180B ≤ n && n ≤ 0x180D) || (0xFE00 ≤ n && n ≤ 0xFE0F)

/-- The form in which a character counts in a domain: in lower case, and not of full width. -/
def folded (c : Char) : Char :=
  let n := c.toNat
  if 0xFF01 ≤ n ∧ n ≤ 0xFF5E then (Char.ofNat (n - 0xFEE0)).toLower
  else if n = 0x3002 ∨ n = 0xFF61 then '.'
  else c.toLower

/-- A label of a domain. One that begins as an encoded label does has to stand for a text that shows. -/
def isLabel (s : List Char) : Bool :=
  match s with
  | 'x' :: 'n' :: '-' :: '-' :: code =>
    (Punycode.decode? code).any fun text => text.all fun c => folded c == c && !Text.isUnprintable c
  | s => !s.any Text.isUnprintable

/-- The number that a part of an IPv4 address writes, in the base that its first digits tell. -/
def partNumber? : List Char → Option Nat
  | '0' :: 'x' :: ds => Text.ofDigits? 16 ds
  | '0' :: d :: ds => Text.ofDigits? 8 (d :: ds)
  | ds => Text.natural? ds

/-- The parts of an IPv4 address. The last one fills all the bytes that the others leave. -/
def isLooseIpv4 (parts : List (List Char)) : Bool :=
  match parts.mapM partNumber? with
  | none => false
  | some numbers =>
    numbers.length ≤ 4 && numbers.dropLast.all (· ≤ 255)
      && numbers.getLast?.any (· < Nat.pow 256 (5 - numbers.length))

/-- A name is taken for an IPv4 address if its last part is a number. -/
def isNumberPart (s : List Char) : Bool := (Text.natural? s).isSome || (partNumber? s).isSome

/-- A domain or an IPv4 address, percent-encoded or not. -/
def isDomain (s : List Char) : Bool :=
  match Text.percentDecoded? s with
  | none => false
  | some text =>
    let name := (text.filter (!isIgnored ·)).map folded
    let labels := Text.cut (· == '.') name
    let parts := if labels.getLast? == some [] then labels.dropLast else labels
    !name.isEmpty && !name.any isForbiddenInDomain && labels.all isLabel
      && (!parts.getLast?.any isNumberPart || isLooseIpv4 parts)

/-- The host of a scheme of the web. -/
def isWebHost (s : List Char) : Bool := if s.head? == some '[' then isBracketed s else isDomain s

end Lookout.Url
