import Lookout.Text.Blank
import Lookout.Text.Digits

/-! The written forms of IP addresses. -/

namespace Lookout.Url

open Text (cut)

/-- A decimal number below 256, without a leading zero. -/
def isOctet (s : List Char) : Bool :=
  (Text.natural? s).any (· ≤ 255) && (s.length == 1 || s.head? != some '0')

/-- Four octets with points between them. -/
def isIpv4 (s : List Char) : Bool :=
  let octets := cut (· == '.') s
  octets.length == 4 && octets.all isOctet

/-- One to four hexadecimal digits. -/
def isPiece (s : List Char) : Bool := !s.isEmpty && s.length ≤ 4 && s.all fun c => (Text.hexDigit? c).isSome

/-- How many pieces of 16 bits stand in a row. The last may be an IPv4 address, which counts as two. -/
def pieceCount? : List (List Char) → Option Nat
  | [] => some 0
  | [last] => if isPiece last then some 1 else if isIpv4 last then some 2 else none
  | piece :: rest => if isPiece piece then (pieceCount? rest).map (· + 1) else none

/-- The pieces of a text with colons between them. -/
def piecesOf (s : List Char) : List (List Char) := if s.isEmpty then [] else cut (· == ':') s

/-- What stands before and behind the first two colons in a row. -/
def atGap? : List Char → Option (List Char × List Char)
  | [] => none
  | ':' :: ':' :: s => some ([], s)
  | c :: s => (atGap? s).map fun (before, behind) => (c :: before, behind)

/-- Eight pieces, or fewer with one gap among them that stands for the zeros left out. -/
def isIpv6 (s : List Char) : Bool :=
  match atGap? s with
  | none => pieceCount? (piecesOf s) == some 8
  | some (before, behind) =>
    (piecesOf before).all isPiece
      && (pieceCount? (piecesOf behind)).any fun n => (piecesOf before).length + n ≤ 7

/-- An address of either form. -/
def isIp (s : List Char) : Bool := isIpv4 s || isIpv6 s

end Lookout.Url
