/-! Punycode, the form in which names of hosts hold characters beyond ASCII. Behind the ASCII characters stand
    numbers in a base of 36 digits, and each of them says which character is put in next, and where. -/

namespace Lookout.Url.Punycode

/-- The value of a digit. Letters of either case come before the decimal digits. -/
def digit? (c : Char) : Option Nat :=
  if c.isAlpha then some (c.toLower.toNat - 'a'.toNat)
  else if c.isDigit then some (c.toNat - '0'.toNat + 26)
  else none

/-- A digit below this value is the last of its number. -/
def threshold (place bias : Nat) : Nat := max 1 (min 26 (place - bias))

/-- A number at the start of a text, lowest digit first, and what follows it. -/
def number? (bias place weight : Nat) : List Char → Option (Nat × List Char)
  | [] => none
  | c :: s => do
    let d ← digit? c
    let t := threshold place bias
    if d < t then some (d * weight, s)
    else
      let (n, s) ← number? bias (place + 36) (weight * (36 - t)) s
      some (d * weight + n, s)

/-- The places by which the bias grows, for a step of this size. -/
def shrink (delta places : Nat) : Nat :=
  if 455 < delta then shrink (delta / 35) (places + 36) else places + 36 * delta / (delta + 38)
termination_by delta
decreasing_by omega

/-- The bias after a step, which is larger after larger steps. -/
def adapt (delta count : Nat) (isFirst : Bool) : Nat :=
  let scaled := if isFirst then delta / 700 else delta / 2
  shrink (scaled + scaled / count) 0

/-- `text` with the characters put in that the numbers of `s` describe, `n` at most. -/
def insertAll? (n bias code index : Nat) (text s : List Char) : Option (List Char) :=
  match n, s with
  | _, [] => some text
  | 0, _ => none
  | n + 1, s => do
    let (delta, s) ← number? bias 36 1 s
    let count := text.length + 1
    let next := code + (index + delta) / count
    let place := (index + delta) % count
    if next < 0xD800 ∨ 0xDFFF < next ∧ next < 0x110000 then
      insertAll? n (adapt delta count (index == 0)) next (place + 1) (text.insertIdx place (Char.ofNat next)) s
    else none

/-- What stands before and behind the last hyphen. Without one, all stands behind. -/
def atLastHyphen (s : List Char) : List Char × List Char :=
  let behind := (s.reverse.takeWhile (· != '-')).reverse
  (s.take (s.length - behind.length - 1), behind)

/-- The text that a text in this form stands for. It holds at least one character beyond ASCII. -/
def decode? (s : List Char) : Option (List Char) :=
  let (ascii, numbers) := atLastHyphen s
  if numbers.isEmpty || s.head? == some '-' && ascii.isEmpty || ascii.any (0x80 ≤ ·.toNat) then none
  else insertAll? numbers.length 72 0x80 0 ascii numbers

end Lookout.Url.Punycode
