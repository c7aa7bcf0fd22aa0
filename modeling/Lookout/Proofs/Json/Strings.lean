import Lookout.Json.Value

/-! Strings in JSON texts. Each character is read from its escape, so a string is read as it was written, up to the
    quote that closes it. -/

namespace Lookout.Json

variable {rest : List Char}

/-- A string whose characters are all written on their own. -/
def partsOf (s : List Char) : List StringPart := s.map .char

theorem stringText?_partsOf (s : List Char) : stringText? (partsOf s) = some s := by
  induction s with
  | nil => rfl
  | cons c s ih =>
    rw [partsOf] at ih
    rw [partsOf, List.map_cons, stringText?, ih]
    rfl

/-- A character that was read, in front of what is read next. -/
def withChar (c : Char) (o : Option (List StringPart × List Char)) : Option (List StringPart × List Char) :=
  o.map fun (parts, r) => (.char c :: parts, r)

theorem string?_plain {c : Char} (hquote : c ≠ '"') (hslash : c ≠ '\\') (hcontrol : ¬ c.toNat < 0x20) :
    string? (c :: rest) = withChar c (string? rest) := by
  have hplain : (decide (c.toNat < 0x20) || c == '\\') = false := by simp [hslash, hcontrol]
  rw [string?.eq_13 c rest (by simpa using hquote) (by simp [hslash]) (by simp [hslash]), if_neg (by simp [hplain])]
  rfl

theorem string?_control {n : Nat} (h : n < 0x20) :
    string? ('\\' :: 'u' :: Text.padLeft 4 (Text.hexadecimal n) ++ rest) = withChar (Char.ofNat n) (string? rest) := by
  have hdigits : ∀ n < 0x20, Text.padLeft 4 (Text.hexadecimal n) = ['0', '0', (n / 16).digitChar, (n % 16).digitChar] ∧
      code? '0' '0' (n / 16).digitChar (n % 16).digitChar = some n ∧ StringPart.ofCode n = .char (Char.ofNat n) := by
    decide
  obtain ⟨htext, hcode, hpart⟩ := hdigits n h
  rw [htext]
  simp only [List.cons_append, List.nil_append, string?, hcode, Option.bind_eq_bind, Option.bind_some, hpart]
  cases string? rest <;> rfl

theorem string?_escapeChar (c : Char) : string? (escapeChar c ++ rest) = withChar c (string? rest) := by
  unfold escapeChar
  split
  case h_8 hquote hslash _ _ _ _ _ =>
    split
    · next hcontrol => rw [string?_control hcontrol, Char.ofNat_toNat]
    · next hcontrol => exact string?_plain hquote hslash hcontrol
  -- A character with an escape of its own.
  all_goals
    simp only [List.cons_append, List.nil_append, string?]
    cases string? rest <;> rfl

theorem string?_flatMap_escapeChar (s : List Char) :
    string? (s.flatMap escapeChar ++ '"' :: rest) = some (partsOf s, rest) := by
  induction s with
  | nil => rfl
  | cons c s ih =>
    rw [List.flatMap_cons, List.append_assoc, string?_escapeChar, ih]
    rfl

end Lookout.Json
