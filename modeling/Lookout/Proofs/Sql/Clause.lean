import Lookout.Proofs.Sql.Formula

/-! The conditions that pieces write. The text of such pieces reads as a condition, whatever the number of their
    first value, and with the values of the statement its placeholders stand for the values of the pieces.
    Pieces that write conditions are put together by the connectives, which group as their strength says. -/

namespace Lookout.Sql

open Text (Infix)

/-! ### Tokens -/

theorem tokens_append {s t : List Char} (h : Text.Apart glues s t) : tokens (s ++ t) = tokens s ++ tokens t := by
  rw [tokens, Text.lexemes_append h, List.map_append]
  rfl

theorem tokens_eq {s : List Char} {ts : List String} (h : Text.lexemes glues s = ts.map String.toList) :
    tokens s = ts := by
  rw [tokens, h, List.map_map]
  simp [Function.comp_def]

theorem tokens_literal {s : String} {l : List Char} {ts : List String} (hs : s = String.ofList l)
    (h : Text.lexemes glues l = ts.map String.toList) : tokens s.toList = ts := by
  rw [toList_literal hs, tokens_eq h]

/-- The token of the value with this number. -/
def valueToken (n : Nat) : String := String.ofList (placeholder n)

theorem tokens_placeholder (n : Nat) : tokens (placeholder n) = [valueToken n] := by
  have hblank : Text.isBlankText (placeholder n) = false := rfl
  simp [tokens, Text.lexemes, splitBy_placeholder, hblank, valueToken]

theorem placeholder?_valueToken (n : Nat) : placeholder? (valueToken n).toList = some n := by
  rw [valueToken, String.toList_ofList, placeholder?_placeholder]

/-- The tokens of pieces, whose first value has the number `n`. -/
def tokensFrom (n : Nat) (pieces : List Piece) : List String := flatMapFrom tokens n pieces

theorem tokens_renderFrom {pieces : List Piece} (h : Parted pieces) (n : Nat) :
    tokens (renderFrom n pieces) = tokensFrom n pieces :=
  flatMapFrom_eq rfl (fun _ _ => tokens_append) h n

theorem tokensFrom_append (n : Nat) (xs ys : List Piece) :
    tokensFrom n (xs ++ ys) = tokensFrom n xs ++ tokensFrom (n + (valuesOf xs).length) ys :=
  flatMapFrom_append tokens n xs ys

@[simp] theorem tokensFrom_nil (n : Nat) : tokensFrom n [] = [] := rfl

@[simp] theorem tokensFrom_raw (n : Nat) (s : String) (rest : List Piece) :
    tokensFrom n (.raw s :: rest) = tokens s.toList ++ tokensFrom n rest := rfl

@[simp] theorem tokensFrom_value (n : Nat) (v : Param) (rest : List Piece) :
    tokensFrom n (.value v :: rest) = valueToken n :: tokensFrom (n + 1) rest := by
  rw [tokensFrom, flatMapFrom, Piece.text, tokens_placeholder]
  rfl

/-! ### Conditions in pieces -/

/-- The pieces write the condition `F`, which joins its parts by no looser connectives than `ops`. -/
structure Writes (ops : List (Infix String (Formula Nat))) (pieces : List Piece) (F : Formula Param) : Prop where
  parted : Parted pieces
  reads : ∀ n, ∃ f, Formula.operators.Derives ops (tokensFrom n pieces) f ∧
    ∀ before after, n = before.length + 1 → f.bind? (before ++ valuesOf pieces ++ after) = some F

namespace Connective

/-- How a connective is written. -/
def word : Connective → String
  | .and => "AND"
  | .or => "OR"

/-- A connective between two conditions. -/
def separator : Connective → String
  | .and => " AND "
  | .or => " OR "

/-- The connectives that bind tighter than this one. -/
def tighter : Connective → List (Infix String (Formula Nat))
  | .and => []
  | .or => [("AND", .join .and)]

/-- The connective with the tighter ones. -/
def level (c : Connective) : List (Infix String (Formula Nat)) := (c.word, .join c) :: c.tighter

theorem isSeparator_separator (c : Connective) : isSeparator c.separator = true := by
  cases c <;> rfl

theorem tokens_separator (c : Connective) : tokens c.separator.toList = [c.word] := by
  cases c <;> decide

end Connective

namespace Writes

variable {ops : List (Infix String (Formula Nat))} {ps qs : List Piece} {F G : Formula Param}

theorem atom {s : String} {f : Formula Nat} (hs : isParted [.raw s] = true)
    (hf : Formula.atom? (tokens s.toList) = some f) (hF : ∀ params, f.bind? params = some F) :
    Writes [] [.raw s] F := by
  refine ⟨.of_isParted hs, fun n => ⟨f, ?_, fun _ _ _ => hF _⟩⟩
  rw [tokensFrom_raw, tokensFrom_nil, List.append_nil]
  exact .atom hf

theorem compare {pieces : List Piece} (hparted : Parted pieces) (r : Comparison) {column : String}
    (hcolumn : isQualified column = true) {p : Param} (hvalues : valuesOf pieces = [p])
    (htokens : ∀ n, tokensFrom n pieces = column :: r.tokens (valueToken n)) :
    Writes [] pieces (.compare r column p) := by
  refine ⟨hparted, fun n => ⟨.compare r column n, ?_, fun before after hn => ?_⟩⟩
  · rw [htokens]
    exact .atom (Formula.atom?_comparison r hcolumn (placeholder?_valueToken n))
  · subst hn
    have hp : valueAt? [p] 1 = some p := rfl
    rw [Formula.bind?, hvalues, Nat.add_comm, valueAt?_between hp]
    rfl

/-- A condition without loose connectives stands where they are allowed. -/
theorem loosen (h : Writes ops ps F) (looser : List (Infix String (Formula Nat))) : Writes (looser ++ ops) ps F := by
  refine ⟨h.parted, fun n => ?_⟩
  obtain ⟨f, hf, hbind⟩ := h.reads n
  exact ⟨f, hf.loosen looser, hbind⟩

/-- Two conditions with a connective between them. The second one joins its parts by tighter ones. -/
theorem join {c : Connective} (hp : Writes c.level ps F) (hq : Writes c.tighter qs G) :
    Writes c.level (ps ++ .raw c.separator :: qs) (.join c F G) := by
  refine ⟨?_, fun n => ?_⟩
  · have hparted : Parted (ps ++ [qs].flatMap fun group => .raw c.separator :: group) :=
      hp.parted.append_flatMap c.isSeparator_separator fun group hgroup => List.mem_singleton.mp hgroup ▸ hq.parted
    simpa using hparted
  · obtain ⟨f, hf, hF⟩ := hp.reads n
    obtain ⟨g, hg, hG⟩ := hq.reads (n + (valuesOf ps).length)
    refine ⟨.join c f g, ?_, fun before after hn => ?_⟩
    · rw [tokensFrom_append, tokensFrom_raw, c.tokens_separator]
      exact .binary hf hg
    · have hleft := hF before (valuesOf qs ++ after) hn
      have hright := hG (before ++ valuesOf ps) after (by rw [List.length_append]; omega)
      simp only [valuesOf_append, valuesOf_raw, List.append_assoc, Formula.bind?] at hleft hright ⊢
      rw [hleft, hright]
      rfl

/-- The conditions between one connective are joined from the left. -/
theorem joins {α : Type} {c : Connective} {P : α → List Piece} {Φ : α → Formula Param} {xs : List α}
    (hp : Writes c.level ps F) (hxs : ∀ x ∈ xs, Writes c.tighter (P x) (Φ x)) :
    Writes c.level (ps ++ xs.flatMap fun x => .raw c.separator :: P x) (xs.foldl (fun F x => .join c F (Φ x)) F) := by
  induction xs generalizing ps F with
  | nil => simpa using hp
  | cons x xs ih =>
    obtain ⟨hx, hrest⟩ := List.forall_mem_cons.mp hxs
    rw [List.flatMap_cons, ← List.append_assoc]
    exact ih (hp.join hx) hrest

theorem group (h : Writes Formula.operators.binary ps F) : Writes [] (.raw "(" :: ps ++ [.raw ")"]) F := by
  refine ⟨(h.parted.cons_raw rfl rfl).append_raw rfl (.of_isParted rfl), fun n => ?_⟩
  obtain ⟨f, hf, hF⟩ := h.reads n
  refine ⟨f, ?_, fun before after hn => ?_⟩
  · have hopening : tokens "(".toList = ["("] := by decide
    have hclosing : tokens ")".toList = [")"] := by decide
    rw [tokensFrom_append, tokensFrom_raw, tokensFrom_raw, hopening, hclosing, tokensFrom_nil]
    exact .group hf
  · simpa using hF before after hn

/-- Other pieces with the same tokens and values write the same condition. -/
theorem of_tokensFrom (h : Writes ops ps F) (hparted : Parted qs) (htokens : ∀ n, tokensFrom n qs = tokensFrom n ps)
    (hvalues : valuesOf qs = valuesOf ps) : Writes ops qs F := by
  refine ⟨hparted, fun n => ?_⟩
  rw [htokens, hvalues]
  exact h.reads n

/-- What a whole text of pieces reads as, when it follows others. -/
theorem sentence (h : Writes Formula.operators.binary ps F) (before after : List Param) :
    ∃ f, (∀ g, Formula.Sentence (renderFrom (before.length + 1) ps) g ↔ g = f) ∧
      f.bind? (before ++ valuesOf ps ++ after) = some F := by
  obtain ⟨f, hf, hF⟩ := h.reads (before.length + 1)
  rw [← tokens_renderFrom h.parted] at hf
  exact ⟨f, fun g => ⟨fun hg => Formula.Sentence.unique hg hf, fun he => he ▸ hf⟩, hF before after rfl⟩

end Writes
end Lookout.Sql
