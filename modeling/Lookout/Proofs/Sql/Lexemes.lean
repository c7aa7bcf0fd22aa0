import Lookout.Proofs.Text.Integers
import Lookout.Proofs.Text.Lexemes
import Lookout.Sql.Statement

/-! The lexemes of statements, and the placeholders among them. A name, a number and a placeholder are cut by
    one rule, so `$1` does not stand in `$12`. Where no piece of a statement glues to the next one, the
    statement is cut piece by piece, and so is whatever is read off its lexemes. -/

namespace Lookout.Sql

open Text (Apart)

/-- The characters of a literal, which are not to be computed from its bytes. -/
theorem toList_literal {s : String} {l : List Char} (h : s = String.ofList l) : s.toList = l := by
  rw [h, String.toList_ofList]

/-! ### Characters -/

/-- The characters of names, numbers and placeholders. -/
def isNameChar (c : Char) : Bool := c.isAlphanum || c == '_' || c == '.' || c == '$'

/-- The characters of signs that may have several. -/
def isSignChar (c : Char) : Bool := "<>=@:".toList.contains c

/-- The characters of the literal that names the escape character. -/
def isQuoteChar (c : Char) : Bool := "'\\".toList.contains c

/-- Two neighbours belong to one lexeme. -/
def glues (x y : Char) : Bool :=
  (isNameChar x && isNameChar y) || (isSignChar x && isSignChar y) || (isQuoteChar x && isQuoteChar y)

/-- The characters that glue to none. -/
def isLoose (c : Char) : Bool := !isNameChar c && !isSignChar c && !isQuoteChar c

theorem glues_of_isLoose {x y : Char} (h : isLoose x = true ∨ isLoose y = true) : glues x y = false := by
  simp only [isLoose, Bool.and_eq_true, Bool.not_eq_true'] at h
  rcases h with ⟨⟨hn, hs⟩, hq⟩ | ⟨⟨hn, hs⟩, hq⟩ <;> simp [glues, hn, hs, hq]

/-- One digit glues like another. -/
theorem glues_digit {x : Char} (h : x.isDigit = true) (y : Char) : glues x y = glues '0' y := by
  have hname : isNameChar x = true := by simp [isNameChar, Char.isAlphanum, h]
  have hsign : isSignChar x = false := by
    refine Bool.eq_false_iff.mpr fun hs => ?_
    have hmem : ∀ c ∈ "<>=@:".toList, c.isDigit = false := by simp
    exact Bool.false_ne_true ((hmem x (List.contains_iff_mem.mp hs)).symm.trans h)
  have hquote : isQuoteChar x = false := by
    refine Bool.eq_false_iff.mpr fun hq => ?_
    have hmem : ∀ c ∈ "'\\".toList, c.isDigit = false := by simp
    exact Bool.false_ne_true ((hmem x (List.contains_iff_mem.mp hq)).symm.trans h)
  simp [glues, hname, hsign, hquote, show isNameChar '0' = true from rfl, show isSignChar '0' = false from rfl,
    show isQuoteChar '0' = false from rfl]

/-! ### Placeholders -/

/-- The placeholder of the value with this number. -/
def placeholder (n : Nat) : List Char := '$' :: Text.decimal n

/-- The number of a placeholder. -/
def placeholder? : List Char → Option Nat
  | '$' :: ds => Text.natural? ds
  | _ => none

/-- The numbers of the placeholders in a text, from left to right. -/
def placeholders (s : List Char) : List Nat := (s.splitBy glues).filterMap placeholder?

/-- The value of the placeholder with a number. -/
def valueAt? (params : List Param) : Nat → Option Param
  | 0 => none
  | k + 1 => params[k]?

/-- The values of a part keep their places, counted from the values before it. -/
theorem valueAt?_between {params : List Param} {k : Nat} {v : Param} (h : valueAt? params k = some v)
    (before after : List Param) : valueAt? (before ++ params ++ after) (k + before.length) = some v := by
  cases k with
  | zero => cases h
  | succ i =>
    have hi : i < params.length := (List.getElem?_eq_some_iff.mp h).1
    rw [Nat.add_right_comm, Nat.add_comm i, valueAt?, List.append_assoc,
      List.getElem?_append_right (Nat.le_add_right _ _), Nat.add_sub_cancel_left, List.getElem?_append_left hi]
    exact h

/-- A lexeme in which the number of a placeholder is greater by `d`. -/
def renumberLexeme (d : Nat) (l : List Char) : List Char := (placeholder? l).elim l fun k => placeholder (k + d)

/-- A text in which the number of each placeholder is greater by `d`. -/
def renumber (d : Nat) (s : List Char) : List Char := (s.splitBy glues).flatMap (renumberLexeme d)

theorem placeholder?_placeholder (n : Nat) : placeholder? (placeholder n) = some n := Text.natural?_decimal n

theorem placeholder?_eq_none {l : List Char} (h : '$' ∉ l) : placeholder? l = none := by
  unfold placeholder?
  split
  · exact absurd List.mem_cons_self h
  · rfl

theorem isNameChar_of_mem_placeholder {n : Nat} {c : Char} (h : c ∈ placeholder n) : isNameChar c = true := by
  rcases List.mem_cons.mp h with rfl | h
  · rfl
  · have hdigit := Text.isDigit_of_mem_decimal h
    simp [isNameChar, Char.isAlphanum, hdigit]

theorem splitBy_placeholder (n : Nat) : (placeholder n).splitBy glues = [placeholder n] := by
  refine List.splitBy_of_isChain (List.cons_ne_nil _ _) (List.Pairwise.isChain ?_)
  refine List.pairwise_of_forall_mem_list fun x hx y hy => ?_
  simp [glues, isNameChar_of_mem_placeholder hx, isNameChar_of_mem_placeholder hy]

/-- A text without placeholders stays as it is. -/
theorem renumber_of_notMem {s : List Char} (h : '$' ∉ s) (d : Nat) : renumber d s = s := by
  have hlexeme : ∀ l ∈ s.splitBy glues, renumberLexeme d l = l := fun l hl => by
    have hnot : '$' ∉ l := fun hmem => h <| by
      rw [← List.flatten_splitBy glues s]
      exact List.mem_flatten.mpr ⟨l, hl, hmem⟩
    rw [renumberLexeme, placeholder?_eq_none hnot]
    rfl
  rw [renumber, List.flatMap_congr hlexeme, List.flatMap_id', List.flatten_splitBy]

theorem placeholders_of_notMem {s : List Char} (h : '$' ∉ s) : placeholders s = [] := by
  refine List.filterMap_eq_nil_iff.mpr fun l hl => placeholder?_eq_none fun hmem => h ?_
  rw [← List.flatten_splitBy glues s]
  exact List.mem_flatten.mpr ⟨l, hl, hmem⟩

theorem renumber_placeholder (d n : Nat) : renumber d (placeholder n) = placeholder (n + d) := by
  simp [renumber, splitBy_placeholder, renumberLexeme, placeholder?_placeholder]

theorem placeholders_placeholder (n : Nat) : placeholders (placeholder n) = [n] := by
  simp [placeholders, splitBy_placeholder, placeholder?_placeholder]

theorem renumber_append {s t : List Char} (d : Nat) (h : Apart glues s t) :
    renumber d (s ++ t) = renumber d s ++ renumber d t := by
  rw [renumber, List.splitBy_append h, List.flatMap_append]
  rfl

theorem placeholders_append {s t : List Char} (h : Apart glues s t) :
    placeholders (s ++ t) = placeholders s ++ placeholders t := by
  rw [placeholders, List.splitBy_append h, List.filterMap_append]
  rfl

/-! ### Pieces -/

@[simp] theorem valuesOf_nil : valuesOf [] = [] := rfl

@[simp] theorem valuesOf_raw (s : String) (rest : List Piece) : valuesOf (.raw s :: rest) = valuesOf rest := rfl

@[simp] theorem valuesOf_value (v : Param) (rest : List Piece) :
    valuesOf (.value v :: rest) = v :: valuesOf rest := rfl

/-- The first character of a piece. -/
def Piece.head? : Piece → Option Char
  | .raw s => s.toList.head?
  | .value _ => some '$'

/-- A character that glues like the last one of a piece: one digit is like another. -/
def Piece.last? : Piece → Option Char
  | .raw s => s.toList.getLast?
  | .value _ => some '0'

/-- The pieces do not glue at their seam. -/
def Piece.isApart (p q : Piece) : Bool := p.last?.all fun x => q.head?.all fun y => !glues x y

/-- The piece is no empty text and no text with a placeholder. -/
def Piece.isPlain : Piece → Bool
  | .raw s => !s.toList.isEmpty && !s.toList.contains '$'
  | .value _ => true

/-- No piece glues to the next one, and all of them are plain. -/
def isParted : List Piece → Bool
  | [] => true
  | [p] => p.isPlain
  | p :: q :: rest => p.isPlain && p.isApart q && isParted (q :: rest)

/-- Pieces that stay apart when they are put together, and have their placeholders from values only. -/
structure Parted (pieces : List Piece) : Prop where
  seams : pieces.IsChain fun p q => p.isApart q = true
  plain : ∀ p ∈ pieces, p.isPlain = true

/-- A text that stays apart from all before and behind it. -/
def isSeparator (s : String) : Bool :=
  (Piece.raw s).isPlain && s.toList.head?.any isLoose && s.toList.getLast?.any isLoose

theorem separated_cons (sep : String) (g : List Piece) (groups : List (List Piece)) :
    separated sep (g :: groups) = g ++ groups.flatMap fun h => .raw sep :: h := by
  induction groups generalizing g with
  | nil => simp [separated]
  | cons h rest ih =>
    rw [separated, ih, List.flatMap_cons, List.cons_append]
    simp

namespace Parted

variable {ps qs : List Piece}

theorem nil : Parted [] := ⟨List.isChain_nil, by simp⟩

theorem tail {p : Piece} (h : Parted (p :: ps)) : Parted ps :=
  ⟨h.seams.tail, fun q hq => h.plain q (List.mem_cons_of_mem _ hq)⟩

theorem notMem {s : String} (h : Parted ps) (hs : .raw s ∈ ps) : '$' ∉ s.toList := by
  have hplain := h.plain _ hs
  simp only [Piece.isPlain, Bool.and_eq_true, Bool.not_eq_true'] at hplain
  simpa using hplain.2

theorem of_isParted {ps : List Piece} (h : isParted ps = true) : Parted ps := by
  fun_induction isParted ps with
  | case1 => exact nil
  | case2 p => exact ⟨List.isChain_singleton p, by simpa using h⟩
  | case3 p q rest ih =>
    rw [Bool.and_eq_true, Bool.and_eq_true] at h
    obtain ⟨⟨hp, hseam⟩, hrest⟩ := h
    exact ⟨List.isChain_cons_cons.mpr ⟨hseam, (ih hrest).seams⟩, List.forall_mem_cons.mpr ⟨hp, (ih hrest).plain⟩⟩

theorem append (hp : Parted ps) (hq : Parted qs) (h : ∀ p ∈ ps.getLast?, ∀ q ∈ qs.head?, p.isApart q = true) :
    Parted (ps ++ qs) where
  seams := List.isChain_append.mpr ⟨hp.seams, hq.seams, h⟩
  plain p hmem := (List.mem_append.mp hmem).elim (hp.plain p) (hq.plain p)

/-- A text with a loose start stays apart from all before it. -/
theorem append_raw {s : String} (hs : s.toList.head?.any isLoose = true) (hp : Parted ps)
    (hq : Parted (.raw s :: qs)) : Parted (ps ++ .raw s :: qs) := by
  refine hp.append hq fun p _ q hq => ?_
  obtain rfl := Option.some.inj hq
  obtain ⟨c, hc, hloose⟩ := (Option.any_eq_true _ _).mp hs
  simp [Piece.isApart, Piece.head?, hc, glues_of_isLoose (.inr hloose)]

/-- A text with a loose end stays apart from all behind it. -/
theorem cons_raw {s : String} (hs : (Piece.raw s).isPlain = true) (hlast : s.toList.getLast?.any isLoose = true)
    (h : Parted ps) : Parted (.raw s :: ps) := by
  have hraw : Parted [.raw s] := of_isParted hs
  refine hraw.append h fun p hp q _ => ?_
  obtain rfl := Option.some.inj hp
  obtain ⟨c, hc, hloose⟩ := (Option.any_eq_true _ _).mp hlast
  simp [Piece.isApart, Piece.last?, hc, glues_of_isLoose (.inl hloose)]

/-- Groups, each behind a separator, stay apart from each other and from all before them. -/
theorem append_flatMap {α : Type} {sep : String} (hsep : isSeparator sep = true) {f : α → List Piece} {xs : List α}
    (hp : Parted ps) (h : ∀ x ∈ xs, Parted (f x)) : Parted (ps ++ xs.flatMap fun x => .raw sep :: f x) := by
  obtain ⟨⟨hplain, hhead⟩, hlast⟩ : ((Piece.raw sep).isPlain = true ∧ sep.toList.head?.any isLoose = true) ∧
      sep.toList.getLast?.any isLoose = true := by simpa [isSeparator] using hsep
  induction xs generalizing ps with
  | nil => simpa using hp
  | cons x xs ih =>
    obtain ⟨hx, hxs⟩ := List.forall_mem_cons.mp h
    rw [List.flatMap_cons, ← List.append_assoc]
    exact ih (hp.append_raw hhead (hx.cons_raw hplain hlast)) hxs

theorem separated {sep : String} (hsep : isSeparator sep = true) {groups : List (List Piece)}
    (h : ∀ g ∈ groups, Parted g) : Parted (separated sep groups) := by
  cases groups with
  | nil => exact nil
  | cons g rest =>
    obtain ⟨hg, hrest⟩ := List.forall_mem_cons.mp h
    rw [separated_cons]
    exact hg.append_flatMap hsep hrest

end Parted

/-- The text of a piece, where a value has this number. -/
def Piece.text (n : Nat) : Piece → List Char
  | .raw s => s.toList
  | .value _ => placeholder n

/-- The number of the first value behind a piece, when that of the first value from it on is `n`. -/
def Piece.next (n : Nat) : Piece → Nat
  | .raw _ => n
  | .value _ => n + 1

theorem renderFrom_cons (n : Nat) (p : Piece) (rest : List Piece) :
    renderFrom n (p :: rest) = p.text n ++ renderFrom (p.next n) rest := by
  cases p <;> rfl

theorem next_add (n : Nat) (p : Piece) (rest : List Piece) :
    p.next n + (valuesOf rest).length = n + (valuesOf (p :: rest)).length := by
  cases p with
  | raw s => rfl
  | value v => simp [Piece.next, valuesOf, Nat.add_assoc, Nat.add_comm 1]

/-- The results of a function on the texts of pieces, whose first value has the number `n`. -/
def flatMapFrom {β : Type} (f : List Char → List β) (n : Nat) : List Piece → List β
  | [] => []
  | p :: rest => f (p.text n) ++ flatMapFrom f (p.next n) rest

theorem flatMapFrom_append {β : Type} (f : List Char → List β) (n : Nat) (xs ys : List Piece) :
    flatMapFrom f n (xs ++ ys) = flatMapFrom f n xs ++ flatMapFrom f (n + (valuesOf xs).length) ys := by
  induction xs generalizing n with
  | nil => rfl
  | cons x xs ih => rw [List.cons_append, flatMapFrom, flatMapFrom, ih, next_add, List.append_assoc]

/-- The text of a piece stays apart from the text behind it. -/
theorem apart_renderFrom {p q : Piece} (h : p.isApart q = true) (hq : q.isPlain = true) (n m : Nat)
    (rest : List Piece) : Apart glues (p.text n) (renderFrom m (q :: rest)) := by
  have hhead : (renderFrom m (q :: rest)).head? = q.head? := by
    cases q with
    | value v => rfl
    | raw s =>
      obtain ⟨c, cs, hs⟩ := List.exists_cons_of_ne_nil (l := s.toList) fun hnil => by simp [Piece.isPlain, hnil] at hq
      simp [renderFrom, Piece.head?, hs]
  intro x hx y hy
  rw [hhead] at hy
  have hglue : ∀ z ∈ p.last?, glues z y = false := by
    simpa [Piece.isApart, Option.mem_def.mp hy, Option.all_eq_true] using h
  cases p with
  | raw s => exact hglue x hx
  | value v =>
    rw [Piece.text, placeholder, List.getLast?_cons_of_ne_nil (Text.decimal_ne_nil n)] at hx
    rw [glues_digit (Text.isDigit_of_mem_decimal (List.mem_of_getLast? hx))]
    exact hglue '0' rfl

/-- A function that can be applied to the sides of a seam can be applied piece by piece. -/
theorem flatMapFrom_eq {β : Type} {f : List Char → List β} (hnil : f [] = [])
    (hf : ∀ s t, Apart glues s t → f (s ++ t) = f s ++ f t) {pieces : List Piece} (h : Parted pieces) (n : Nat) :
    f (renderFrom n pieces) = flatMapFrom f n pieces := by
  induction pieces generalizing n with
  | nil => exact hnil
  | cons p rest ih =>
    have hseam : Apart glues (p.text n) (renderFrom (p.next n) rest) := by
      cases rest with
      | nil => exact fun x _ y hy => by cases hy
      | cons q rest =>
        have hq := h.plain q (List.mem_cons_of_mem _ List.mem_cons_self)
        exact apart_renderFrom (List.isChain_cons_cons.mp h.seams).1 hq n _ rest
    rw [renderFrom_cons, hf _ _ hseam, ih h.tail, flatMapFrom]

/-- The numbers of the values of a part are greater by the number of values before it. -/
theorem renumber_renderFrom {pieces : List Piece} (h : Parted pieces) (d n : Nat) :
    renumber d (renderFrom n pieces) = renderFrom (n + d) pieces := by
  rw [flatMapFrom_eq rfl (fun _ _ => renumber_append d) h]
  induction pieces generalizing n with
  | nil => rfl
  | cons p rest ih =>
    have hpiece : renumber d (p.text n) = p.text (n + d) ∧ p.next n + d = p.next (n + d) := by
      cases p with
      | raw s => exact ⟨renumber_of_notMem (h.notMem List.mem_cons_self) d, rfl⟩
      | value v => exact ⟨renumber_placeholder d n, Nat.add_right_comm n 1 d⟩
    rw [flatMapFrom, ih h.tail, hpiece.1, hpiece.2, renderFrom_cons]

/-- The placeholders of a statement are those of its values. -/
theorem placeholders_renderFrom {pieces : List Piece} (h : Parted pieces) (n : Nat) :
    placeholders (renderFrom n pieces) = List.range' n (valuesOf pieces).length := by
  rw [flatMapFrom_eq rfl (fun _ _ => placeholders_append) h]
  induction pieces generalizing n with
  | nil => rfl
  | cons p rest ih =>
    rw [flatMapFrom, ih h.tail]
    cases p with
    | raw s =>
      have hraw : placeholders s.toList = [] := placeholders_of_notMem (h.notMem List.mem_cons_self)
      rw [Piece.text, hraw]
      rfl
    | value v => rw [Piece.text, placeholders_placeholder]; rfl

end Lookout.Sql
