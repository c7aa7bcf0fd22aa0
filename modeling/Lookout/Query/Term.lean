import Lookout.Query.Outline
import Lookout.Text.WordChar

/-! The terms of a query. A term is a word, a word to be absent, or a phrase of words that stand side by
    side. Each carries a mark that says whether it joins the next one with OR; all else is joined with
    AND. Misplaced operators are dropped one by one, so every outline has its terms. -/

namespace Lookout.Query

/-- What one term asks of the text index. -/
inductive Term where
  | word (w : List Char)
  | negation (w : List Char)
  | phrase (ws : List (List Char))
  deriving Repr, DecidableEq

/-- The term in the notation of the text index. -/
def Term.text : Term → List Char
  | .word w => w
  | .negation w => '!' :: w
  | .phrase ws => '(' :: List.intercalate " <-> ".toList ws ++ [')']

/-- A member of a list of operands, with the mark that joins it to the next member by OR. -/
structure Linked (α : Type) where
  item : α
  orNext : Bool
  deriving Repr, DecidableEq

/-- The same mark on another item. -/
def Linked.map {α β : Type} (f : α → β) (x : Linked α) : Linked β := ⟨f x.item, x.orNext⟩

/-- The kinds of word in an outline. -/
inductive Token where
  | slot
  | conj
  | disj
  | neg
  | word (w : List Char)
  deriving Repr, DecidableEq

/-- The kind of a word: operators are recognised in any mixture of ASCII cases. -/
def Token.ofWord (w : List Char) : Token :=
  if w = Query.slot then .slot
  else
    let low := w.map Char.toLower
    if low = ['a', 'n', 'd'] then .conj
    else if low = ['o', 'r'] then .disj
    else if low = ['n', 'o', 't'] then .neg
    else .word w

/-- The term of a word, none if it has no word character. -/
def Term.ofWord? (negated : Bool) (w : List Char) : Option Term :=
  match Text.wordChars w with
  | [] => none
  | w => some (if negated then .negation w else .word w)

/-- The words of a quotation, each without the characters that no word has. -/
def phraseWords (phrase : List Char) : List (List Char) :=
  ((Text.words phrase).map Text.wordChars).filter (!·.isEmpty)

/-- The term of a quotation, none if it has no word. -/
def Term.ofPhrase? (phrase : List Char) : Option Term :=
  match phraseWords phrase with
  | [] => none
  | ws => some (.phrase ws)

/-- What a stretch of an outline contributes: its terms, and whether an OR stands before the first. -/
structure Stretch where
  orFirst : Bool
  terms : List (Linked Term)
  deriving Repr, DecidableEq

/-- The stretch with one more term in front, which takes the OR that stood first. -/
def Stretch.cons (t : Option Term) (s : Stretch) : Stretch :=
  match t with
  | none => s
  | some t => ⟨false, ⟨t, s.orFirst⟩ :: s.terms⟩

/-- The terms of the words that are left. `negated` says that the word before them was NOT; `phrases` are
    the quotations that have no slot yet. A NOT acts on an ordinary word alone. -/
def Stretch.ofWords (negated : Bool) (phrases : List (List Char)) : List (List Char) → Stretch
  | [] => ⟨false, []⟩
  | w :: rest =>
    match Token.ofWord w with
    | .slot => (ofWords false phrases.tail rest).cons (phrases.head?.bind Term.ofPhrase?)
    | .conj => ofWords false phrases rest
    | .disj => { ofWords false phrases rest with orFirst := true }
    | .neg => ofWords true phrases rest
    | .word w => (ofWords false phrases rest).cons (Term.ofWord? negated w)

/-- The terms of an outline. -/
def Outline.terms (o : Outline) : List (Linked Term) := (Stretch.ofWords false o.phrases o.words).terms

end Lookout.Query
