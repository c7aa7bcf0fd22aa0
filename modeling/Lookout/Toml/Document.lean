import Lookout.Toml.Quoted
import Lookout.Toml.Scalar

/-! TOML documents. A document is read into its lines, and these are put together: every line sets a key in the
    table of the last header, and a header names a table that no line has made before, unless only headers
    below it have. -/

namespace Lookout.Toml

/-- A key with the keys in front of it. -/
structure Path where
  front : List Key
  last : Key
  deriving Repr, DecidableEq

/-- A line of a document. -/
inductive Line where
  | assign (path : Path) (v : Value)
  | header (path : Path)
  /-- A header that may be repeated. -/
  | repeatedHeader (path : Path)
  deriving Repr

/-! ### Between the parts -/

def skipBlanks (s : List Char) : List Char := s.dropWhile fun c => c == ' ' || c == '\t'

/-- The rest behind blanks, line ends and comments; while `inComment`, up to the end of the line. -/
def skipLines? : Bool → List Char → Option (List Char)
  | _, [] => some []
  | _, '\n' :: r => skipLines? false r
  | _, '\r' :: '\n' :: r => skipLines? false r
  | false, ' ' :: r => skipLines? false r
  | false, '\t' :: r => skipLines? false r
  | false, '#' :: r => skipLines? true r
  | false, s => some s
  | true, c :: r => if isPlain c then skipLines? true r else none

/-- The rest behind the end of a line, on which only blanks and a comment may stand. -/
def endLine? : Bool → List Char → Option (List Char)
  | _, [] => some []
  | _, '\n' :: r => some r
  | _, '\r' :: '\n' :: r => some r
  | false, ' ' :: r => endLine? false r
  | false, '\t' :: r => endLine? false r
  | false, '#' :: r => endLine? true r
  | false, _ => none
  | true, c :: r => if isPlain c then endLine? true r else none

/-! ### Keys -/

/-- A character of a key without quotes. -/
def isKeyChar (c : Char) : Bool := c.isAlphanum || c == '_' || c == '-'

/-- One key, and the rest. -/
def key? : List Char → Option (Key × List Char)
  | '"' :: r => basic? r
  | '\'' :: r => literal? r
  | s =>
    match s.takeWhile isKeyChar with
    | [] => none
    | k => some (k, s.dropWhile isKeyChar)

/-- The greatest number of keys with dots between them, and the greatest depth of arrays and tables inside one
    another. -/
def nestingLimit : Nat := 80

/-- Keys with dots between them, and the rest behind blanks. There are `n` at most. -/
def path? : Nat → List Char → Option (Path × List Char)
  | 0, _ => none
  | n + 1, s => do
    let (k, r) ← key? (skipBlanks s)
    match skipBlanks r with
    | '.' :: r =>
      let (p, r) ← path? n r
      some (⟨k :: p.front, p.last⟩, r)
    | r => some (⟨[], k⟩, r)

/-! ### Values -/

mutual

/-- A value, and the rest. The first number bounds what is read; the second is how deep arrays and tables
    may still nest. -/
def value? : Nat → Nat → List Char → Option (Value × List Char)
  | 0, _, _ => none
  | n + 1, depth, s =>
    match s with
    | '[' :: r =>
      match depth with
      | 0 => none
      | d + 1 => (items? n d r).map fun (items, r) => (.array items, r)
    | '{' :: r =>
      match depth with
      | 0 => none
      | d + 1 => (fields? n d [] r).map fun (fields, r) => (.table .inline fields, r)
    | '"' :: _ => (string? s).map fun (text, r) => (.string text, r)
    | '\'' :: _ => (string? s).map fun (text, r) => (.string text, r)
    | _ =>
      let (w, r) := word s
      (scalar? w).map fun v => (v, r)

/-- The items of an array up to its closing bracket. A comma may stand behind the last. -/
def items? : Nat → Nat → List Char → Option (List Value × List Char)
  | 0, _, _ => none
  | n + 1, depth, s => do
    match ← skipLines? false s with
    | ']' :: r => some ([], r)
    | s =>
      let (v, r) ← value? n depth s
      match ← skipLines? false r with
      | ']' :: r => some ([v], r)
      | ',' :: r => (items? n depth r).map fun (vs, r) => (v :: vs, r)
      | _ => none

/-- The entries of a table in braces, added to `done`, up to its closing brace. A comma may stand behind the
    last. -/
def fields? : Nat → Nat → Entries → List Char → Option (Entries × List Char)
  | 0, _, _, _ => none
  | n + 1, depth, done, s => do
    match ← skipLines? false s with
    | '}' :: r => some (done, r)
    | s =>
      let (p, r) ← path? nestingLimit s
      let .cons '=' r := r | none
      let (v, r) ← value? n depth (skipBlanks r)
      let done ← done.put .inline p.front p.last v
      match ← skipLines? false r with
      | '}' :: r => some (done, r)
      | ',' :: r => fields? n depth done r
      | _ => none

end

/-! ### Lines -/

/-- One line, and the rest of the document. -/
def line? (s : List Char) : Option (Line × List Char) :=
  match s with
  | '[' :: '[' :: r => do
    let (p, r) ← path? nestingLimit r
    let .cons ']' (.cons ']' r) := r | none
    let r ← endLine? false r
    some (.repeatedHeader p, r)
  | '[' :: r => do
    let (p, r) ← path? nestingLimit r
    let .cons ']' r := r | none
    let r ← endLine? false r
    some (.header p, r)
  | s => do
    let (p, r) ← path? nestingLimit s
    let .cons '=' r := r | none
    let (v, r) ← value? (2 * r.length + 2) nestingLimit (skipBlanks r)
    let r ← endLine? false r
    some (.assign p v, r)

/-- All lines of a document. The number bounds how many there are. -/
def lines? : Nat → List Char → Option (List Line)
  | 0, _ => none
  | n + 1, s => do
    match ← skipLines? false s with
    | [] => some []
    | s =>
      let (l, r) ← line? s
      let ls ← lines? n r
      some (l :: ls)

/-! ### Putting the lines together -/

/-- The lines up to the next header, set in a table. -/
def assignAll (es : Entries) : List Line → Option Entries
  | .assign p v :: rest => do assignAll (← es.put .header p.front p.last v) rest
  | _ => some es

/-- The table of a header. It may be there already if only headers below it made it. -/
def openTable (k : Key) (body : List Line) (es : Entries) : Option Entries := do
  let start ← match es.lookup k with
    | none => some []
    | some (.table .implicit child) => some child
    | some _ => none
  some (es.set k (.table .header (← assignAll start body)))

/-- One more table of a repeated header. -/
def openNext (k : Key) (body : List Line) (es : Entries) : Option Entries := do
  let before ← match es.lookup k with
    | none => some []
    | some (.tables items) => some items
    | some _ => none
  some (es.set k (.tables (before ++ [← assignAll [] body])))

/-- The document of its lines, of which those before the first header are in `es`. -/
def assemble (es : Entries) : List Line → Option Entries
  | [] => some es
  | .assign .. :: rest => assemble es rest
  | .header p :: rest => do
    assemble (← Entries.change false (fun _ => openTable p.last rest) p.front .header es) rest
  | .repeatedHeader p :: rest => do
    assemble (← Entries.change false (fun _ => openNext p.last rest) p.front .header es) rest

/-- The entries of a document. A byte order mark may stand in front. -/
def document? (s : List Char) : Option Entries := do
  let s := match s with
    | '\uFEFF' :: r => r
    | s => s
  let ls ← lines? (s.length + 1) s
  assemble (← assignAll [] ls) ls

end Lookout.Toml
