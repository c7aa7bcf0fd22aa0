import Lookout.Proofs.Sql.Session
import Lookout.Proofs.Text.Lines
import Lookout.Proofs.Text.Trim
import Lookout.Storage.Schema

/-! What the schema says. Its outline stands for its parts, one after another. Each part ends behind a semicolon, so it
    has statements of its own, and each of these creates a table or an index. -/

namespace Lookout.Storage.Schema

open Sql (ColumnDefinition Creation IndexDefinition)
open Text (cut isBlank isBlankText trim)

/-! ### The text -/

section
variable {name : List Char}

/-- The line that asks for a part. -/
def request (name : List Char) : List Char := directive.toList ++ name

theorem inclusion?_request (hne : name ≠ []) (hname : trim name = name) : inclusion? (request name) = some name := by
  have hhead : ∀ c ∈ (request name).head?, isBlank c = false := by
    rintro c ⟨⟩
    decide
  have hlast : ∀ c ∈ (request name).getLast?, isBlank c = false := by
    intro c hc
    rw [request, List.getLast?_append_of_ne_nil _ hne, ← hname] at hc
    exact Text.getLast_trim name c hc
  have hprefix : directive.toList.isPrefixOf? (request name) = some name :=
    List.isPrefixOf?_eq_some_iff_append_eq.mpr rfl
  rw [inclusion?, Text.trim_of_ends hhead hlast, hprefix, Option.map_some, hname]

theorem expandLine_request {part : String} (hne : name ≠ []) (hname : trim name = name)
    (hpart : parts.lookup (String.ofList name) = some part) : expandLine (request name) = part.toList := by
  rw [expandLine, inclusion?_request hne hname, Option.bind_some, hpart]
  rfl

end

/-- The parts of the schema, each with a line feed. -/
theorem toList_text : text.toList = parts.flatMap fun p => p.2.toList ++ ['\n'] := by
  have houtline : outline.toList = (parts.map fun p => request p.1.toList).flatMap (· ++ ['\n']) := by decide +kernel
  have hnames : ∀ p ∈ parts, p.1.toList ≠ [] ∧ trim p.1.toList = p.1.toList ∧
      '\n' ∉ request p.1.toList ∧ (request p.1.toList).getLast? ≠ some '\r' := by decide +kernel
  have hlines : ∀ line ∈ parts.map fun p => request p.1.toList, '\n' ∉ line ∧ line.getLast? ≠ some '\r' :=
    List.forall_mem_map.mpr fun p hp => (hnames p hp).2.2
  have hexpand : ∀ p ∈ parts, expandLine (request p.1.toList) = p.2.toList := by
    intro p hp
    have hpart : parts.lookup p.1 = some p.2 := by
      simp only [parts, List.mem_cons, List.not_mem_nil, or_false] at hp
      rcases hp with rfl | rfl <;> simp [parts, List.lookup_cons]
    exact expandLine_request (hnames p hp).1 (hnames p hp).2.1 (by rw [String.ofList_toList, hpart])
  rw [text, String.toList_ofList, expand, houtline, Text.lines_flatMap hlines, List.flatMap_map]
  exact List.flatMap_congr fun p hp => by rw [hexpand p hp]

/-! ### The statements -/

section
variable {s t b : List Char} {parts : List (List Char)}

/-- The statements are the pieces of the text, trimmed, less the blank ones. -/
theorem exists_pieces (s : List Char) :
    ∃ pieces : List (List Char), [';'].intercalate pieces = s ∧ (∀ piece ∈ pieces, ';' ∉ piece) ∧
      (statementsOf s).map String.toList = (pieces.map trim).filter (!·.isEmpty) := by
  refine ⟨cut (· == ';') s, Text.intercalate_cut ';' s, fun piece hpiece hmem => ?_, ?_⟩
  · exact Bool.false_ne_true ((Text.not_of_mem_cut hpiece hmem).symm.trans (beq_self_eq_true ';'))
  · simp [statementsOf, Function.comp_def]

theorem mem_of_mem_statementsOf {statement : String} (h : statement ∈ statementsOf s) {c : Char}
    (hc : c ∈ statement.toList) : c ∈ s := by
  obtain ⟨x, hx, rfl⟩ := List.mem_map.mp h
  obtain ⟨piece, hpiece, rfl⟩ := List.mem_map.mp (List.mem_filter.mp hx).1
  rw [String.toList_ofList] at hc
  have hflat : c ∈ (cut (· == ';') s).flatten := List.mem_flatten.mpr ⟨piece, hpiece, Text.mem_of_mem_trim hc⟩
  rw [Text.flatten_cut] at hflat
  exact (List.mem_filter.mp hflat).1

theorem statementsOf_prepend (hb : isBlankText b = true) (s : List Char) : statementsOf (b ++ s) = statementsOf s := by
  have hfree : ∀ c ∈ b, (c == ';') = false := by
    intro c hc
    refine beq_eq_false_iff_ne.mpr ?_
    rintro rfl
    exact absurd (List.all_eq_true.mp hb ';' hc) (by decide)
  obtain ⟨first, rest, hs, hbs⟩ := Text.exists_cut_prepend hfree s
  rw [statementsOf, statementsOf, hs, hbs, List.map_cons, List.map_cons, Text.trim_prepend hb]

theorem statementsOf_append (s t : List Char) : statementsOf (s ++ ';' :: t) = statementsOf s ++ statementsOf t := by
  have hcut : cut (· == ';') (s ++ ';' :: t) = cut (· == ';') s ++ cut (· == ';') t :=
    Text.cut_append_separator (by decide) s t
  rw [statementsOf, hcut, List.map_append, List.filter_append, List.map_append]
  rfl

/-- The text ends behind a semicolon, but for a line feed. -/
def EndsStatement (s : List Char) : Prop := [';', '\n'] <:+ s

theorem EndsStatement.statementsOf_append (h : EndsStatement s) (t : List Char) :
    statementsOf (s ++ t) = statementsOf s ++ statementsOf t := by
  obtain ⟨before, rfl⟩ := h
  have hleft : statementsOf (before ++ [';', '\n']) = statementsOf before ++ [] :=
    Schema.statementsOf_append before ['\n']
  have hright : statementsOf (before ++ [';', '\n'] ++ t) = statementsOf before ++ statementsOf (['\n'] ++ t) := by
    rw [List.append_assoc]
    exact Schema.statementsOf_append before ('\n' :: t)
  rw [hleft, List.append_nil, hright, statementsOf_prepend rfl]

/-- Parts that end behind semicolons have the statements that each of them has. -/
theorem statementsOf_flatMap (h : ∀ part ∈ parts, EndsStatement part) :
    statementsOf (parts.flatMap (· ++ ['\n'])) = parts.flatMap statementsOf := by
  induction parts with
  | nil => rfl
  | cons part parts ih =>
    obtain ⟨hpart, hparts⟩ := List.forall_mem_cons.mp h
    rw [List.flatMap_cons, List.append_assoc, hpart.statementsOf_append, statementsOf_prepend rfl, ih hparts]
    rfl

end

/-! ### What is created -/

/-- The columns of the table of cameras. -/
def cameraColumns : List ColumnDefinition :=
  [⟨"camera_id", "text", [.primaryKey]⟩,
   ⟨"name", "text", [.notNull]⟩,
   ⟨"created_at", "timestamptz", [.notNull, .default (.call "now")]⟩]

/-- The columns of the table of events. -/
def eventColumns : List ColumnDefinition :=
  [⟨"event_id", "bigserial", [.primaryKey]⟩,
   ⟨"camera_id", "text", [.notNull, .references "cameras" "camera_id"]⟩,
   ⟨"started_at", "timestamptz", [.notNull]⟩,
   ⟨"ended_at", "timestamptz", [.nullable]⟩,
   ⟨"risk_score", "integer", [.nullable]⟩,
   ⟨"risk_level", "text", [.nullable]⟩,
   ⟨"summary", "text", [.nullable]⟩,
   ⟨"reasoning", "text", [.nullable]⟩,
   ⟨"reviewed", "boolean", [.notNull, .default (.constant "FALSE")]⟩,
   ⟨"object_types", "text", [.nullable]⟩,
   ⟨"detection_ids", "text", [.nullable]⟩,
   ⟨"search_vector", "tsvector", [.nullable]⟩]

/-- The indexes on the table of events. -/
def eventIndexes : List IndexDefinition :=
  [⟨"idx_events_started_at", "events", none, [⟨"started_at", true⟩, ⟨"event_id", true⟩], none⟩,
   ⟨"idx_events_camera", "events", none, [⟨"camera_id", false⟩, ⟨"started_at", true⟩], none⟩,
   ⟨"idx_events_risk_level", "events", none, [⟨"risk_level", false⟩], none⟩,
   ⟨"idx_events_search_vector", "events", some "GIN", [⟨"search_vector", false⟩], none⟩,
   ⟨"idx_events_search_vector_missing", "events", none, [⟨"event_id", false⟩], some "search_vector"⟩]

/-- All that the schema creates, in this order. -/
def creations : List Creation :=
  .table "cameras" cameraColumns :: .table "events" eventColumns :: eventIndexes.map .index

theorem endsStatement_of_mem {p : String × String} (h : p ∈ parts) : EndsStatement p.2.toList := by
  simp only [parts, List.mem_cons, List.not_mem_nil, or_false] at h
  rcases h with rfl | rfl
  · unfold EndsStatement cameras
    simp only [String.toList_append]
    exact List.IsSuffix.trans (by decide) (List.suffix_append _ ");\n".toList)
  · unfold EndsStatement events
    simp only [String.toList_append]
    exact List.IsSuffix.trans (by decide)
      (List.suffix_append _ "\tON events (event_id) WHERE search_vector IS NULL;\n".toList)

theorem map_read?_statementsOf (s : List Char) :
    (statementsOf s).map (Creation.read? ·.toList) =
      (((cut (· == ';') s).map trim).filter (!·.isEmpty)).map Creation.read? := by
  simp [statementsOf, Function.comp_def]

theorem reads_cameras :
    (statementsOf cameras.toList).map (Creation.read? ·.toList) = [some (.table "cameras" cameraColumns)] := by
  rw [map_read?_statementsOf]
  -- The kernel is quick only with texts that are lists of characters.
  unfold cameras
  simp only [String.toList_append]
  repeat rw [String.toList_ofList]
  decide +kernel

theorem reads_events :
    (statementsOf events.toList).map (Creation.read? ·.toList) =
      some (.table "events" eventColumns) :: eventIndexes.map (some <| .index ·) := by
  rw [map_read?_statementsOf]
  unfold events
  simp only [String.toList_append]
  repeat rw [String.toList_ofList]
  decide +kernel

theorem statements_eq : statements = statementsOf cameras.toList ++ statementsOf events.toList := by
  have hends : ∀ part ∈ parts.map (·.2.toList), EndsStatement part :=
    List.forall_mem_map.mpr fun p hp => endsStatement_of_mem hp
  have htext : text.toList = (parts.map (·.2.toList)).flatMap (· ++ ['\n']) := by rw [toList_text, List.flatMap_map]
  rw [statements, htext, statementsOf_flatMap hends]
  simp [parts]

/-- Every statement is read to its end, as what it creates. -/
theorem reads_statements : statements.map (Creation.read? ·.toList) = creations.map some := by
  rw [statements_eq, List.map_append, reads_cameras, reads_events]
  rfl

theorem action?_statements :
    List.Forall₂ (fun s c => (plain s).action? = some (.create c)) statements creations := by
  have hreads : List.Forall₂ (fun s c => Creation.read? s.toList = some c) statements creations := by
    have heq := reads_statements
    rw [← List.forall₂_eq_eq_eq, List.forall₂_map_left_iff, List.forall₂_map_right_iff] at heq
    exact heq
  refine hreads.imp ?_
  intro s c h
  exact Sql.Statement.action?_of_read? (s := plain s) h

theorem backslash_notMem_of_mem {p : String × String} (h : p ∈ parts) : '\\' ∉ p.2.toList := by
  simp only [parts, List.mem_cons, List.not_mem_nil, or_false] at h
  rcases h with rfl | rfl
  · unfold cameras
    simp only [String.toList_append]
    repeat rw [String.toList_ofList]
    decide +kernel
  · unfold events
    simp only [String.toList_append]
    repeat rw [String.toList_ofList]
    decide +kernel

/-- No request for a part is left in a statement. -/
theorem without_directive {s : String} (h : s ∈ statements) : ¬ directive.toList <:+: s.toList := by
  intro hleft
  have hdirective : '\\' ∈ directive.toList := by decide
  have hmem : '\\' ∈ text.toList := mem_of_mem_statementsOf h (hleft.subset hdirective)
  rw [toList_text] at hmem
  obtain ⟨p, hp, hchar⟩ := List.mem_flatMap.mp hmem
  rcases List.mem_append.mp hchar with hpart | hfeed
  · exact backslash_notMem_of_mem hp hpart
  · exact absurd hfeed (by decide)

end Lookout.Storage.Schema
