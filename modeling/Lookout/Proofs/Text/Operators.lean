import Mathlib.Data.List.Infix
import Mathlib.Data.List.Nodup

/-! Expressions with operators: infix operators of several strengths, each of them binding to the left,
    prefix operators, which bind tighter than any infix one, and parentheses. The grammar is `Derives`. The
    reader `read?` cuts an expression at the last of the loosest operators outside parentheses. It reads
    exactly the sentences of the grammar, so none of them has two trees. -/

namespace Lookout.Text

variable {τ α : Type} [DecidableEq τ]

/-- An infix operator, with what it makes of the trees on its sides. -/
abbrev Infix (τ α : Type) := τ × (α → α → α)

/-- The operators and atoms of a language over the lexemes `τ`, with trees of the type `α`. -/
structure Operators (τ α : Type) where
  opening : τ
  closing : τ
  /-- The infix operators, the loosest first. -/
  binary : List (Infix τ α)
  /-- What a prefix operator makes of the tree behind it. -/
  unary? : τ → Option (α → α)
  /-- The reading of an expression without operators. -/
  atom? : List τ → Option α

namespace Operators

variable (G : Operators τ α)

/-- The lexemes `ts` are an expression that joins its parts by no looser operators than `ops`. -/
inductive Derives : List (Infix τ α) → List τ → α → Prop
  | atom {ts : List τ} {a : α} (h : G.atom? ts = some a) : Derives [] ts a
  | group {ts : List τ} {a : α} (h : Derives G.binary ts a) : Derives [] (G.opening :: ts ++ [G.closing]) a
  | unary {t : τ} {f : α → α} {ts : List τ} {a : α} (ht : G.unary? t = some f) (h : Derives [] ts a) :
      Derives [] (t :: ts) (f a)
  | binary {op : τ} {f : α → α → α} {ops : List (Infix τ α)} {xs ys : List τ} {a b : α}
      (ha : Derives ((op, f) :: ops) xs a) (hb : Derives ops ys b) :
      Derives ((op, f) :: ops) (xs ++ op :: ys) (f a b)
  | tighter {o : Infix τ α} {ops : List (Infix τ α)} {ts : List τ} {a : α} (h : Derives ops ts a) :
      Derives (o :: ops) ts a

/-- The tokens are a sentence of the grammar, which says this. -/
def Sentence (ts : List τ) (a : α) : Prop := G.Derives G.binary ts a

/-! ### Cutting outside parentheses -/

/-- The number of parentheses that are open behind a lexeme, when `d` are open before it. -/
def depth (d : Nat) (t : τ) : Nat := if t = G.opening then d + 1 else if t = G.closing then d - 1 else d

/-- The number of parentheses that are open behind lexemes. -/
def nest (d : Nat) (ts : List τ) : Nat := ts.foldl G.depth d

/-- The parts before and behind the last `op` outside parentheses, of which `d` are open at the start. -/
def cutLast (op : τ) : Nat → List τ → Option (List τ × List τ)
  | _, [] => none
  | d, t :: ts =>
    match cutLast op (G.depth d t) ts with
    | some (xs, ys) => some (t :: xs, ys)
    | none => if d = 0 ∧ t = op then some ([], ts) else none

variable {G}

theorem eq_append_of_cutLast {op : τ} {d : Nat} {ts xs ys : List τ} (h : G.cutLast op d ts = some (xs, ys)) :
    ts = xs ++ op :: ys := by
  induction ts generalizing d xs with
  | nil => simp [cutLast] at h
  | cons t ts ih =>
    unfold cutLast at h
    split at h
    · next ys' heq =>
      obtain ⟨rfl, rfl⟩ := Prod.mk.inj (Option.some.inj h)
      rw [ih heq, List.cons_append]
    · split at h
      · next hop =>
        obtain ⟨rfl, rfl⟩ := Prod.mk.inj (Option.some.inj h)
        rw [hop.2, List.nil_append]
      · cases h

theorem cutLast_of_notMem {op : τ} {d : Nat} {ts : List τ} (h : op ∉ ts) : G.cutLast op d ts = none := by
  cases hc : G.cutLast op d ts with
  | none => rfl
  | some p => exact absurd (by rw [eq_append_of_cutLast hc]; simp) h

/-- The last operator is looked for in the second part first. -/
theorem cutLast_append {op : τ} {d : Nat} {xs ys : List τ} :
    G.cutLast op d (xs ++ ys) =
      match G.cutLast op (G.nest d xs) ys with
      | some (a, b) => some (xs ++ a, b)
      | none => (G.cutLast op d xs).map fun p => (p.1, p.2 ++ ys) := by
  induction xs generalizing d with
  | nil => cases h : G.cutLast op d ys <;> simp [nest, cutLast, h]
  | cons x xs ih =>
    have hn : G.nest d (x :: xs) = G.nest (G.depth d x) xs := rfl
    rw [List.cons_append, cutLast, ih, hn, cutLast]
    cases G.cutLast op (G.nest (G.depth d x) xs) ys with
    | some p => rfl
    | none =>
      cases G.cutLast op (G.depth d x) xs with
      | some p => rfl
      | none => by_cases h : d = 0 ∧ x = op <;> simp [h]

theorem nest_append {d : Nat} {xs ys : List τ} : G.nest d (xs ++ ys) = G.nest (G.nest d xs) ys := List.foldl_append

theorem nest_cons {d : Nat} {t : τ} {ts : List τ} : G.nest d (t :: ts) = G.nest (G.depth d t) ts := rfl

theorem depth_of_ne {d : Nat} {t : τ} (ho : t ≠ G.opening) (hc : t ≠ G.closing) : G.depth d t = d := by
  simp [depth, ho, hc]

theorem length_lt_of_cutLast {op : τ} {d : Nat} {ts xs ys : List τ} (h : G.cutLast op d ts = some (xs, ys)) :
    xs.length < ts.length ∧ ys.length < ts.length := by
  rw [eq_append_of_cutLast h]
  simp only [List.length_append, List.length_cons]
  omega

variable (G)

/-! ### The reader -/

/-- The tree of an expression that joins its parts by no looser operators than these. -/
def readAt? : List (Infix τ α) → List τ → Option α
  | [], [] => none
  | [], t :: ts =>
    match G.unary? t with
    | some f => (readAt? [] ts).map f
    | none =>
      if t = G.opening then
        if ts.getLast? = some G.closing then readAt? G.binary ts.dropLast else none
      else G.atom? (t :: ts)
  | (op, f) :: ops, ts =>
    match _hcut : G.cutLast op 0 ts with
    | some (xs, ys) => (readAt? ((op, f) :: ops) xs).bind fun a => (readAt? ops ys).map (f a)
    | none => readAt? ops ts
termination_by ops ts => (ts.length, ops.length)
decreasing_by
  · decreasing_tactic
  · decreasing_tactic
  · exact Prod.Lex.left _ _ (length_lt_of_cutLast _hcut).1
  · exact Prod.Lex.left _ _ (length_lt_of_cutLast _hcut).2
  · decreasing_tactic

/-- What some tokens say, read to their end. -/
def read? (ts : List τ) : Option α := G.readAt? G.binary ts

/-- What the signs and atoms of a language have to satisfy for its expressions to be read in one way. -/
structure Lawful : Prop where
  /-- The signs are different from each other. -/
  signs : (G.opening :: G.closing :: G.binary.map Prod.fst).Nodup
  unary : ∀ {t f}, G.unary? t = some f → t ∉ G.opening :: G.closing :: G.binary.map Prod.fst
  /-- An atom does not begin like an expression of another kind. -/
  atom_head : ∀ {ts a}, G.atom? ts = some a → ∃ t rest, ts = t :: rest ∧ t ≠ G.opening ∧ G.unary? t = none
  /-- An atom closes the parentheses that it opens. -/
  atom_nest : ∀ {ts a}, G.atom? ts = some a → ∀ d, G.nest d ts = d
  /-- An atom holds no infix operator. -/
  atom_binary : ∀ {ts a}, G.atom? ts = some a → ∀ op ∈ G.binary.map Prod.fst, op ∉ ts

/-! ### The reader and the grammar -/

variable {G}

theorem derives_of_readAt? {ops : List (Infix τ α)} {ts : List τ} {a : α} (h : G.readAt? ops ts = some a) :
    G.Derives ops ts a := by
  fun_induction readAt? G ops ts generalizing a with
  | case1 => cases h
  | case2 t ts f hf ih =>
    obtain ⟨b, hb, rfl⟩ := Option.map_eq_some_iff.mp h
    exact .unary hf (ih hb)
  | case3 ts hc hu ih =>
    obtain ⟨inner, rfl⟩ := List.getLast?_eq_some_iff.mp hc
    rw [List.dropLast_concat] at ih
    rw [List.dropLast_concat] at h
    exact .group (ih h)
  | case4 => cases h
  | case5 t ts hu ho => exact .atom h
  | case6 op f ops ts xs ys hcut ihx ihy =>
    obtain ⟨b, hb, hy⟩ := Option.bind_eq_some_iff.mp h
    obtain ⟨c, hc, rfl⟩ := Option.map_eq_some_iff.mp hy
    rw [eq_append_of_cutLast hcut]
    exact .binary (ihx hb) (ihy hc)
  | case7 op f ops ts hcut ih => exact .tighter (ih h)

theorem Lawful.ne_paren (hG : G.Lawful) {op : τ} (h : op ∈ G.binary.map Prod.fst) :
    op ≠ G.opening ∧ op ≠ G.closing := by
  obtain ⟨ho, hc⟩ := List.nodup_cons.mp hG.signs
  exact ⟨fun he => ho (he ▸ List.mem_cons_of_mem _ h), fun he => (List.nodup_cons.mp hc).1 (he ▸ h)⟩

theorem depth_opening {d : Nat} : G.depth d G.opening = d + 1 := by simp [depth]

theorem Lawful.depth_closing (hG : G.Lawful) {d : Nat} : G.depth (d + 1) G.closing = d := by
  have h : G.closing ≠ G.opening := fun he => (List.nodup_cons.mp hG.signs).1 (he ▸ List.mem_cons_self)
  simp [depth, h]

/-- An expression closes its parentheses, and outside them it holds only the operators that it may. -/
theorem Derives.closed (hG : G.Lawful) {ops : List (Infix τ α)} {ts : List τ} {a : α} (h : G.Derives ops ts a)
    (hops : ops <:+ G.binary) :
    (∀ d, G.nest d ts = d) ∧
      ∀ op ∈ G.binary.map Prod.fst, ∀ d, (d = 0 → op ∉ ops.map Prod.fst) → G.cutLast op d ts = none := by
  induction h with
  | atom h => exact ⟨hG.atom_nest h, fun op hop _ _ => cutLast_of_notMem (hG.atom_binary h op hop)⟩
  | @group ts a _ ih =>
    obtain ⟨hn, hc⟩ := ih List.suffix_rfl
    refine ⟨fun d => ?_, fun op hop d _ => ?_⟩
    · rw [List.cons_append, nest_cons, nest_append, depth_opening, hn, nest_cons, hG.depth_closing]
      rfl
    -- Inside the group at least one parenthesis is open, so nothing is cut there.
    · obtain ⟨hopen, hclose⟩ := hG.ne_paren hop
      have hinner : G.cutLast op (d + 1) (ts ++ [G.closing]) = none := by
        simp [cutLast_append, hn, cutLast, hc op hop (d + 1) (by simp)]
      rw [List.cons_append, cutLast, depth_opening, hinner]
      simp [Ne.symm hopen]
  | @unary t f ts a ht _ ih =>
    obtain ⟨hn, hc⟩ := ih hops
    have hsign := hG.unary ht
    simp only [List.mem_cons, not_or] at hsign
    have hdepth : ∀ d, G.depth d t = d := fun d => depth_of_ne hsign.1 hsign.2.1
    refine ⟨fun d => by rw [nest_cons, hdepth, hn], fun op hop d hd => ?_⟩
    rw [cutLast, hdepth, hc op hop d hd]
    simp [show t ≠ op from fun he => hsign.2.2 (he ▸ hop)]
  | @binary o f ops xs ys a b _ _ ihx ihy =>
    obtain ⟨hnx, hcx⟩ := ihx hops
    obtain ⟨hny, hcy⟩ := ihy ((List.suffix_cons _ _).trans hops)
    have ho := hG.ne_paren (List.mem_map_of_mem (f := Prod.fst) (hops.subset List.mem_cons_self))
    have hdepth : ∀ d, G.depth d o = d := fun d => depth_of_ne ho.1 ho.2
    refine ⟨fun d => by rw [nest_append, hnx, nest_cons, hdepth, hny], fun op hop d hd => ?_⟩
    -- What is looked for is not the operator of this level, so it is not found from there on.
    have hright : G.cutLast op d (o :: ys) = none := by
      rw [cutLast, hdepth, hcy op hop d fun h0 hm => hd h0 (List.mem_cons_of_mem _ hm)]
      have : ¬(d = 0 ∧ o = op) := fun h => hd h.1 (h.2 ▸ List.mem_cons_self)
      simp [this]
    rw [cutLast_append, hnx, hright, hcx op hop d hd]
    rfl
  | @tighter o ops ts a _ ih =>
    obtain ⟨hn, hc⟩ := ih ((List.suffix_cons _ _).trans hops)
    exact ⟨hn, fun op hop d hd => hc op hop d fun h0 hm => hd h0 (List.mem_cons_of_mem _ hm)⟩

/-- An operator of the loosest strength is not among the tighter ones. -/
theorem Lawful.notMem_tighter (hG : G.Lawful) {o : Infix τ α} {ops : List (Infix τ α)}
    (hops : o :: ops <:+ G.binary) : o.1 ∈ G.binary.map Prod.fst ∧ o.1 ∉ ops.map Prod.fst := by
  have hnodup : (G.binary.map Prod.fst).Nodup := (List.nodup_cons.mp (List.nodup_cons.mp hG.signs).2).2
  have hsuffix := (hops.map Prod.fst).sublist.nodup hnodup
  exact ⟨(hops.map Prod.fst).subset List.mem_cons_self, (List.nodup_cons.mp hsuffix).1⟩

/-- Every sentence is read, with its tree. -/
theorem Derives.readAt?_eq (hG : G.Lawful) {ops : List (Infix τ α)} {ts : List τ} {a : α} (h : G.Derives ops ts a)
    (hops : ops <:+ G.binary) : G.readAt? ops ts = some a := by
  induction h with
  | atom h =>
    obtain ⟨t, rest, rfl, ho, hu⟩ := hG.atom_head h
    simp [readAt?, ho, hu, h]
  | @group ts a _ ih =>
    have hu : G.unary? G.opening = none := by
      cases hl : G.unary? G.opening with
      | none => rfl
      | some f => exact absurd List.mem_cons_self (hG.unary hl)
    rw [List.cons_append, readAt?, hu]
    simp [ih List.suffix_rfl]
  | unary ht _ ih => simp [readAt?, ht, ih hops]
  | @binary op f ops xs ys a b _ hb ihx ihy =>
    have htight := (List.suffix_cons (op, f) ops).trans hops
    obtain ⟨hop, hnot⟩ := hG.notMem_tighter hops
    have hclosed := (Derives.closed hG hb htight).2 op hop 0 fun _ => hnot
    have hleft := (Derives.closed hG ‹G.Derives ((op, f) :: ops) xs a› hops).1 0
    have hdepth : G.depth 0 op = 0 := depth_of_ne (hG.ne_paren hop).1 (hG.ne_paren hop).2
    -- The right operand binds tighter, so the last operator of this level is the one between the operands.
    have hcut : G.cutLast op 0 (xs ++ op :: ys) = some (xs, ys) := by
      simp [cutLast_append, hleft, cutLast, hdepth, hclosed]
    rw [readAt?]
    split
    · next heq =>
      obtain ⟨rfl, rfl⟩ := Prod.mk.inj (Option.some.inj (heq.symm.trans hcut))
      rw [ihx hops, ihy htight]
      rfl
    · next heq => rw [hcut] at heq; cases heq
  | @tighter o ops ts a h ih =>
    have htight := (List.suffix_cons o ops).trans hops
    obtain ⟨hop, hnot⟩ := hG.notMem_tighter hops
    -- There is nothing to cut at this level, and reading goes on with the tighter ones.
    have hcut := (Derives.closed hG h htight).2 o.1 hop 0 fun _ => hnot
    rw [readAt?]
    split
    · next heq => rw [hcut] at heq; cases heq
    · exact ih htight

/-- The reader and the grammar agree, so a sentence has one tree. -/
theorem sentence_iff_read? (hG : G.Lawful) {ts : List τ} {a : α} : G.Sentence ts a ↔ G.read? ts = some a :=
  ⟨fun h => h.readAt?_eq hG List.suffix_rfl, derives_of_readAt?⟩

theorem Derives.ne_nil (hG : G.Lawful) {ops : List (Infix τ α)} {ts : List τ} {a : α} (h : G.Derives ops ts a) :
    ts ≠ [] := by
  induction h with
  | atom h =>
    obtain ⟨t, rest, rfl, -, -⟩ := hG.atom_head h
    exact List.cons_ne_nil t rest
  | group => exact List.cons_ne_nil _ _
  | unary => exact List.cons_ne_nil _ _
  | binary => simp
  | tighter _ ih => exact ih

omit [DecidableEq τ] in
/-- What holds of the signs and in the atoms holds of every lexeme of an expression. -/
theorem Derives.forall_mem {P : τ → Prop} (hsigns : ∀ t ∈ G.opening :: G.closing :: G.binary.map Prod.fst, P t)
    (hunary : ∀ {t f}, G.unary? t = some f → P t) (hatoms : ∀ {ts a}, G.atom? ts = some a → ∀ t ∈ ts, P t)
    {ops : List (Infix τ α)} {ts : List τ} {a : α} (h : G.Derives ops ts a) (hops : ops <:+ G.binary) :
    ∀ t ∈ ts, P t := by
  induction h with
  | atom h => exact hatoms h
  | group _ ih =>
    have hinner := ih List.suffix_rfl
    simp only [List.cons_append, List.forall_mem_cons, List.forall_mem_append, List.mem_singleton, forall_eq]
    exact ⟨hsigns _ (by simp), hinner, hsigns _ (by simp)⟩
  | unary ht _ ih => exact List.forall_mem_cons.mpr ⟨hunary ht, ih hops⟩
  | @binary op f ops xs ys a b _ _ ihx ihy =>
    have hop : op ∈ G.binary.map Prod.fst := List.mem_map_of_mem (f := Prod.fst) (hops.subset List.mem_cons_self)
    have hright := ihy ((List.suffix_cons _ _).trans hops)
    refine List.forall_mem_append.mpr ⟨ihx hops, List.forall_mem_cons.mpr ⟨hsigns _ ?_, hright⟩⟩
    exact List.mem_cons_of_mem _ (List.mem_cons_of_mem _ hop)
  | tighter _ ih => exact ih ((List.suffix_cons _ _).trans hops)

omit [DecidableEq τ] in
/-- An expression without loose operators stands where they are allowed. -/
theorem Derives.loosen {ops : List (Infix τ α)} {ts : List τ} {a : α} (h : G.Derives ops ts a) :
    ∀ looser : List (Infix τ α), G.Derives (looser ++ ops) ts a
  | [] => h
  | _ :: looser => .tighter (h.loosen looser)

omit [DecidableEq τ] in
/-- Expressions between operators of one strength, which are joined from the left. -/
theorem Derives.chain (op : τ) (f : α → α → α) {ops : List (Infix τ α)} {x : List τ × α}
    {xs : List (List τ × α)} (hx : G.Derives ops x.1 x.2) (hxs : ∀ y ∈ xs, G.Derives ops y.1 y.2) :
    G.Derives ((op, f) :: ops) (x.1 ++ xs.flatMap fun y => op :: y.1) (xs.foldl (fun a y => f a y.2) x.2) := by
  induction xs using List.reverseRecOn with
  | nil => simpa using Derives.tighter hx
  | append_singleton xs y ih =>
    have hinit := ih fun z hz => hxs z (List.mem_append_left _ hz)
    have hlast := hxs y (List.mem_append_right _ List.mem_cons_self)
    simpa using Derives.binary hinit hlast

end Operators
end Lookout.Text
