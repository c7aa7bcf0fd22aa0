import Lookout.Proofs.Text.Operators

/-! Expressions whose operators bind to either side. `Reads` is the grammar of `Derives` without its choice to
    group operands between equal operators from the left. Main statement: all trees of an expression are the
    one that groups from the left, up to the grouping of such operands. -/

namespace Lookout.Text.Operators

variable {τ α : Type} [DecidableEq τ]

section
variable (G : Operators τ α)

/-- The lexemes `ts` are an expression that joins its parts by no looser operators than `ops`, and the parts
    between equal operators may be grouped in any way. -/
inductive Reads : List (Infix τ α) → List τ → α → Prop
  | atom {ts : List τ} {a : α} (h : G.atom? ts = some a) : Reads [] ts a
  | group {ts : List τ} {a : α} (h : Reads G.binary ts a) : Reads [] (G.opening :: ts ++ [G.closing]) a
  | unary {t : τ} {f : α → α} {ts : List τ} {a : α} (ht : G.unary? t = some f) (h : Reads [] ts a) :
      Reads [] (t :: ts) (f a)
  | binary {op : τ} {f : α → α → α} {ops : List (Infix τ α)} {xs ys : List τ} {a b : α}
      (ha : Reads ((op, f) :: ops) xs a) (hb : Reads ((op, f) :: ops) ys b) :
      Reads ((op, f) :: ops) (xs ++ op :: ys) (f a b)
  | tighter {o : Infix τ α} {ops : List (Infix τ α)} {ts : List τ} {a : α} (h : Reads ops ts a) :
      Reads (o :: ops) ts a

/-- The trees differ at most in how operands between equal operators are grouped. -/
inductive Regroups : α → α → Prop
  | refl (a : α) : Regroups a a
  | symm {a b : α} (h : Regroups a b) : Regroups b a
  | trans {a b c : α} (hab : Regroups a b) (hbc : Regroups b c) : Regroups a c
  | assoc {o : Infix τ α} (ho : o ∈ G.binary) (a b c : α) : Regroups (o.2 (o.2 a b) c) (o.2 a (o.2 b c))
  | binary {o : Infix τ α} (ho : o ∈ G.binary) {a a' b b' : α} (ha : Regroups a a') (hb : Regroups b b') :
      Regroups (o.2 a b) (o.2 a' b')
  | unary {t : τ} {f : α → α} (ht : G.unary? t = some f) {a a' : α} (h : Regroups a a') : Regroups (f a) (f a')

end

variable {G : Operators τ α}

omit [DecidableEq τ] in
/-- Operands of one strength may be joined, when those of the second are taken over one by one. -/
theorem Derives.append {o : Infix τ α} {ops : List (Infix τ α)} (ho : o ∈ G.binary) {xs ys : List τ} {a b : α}
    (ha : G.Derives (o :: ops) xs a) (hb : G.Derives (o :: ops) ys b) :
    ∃ c, G.Derives (o :: ops) (xs ++ o.1 :: ys) c ∧ G.Regroups c (o.2 a b) := by
  generalize hlevel : o :: ops = level at hb
  induction hb with
  | atom | group | unary => cases hlevel
  | @binary op f _ ys zs b₁ b₂ _ hb₂ ih _ =>
    obtain ⟨rfl, rfl⟩ := List.cons.inj hlevel
    obtain ⟨c, hc, hregroup⟩ := ih rfl
    refine ⟨f c b₂, ?_, ?_⟩
    · rw [← List.cons_append, ← List.append_assoc]
      exact .binary hc hb₂
    · exact (Regroups.binary ho hregroup (.refl b₂)).trans (.assoc ho a b₁ b₂)
  | tighter hb =>
    obtain ⟨rfl, rfl⟩ := List.cons.inj hlevel
    exact ⟨o.2 a _, .binary ha hb, .refl _⟩

omit [DecidableEq τ] in
/-- Every expression has a tree that groups from the left, and its other trees regroup to it. -/
theorem Reads.derives {ops : List (Infix τ α)} {ts : List τ} {a : α} (h : G.Reads ops ts a) (hops : ops <:+ G.binary) :
    ∃ b, G.Derives ops ts b ∧ G.Regroups a b := by
  induction h with
  | atom h => exact ⟨_, .atom h, .refl _⟩
  | group _ ih =>
    obtain ⟨b, hb, hab⟩ := ih List.suffix_rfl
    exact ⟨b, .group hb, hab⟩
  | unary ht _ ih =>
    obtain ⟨b, hb, hab⟩ := ih hops
    exact ⟨_, .unary ht hb, .unary ht hab⟩
  | binary _ _ ihx ihy =>
    have ho := hops.subset List.mem_cons_self
    obtain ⟨a', ha', haa'⟩ := ihx hops
    obtain ⟨b', hb', hbb'⟩ := ihy hops
    obtain ⟨c, hc, hregroup⟩ := ha'.append ho hb'
    exact ⟨c, hc, (Regroups.binary ho haa' hbb').trans hregroup.symm⟩
  | tighter _ ih =>
    obtain ⟨b, hb, hab⟩ := ih ((List.suffix_cons _ _).trans hops)
    exact ⟨b, .tighter hb, hab⟩

/-- The trees of a sentence are the one that groups from the left, up to grouping. -/
theorem Reads.regroups (hG : G.Lawful) {ts : List τ} {a b : α} (h : G.Reads G.binary ts a) (hb : G.Sentence ts b) :
    G.Regroups a b := by
  obtain ⟨c, hc, hac⟩ := h.derives List.suffix_rfl
  have hread := (sentence_iff_read? hG).mp hc
  rw [(sentence_iff_read? hG).mp hb] at hread
  cases hread
  exact hac

end Lookout.Text.Operators
