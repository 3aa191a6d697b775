import Spreadsheet.Formula.Parser

/-!
# The grammar of formulas

The grammar is a ladder.  An expression of a level is a chain of expressions of
the next one, joined by operators of the level, and below the four levels stand
expressions with signs and then atoms.  A derivation says how tokens form an
expression.  It has the tokens that it derives and a tree, in which the operators
of a chain associate to the left.

Derivations are unique.  This is shown for the start of a list of tokens: two
derivations of one kind that begin there are the same and leave the same tokens,
provided that what is left does not go on with the expression
(`Derivation.unique`).  An expression goes on with an operator that binds at
least as tight as its own level, and an identifier with an argument list
(`Stops`).
-/

namespace Spreadsheet.Formula

/-! ## Derivations -/

/-- How tight an expression holds together. -/
inductive Rank where
  /-- Operands joined by operators of a level. -/
  | level (l : Level)
  /-- An atom with signs in front of it. -/
  | signed
  /-- A literal, an identifier or a group. -/
  | atom
deriving DecidableEq

/-- The rank of the operands of a level. -/
def Level.operand : Level → Rank
  | .comparison => .level .sum
  | .sum => .level .product
  | .product => .level .power
  | .power => .signed

/-- What tokens may form. -/
inductive Phrase where
  /-- An expression of a rank. -/
  | expression (r : Rank)
  /-- Operators of a level, each with its right operand. -/
  | links (l : Level)
  /-- So many arguments, up to the closing parenthesis. -/
  | arguments (count : Nat)

/-- A number of arguments lies within the bounds of a function. -/
def Signature.Allows (s : Signature) (count : Nat) : Prop :=
  s.least ≤ count ∧ ∀ most ∈ s.most, count ≤ most

theorem Signature.checkCount_eq_ok {s : Signature} {count : Nat} {u : Unit} :
    s.checkCount count = .ok u ↔ s.Allows count := by
  unfold checkCount Allows
  by_cases h : count < s.least
  · rw [if_pos h]
    exact iff_of_false nofun fun hallows => Nat.not_le.2 h hallows.1
  · rw [if_neg h]
    have hleast : s.least ≤ count := Nat.le_of_not_lt h
    cases s.most with
    | none => exact iff_of_true rfl ⟨hleast, nofun⟩
    | some most =>
      by_cases h' : most < count
      · exact iff_of_false (by simp [h']) fun hallows => Nat.not_le.2 h' (hallows.2 most rfl)
      · refine iff_of_true (by simp [h']) ⟨hleast, ?_⟩
        rintro _ ⟨⟩
        exact Nat.le_of_not_lt h'

/-- The operator that is written like a sign. -/
def Sign.operator : Sign → Operator
  | .plus => .add
  | .minus => .subtract

variable {registry : Registry}

/-- How tokens form a phrase. -/
inductive Derivation (registry : Registry) : Phrase → Type where
  /-- An operand with others linked to it. -/
  | chain {l : Level} (first : Derivation registry (.expression l.operand))
    (links : Derivation registry (.links l)) : Derivation registry (.expression (.level l))
  /-- No more operators of the level. -/
  | done {l : Level} : Derivation registry (.links l)
  /-- An operator of the level with its right operand, and more of them. -/
  | link {l : Level} (op : Operator) (hop : op.level = l)
    (right : Derivation registry (.expression l.operand))
    (links : Derivation registry (.links l)) : Derivation registry (.links l)
  /-- An atom without a sign. -/
  | unsigned (d : Derivation registry (.expression .atom)) :
    Derivation registry (.expression .signed)
  /-- A sign in front of an operand. -/
  | signed (s : Sign) (d : Derivation registry (.expression .signed)) :
    Derivation registry (.expression .signed)
  /-- A literal. -/
  | literal (v : Value) : Derivation registry (.expression .atom)
  /-- An expression in parentheses. -/
  | group (d : Derivation registry (.expression (.level .comparison))) :
    Derivation registry (.expression .atom)
  /-- An identifier that names no function and has the form of a reference. -/
  | reference (name : String) (r : Reference) (hname : registry.find? name = none)
    (hr : Reference.read name.toList = .ok (some r)) : Derivation registry (.expression .atom)
  /-- A function without an argument list. -/
  | bareCall (name : String) (f : Function) (hf : registry.find? name = some f)
    (hcount : f.signature.Allows 0) : Derivation registry (.expression .atom)
  /-- A function with an empty argument list. -/
  | emptyCall (name : String) (f : Function) (hf : registry.find? name = some f)
    (hcount : f.signature.Allows 0) : Derivation registry (.expression .atom)
  /-- A function with arguments. -/
  | call {count : Nat} (name : String) (f : Function) (hf : registry.find? name = some f)
    (hcount : f.signature.Allows count) (arguments : Derivation registry (.arguments count)) :
    Derivation registry (.expression .atom)
  /-- The last argument. -/
  | last (d : Derivation registry (.expression (.level .comparison))) :
    Derivation registry (.arguments 1)
  /-- An argument with others behind it. -/
  | more {count : Nat} (d : Derivation registry (.expression (.level .comparison)))
    (arguments : Derivation registry (.arguments count)) :
    Derivation registry (.arguments (count + 1))

/-- What a phrase means: a tree, what becomes of a left operand, or a list of trees. -/
def Phrase.Meaning : Phrase → Type
  | .expression _ => Expr
  | .links _ => Expr → Expr
  | .arguments _ => List Expr

namespace Derivation

/-- The tokens of a derivation. -/
@[simp] def tokens : {p : Phrase} → Derivation registry p → List Token
  | _, chain first links => first.tokens ++ links.tokens
  | _, done => []
  | _, link op _ right links => .mark (.operator op) :: (right.tokens ++ links.tokens)
  | _, unsigned d => d.tokens
  | _, signed s d => .mark (.operator s.operator) :: d.tokens
  | _, literal v => [.literal v]
  | _, group d => .mark .opening :: (d.tokens ++ [.mark .closing])
  | _, reference name _ _ _ => [.identifier name]
  | _, bareCall name _ _ _ => [.identifier name]
  | _, emptyCall name _ _ _ => [.identifier name, .mark .opening, .mark .closing]
  | _, call name _ _ _ arguments => .identifier name :: .mark .opening :: arguments.tokens
  | _, last d => d.tokens ++ [.mark .closing]
  | _, more d arguments => d.tokens ++ .mark .comma :: arguments.tokens

/-- What a derivation gives.  The first operator of a chain is applied first. -/
def meaning : {p : Phrase} → Derivation registry p → p.Meaning
  | _, chain first links => links.meaning first.meaning
  | _, done => id
  | _, link op _ right links => fun left => links.meaning (.binary op left right.meaning)
  | _, unsigned d => d.meaning
  | _, signed s d => .signed s d.meaning
  | _, literal v => .literal v
  | _, group d => d.meaning
  | _, reference _ r _ _ => .reference r
  | _, bareCall _ f _ _ => .call f []
  | _, emptyCall _ f _ _ => .call f []
  | _, call _ f _ _ arguments => .call f arguments.meaning
  | _, last d => [d.meaning]
  | _, more d arguments => d.meaning :: arguments.meaning

end Derivation

/-- A derivation of a whole formula. -/
abbrev FormulaDerivation (registry : Registry) : Type :=
  Derivation registry (.expression (.level .comparison))

namespace Derivation

/-- The tree that an expression gives. -/
def tree {r : Rank} (d : Derivation registry (.expression r)) : Expr := d.meaning

/-- What links make of their left operand. -/
def apply {l : Level} (d : Derivation registry (.links l)) : Expr → Expr := d.meaning

/-- The trees of arguments. -/
def trees {count : Nat} (d : Derivation registry (.arguments count)) : List Expr := d.meaning

theorem length_trees {count : Nat} (d : Derivation registry (.arguments count)) :
    d.trees.length = count := by
  match d with
  | last d => rfl
  | more d arguments => exact congrArg Nat.succ arguments.length_trees

end Derivation

/-! ## First tokens -/

/-- Whether an atom can start here. -/
def startsAtom : List Token → Bool
  | .literal _ :: _ | .identifier _ :: _ | .mark .opening :: _ => true
  | _ => false

/-- Whether an expression can start here. -/
def startsExpression (ts : List Token) : Bool := startsAtom ts || (sign? ts).isSome

theorem sign?_eq_none {ts : List Token} (h : startsAtom ts = true) : sign? ts = none := by
  match ts, h with
  | .literal _ :: _, _ => rfl
  | .identifier _ :: _, _ => rfl
  | .mark .opening :: _, _ => rfl

@[simp] theorem sign?_operator (s : Sign) (ts : List Token) :
    sign? (.mark (.operator s.operator) :: ts) = some s := by
  cases s <;> rfl

namespace Derivation

theorem startsAtom_tokens (d : Derivation registry (.expression .atom)) (rest : List Token) :
    startsAtom (d.tokens ++ rest) = true := by
  cases d <;> rfl

/-- Expressions and arguments begin like an expression. -/
theorem startsExpression_tokens {p : Phrase} (d : Derivation registry p)
    (hp : ∀ l, p ≠ .links l) (rest : List Token) : startsExpression (d.tokens ++ rest) = true := by
  induction d generalizing rest with
  | done => exact absurd rfl (hp _)
  | link => exact absurd rfl (hp _)
  | signed s d => simp [tokens, startsExpression]
  | chain first links ih =>
    simp only [tokens, List.append_assoc]
    exact ih nofun _
  | unsigned d ih => exact ih nofun rest
  | last d ih =>
    simp only [tokens, List.append_assoc]
    exact ih nofun _
  | more d arguments ih =>
    simp only [tokens, List.append_assoc]
    exact ih nofun _
  | _ => rfl

end Derivation

/-! ## What does not go on -/

/-- How tight the operators of a level bind. -/
def Level.tightness : Level → Nat
  | .comparison => 0
  | .sum => 1
  | .product => 2
  | .power => 3

/-- How tight an expression of a rank holds together. -/
def Rank.tightness : Rank → Nat
  | .level l => l.tightness
  | .signed => 4
  | .atom => 4

/-- Neither an operator that binds at least so tight nor an argument list starts here. -/
def Stops (tightness : Nat) : List Token → Prop
  | .mark .opening :: _ => False
  | .mark (.operator op) :: _ => op.level.tightness < tightness
  | _ => True

theorem Stops.mono {t t' : Nat} {ts : List Token} (h : Stops t ts) (ht : t ≤ t') : Stops t' ts := by
  match ts, h with
  | [], _ => trivial
  | .literal _ :: _, _ => trivial
  | .identifier _ :: _, _ => trivial
  | .mark (.operator _) :: _, h => exact Nat.lt_of_lt_of_le h ht
  | .mark .closing :: _, _ => trivial
  | .mark .comma :: _, _ => trivial

theorem Level.tightness_operand (l : Level) : l.operand.tightness = l.tightness + 1 := by
  cases l <;> rfl

/-- An operand stops where its operators go on. -/
theorem Derivation.stops_links {l : Level} (links : Derivation registry (.links l))
    {rest : List Token} (h : Stops l.tightness rest) :
    Stops l.operand.tightness (links.tokens ++ rest) := by
  rw [l.tightness_operand]
  cases links with
  | done => exact h.mono (Nat.le_succ _)
  | link op hop right links =>
    subst hop
    exact Nat.lt_succ_self _

/-! ## Uniqueness -/

/-- No other derivation begins with the same tokens. -/
def Derivation.Unique : {p : Phrase} → Derivation registry p → Prop
  | .expression r, d => ∀ {d' : Derivation registry (.expression r)} {rest rest' : List Token},
    Stops r.tightness rest → Stops r.tightness rest' → d.tokens ++ rest = d'.tokens ++ rest' →
      d = d' ∧ rest = rest'
  | .links l, d => ∀ {d' : Derivation registry (.links l)} {rest rest' : List Token},
    Stops l.tightness rest → Stops l.tightness rest' → d.tokens ++ rest = d'.tokens ++ rest' →
      d = d' ∧ rest = rest'
  | .arguments n, d => ∀ {n' : Nat} {d' : Derivation registry (.arguments n')}
    {rest rest' : List Token}, d.tokens ++ rest = d'.tokens ++ rest' →
      (⟨n, d⟩ : Σ n, Derivation registry (.arguments n)) = ⟨n', d'⟩ ∧ rest = rest'

namespace Derivation

theorem unique_chain {l : Level} {first : Derivation registry (.expression l.operand)}
    {links : Derivation registry (.links l)} (hfirst : first.Unique) (hlinks : links.Unique) :
    (chain first links).Unique := by
  intro d' rest rest' h h' htokens
  obtain ⟨first', links'⟩ := d'
  simp only [tokens, List.append_assoc] at htokens
  obtain ⟨rfl, hrest⟩ := hfirst (links.stops_links h) (links'.stops_links h') htokens
  obtain ⟨rfl, rfl⟩ := hlinks h h' hrest
  exact ⟨rfl, rfl⟩

theorem unique_done {l : Level} : (done : Derivation registry (.links l)).Unique := by
  intro d' rest rest' h _ htokens
  cases d' with
  | done => exact ⟨rfl, htokens⟩
  | link op hop right links =>
    subst hop
    simp only [tokens, List.nil_append] at htokens
    rw [htokens] at h
    exact absurd h (Nat.lt_irrefl _)

theorem unique_link {l : Level} {op : Operator} {hop : op.level = l}
    {right : Derivation registry (.expression l.operand)} {links : Derivation registry (.links l)}
    (hright : right.Unique) (hlinks : links.Unique) : (link op hop right links).Unique := by
  intro d' rest rest' h h' htokens
  cases d' with
  | done =>
    subst hop
    simp only [tokens, List.nil_append] at htokens
    rw [← htokens] at h'
    exact absurd h' (Nat.lt_irrefl _)
  | link op' hop' right' links' =>
    simp only [tokens, List.cons_append, List.append_assoc, List.cons.injEq, Token.mark.injEq,
      Mark.operator.injEq] at htokens
    obtain ⟨rfl, htokens⟩ := htokens
    obtain ⟨rfl, hrest⟩ := hright (links.stops_links h) (links'.stops_links h') htokens
    obtain ⟨rfl, rfl⟩ := hlinks h h' hrest
    exact ⟨rfl, rfl⟩

theorem unique_unsigned {d : Derivation registry (.expression .atom)} (hd : d.Unique) :
    (unsigned d).Unique := by
  intro d' rest rest' h h' htokens
  cases d' with
  | unsigned d' =>
    obtain ⟨rfl, rfl⟩ := hd h h' htokens
    exact ⟨rfl, rfl⟩
  | signed s d' =>
    have hstarts := d.startsAtom_tokens rest
    simp only [tokens] at htokens
    rw [htokens] at hstarts
    exact Bool.noConfusion hstarts

theorem unique_signed {s : Sign} {d : Derivation registry (.expression .signed)} (hd : d.Unique) :
    (signed s d).Unique := by
  intro d' rest rest' h h' htokens
  cases d' with
  | unsigned d' =>
    have hstarts := d'.startsAtom_tokens rest'
    simp only [tokens] at htokens
    rw [← htokens] at hstarts
    exact Bool.noConfusion hstarts
  | signed s' d' =>
    simp only [tokens, List.cons_append, List.cons.injEq, Token.mark.injEq, Mark.operator.injEq]
      at htokens
    obtain ⟨hs, htokens⟩ := htokens
    obtain rfl : s = s' := by cases s <;> cases s' <;> first | rfl | cases hs
    obtain ⟨rfl, rfl⟩ := hd h h' htokens
    exact ⟨rfl, rfl⟩

theorem unique_literal {v : Value} :
    (literal v : Derivation registry (.expression .atom)).Unique := by
  intro d' rest rest' _ _ htokens
  cases d' with
  | literal v' =>
    cases htokens
    exact ⟨rfl, rfl⟩
  | _ => cases htokens

theorem unique_group {d : FormulaDerivation registry} (hd : d.Unique) : (group d).Unique := by
  intro d' rest rest' _ _ htokens
  cases d' with
  | group d' =>
    simp only [tokens, List.cons_append, List.append_assoc, List.cons.injEq, true_and] at htokens
    obtain ⟨rfl, hrest⟩ := hd (by trivial) (by trivial) htokens
    cases hrest
    exact ⟨rfl, rfl⟩
  | _ => cases htokens

theorem unique_reference {name : String} {r : Reference} {hname : registry.find? name = none}
    {hr : Reference.read name.toList = .ok (some r)} :
    (reference name r hname hr : Derivation registry (.expression .atom)).Unique := by
  intro d' rest rest' _ _ htokens
  cases d' with
  | reference name' r' hname' hr' =>
    cases htokens
    cases hr.symm.trans hr'
    exact ⟨rfl, rfl⟩
  | bareCall name' f hf =>
    cases htokens
    cases hname.symm.trans hf
  | emptyCall name' f hf =>
    cases htokens
    cases hname.symm.trans hf
  | call name' f hf =>
    cases htokens
    cases hname.symm.trans hf
  | _ => cases htokens

theorem unique_bareCall {name : String} {f : Function} {hf : registry.find? name = some f}
    {hcount : f.signature.Allows 0} :
    (bareCall name f hf hcount : Derivation registry (.expression .atom)).Unique := by
  intro d' rest rest' h _ htokens
  cases d' with
  | reference name' r hname =>
    cases htokens
    cases hname.symm.trans hf
  | bareCall name' f' hf' =>
    cases htokens
    cases hf.symm.trans hf'
    exact ⟨rfl, rfl⟩
  -- An argument list is left behind the name, which therefore does not stop there.
  | emptyCall name' f' hf' =>
    cases htokens
    exact h.elim
  | call name' f' hf' hcount' arguments =>
    cases htokens
    exact h.elim
  | _ => cases htokens

theorem unique_emptyCall {name : String} {f : Function} {hf : registry.find? name = some f}
    {hcount : f.signature.Allows 0} :
    (emptyCall name f hf hcount : Derivation registry (.expression .atom)).Unique := by
  intro d' rest rest' _ h' htokens
  cases d' with
  | reference name' r hname =>
    cases htokens
    exact h'.elim
  | bareCall name' f' hf' =>
    cases htokens
    exact h'.elim
  | emptyCall name' f' hf' =>
    cases htokens
    cases hf.symm.trans hf'
    exact ⟨rfl, rfl⟩
  | call name' f' hf' hcount' arguments =>
    have hstarts := arguments.startsExpression_tokens nofun rest'
    simp only [tokens, List.cons_append, List.cons.injEq, true_and] at htokens
    rw [← htokens.2] at hstarts
    exact Bool.noConfusion hstarts
  | _ => cases htokens

theorem unique_call {count : Nat} {name : String} {f : Function}
    {hf : registry.find? name = some f} {hcount : f.signature.Allows count}
    {arguments : Derivation registry (.arguments count)} (harguments : arguments.Unique) :
    (call name f hf hcount arguments).Unique := by
  intro d' rest rest' _ h' htokens
  cases d' with
  | reference name' r hname =>
    cases htokens
    exact h'.elim
  | bareCall name' f' hf' =>
    cases htokens
    exact h'.elim
  | emptyCall name' f' hf' =>
    have hstarts := arguments.startsExpression_tokens nofun rest
    simp only [tokens, List.cons_append, List.cons.injEq, true_and] at htokens
    rw [htokens.2] at hstarts
    exact Bool.noConfusion hstarts
  | call name' f' hf' hcount' arguments' =>
    simp only [tokens, List.cons_append, List.cons.injEq, Token.identifier.injEq, true_and]
      at htokens
    obtain ⟨rfl, htokens⟩ := htokens
    cases hf.symm.trans hf'
    obtain ⟨heq, rfl⟩ := harguments htokens
    cases heq
    exact ⟨rfl, rfl⟩
  | _ => cases htokens

theorem unique_last {d : FormulaDerivation registry} (hd : d.Unique) : (last d).Unique := by
  intro n' d' rest rest' htokens
  cases d' with
  | last d' =>
    simp only [tokens, List.append_assoc] at htokens
    obtain ⟨rfl, hrest⟩ := hd (by trivial) (by trivial) htokens
    cases hrest
    exact ⟨rfl, rfl⟩
  | more d' arguments =>
    simp only [tokens, List.append_assoc] at htokens
    obtain ⟨rfl, hrest⟩ := hd (by trivial) (by trivial) htokens
    cases hrest

theorem unique_more {count : Nat} {d : FormulaDerivation registry}
    {arguments : Derivation registry (.arguments count)} (hd : d.Unique)
    (harguments : arguments.Unique) : (more d arguments).Unique := by
  intro n' d' rest rest' htokens
  cases d' with
  | last d' =>
    simp only [tokens, List.append_assoc] at htokens
    obtain ⟨rfl, hrest⟩ := hd (by trivial) (by trivial) htokens
    cases hrest
  | more d' arguments' =>
    simp only [tokens, List.append_assoc, List.cons_append] at htokens
    obtain ⟨rfl, hrest⟩ := hd (by trivial) (by trivial) htokens
    obtain ⟨heq, rfl⟩ := harguments (List.cons.inj hrest).2
    cases heq
    exact ⟨rfl, rfl⟩

/-- Whatever begins with the tokens of a derivation begins with no other one of its kind. -/
theorem unique {p : Phrase} (d : Derivation registry p) : d.Unique := by
  induction d with
  | chain first links hfirst hlinks => exact unique_chain hfirst hlinks
  | done => exact unique_done
  | link op hop right links hright hlinks => exact unique_link hright hlinks
  | unsigned d hd => exact unique_unsigned hd
  | signed s d hd => exact unique_signed hd
  | literal v => exact unique_literal
  | group d hd => exact unique_group hd
  | reference name r hname hr => exact unique_reference
  | bareCall name f hf hcount => exact unique_bareCall
  | emptyCall name f hf hcount => exact unique_emptyCall
  | call name f hf hcount arguments harguments => exact unique_call harguments
  | last d hd => exact unique_last hd
  | more d arguments hd harguments => exact unique_more hd harguments

/-- Two derivations of a formula with the same tokens are the same. -/
theorem tokens_injective {d d' : FormulaDerivation registry} (h : d.tokens = d'.tokens) :
    d = d' := by
  have hboth : d = d' ∧ ([] : List Token) = [] := d.unique trivial trivial (congrArg (· ++ []) h)
  exact hboth.1

end Derivation

end Spreadsheet.Formula
