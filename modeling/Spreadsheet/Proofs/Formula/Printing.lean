import Spreadsheet.Proofs.Formula.Acceptance
import Spreadsheet.Proofs.Formula.Spelling

/-!
# Formulas as texts

A tree is written with as few parentheses as the ladder of the grammar allows:
an operand stands in parentheses only where it holds together looser than its
place wants.  Parsing the text gives the tree back (`parse_text`).

This is shown on the side of the grammar.  The tokens of a tree have a
derivation that gives the tree (`Expr.Printable.derivable`), by induction on the
tree.  They are scanned back from the text because they are separate, as the
tokens of every derivation.
-/

namespace Spreadsheet.Formula

open Spreadsheet.Grid (indexLimit)

/-! ## Writing -/

/-- How far down the ladder a rank stands. -/
def Rank.depth : Rank → Nat
  | .level l => l.tightness
  | .signed => 4
  | .atom => 5

/-- Tokens at a place for a rank, in parentheses if they hold together looser. -/
def enclosed (place rank : Rank) (ts : List Token) : List Token :=
  if rank.depth < place.depth then .mark .opening :: (ts ++ [.mark .closing]) else ts

/-- The rank of a tree. -/
def Expr.rank : Expr → Rank
  | .binary op _ _ => .level op.level
  | .signed _ _ => .signed
  | _ => .atom

mutual

/-- The tokens of a tree.  Operators associate to the left, so a right operand has to hold together
tighter than the operator. -/
def Expr.tokens : Expr → List Token
  | .literal v => [.literal v]
  | .signed s e => .mark (.operator s.operator) :: enclosed .signed e.rank e.tokens
  | .binary op left right => enclosed (.level op.level) left.rank left.tokens ++
    .mark (.operator op) :: enclosed op.level.operand right.rank right.tokens
  | .reference r => [.identifier (String.ofList r.spelling)]
  | .call f es => .identifier f.signature.name :: .mark .opening :: Expr.argumentTokens es

/-- The tokens of arguments, up to the closing parenthesis. -/
def Expr.argumentTokens : List Expr → List Token
  | [] => [.mark .closing]
  | [e] => e.tokens ++ [.mark .closing]
  | e :: es => e.tokens ++ .mark .comma :: Expr.argumentTokens es

end

/-- The text of a tree. -/
def Expr.text (e : Expr) : String := String.ofList (e.tokens.flatMap Token.spelling)

/-- A reference has a text of its own: its row and column numbers are below the limit, and no
function has the name of its range if that stands alone. -/
structure Reference.Printable (r : Reference) : Prop where
  /-- The last row has a number. -/
  bottom_lt : r.range.bottom + 1 < indexLimit
  /-- The last column has a number. -/
  right_lt : r.range.right + 1 < indexLimit
  /-- The range is not the name of a function. -/
  find?_eq_none : r.sheet = none → Registry.standard.find? r.range.text = none

/-- The trees of texts, references, operators and functions that are built in, with as many
arguments as these allow. -/
inductive Expr.Printable : Expr → Prop where
  /-- A text. -/
  | text (s : String) : Printable (.literal (.text s))
  /-- A sign in front of an operand. -/
  | signed (s : Sign) {e : Expr} (he : Printable e) : Printable (.signed s e)
  /-- An operator between two operands. -/
  | binary (op : Operator) {left right : Expr} (hleft : Printable left)
    (hright : Printable right) : Printable (.binary op left right)
  /-- A reference. -/
  | reference {r : Reference} (hr : r.Printable) : Printable (.reference r)
  /-- A function with its arguments. -/
  | call (b : Builtin) {es : List Expr} (hcount : b.signature.Allows es.length)
    (hes : ∀ e ∈ es, Printable e) : Printable (.call b.function es)

/-! ## Names -/

/-- Functions that are built in are found by their names. -/
theorem find?_name (b : Builtin) : Registry.standard.find? b.signature.name = some b.function := by
  have hall : ∀ b ∈ builtins, (builtins.find? fun b' =>
      b'.signature.name == Text.upper b.signature.name) = some b := by decide +kernel
  have hb := hall b (mem_builtins b)
  simp only [Registry.find?, Registry.standard, List.find?_map]
  exact congrArg (Option.map Builtin.function) hb

/-- No function has a name with a `!`, as it stands behind the name of a sheet. -/
theorem find?_of_mem {s : String} (h : '!' ∈ s.toList) : Registry.standard.find? s = none := by
  have hupper : '!' ∈ (Text.upper s).toList := by
    rw [Text.upper, String.toList_ofList, List.mem_flatMap]
    exact ⟨'!', h, by decide⟩
  have hname : ∀ b ∈ builtins, '!' ∉ b.signature.name.toList := by decide +kernel
  simp only [Registry.find?, Registry.standard, List.find?_map, Option.map_eq_none_iff,
    List.find?_eq_none]
  intro b hb heq
  have hfound : b.signature.name = Text.upper s := eq_of_beq heq
  rw [← hfound] at hupper
  exact hname b hb hupper

theorem find?_spelling {r : Reference} (h : r.Printable) :
    Registry.standard.find? (String.ofList r.spelling) = none := by
  obtain ⟨range, sheet⟩ := r
  cases sheet with
  | none =>
    rw [Reference.spelling, Reference.sheetSpelling, List.nil_append, String.ofList_toList]
    exact h.find?_eq_none rfl
  | some name =>
    exact find?_of_mem (by simp [Reference.spelling, Reference.sheetSpelling])

/-! ## Derivations -/

/-- Tokens have a derivation that gives a tree. -/
def Derivable (r : Rank) (ts : List Token) (e : Expr) : Prop :=
  ∃ d : Derivation .standard (.expression r), d.tokens = ts ∧ d.tree = e

theorem Level.tightness_lt (l : Level) : l.tightness < 4 := by
  cases l <;> decide

theorem Level.tightness_injective {l l' : Level} (h : l.tightness = l'.tightness) : l = l' := by
  cases l <;> cases l' <;> first | rfl | cases h

theorem Rank.depth_injective {r r' : Rank} (h : r.depth = r'.depth) : r = r' := by
  match r, r', h with
  | .level l, .level l', h => exact congrArg Rank.level (Level.tightness_injective h)
  | .level l, .signed, h => exact absurd h (Nat.ne_of_lt l.tightness_lt)
  | .level l, .atom, h => exact absurd h (Nat.ne_of_lt (Nat.lt_succ_of_lt l.tightness_lt))
  | .signed, .level l, h => exact absurd h.symm (Nat.ne_of_lt l.tightness_lt)
  | .signed, .signed, _ => rfl
  | .atom, .level l, h => exact absurd h.symm (Nat.ne_of_lt (Nat.lt_succ_of_lt l.tightness_lt))
  | .atom, .atom, _ => rfl

theorem Rank.depth_le (r : Rank) : r.depth ≤ 5 := by
  cases r with
  | level l => exact Nat.le_succ_of_le (Nat.le_of_lt l.tightness_lt)
  | signed => decide
  | atom => decide

theorem Rank.depth_operand (l : Level) : l.operand.depth = (Rank.level l).depth + 1 := by
  cases l <;> rfl

namespace Derivable

variable {r : Rank} {ts : List Token} {e : Expr}

theorem unsigned (h : Derivable .atom ts e) : Derivable .signed ts e := by
  obtain ⟨d, htokens, htree⟩ := h
  exact ⟨.unsigned d, htokens, htree⟩

theorem operand {l : Level} (h : Derivable l.operand ts e) : Derivable (.level l) ts e := by
  obtain ⟨d, htokens, htree⟩ := h
  exact ⟨.chain d .done, by simpa [Derivation.tokens] using htokens, htree⟩

theorem group (h : Derivable (.level .comparison) ts e) :
    Derivable .atom (.mark .opening :: (ts ++ [.mark .closing])) e := by
  obtain ⟨d, rfl, htree⟩ := h
  exact ⟨.group d, rfl, htree⟩

/-- What holds together tight fits a place for what holds together looser. -/
theorem loosen (h : Derivable r ts e) (place : Rank) (hle : place.depth ≤ r.depth) :
    Derivable place ts e := by
  by_cases hr : r = place
  · exact hr ▸ h
  · have hlt : place.depth < r.depth :=
      Nat.lt_of_le_of_ne hle fun hdepth => hr (Rank.depth_injective hdepth.symm)
    match place, hlt with
    | .atom, hlt => exact absurd r.depth_le (Nat.not_le.2 hlt)
    -- One rung tighter than the place, until the rank itself is met.
    | .signed, hlt => exact (h.loosen .atom hlt).unsigned
    | .level l, hlt =>
      have hoperand : l.operand.depth ≤ r.depth := by
        rw [Rank.depth_operand]
        exact hlt
      exact (h.loosen l.operand hoperand).operand
termination_by 5 - place.depth
decreasing_by
  · decide
  · have hlevel : (Rank.level l).depth < 4 := l.tightness_lt
    rw [Rank.depth_operand]
    omega

theorem enclosed (h : Derivable r ts e) (place : Rank) :
    Derivable place (Formula.enclosed place r ts) e := by
  unfold Formula.enclosed
  split
  · exact (h.loosen (.level .comparison) (Nat.zero_le _)).group.loosen place place.depth_le
  · exact h.loosen place (by omega)

end Derivable

/-- One more operator may stand behind others.  It is applied last. -/
theorem Derivation.exists_snoc {registry : Registry} {l : Level} {op : Operator}
    (links : Derivation registry (.links l)) (hop : op.level = l)
    (right : Derivation registry (.expression l.operand)) :
    ∃ links' : Derivation registry (.links l),
      links'.tokens = links.tokens ++ .mark (.operator op) :: right.tokens ∧
        ∀ left, links'.apply left = .binary op (links.apply left) right.tree := by
  match links with
  | .done => exact ⟨.link op hop right .done, by simp [tokens], fun _ => rfl⟩
  | .link op' hop' right' links =>
    obtain ⟨links', htokens, happly⟩ := links.exists_snoc hop right
    refine ⟨.link op' hop' right' links', ?_, fun left => happly (.binary op' left right'.tree)⟩
    simp [tokens, htokens]

theorem Derivable.binary {op : Operator} {ts ts' : List Token} {left right : Expr}
    (hleft : Derivable (.level op.level) ts left) (hright : Derivable op.level.operand ts' right) :
    Derivable (.level op.level) (ts ++ .mark (.operator op) :: ts') (.binary op left right) := by
  obtain ⟨d, rfl, rfl⟩ := hleft
  obtain ⟨d', rfl, rfl⟩ := hright
  cases d with
  | chain first links =>
    obtain ⟨links', htokens, happly⟩ := links.exists_snoc rfl d'
    refine ⟨.chain first links', ?_, happly first.tree⟩
    simp [Derivation.tokens, htokens]

/-- Arguments have a derivation if each of them has. -/
theorem exists_arguments {es : List Expr} (hne : es ≠ [])
    (hes : ∀ e ∈ es, Derivable (.level .comparison) e.tokens e) :
    ∃ d : Derivation .standard (.arguments es.length),
      d.tokens = Expr.argumentTokens es ∧ d.trees = es := by
  match es, hne with
  | [e], _ =>
    obtain ⟨d, htokens, htree⟩ := hes e (List.mem_singleton_self e)
    exact ⟨.last d, by simp [Derivation.tokens, Expr.argumentTokens, htokens],
      congrArg (· :: []) htree⟩
  | e :: e' :: es, _ =>
    obtain ⟨d, htokens, htree⟩ := hes e (List.mem_cons_self ..)
    obtain ⟨arguments, hrest, htrees⟩ := exists_arguments (List.cons_ne_nil e' es)
      fun e'' he'' => hes e'' (List.mem_cons_of_mem e he'')
    refine ⟨.more d arguments, ?_, congrArg₂ (· :: ·) htree htrees⟩
    simp [Derivation.tokens, Expr.argumentTokens, htokens, hrest]

theorem Derivable.call {b : Builtin} {es : List Expr} (hcount : b.signature.Allows es.length)
    (hes : ∀ e ∈ es, Derivable (.level .comparison) e.tokens e) :
    Derivable .atom (Expr.call b.function es).tokens (.call b.function es) := by
  by_cases hne : es = []
  · subst hne
    exact ⟨.emptyCall b.signature.name b.function (find?_name b) hcount, rfl, rfl⟩
  · obtain ⟨d, htokens, htrees⟩ := exists_arguments hne hes
    refine ⟨.call b.signature.name b.function (find?_name b) hcount d, ?_, ?_⟩
    · simp [Derivation.tokens, Expr.tokens, htokens]
      rfl
    · exact congrArg (Expr.call b.function) htrees

namespace Expr.Printable

variable {e : Expr}

/-- The tokens of a tree have a derivation that gives the tree. -/
theorem derivable (h : e.Printable) : Derivable e.rank e.tokens e := by
  induction h with
  | text s => exact ⟨.literal (.text s), rfl, rfl⟩
  | signed s he hd =>
    obtain ⟨d, htokens, htree⟩ := hd.enclosed .signed
    refine ⟨.signed s d, ?_, congrArg (Expr.signed s) htree⟩
    simp [Derivation.tokens, htokens, Expr.tokens]
  | binary op hleft hright hd hd' =>
    rw [Expr.tokens]
    exact (hd.enclosed (.level op.level)).binary (hd'.enclosed op.level.operand)
  | @reference r hr =>
    exact ⟨.reference _ r (find?_spelling hr)
      (by rw [String.toList_ofList]; exact Reference.read_spelling hr.bottom_lt hr.right_lt),
      rfl, rfl⟩
  | call b hcount hes hd =>
    exact Derivable.call hcount fun e he => (hd e he).loosen _ (Nat.zero_le _)

end Expr.Printable

/-! ## Parsing -/

theorem printed_enclosed {place rank : Rank} {ts : List Token} (h : ∀ t ∈ ts, t.Printed) :
    ∀ t ∈ enclosed place rank ts, t.Printed := by
  intro t ht
  unfold enclosed at ht
  split at ht
  · simp only [List.mem_cons, List.mem_append, List.not_mem_nil, or_false] at ht
    rcases ht with rfl | ht | rfl
    · exact .mark .opening
    · exact h t ht
    · exact .mark .closing
  · exact h t ht

theorem printed_argumentTokens {es : List Expr} (h : ∀ e ∈ es, ∀ t ∈ e.tokens, t.Printed) :
    ∀ t ∈ Expr.argumentTokens es, t.Printed := by
  intro t ht
  match es with
  | [] =>
    rw [List.mem_singleton.1 ht]
    exact .mark .closing
  | [e] =>
    rcases List.mem_append.1 ht with ht | ht
    · exact h e (List.mem_singleton_self e) t ht
    · rw [List.mem_singleton.1 ht]
      exact .mark .closing
  | e :: e' :: es =>
    simp only [Expr.argumentTokens, List.mem_append, List.mem_cons] at ht
    rcases ht with ht | rfl | ht
    · exact h e (List.mem_cons_self ..) t ht
    · exact .mark .comma
    · have hrest : ∀ e'' ∈ e' :: es, ∀ t ∈ e''.tokens, t.Printed := fun e'' he'' =>
        h e'' (List.mem_cons_of_mem e he'')
      exact printed_argumentTokens hrest t ht

/-- The tokens of a tree are among those that are scanned back. -/
theorem Expr.Printable.printed {e : Expr} (h : e.Printable) : ∀ t ∈ e.tokens, t.Printed := by
  induction h with
  | text s =>
    intro t ht
    rw [List.mem_singleton.1 ht]
    exact .text s
  | signed s he hprinted =>
    intro t ht
    rcases List.mem_cons.1 ht with rfl | ht
    · exact .mark _
    · exact printed_enclosed hprinted t ht
  | binary op hleft hright hprinted hprinted' =>
    intro t ht
    simp only [Expr.tokens, List.mem_append, List.mem_cons] at ht
    rcases ht with ht | rfl | ht
    · exact printed_enclosed hprinted t ht
    · exact .mark _
    · exact printed_enclosed hprinted' t ht
  | @reference r hr =>
    intro t ht
    rw [List.mem_singleton.1 ht]
    exact .reference r
  | call b hcount hes hprinted =>
    intro t ht
    simp only [Expr.tokens, List.mem_cons] at ht
    rcases ht with rfl | rfl | ht
    · exact .name b
    · exact .mark .opening
    · exact printed_argumentTokens hprinted t ht

/-- Parsing the text of a tree gives the tree back. -/
theorem parse_text {e : Expr} (h : e.Printable) : parse .standard e.text = .ok e := by
  obtain ⟨d, htokens, htree⟩ := h.derivable.loosen (.level .comparison) (Nat.zero_le _)
  have hseparate : Separate d.tokens := by
    have hseparate : Separate (d.tokens ++ []) := d.separate trivial rfl
    rwa [List.append_nil] at hseparate
  have hs : Tokenizes e.text.toList d.tokens := by
    rw [htokens] at hseparate ⊢
    rw [Expr.text, String.toList_ofList]
    exact tokenizes_spelling h.printed hseparate
  rw [parse_eq_ok_of_derivation d hs, htree]

/-- Powers of powers and signs, compared with a sum over a sheet with a quote in its name. -/
def quotingTree : Expr :=
  let a1 : Grid.Range := { top := 0, left := 0, bottom := 0, right := 0 }
  let b2 : Grid.Range := { top := 1, left := 1, bottom := 1, right := 1 }
  let a1b3 : Grid.Range := { top := 0, left := 0, bottom := 2, right := 1 }
  .binary (.compare .less)
    (.binary .power (.signed .minus (.reference ⟨a1, none⟩))
      (.binary .power (.reference ⟨b2, none⟩) (.literal (.text "a \"b\""))))
    (.signed .minus (.call Builtin.sum.function [.reference ⟨a1b3, some "it's"⟩]))

theorem parse_text_quotingTree : quotingTree.Printable ∧
    quotingTree.text = "-A1^(B2^\"a \"\"b\"\"\")<-SUM('it''s'!A1:B3)" ∧
      parse .standard quotingTree.text = .ok quotingTree := by
  have hreference {r : Reference} (hbottom : r.range.bottom + 1 < indexLimit)
      (hright : r.range.right + 1 < indexLimit)
      (hname : (Registry.standard.find? r.range.text).isNone = true) : r.Printable :=
    ⟨hbottom, hright, fun _ => Option.isNone_iff_eq_none.1 hname⟩
  have hprintable : quotingTree.Printable := by
    refine .binary _ (.binary _ (.signed _ (.reference ?_)) (.binary _ (.reference ?_) (.text _)))
      (.signed _ (.call .sum ?_ ?_))
    · exact hreference (by decide) (by decide) (by decide +kernel)
    · exact hreference (by decide) (by decide) (by decide +kernel)
    · exact ⟨by decide, nofun⟩
    · intro e he
      rw [List.mem_singleton.1 he]
      exact .reference (hreference (by decide) (by decide) (by decide +kernel))
  exact ⟨hprintable, by decide +kernel, parse_text hprintable⟩

/-- The last row that is an index has a number that is not below the limit. -/
def lastRow : Reference :=
  ⟨{ top := 18446744073709551615, left := 0, bottom := 18446744073709551615, right := 0 }, none⟩

/-- The text of the last row is not read back. -/
theorem not_parse_text_lastRow : (Registry.standard.find? lastRow.range.text).isNone = true ∧
    (Expr.reference lastRow).text = "A18446744073709551616" ∧
      ¬ parse .standard (Expr.reference lastRow).text = .ok (.reference lastRow) := by
  refine ⟨by decide +kernel, by decide +kernel, fun h => ?_⟩
  have hfails : (parse .standard (Expr.reference lastRow).text).isOk = false := by decide +kernel
  rw [h] at hfails
  exact Bool.noConfusion hfails

end Spreadsheet.Formula
