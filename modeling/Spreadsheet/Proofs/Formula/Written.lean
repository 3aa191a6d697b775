import Spreadsheet.Formula.Parser

/-!
# What is written in a formula

A formula is written with literals, references and names of functions.  `Parts`
says which of these are allowed, `Expr.MadeOf` that a tree uses no others, and
`Supplies` that the tokens of a formula contain no others.  The parser leads
from one to the other, which is shown in `Proofs.Formula.Hostless`.

The references of a formula are read off its tokens.  An identifier is one when
it has the form of a reference, names no function, and no argument list follows.
So the references of a formula are known even if it cannot be parsed.
-/

namespace Spreadsheet.Formula

/-! ## Trees -/

/-- What a formula may be made of. -/
structure Parts where
  /-- The literals. -/
  literal : Value → Prop
  /-- The references. -/
  reference : Reference → Prop
  /-- The functions. -/
  function : Function → Prop

/-- The parts that allow everything. -/
def Parts.all : Parts := ⟨fun _ => True, fun _ => True, fun _ => True⟩

mutual

/-- A tree has no other parts. -/
def Expr.MadeOf (P : Parts) : Expr → Prop
  | .literal v => P.literal v
  | .signed _ e => e.MadeOf P
  | .binary _ l r => l.MadeOf P ∧ r.MadeOf P
  | .reference r => P.reference r
  | .call f es => P.function f ∧ Expr.AllMadeOf P es

/-- The trees of a list have no other parts. -/
def Expr.AllMadeOf (P : Parts) : List Expr → Prop
  | [] => True
  | e :: es => e.MadeOf P ∧ Expr.AllMadeOf P es

end

/-! ## Tokens -/

/-- Whether an argument list starts here. -/
def opensList : List Token → Bool
  | .mark .opening :: _ => true
  | _ => false

/-- The reference that an identifier stands for, which the given tokens follow. -/
def referenceOf? (registry : Registry) (name : String) (ts : List Token) : Option Reference :=
  if opensList ts || (registry.find? name).isSome then none
  else (Reference.read name.toList).toOption.join

/-- The references among tokens. -/
def referencesIn (registry : Registry) : List Token → List Reference
  | [] => []
  | .identifier name :: ts => (referenceOf? registry name ts).toList ++ referencesIn registry ts
  | _ :: ts => referencesIn registry ts

/-- The tokens contain no other literals and references. -/
structure Supplies (P : Parts) (registry : Registry) (ts : List Token) : Prop where
  /-- The literals are allowed. -/
  literal : ∀ {v}, Token.literal v ∈ ts → P.literal v
  /-- The references are allowed. -/
  reference : ∀ {r}, r ∈ referencesIn registry ts → P.reference r

theorem referencesIn_tail {registry : Registry} {ts : List Token} {r : Reference}
    (h : r ∈ referencesIn registry ts.tail) : r ∈ referencesIn registry ts := by
  cases ts with
  | nil => exact h
  | cons t ts =>
    cases t with
    | identifier name => exact List.mem_append_right _ h
    | literal v => exact h
    | mark m => exact h

theorem Supplies.tail {P : Parts} {registry : Registry} {ts : List Token}
    (h : Supplies P registry ts) : Supplies P registry ts.tail where
  literal hv := h.literal (List.mem_of_mem_tail hv)
  reference hr := h.reference (referencesIn_tail hr)

/-- Parts that allow everything are supplied by any tokens. -/
theorem supplies_all (registry : Registry) (ts : List Token) : Supplies .all registry ts :=
  ⟨fun _ => trivial, fun _ => trivial⟩

/-! ## Texts -/

/-- The references that are written in a formula without its `=`. -/
def references (registry : Registry) (body : String) : List Reference :=
  referencesIn registry (scan body).1

/-- A literal of a formula is a number, a text or a moment. -/
theorem takeToken_literal {cs rest : List Char} {v : Value}
    (h : takeToken cs = .ok (.literal v, rest)) :
    (∃ x, v = .number x) ∨ (∃ s, v = .text s) ∨ ∃ m, v = .date m := by
  unfold takeToken at h
  generalize takeMark? cs = mark at h
  cases mark with
  | some m => cases h
  | none =>
    dsimp only at h
    split at h
    · generalize takeNumber cs = number at h
      cases h
      exact .inl ⟨_, rfl⟩
    · split at h
      next =>
        split at h
        · cases h
        · cases h
        · cases h
          exact .inr (.inl ⟨_, rfl⟩)
      next =>
        split at h
        · cases h
        · split at h
          · cases h
            exact .inr (.inr ⟨_, rfl⟩)
          · cases h
      next c _ _ _ =>
        split at h
        · generalize takeIdentifier _ _ = taken at h
          cases taken <;> cases h
        · cases h
      next => cases h

theorem scanFrom_literal {n : Nat} {cs : List Char} {v : Value}
    (h : Token.literal v ∈ (scanFrom n cs).1) :
    (∃ x, v = .number x) ∨ (∃ s, v = .text s) ∨ ∃ m, v = .date m := by
  induction n generalizing cs with
  | zero => exact absurd h List.not_mem_nil
  | succ n ih =>
    unfold scanFrom at h
    split at h
    · exact absurd h List.not_mem_nil
    · split at h
      · exact absurd h List.not_mem_nil
      next token rest htoken =>
        rcases List.mem_cons.1 h with rfl | h
        · exact takeToken_literal htoken
        · exact ih h

/-- A formula supplies its own references, and literals that are numbers, texts or moments. -/
theorem supplies_scan {P : Parts} {registry : Registry} {body : String}
    (number : ∀ x, P.literal (.number x)) (text : ∀ s, P.literal (.text s))
    (date : ∀ m, P.literal (.date m))
    (reference : ∀ r ∈ references registry body, P.reference r) :
    Supplies P registry (scan body).1 where
  literal hv := by
    obtain ⟨x, rfl⟩ | ⟨s, rfl⟩ | ⟨m, rfl⟩ := scanFrom_literal hv
    · exact number x
    · exact text s
    · exact date m
  reference := reference _

end Spreadsheet.Formula
