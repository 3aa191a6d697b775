import Spreadsheet.Engine.Reading
import Spreadsheet.Proofs.Evaluation.Outcomes
import Spreadsheet.Proofs.Formula.Grammar

/-!
# How many arguments calls have

A call in a tree holds its function and its arguments.  `Expr.Calls` says that in
every call of a tree the two go together, in whatever sense, and
`Expr.WellCounted` that the signature of the function allows their number.

The parser checks the number as soon as it has read the arguments.  So the calls
of a tree that it gives are as they should be if this follows from the check, for
the functions that there are (`Counting`).  This holds with any host, whatever
the parser is answered when it computes the arguments of a name on its way
(`parseWith_ends`).  The proof is one induction on the number of steps
(`parserCounts`).
-/

namespace Spreadsheet.Formula

open Spreadsheet.Evaluation (Program)

/-! ## Trees -/

mutual

/-- In every call of a tree the function goes together with the number of its arguments. -/
def Expr.Calls (ok : Function → Nat → Prop) : Expr → Prop
  | .literal _ => True
  | .signed _ e => e.Calls ok
  | .binary _ l r => l.Calls ok ∧ r.Calls ok
  | .reference _ => True
  | .call f es => ok f es.length ∧ Expr.AllCall ok es

/-- The same for the trees of a list. -/
def Expr.AllCall (ok : Function → Nat → Prop) : List Expr → Prop
  | [] => True
  | e :: es => e.Calls ok ∧ Expr.AllCall ok es

end

/-- Every call has a number of arguments that the signature of its own function allows. -/
def Expr.WellCounted (e : Expr) : Prop := e.Calls fun f count => f.signature.Allows count

/-- What the check of a number of arguments comes to. -/
theorem Signature.checkCount_regular (s : Signature) (count : Nat) :
    Regular (fun _ => s.Allows count) (s.checkCount count) := by
  cases hcount : s.checkCount count with
  | ok u => exact .ok (checkCount_eq_ok.1 hcount)
  | error e =>
    unfold checkCount at hcount
    split at hcount
    · cases hcount
      exact .error nofun nofun
    · split at hcount
      · split at hcount
        · cases hcount
          exact .error nofun nofun
        · cases hcount
      · cases hcount

/-! ## The parser -/

/-- What the parser knows leads to calls that are as they should be, and to no other errors than
those that are allowed. -/
structure Counting (allowed : Error → Prop) (ok : Function → Nat → Prop) (d : Dialect Program) :
    Prop where
  /-- A function that there is goes together with the numbers that its signature allows. -/
  call : ∀ {name f count}, d.registry.find? name = some f → f.signature.Allows count → ok f count
  /-- Looking a name up ends well. -/
  resolve : ∀ {name es}, Expr.AllCall ok es → (d.resolve name es).Ends allowed fun _ => True
  /-- The errors of the parser itself are allowed. -/
  allowed : ∀ {e : Error}, e.InBounds → allowed e

section

variable {allowed : Error → Prop} {ok : Function → Nat → Prop} {d : Dialect Program}
  (h : Counting allowed ok d)
include h

theorem refuse_ends {α : Type} {post : α → Prop} (fault : SyntaxFault) :
    (refuse fault : Program α).Ends allowed post :=
  h.allowed nofun

theorem refuseToken_ends {α : Type} {post : α → Prop} (atEnd : SyntaxFault) (ts : List Token) :
    (refuseToken atEnd ts : Program α).Ends allowed post := by
  cases ts with
  | nil => exact refuse_ends h atEnd
  | cons t ts => exact refuse_ends h _

theorem advance_ends (ts : List Token) : (advance d ts).Ends allowed fun _ => True := by
  unfold advance
  split
  · exact refuse_ends h _
  · exact .done trivial

/-- An identifier that names no function becomes no call. -/
theorem meaning_ends {name : String} {arguments : Option (List Expr)}
    (harguments : Expr.AllCall ok (arguments.getD [])) :
    (meaning d name arguments).Ends allowed (Expr.Calls ok) := by
  have named : (do return .literal (← d.resolve name (arguments.getD [])) : Program Expr).Ends
      allowed (Expr.Calls ok) :=
    .next (h.resolve harguments) fun _ => .done trivial
  unfold meaning
  split
  · generalize Reference.read name.toList = written
    match written with
    | .error text => exact h.allowed nofun
    | .ok (some r) => exact .done trivial
    | .ok none => exact named
  · exact named

/-- What all parts of the parser give with a number of steps. -/
structure ParserCounts (allowed : Error → Prop) (ok : Function → Nat → Prop)
    (d : Dialect Program) (n : Nat) : Prop where
  level : ∀ {l ts}, (parseLevel d n l ts).Ends allowed fun result => result.1.Calls ok
  rest : ∀ {l left ts}, left.Calls ok →
    (parseRest d n l left ts).Ends allowed fun result => result.1.Calls ok
  operand : ∀ {l ts}, (parseOperand d n l ts).Ends allowed fun result => result.1.Calls ok
  signed : ∀ {ts}, (parseSigned d n ts).Ends allowed fun result => result.1.Calls ok
  atom : ∀ {ts}, (parseAtom d n ts).Ends allowed fun result => result.1.Calls ok
  arguments : ∀ {ts},
    (parseArguments d n ts).Ends allowed fun result => Expr.AllCall ok (result.1.getD [])
  list : ∀ {ts}, (parseList d n ts).Ends allowed fun result => Expr.AllCall ok result.1

/-! ### One more step -/

variable {n : Nat} (ih : ParserCounts allowed ok d n) {ts : List Token}
include ih

omit h in
theorem parseLevel_ends {l : Level} :
    (parseLevel d (n + 1) l ts).Ends allowed fun result => result.1.Calls ok := by
  simp only [parseLevel]
  exact ih.operand.bind fun _ hleft => ih.rest hleft

theorem parseRest_ends {l : Level} {left : Expr} (hleft : left.Calls ok) :
    (parseRest d (n + 1) l left ts).Ends allowed fun result => result.1.Calls ok := by
  simp only [parseRest]
  cases operator? l ts with
  | none => exact .done hleft
  | some op =>
    refine .next (advance_ends h ts) fun ts => ?_
    exact ih.operand.bind fun _ hright => ih.rest ⟨hleft, hright⟩

omit h in
theorem parseOperand_ends {l : Level} :
    (parseOperand d (n + 1) l ts).Ends allowed fun result => result.1.Calls ok := by
  cases l with
  | comparison => exact ih.level
  | sum => exact ih.level
  | product => exact ih.level
  | power => exact ih.signed

theorem parseSigned_ends :
    (parseSigned d (n + 1) ts).Ends allowed fun result => result.1.Calls ok := by
  simp only [parseSigned]
  cases sign? ts with
  | none => exact ih.atom
  | some s =>
    refine .next (advance_ends h ts) fun ts => ?_
    exact ih.signed.bind fun _ hoperand => .done hoperand

/-- The number of arguments has been checked against the function that the call holds. -/
theorem parseIdentifier_ends {name : String} :
    (parseAtom d (n + 1) (.identifier name :: ts)).Ends allowed
      fun result => result.1.Calls ok := by
  simp only [parseAtom]
  refine .next (advance_ends h _) fun ts => ?_
  apply Program.Ends.bind ih.arguments
  rintro ⟨arguments, ts'⟩ harguments
  cases hf : d.registry.find? name with
  | none => exact (meaning_ends h harguments).bind fun _ he => .done he
  | some f =>
    have hchecked := f.signature.checkCount_regular (arguments.getD []).length
    dsimp only at hchecked ⊢
    generalize f.signature.checkCount (arguments.getD []).length = checked at hchecked
    cases hchecked with
    | ok hcount => exact .done ⟨h.call hf hcount, harguments⟩
    | error _ he => exact h.allowed he

theorem parseAtom_ends :
    (parseAtom d (n + 1) ts).Ends allowed fun result => result.1.Calls ok := by
  match ts with
  | [] => exact refuse_ends h _
  | .literal v :: rest =>
    simp only [parseAtom]
    exact .next (advance_ends h _) fun ts => .done trivial
  | .identifier name :: rest => exact parseIdentifier_ends h ih
  | .mark (.operator op) :: rest => exact refuse_ends h _
  | .mark .closing :: rest => exact refuse_ends h _
  | .mark .comma :: rest => exact refuse_ends h _
  | .mark .opening :: rest =>
    simp only [parseAtom]
    refine .next (advance_ends h _) fun ts => ?_
    apply Program.Ends.bind ih.level
    rintro ⟨e, ts⟩ he
    dsimp only
    split
    · exact .next (advance_ends h _) fun ts => .done he
    · exact refuse_ends h _

theorem parseArguments_ends :
    (parseArguments d (n + 1) ts).Ends allowed
      fun result => Expr.AllCall ok (result.1.getD []) := by
  simp only [parseArguments]
  split
  · refine .next (advance_ends h _) fun ts => ?_
    split
    · exact .next (advance_ends h _) fun ts => .done trivial
    · exact ih.list.bind fun _ hes => .done hes
  · exact .done trivial

theorem parseList_ends :
    (parseList d (n + 1) ts).Ends allowed fun result => Expr.AllCall ok result.1 := by
  simp only [parseList]
  apply Program.Ends.bind ih.level
  rintro ⟨e, ts⟩ he
  dsimp only
  split
  · refine .next (advance_ends h _) fun ts => ?_
    exact ih.list.bind fun _ hes => .done ⟨he, hes⟩
  · exact .next (advance_ends h _) fun ts => .done ⟨he, trivial⟩
  · exact refuseToken_ends h _ _

end

/-- All parts of the parser give calls that are as they should be. -/
theorem parserCounts {allowed : Error → Prop} {ok : Function → Nat → Prop} {d : Dialect Program}
    (h : Counting allowed ok d) (n : Nat) : ParserCounts allowed ok d n := by
  induction n with
  | zero =>
    constructor <;> intros <;> exact refuse_ends h _
  | succ n ih =>
    exact {
      level := parseLevel_ends ih
      rest := parseRest_ends h ih
      operand := parseOperand_ends ih
      signed := parseSigned_ends h ih
      atom := parseAtom_ends h ih
      arguments := parseArguments_ends h ih
      list := parseList_ends h ih }

theorem parseWith_ends {allowed : Error → Prop} {ok : Function → Nat → Prop} {registry : Registry}
    {resolve : String → List Expr → Program Value} {body : String}
    (h : Counting allowed ok ⟨registry, resolve, (scan body).2⟩) :
    (parseWith registry resolve body).Ends allowed (Expr.Calls ok) := by
  unfold parseWith
  dsimp only
  split
  · exact refuse_ends h _
  · apply Program.Ends.bind (parserCounts h _).level
    rintro ⟨e, ts⟩ he
    dsimp only
    split
    · exact .done he
    · exact refuse_ends h _

end Spreadsheet.Formula
