import Spreadsheet.Engine.Reading
import Spreadsheet.Proofs.Formula.Written

/-!
# Parsing where the host knows no names

The parser may compute arguments on its way, namely those of a name that only
the host may know.  If the host knows no names then all this is in vain: the
name is refused once its arguments are computed.  So the parser as a program has
one of two outcomes.

* `parse` gives a tree.  Then the program is done at once with the same tree.
* `parse` gives an error.  Then the program is a lost one.  It may ask for cells,
  but it never gives a tree, and which error it fails with depends on the cells.

`Refusal` says what a lost program is, and `Mirrors` is this relation of a
program to an outcome.  The theorem for all parts of the parser is one induction
on the number of steps (`parsersMirror`).  It also shows that a tree is made of
what the tokens supply.  All that it needs to know of names is that looking one
up mirrors what the other parser does with it.
-/

namespace Spreadsheet

namespace Formula

open Spreadsheet.Engine
open Spreadsheet.Evaluation (Program)

variable {α β : Type}

/-- A property of programs that never give anything. -/
structure Refusal where
  /-- The program is lost. -/
  holds : ∀ {α : Type}, Program α → Prop
  /-- What follows a lost program does not matter. -/
  bind : ∀ {α β : Type} {p : Program α} (f : α → Program β), holds p → holds (p >>= f)
  /-- A failure is lost, except for a circular reference. -/
  fail : ∀ {α : Type} {e : Error}, e ≠ .circularReference → holds (.fail e : Program α)

/-- A program is done with the given result, or it is lost where an error is given. -/
def Mirrors (R : Refusal) (post : α → Prop) (p : Program α) : Except Error α → Prop
  | .ok a => p = .done a ∧ post a
  | .error _ => R.holds p

namespace Mirrors

variable {R : Refusal} {post : α → Prop} {post' : β → Prop}

theorem pure {a : α} (h : post a) :
    Mirrors R post (Pure.pure a : Program α) (Pure.pure a) := ⟨rfl, h⟩

theorem raise {e : Error} (h : e ≠ .circularReference) :
    Mirrors R post (Failing.raise e : Program α) (Failing.raise e) := R.fail h

theorem refuse (fault : SyntaxFault) :
    Mirrors R post (Formula.refuse fault : Program α) (Formula.refuse fault) := R.fail nofun

theorem bind {p : Program α} {x : Except Error α} {f : α → Program β} {g : α → Except Error β}
    (h : Mirrors R post p x) (hf : ∀ a, post a → Mirrors R post' (f a) (g a)) :
    Mirrors R post' (p >>= f) (x >>= g) := by
  cases x with
  | ok a =>
    obtain ⟨rfl, ha⟩ := h
    exact hf a ha
  | error e => exact R.bind f h

end Mirrors

/-! ## The parser -/

section

variable {R : Refusal} {P : Parts} {d : Dialect Program} {d' : Dialect (Except Error)}

/-- Two parsers with the same functions over the same tokens, where looking up names mirrors what
the other one does. -/
structure Hostless (R : Refusal) (P : Parts) (d : Dialect Program)
    (d' : Dialect (Except Error)) : Prop where
  /-- The functions are the same. -/
  registry : d.registry = d'.registry
  /-- The reason for which tokens end early is the same. -/
  fault : d.fault = d'.fault
  /-- The functions are allowed. -/
  function : ∀ {name f}, d.registry.find? name = some f → P.function f
  /-- A name has an allowed value, or looking it up is lost. -/
  resolve : ∀ {name es}, Expr.AllMadeOf P es →
    Mirrors R P.literal (d.resolve name es) (d'.resolve name es)

/-- A tree of the allowed parts, before tokens that supply no others. -/
def Fine (P : Parts) (registry : Registry) (result : Expr × List Token) : Prop :=
  result.1.MadeOf P ∧ Supplies P registry result.2

/-- Trees of the allowed parts, before tokens that supply no others. -/
def AllFine (P : Parts) (registry : Registry) (result : List Expr × List Token) : Prop :=
  Expr.AllMadeOf P result.1 ∧ Supplies P registry result.2

variable (h : Hostless R P d d')
include h

theorem advance_mirrors {ts : List Token} (hts : Supplies P d.registry ts) :
    Mirrors R (fun rest => rest = ts.tail ∧ Supplies P d.registry rest) (advance d ts)
      (advance d' ts) := by
  unfold advance
  rw [← h.fault]
  split
  · exact .refuse _
  · exact .pure ⟨rfl, hts.tail⟩

omit h in
theorem refuseToken_mirrors {post : α → Prop} (atEnd : SyntaxFault) (ts : List Token) :
    Mirrors R post (refuseToken atEnd ts) (refuseToken atEnd ts) := by
  cases ts with
  | nil => exact .refuse _
  | cons t ts => exact .refuse _

/-- What an identifier means that names no function: a reference, or a name for the host. -/
theorem meaning_mirrors {name : String} {ts : List Token} {arguments : Option (List Expr)}
    (hname : d.registry.find? name = none)
    (harguments : ∀ es, arguments = some es → Expr.AllMadeOf P es)
    (hopens : arguments = none → opensList ts = false)
    (hreference : ∀ r, referenceOf? d.registry name ts = some r → P.reference r) :
    Mirrors R (Expr.MadeOf P) (meaning d name arguments) (meaning d' name arguments) := by
  have named (es : List Expr) (hes : Expr.AllMadeOf P es) :
      Mirrors R (Expr.MadeOf P) (do return .literal (← d.resolve name es))
        (do return .literal (← d'.resolve name es)) :=
    (h.resolve hes).bind fun _ hv => .pure hv
  cases arguments with
  | some es => exact named es (harguments es rfl)
  | none =>
    unfold meaning
    simp only [Option.isNone_none, if_true]
    unfold referenceOf? at hreference
    rw [hopens rfl, hname] at hreference
    generalize Reference.read name.toList = written at hreference
    match written with
    | .error text => exact .raise nofun
    | .ok (some r) => exact .pure (hreference r rfl)
    | .ok none => exact named [] trivial

/-- All parts of the parser mirror each other with a number of steps. -/
structure ParsersMirror (R : Refusal) (P : Parts) (d : Dialect Program)
    (d' : Dialect (Except Error)) (n : Nat) : Prop where
  level : ∀ {l ts}, Supplies P d.registry ts →
    Mirrors R (Fine P d.registry) (parseLevel d n l ts) (parseLevel d' n l ts)
  rest : ∀ {l left ts}, left.MadeOf P → Supplies P d.registry ts →
    Mirrors R (Fine P d.registry) (parseRest d n l left ts) (parseRest d' n l left ts)
  operand : ∀ {l ts}, Supplies P d.registry ts →
    Mirrors R (Fine P d.registry) (parseOperand d n l ts) (parseOperand d' n l ts)
  signed : ∀ {ts}, Supplies P d.registry ts →
    Mirrors R (Fine P d.registry) (parseSigned d n ts) (parseSigned d' n ts)
  atom : ∀ {ts}, Supplies P d.registry ts →
    Mirrors R (Fine P d.registry) (parseAtom d n ts) (parseAtom d' n ts)
  arguments : ∀ {ts}, Supplies P d.registry ts →
    Mirrors R (fun result => (∀ es, result.1 = some es → Expr.AllMadeOf P es) ∧
        (result.1 = none → opensList ts = false) ∧ Supplies P d.registry result.2)
      (parseArguments d n ts) (parseArguments d' n ts)
  list : ∀ {ts}, Supplies P d.registry ts →
    Mirrors R (AllFine P d.registry) (parseList d n ts) (parseList d' n ts)

omit h in
theorem checkCount_ne_circularReference {s : Signature} {count : Nat} {e : Error}
    (he : s.checkCount count = .error e) : e ≠ .circularReference := by
  unfold Signature.checkCount at he
  split at he
  · cases he
    exact nofun
  · split at he
    · split at he
      · cases he
        exact nofun
      · cases he
    · cases he

/-! ### One more step

Each part of the parser with one more step calls others with the steps before. -/

variable {n : Nat} (ih : ParsersMirror R P d d' n) {ts : List Token}
  (hts : Supplies P d.registry ts)
include ih hts

omit h in
theorem parseLevel_mirrors {l : Level} :
    Mirrors R (Fine P d.registry) (parseLevel d (n + 1) l ts) (parseLevel d' (n + 1) l ts) := by
  simp only [parseLevel]
  apply Mirrors.bind (ih.operand hts)
  rintro ⟨left, ts⟩ ⟨hleft, hts⟩
  exact ih.rest hleft hts

theorem parseRest_mirrors {l : Level} {left : Expr} (hleft : left.MadeOf P) :
    Mirrors R (Fine P d.registry) (parseRest d (n + 1) l left ts)
      (parseRest d' (n + 1) l left ts) := by
  simp only [parseRest]
  cases operator? l ts with
  | none => exact .pure ⟨hleft, hts⟩
  | some op =>
    apply Mirrors.bind (advance_mirrors h hts)
    rintro ts ⟨-, hts⟩
    apply Mirrors.bind (ih.operand hts)
    rintro ⟨right, ts⟩ ⟨hright, hts⟩
    exact ih.rest ⟨hleft, hright⟩ hts

omit h in
theorem parseOperand_mirrors {l : Level} :
    Mirrors R (Fine P d.registry) (parseOperand d (n + 1) l ts)
      (parseOperand d' (n + 1) l ts) := by
  cases l with
  | comparison => exact ih.level hts
  | sum => exact ih.level hts
  | product => exact ih.level hts
  | power => exact ih.signed hts

theorem parseSigned_mirrors :
    Mirrors R (Fine P d.registry) (parseSigned d (n + 1) ts) (parseSigned d' (n + 1) ts) := by
  simp only [parseSigned]
  cases sign? ts with
  | none => exact ih.atom hts
  | some s =>
    apply Mirrors.bind (advance_mirrors h hts)
    rintro ts ⟨-, hts⟩
    apply Mirrors.bind (ih.signed hts)
    rintro ⟨operand, ts⟩ ⟨hoperand, hts⟩
    exact .pure ⟨hoperand, hts⟩

omit hts in
/-- A call or what else an identifier means. -/
theorem parseIdentifier_mirrors {name : String}
    (hts : Supplies P d.registry (.identifier name :: ts)) :
    Mirrors R (Fine P d.registry) (parseAtom d (n + 1) (.identifier name :: ts))
      (parseAtom d' (n + 1) (.identifier name :: ts)) := by
  simp only [parseAtom, ← h.registry]
  apply Mirrors.bind (advance_mirrors h hts)
  rintro rest ⟨rfl, hrest⟩
  apply Mirrors.bind (ih.arguments hrest)
  rintro ⟨arguments, ts'⟩ ⟨harguments, hopens, hts''⟩
  cases hf : d.registry.find? name with
  | some f =>
    dsimp only
    cases hcount : f.signature.checkCount (arguments.getD []).length with
    | error e => exact .raise (checkCount_ne_circularReference hcount)
    | ok _ =>
      refine .pure ⟨⟨h.function hf, ?_⟩, hts''⟩
      cases arguments with
      | none => trivial
      | some es => exact harguments es rfl
  | none =>
    apply Mirrors.bind (meaning_mirrors h hf harguments hopens _)
    · intro e he
      exact .pure ⟨he, hts''⟩
    · intro r hr
      exact hts.reference (List.mem_append_left _ (Option.mem_toList.2 hr))

theorem parseAtom_mirrors :
    Mirrors R (Fine P d.registry) (parseAtom d (n + 1) ts) (parseAtom d' (n + 1) ts) := by
  match ts, hts with
  | [], hts => exact refuseToken_mirrors _ []
  | .literal v :: rest, hts =>
    simp only [parseAtom]
    apply Mirrors.bind (advance_mirrors h hts)
    rintro rest ⟨-, hrest⟩
    exact .pure ⟨hts.literal List.mem_cons_self, hrest⟩
  | .identifier name :: rest, hts => exact parseIdentifier_mirrors h ih hts
  | .mark (.operator op) :: rest, hts => exact .refuse _
  | .mark .closing :: rest, hts => exact .refuse _
  | .mark .comma :: rest, hts => exact .refuse _
  | .mark .opening :: rest, hts =>
    simp only [parseAtom]
    apply Mirrors.bind (advance_mirrors h hts)
    rintro rest ⟨-, hrest⟩
    apply Mirrors.bind (ih.level hrest)
    rintro ⟨e, ts⟩ ⟨he, hts⟩
    dsimp only
    split
    · apply Mirrors.bind (advance_mirrors h hts)
      rintro rest ⟨-, hrest⟩
      exact .pure ⟨he, hrest⟩
    · exact .refuse _

theorem parseArguments_mirrors :
    Mirrors R (fun result => (∀ es, result.1 = some es → Expr.AllMadeOf P es) ∧
        (result.1 = none → opensList ts = false) ∧ Supplies P d.registry result.2)
      (parseArguments d (n + 1) ts) (parseArguments d' (n + 1) ts) := by
  simp only [parseArguments]
  split
  · apply Mirrors.bind (advance_mirrors h hts)
    rintro rest ⟨-, hrest⟩
    split
    · apply Mirrors.bind (advance_mirrors h hrest)
      rintro rest ⟨-, hrest⟩
      refine .pure ⟨?_, nofun, hrest⟩
      rintro _ ⟨⟩
      trivial
    · apply Mirrors.bind (ih.list hrest)
      rintro ⟨es, ts⟩ ⟨hes, hts⟩
      refine .pure ⟨?_, nofun, hts⟩
      rintro _ ⟨⟩
      exact hes
  next hopening =>
    refine .pure ⟨nofun, fun _ => ?_, hts⟩
    unfold opensList
    split
    · exact absurd rfl (hopening _)
    · rfl

theorem parseList_mirrors :
    Mirrors R (AllFine P d.registry) (parseList d (n + 1) ts) (parseList d' (n + 1) ts) := by
  simp only [parseList]
  apply Mirrors.bind (ih.level hts)
  rintro ⟨e, ts⟩ ⟨he, hts⟩
  dsimp only
  split
  · apply Mirrors.bind (advance_mirrors h hts)
    rintro rest ⟨-, hrest⟩
    apply Mirrors.bind (ih.list hrest)
    rintro ⟨es, ts⟩ ⟨hes, hts⟩
    exact .pure ⟨⟨he, hes⟩, hts⟩
  · apply Mirrors.bind (advance_mirrors h hts)
    rintro rest ⟨-, hrest⟩
    exact .pure ⟨⟨he, trivial⟩, hrest⟩
  · exact refuseToken_mirrors _ _

end

/-- All parts of the parser mirror each other. -/
theorem parsersMirror {R : Refusal} {P : Parts} {d : Dialect Program} {d' : Dialect (Except Error)}
    (h : Hostless R P d d') (n : Nat) : ParsersMirror R P d d' n := by
  induction n with
  | zero =>
    constructor <;> intros <;> exact .refuse _
  | succ n ih =>
    exact {
      level := fun hts => parseLevel_mirrors ih hts
      rest := fun hleft hts => parseRest_mirrors h ih hts hleft
      operand := fun hts => parseOperand_mirrors ih hts
      signed := parseSigned_mirrors h ih
      atom := parseAtom_mirrors h ih
      arguments := parseArguments_mirrors h ih
      list := parseList_mirrors h ih }

theorem parseWith_mirrors {R : Refusal} {P : Parts} {registry : Registry} {body : String}
    {resolve : String → List Expr → Program Value}
    {resolve' : String → List Expr → Except Error Value}
    (h : Hostless R P ⟨registry, resolve, (scan body).2⟩ ⟨registry, resolve', (scan body).2⟩)
    (hbody : Supplies P registry (scan body).1) :
    Mirrors R (Expr.MadeOf P) (parseWith registry resolve body)
      (parseWith registry resolve' body) := by
  unfold parseWith
  dsimp only
  split
  · exact .refuse _
  · apply Mirrors.bind ((parsersMirror h _).level hbody)
    rintro ⟨e, ts⟩ ⟨he, -⟩
    dsimp only
    split
    · exact .pure he
    · exact .refuse _

end Formula

/-! ## Hosts without names -/

/-- A host that knows no name. -/
def Host.KnowsNoNames (h : Host) : Prop := ∀ name values, h.resolve? name values = none

theorem Grid.Workbook.host_knowsNoNames (b : Grid.Workbook) : b.host.KnowsNoNames :=
  fun _ _ => rfl

namespace Engine

open Spreadsheet.Evaluation (Program Context)
open Spreadsheet.Formula (Expr Mirrors Parts Refusal Supplies scan)

variable {s : Surroundings} {c : Context}

/-- For a host that knows no name, looking one up is to compute the arguments and to fail. -/
theorem resolve_eq (hs : s.host.KnowsNoNames) (name : String) (es : List Expr) :
    s.resolve c name es = rawValues c es >>= fun _ => .fail (.unknownFunction name) := by
  unfold Surroundings.resolve
  simp only [hs name]

/-- What a formula is parsed to does not depend on a host that knows no name. -/
theorem parse_mirrors {R : Refusal} {P : Parts} {body : String} (hs : s.host.KnowsNoNames)
    (hfunction : ∀ {name f}, s.registry.find? name = some f → P.function f)
    (hvalues : ∀ {name es}, Expr.AllMadeOf P es →
      R.holds (rawValues c es >>= fun _ => (.fail (.unknownFunction name) : Program Value)))
    (hbody : Supplies P s.registry (scan body).1) :
    Mirrors R (Expr.MadeOf P) (s.parse c body) (Formula.parse s.registry body) := by
  refine Formula.parseWith_mirrors ?_ hbody
  exact {
    registry := rfl
    fault := rfl
    function := hfunction
    resolve := fun {name es} hes => by
      have hlost : R.holds (rawValues c es >>= fun _ => .fail (.unknownFunction name)) :=
        hvalues hes
      rw [← resolve_eq hs] at hlost
      exact hlost }

end Engine

end Spreadsheet
