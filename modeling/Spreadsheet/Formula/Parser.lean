import Spreadsheet.Formula.Expr
import Spreadsheet.Formula.Scan

/-!
# Parsing

The parser works through the tokens with one of them in view.  Its four levels
of operators, loosest first, are those of `Level`.  All operators associate to
the left, also powers.  Below the levels stand signs and then atoms: literals,
identifiers and groups in parentheses.

* An identifier that names a function is a call.  Its arguments stand in
  parentheses, which may be left out when there are none, and their number is
  checked as soon as they have been read.
* Any other identifier without parentheses is a reference if it has the form of
  one.
* What is left is a name that only the host may know.  It is looked up at once,
  with its arguments, and the value takes the place of the call.

The last case is why the parser is written over a monad: looking a name up
computes arguments.  Without a host every such name is an error.

A scanning error behind the token in view comes to light only when the parser
gets there.  So the tokens before it are parsed first, and an error in them
wins.

Every call consumes a step, and `parse` provides more steps than a formula of
its length can use.
-/

namespace Spreadsheet.Formula

/-- What the parser knows besides the tokens. -/
structure Dialect (m : Type → Type) where
  /-- The functions. -/
  registry : Registry
  /-- The value of a name that is neither a function's nor a reference. -/
  resolve : String → List Expr → m Value
  /-- Why the tokens end early, if they do. -/
  fault : Option SyntaxFault

/-- A kind of computation that can fail with an error. -/
class Failing (m : Type → Type) where
  /-- Fails. -/
  raise {α : Type} : Error → m α

instance : Failing (Except Error) := ⟨.error⟩

variable {m : Type → Type} [Monad m] [Failing m]

/-- Fails with a syntax error. -/
def refuse {α : Type} (fault : SyntaxFault) : m α := Failing.raise (.syntaxError fault)

/-- The tokens without the one in view.  When none is left, the reason for that comes to light. -/
def advance (d : Dialect m) (ts : List Token) : m (List Token) :=
  match ts.tail, d.fault with
  | [], some fault => refuse fault
  | rest, _ => pure rest

/-- The operator of a level that is in view. -/
def operator? (l : Level) : List Token → Option Operator
  | .mark (.operator op) :: _ => if op.level = l then some op else none
  | _ => none

/-- The sign in view. -/
def sign? : List Token → Option Sign
  | .mark (.operator .add) :: _ => some .plus
  | .mark (.operator .subtract) :: _ => some .minus
  | _ => none

/-- Refuses the token in view. -/
def refuseToken {α : Type} (atEnd : SyntaxFault) : List Token → m α
  | [] => refuse atEnd
  | t :: _ => refuse (.unexpected t.describe)

/-- What an identifier means that does not name a function.  `arguments` is absent when it has no
parentheses. -/
def meaning (d : Dialect m) (name : String) (arguments : Option (List Expr)) : m Expr := do
  if arguments.isNone then
    match Reference.read name.toList with
    | .error text => Failing.raise (.invalidReference text)
    | .ok (some r) => return .reference r
    | .ok none => pure ()
  return .literal (← d.resolve name (arguments.getD []))

mutual

/-- Operands joined by the operators of a level. -/
def parseLevel (d : Dialect m) : Nat → Level → List Token → m (Expr × List Token)
  | 0, _, _ => refuse .unexpectedEnd
  | n + 1, l, ts => do
    let (left, ts) ← parseOperand d n l ts
    parseRest d n l left ts

/-- The operators of a level that follow an expression, with their right operands. -/
def parseRest (d : Dialect m) : Nat → Level → Expr → List Token → m (Expr × List Token)
  | 0, _, _, _ => refuse .unexpectedEnd
  | n + 1, l, left, ts =>
    match operator? l ts with
    | none => pure (left, ts)
    | some op => do
      let ts ← advance d ts
      let (right, ts) ← parseOperand d n l ts
      parseRest d n l (.binary op left right) ts

/-- An operand of a level. -/
def parseOperand (d : Dialect m) : Nat → Level → List Token → m (Expr × List Token)
  | 0, _, _ => refuse .unexpectedEnd
  | n + 1, .comparison, ts => parseLevel d n .sum ts
  | n + 1, .sum, ts => parseLevel d n .product ts
  | n + 1, .product, ts => parseLevel d n .power ts
  | n + 1, .power, ts => parseSigned d n ts

/-- An atom with signs in front of it. -/
def parseSigned (d : Dialect m) : Nat → List Token → m (Expr × List Token)
  | 0, _ => refuse .unexpectedEnd
  | n + 1, ts =>
    match sign? ts with
    | some s => do
      let ts ← advance d ts
      let (operand, ts) ← parseSigned d n ts
      pure (.signed s operand, ts)
    | none => parseAtom d n ts

/-- A literal, an identifier or a group. -/
def parseAtom (d : Dialect m) : Nat → List Token → m (Expr × List Token)
  | 0, _ => refuse .unexpectedEnd
  | n + 1, ts =>
    match ts with
    | .literal v :: _ => do
      let ts ← advance d ts
      pure (.literal v, ts)
    | .identifier name :: _ => do
      let ts ← advance d ts
      let (arguments, ts) ← parseArguments d n ts
      match d.registry.find? name with
      | some f => do
        let arguments := arguments.getD []
        match f.signature.checkCount arguments.length with
        | .ok _ => pure (.call f arguments, ts)
        | .error e => Failing.raise e
      | none => do
        let e ← meaning d name arguments
        pure (e, ts)
    | .mark .opening :: _ => do
      let ts ← advance d ts
      let (e, ts) ← parseLevel d n .comparison ts
      match ts with
      | .mark .closing :: _ => do
        let ts ← advance d ts
        pure (e, ts)
      | _ => refuse .unbalanced
    | _ => refuseToken .unexpectedEnd ts

/-- The arguments in parentheses, if there are parentheses. -/
def parseArguments (d : Dialect m) : Nat → List Token → m (Option (List Expr) × List Token)
  | 0, _ => refuse .unexpectedEnd
  | n + 1, ts =>
    match ts with
    | .mark .opening :: _ => do
      let ts ← advance d ts
      match ts with
      | .mark .closing :: _ => do
        let ts ← advance d ts
        pure (some [], ts)
      | _ => do
        let (arguments, ts) ← parseList d n ts
        pure (some arguments, ts)
    | _ => pure (none, ts)

/-- One or more arguments up to the closing parenthesis. -/
def parseList (d : Dialect m) : Nat → List Token → m (List Expr × List Token)
  | 0, _ => refuse .unexpectedEnd
  | n + 1, ts => do
    let (e, ts) ← parseLevel d n .comparison ts
    match ts with
    | .mark .comma :: _ => do
      let ts ← advance d ts
      let (es, ts) ← parseList d n ts
      pure (e :: es, ts)
    | .mark .closing :: _ => do
      let ts ← advance d ts
      pure ([e], ts)
    | _ => refuseToken .unbalanced ts

end

/-- The steps that a formula of so many tokens can use.  Between two tokens that are consumed there
are at most twelve calls. -/
def stepBound (tokens : Nat) : Nat := 16 * (tokens + 1)

/-- Parses a formula without its `=`. -/
def parseWith (registry : Registry) (resolve : String → List Expr → m Value) (s : String) :
    m Expr := do
  let (tokens, fault) := scan s
  let d : Dialect m := ⟨registry, resolve, fault⟩
  match tokens, fault with
  | [], some fault => refuse fault
  | _, _ => do
    let (e, ts) ← parseLevel d (stepBound tokens.length) .comparison tokens
    match ts with
    | [] => pure e
    | t :: _ => refuse (.unexpected t.describe)

/-- Parses a formula without its `=` where there is no host to know further names. -/
def parse (registry : Registry) (s : String) : Except Error Expr :=
  parseWith registry (fun name _ => .error (.unknownFunction name)) s

/-! ## Tests -/

/-- The shape of a tree: its operators and functions in the order in which they are applied. -/
def Expr.outline : Expr → List String
  | .literal v => [v.asText]
  | .signed s e => e.outline ++ [if s = .plus then "+" else "-"]
  | .binary op l r => l.outline ++ r.outline ++ [op.text]
  | .reference r => [r.text]
  | .call f _ => [f.signature.name]

example : (parse .standard "1-2-3*4").toOption.map Expr.outline
    = some ["1", "2", "-", "3", "4", "*", "-"] := by decide +kernel
example : (parse .standard "-2^2").toOption.map Expr.outline
    = some ["2", "-", "2", "^"] := by decide +kernel
example : (parse .standard "sum(A1:B2, (1)").toOption.map Expr.outline = none := by decide +kernel
example : (parse .standard "sum(A1:B2, (1))").toOption.map Expr.outline = some ["SUM"] := by
  decide +kernel

end Spreadsheet.Formula
