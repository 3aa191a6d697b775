import Spreadsheet.Proofs.Formula.Grammar
import Spreadsheet.Proofs.Formula.Tokenizing

/-!
# The parser and the grammar

The parser accepts exactly the texts whose tokens have a derivation, and it gives
the tree of the derivation.

* What the parser takes has a derivation (`parserDerives`).  This goes by
  induction on the steps, for all parts of the parser at once.  A scanning error
  behind the tokens does not pass, because the last token is never left behind
  (`Alive`).
* A derivation is found in front of any tokens that do not go on with it, if there
  are enough steps (`Derivation.parses`).  This goes by induction on the
  derivation.  The steps that it takes are bounded by the number of its tokens
  (`Derivation.steps_le`), and the parser has more of them.
-/

namespace Spreadsheet.Formula

variable {α β : Type}

/-! ## What the parser takes has a derivation -/

/-- What a computation gives, if it gives something, has a property. -/
def Returns (post : α → Prop) : Except Error α → Prop
  | .ok a => post a
  | .error _ => True

namespace Returns

variable {post : α → Prop}

theorem pure {a : α} (h : post a) : Returns post (Pure.pure a : Except Error α) := h

theorem refuse (fault : SyntaxFault) : Returns post (Formula.refuse fault : Except Error α) :=
  trivial

theorem mono {post' : α → Prop} {x : Except Error α} (h : Returns post x)
    (hpost : ∀ a, post a → post' a) : Returns post' x := by
  cases x with
  | ok a => exact hpost a h
  | error e => trivial

theorem bind {post' : β → Prop} {x : Except Error α} {f : α → Except Error β} (h : Returns post x)
    (hf : ∀ a, post a → Returns post' (f a)) : Returns post' (x >>= f) := by
  cases x with
  | ok a => exact hf a h
  | error e => trivial

end Returns

section

variable {d : Dialect (Except Error)}

/-- Tokens that end where the text ends. -/
def Alive (d : Dialect (Except Error)) (ts : List Token) : Prop := ts = [] → d.fault = none

/-- Tokens form an expression in front of others. -/
def Forms (d : Dialect (Except Error)) (r : Rank) (ts : List Token) (result : Expr × List Token) :
    Prop :=
  (∃ e : Derivation d.registry (.expression r), ts = e.tokens ++ result.2 ∧ e.tree = result.1) ∧
    Alive d result.2

/-- Tokens link operands to a left one. -/
def Links (d : Dialect (Except Error)) (l : Level) (left : Expr) (ts : List Token)
    (result : Expr × List Token) : Prop :=
  (∃ links : Derivation d.registry (.links l),
    ts = links.tokens ++ result.2 ∧ links.apply left = result.1) ∧ Alive d result.2

/-- Tokens form a number of arguments. -/
def Lists (d : Dialect (Except Error)) (ts : List Token) (result : List Expr × List Token) : Prop :=
  (∃ (count : Nat) (es : Derivation d.registry (.arguments count)),
    ts = es.tokens ++ result.2 ∧ es.trees = result.1) ∧ Alive d result.2

/-- Tokens form an argument list, which may be empty or absent. -/
inductive Supply (d : Dialect (Except Error)) (ts : List Token) :
    Option (List Expr) × List Token → Prop where
  /-- There is none. -/
  | absent : Alive d ts → Supply d ts (none, ts)
  /-- It is empty. -/
  | empty {rest} : ts = .mark .opening :: .mark .closing :: rest → Alive d rest →
    Supply d ts (some [], rest)
  /-- It has arguments. -/
  | arguments {left es rest} : ts = .mark .opening :: left → Lists d left (es, rest) →
    Supply d ts (some es, rest)

theorem advance_returns (ts : List Token) :
    Returns (fun rest => rest = ts.tail ∧ Alive d rest) (advance d ts) := by
  unfold advance
  split
  · exact .refuse _
  next rest _ h =>
    refine .pure ⟨rfl, fun htail => ?_⟩
    cases hfault : d.fault with
    | none => rfl
    | some fault => exact absurd hfault (h fault htail)

theorem refuseToken_returns {post : α → Prop} (atEnd : SyntaxFault) (ts : List Token) :
    Returns post (refuseToken atEnd ts : Except Error α) := by
  cases ts with
  | nil => exact .refuse _
  | cons t ts => exact .refuse _

/-- What the parts of the parser take, with a number of steps. -/
structure ParserDerives (d : Dialect (Except Error)) (n : Nat) : Prop where
  level : ∀ l ts, Returns (Forms d (.level l) ts) (parseLevel d n l ts)
  rest : ∀ l left {ts}, Alive d ts → Returns (Links d l left ts) (parseRest d n l left ts)
  operand : ∀ l ts, Returns (Forms d l.operand ts) (parseOperand d n l ts)
  signed : ∀ ts, Returns (Forms d .signed ts) (parseSigned d n ts)
  atom : ∀ ts, Returns (Forms d .atom ts) (parseAtom d n ts)
  arguments : ∀ {ts}, Alive d ts → Returns (Supply d ts) (parseArguments d n ts)
  list : ∀ ts, Returns (Lists d ts) (parseList d n ts)

variable {n : Nat} (ih : ParserDerives d n)
include ih

theorem parseLevel_returns (l : Level) (ts : List Token) :
    Returns (Forms d (.level l) ts) (parseLevel d (n + 1) l ts) := by
  simp only [parseLevel]
  apply Returns.bind (ih.operand l ts)
  rintro ⟨left, ts'⟩ ⟨⟨first, rfl, rfl⟩, halive⟩
  apply (ih.rest l first.tree halive).mono
  rintro result ⟨⟨links, hts, hresult⟩, halive'⟩
  refine ⟨⟨.chain first links, ?_, hresult⟩, halive'⟩
  rw [Derivation.tokens, List.append_assoc, ← hts]

omit ih in
theorem operator?_eq_some {l : Level} {ts : List Token} {op : Operator}
    (h : operator? l ts = some op) : ts = .mark (.operator op) :: ts.tail ∧ op.level = l := by
  unfold operator? at h
  split at h
  next op' ts =>
    split at h
    next hlevel =>
      cases h
      exact ⟨rfl, hlevel⟩
    next => cases h
  next => cases h

theorem parseRest_returns (l : Level) (left : Expr) {ts : List Token} (hts : Alive d ts) :
    Returns (Links d l left ts) (parseRest d (n + 1) l left ts) := by
  simp only [parseRest]
  cases hop : operator? l ts with
  | none => exact .pure ⟨⟨.done, rfl, rfl⟩, hts⟩
  | some op =>
    obtain ⟨hhead, hlevel⟩ := operator?_eq_some hop
    apply Returns.bind (advance_returns ts)
    rintro _ ⟨rfl, -⟩
    apply Returns.bind (ih.operand l ts.tail)
    rintro ⟨_, ts'⟩ ⟨⟨right, htail, rfl⟩, halive⟩
    apply (ih.rest l _ halive).mono
    rintro result ⟨⟨links, hts', hresult⟩, halive'⟩
    refine ⟨⟨.link op hlevel right links, ?_, hresult⟩, halive'⟩
    dsimp only at htail hts'
    rw [hhead, htail, hts', Derivation.tokens, List.cons_append, List.append_assoc]

theorem parseOperand_returns (l : Level) (ts : List Token) :
    Returns (Forms d l.operand ts) (parseOperand d (n + 1) l ts) := by
  cases l with
  | comparison => exact ih.level .sum ts
  | sum => exact ih.level .product ts
  | product => exact ih.level .power ts
  | power => exact ih.signed ts

omit ih in
theorem sign?_eq_some {ts : List Token} {s : Sign} (h : sign? ts = some s) :
    ts = .mark (.operator s.operator) :: ts.tail := by
  unfold sign? at h
  split at h
  · cases h
    rfl
  · cases h
    rfl
  · cases h

theorem parseSigned_returns (ts : List Token) :
    Returns (Forms d .signed ts) (parseSigned d (n + 1) ts) := by
  simp only [parseSigned]
  cases hs : sign? ts with
  | none =>
    apply (ih.atom ts).mono
    rintro result ⟨⟨e, hts, hresult⟩, halive⟩
    exact ⟨⟨.unsigned e, hts, hresult⟩, halive⟩
  | some s =>
    have hhead := sign?_eq_some hs
    apply Returns.bind (advance_returns ts)
    rintro _ ⟨rfl, -⟩
    apply Returns.bind (ih.signed ts.tail)
    rintro ⟨_, ts'⟩ ⟨⟨e, htail, rfl⟩, halive⟩
    refine .pure ⟨⟨.signed s e, ?_, rfl⟩, halive⟩
    dsimp only at htail
    rw [hhead, htail, Derivation.tokens, List.cons_append]

/-- A name is looked up in vain. -/
def NoNames (d : Dialect (Except Error)) : Prop := ∀ name es v, d.resolve name es ≠ .ok v

omit ih in
theorem meaning_returns (hd : NoNames d) (name : String) (arguments : Option (List Expr)) :
    Returns (fun e => arguments = none ∧ ∃ r, Reference.read name.toList = .ok (some r) ∧
      e = .reference r) (meaning d name arguments) := by
  unfold meaning
  cases arguments with
  | none =>
    simp only [Option.isNone_none, if_true]
    cases hread : Reference.read name.toList with
    | error text => trivial
    | ok r =>
      cases r with
      | none =>
        cases hresolve : d.resolve name (Option.getD none []) with
        | error e => trivial
        | ok v => exact absurd hresolve (hd _ _ _)
      | some r => exact ⟨trivial, r, rfl, rfl⟩
  | some es =>
    cases hresolve : d.resolve name (Option.getD (some es) []) with
    | error e =>
      simp only [Option.isNone_some, Bool.false_eq_true, if_false]
      trivial
    | ok v => exact absurd hresolve (hd _ _ _)

/-- A call, or a reference. -/
theorem parseIdentifier_returns (hd : NoNames d) (name : String) (ts : List Token) :
    Returns (Forms d .atom (.identifier name :: ts))
      (parseAtom d (n + 1) (.identifier name :: ts)) := by
  simp only [parseAtom]
  apply Returns.bind (advance_returns _)
  rintro _ ⟨rfl, halive⟩
  apply Returns.bind (ih.arguments halive)
  rintro ⟨arguments, ts'⟩ hsupply
  cases hf : d.registry.find? name with
  | some f =>
    dsimp only
    split
    next u hcount =>
      have hcount := Signature.checkCount_eq_ok.1 hcount
      cases hsupply with
      | absent halive => exact .pure ⟨⟨.bareCall name f hf hcount, rfl, rfl⟩, halive⟩
      | empty hts halive =>
        refine .pure ⟨⟨.emptyCall name f hf hcount, ?_, rfl⟩, halive⟩
        rw [hts]
        rfl
      | @arguments left es _ hts hlist =>
        obtain ⟨⟨count, arguments, hleft, rfl⟩, halive⟩ := hlist
        rw [Option.getD_some, arguments.length_trees] at hcount
        refine .pure ⟨⟨.call name f hf hcount arguments, ?_, rfl⟩, halive⟩
        dsimp only at hleft
        rw [hts, hleft]
        rfl
    next => trivial
  | none =>
    apply Returns.bind (meaning_returns hd name arguments)
    rintro _ ⟨rfl, r, hr, rfl⟩
    cases hsupply with
    | absent halive => exact .pure ⟨⟨.reference name r hf hr, rfl, rfl⟩, halive⟩

theorem parseAtom_returns (hd : NoNames d) (ts : List Token) :
    Returns (Forms d .atom ts) (parseAtom d (n + 1) ts) := by
  match ts with
  | [] => exact refuseToken_returns _ []
  | .literal v :: rest =>
    simp only [parseAtom]
    apply Returns.bind (advance_returns _)
    rintro _ ⟨rfl, halive⟩
    exact .pure ⟨⟨.literal v, rfl, rfl⟩, halive⟩
  | .identifier name :: rest => exact parseIdentifier_returns ih hd name rest
  | .mark (.operator op) :: rest => exact .refuse _
  | .mark .closing :: rest => exact .refuse _
  | .mark .comma :: rest => exact .refuse _
  | .mark .opening :: rest =>
    simp only [parseAtom]
    apply Returns.bind (advance_returns _)
    rintro _ ⟨rfl, -⟩
    apply Returns.bind (ih.level .comparison _)
    rintro ⟨_, ts⟩ ⟨⟨e, hrest, rfl⟩, -⟩
    dsimp only [List.tail_cons] at hrest ⊢
    split
    next left =>
      apply Returns.bind (advance_returns _)
      rintro _ ⟨rfl, halive⟩
      refine .pure ⟨⟨.group e, ?_, rfl⟩, halive⟩
      rw [hrest]
      simp only [Derivation.tokens, List.cons_append, List.append_assoc,
        List.nil_append]
    next => exact .refuse _

theorem parseArguments_returns {ts : List Token} (hts : Alive d ts) :
    Returns (Supply d ts) (parseArguments d (n + 1) ts) := by
  simp only [parseArguments]
  split
  next rest =>
    apply Returns.bind (advance_returns _)
    rintro left ⟨rfl, -⟩
    split
    next rest =>
      apply Returns.bind (advance_returns _)
      rintro rest ⟨rfl, halive⟩
      exact .pure (.empty rfl halive)
    next =>
      apply Returns.bind (ih.list left)
      rintro ⟨es, ts'⟩ hlist
      exact .pure (.arguments rfl hlist)
  next => exact .pure (.absent hts)

theorem parseList_returns (ts : List Token) : Returns (Lists d ts) (parseList d (n + 1) ts) := by
  simp only [parseList]
  apply Returns.bind (ih.level .comparison ts)
  rintro ⟨_, ts'⟩ ⟨⟨e, rfl, rfl⟩, -⟩
  dsimp only
  split
  next rest =>
    apply Returns.bind (advance_returns _)
    rintro _ ⟨rfl, -⟩
    apply Returns.bind (ih.list _)
    rintro ⟨_, ts''⟩ ⟨⟨count, es, hrest, rfl⟩, halive⟩
    refine .pure ⟨⟨count + 1, .more e es, ?_, rfl⟩, halive⟩
    dsimp only [List.tail_cons] at hrest
    rw [hrest, Derivation.tokens, List.append_assoc, List.cons_append]
  next rest =>
    apply Returns.bind (advance_returns _)
    rintro _ ⟨rfl, halive⟩
    refine .pure ⟨⟨1, .last e, ?_, rfl⟩, halive⟩
    rw [Derivation.tokens, List.append_assoc]
    rfl
  next => exact refuseToken_returns _ _

end

/-- Whatever the parser takes has a derivation. -/
theorem parserDerives {d : Dialect (Except Error)} (hd : NoNames d) (n : Nat) :
    ParserDerives d n := by
  induction n with
  | zero =>
    -- Without steps the parser gives nothing.
    constructor <;> intros <;> exact .refuse _
  | succ n ih =>
    exact {
      level := parseLevel_returns ih
      rest := fun l left _ => parseRest_returns ih l left
      operand := parseOperand_returns ih
      signed := parseSigned_returns ih
      atom := parseAtom_returns ih hd
      arguments := parseArguments_returns ih
      list := parseList_returns ih }

/-! ## Steps -/

/-- The steps that the first token of a phrase may take. -/
def Phrase.slack : Phrase → Nat
  | .expression (.level .comparison) => 11
  | .expression (.level .sum) => 9
  | .expression (.level .product) => 7
  | .expression (.level .power) => 5
  | .expression .signed => 3
  | .expression .atom => 2
  | .links _ => 17
  | .arguments _ => 0

namespace Derivation

variable {registry : Registry}

/-- The steps that the parser needs for a derivation. -/
@[simp] def steps : {p : Phrase} → Derivation registry p → Nat
  | _, chain first links => 1 + max (1 + first.steps) links.steps
  | _, done => 1
  | _, link _ _ right links => 1 + max (1 + right.steps) links.steps
  | _, unsigned d => 1 + d.steps
  | _, signed _ d => 1 + d.steps
  | _, literal _ => 1
  | _, group d => 1 + d.steps
  | _, reference _ _ _ _ => 2
  | _, bareCall _ _ _ _ => 2
  | _, emptyCall _ _ _ _ => 2
  | _, call _ _ _ _ arguments => 2 + arguments.steps
  | _, last d => 1 + d.steps
  | _, more d arguments => 1 + max d.steps arguments.steps

/-- There are at most sixteen steps for each token. -/
theorem steps_le {p : Phrase} (d : Derivation registry p) :
    d.steps + 16 ≤ 16 * d.tokens.length + p.slack := by
  induction d with
  | @chain l first links hfirst hlinks =>
    simp only [steps, tokens, List.length_append, Phrase.slack] at *
    cases l <;> simp only [Level.operand] at * <;> omega
  | @link l op hop right links hright hlinks =>
    simp only [steps, tokens, List.length_append, List.length_cons, Phrase.slack] at *
    cases l <;> simp only [Level.operand] at * <;> omega
  | _ =>
    simp only [steps, tokens, List.length_append, List.length_cons, List.length_nil,
      Phrase.slack] at *
    omega

end Derivation

/-! ## A derivation is found -/

section

variable {d : Dialect (Except Error)}

/-- Parses an expression of a rank. -/
def parseRank (d : Dialect (Except Error)) (n : Nat) :
    Rank → List Token → Except Error (Expr × List Token)
  | .level l => parseLevel d n l
  | .signed => parseSigned d n
  | .atom => parseAtom d n

theorem parseOperand_succ (n : Nat) (l : Level) (ts : List Token) :
    parseOperand d (n + 1) l ts = parseRank d n l.operand ts := by
  cases l <;> rfl

/-- The parser takes the tokens of a derivation in front of others. -/
def Derivation.Parses {d : Dialect (Except Error)} :
    {p : Phrase} → Derivation d.registry p → Prop
  | .expression r, e => ∀ {n rest}, e.steps ≤ n → Stops r.tightness rest →
    parseRank d n r (e.tokens ++ rest) = .ok (e.tree, rest)
  | .links l, links => ∀ {n left rest}, links.steps ≤ n → Stops l.tightness rest →
    parseRest d n l left (links.tokens ++ rest) = .ok (links.apply left, rest)
  | .arguments _, es => ∀ {n rest}, es.steps ≤ n →
    parseList d n (es.tokens ++ rest) = .ok (es.trees, rest)

theorem operator?_eq_none {l : Level} {ts : List Token} (h : Stops l.tightness ts) :
    operator? l ts = none := by
  unfold operator?
  split
  next op ts =>
    rw [if_neg]
    rintro rfl
    exact Nat.lt_irrefl _ h
  next => rfl

variable (hd : d.fault = none)
include hd

theorem advance_eq_ok (ts : List Token) : advance d ts = .ok ts.tail := by
  unfold advance
  rw [hd]
  cases ts.tail <;> rfl

omit hd in
/-- No argument list is read where none starts. -/
theorem parseArguments_of_stops {t n : Nat} {ts : List Token} (h : Stops t ts) :
    parseArguments d (n + 1) ts = .ok (none, ts) := by
  rw [parseArguments]
  · rfl
  · rintro rest rfl
    exact h

omit hd in
theorem meaning_of_read {name : String} {r : Reference}
    (hr : Reference.read name.toList = .ok (some r)) :
    meaning d name none = .ok (.reference r) := by
  unfold meaning
  simp only [Option.isNone_none, if_true, hr]
  rfl

/-- A call with an argument list that the parser takes. -/
theorem parseCall_eq_ok {k : Nat} {name : String} {f : Function} {ts rest : List Token}
    {arguments : Option (List Expr)} (hf : d.registry.find? name = some f)
    (hcount : f.signature.Allows (arguments.getD []).length)
    (hts : parseArguments d k ts = .ok (arguments, rest)) :
    parseAtom d (k + 1) (.identifier name :: ts) =
      .ok (.call f (arguments.getD []), rest) := by
  rw [parseAtom, advance_eq_ok hd]
  change parseArguments d k ts >>= _ = _
  rw [hts]
  dsimp only [Bind.bind, Except.bind]
  rw [hf]
  dsimp only
  rw [Signature.checkCount_eq_ok (u := ()) |>.2 hcount]
  rfl

namespace Derivation

omit hd in
theorem parses_chain {l : Level} {first : Derivation d.registry (.expression l.operand)}
    {links : Derivation d.registry (.links l)} (hfirst : first.Parses) (hlinks : links.Parses) :
    (chain first links).Parses := by
  intro n rest hn hrest
  simp only [steps] at hn
  obtain ⟨k, rfl⟩ : ∃ k, n = k + 1 + 1 := ⟨n - 2, by omega⟩
  change parseLevel d (k + 1 + 1) l _ = _
  rw [tokens, List.append_assoc, parseLevel, parseOperand_succ,
    hfirst (by omega) (links.stops_links hrest)]
  exact hlinks (by omega) hrest

omit hd in
theorem parses_done {l : Level} : (done : Derivation d.registry (.links l)).Parses := by
  intro n left rest hn hrest
  simp only [steps] at hn
  obtain ⟨k, rfl⟩ : ∃ k, n = k + 1 := ⟨n - 1, by omega⟩
  rw [tokens, List.nil_append, parseRest, operator?_eq_none hrest]
  rfl

theorem parses_link {l : Level} {op : Operator} {hop : op.level = l}
    {right : Derivation d.registry (.expression l.operand)}
    {links : Derivation d.registry (.links l)} (hright : right.Parses) (hlinks : links.Parses) :
    (link op hop right links).Parses := by
  intro n left rest hn hrest
  simp only [steps] at hn
  obtain ⟨k, rfl⟩ : ∃ k, n = k + 1 + 1 := ⟨n - 2, by omega⟩
  have hoperator (ts : List Token) : operator? l (.mark (.operator op) :: ts) = some op :=
    if_pos hop
  rw [tokens, List.cons_append, List.append_assoc, parseRest, hoperator]
  dsimp only
  rw [advance_eq_ok hd]
  change parseOperand d (k + 1) l _ >>= _ = _
  rw [List.tail_cons, parseOperand_succ, hright (by omega) (links.stops_links hrest)]
  exact hlinks (by omega) hrest

omit hd in
theorem parses_unsigned {e : Derivation d.registry (.expression .atom)} (he : e.Parses) :
    (unsigned e).Parses := by
  intro n rest hn hrest
  simp only [steps] at hn
  obtain ⟨k, rfl⟩ : ∃ k, n = k + 1 := ⟨n - 1, by omega⟩
  change parseSigned d (k + 1) _ = _
  rw [tokens, parseSigned, sign?_eq_none (e.startsAtom_tokens rest)]
  exact he (by omega) hrest

theorem parses_signed {s : Sign} {e : Derivation d.registry (.expression .signed)}
    (he : e.Parses) : (signed s e).Parses := by
  intro n rest hn hrest
  simp only [steps] at hn
  obtain ⟨k, rfl⟩ : ∃ k, n = k + 1 := ⟨n - 1, by omega⟩
  change parseSigned d (k + 1) _ = _
  rw [tokens, List.cons_append, parseSigned, sign?_operator]
  dsimp only
  rw [advance_eq_ok hd]
  change parseRank d k .signed _ >>= _ = _
  rw [List.tail_cons, he (by omega) hrest]
  rfl

theorem parses_literal {v : Value} :
    (literal v : Derivation d.registry (.expression .atom)).Parses := by
  intro n rest hn _
  simp only [steps] at hn
  obtain ⟨k, rfl⟩ : ∃ k, n = k + 1 := ⟨n - 1, by omega⟩
  change parseAtom d (k + 1) (.literal v :: rest) = _
  rw [parseAtom, advance_eq_ok hd]
  rfl

theorem parses_group {e : FormulaDerivation d.registry} (he : e.Parses) : (group e).Parses := by
  intro n rest hn _
  simp only [steps] at hn
  obtain ⟨k, rfl⟩ : ∃ k, n = k + 1 := ⟨n - 1, by omega⟩
  change parseAtom d (k + 1) (.mark .opening :: (e.tokens ++ [.mark .closing]) ++ rest) = _
  rw [List.cons_append, List.append_assoc, parseAtom, advance_eq_ok hd]
  change parseRank d k (.level .comparison) _ >>= _ = _
  rw [List.tail_cons, he (by omega) (by trivial)]
  change advance d (.mark .closing :: rest) >>= _ = _
  rw [advance_eq_ok hd]
  rfl

theorem parses_reference {name : String} {r : Reference} {hname : d.registry.find? name = none}
    {hr : Reference.read name.toList = .ok (some r)} :
    (reference name r hname hr : Derivation d.registry (.expression .atom)).Parses := by
  intro n rest hn hrest
  simp only [steps] at hn
  obtain ⟨k, rfl⟩ : ∃ k, n = k + 1 + 1 := ⟨n - 2, by omega⟩
  change parseAtom d (k + 1 + 1) (.identifier name :: rest) = _
  rw [parseAtom, advance_eq_ok hd]
  change parseArguments d (k + 1) rest >>= _ = _
  rw [parseArguments_of_stops hrest]
  dsimp only [Bind.bind, Except.bind, Pure.pure, Except.pure]
  rw [hname, meaning_of_read hr]
  rfl

theorem parses_bareCall {name : String} {f : Function} {hf : d.registry.find? name = some f}
    {hcount : f.signature.Allows 0} :
    (bareCall name f hf hcount : Derivation d.registry (.expression .atom)).Parses := by
  intro n rest hn hrest
  simp only [steps] at hn
  obtain ⟨k, rfl⟩ : ∃ k, n = k + 1 + 1 := ⟨n - 2, by omega⟩
  refine parseCall_eq_ok hd hf ?_ (parseArguments_of_stops hrest)
  exact hcount

theorem parses_emptyCall {name : String} {f : Function} {hf : d.registry.find? name = some f}
    {hcount : f.signature.Allows 0} :
    (emptyCall name f hf hcount : Derivation d.registry (.expression .atom)).Parses := by
  intro n rest hn _
  simp only [steps] at hn
  obtain ⟨k, rfl⟩ : ∃ k, n = k + 1 + 1 := ⟨n - 2, by omega⟩
  have harguments : parseArguments d (k + 1) (.mark .opening :: .mark .closing :: rest) =
      .ok (some [], rest) := by
    rw [parseArguments, advance_eq_ok hd]
    change advance d (.mark .closing :: rest) >>= _ = _
    rw [advance_eq_ok hd]
    rfl
  refine parseCall_eq_ok hd hf ?_ harguments
  exact hcount

theorem parses_call {count : Nat} {name : String} {f : Function}
    {hf : d.registry.find? name = some f} {hcount : f.signature.Allows count}
    {arguments : Derivation d.registry (.arguments count)} (harguments : arguments.Parses) :
    (call name f hf hcount arguments).Parses := by
  intro n rest hn _
  simp only [steps] at hn
  obtain ⟨k, rfl⟩ : ∃ k, n = k + 1 + 1 := ⟨n - 2, by omega⟩
  have hlist : parseArguments d (k + 1) (.mark .opening :: (arguments.tokens ++ rest)) =
      .ok (some arguments.trees, rest) := by
    rw [parseArguments, advance_eq_ok hd]
    dsimp only [Bind.bind, Except.bind, List.tail_cons]
    split
    next hclosing =>
      have hstarts := arguments.startsExpression_tokens nofun rest
      rw [hclosing] at hstarts
      exact Bool.noConfusion hstarts
    next =>
      rw [harguments (by omega)]
      rfl
  refine parseCall_eq_ok hd hf ?_ hlist
  rw [Option.getD_some, arguments.length_trees]
  exact hcount

theorem parses_last {e : FormulaDerivation d.registry} (he : e.Parses) : (last e).Parses := by
  intro n rest hn
  simp only [steps] at hn
  obtain ⟨k, rfl⟩ : ∃ k, n = k + 1 := ⟨n - 1, by omega⟩
  rw [tokens, List.append_assoc, parseList]
  change parseRank d k (.level .comparison) _ >>= _ = _
  rw [he (by omega) (by trivial)]
  change advance d (.mark .closing :: rest) >>= _ = _
  rw [advance_eq_ok hd]
  rfl

theorem parses_more {count : Nat} {e : FormulaDerivation d.registry}
    {arguments : Derivation d.registry (.arguments count)} (he : e.Parses)
    (harguments : arguments.Parses) : (more e arguments).Parses := by
  intro n rest hn
  simp only [steps] at hn
  obtain ⟨k, rfl⟩ : ∃ k, n = k + 1 := ⟨n - 1, by omega⟩
  rw [tokens, List.append_assoc, List.cons_append, parseList]
  change parseRank d k (.level .comparison) _ >>= _ = _
  rw [he (by omega) (by trivial)]
  change advance d (.mark .comma :: (arguments.tokens ++ rest)) >>= _ = _
  rw [advance_eq_ok hd]
  change parseList d k (arguments.tokens ++ rest) >>= _ = _
  rw [harguments (by omega)]
  rfl

/-- The parser takes every derivation. -/
theorem parses {p : Phrase} (e : Derivation d.registry p) : e.Parses := by
  induction e with
  | chain first links hfirst hlinks => exact parses_chain hfirst hlinks
  | done => exact parses_done
  | link op hop right links hright hlinks => exact parses_link hd hright hlinks
  | unsigned e he => exact parses_unsigned he
  | signed s e he => exact parses_signed hd he
  | literal v => exact parses_literal hd
  | group e he => exact parses_group hd he
  | reference name r hname hr => exact parses_reference hd
  | bareCall name f hf hcount => exact parses_bareCall hd
  | emptyCall name f hf hcount => exact parses_emptyCall hd
  | call name f hf hcount arguments harguments => exact parses_call hd harguments
  | last e he => exact parses_last hd he
  | more e arguments he harguments => exact parses_more hd he harguments

end Derivation

end

/-! ## Formulas -/

section

variable {registry : Registry}

/-- A formula with a derivation is parsed to its tree. -/
theorem parse_eq_ok_of_derivation {s : String} (e : FormulaDerivation registry)
    (hs : Tokenizes s.toList e.tokens) : parse registry s = .ok e.tree := by
  let d : Dialect (Except Error) := ⟨registry, fun name _ => .error (.unknownFunction name), none⟩
  have hsteps : e.steps ≤ stepBound e.tokens.length := by
    have h := e.steps_le
    simp only [Phrase.slack] at h
    unfold stepBound
    omega
  have hparse : parseLevel d (stepBound e.tokens.length) .comparison (e.tokens ++ []) =
      .ok (e.tree, []) :=
    Derivation.parses (d := d) rfl e hsteps trivial
  rw [List.append_nil] at hparse
  unfold parse parseWith
  rw [scan_eq_iff.2 hs]
  dsimp only
  rw [hparse]
  split
  next _ fault _ hfault => cases hfault
  next => rfl

/-- A formula that is parsed has a derivation, and is scanned to its end. -/
theorem exists_derivation_of_parse {s : String} {tree : Expr} (h : parse registry s = .ok tree) :
    ∃ e : FormulaDerivation registry, Tokenizes s.toList e.tokens ∧ e.tree = tree := by
  unfold parse parseWith at h
  cases hscan : scan s with
  | mk tokens fault =>
    rw [hscan] at h
    dsimp only at h
    let d : Dialect (Except Error) :=
      ⟨registry, fun name _ => .error (.unknownFunction name), fault⟩
    have hparse := (parserDerives (d := d) nofun (stepBound tokens.length)).level .comparison tokens
    split at h
    next => cases h
    next =>
      generalize hresult : parseLevel d (stepBound tokens.length) .comparison tokens = result
        at hparse
      rw [hresult] at h
      match result, hparse, h with
      | .ok (_, []), ⟨⟨e, htokens, rfl⟩, halive⟩, h =>
        have hfault : fault = none := halive rfl
        rw [List.append_nil] at htokens
        rw [htokens, hfault] at hscan
        exact ⟨e, scan_eq_iff.1 hscan, Except.ok.inj h⟩

/-- The parser accepts a text if and only if its tokens have a derivation.  There is only one, and
the parser gives its tree. -/
theorem parse_eq_ok_iff (registry : Registry) (s : String) (tree : Expr) :
    parse registry s = .ok tree ↔
      ∃ e : FormulaDerivation registry, Tokenizes s.toList e.tokens ∧ e.tree = tree ∧
        ∀ e' : FormulaDerivation registry, Tokenizes s.toList e'.tokens → e' = e := by
  constructor
  · intro h
    obtain ⟨e, hs, he⟩ := exists_derivation_of_parse h
    refine ⟨e, hs, he, fun e' hs' => ?_⟩
    exact Derivation.tokens_injective (hs'.unique hs)
  · rintro ⟨e, hs, rfl, -⟩
    exact parse_eq_ok_of_derivation e hs

/-- A function that needs an argument does not stand without an argument list. -/
theorem not_parse_sum : (Registry.standard.find? "SUM").isSome = true ∧
    scan "SUM" = ([.identifier "SUM"], none) ∧
      ¬ ∃ tree, parse .standard "SUM" = .ok tree := by
  refine ⟨by decide +kernel, by decide +kernel, ?_⟩
  rintro ⟨tree, htree⟩
  have hfails : (parse .standard "SUM").isOk = false := by decide +kernel
  rw [htree] at hfails
  exact Bool.noConfusion hfails

end

end Spreadsheet.Formula
