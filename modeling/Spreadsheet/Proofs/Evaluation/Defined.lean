import Spreadsheet.Evaluation.Evaluate
import Spreadsheet.Proofs.Evaluation.Answers
import Spreadsheet.Proofs.Value.Defined

/-!
# Functions with defined results

Most functions that are built in never give NaN: they check what they compute, or
they count, or their results are no numbers.  Here this is shown for each of them,
under given answers (`Program.Yields`).

* `IF` and `CHOOSE` give what an argument gives, so the arguments have to be
  defined (`Builtin.passesArguments`).
* `HLOOKUP` and `VLOOKUP` give what a cell holds, so the answers have to be
  defined (`Answers.AreDefined`).
* The functions that add and multiply the numbers of a list do not look at what
  they have computed (`Builtin.reducesUnchecked`).  Of these nothing is said.
-/

namespace Spreadsheet

open Spreadsheet.Evaluation
open Spreadsheet.Formula (Builtin Error Reference)

/-! ## Programs under answers -/

namespace Evaluation

/-- Answers without NaN. -/
structure Answers.AreDefined (q : Answers) : Prop where
  /-- The value of a cell is defined. -/
  cell : ∀ {r v}, q.cell r = .ok v → v.isUndefined = false
  /-- The values of cells are defined. -/
  cells : ∀ {r hidden vs}, q.cells r hidden = .ok vs → ∀ v ∈ vs, v.isUndefined = false

variable {α β : Type} {q : Answers} {post : α → Prop}

/-- What a program gives under the answers has a property, if it gives anything. -/
structure Program.Yields (q : Answers) (post : α → Prop) (p : Program α) : Prop where
  /-- The result has the property. -/
  of_under : ∀ {a}, p.under q = .ok a → post a

namespace Program.Yields

theorem done {a : α} (h : post a) : (Program.done a).Yields q post where
  of_under ha := Except.ok.inj ha ▸ h

theorem fail {e : Error} : (Program.fail e : Program α).Yields q post := ⟨nofun⟩

theorem ofExcept {x : Except Error α} (h : ∀ {a}, x = .ok a → post a) :
    (Program.ofExcept x).Yields q post where
  of_under ha := by
    rw [under_ofExcept] at ha
    exact h ha

theorem bind {p : Program α} {f : α → Program β} {post' : β → Prop} (hp : p.Yields q post)
    (hf : ∀ a, post a → (f a).Yields q post') : (p >>= f).Yields q post' where
  of_under hb := by
    rw [bind_eq, under_bind] at hb
    generalize hx : p.under q = x at hb
    cases x with
    | ok a => exact (hf a (hp.of_under hx)).of_under hb
    | error e => cases hb

/-- What comes first does not matter where the rest has the property in any case. -/
theorem next {p : Program α} {f : α → Program β} {post' : β → Prop}
    (hf : ∀ a, (f a).Yields q post') : (p >>= f).Yields q post' := by
  have hp : p.Yields q fun _ => True := ⟨fun _ => trivial⟩
  exact hp.bind fun a _ => hf a

theorem cell (hq : q.AreDefined) (r : Reference) :
    (Program.cell r).Yields q fun v => v.isUndefined = false where
  of_under hv := by
    rw [under_cell] at hv
    exact hq.cell hv

theorem cells (hq : q.AreDefined) (r : Reference) (hidden : Bool) :
    (Program.cells r hidden).Yields q fun vs => ∀ v ∈ vs, v.isUndefined = false where
  of_under hvs := by
    rw [under_cells] at hvs
    exact hq.cells hvs

end Program.Yields

/-- A program does not give NaN under the answers. -/
abbrev Program.Defined (q : Answers) (p : Program Value) : Prop :=
  p.Yields q fun v => v.isUndefined = false

/-- Computed like a formula of its own, an argument does not give NaN. -/
def Argument.Defined (q : Answers) (a : Argument) : Prop := a.result.Defined q

/-- An operand is a range or not NaN. -/
def Operand.Defined : Operand → Prop
  | .range _ => True
  | .value v => v.isUndefined = false

theorem Argument.Defined.operand {a : Argument} (h : a.Defined q) :
    a.operand.Yields q Operand.Defined := by
  cases a with
  | written r => exact .done trivial
  | computed p =>
    apply Program.Yields.bind h
    intro v hv
    cases v with
    | reference r => exact .done trivial
    | _ => exact .done hv

theorem argument_yields {args : List Argument} {post : Argument → Prop} (h : ∀ a ∈ args, post a)
    (i : Nat) : (argument args i).Yields q post := by
  unfold argument
  split
  next a ha => exact .done (h a (List.mem_of_getElem? ha))
  next => exact .fail

/-! ## Operators -/

theorem isUndefined_checked {x : Float} {v : Value} (h : checked x = .ok v) :
    v.isUndefined = false := by
  unfold checked at h
  split at h
  next => cases h
  next hx =>
    cases h
    exact Bool.eq_false_iff.2 hx

theorem isUndefined_signResult {s : Formula.Sign} {v w : Value} (h : signResult s v = .ok w) :
    w.isUndefined = false := by
  simp only [signResult] at h
  split at h
  next => cases h
  next hx =>
    have hx := Bool.eq_false_iff.2 hx
    cases s with
    | plus =>
      cases h
      exact hx
    | minus =>
      cases h
      exact isNaN_neg hx

theorem isUndefined_operatorResult {op : Formula.Operator} {left right v : Value}
    (h : operatorResult op left right = .ok v) : v.isUndefined = false := by
  cases op with
  | join =>
    cases h
    rfl
  | compare c =>
    cases h
    rfl
  | _ => exact isUndefined_checked h

/-- A sign does not give NaN, whatever its operand is. -/
theorem applySign_defined (s : Formula.Sign) (a : Argument) : (applySign s a).Defined q :=
  .next fun _ => .ofExcept isUndefined_signResult

/-- An operator does not give NaN, whatever its operands are. -/
theorem applyOperator_defined (op : Formula.Operator) (a b : Argument) :
    (applyOperator op a b).Defined q :=
  .next fun _ => .next fun _ => .ofExcept isUndefined_operatorResult

end Evaluation

/-! ## Functions -/

namespace Functions

variable {q : Answers} {args : List Argument}

/-! ### Functions on numbers -/

theorem isUndefined_finite {function : String} {x : Float} {v : Value}
    (h : finite function x = .ok v) : v.isUndefined = false := by
  unfold finite at h
  split at h
  next hx =>
    cases h
    exact isNaN_of_isFinite hx
  next => cases h

theorem unary_defined (function : String) (f : Float → Float) :
    (unary function f args).Defined q :=
  .next fun _ => .ofExcept isUndefined_finite

theorem atan2_defined : (atan2 args).Defined q := by
  refine .next fun x => .next fun y => ?_
  split
  · exact .fail
  · exact .ofExcept isUndefined_finite

theorem log_defined : (log args).Defined q :=
  .next fun _ => .next fun _ => .ofExcept isUndefined_finite

theorem multiple_defined (function : String) (round : Float → Float) :
    (multiple function round args).Defined q := by
  refine .next fun x => .next fun unit => ?_
  split
  · exact .done (by decide +kernel)
  · exact .ofExcept isUndefined_finite

theorem mod_defined : (mod args).Defined q := by
  refine .next fun x => .next fun y => ?_
  split
  · exact .fail
  · exact .ofExcept isUndefined_finite

theorem power_defined : (power args).Defined q :=
  .next fun _ => .next fun _ => .ofExcept isUndefined_finite

theorem sign_defined : (sign args).Defined q := by
  refine .next fun x => .done ?_
  rw [Value.isUndefined_number]
  unfold signOf
  split
  · decide +kernel
  · split <;> decide +kernel

theorem randBetween_defined (c : Context) : (randBetween c args).Defined q := by
  refine .next fun bottom => .next fun top => ?_
  dsimp only
  split
  · exact .fail
  · exact .done (isNaN_ofInt _)

theorem rounded_defined (function : String) (mode : Decimal.Rounding) :
    (rounded function mode args).Defined q := by
  refine .next fun x => .next fun n => ?_
  apply Program.Yields.bind (.ofExcept isUndefined_finite)
  exact fun v hv => .done hv

theorem trunc_defined : (trunc args).Defined q :=
  .next fun _ => .next fun _ => .ofExcept isUndefined_finite

theorem rate_defined : (rate args).Defined q := by
  refine .next fun periods => .next fun payment => .next fun present => ?_
  refine .next fun future => .next fun due => .next fun guess => ?_
  apply Program.Yields.bind (.ofExcept Value.Annuity.isNaN_of_rate)
  exact fun x hx => .done hx

/-! ### Functions on lists -/

theorem aggregate_defined {kind : Value.Aggregate} (hkind : kind.selects = true) :
    (aggregate kind args).Defined q :=
  .next fun _ => .ofExcept (Value.Aggregate.isUndefined_apply hkind)

theorem countBlank_defined : (countBlank args).Defined q :=
  .next fun _ => .done (isNaN_ofNat _)

theorem rank_defined : (rank args).Defined q := by
  refine .next fun x => .next fun a => .next fun vs => .next fun order => ?_
  split
  · exact .done (isNaN_ofNat _)
  · exact .fail

theorem countSelected_defined (function : String) : (countSelected function args).Defined q :=
  .next fun _ => .done (isNaN_ofNat _)

/-! ### Functions on truth values -/

theorem conjunction_defined : (conjunction args).Defined q := .next fun _ => .done rfl

theorem disjunction_defined : (disjunction args).Defined q := .next fun _ => .done rfl

theorem negation_defined : (negation args).Defined q :=
  .next fun _ => .next fun _ => .done rfl

theorem branch_defined (h : ∀ a ∈ args, a.Defined q) : (branch args).Defined q := by
  refine .next fun a => .next fun condition => ?_
  split
  next b hb => exact h b (List.mem_of_getElem? hb)
  next => exact .done rfl

/-! ### Functions on texts -/

theorem left_defined : (left args).Defined q :=
  .next fun _ => .next fun _ => .next fun _ => .done rfl

theorem right_defined : (right args).Defined q :=
  .next fun _ => .next fun _ => .next fun _ => .done rfl

theorem mid_defined : (mid args).Defined q :=
  .next fun _ => .next fun _ => .next fun _ => .next fun _ => .next fun _ => .done rfl

theorem len_defined : (len args).Defined q := .next fun _ => .done (isNaN_ofNat _)

theorem foundFrom_defined (needle : String) (cs : List Char) (start : Nat)
    (search : List Char → Option Nat) : (foundFrom needle cs start search).Defined q := by
  refine .next fun rest => ?_
  split
  · exact .next fun before => .done (isNaN_ofNat _)
  · exact .fail

theorem find_defined : (find args).Defined q :=
  .next fun _ => .next fun _ => .next fun _ => .next fun _ => foundFrom_defined _ _ _ _

theorem search_defined : (search args).Defined q :=
  .next fun _ => .next fun _ => .next fun _ => .next fun _ => .next fun _ =>
    foundFrom_defined _ _ _ _

theorem replace_defined : (replace args).Defined q :=
  .next fun _ => .next fun _ => .next fun _ => .next fun _ => .next fun _ => .next fun _ =>
    .done rfl

theorem substituteNth_defined (old new : List Char) (n : Nat) (s : String) :
    (substituteNth old new n s).Defined q := by
  unfold substituteNth
  split
  · exact .next fun before => .next fun behind => .done rfl
  · exact .done rfl

theorem substitute_defined : (substitute args).Defined q := by
  refine .next fun s => .next fun old => .next fun new => ?_
  dsimp only
  split
  · exact .done rfl
  · split
    · exact .done rfl
    · exact .next fun x => .next fun n => substituteNth_defined _ _ _ _

theorem rept_defined : (rept args).Defined q := by
  refine .next fun s => .next fun x => .next fun n => ?_
  dsimp only
  by_cases hn : s.utf8ByteSize * n ≤ maxRepeated
  · rw [if_pos hn]
    exact .done rfl
  · rw [if_neg hn]
    exact .fail

theorem mapText_defined (f : String → String) : (mapText f args).Defined q :=
  .next fun _ => .done rfl

theorem concatenate_defined : (concatenate args).Defined q := .next fun _ => .done rfl

theorem char_defined : (char args).Defined q := by
  refine .next fun x => ?_
  dsimp only
  split
  · exact .fail
  · split
    · exact .done rfl
    · exact .fail

theorem code_defined : (code args).Defined q := by
  refine .next fun s => ?_
  split
  · exact .done (isNaN_ofNat _)
  · exact .fail

theorem formatText_defined (c : Context) : (formatText c args).Defined q :=
  .next fun _ => .next fun _ => .done rfl

theorem isUndefined_numericText {s : String} {v : Value} (h : numericText s = .ok v) :
    v.isUndefined = false := by
  simp only [numericText] at h
  split at h
  next x hx =>
    cases h
    exact Value.isNaN_of_readNumber hx
  next =>
    split at h
    next m _ =>
      cases h
      exact m.isNaN_serial
    next => cases h

theorem valueOfText_defined : (valueOfText args).Defined q := by
  refine .next fun v => ?_
  split
  · exact .ofExcept isUndefined_numericText
  · apply Program.Yields.ofExcept
    intro w hw
    cases hx : v.expectNumber with
    | error e =>
      rw [hx] at hw
      cases hw
    | ok x =>
      rw [hx] at hw
      cases hw
      exact Value.isNaN_of_expectNumber hx

theorem onlyText_defined : (onlyText args).Defined q := by
  refine .next fun v => ?_
  split
  · exact .done rfl
  · exact .done rfl

theorem exact_defined : (exact args).Defined q := .next fun _ => .next fun _ => .done rfl

/-! ### Functions on moments -/

theorem part_defined (f : Calendar.Moment → Int) : (part f args).Defined q :=
  .next fun _ => .done (isNaN_ofInt _)

theorem weekday_defined : (weekday args).Defined q := by
  refine .next fun m => ?_
  split
  · exact .next fun x => .next fun type => .next fun n => .done (isNaN_ofNat n)
  · exact .next fun type => .next fun n => .done (isNaN_ofNat n)

theorem timeOf_defined : (timeOf args).Defined q := by
  refine .next fun hour => .next fun minute => .next fun second => ?_
  split
  · exact .done rfl
  · exact .fail

theorem dateOf_defined : (dateOf args).Defined q := by
  refine .next fun year => .next fun month => .next fun day => ?_
  split
  · exact .done rfl
  · exact .fail

theorem dateDif_defined : (dateDif args).Defined q := by
  refine .next fun start => .next fun finish => .next fun unit => ?_
  dsimp only
  split
  · exact .fail
  · split
    · exact .done (isNaN_ofInt _)
    · exact .fail

/-! ### Functions on ranges -/

theorem measure_defined (function : String) (f : Grid.Range → Nat) :
    (measure function f args).Defined q :=
  .next fun _ => .next fun _ => .done (isNaN_ofNat _)

theorem indexOf_defined (function : String) (f : Grid.Range → Nat) (caller : Option Nat) :
    (indexOf function f caller args).Defined q := by
  unfold indexOf
  split
  · exact .next fun r => .done (isNaN_ofNat _)
  · cases caller with
    | some i => exact .done (isNaN_ofNat _)
    | none => exact .fail

theorem choose_defined (h : ∀ a ∈ args, a.Defined q) : (choose args).Defined q := by
  refine .next fun x => ?_
  dsimp only
  split
  · exact .fail
  · apply Program.Yields.bind (argument_yields h _)
    intro a ha
    apply Program.Yields.bind ha.operand
    intro o ho
    cases o with
    | range r => exact .done rfl
    | value v => exact .done ho

theorem index_defined : (index args).Defined q :=
  .next fun _ => .next fun _ => .next fun _ => .next fun _ => .next fun _ => .next fun _ =>
    .done rfl

theorem tableLookup_defined (hq : q.AreDefined) (function : String) (axis : Axis) :
    (tableLookup function axis args).Defined q := by
  refine .next fun sought => .next fun a => .next fun table => .next fun x => ?_
  extract_lets i line rest
  -- The rest is the same whether the fourth argument is given or not.
  have hrest (approximate : Bool) : (rest approximate).Defined q := by
    dsimp only [rest]
    split
    next =>
      refine .next fun keys => .next fun position => ?_
      cases position with
      | none => exact .fail
      | some position =>
        apply Program.Yields.bind (.cells hq _ true)
        intro results hresults
        split
        next v hv => exact .done (hresults v (List.mem_of_getElem? hv))
        next => exact .fail
    next => exact .fail
  split
  · exact .next hrest
  · exact hrest true

theorem position_defined : (position args).Defined q := by
  refine .next fun sought => .next fun a => .next fun r => .next fun x => .next fun keys => ?_
  refine .next fun i => ?_
  cases i with
  | some i => exact .done (isNaN_ofNat _)
  | none => exact .fail

end Functions

/-! ## All functions -/

/-- Whether a function gives what one of its arguments gives. -/
def Formula.Builtin.passesArguments : Builtin → Bool
  | .branch | .choose => true
  | _ => false

/-- Whether a function adds or multiplies the numbers of a list and gives the result without a
look at it. -/
def Formula.Builtin.reducesUnchecked : Builtin → Bool
  | .sum | .average | .product | .var | .varP | .stdev | .stdevP => true
  | .sumProduct | .subtotal | .sumIf | .sumIfs => true
  | _ => false

namespace Evaluation

open Functions in
/-- A function that is built in does not give NaN, unless it passes NaN on or reduces a list to
NaN. -/
theorem applyBuiltin_defined {c : Context} (hdraw : c.draw.isNaN = false) {q : Answers}
    (hq : q.AreDefined) {args : List Argument} {b : Builtin}
    (hargs : b.passesArguments = true → ∀ a ∈ args, a.Defined q)
    (hreduce : b.reducesUnchecked = true → (applyBuiltin c args b).Defined q) :
    (applyBuiltin c args b).Defined q := by
  cases b with
  | sum | average | product | var | varP | stdev | stdevP => exact hreduce rfl
  | sumProduct | subtotal | sumIf | sumIfs => exact hreduce rfl
  | max | min | count | countAll => exact aggregate_defined rfl
  | countBlank => exact countBlank_defined
  | rank => exact rank_defined
  | countIf | countIfs => exact countSelected_defined _
  | abs | acos | asin | atan | cos | sin | tan | exp | ln | log10 | sqrt | int =>
    exact unary_defined _ _
  | atan2 => exact atan2_defined
  | log => exact log_defined
  | floor | ceiling => exact multiple_defined _ _
  | mod => exact mod_defined
  | pi => exact .done (by decide +kernel)
  | power => exact power_defined
  | sign => exact sign_defined
  | rand => exact .done hdraw
  | randBetween => exact randBetween_defined c
  | round | roundDown | roundUp => exact rounded_defined _ _
  | trunc => exact trunc_defined
  | conjunction => exact conjunction_defined
  | disjunction => exact disjunction_defined
  | branch => exact branch_defined (hargs rfl)
  | negation => exact negation_defined
  | isTrue | isFalse | now | today => exact .done rfl
  | left => exact left_defined
  | right => exact right_defined
  | mid => exact mid_defined
  | len => exact len_defined
  | find => exact find_defined
  | search => exact search_defined
  | replace => exact replace_defined
  | substitute => exact substitute_defined
  | rept => exact rept_defined
  | upper | lower | proper | trim => exact mapText_defined _
  | concatenate => exact concatenate_defined
  | char => exact char_defined
  | code => exact code_defined
  | formatText => exact formatText_defined c
  | valueOfText => exact valueOfText_defined
  | onlyText => exact onlyText_defined
  | exact => exact exact_defined
  | year | month | day | hour | minute | second => exact part_defined _
  | weekday => exact weekday_defined
  | timeOf => exact timeOf_defined
  | dateOf => exact dateOf_defined
  | dateDif => exact dateDif_defined
  | row | column => exact indexOf_defined _ _ _
  | rows | columns => exact measure_defined _ _
  | choose => exact choose_defined (hargs rfl)
  | index => exact index_defined
  | hLookup | vLookup => exact tableLookup_defined hq _ _
  | position => exact position_defined
  | rate => exact rate_defined

end Evaluation

end Spreadsheet
