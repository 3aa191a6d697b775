import Spreadsheet.Proofs.Formula.Tokenizing

/-!
# Progress

Scanning is calling `nextToken` over and over.  A call fails, or finds nothing
but white space, or takes a piece: white space and the span of a token behind it
(`advances_nextToken`).  The pieces of a run of calls make up what was in front
of the place where it stands (`Calls.eq_append`), and a text has no more pieces
than characters, so that a run to the end is a bounded one (`exists_calls`).
-/

namespace Spreadsheet.Formula

open Spreadsheet.Text (isBlank)

variable {cs rest left : List Char}

/-- One call: the token behind white space, or none when nothing but white space is left, and what
follows it. -/
def nextToken (cs : List Char) : Except SyntaxFault (Option Token × List Char) :=
  match cs.dropWhile isBlank with
  | [] => .ok (none, [])
  | c :: cs => (takeToken (c :: cs)).map fun (t, rest) => (some t, rest)

theorem nextToken_nil : nextToken [] = .ok (none, []) := rfl

/-- White space and the span of a token. -/
structure Piece where
  /-- The white space in front. -/
  gap : List Char
  /-- What the token is taken from. -/
  span : List Char
  /-- The token. -/
  token : Token
  /-- The gap holds nothing else. -/
  blank : ∀ c ∈ gap, isBlank c = true
  /-- Every character of the span belongs to the token. -/
  spelled : Spells span token

/-- The characters of a piece. -/
def Piece.chars (p : Piece) : List Char := p.gap ++ p.span

theorem Piece.length_chars_pos (p : Piece) : 0 < p.chars.length := by
  have hspan := List.length_pos_of_ne_nil p.spelled.ne_nil
  rw [Piece.chars, List.length_append]
  omega

/-! ## One call -/

/-- What a call may give. -/
def Advances (cs : List Char) : Except SyntaxFault (Option Token × List Char) → Prop
  | .error _ => True
  | .ok (none, rest) => (∀ c ∈ cs, isBlank c = true) ∧ rest = []
  | .ok (some t, rest) => ∃ p : Piece, p.token = t ∧ p.span ≠ [] ∧ cs = p.chars ++ rest

theorem advances_nextToken (cs : List Char) : Advances cs (nextToken cs) := by
  have hgap : ∀ c ∈ cs.takeWhile isBlank, isBlank c = true := fun c => List.mem_takeWhile_imp
  have hcs : cs.takeWhile isBlank ++ cs.dropWhile isBlank = cs := List.takeWhile_append_dropWhile
  unfold nextToken
  split
  next hblank =>
    rw [hblank, List.append_nil] at hcs
    exact ⟨hcs ▸ hgap, rfl⟩
  next c behind hbehind =>
    rw [hbehind] at hcs
    cases htoken : takeToken (c :: behind) with
    | error fault => exact trivial
    | ok taken =>
      obtain ⟨t, rest⟩ := taken
      obtain ⟨span, hspan, hsplit⟩ := exists_span htoken
      rw [hsplit] at hcs
      exact ⟨⟨_, span, t, hgap, hspan⟩, rfl, hspan.ne_nil,
        hcs.symm.trans (List.append_assoc _ _ _).symm⟩

example : nextToken "  \"a\"\"b\"&1".toList =
    .ok (some (.literal (.text "a\"b")), "&1".toList) := by decide +kernel

/-! ## Runs of calls -/

/-- Calls that each take a piece, and what is left behind them. -/
inductive Calls : List Char → List Piece → List Char → Prop where
  /-- No call. -/
  | nil (cs : List Char) : Calls cs [] cs
  /-- A call that takes a piece, and the others. -/
  | cons {p : Piece} {rest ps left} : nextToken (p.chars ++ rest) = .ok (some p.token, rest) →
    Calls rest ps left → Calls (p.chars ++ rest) (p :: ps) left

/-- The pieces follow one another, with nothing between them. -/
theorem Calls.eq_append {ps : List Piece} (h : Calls cs ps left) :
    cs = ps.flatMap Piece.chars ++ left := by
  induction h with
  | nil => rfl
  | cons _ _ ih => rw [List.flatMap_cons, List.append_assoc, ← ih]

theorem Calls.length_le {ps : List Piece} (h : Calls cs ps left) :
    ps.length + left.length ≤ cs.length := by
  induction h with
  | nil => simp
  | @cons p rest ps left _ _ ih =>
    have hpiece := p.length_chars_pos
    simp only [List.length_cons, List.length_append]
    omega

/-- The call that ends a run: it fails, or nothing but white space is left. -/
def EndsRun (left : List Char) : Option SyntaxFault → Prop
  | some fault => nextToken left = .error fault
  | none => nextToken left = .ok (none, []) ∧ ∀ c ∈ left, isBlank c = true

/-- A step of scanning is a call. -/
theorem scanFrom_succ (n : Nat) (cs : List Char) :
    scanFrom (n + 1) cs =
      match nextToken cs with
      | .error fault => ([], some fault)
      | .ok (none, _) => ([], none)
      | .ok (some t, rest) => (t :: (scanFrom n rest).1, (scanFrom n rest).2) := by
  rw [scanFrom, nextToken]
  cases cs.dropWhile isBlank with
  | nil => rfl
  | cons c behind =>
    dsimp only
    cases takeToken (c :: behind) <;> rfl

/-- Scanning is calling until a call ends the run. -/
theorem exists_calls {n : Nat} (hn : cs.length ≤ n) :
    ∃ ps left, Calls cs ps left ∧ scanFrom n cs = (ps.map Piece.token, (scanFrom n cs).2) ∧
      EndsRun left (scanFrom n cs).2 := by
  induction n generalizing cs with
  | zero =>
    obtain rfl := List.length_eq_zero_iff.1 (Nat.le_zero.1 hn)
    exact ⟨[], [], .nil [], rfl, nextToken_nil, by simp⟩
  | succ n ih =>
    have hcall := advances_nextToken cs
    rw [scanFrom_succ]
    cases hnext : nextToken cs with
    | error fault => exact ⟨[], cs, .nil cs, rfl, hnext⟩
    | ok taken =>
      obtain ⟨token?, rest⟩ := taken
      rw [hnext] at hcall
      cases token? with
      | none =>
        obtain ⟨hblank, rfl⟩ := hcall
        exact ⟨[], cs, .nil cs, rfl, hnext, hblank⟩
      | some t =>
        obtain ⟨p, rfl, -, rfl⟩ := hcall
        have hpiece := p.length_chars_pos
        rw [List.length_append] at hn
        obtain ⟨ps, left, hcalls, hscan, hstop⟩ := @ih rest (by omega)
        refine ⟨p :: ps, left, .cons hnext hcalls, ?_, hstop⟩
        rw [List.map_cons]
        exact congrArg (fun ts => (p.token :: ts, _)) (congrArg Prod.fst hscan)

/-- A call fails, or finds nothing but white space and then nothing however often it is repeated, or
takes at least one character and leaves the others.  The calls for a text take pieces that make up
what is in front of the place where they end, in order and with nothing but white space between the
tokens, and they are at most one more than it has characters. -/
theorem calls_advance (s : String) :
    (∀ cs, Advances cs (nextToken cs)) ∧ nextToken [] = .ok (none, []) ∧
      ∃ ps left fault, Calls s.toList ps left ∧ s.toList = ps.flatMap Piece.chars ++ left ∧
        ps.length + 1 ≤ s.toList.length + 1 ∧ EndsRun left fault ∧
        scan s = (ps.map Piece.token, fault) := by
  obtain ⟨ps, left, hcalls, hscan, hstop⟩ := exists_calls (Nat.le_refl s.toList.length)
  have hlength := hcalls.length_le
  exact ⟨advances_nextToken, nextToken_nil, ps, left, _, hcalls, hcalls.eq_append, by omega, hstop,
    hscan⟩

end Spreadsheet.Formula
