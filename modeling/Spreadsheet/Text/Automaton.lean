import Spreadsheet.Text.ByteRange
import Spreadsheet.Text.Glob

/-!
# The size of a pattern

A pattern stands for two automata over the bytes of UTF-8, one that reads a
text forwards and one that reads it backwards.  Both are counted here, not
built, and a pattern is too large when one of them takes more than `sizeLimit`
bytes.

An automaton is made of states, and the size of each is that of a state and of
the ways on from it (`Size`).

* A character that has no other case is read by one state for each of its
  bytes.
* A set of characters that all have one byte is read by one state with a
  transition for each range, and a state behind it.
* *Forwards*, any other set is read by the least automaton that reads its byte
  sequences: a state for every different way to go on, with a transition for
  every range that may come next.
* *Backwards*, it is read by a chain of states for every sequence, one for each
  range, and a state that branches to the chains.  Sequences that begin alike
  share the states they begin with, as far as these are still known (`Step`).
* A run adds a state with two branches.

What surrounds the pieces depends on whether the pattern has to cover a text or
is looked for in it.
-/

namespace Spreadsheet.Text.Automaton

/-- The greatest size of an automaton, in bytes. -/
def sizeLimit : Nat := 10485760

/-- What an automaton is made of. -/
structure Size where
  /-- The number of states. -/
  states : Nat
  /-- The number of transitions of states that have several. -/
  transitions : Nat
  /-- The number of branches that read nothing. -/
  branches : Nat
deriving DecidableEq, Repr

/-- The size of two parts together. -/
def Size.plus (s t : Size) : Size :=
  ⟨s.states + t.states, s.transitions + t.transitions, s.branches + t.branches⟩

/-- The size in bytes. -/
def Size.bytes (s : Size) : Nat := 32 * s.states + 8 * s.transitions + 4 * s.branches

/-- The state that a run adds. -/
def runSize : Size := ⟨1, 0, 2⟩

/-! ## What pieces read -/

/-- What a piece reads. -/
inductive Reading where
  /-- One sequence of bytes. -/
  | bytes (count : Nat)
  /-- A set of characters of one byte. -/
  | short (ranges : Nat)
  /-- Any other set of characters. -/
  | set (sequences : List (List ByteRange))
  /-- Any character but a line break. -/
  | line
  /-- A run of such characters. -/
  | run

/-- What a piece reads.  A letter stands for its other cases too. -/
def Reading.ofPiece : Piece → Reading
  | .one => .line
  | .many => .run
  | .letter c =>
    match variants c with
    | [_] => .bytes (bytesOf c).length
    | all =>
      if all.all (·.toNat < 128) then .short (byteSequences all).length
      else .set (byteSequences all)

/-! ## Forwards -/

/-- The ways to go on after a beginning of sequences. -/
def waysOn (sequences : List (List ByteRange)) (beginning : List ByteRange) :
    List (List ByteRange) :=
  (sequences.filter beginning.isPrefixOf).map (·.drop beginning.length)

/-- The size of the least automaton for sequences. -/
def leastSize (sequences : List (List ByteRange)) : Size :=
  let beginnings := sequences.flatMap fun s => (List.range s.length).map s.take
  let states := (beginnings.map (waysOn sequences)).eraseDups
  let transitions := states.map fun ways => (ways.filterMap List.head?).eraseDups.length
  ⟨states.length + 1, transitions.foldl (· + ·) 0, 0⟩

/-- The size of what reads any character but a line break. -/
def lineForward : Size := leastSize lineSequences

/-- The size of a part of the automaton. -/
def Reading.forward : Reading → Size
  | .bytes n => ⟨n, 0, 0⟩
  | .short n => ⟨2, n, 0⟩
  | .set sequences => leastSize sequences
  | .line => lineForward
  | .run => runSize.plus lineForward

/-- The size of the automaton that reads forwards. -/
def forward (isOpen : Bool) (parts : List Reading) : Size :=
  parts.foldl (fun s r => s.plus r.forward) (if isOpen then ⟨6, 1, 2⟩ else ⟨6, 0, 0⟩)

/-! ## Backwards -/

/-- What a state does that reads a byte of one range and goes on to a state. -/
structure Step where
  /-- The number of the state behind it. -/
  next : Nat
  /-- The bytes that it reads. -/
  range : ByteRange
deriving DecidableEq

/-- The place of a step in the table of known steps, which has a thousand.  It is the FNV-1a hash
of the numbers that make it up. -/
def Step.place (s : Step) : Nat :=
  let mix (h : UInt64) (n : Nat) : UInt64 := (h ^^^ n.toUInt64) * 1099511628211
  (mix (mix (mix 14695981039346656037 s.next) s.range.first) s.range.last).toNat % 1000

/-- A step that has a state. -/
structure Known where
  /-- The step. -/
  step : Step
  /-- Its place in the table. -/
  place : Nat
  /-- The number of its state. -/
  state : Nat

/-- The state of a step, if it is known.  `known` has the latest first, and a step is forgotten
when a later one takes its place. -/
def stateOf? (known : List Known) (s : Step) (place : Nat) : Option Nat :=
  match known.find? fun k => k.place == place with
  | some k => if k.step = s then some k.state else none
  | none => none

/-- The known steps and the number of states when a chain has been added that ends at a state. -/
def addChain (known : List Known) (states next : Nat) : List ByteRange → List Known × Nat
  | [] => (known, states)
  | r :: rest =>
    let s : Step := ⟨next, r⟩
    let place := s.place
    match stateOf? known s place with
    | some state => addChain known states state rest
    | none => addChain (⟨s, place, states⟩ :: known) (states + 1) states rest

/-- The size when a set has been added.  The state that branches and the one at the end of all
chains come first. -/
def addSet (sequences : List (List ByteRange)) (s : Size) : Size :=
  let (_, states) := sequences.foldl
    (fun (known, states) sequence => addChain known states (s.states + 1) sequence)
    ([], s.states + 2)
  ⟨states, s.transitions, s.branches + sequences.length⟩

/-- The size when a part has been added. -/
def Reading.addTo (s : Size) : Reading → Size
  | .bytes n => s.plus ⟨n, 0, 0⟩
  | .short n => s.plus ⟨2, n, 0⟩
  | .set sequences => addSet sequences s
  | .line => addSet lineSequences s
  | .run => addSet lineSequences (s.plus runSize)

/-- The size of the automaton that reads backwards. -/
def backward (isOpen : Bool) (parts : List Reading) : Size :=
  let size := parts.reverse.foldl Reading.addTo (if isOpen then ⟨3, 1, 2⟩ else ⟨2, 0, 0⟩)
  size.plus (if isOpen then ⟨1, 0, 0⟩ else ⟨2, 0, 0⟩)

/-- Whether a pattern is not too large, when it has to cover a text or, if it is open, when it is
looked for in one. -/
def fits (isOpen : Bool) (ps : List Piece) : Bool :=
  let parts := ps.map Reading.ofPiece
  (backward isOpen parts).bytes ≤ sizeLimit && (forward isOpen parts).bytes ≤ sizeLimit

/-! ## Tests -/

example : Reading.line.forward.bytes = 424 := by decide +kernel
example : (backward false [.line]).bytes = (backward false []).bytes + 1000 := by decide +kernel
example : (Reading.ofPiece (.letter 'x')).forward.bytes = 80 := by decide +kernel
example : (backward true [Reading.ofPiece (.letter 'k')]).bytes
    = (backward true []).bytes + 236 := by decide +kernel
example : fits false [.many, .letter 'a'] = true := by decide +kernel

end Spreadsheet.Text.Automaton
