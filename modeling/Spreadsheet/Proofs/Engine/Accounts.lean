import Spreadsheet.Proofs.Engine.Attempts

/-!
# What an engine keeps and counts

Over any calls on an engine, with hosts that may differ from call to call, the
number of trees that are kept stays within its bound, and all attempts to parse a
formula are counted, also those of nested evaluations (`Reached`).

For hosts that know no names more can be said of a stretch of calls that starts
without trees, drops none and registers no functions.  As long as the trees fit
in, every text that has a tree is parsed once with success.  So the number of
trees is that of these texts, and besides them only the attempts that failed are
counted.

Both are read off the attempts of the calls.  A call that computes something
leads from the memory before to the memory after it as its attempts say
(`Call.leads`), and the attempts of a run are those of its calls.
-/

namespace Spreadsheet

open Spreadsheet.Engine
open Spreadsheet.Evaluation (Program)
open Spreadsheet.Formula (Function Reference)
open Spreadsheet.Grid (Range)

namespace Engine

/-! ## Calls -/

/-- The attempts that the readers of an engine make. -/
def recorder (e : Engine) (h : Host) (sheet : Nat) : Recorder :=
  recorderAt (e.surroundings h) (keyBound h) sheet

/-- A call on an engine. -/
inductive Call : Type 1 where
  /-- A text is computed. -/
  | tryEvaluate (h : Host) (text : String) (o : Options)
  /-- A text is computed, with errors as texts. -/
  | evaluate (h : Host) (text : String) (o : Options)
  /-- The value of a cell is computed. -/
  | cellValue (h : Host) (sheet row column : Nat) (display : Bool)
  /-- A program is run. -/
  | runProgram {α : Type} (h : Host) (sheet : Nat) (p : Program α)
  /-- The first cell of a reference is read. -/
  | referenceValue (h : Host) (sheet : Nat) (r : Reference)
  /-- The cells of a reference are read. -/
  | rangeValues (h : Host) (sheet : Nat) (r : Reference) (includeHidden : Bool)
    (column : Option Nat)
  /-- A range is marked as being read. -/
  | hold (h : Host) (sheet : Nat) (r : Range)
  /-- The mark is taken away. -/
  | release (h : Host) (sheet : Nat) (r : Range)
  /-- All trees are dropped. -/
  | clearCache
  /-- A function is registered. -/
  | register (f : Function)

theorem settings_after {α : Type} (e : Engine) (answer : α × Memory) :
    (e.after answer).2.settings = e.settings := rfl

theorem memory_after {α : Type} (e : Engine) (answer : α × Memory) :
    (e.after answer).2.memory = answer.2 := rfl

namespace Call

/-- The host of a call.  The calls without one are those that drop the trees. -/
def host? : Call → Option Host
  | tryEvaluate h .. | evaluate h .. | cellValue h .. | runProgram h .. | referenceValue h ..
  | rangeValues h .. | hold h .. | release h .. => some h
  | clearCache | register _ => none

/-- The engine after a call. -/
def after (e : Engine) : Call → Engine
  | tryEvaluate h text o => (e.tryEvaluate h text o).2
  | evaluate h text o => (e.evaluate h text o).2
  | cellValue h sheet row column display => (e.cellValue h sheet row column display).2
  | runProgram h sheet p => (e.runProgram h sheet p).2
  | referenceValue h sheet r => (e.referenceValue h sheet r).2
  | rangeValues h sheet r includeHidden column =>
    (e.rangeValues h sheet r includeHidden column).2
  | hold h sheet r =>
    match e.hold h sheet r with
    | .ok e' => e'
    | .error _ => e
  | release h sheet r => e.release h sheet r
  | clearCache => e.clearCache
  | register f => e.register f

/-- The attempts to parse a formula that a call makes. -/
def attempts (e : Engine) : Call → List Attempt
  | tryEvaluate h text o | evaluate h text o =>
    textAttempts (e.surroundings h) (e.reader h) (e.recorder h) text o e.memory
  | cellValue h sheet row column _ =>
    valueAttempts (e.surroundings h) (e.reader h) (e.recorder h) sheet row column e.memory
  | runProgram h sheet p => runAttempts (e.reader h sheet) (e.recorder h sheet) p e.memory
  | referenceValue h sheet r =>
    cellAttempts (e.surroundings h) (e.reader h) (e.recorder h) sheet r e.memory
  | rangeValues h sheet r includeHidden column =>
    cellsAttempts (e.surroundings h) (e.reader h) (e.recorder h) sheet r includeHidden column
      e.memory
  | hold .. | release .. | clearCache | register _ => []

variable {c : Call} {e : Engine} {h : Host} {fresh : Prop}

theorem settings_after (c : Call) (e : Engine) : (c.after e).settings = e.settings := by
  cases c with
  | tryEvaluate h text o => exact e.settings_after _
  | evaluate h text o =>
    rw [after, evaluate_eq, tryEvaluate_eq]
    dsimp only
    exact e.settings_after _
  | cellValue h sheet row column display =>
    rw [after, cellValue_eq]
    exact e.settings_after _
  | hold h sheet r =>
    simp only [after, Engine.hold]
    cases e.memory.hold? (keyOf h sheet r) <;> rfl
  | _ => rfl

/-- A call with a host leads from the memory before to the memory after it. -/
theorem leads (hc : c.host? = some h)
    (hfresh : fresh → h.KnowsNoNames ∧ e.settings.cacheEnabled = true) :
    Leads e.settings fresh e.memory (c.attempts e) (c.after e).memory := by
  have hreader (i : Nat) : (e.reader h i).Recorded e.settings fresh (e.recorder h i) :=
    readerAt_recorded (s := e.surroundings h) hfresh (keyBound h) i
  have htext := computeText_recorded (s := e.surroundings h) hfresh hreader
  cases c with
  | tryEvaluate h' text o =>
    cases hc
    rw [after, tryEvaluate_eq, memory_after]
    exact htext text o e.memory
  | evaluate h' text o =>
    cases hc
    rw [after, evaluate_eq, tryEvaluate_eq, memory_after]
    exact htext text o e.memory
  | cellValue h' sheet row column display =>
    cases hc
    rw [after, cellValue_eq]
    exact valueAt_recorded (s := e.surroundings h) hfresh hreader sheet row column e.memory
  | runProgram h' sheet p =>
    cases hc
    exact run_recorded (hreader sheet) p e.memory
  | referenceValue h' sheet r =>
    cases hc
    exact readCell_recorded (s := e.surroundings h) hfresh hreader sheet r e.memory
  | rangeValues h' sheet r includeHidden column =>
    cases hc
    exact readCells_recorded (s := e.surroundings h) hfresh hreader sheet r includeHidden column
      e.memory
  | hold h' sheet r =>
    cases hc
    simp only [after, attempts, Engine.hold]
    cases hhold : e.memory.hold? (keyOf h sheet r) with
    | none => exact .refl _
    | some m =>
      obtain ⟨-, rfl⟩ := Memory.hold?_eq_some.1 hhold
      exact ⟨rfl, rfl, fun _ => .nil⟩
  | release h' sheet r => exact ⟨rfl, rfl, fun _ => .nil⟩
  | clearCache => cases hc
  | register f => cases hc

/-- A call without a host drops all trees and parses nothing. -/
theorem drops (hc : c.host? = none) :
    (c.after e).memory = { e.memory with cache := e.memory.cache.clear } ∧ c.attempts e = [] := by
  cases c with
  | clearCache => exact ⟨rfl, rfl⟩
  | register f => exact ⟨rfl, rfl⟩
  | _ => cases hc

end Call

/-! ## Runs -/

/-- The engine after some calls. -/
def afterCalls (e : Engine) : List Call → Engine
  | [] => e
  | c :: calls => (c.after e).afterCalls calls

/-- The attempts to parse a formula that some calls make. -/
def attempts (e : Engine) : List Call → List Attempt
  | [] => []
  | c :: calls => c.attempts e ++ (c.after e).attempts calls

variable {e : Engine}

theorem settings_afterCalls (e : Engine) (calls : List Call) :
    (e.afterCalls calls).settings = e.settings := by
  induction calls generalizing e with
  | nil => rfl
  | cons c calls ih => exact (ih (c.after e)).trans (c.settings_after e)

theorem cached_eq (e : Engine) : e.cached = e.memory.keptTexts.length :=
  (List.length_map _).symm

/-- What holds of an engine that has made some attempts, whichever calls were made. -/
structure InBounds (e : Engine) : Prop where
  /-- The cache has the capacity of the settings. -/
  capacity : e.memory.cache.capacity = e.settings.capacity
  /-- There are not too many trees. -/
  le : e.memory.keptTexts.length ≤ max e.settings.capacity 1
  /-- There is none if trees are not kept. -/
  disabled : e.settings.cacheEnabled = false → e.memory.keptTexts = []

theorem InBounds.new (settings : Settings) : (Engine.new settings).InBounds :=
  ⟨rfl, Nat.zero_le _, fun _ => rfl⟩

/-- A call keeps the trees within their bounds and counts its attempts. -/
theorem InBounds.after (he : e.InBounds) (c : Call) :
    (c.after e).InBounds ∧ (c.after e).parsed = e.parsed + (c.attempts e).length ∧
      ∀ a ∈ c.attempts e, a.kept ≤ max e.settings.capacity 1 ∧
        (e.settings.cacheEnabled = false → a.kept = 0) := by
  have hsettings := c.settings_after e
  cases hc : c.host? with
  | none =>
    obtain ⟨hmemory, hattempts⟩ := c.drops (e := e) hc
    rw [hattempts]
    refine ⟨⟨?_, ?_, ?_⟩, ?_, List.forall_mem_nil _⟩
    · rw [hmemory, hsettings]
      exact he.capacity
    · rw [hmemory]
      exact Nat.zero_le _
    · rw [hmemory]
      exact fun _ => rfl
    · rw [Engine.parsed, hmemory]
      rfl
  | some h =>
    have hleads : Leads e.settings False e.memory (c.attempts e) (c.after e).memory :=
      c.leads hc False.elim
    obtain ⟨hcapacity, hparsed, hreplays⟩ := hleads
    have hreplays := hreplays he.capacity
    obtain ⟨hle, hkept⟩ := hreplays.length_le he.le
    have hdisabled (h : e.settings.cacheEnabled = false) := hreplays.eq_nil h (he.disabled h)
    refine ⟨⟨?_, ?_, ?_⟩, hparsed, fun a ha => ⟨hkept a ha, fun h => (hdisabled h).2 a ha⟩⟩
    · rw [hcapacity, hsettings]
      exact he.capacity
    · rw [hsettings]
      exact hle
    · rw [hsettings]
      exact fun h => (hdisabled h).1

theorem InBounds.afterCalls (he : e.InBounds) (calls : List Call) :
    (e.afterCalls calls).InBounds ∧
      (e.afterCalls calls).parsed = e.parsed + (e.attempts calls).length ∧
      ∀ a ∈ e.attempts calls, a.kept ≤ max e.settings.capacity 1 ∧
        (e.settings.cacheEnabled = false → a.kept = 0) := by
  induction calls generalizing e with
  | nil => exact ⟨he, rfl, List.forall_mem_nil _⟩
  | cons c calls ih =>
    obtain ⟨hc, hparsed, hkept⟩ := he.after c
    obtain ⟨hcalls, hparsed', hkept'⟩ := ih hc
    rw [c.settings_after e] at hkept'
    refine ⟨hcalls, ?_, ?_⟩
    · rw [Engine.attempts, List.length_append, ← Nat.add_assoc, ← hparsed, ← hparsed']
      rfl
    · intro a ha
      obtain ha | ha := List.mem_append.1 ha
      · exact hkept a ha
      · exact hkept' a ha

example : ((new {}).attempts [.tryEvaluate Grid.Workbook.new.host "=1+1" {},
    .evaluate Grid.Workbook.new.host "=1+1" {}]).length = 1 := by decide +kernel

/-- Calls for hosts that know no names lead from the memory before to the memory after them. -/
theorem leads_afterCalls {calls : List Call}
    (hcalls : ∀ c ∈ calls, ∃ h, c.host? = some h ∧ h.KnowsNoNames)
    (henabled : e.settings.cacheEnabled = true) :
    Leads e.settings True e.memory (e.attempts calls) (e.afterCalls calls).memory := by
  induction calls generalizing e with
  | nil => exact .refl _
  | cons c calls ih =>
    obtain ⟨⟨h, hc, hh⟩, hcalls⟩ := List.forall_mem_cons.1 hcalls
    have hsettings := c.settings_after e
    have hrest := ih (e := c.after e) hcalls (hsettings ▸ henabled)
    rw [hsettings] at hrest
    exact (c.leads hc fun _ => ⟨hh, henabled⟩).trans hrest

/-- The number of trees stays within its bound, at all times, and all attempts are counted.  In a
stretch of calls without trees at its start, for hosts that know no names, each text with a tree is
parsed once with success if all these trees fit in. -/
theorem cache_accounts (settings : Settings) (calls : List Call) :
    let e := (new settings).afterCalls calls
    (e.cached ≤ max settings.capacity 1 ∧ (settings.cacheEnabled = false → e.cached = 0)) ∧
    (∀ a ∈ (new settings).attempts calls,
      a.kept ≤ max settings.capacity 1 ∧ (settings.cacheEnabled = false → a.kept = 0)) ∧
    e.parsed = ((new settings).attempts calls).length ∧
    ∀ start, start = new settings ∨ start = e.clearCache →
      ∀ stretch : List Call, (∀ c ∈ stretch, ∃ h, c.host? = some h ∧ h.KnowsNoNames) →
        settings.cacheEnabled = true →
        let texts := parsedTexts (start.attempts stretch)
        texts.dedup.length ≤ settings.capacity →
          (∀ text ∈ texts, texts.count text = 1) ∧
          (start.afterCalls stretch).cached = texts.dedup.length ∧
          (start.afterCalls stretch).parsed =
            start.parsed + texts.dedup.length + failures (start.attempts stretch) := by
  intro e
  have hsettings : e.settings = settings := settings_afterCalls (new settings) calls
  obtain ⟨hbounds, hparsed, hkept⟩ := (InBounds.new settings).afterCalls calls
  have hle : e.cached ≤ max settings.capacity 1 := by
    rw [cached_eq, ← hsettings]
    exact hbounds.le
  have hdisabled (h : settings.cacheEnabled = false) : e.cached = 0 := by
    rw [cached_eq, hbounds.disabled ((congrArg (·.cacheEnabled) hsettings).trans h)]
    rfl
  refine ⟨⟨hle, hdisabled⟩, hkept, hparsed.trans (Nat.zero_add _), ?_⟩
  intro start hstart stretch hstretch henabled texts hfits
  have hstart : start.settings = settings ∧ start.memory.cache.capacity = settings.capacity ∧
      start.memory.keptTexts = [] := by
    obtain rfl | rfl := hstart
    · exact ⟨rfl, rfl, rfl⟩
    · exact ⟨hsettings, hbounds.capacity.trans (congrArg _ hsettings), rfl⟩
  obtain ⟨hsettings, hcapacity, hnil⟩ := hstart
  have hleads := leads_afterCalls (e := start) hstretch (by rw [hsettings, henabled])
  have hreplays := hleads.replays (by rw [hcapacity, hsettings])
  rw [hnil, hsettings] at hreplays
  obtain ⟨htexts, hnodup⟩ := hreplays.eq_reverse_append trivial henabled List.nodup_nil (by
    rw [List.toFinset_nil, Finset.union_empty, List.card_toFinset]
    exact hfits)
  rw [List.append_nil] at htexts
  rw [htexts, List.nodup_reverse] at hnodup
  refine ⟨fun text htext => List.count_eq_one_of_mem hnodup htext, ?_, ?_⟩
  · rw [cached_eq, htexts, List.length_reverse, hnodup.dedup]
  · rw [Engine.parsed, hleads.parsed, length_eq_add_failures, hnodup.dedup, Nat.add_assoc]
    rfl

/-- A formula that refers to another one is computed twice, and then a text without a tree. -/
theorem cache_accounts_nested :
    let b : Grid.Workbook := ⟨[⟨"a", 1, 1, [((0, 0), { content := .formula "=TRUE" })], [], []⟩], 0⟩
    let settings : Settings := { capacity := 2 }
    let stretch : List Call :=
      [.tryEvaluate b.host "=A1" {}, .evaluate b.host "=A1" {}, .tryEvaluate b.host "=(" {}]
    let e := (new settings).afterCalls stretch
    parsedTexts ((new settings).attempts stretch) = ["=A1", "=TRUE"] ∧ e.cached = 2 ∧
      e.parsed = 2 + failures ((new settings).attempts stretch) := by
  intro b settings stretch e
  have htexts : parsedTexts ((new settings).attempts stretch) = ["=A1", "=TRUE"] := by
    decide +kernel
  have hstretch : ∀ c ∈ stretch, ∃ h, c.host? = some h ∧ h.KnowsNoNames := by
    intro c hc
    simp only [stretch, List.mem_cons, List.not_mem_nil, or_false] at hc
    obtain rfl | rfl | rfl := hc <;> exact ⟨b.host, rfl, b.host_knowsNoNames⟩
  obtain ⟨-, -, -, hspec⟩ := cache_accounts settings []
  obtain ⟨-, hcached, hparsed⟩ := hspec (new settings) (.inl rfl) stretch hstretch rfl
    (by rw [htexts]; decide)
  rw [htexts] at hcached hparsed
  refine ⟨htexts, hcached, ?_⟩
  exact hparsed

end Engine

end Spreadsheet
