import Tabular.Pattern.Basic
import Tabular.Text.Encoding

set_option autoImplicit false

namespace Tabular

def stateRoom : Nat := 32

def rangeRoom : Nat := 8

def forkRoom : Nat := 4

def roomLimit : Nat := 10 * 1024 * 1024

def groupFirst {α : Type} [DecidableEq α] (runs : List (List α)) : List (α × List (List α)) :=
  runs.foldr step []
where
  step (run : List α) (groups : List (α × List (List α))) : List (α × List (List α)) :=
    match run, groups with
    | [], groups => groups
    | r :: run, (q, tails) :: groups =>
      if r = q then (q, (run :: tails)) :: groups else (r, [run]) :: (q, tails) :: groups
    | r :: run, [] => [(r, [run])]

namespace CharSet

def byteRuns (s : CharSet) : List (List (Nat × Nat)) :=
  s.ranges.flatMap fun (a, b) => Text.byteRanges a b

/-- The states of the tree of runs, each given by the runs that lead from it to the end; `depth`
    bounds the length of a run. -/
def treeStates : Nat → List (List (Nat × Nat)) → List (List (List (Nat × Nat)))
  | 0, _ => []
  | depth + 1, runs =>
    match groupFirst runs with
    | [] => []
    | groups => runs :: groups.flatMap fun g => treeStates depth g.2

/-- Forward, states from which the same runs lead to the end are one. -/
def forwardRoom (s : CharSet) : Nat :=
  let states := (treeStates 4 s.byteRuns).eraseDups
  states.foldl (fun n runs => n + stateRoom + rangeRoom * (groupFirst runs).length) stateRoom

def sharedLength : List (Nat × Nat) → List (Nat × Nat) → Nat
  | r :: rs, q :: qs => if r = q then sharedLength rs qs + 1 else 0
  | _, _ => 0

/-- Backward, runs share the states of their common beginning, and every run is a fork. -/
def backwardRoom (s : CharSet) : Nat :=
  (s.byteRuns.foldl addRun (2 * stateRoom, [])).1
where
  addRun (acc : Nat × List (Nat × Nat)) (run : List (Nat × Nat)) : Nat × List (Nat × Nat) :=
    (acc.1 + forkRoom + stateRoom * (run.length - sharedLength acc.2 run), run)

def room (s : CharSet) (backward : Bool) : Nat :=
  if s.isAscii then 2 * stateRoom + rangeRoom * s.ranges.length
  else if backward then s.backwardRoom
  else s.forwardRoom

end CharSet

/-- The bytes of a text, in the order in which they are read. -/
def textBytes (backward : Bool) (cs : List Char) : List Nat :=
  let bytes := cs.flatMap Text.bytes
  if backward then bytes.reverse else bytes

/-- Words that go on, parted by words that end here. An end counts unless it repeats one that no
    word has gone past. The last part is the one after the last end. -/
def wordChunks (words : List (List Nat)) : List (List (List Nat)) :=
  let (closed, opened, _) := words.foldl step ([], [], false)
  (opened.reverse :: closed).reverse
where
  step : List (List (List Nat)) × List (List Nat) × Bool → List Nat →
      List (List (List Nat)) × List (List Nat) × Bool
    | (closed, opened, passed), [] =>
      if !passed && !closed.isEmpty then (closed, opened, passed)
      else (opened.reverse :: closed, [], passed)
    | (closed, opened, _), word => (closed, word :: opened, true)

def wordsAfter (b : Nat) (words : List (List Nat)) : List (List Nat) :=
  words.filterMap fun word =>
    match word with
    | c :: rest => if b = c then some rest else none
    | [] => none

/-- The room of the tree of words; `length` bounds their length. A state at which all words have
    ended takes none. -/
def wordsRoom : Nat → List (List Nat) → Nat
  | 0, _ => 0
  | length + 1, words =>
    let chunks := wordChunks words
    let full := chunks.filter fun chunk => !chunk.isEmpty
    if full.isEmpty then 0
    else
      let branching := full.map fun chunk =>
        let firsts := (chunk.filterMap List.head?).eraseDups
        let own := if firsts.length = 1 then stateRoom else stateRoom + rangeRoom * firsts.length
        firsts.foldl (fun n b => n + wordsRoom length (wordsAfter b chunk)) own
      branching.foldl (· + ·) (stateRoom + forkRoom * (full.length + chunks.length - 1))

namespace Pattern

def texts? : Pattern → Option (List (List Char))
  | .text cs => some [cs]
  | .alt p q => (texts? p).bind fun ws => (texts? q).map (ws ++ ·)
  | _ => none

def textsRoom (backward : Bool) (texts : List (List Char)) : Nat :=
  let words := texts.map (textBytes backward)
  stateRoom + wordsRoom (words.foldl (fun n w => max n w.length) 0 + 1) words

def manyRoom (n : Nat) (nullable : Bool) (least : Nat) (most : Option Nat) : Nat :=
  match most with
  | none =>
    if 0 < least then least * n + stateRoom + 2 * forkRoom
    else if nullable then n + 3 * stateRoom + 4 * forkRoom
    else n + stateRoom + 2 * forkRoom
  | some most =>
    if least = most then most * n
    else if least = 0 ∧ most = 1 then n + 2 * stateRoom + 2 * forkRoom
    else
      (if least = 0 then stateRoom else least * n) + stateRoom +
        (most - least) * (n + stateRoom + 2 * forkRoom)

/-- The room of a pattern, by itself or as a further branch of an alternation. -/
def room (backward : Bool) : Pattern → Bool → Nat
  | .alt p q, inner =>
    let n := p.room backward false + forkRoom + q.room backward true
    if inner then n
    else
      match texts? (.alt p q) with
      | some texts => textsRoom backward texts
      | none => 2 * stateRoom + n
  | .seq p q, inner => p.room backward false + q.room backward false + branch inner
  | .group _ p, inner =>
    p.room backward false + (if backward then 0 else 2 * stateRoom) + branch inner
  | .many p least most _, inner =>
    manyRoom (p.room backward false) (!p.shortest?.any (0 < ·)) least most + branch inner
  | .set s, inner => s.room backward + branch inner
  | .text cs, inner => stateRoom * cs.foldl (fun n c => n + Text.byteCount c) 0 + branch inner
  | .anchor _, inner => stateRoom + branch inner
  | .empty, inner => stateRoom + branch inner
where
  branch (inner : Bool) : Nat := if inner then forkRoom else 0

/-- The room of the whole automaton. One that can begin anywhere has a loop in front. -/
def totalRoom (p : Pattern) (backward : Bool) : Nat :=
  let anchored := if backward then p.endsWith .finish else p.beginsWith .start
  let lead := if anchored then stateRoom else 3 * stateRoom + rangeRoom + 2 * forkRoom
  lead + (if backward then 0 else 2 * stateRoom) + p.room backward false + stateRoom

def fits (p : Pattern) : Bool := p.totalRoom true ≤ roomLimit && p.totalRoom false ≤ roomLimit

end Pattern
end Tabular
