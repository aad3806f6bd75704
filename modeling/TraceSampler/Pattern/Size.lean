import TraceSampler.Pattern.Bytes
import TraceSampler.Pattern.Expression

/-!
# The size of patterns

A pattern is matched by two automata over bytes, one that reads a text forwards and one that reads it
backwards, and a pattern is refused when one of them would take more than ten mebibytes. Here the
automata are not built but measured, part by part in the order in which their states are numbered.
Repetitions count as often as the item is repeated. The size of a set depends on how many of its
states are shared, and states are found again only while their slot in a table of fixed size is not
taken by another one.
-/

namespace TraceSampler.Pattern

open Unicode

/-- The two ways to read a text. -/
inductive Direction
  | forward
  | backward
  deriving DecidableEq, Repr

/-- How much there is of an automaton: its states, and the bytes that it takes beside them. -/
structure Automaton where
  states : Nat := 0
  extra : Nat := 0
  deriving DecidableEq, Repr

namespace Automaton

def stateBytes : Nat := 32

/-- What one more way on takes, in a state that branches. -/
def branchBytes : Nat := 4

/-- What one more way on takes, in a state that chooses by the next byte. -/
def transitionBytes : Nat := 8

/-- The most bytes that an automaton may take. -/
def limit : Nat := 10 * 1024 * 1024

def bytes (a : Automaton) : Nat := a.states * stateBytes + a.extra

/-- The automaton with more states, unless it becomes too large. -/
def add (a : Automaton) (states extra : Nat) : Option Automaton :=
  let grown : Automaton := ⟨a.states + states, a.extra + extra⟩
  if grown.bytes ≤ limit then some grown else none

/-- Goes on from the end of a part. An end that branches takes one more branch. -/
def join (a : Automaton) (branching : Bool) : Option Automaton :=
  if branching then a.add 0 branchBytes else some a

end Automaton

/-- Adds a part to an automaton, and tells whether the part ends in a state that branches. -/
abbrev Growth := Automaton → Option (Bool × Automaton)

/-- States without any way on of their own. -/
def Growth.plain (states : Nat) : Growth := fun a => (a.add states 0).map fun a => (false, a)

/-- So many copies of a part one after the other, behind a part that ends as `previous` says. -/
def Growth.copies (part : Growth) : Nat → Bool → Growth
  | 0, previous, a => some (previous, a)
  | n + 1, previous, a => do
    let (branching, a) ← part a
    let a ← a.join previous
    copies part n branching a

/-- Exactly so many copies of a part. -/
def Growth.exactly (part : Growth) (n : Nat) : Growth :=
  if n = 0 then .plain 1 else part.copies n false

/-- Up to so many copies of a part, each of which may be the last. -/
def Growth.optional (part : Growth) : Nat → Bool → Growth
  | 0, previous, a => some (previous, a)
  | n + 1, previous, a => do
    let a ← a.add 1 0
    let (branching, a) ← part a
    let a ← a.join previous
    let a ← a.add 0 (2 * Automaton.branchBytes)
    optional part n branching a

/-! ## Sets -/

/-- A table of states that can be used again, each with what describes it. -/
structure StateTable where
  slots : Array (Option (List Nat × Nat))

/-- A table of so many slots. -/
def StateTable.ofSize (n : Nat) : StateTable := ⟨Array.replicate n none⟩

/-- The slot of a description: its numbers are mixed in one by one. -/
def StateTable.slot (t : StateTable) (key : List Nat) : Nat :=
  let mixed := key.foldl (fun (h : UInt64) n => (h ^^^ n.toUInt64) * 1099511628211)
    14695981039346656037
  mixed.toNat % t.slots.size

/-- A part of an automaton in which states are shared. -/
structure Sharing where
  table : StateTable
  automaton : Automaton

namespace Sharing

/-- Adds a state, which takes the slot from the state that had it. -/
def record (s : Sharing) (slot : Nat) (key : List Nat) (extra : Nat) : Option (Nat × Sharing) :=
  let id := s.automaton.states
  (s.automaton.add 1 extra).map fun a =>
    (id, ⟨⟨s.table.slots.setIfInBounds slot (some (key, id))⟩, a⟩)

/-- The state with a description: the one in the table, or a new one. -/
def state (s : Sharing) (key : List Nat) (extra : Nat) : Option (Nat × Sharing) :=
  let slot := s.table.slot key
  match s.table.slots[slot]? with
  | some (some (known, id)) => if known == key then some (id, s) else s.record slot key extra
  | _ => s.record slot key extra

end Sharing

/-- A state that more transitions may still be added to: the bytes and the goals of those it has, and
the bytes of one whose goal is not known yet. -/
structure OpenState where
  transitions : List Nat
  last : Option ByteRange

/-- The description of the state once its last transition leads to `goal`. -/
def OpenState.close (o : OpenState) (goal : Nat) : List Nat :=
  match o.last with
  | some r => o.transitions ++ [r.first, r.last, goal]
  | none => o.transitions

/-- Closes a chain of open states from its end, which leads to `target`; gives the first one. -/
def closeChain (target : Nat) : List OpenState → Sharing → Option (Nat × Sharing)
  | [], s => some (target, s)
  | o :: rest, s => do
    let (goal, s) ← closeChain target rest s
    let key := o.close goal
    s.state key (key.length / 3 * Automaton.transitionBytes)

/-- Adds a sequence of bytes to a chain of open states. The states that it does not start with are
closed first. -/
def extendChain (target : Nat) :
    List OpenState → List ByteRange → Sharing → Option (List OpenState × Sharing)
  | o :: rest, r :: bytes, s =>
    if o.last = some r then
      (extendChain target rest bytes s).map fun (chain, s) => (o :: chain, s)
    else do
      let (goal, s) ← closeChain target rest s
      some (⟨o.close goal, some r⟩ :: bytes.map fun b => ⟨[], some b⟩, s)
  | chain, _, s => some (chain, s)

def extendChainAll (target : Nat) :
    List (List ByteRange) → List OpenState → Sharing → Option (List OpenState × Sharing)
  | [], chain, s => some (chain, s)
  | bytes :: rest, chain, s => do
    let (chain, s) ← extendChain target chain bytes s
    extendChainAll target rest chain s

/-- A set that is read forwards: what sequences have in common at their ends is shared. -/
def growSetForward (sequences : List (List ByteRange)) : Growth := fun a => do
  let target := a.states
  let a ← a.add 1 0
  let (chain, s) ← extendChainAll target sequences [⟨[], none⟩] ⟨.ofSize 10000, a⟩
  let (_, s) ← closeChain target chain s
  some (false, s.automaton)

/-- The states for the bytes of one sequence, each leading to the one before. -/
def backwardChain (goal : Nat) : List ByteRange → Sharing → Option Sharing
  | [], s => some s
  | r :: bytes, s => do
    let (id, s) ← s.state [goal, r.first, r.last] 0
    backwardChain id bytes s

/-- A branch for every sequence of bytes. -/
def backwardChains (goal : Nat) : List (List ByteRange) → Sharing → Option Sharing
  | [], s => some s
  | bytes :: rest, s => do
    let ⟨table, a⟩ ← backwardChain goal bytes s
    let a ← a.join true
    backwardChains goal rest ⟨table, a⟩

/-- A set that is read backwards: what sequences have in common at their starts is shared. -/
def growSetBackward (sequences : List (List ByteRange)) : Growth := fun a => do
  let target := a.states + 1
  let a ← a.add 2 0
  let s ← backwardChains target sequences ⟨.ofSize 1000, a⟩
  some (false, s.automaton)

/-- A set of ASCII characters is one state that chooses by the next byte, and an end. -/
def growSet (d : Direction) (s : RangeSet) : Growth :=
  if s.ranges.all fun r => r.last < 0x80 then fun a =>
    (a.add 2 (s.ranges.size * Automaton.transitionBytes)).map fun a => (false, a)
  else
    match d with
    | .forward => growSetForward (byteSequences s)
    | .backward => growSetBackward (byteSequences s)

/-! ## Choices between texts -/

/-- A text as bytes, in the order in which they are read. -/
def bytesToRead (d : Direction) (cs : List Char) : List UInt8 :=
  let bytes := cs.flatMap String.utf8EncodeChar
  match d with
  | .forward => bytes
  | .backward => bytes.reverse

/-- Cuts words wherever one ends here, so that words before and after it stay apart. `any` tells
whether some word went on, and `cut` whether one ended. -/
def chunksFrom (current : List (List UInt8)) (any cut : Bool) :
    List (List UInt8) → List (List (List UInt8))
  | [] => [current.reverse]
  | [] :: rest =>
    if cut && !any then chunksFrom current any cut rest
    else current.reverse :: chunksFrom [] any true rest
  | word :: rest => chunksFrom (word :: current) true cut rest

/-- The words that start with each byte, without it. -/
def tailsByHead (words : List (List UInt8)) : List (List (List UInt8)) :=
  let heads := (words.filterMap List.head?).eraseDups
  heads.map fun b => (words.filter fun w => w.head? == some b).map (List.drop 1)

/-- What the tree of some words takes: its states, and the bytes beside them. Behind a byte after
which all words end there is no state. -/
def treeSize : Nat → List (List UInt8) → Automaton
  | 0, _ => {}
  | depth + 1, words =>
    let chunks := chunksFrom [] false false words
    let sizes := chunks.map fun chunk =>
      let children := tailsByHead chunk
      let below := (children.filter fun tails => tails.any fun w => !w.isEmpty).map (treeSize depth)
      let ways := children.length
      let here : Automaton :=
        ⟨if ways = 0 then 0 else 1, if ways < 2 then 0 else ways * Automaton.transitionBytes⟩
      below.foldl (fun a b => ⟨a.states + b.states, a.extra + b.extra⟩) here
    let branches := (chunks.filter fun chunk => !chunk.isEmpty).length + chunks.length - 1
    sizes.foldl (fun a b => ⟨a.states + b.states, a.extra + b.extra⟩)
      ⟨1, branches * Automaton.branchBytes⟩

/-- A choice between texts: their tree, and one end for all. -/
def growTexts (d : Direction) (texts : List (List Char)) : Growth := fun a =>
  let words := texts.map (bytesToRead d)
  let depth := words.foldl (fun n w => max n w.length) 0
  let tree := treeSize depth words
  (a.add (tree.states + 1) tree.extra).map fun a => (false, a)

/-! ## Expressions -/

namespace Expression

def text? : Expression → Option (List Char)
  | .text cs => some cs
  | _ => none

/-- A repetition, given how one item grows and whether it always takes characters. -/
def growRepeated (item : Growth) (takes : Bool) (least : Nat) (most : Option Nat) : Growth :=
  fun a => do
    match least, most with
    | 0, some 1 =>
      let a ← a.add 1 0
      let (branching, a) ← item a
      let a ← a.add 1 (2 * Automaton.branchBytes)
      let a ← a.join branching
      some (false, a)
    | 0, none =>
      if takes then
        let a ← a.add 1 Automaton.branchBytes
        let (branching, a) ← item a
        let a ← a.join branching
        some (true, a)
      else
        let (branching, a) ← item a
        let a ← a.join branching
        let a ← a.add 3 (4 * Automaton.branchBytes)
        some (false, a)
    | n, none =>
      let (branching, a) ← item.copies n false a
      let a ← a.join branching
      let a ← a.add 1 Automaton.branchBytes
      some (true, a)
    | n, some m =>
      let (branching, a) ← item.exactly n a
      if n = m then some (branching, a)
      else
        let a ← a.add 1 0
        let (branching, a) ← item.optional (m - n) branching a
        let a ← a.join branching
        some (false, a)

mutual

/-- Adds the part of an automaton that reads the expression. -/
def grow (d : Direction) : Expression → Growth
  | .empty | .look _ => .plain 1
  | .text cs => .plain (textLength cs)
  | .set s => growSet d s
  | .sequence items => growSequence d items false
  | .choice items =>
    match items.mapM text? with
    | some texts => growTexts d texts
    | none => fun a => (growChoice d 0 items a).map fun a => (false, a)
  | .repeated item least most _ =>
    growRepeated (fun a => item.grow d a) ((item.leastLength.getD 0) > 0) least most
  | .group item _ =>
    match d with
    | .forward => fun a => do
      let a ← a.add 1 0
      let (branching, a) ← item.grow d a
      let a ← a.add 1 0
      let a ← a.join branching
      some (false, a)
    | .backward => fun a => item.grow d a

def growSequence (d : Direction) : List Expression → Bool → Growth
  | [], previous, a => some (previous, a)
  | e :: r, previous, a =>
    match d with
    | .forward => do
      let (branching, a) ← e.grow d a
      let a ← a.join previous
      growSequence d r branching a
    | .backward => do
      let (last, a) ← growSequence d r previous a
      let (branching, a) ← e.grow d a
      let a ← a.join last
      some (branching, a)

/-- The branches of a choice from the one with the given number on, each with a way in and a way out.
The state that chooses and the one behind the choice are numbered after the second branch. -/
def growChoice (d : Direction) (number : Nat) : List Expression → Automaton → Option Automaton
  | [], a => some a
  | e :: r, a => do
    let (branching, a) ← e.grow d a
    let a ← a.add (if number = 1 then 2 else 0) Automaton.branchBytes
    let a ← a.join branching
    growChoice d (number + 1) r a

end

/-- Every match starts where the automaton has to start. -/
def isAnchored (d : Direction) (e : Expression) : Bool :=
  match d with
  | .forward => e.startsWith .textStart
  | .backward => e.endsWith .textEnd

/-- The automaton for an expression. Unless the expression is anchored, a loop over all bytes stands
before it; what is read forwards is remembered as a group of its own. -/
def automaton? (d : Direction) (e : Expression) : Option Automaton := do
  let anchored := e.isAnchored d
  let a : Automaton := {}
  let a ← if anchored then a.add 1 0 else a.add 3 (Automaton.transitionBytes + Automaton.branchBytes)
  let whole : Expression := match d with
    | .forward => .group e 0
    | .backward => e
  let (branching, a) ← whole.grow d a
  let a ← a.add 1 0
  let a ← a.join branching
  a.join !anchored

/-- Both automata stay within the limit. -/
def fits (e : Expression) : Bool :=
  (e.automaton? .forward).isSome && (e.automaton? .backward).isSome

end Expression

end TraceSampler.Pattern
