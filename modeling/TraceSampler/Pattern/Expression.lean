import TraceSampler.Pattern.CharSet

/-!
# Regular expressions

An expression says what a part of a text may be. The functions that put expressions together keep
them in a simple form, in which no sequence stands directly in a sequence, no choice directly in a
choice, texts that follow each other are one text, a choice between characters is a set, and a set of
one character is a text. The simple form matches what the parts say, and its size is what counts
against the limit on patterns.
-/

namespace TraceSampler.Pattern

open Unicode

/-- A condition on the characters at the two sides of a position. -/
inductive Look
  | textStart
  | textEnd
  | lineStart
  | lineEnd
  /-- Lines may end in a carriage return, a line feed, or both. -/
  | anyLineStart
  | anyLineEnd
  | wordEdge (ascii : Bool)
  | wordInside (ascii : Bool)
  | wordStart (ascii : Bool)
  | wordEnd (ascii : Bool)
  | notAfterWord (ascii : Bool)
  | notBeforeWord (ascii : Bool)
  deriving DecidableEq, Repr

/-- The condition asks which characters of all scripts are in words. -/
def Look.asksForWords : Look → Bool
  | .wordEdge ascii | .wordInside ascii | .wordStart ascii | .wordEnd ascii
  | .notAfterWord ascii | .notBeforeWord ascii => !ascii
  | _ => false

inductive Expression
  | empty
  /-- These characters one after the other. -/
  | text (cs : List Char)
  /-- One character of a set; an empty set never matches. -/
  | set (s : RangeSet)
  | look (l : Look)
  | sequence (items : List Expression)
  | choice (items : List Expression)
  /-- The item so many times in a row; `greedy` tells whether more of them come first. -/
  | repeated (item : Expression) (least : Nat) (most : Option Nat) (greedy : Bool)
  /-- A part that is remembered under a number. -/
  | group (item : Expression) (number : Nat)

namespace Expression

/-! ## Comparison and measures -/

mutual

/-- The two expressions are written alike. -/
def same : Expression → Expression → Bool
  | .empty, .empty => true
  | .text a, .text b => a == b
  | .set a, .set b => a == b
  | .look a, .look b => a == b
  | .sequence a, .sequence b => sameAll a b
  | .choice a, .choice b => sameAll a b
  | .repeated a least most greedy, .repeated b least' most' greedy' =>
    least == least' && most == most' && greedy == greedy' && same a b
  | .group a n, .group b m => n == m && same a b
  | _, _ => false

def sameAll : List Expression → List Expression → Bool
  | [], [] => true
  | a :: r, b :: t => same a b && sameAll r t
  | _, _ => false

end

/-- How many bytes the characters take. -/
def textLength (cs : List Char) : Nat := cs.foldl (fun n c => n + c.utf8Size) 0

def codePointLength (n : Nat) : Nat := (Char.ofNat n).utf8Size

/-- The sum, if both numbers are there. -/
def both (a b : Option Nat) : Option Nat := a.bind fun x => b.map (x + ·)

mutual

/-- The fewest bytes that a match takes; none if nothing matches. -/
def leastLength : Expression → Option Nat
  | .empty | .look _ => some 0
  | .text cs => some (textLength cs)
  | .set s => s.ranges[0]?.map fun r => codePointLength r.first
  | .sequence items => leastOfSequence items
  | .choice items => leastOfChoice items
  | .repeated item least _ _ => item.leastLength.map (· * least)
  | .group item _ => item.leastLength

def leastOfSequence : List Expression → Option Nat
  | [] => some 0
  | e :: r => both e.leastLength (leastOfSequence r)

/-- A branch that never matches makes the length unknown. -/
def leastOfChoice : List Expression → Option Nat
  | [] => none
  | [e] => e.leastLength
  | e :: r => e.leastLength.bind fun a => (leastOfChoice r).map (min a)

end

mutual

/-- The most bytes that a match takes; none if there is no limit or nothing matches. -/
def mostLength : Expression → Option Nat
  | .empty | .look _ => some 0
  | .text cs => some (textLength cs)
  | .set s => s.ranges.back?.map fun r => codePointLength r.last
  | .sequence items => mostOfSequence items
  | .choice items => mostOfChoice items
  | .repeated item _ most _ => most.bind fun m => item.mostLength.map (· * m)
  | .group item _ => item.mostLength

def mostOfSequence : List Expression → Option Nat
  | [] => some 0
  | e :: r => both e.mostLength (mostOfSequence r)

def mostOfChoice : List Expression → Option Nat
  | [] => none
  | [e] => e.mostLength
  | e :: r => e.mostLength.bind fun a => (mostOfChoice r).map (max a)

end

mutual

/-- How many nodes the expression has. -/
def nodes : Expression → Nat
  | .sequence items | .choice items => nodesOfAll items + 1
  | .repeated item _ _ _ | .group item _ => item.nodes + 1
  | _ => 1

def nodesOfAll : List Expression → Nat
  | [] => 0
  | e :: r => e.nodes + nodesOfAll r

end

mutual

/-- Some condition in the expression is of the given kind. -/
def anyLook (p : Look → Bool) : Expression → Bool
  | .look l => p l
  | .sequence items | .choice items => anyLookOfAll p items
  | .repeated item _ _ _ | .group item _ => item.anyLook p
  | _ => false

def anyLookOfAll (p : Look → Bool) : List Expression → Bool
  | [] => false
  | e :: r => e.anyLook p || anyLookOfAll p r

end

/-! ## Anchors -/

mutual

/-- Every match starts with this condition. -/
def startsWith (l : Look) : Expression → Bool
  | .look k => k == l
  | .sequence items => sequenceStartsWith l items
  | .choice items => choiceStartsWith l items
  | .repeated item least _ _ => 0 < least && item.startsWith l
  | .group item _ => item.startsWith l
  | _ => false

def sequenceStartsWith (l : Look) : List Expression → Bool
  | [] => false
  | e :: r => e.startsWith l || (e.mostLength == some 0 && sequenceStartsWith l r)

def choiceStartsWith (l : Look) : List Expression → Bool
  | [] => true
  | e :: r => e.startsWith l && choiceStartsWith l r

end

mutual

/-- Every match ends with this condition. -/
def endsWith (l : Look) : Expression → Bool
  | .look k => k == l
  | .sequence items => sequenceEndsWith l items
  | .choice items => choiceEndsWith l items
  | .repeated item least _ _ => 0 < least && item.endsWith l
  | .group item _ => item.endsWith l
  | _ => false

/-- The condition stands behind the last item that takes characters. -/
def sequenceEndsWith (l : Look) : List Expression → Bool
  | [] => false
  | e :: r => sequenceEndsWith l r || (mostOfSequence r == some 0 && e.endsWith l)

def choiceEndsWith (l : Look) : List Expression → Bool
  | [] => true
  | e :: r => e.endsWith l && choiceEndsWith l r

end

/-! ## Putting expressions together -/

/-- One character of a set. -/
def ofSet (s : RangeSet) : Expression :=
  match s.single? with
  | some c => .text [c]
  | none => .set s

/-- The items of a sequence; any other expression is the only one. -/
def items : Expression → List Expression
  | .sequence es => es
  | e => [e]

/-- Puts an expression in front of the items of a sequence. -/
def prepend (e : Expression) (rest : List Expression) : List Expression :=
  match e, rest with
  | .empty, rest => rest
  | .text a, .text b :: rest => .text (a ++ b) :: rest
  | e, rest => e :: rest

/-- The expressions one after the other. -/
def ofSequence (es : List Expression) : Expression :=
  match (es.flatMap items).foldr prepend [] with
  | [] => .empty
  | [e] => e
  | es => .sequence es

/-- The branches of a choice; any other expression is the only one. -/
def branches : Expression → List Expression
  | .choice es => es
  | e => [e]

def character? : Expression → Option Char
  | .text [c] => some c
  | _ => none

def set? : Expression → Option RangeSet
  | .set s => some s
  | _ => none

/-- The choice as one set, if its branches are all characters or all sets. -/
def unionOf? (es : List Expression) : Option RangeSet :=
  match es.mapM character? with
  | some cs => some (.ofPoints (cs.map Char.toNat))
  | none => (es.mapM set?).map RangeSet.unions

/-- How many expressions the two lists have in common at their start. -/
def commonLength : List Expression → List Expression → Nat
  | a :: r, b :: t => if a.same b then commonLength r t + 1 else 0
  | _, _ => 0

/-- How many items all of the branches start with, if all are sequences. -/
def sharedStart : List Expression → Nat
  | .sequence first :: rest =>
    rest.foldl (fun n e =>
      match e with
      | .sequence items => min n (commonLength first items)
      | _ => 0) first.length
  | _ => 0

/-- A choice whose branches start alike is a sequence that ends in a choice, in at most `fuel` steps
of this kind. -/
def ofBranches : Nat → List Expression → Expression
  | 0, es => .choice es
  | fuel + 1, es =>
    match es.flatMap branches with
    | [] => .set .empty
    | [e] => e
    | first :: rest =>
      let es := first :: rest
      match unionOf? es with
      | some s => ofSet s
      | none =>
        match sharedStart es with
        | 0 => .choice es
        | n =>
          let tails := es.map fun e => ofSequence (e.items.drop n)
          ofSequence (first.items.take n ++ [ofBranches fuel tails])

/-- One of the expressions. -/
def ofChoice (es : List Expression) : Expression := ofBranches (nodesOfAll es + 1) es

/-- The item so many times in a row. What takes no characters is not repeated. -/
def ofRepetition (item : Expression) (least : Nat) (most : Option Nat) (greedy : Bool) :
    Expression :=
  let (least, most) :=
    if item.mostLength = some 0 then (min least 1, some (min (most.getD 1) 1)) else (least, most)
  if most = some 0 then .empty
  else if least = 1 && most = some 1 then item
  else .repeated item least most greedy

end Expression

end TraceSampler.Pattern
