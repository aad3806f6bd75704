import TraceSampler.Pattern.Expression

/-!
# What expressions match

An expression relates positions of a text: where a match may start and where it may end. `ends`
computes the relation for many starts at once. A set of positions is a list of booleans, one for
each place between two characters and for the two ends, so a character moves every position one
place on and an assertion only strikes positions out.
-/

namespace TraceSampler.Pattern

/-- What stands at the two sides of a position; nothing at an end of the text. -/
structure Place where
  before : Option Char
  after : Option Char

def Look.holds (l : Look) (p : Place) : Bool :=
  let word := fun (ascii : Bool) (c : Option Char) => (c.map (CharSet.word ascii).contains).getD false
  match l with
  | .textStart => p.before.isNone
  | .textEnd => p.after.isNone
  | .lineStart => p.before.isNone || p.before == some '\n'
  | .lineEnd => p.after.isNone || p.after == some '\n'
  | .anyLineStart =>
    p.before.isNone || p.before == some '\n' || (p.before == some '\r' && p.after != some '\n')
  | .anyLineEnd =>
    p.after.isNone || p.after == some '\r' || (p.after == some '\n' && p.before != some '\r')
  | .wordEdge ascii => word ascii p.before != word ascii p.after
  | .wordInside ascii => word ascii p.before == word ascii p.after
  | .wordStart ascii => !word ascii p.before && word ascii p.after
  | .wordEnd ascii => word ascii p.before && !word ascii p.after
  | .notAfterWord ascii => !word ascii p.before
  | .notBeforeWord ascii => !word ascii p.after

/-- The positions of a text, the first one after `before`. -/
def placesFrom (before : Option Char) : List Char → List Place
  | [] => [⟨before, none⟩]
  | c :: r => ⟨before, some c⟩ :: placesFrom (some c) r

/-- A text with its positions. -/
structure Subject where
  text : List Char
  places : List Place

def Subject.of (text : List Char) : Subject := ⟨text, placesFrom none text⟩

/-- A set of positions: whether each one belongs to it, from left to right. -/
abbrev Positions := List Bool

namespace Positions

def union (a b : Positions) : Positions := a.zipWith (· || ·) b

def isEmpty (a : Positions) : Bool := !a.any id

/-- Nothing is in the one set that is not in the other. -/
def isSubset (a b : Positions) : Bool := (a.zipWith (fun x y => !x || y) b).all id

end Positions

/-- Positions behind a character that passes the test and starts at one of the given positions. -/
def Subject.advance (s : Subject) (test : Char → Bool) (starts : Positions) : Positions :=
  false :: starts.zipWith (fun b c => b && test c) s.text

/-- The given positions at which the assertion holds. -/
def Subject.filter (s : Subject) (l : Look) (starts : Positions) : Positions :=
  starts.zipWith (fun b p => b && l.holds p) s.places

/-- Positions behind all of the characters in turn. -/
def Subject.follow (s : Subject) : List Char → Positions → Positions
  | [], starts => starts
  | c :: r, starts =>
    if starts.isEmpty then starts else s.follow r (s.advance (· == c) starts)

/-- Adds what `step` reaches, at most `rounds` times over, until nothing new is reached. -/
def closure (step : Positions → Positions) : Nat → Positions → Positions
  | 0, reached => reached
  | rounds + 1, reached =>
    let next := step reached
    if next.isSubset reached then reached else closure step rounds (reached.union next)

/-- The positions after exactly `n` steps. Where a step leads nowhere else, so do all after it. -/
def iterate (step : Positions → Positions) : Nat → Positions → Positions
  | 0, starts => starts
  | n + 1, starts =>
    let next := step starts
    if next == starts then starts else iterate step n next

namespace Expression

mutual

/-- The ends of the matches that start at one of the given positions. -/
def ends (s : Subject) : Expression → Positions → Positions
  | .empty, starts => starts
  | .text cs, starts => s.follow cs starts
  | .set chars, starts => s.advance chars.contains starts
  | .look l, starts => s.filter l starts
  | .sequence items, starts => endsOfSequence s items starts
  | .choice items, starts => endsOfChoice s items starts
  | .repeated item least most _, starts =>
    if starts.isEmpty then starts
    else
      let first := iterate (fun p => item.ends s p) least starts
      let rounds := match most with
        | some m => min (m - least) s.places.length
        | none => s.places.length
      closure (fun p => item.ends s p) rounds first
  | .group item _, starts => item.ends s starts

def endsOfSequence (s : Subject) : List Expression → Positions → Positions
  | [], starts => starts
  | e :: r, starts => endsOfSequence s r (e.ends s starts)

def endsOfChoice (s : Subject) : List Expression → Positions → Positions
  | [], starts => starts.map fun _ => false
  | e :: r, starts => (e.ends s starts).union (endsOfChoice s r starts)

end

/-! ## Repetitions of repetitions -/

/-- The item so many times in a row, where a repetition without limit of what may stand once is one
repetition: only the least number of items in it counts. -/
def repeatFlat (item : Expression) (least : Nat) (most : Option Nat) (greedy : Bool) : Expression :=
  match item with
  | .repeated inner least' most' _ =>
    if least' ≤ 1 && (most.isNone || most'.isNone) then
      .repeated inner (least' * least) none greedy
    else .repeated item least most greedy
  | item => .repeated item least most greedy

mutual

/-- An expression that matches the same, without groups and without repetitions in repetitions where
one will do. -/
def flattened : Expression → Expression
  | .group item _ => item.flattened
  | .repeated item least most greedy => repeatFlat item.flattened least most greedy
  | .sequence items => .sequence (flattenedAll items)
  | .choice items => .choice (flattenedAll items)
  | e => e

def flattenedAll : List Expression → List Expression
  | [] => []
  | e :: r => e.flattened :: flattenedAll r

end

/-- Some part of the text matches. -/
def isMatch (e : Expression) (text : List Char) : Bool :=
  let s := Subject.of text
  !(e.flattened.ends s (s.places.map fun _ => true)).isEmpty

end Expression

end TraceSampler.Pattern
