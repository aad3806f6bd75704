import TraceSampler.Pattern.Expression
import TraceSampler.Text.Integer

/-!
# Reading patterns

The syntax of patterns: literals, classes, groups, alternatives, repetitions, assertions and the
flags that change how the text after them is read. A pattern that does not follow the syntax, or
asks for what a matcher of finite memory over characters cannot do, is refused.

Reading is a walk over the characters with a stack of the groups that are still open. Every step
takes at least one character, so the length of the pattern bounds the number of steps.
-/

namespace TraceSampler.Pattern

open Unicode

/-- The switches that can be set within a pattern. -/
structure Flags where
  ignoreCase : Bool := false
  multiLine : Bool := false
  dotAll : Bool := false
  unicode : Bool := true
  /-- Lines may also end in a carriage return. -/
  anyLineEnd : Bool := false
  /-- Blank characters and comments in the pattern mean nothing. -/
  spaced : Bool := false
  /-- Repetitions look for few items first, and for many where a question mark follows. -/
  swapGreed : Bool := false
  deriving Repr

/-- The switches by their letters. -/
inductive Flag
  | ignoreCase
  | multiLine
  | dotAll
  | swapGreed
  | unicode
  | anyLineEnd
  | spaced
  deriving DecidableEq, Repr

def Flag.ofLetter? (c : Char) : Option Flag :=
  match c with
  | 'i' => some .ignoreCase
  | 'm' => some .multiLine
  | 's' => some .dotAll
  | 'U' => some .swapGreed
  | 'u' => some .unicode
  | 'R' => some .anyLineEnd
  | 'x' => some .spaced
  | _ => none

def Flags.set (f : Flags) (flag : Flag) (on : Bool) : Flags :=
  match flag with
  | .ignoreCase => { f with ignoreCase := on }
  | .multiLine => { f with multiLine := on }
  | .dotAll => { f with dotAll := on }
  | .swapGreed => { f with swapGreed := on }
  | .unicode => { f with unicode := on }
  | .anyLineEnd => { f with anyLineEnd := on }
  | .spaced => { f with spaced := on }

/-! ## Blank characters and comments -/

/-- What stands behind blank characters and comments. -/
def skipSpacing (inComment : Bool) : List Char → List Char
  | [] => []
  | c :: r =>
    if inComment then skipSpacing (c != '\n') r
    else if c == '#' then skipSpacing true r
    else if Text.isBlank c then skipSpacing false r
    else c :: r

/-- The pattern from its next meaningful character on. -/
def Flags.skip (f : Flags) (s : List Char) : List Char :=
  if f.spaced then skipSpacing false s else s

/-- The set in either case of letters, if case is ignored. -/
def Flags.closed (f : Flags) (s : RangeSet) : RangeSet :=
  if f.ignoreCase then CharSet.caseClosed (!f.unicode) s else s

/-! ## Leaves -/

/-- What an escape or a single character stands for. -/
inductive Leaf
  /-- `byte` tells that the character was named by its two hexadecimal digits. -/
  | literal (c : Char) (byte : Bool)
  | look (l : Look)
  | set (s : RangeSet)

/-- The characters that have a meaning of their own and lose it behind a backslash. -/
def isMeta (c : Char) : Bool := "\\.+*?()|[]\x7b\x7d^$#&-~".toList.contains c

/-- The characters that a backslash may precede without changing them. -/
def isEscapable (c : Char) : Bool :=
  isMeta c || (c.toNat < 0x80 && !c.isAlphanum && c != '<' && c != '>')

def isScalar (n : Nat) : Bool := n < 0xD800 || (0xDFFF < n && n ≤ 0x10FFFF)

/-- Hexadecimal digits, so many of them, with spacing allowed after each. -/
def readHexDigits? (f : Flags) : Nat → Nat → List Char → Option (Nat × List Char)
  | 0, acc, s => some (acc, s)
  | n + 1, acc, s =>
    match s with
    | c :: r =>
      match Text.Hex.value? c with
      | some v => readHexDigits? f n (acc * 16 + v) (f.skip r)
      | none => none
    | [] => none

/-- The text up to a closing brace, without spacing, and what stands behind the brace. -/
def readBraced? (f : Flags) : Nat → List Char → Option (List Char × List Char)
  | 0, _ => none
  | fuel + 1, s =>
    match f.skip s with
    | [] => none
    | c :: r =>
      if c == '\x7d' then some ([], r)
      else (readBraced? f fuel r).map fun (name, rest) => (c :: name, rest)

/-- A character named by its code point: `width` digits, or any number of them in braces. -/
def readHex? (f : Flags) (width : Nat) (s : List Char) : Option (Char × List Char) :=
  match f.skip s with
  | '\x7b' :: r =>
    match readBraced? f (r.length + 1) r with
    | some (digits, rest) =>
      match Text.Hex.read? digits with
      | some n => if isScalar n then some (Char.ofNat n, f.skip rest) else none
      | none => none
    | none => none
  | s =>
    match readHexDigits? f width 0 s with
    | some (n, rest) => if isScalar n then some (Char.ofNat n, rest) else none
    | none => none

/-- Splits a property at its first separator, if it has one: `!=` before `:` before `=`. -/
def splitProperty (name : List Char) : List Char × Option (Bool × List Char) :=
  let rec cutUnequal : List Char → Option (List Char × List Char)
    | '!' :: '=' :: r => some ([], r)
    | c :: r => (cutUnequal r).map fun (a, b) => (c :: a, b)
    | [] => none
  match cutUnequal name with
  | some (key, value) => (key, some (true, value))
  | none =>
    match Text.splitFirst? ':' name with
    | some (key, value) => (key, some (false, value))
    | none =>
      match Text.splitFirst? '=' name with
      | some (key, value) => (key, some (false, value))
      | none => (name, none)

/-- The set behind `\p`, and whether an unequal sign negates it. -/
def propertySet? (name : List Char) : Option (RangeSet × Bool) :=
  match splitProperty name with
  | (key, some (negated, value)) => (valuedSet? key value).map fun s => (s, negated)
  | (key, none) => (namedSet? key).map fun s => (s, false)

/-- A property with one letter or with a name in braces. -/
def readProperty? (f : Flags) (negated : Bool) (s : List Char) : Option (Leaf × List Char) :=
  if !f.unicode then none
  else
    let named := match f.skip s with
      | '\x7b' :: r => readBraced? f (r.length + 1) r
      | '\\' :: _ => none
      | c :: r => some ([c], f.skip r)
      | [] => none
    match named with
    | some (name, rest) =>
      (propertySet? name).map fun (set, unequal) =>
        let set := f.closed set
        (.set (if negated != unequal then set.complement else set), rest)
    | none => none

/-- The edges of words that a name in braces behind `\b` tells apart. -/
def wordEdgeNamed? (ascii : Bool) (name : List Char) : Option Look :=
  match String.ofList name with
  | "start" => some (.wordStart ascii)
  | "end" => some (.wordEnd ascii)
  | "start-half" => some (.notAfterWord ascii)
  | "end-half" => some (.notBeforeWord ascii)
  | _ => none

/-- The rest of a word edge. Braces that do not start with a letter or a hyphen are left to be
read as a repetition. -/
def readWordEdge? (f : Flags) (s : List Char) : Option (Leaf × List Char) :=
  let ascii := !f.unicode
  match s with
  | '\x7b' :: r =>
    match f.skip r with
    | [] => none
    | c :: _ =>
      if c.isAlpha || c == '-' then
        match readBraced? f (r.length + 1) r with
        | some (name, rest) => (wordEdgeNamed? ascii name).map fun l => (.look l, rest)
        | none => none
      else some (.look (.wordEdge ascii), s)
  | _ => some (.look (.wordEdge ascii), s)

/-- What stands behind a backslash. -/
def readEscape? (f : Flags) (s : List Char) : Option (Leaf × List Char) :=
  let ascii := !f.unicode
  let class? := fun (set : Bool → RangeSet) (negated : Bool) (r : List Char) =>
    if ascii && negated then none
    else some (Leaf.set (if negated then (set ascii).complement else set ascii), r)
  match s with
  | [] => none
  | c :: r =>
    match c with
    | 'x' => (readHex? f 2 r).map fun (d, rest) => (.literal d (r.head? != some '\x7b'), rest)
    | 'u' => (readHex? f 4 r).map fun (d, rest) => (.literal d false, rest)
    | 'U' => (readHex? f 8 r).map fun (d, rest) => (.literal d false, rest)
    | 'p' => readProperty? f false r
    | 'P' => readProperty? f true r
    | 'd' => class? CharSet.digits false r
    | 'D' => class? CharSet.digits true r
    | 's' => class? CharSet.blanks false r
    | 'S' => class? CharSet.blanks true r
    | 'w' => class? CharSet.word false r
    | 'W' => class? CharSet.word true r
    | 'a' => some (.literal '\x07' false, r)
    | 'f' => some (.literal '\x0c' false, r)
    | 't' => some (.literal '\t' false, r)
    | 'n' => some (.literal '\n' false, r)
    | 'r' => some (.literal '\r' false, r)
    | 'v' => some (.literal '\x0b' false, r)
    | 'A' => some (.look .textStart, r)
    | 'z' => some (.look .textEnd, r)
    | 'b' => readWordEdge? f r
    | 'B' => some (.look (.wordInside ascii), r)
    | '<' => some (.look (.wordStart ascii), r)
    | '>' => some (.look (.wordEnd ascii), r)
    | c => if isEscapable c then some (.literal c false, r) else none

/-- A literal outside the ASCII range that is named as a byte is no character. -/
def literalAllowed (f : Flags) (c : Char) (byte : Bool) : Bool :=
  f.unicode || !byte || c.toNat < 0x80

/-! ## Bracketed classes -/

inductive SetOperation
  | inter
  | diff
  | symmetricDiff

def SetOperation.apply : SetOperation → RangeSet → RangeSet → RangeSet
  | .inter => RangeSet.inter
  | .diff => RangeSet.diff
  | .symmetricDiff => RangeSet.symmetricDiff

/-- The members of a class that are read so far: their set, how many there are, and how deeply
classes are nested in them. -/
structure Members where
  set : RangeSet := .empty
  count : Nat := 0
  depth : Nat := 0

def Members.add (m : Members) (s : RangeSet) (depth : Nat) : Members :=
  { set := m.set.union s, count := m.count + 1, depth := max m.depth depth }

/-- The nesting of the members as one operand: several of them count as one level. -/
def Members.nesting (m : Members) : Nat := if m.count > 1 then m.depth + 1 else m.depth

/-- A class that is still open: its members, its sign, and the operation that waits for its right
operand. -/
structure OpenClass where
  negated : Bool
  members : Members
  pending : Option (SetOperation × RangeSet × Nat)

/-- The operand that ends here, joined with what waits for it. -/
def OpenClass.operand (f : Flags) (c : OpenClass) : RangeSet × Nat :=
  match c.pending with
  | none => (c.members.set, c.members.nesting)
  | some (op, left, depth) =>
    (op.apply (f.closed left) (f.closed c.members.set), max depth c.members.nesting + 1)

/-- The set and the nesting of a class at its closing bracket. -/
def OpenClass.close? (f : Flags) (c : OpenClass) : Option (RangeSet × Nat) :=
  if c.negated && !f.unicode then none
  else
    let (set, depth) := c.operand f
    let set := f.closed set
    some (if c.negated then set.complement else set, depth + 1)

/-- Hyphens at the start of a class stand for themselves. -/
def readHyphens (f : Flags) : Nat → Members → List Char → Members × List Char
  | 0, m, s => (m, s)
  | fuel + 1, m, s =>
    match s with
    | '-' :: r => readHyphens f fuel (m.add (.singleton '-') 0) (f.skip r)
    | s => (m, s)

/-- The start of a class, behind its opening bracket. -/
def readClassOpening (f : Flags) (s : List Char) : OpenClass × List Char :=
  let s := f.skip s
  let (negated, s) := match s with
    | '^' :: r => (true, f.skip r)
    | s => (false, s)
  let (members, s) := readHyphens f (s.length + 1) {} s
  match members.count, s with
  | 0, ']' :: r => (⟨negated, members.add (.singleton ']') 0, none⟩, f.skip r)
  | _, s => (⟨negated, members, none⟩, s)

/-- A named ASCII class, from its opening bracket on. -/
def readAsciiClass? (s : List Char) : Option (RangeSet × Bool × List Char) :=
  match s with
  | '[' :: ':' :: r =>
    let (negated, r) := match r with
      | '^' :: r => (true, r)
      | r => (false, r)
    match Text.splitFirst? ':' r with
    | some (name, ']' :: rest) =>
      (CharSet.asciiClass? (String.ofList name)).map fun set => (set, negated, rest)
    | _ => none
  | _ => none

/-- One end of a range, or a member of a class. -/
def readClassLeaf? (f : Flags) : List Char → Option (Leaf × List Char)
  | [] => none
  | '\\' :: r => readEscape? f r
  | c :: r => some (.literal c false, r)

/-- A class in the ASCII mode holds ASCII characters only. -/
def classLiteralAllowed (f : Flags) (c : Char) : Bool := f.unicode || c.toNat < 0x80

/-- The character behind a hyphen in a class that tells whether the hyphen makes a range. Blank
characters before it and one number sign are passed over, but no comment. -/
def peekBehindHyphen (f : Flags) (s : List Char) : Option Char :=
  if f.spaced then
    match s.dropWhile Text.isBlank with
    | '#' :: r => (r.dropWhile Text.isBlank).head?
    | s => s.head?
  else s.head?

/-- A member or a range of a class. -/
def readClassRange? (f : Flags) (s : List Char) : Option (RangeSet × List Char) :=
  match readClassLeaf? f s with
  | none => none
  | some (first, rest) =>
    let rest := f.skip rest
    let single := match first with
      | .literal c _ => if classLiteralAllowed f c then some (RangeSet.singleton c) else none
      | .set set => some set
      | .look _ => none
    match rest with
    | [] => none
    | '-' :: after =>
      let next := peekBehindHyphen f after
      if next == some ']' || next == some '-' then single.map fun set => (set, rest)
      else
        match first, readClassLeaf? f (f.skip after) with
        | .literal low _, some (.literal high _, rest) =>
          if low.toNat ≤ high.toNat && classLiteralAllowed f low && classLiteralAllowed f high then
            some (RangeSet.range low.toNat high.toNat, rest)
          else none
        | _, _ => none
    | _ => single.map fun set => (set, rest)

/-- An operation between two operands of a class. -/
def readSetOperation? : List Char → Option (SetOperation × List Char)
  | '&' :: '&' :: r => some (.inter, r)
  | '-' :: '-' :: r => some (.diff, r)
  | '~' :: '~' :: r => some (.symmetricDiff, r)
  | _ => none

/-- The rest of a class whose innermost open part is `top`, with the parts around it below. -/
def readClassFrom? (f : Flags) : Nat → OpenClass → List OpenClass → List Char →
    Option (RangeSet × Nat × List Char)
  | 0, _, _, _ => none
  | fuel + 1, top, outer, s =>
    let s := f.skip s
    match s with
    | [] => none
    | '[' :: r =>
      match readAsciiClass? s with
      | some (set, negated, rest) =>
        if negated && !f.unicode then none
        else
          let set := f.closed set
          let set := if negated then set.complement else set
          readClassFrom? f fuel { top with members := top.members.add set 0 } outer rest
      | none =>
        let (opened, rest) := readClassOpening f r
        readClassFrom? f fuel opened (top :: outer) rest
    | ']' :: r =>
      match top.close? f, outer with
      | none, _ => none
      | some (set, depth), [] => some (set, depth, r)
      | some (set, depth), parent :: outer =>
        readClassFrom? f fuel { parent with members := parent.members.add set depth } outer r
    | s =>
      match readSetOperation? s with
      | some (op, rest) =>
        let (set, depth) := top.operand f
        readClassFrom? f fuel { top with members := {}, pending := some (op, set, depth) } outer rest
      | none =>
        match readClassRange? f s with
        | some (set, rest) =>
          readClassFrom? f fuel { top with members := top.members.add set 0 } outer rest
        | none => none

/-- A class, behind its opening bracket: its set, its nesting and what follows. -/
def readClass? (f : Flags) (s : List Char) : Option (RangeSet × Nat × List Char) :=
  let (opened, rest) := readClassOpening f s
  if rest.isEmpty then none else readClassFrom? f (s.length + 1) opened [] rest

/-! ## Repetitions -/

/-- The digits of a count with the blank characters around them. -/
def readCount (f : Flags) (s : List Char) : List Char × List Char :=
  let rec digits : Nat → List Char → List Char × List Char
    | 0, s => ([], s)
    | fuel + 1, s =>
      match s with
      | c :: r =>
        if c.isDigit then
          let (ds, rest) := digits fuel (f.skip r)
          (c :: ds, rest)
        else ([], s)
      | [] => ([], [])
  let s := s.dropWhile Text.isBlank
  let (ds, rest) := digits (s.length + 1) s
  (ds, f.skip (rest.dropWhile Text.isBlank))

def countOf? (digits : List Char) : Option Nat :=
  (Text.Integer.readNat? digits).filter (· < Nat.pow 2 32)

/-- The bounds in braces, behind the opening one. -/
def readBounds? (f : Flags) (s : List Char) : Option (Nat × Option Nat × List Char) :=
  let (first, rest) := readCount f (f.skip s)
  match countOf? first, rest with
  | some least, '\x7d' :: r => some (least, some least, r)
  | some least, ',' :: r =>
    match f.skip r with
    | '\x7d' :: r => some (least, none, r)
    | r =>
      let (second, rest) := readCount f r
      match countOf? second, rest with
      | some most, '\x7d' :: r => if least ≤ most then some (least, some most, r) else none
      | _, _ => none
  | _, _ => none

/-- Whether a repetition looks for many items first, and what stands behind the question mark that
turns this round. -/
def readGreed (f : Flags) (s : List Char) : Bool × List Char :=
  match s with
  | '?' :: r => (f.swapGreed, r)
  | s => (!f.swapGreed, s)

/-! ## Groups -/

def isNameStart (c : Char) : Bool := c == '_' || CharacterClass.alphabetic.contains .seventeen c

def isNamePart (c : Char) : Bool :=
  c == '_' || c == '.' || c == '[' || c == ']' || CharacterClass.alphanumeric.contains .seventeen c

/-- The name of a group, and what stands behind the angle bracket that closes it. -/
def readGroupName? (s : List Char) : Option (String × List Char) :=
  match Text.splitFirst? '>' s with
  | some (c :: name, rest) =>
    if isNameStart c && name.all isNamePart then some (String.ofList (c :: name), rest) else none
  | _ => none

/-- Switches up to a colon or a closing parenthesis: those seen, the flags after them, whether the
last sign was a hyphen, and whether one was seen at all. -/
def readFlags? (f : Flags) (seen : List Flag) (negated dangling : Bool) :
    List Char → Option (Flags × Bool × Char × List Char)
  | [] => none
  | c :: r =>
    if c == ':' || c == ')' then
      if dangling then none else some (f, !seen.isEmpty, c, r)
    else if c == '-' then
      if negated then none else readFlags? f seen true true r
    else
      match Flag.ofLetter? c with
      | some flag =>
        if seen.contains flag then none
        else readFlags? (f.set flag (!negated)) (flag :: seen) negated false r
      | none => none

/-- What an opening parenthesis starts. -/
inductive Opening
  /-- A group whose content is read with these flags, and whether it is remembered. -/
  | group (inner : Flags) (remembered : Bool) (name : Option String)
  /-- Flags for the rest of the group around. -/
  | switch (flags : Flags)

/-- What stands behind an opening parenthesis. -/
def readOpening? (f : Flags) (s : List Char) : Option (Opening × List Char) :=
  match f.skip s with
  | '?' :: 'P' :: '<' :: r =>
    (readGroupName? r).map fun (name, rest) => (.group f true (some name), rest)
  | '?' :: '<' :: r =>
    match r with
    | '=' :: _ | '!' :: _ => none
    | r => (readGroupName? r).map fun (name, rest) => (.group f true (some name), rest)
  | '?' :: r =>
    match readFlags? f [] false false r with
    | some (flags, some?, ending, rest) =>
      if ending == ')' then if some? then some (.switch flags, rest) else none
      else some (.group flags false none, rest)
    | none => none
  | s => some (.group f true none, s)

/-! ## The walk over a pattern -/

/-- A part of a sequence: an expression with its nesting, or a switch of flags, which cannot be
repeated. -/
inductive Part
  | expression (e : Expression) (depth : Nat)
  | switch

/-- A group that is still open: the parts of its current alternative in reverse, the alternatives
before it in reverse, the flags to return to, and the number under which it is remembered. -/
structure OpenGroup where
  parts : List Part
  choices : List (Expression × Nat)
  outside : Flags
  number : Option Nat

def Part.expression? : Part → Option (Expression × Nat)
  | .expression e d => some (e, d)
  | .switch => none

def maxDepth (items : List (Expression × Nat)) : Nat := items.foldl (fun d i => max d i.2) 0

/-- The parts as one expression; several parts make a level of nesting. -/
def sequenceOf (parts : List Part) : Expression × Nat :=
  let items := parts.reverse.filterMap Part.expression?
  let nested := maxDepth items
  match parts, items with
  | [], _ => (.empty, 0)
  | [_], [item] => item
  | [_], _ => (.empty, 0)
  | _, items => (.ofSequence (items.map (·.1)), nested + 1)

/-- The alternatives of a group as one expression; several of them make a level of nesting. -/
def OpenGroup.expression (g : OpenGroup) : Expression × Nat :=
  match g.choices with
  | [] => sequenceOf g.parts
  | choices =>
    let items := (sequenceOf g.parts :: choices).reverse
    (.ofChoice (items.map (·.1)), maxDepth items + 1)

def OpenGroup.push (g : OpenGroup) (e : Expression) (depth : Nat) : OpenGroup :=
  { g with parts := .expression e depth :: g.parts }

/-- Repeats the last part, if there is one that can be repeated. -/
def OpenGroup.repeatLast? (g : OpenGroup) (least : Nat) (most : Option Nat) (greedy : Bool) :
    Option OpenGroup :=
  match g.parts with
  | .expression e d :: rest =>
    some { g with parts := .expression (.ofRepetition e least most greedy) (d + 1) :: rest }
  | _ => none

/-- The characters that a point stands for. -/
def anyChar (f : Flags) : RangeSet :=
  if f.dotAll then .all
  else (RangeSet.ofPoints (if f.anyLineEnd then [0xA, 0xD] else [0xA])).complement

def lineStartLook (f : Flags) : Look :=
  if !f.multiLine then .textStart else if f.anyLineEnd then .anyLineStart else .lineStart

def lineEndLook (f : Flags) : Look :=
  if !f.multiLine then .textEnd else if f.anyLineEnd then .anyLineEnd else .lineEnd

/-- A leaf as a part of the pattern. -/
def Leaf.expression? (f : Flags) : Leaf → Option Expression
  | .literal c byte =>
    if literalAllowed f c byte then some (.ofSet (f.closed (.singleton c))) else none
  | .look l => some (.look l)
  | .set s => some (.ofSet s)

/-- The state of the walk: the flags in force, the innermost open group, the groups around it, the
names that groups have so far, and how many groups are remembered. -/
structure Walk where
  flags : Flags
  top : OpenGroup
  outer : List OpenGroup
  names : List String
  count : Nat

def Walk.start (f : Flags) : Walk := ⟨f, ⟨[], [], f, none⟩, [], [], 0⟩

/-- One step of the walk at a character that is not spacing. -/
def Walk.step? (w : Walk) (c : Char) (r : List Char) : Option (Walk × List Char) :=
  let f := w.flags
  let leaf? := fun (leaf : Leaf) (rest : List Char) =>
    (leaf.expression? f).map fun e => ({ w with top := w.top.push e 0 }, rest)
  let repeat? := fun (least : Nat) (most : Option Nat) (rest : List Char) =>
    let (greedy, rest) := readGreed f rest
    (w.top.repeatLast? least most greedy).map fun top => ({ w with top := top }, rest)
  match c with
  | '(' =>
    match readOpening? f r with
    | some (.switch flags, rest) =>
      some ({ w with flags, top := { w.top with parts := .switch :: w.top.parts } }, rest)
    | some (.group inner remembered name, rest) =>
      let names := name.toList ++ w.names
      let count := if remembered then w.count + 1 else w.count
      let number := if remembered then some count else none
      if (name.map w.names.contains).getD false then none
      else
        let top : OpenGroup := ⟨[], [], f, number⟩
        some ({ flags := inner, top, outer := w.top :: w.outer, names, count }, rest)
    | none => none
  | ')' =>
    match w.outer with
    | [] => none
    | parent :: outer =>
      let (e, d) := w.top.expression
      let e := match w.top.number with
        | some n => .group e n
        | none => e
      some ({ w with flags := w.top.outside, top := parent.push e (d + 1), outer }, r)
  | '|' =>
    let choices := sequenceOf w.top.parts :: w.top.choices
    some ({ w with top := { w.top with parts := [], choices } }, r)
  | '[' =>
    match readClass? f r with
    | some (set, depth, rest) =>
      some ({ w with top := w.top.push (.ofSet set) depth }, rest)
    | none => none
  | '?' => repeat? 0 (some 1) r
  | '*' => repeat? 0 none r
  | '+' => repeat? 1 none r
  | '\x7b' =>
    match readBounds? f r with
    | some (least, most, rest) => repeat? least most (f.skip rest)
    | none => none
  | '\\' =>
    match readEscape? f r with
    | some (leaf, rest) => leaf? leaf rest
    | none => none
  | '.' =>
    if f.unicode then
      some ({ w with top := w.top.push (.ofSet (anyChar f)) 0 }, r)
    else none
  | '^' => some ({ w with top := w.top.push (.look (lineStartLook f)) 0 }, r)
  | '$' => some ({ w with top := w.top.push (.look (lineEndLook f)) 0 }, r)
  | c => leaf? (.literal c false) r

/-- The walk to the end of the pattern, in at most `fuel` steps. -/
def Walk.run? : Nat → Walk → List Char → Option Walk
  | 0, _, _ => none
  | fuel + 1, w, s =>
    match w.flags.skip s with
    | [] => some w
    | c :: r =>
      match w.step? c r with
      | some (w, rest) => Walk.run? fuel w rest
      | none => none

/-- The deepest nesting of a pattern. -/
def nestingLimit : Nat := 250

/-- The expression that a pattern denotes under the given flags. -/
def readExpression? (f : Flags) (s : List Char) : Option Expression :=
  match Walk.run? (s.length + 1) (.start f) s with
  | some w =>
    if !w.outer.isEmpty then none
    else
      let (e, depth) := w.top.expression
      if depth ≤ nestingLimit then some e else none
  | none => none

end TraceSampler.Pattern
