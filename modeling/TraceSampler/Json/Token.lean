import TraceSampler.Text.Hex
import TraceSampler.Text.Integer

/-!
# The tokens of JSON text

A JSON text is cut into tokens by one pass over its characters. What stands between the quotes of
a string is kept as pieces, because an escape may name half of a surrogate pair, and a number is
kept as its digits, because what they denote is decided only where the number is used.
-/

namespace TraceSampler.Json

/-- A part of a string: a character, or a 16-bit unit named by an escape. -/
inductive Piece
  | char (c : Char)
  | unit (n : Nat)
  deriving DecidableEq, Repr

/-- The parts of a number as it is written. -/
structure Numeral where
  negative : Bool
  whole : List Char
  /-- The digits after the point. -/
  fraction : List Char
  /-- The sign and the digits of the power of ten. -/
  power : Option (Bool × List Char)
  deriving DecidableEq, Repr

inductive Token
  | openBrace
  | closeBrace
  | openBracket
  | closeBracket
  | colon
  | comma
  | null
  | bool (b : Bool)
  | text (pieces : List Piece)
  | number (n : Numeral)
  /-- The text cannot be read further than here. -/
  | invalid
  deriving DecidableEq, Repr

/-! ## Numbers -/

/-- How far a number is read. -/
inductive NumberPhase
  | sign
  /-- A zero, which no other digit may follow. -/
  | zero
  | whole
  | point
  | fraction
  | mark
  | markSign
  | power
  deriving DecidableEq, Repr

namespace NumberPhase

/-- The phase after one more character; none if the character is no part of the number. -/
def next? (p : NumberPhase) (c : Char) : Option NumberPhase :=
  let isMark := c == 'e' || c == 'E'
  match p with
  | .sign => if c == '0' then some .zero else if c.isDigit then some .whole else none
  | .zero => if c == '.' then some .point else if isMark then some .mark else none
  | .whole =>
    if c.isDigit then some .whole else if c == '.' then some .point
    else if isMark then some .mark else none
  | .point => if c.isDigit then some .fraction else none
  | .fraction => if c.isDigit then some .fraction else if isMark then some .mark else none
  | .mark =>
    if c.isDigit then some .power else if c == '+' || c == '-' then some .markSign else none
  | .markSign | .power => if c.isDigit then some .power else none

/-- The number may end here. -/
def isEnd : NumberPhase → Bool
  | .zero | .whole | .fraction | .power => true
  | _ => false

/-- The phase of a number that starts with a character. -/
def ofFirst? (c : Char) : Option NumberPhase :=
  if c == '-' then some .sign else NumberPhase.sign.next? c

end NumberPhase

/-- The parts of a number that was read to an end. -/
def Numeral.ofChars (s : List Char) : Numeral :=
  let (negative, s) := match s with
    | '-' :: r => (true, r)
    | _ => (false, s)
  let rest := s.dropWhile Char.isDigit
  let (fraction, rest) := match rest with
    | '.' :: r => (r.takeWhile Char.isDigit, r.dropWhile Char.isDigit)
    | _ => ([], rest)
  let power := match rest with
    | _ :: '-' :: r => some (true, r)
    | _ :: '+' :: r => some (false, r)
    | _ :: r => some (false, r)
    | [] => none
  { negative, whole := s.takeWhile Char.isDigit, fraction, power }

/-! ## The pass over a text -/

/-- What the characters read so far belong to. Text is collected in reverse. -/
inductive ScanMode
  | idle
  | text (pieces : List Piece)
  | escape (pieces : List Piece)
  /-- So many hexadecimal digits of an escape are still to come. -/
  | unit (pieces : List Piece) (value missing : Nat)
  | number (phase : NumberPhase) (chars : List Char)
  /-- A word of which these characters are still to come. -/
  | word (token : Token) (missing : List Char)

/-- The character that an escape of one letter stands for. -/
def escapedChar? (c : Char) : Option Char :=
  if c == '"' || c == '\\' || c == '/' then some c
  else if c == 'b' then some '\x08'
  else if c == 'f' then some '\x0c'
  else if c == 'n' then some '\n'
  else if c == 'r' then some '\r'
  else if c == 't' then some '\t'
  else none

/-- A character between tokens: the tokens it completes, and what it starts. -/
def startToken (c : Char) : List Token × Option ScanMode :=
  if c == ' ' || c == '\n' || c == '\t' || c == '\r' then ([], some .idle)
  else if c == '\x7b' then ([.openBrace], some .idle)
  else if c == '\x7d' then ([.closeBrace], some .idle)
  else if c == '[' then ([.openBracket], some .idle)
  else if c == ']' then ([.closeBracket], some .idle)
  else if c == ':' then ([.colon], some .idle)
  else if c == ',' then ([.comma], some .idle)
  else if c == '"' then ([], some (.text []))
  else if c == 'n' then ([], some (.word .null ['u', 'l', 'l']))
  else if c == 't' then ([], some (.word (.bool true) ['r', 'u', 'e']))
  else if c == 'f' then ([], some (.word (.bool false) ['a', 'l', 's', 'e']))
  else
    match NumberPhase.ofFirst? c with
    | some phase => ([], some (.number phase [c]))
    | none => ([.invalid], none)

/-- One character in a mode. Without a next mode nothing further is read. -/
def scanChar (mode : ScanMode) (c : Char) : List Token × Option ScanMode :=
  match mode with
  | .idle => startToken c
  | .text pieces =>
    if c == '"' then ([.text pieces.reverse], some .idle)
    else if c == '\\' then ([], some (.escape pieces))
    else if c.toNat < 0x20 then ([.invalid], none)
    else ([], some (.text (.char c :: pieces)))
  | .escape pieces =>
    if c == 'u' then ([], some (.unit pieces 0 4))
    else
      match escapedChar? c with
      | some e => ([], some (.text (.char e :: pieces)))
      | none => ([.invalid], none)
  | .unit pieces value missing =>
    match Text.Hex.value? c with
    | some v =>
      if missing ≤ 1 then ([], some (.text (.unit (value * 16 + v) :: pieces)))
      else ([], some (.unit pieces (value * 16 + v) (missing - 1)))
    | none => ([.invalid], none)
  | .number phase chars =>
    match phase.next? c with
    | some next => ([], some (.number next (c :: chars)))
    | none =>
      if phase.isEnd && !(phase == .zero && c.isDigit) then
        let (tokens, next) := startToken c
        (.number (.ofChars chars.reverse) :: tokens, next)
      else ([.invalid], none)
  | .word token missing =>
    match missing with
    | [last] => if c == last then ([token], some .idle) else ([.invalid], none)
    | expected :: rest => if c == expected then ([], some (.word token rest)) else ([.invalid], none)
    | [] => ([.invalid], none)

/-- What the end of the text makes of the characters read so far. -/
def finishScan : ScanMode → List Token
  | .idle => []
  | .number phase chars => [if phase.isEnd then .number (.ofChars chars.reverse) else .invalid]
  | _ => [.invalid]

/-- The tokens of the rest of a text, up to the first that is invalid. -/
def scanFrom (mode : ScanMode) : List Char → List Token
  | [] => finishScan mode
  | c :: r =>
    match scanChar mode c with
    | (tokens, some next) => tokens ++ scanFrom next r
    | (tokens, none) => tokens

/-- The tokens of a text. -/
def scan (text : String) : List Token := scanFrom .idle text.toList

end TraceSampler.Json
