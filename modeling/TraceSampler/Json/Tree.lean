import TraceSampler.Json.Token

/-!
# JSON trees

The tokens of a JSON text put together. A tree has the shape of the text and no more: strings may
still hold halves of surrogate pairs, numbers may lie outside every range and an object may hold a
key twice, since all that is refused only where the value is used.
-/

namespace TraceSampler.Json

inductive Tree
  | null
  | bool (b : Bool)
  | number (n : Numeral)
  | text (pieces : List Piece)
  | array (items : List Tree)
  | object (members : List (List Piece × Tree))

/-- A container that is still open, with what it holds so far in reverse. -/
inductive OpenContainer
  | array (items : List Tree)
  | object (members : List (List Piece × Tree)) (key : List Piece)

/-- What may come next. -/
inductive Expected
  | value
  /-- A first item or the end of the array. -/
  | firstItem
  /-- A first key or the end of the object, which has no members yet. -/
  | firstKey
  | key (members : List (List Piece × Tree))
  | colon (members : List (List Piece × Tree)) (key : List Piece)
  | commaOrEnd

/-- A finished value goes into the innermost open container; without one the text is read. -/
inductive Placed
  | done (tree : Tree)
  | inside (stack : List OpenContainer)

def place (t : Tree) : List OpenContainer → Placed
  | [] => .done t
  | .array items :: stack => .inside (.array (t :: items) :: stack)
  | .object members key :: stack => .inside (.object ((key, t) :: members) key :: stack)

/-- Closes the innermost container if `bracket` is its end. -/
def close? (bracket : Token) : List OpenContainer → Option (Tree × List OpenContainer)
  | .array items :: stack =>
    if bracket = .closeBracket then some (.array items.reverse, stack) else none
  | .object members _ :: stack =>
    if bracket = .closeBrace then some (.object members.reverse, stack) else none
  | [] => none

/-- The scalar value of a token. -/
def scalar? : Token → Option Tree
  | .null => some .null
  | .bool b => some (.bool b)
  | .number n => some (.number n)
  | .text pieces => some (.text pieces)
  | _ => none

/-- The state after one token: a finished tree, or the open containers and what they wait for. -/
inductive Progress
  | done (tree : Tree)
  | more (stack : List OpenContainer) (expected : Expected)
  | failed

def settle (t : Tree) (stack : List OpenContainer) : Progress :=
  match place t stack with
  | .done t => .done t
  | .inside stack => .more stack .commaOrEnd

/-- A token where a value has to start. -/
def startValue (stack : List OpenContainer) (t : Token) : Progress :=
  match t with
  | .openBracket => .more (.array [] :: stack) .firstItem
  | .openBrace => .more stack .firstKey
  | t =>
    match scalar? t with
    | some v => settle v stack
    | none => .failed

def advance (stack : List OpenContainer) (expected : Expected) (t : Token) : Progress :=
  match expected with
  | .value => startValue stack t
  | .firstItem =>
    match t, stack with
    | .closeBracket, .array [] :: rest => settle (.array []) rest
    | t, stack => startValue stack t
  | .firstKey =>
    match t with
    | .closeBrace => settle (.object []) stack
    | .text key => .more stack (.colon [] key)
    | _ => .failed
  | .key members =>
    match t with
    | .text key => .more stack (.colon members key)
    | _ => .failed
  | .colon members key =>
    match t with
    | .colon => .more (.object members key :: stack) .value
    | _ => .failed
  | .commaOrEnd =>
    match t, stack with
    | .comma, .array items :: rest => .more (.array items :: rest) .value
    | .comma, .object members _ :: rest => .more rest (.key members)
    | t, stack =>
      match close? t stack with
      | some (v, rest) => settle v rest
      | none => .failed

/-- Reads one value from the front of the tokens; the tokens behind it are left. -/
def readFrom (stack : List OpenContainer) (expected : Expected) :
    List Token → Option (Tree × List Token)
  | [] => none
  | t :: r =>
    match advance stack expected t with
    | .done v => some (v, r)
    | .more stack expected => readFrom stack expected r
    | .failed => none

/-- The first value of a text, and whether something stands behind it. -/
def Tree.readFirst? (text : String) : Option (Tree × Bool) :=
  (readFrom [] .value (scan text)).map fun (t, rest) => (t, !rest.isEmpty)

/-- The value of a text that holds one value and nothing else. -/
def Tree.read? (text : String) : Option Tree :=
  match Tree.readFirst? text with
  | some (t, false) => some t
  | _ => none

end TraceSampler.Json
