import TraceSampler.Log.FieldTest
import TraceSampler.Log.Record

/-!
# Filters

Which records are written. A filter is a list of directives, each of which sets the most detailed
level for the records from some part of the program; the most specific directive that applies to a
record decides. A filter is read from a text, and where that text is no filter the configured level
takes its place.
-/

namespace TraceSampler.Log

/-- The most detailed level that is let through; none of them when it is absent. -/
abbrev Limit := Option Level

def Limit.write (l : Limit) : String := (l.map Level.directive).getD "off"

/-- The limit with a number, from the most to the least serious. -/
def Limit.ofNumber? : Nat → Option Limit
  | 0 => some none
  | 1 => some (some .error)
  | 2 => some (some .warn)
  | 3 => some (some .info)
  | 4 => some (some .debug)
  | 5 => some (some .trace)
  | _ => none

/-- Reads a limit: a number, or the name of a level or the word `off` in any case. -/
def Limit.ofText? (s : List Char) : Option Limit :=
  match (Text.Integer.readUnsigned64? s).bind Limit.ofNumber? with
  | some limit => some limit
  | none =>
    match String.ofList (Text.asciiLower s) with
    | "off" => some none
    | name => (Level.ofDirective? name).map some

/-- One directive. With a span or with a field it applies within such spans only. -/
structure Directive where
  target : Option String
  span : Option String
  field : Option FieldTest
  limit : Limit

/-- The directive holds for spans or fields. -/
def Directive.isDynamic (d : Directive) : Bool := d.span.isSome || d.field.isSome

/-- The directive can be decided without the values of fields. -/
def Directive.isStatic (d : Directive) : Bool :=
  d.span.isNone && (d.field.bind FieldTest.value).isNone

/-! ## Reading directives -/

/-- How many bytes the characters take. -/
def byteLength (s : List Char) : Nat := (String.ofList s).utf8ByteSize

/-- The characters behind so many bytes. -/
def dropBytes : Nat → List Char → List Char
  | 0, s => s
  | _, [] => []
  | n + 1, c :: r => dropBytes (n + 1 - c.utf8Size) r

/-- The characters in so many bytes at the start. -/
def takeBytes : Nat → List Char → List Char
  | 0, _ => []
  | _, [] => []
  | n + 1, c :: r => c :: takeBytes (n + 1 - c.utf8Size) r

/-- A directive as it is read: its text, and what of the text without blank characters around it is
still to be read. Positions are found in the text without the blank characters, and what stands there
is taken from the text with them. -/
structure DirectiveReading where
  text : List Char
  position : Nat
  rest : List Char

namespace DirectiveReading

def start (text : List Char) : DirectiveReading := ⟨text, 0, Text.trim text⟩

/-- What is taken from here to the end. -/
def remainder (r : DirectiveReading) : List Char := dropBytes r.position r.text

/-- Behind the next character. -/
def skip (r : DirectiveReading) : DirectiveReading :=
  { r with position := r.position + byteLength (r.rest.take 1), rest := r.rest.drop 1 }

/-- What is taken up to the first of some marks, and the reading from that mark on. -/
def upTo (r : DirectiveReading) (isMark : Char → Bool) : List Char × DirectiveReading :=
  let length := byteLength (r.rest.takeWhile fun c => !isMark c)
  (takeBytes length r.remainder,
    { r with position := r.position + length, rest := r.rest.dropWhile fun c => !isMark c })

/-- The level behind an equals sign; an empty one lets every level through. -/
def limit? (r : DirectiveReading) : Option Limit :=
  match r.remainder with
  | [] => some (some .trace)
  | s => Limit.ofText? s

/-- The level behind a scope in brackets; without one every level is let through. -/
def limitBehindScope? (r : DirectiveReading) : Option Limit :=
  match r.rest with
  | [] => some (some .trace)
  | '=' :: _ => r.skip.limit?
  | _ => none

/-- The rest of a directive behind the opening bracket of a span: its name, or none, and a field in
braces. -/
def scope? (r : DirectiveReading) (target : Option String) : Option Directive :=
  let (name, r) := r.upTo fun c => c == ']' || c == '\x7b'
  match r.rest with
  | ']' :: _ =>
    r.skip.limitBehindScope?.map fun limit => ⟨target, some (String.ofList name), none, limit⟩
  | '\x7b' :: _ =>
    let span := if name.isEmpty then none else some (String.ofList name)
    let (field, r) := r.skip.upTo (· == '\x7d')
    match field, r.rest with
    | _ :: _, '\x7d' :: ']' :: _ =>
      match FieldTest.read? field, r.skip.skip.limitBehindScope? with
      | some test, some limit => some ⟨target, span, some test, limit⟩
      | _, _ => none
    | _, _ => none
  | _ => none

end DirectiveReading

/-- The characters that a directive may start with, other than a bracket. -/
def isScopeStart (c : Char) : Bool :=
  Unicode.CharacterClass.alphanumeric.contains .seventeen c || c == '-' || c == ':' || c == '_'

/-- Reads one directive: a limit alone, or a target, a span in brackets or both, and a limit. -/
def Directive.read? (s : List Char) : Option Directive :=
  let r := DirectiveReading.start s
  match r.rest with
  | [] => none
  | '[' :: _ => r.skip.scope? none
  | c :: _ =>
    if !isScopeStart c then none
    else
      let (target, behind) := r.upTo fun c => c == '=' || c == '['
      let target := String.ofList target
      match behind.rest with
      | [] =>
        match Limit.ofText? s with
        | some limit => some ⟨none, none, none, limit⟩
        | none => some ⟨some (String.ofList s), none, none, some .trace⟩
      | '[' :: _ => behind.skip.scope? (some target)
      | _ => behind.skip.limit?.map fun limit => ⟨some target, none, none, limit⟩

/-! ## The order of directives -/

/-- The order of two values that may be absent, which comes first. -/
def cmpOption {α : Type} (cmp : α → α → Ordering) : Option α → Option α → Ordering
  | none, none => .eq
  | none, some _ => .lt
  | some _, none => .gt
  | some a, some b => cmp a b

/-- Directives are ordered by how specific they are: by the length of the target, whether they name a
span, and whether they name a field. Those that are as specific are ordered by their texts. -/
def Directive.cmp (a b : Directive) : Ordering :=
  let length := fun (d : Directive) => (d.target.map fun t => t.utf8ByteSize + 1).getD 0
  (compare (length a) (length b)).then <|
    (compare a.span.isSome.toNat b.span.isSome.toNat).then <|
      (compare a.field.isSome.toNat b.field.isSome.toNat).then <|
        (cmpOption compare a.target b.target).then <|
          (cmpOption compare a.span b.span).then (cmpOption FieldTest.cmp a.field b.field)

/-- Puts a directive into its place, the most specific first; one for the same records is
replaced. -/
def insertDirective (d : Directive) : List Directive → List Directive
  | [] => [d]
  | x :: r =>
    match d.cmp x with
    | .eq => d :: r
    | .gt => d :: x :: r
    | .lt => x :: insertDirective d r

def Directive.write (d : Directive) : String :=
  let field := (d.field.map fun f => "\x7b" ++ f.write ++ "\x7d").getD ""
  let part := if d.isDynamic then "[" ++ d.span.getD "" ++ field ++ "]" else ""
  let scope := d.target.getD "" ++ part
  (if scope.isEmpty then "" else scope ++ "=") ++ Limit.write d.limit

/-! ## Filters -/

/-- The directives that are decided once for every place in the program, and those that are decided
span by span; each from the most to the least specific. -/
structure Filter where
  statics : List Directive
  dynamics : List Directive

namespace Filter

/-- The filter of some directives. One that asks for a field whatever its value is of both kinds. -/
def ofDirectives (ds : List Directive) : Filter :=
  let ordered := (ds.filter fun d => !d.isDynamic) ++ ds.filter fun d => d.isDynamic && d.isStatic
  { statics := ordered.foldl (fun acc d => insertDirective d acc) []
    dynamics := (ds.filter (·.isDynamic)).foldl (fun acc d => insertDirective d acc) [] }

/-- Reads a filter: directives with commas between them. -/
def read? (s : String) : Option Filter :=
  let parts := (Text.split ',' s.toList).filter fun part => !part.isEmpty
  (parts.mapM Directive.read?).map ofDirectives

/-- The filter that lets everything up to a level through. -/
def ofLevel (l : Level) : Filter := ⟨[⟨none, none, none, some l⟩], []⟩

/-- The filter that the surroundings ask for, or the one of the configured level. -/
def choose (l : Level) (asked : Option String) : Filter :=
  ((asked.bind read?)).getD (ofLevel l)

def write (f : Filter) : String :=
  Text.joinWith "," ((f.statics ++ f.dynamics).map Directive.write)

/-- A directive applies to records with the given fields from a part of the program. -/
def applies (target : String) (fields : List String) (d : Directive) : Bool :=
  (d.target.map fun t => t.toList.isPrefixOf target.toList).getD true &&
    (d.field.map fun f => fields.contains f.name).getD true

/-- A record with the given fields from a part of the program, outside all spans, is let through. -/
def lets (f : Filter) (target : String) (fields : List String) (level : Level) : Bool :=
  match f.statics.find? (applies target fields) with
  | some d => (d.limit.map level.passes).getD false
  | none => false

end Filter

/-- Where the records of a program go. The first filter that is installed stays. -/
structure Logger where
  installed : Option Filter := none

/-- What is said to the second one who installs a filter. -/
def alreadyInstalled : String := "a global default trace dispatcher has already been set"

/-- Installs a filter, unless one is in place already. -/
def Logger.install (l : Logger) (f : Filter) : Logger × Bool :=
  match l.installed with
  | none => (⟨some f⟩, true)
  | some _ => (l, false)

/-- The lines that a logger writes for records from a part of the program. -/
def Logger.lines (l : Logger) (target : String) (records : List Record) : List String :=
  match l.installed with
  | some f => (records.filter fun r => f.lets target r.fieldNames r.level).map Record.line
  | none => []

end TraceSampler.Log
