import TraceSampler.Json.Field
import TraceSampler.Log.Record
import TraceSampler.Span.Attribute

/-!
# Naming schemes

A scheme builds a transaction name from attributes of the span: the values of the attributes it
lists, with its delimiter between them. Schemes are configured as a list; the first one that finds
any of its attributes makes the name. Entries that are not complete have no effect.
-/

namespace TraceSampler.Transaction

structure Scheme where
  delimiter : String
  keys : List String
  deriving DecidableEq, Repr

/-- The name that a scheme makes; none if the span has no attribute that it lists. -/
def Scheme.name? (s : Scheme) (a : Attributes) : Option String :=
  let found := s.keys.filterMap a.get?
  if found.isEmpty then none
  else some (Text.joinWith s.delimiter (found.flatMap AttributeValue.texts))

/-- One entry of the configured list. -/
structure SchemeEntry where
  scheme : Option String := none
  delimiter : Option String := none
  attributes : Option (List String) := none
  deriving DecidableEq, Repr

/-- The scheme of a complete entry. -/
def SchemeEntry.scheme? (e : SchemeEntry) : Option Scheme :=
  match e.delimiter, e.attributes with
  | some delimiter, some keys => some ⟨delimiter, keys⟩
  | _, _ => none

/-- What is logged of an entry without effect. -/
def SchemeEntry.log (e : Option SchemeEntry) : List Log.Record :=
  match e with
  | none => [.debug "Null naming scheme encountered, check for trailing commas"]
  | some e =>
    if e.scheme?.isSome then []
    else
      [.warn ("Naming scheme " ++ e.scheme.getD "<unnamed>" ++
        " is missing required fields and has no effect")]

/-- Schemes in the order in which they are tried. -/
structure SchemeChain where
  schemes : List Scheme := []
  deriving DecidableEq, Repr

namespace SchemeChain

/-- The chain of the complete entries of a list. -/
def ofEntries (entries : List (Option SchemeEntry)) : SchemeChain :=
  ⟨entries.filterMap fun e => e.bind SchemeEntry.scheme?⟩

/-- What is logged of the entries of a list. -/
def entriesLog (entries : List (Option SchemeEntry)) : List Log.Record :=
  entries.flatMap SchemeEntry.log

/-- The name that the first scheme makes that can. -/
def name? (c : SchemeChain) (a : Attributes) : Option String :=
  c.schemes.findSome? fun s => s.name? a

/-! ## Configured lists -/

/-- The fields of an entry that were met so far. -/
structure EntryFields where
  scheme : Option (Option String) := none
  delimiter : Option (Option String) := none
  attributes : Option (Option (List String)) := none

/-- One more field of an entry. A field may come once; other fields mean nothing. -/
def EntryFields.add? (f : EntryFields) (m : List Json.Piece × Json.Tree) : Option EntryFields :=
  match Json.textOf? m.1 with
  | none => none
  | some "scheme" =>
    if f.scheme.isSome then none else (Json.textField? m.2).map fun v => { f with scheme := some v }
  | some "delimiter" =>
    if f.delimiter.isSome then none
    else (Json.textField? m.2).map fun v => { f with delimiter := some v }
  | some "attributes" =>
    if f.attributes.isSome then none
    else (Json.textsField? m.2).map fun v => { f with attributes := some v }
  | some _ => some f

/-- Reads an entry: an object, or an array of its three fields in their order. -/
def entryOfTree? : Json.Tree → Option SchemeEntry
  | .object members =>
    (members.foldlM EntryFields.add? {}).map fun f =>
      ⟨f.scheme.join, f.delimiter.join, f.attributes.join⟩
  | .array [scheme, delimiter, attributes] =>
    match Json.textField? scheme, Json.textField? delimiter, Json.textsField? attributes with
    | some s, some d, some a => some ⟨s, d, a⟩
    | _, _, _ => none
  | _ => none

/-- Reads an entry of a list, which may be absent. -/
def readListed? : Json.Tree → Option (Option SchemeEntry)
  | .null => some none
  | t => (entryOfTree? t).map some

/-- Reads the configured list of schemes. -/
def readEntries? (json : String) : Option (List (Option SchemeEntry)) :=
  match Json.Tree.read? json with
  | some (.array items) => items.mapM readListed?
  | _ => none

end SchemeChain

end TraceSampler.Transaction
