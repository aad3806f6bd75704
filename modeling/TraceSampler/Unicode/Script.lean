import TraceSampler.Unicode.Runs
import TraceSampler.Unicode.ScriptTable

/-!
# Scripts

The script that a character belongs to, the scripts that a character is used in, and the names of
scripts. A script is known by its four letters.
-/

namespace TraceSampler.Unicode

/-- The four letters of a script. -/
abbrev ScriptCode := List Char

namespace ScriptCode

/-- The runs of the table. -/
def runs : Runs ScriptCode := .ofRows some scriptRows

/-- The characters that belong to a script. -/
def set (code : ScriptCode) : RangeSet := runs.select (· == code)

/-- Characters and scripts that they are used in, other than by belonging to one. -/
structure Shared where
  scripts : List ScriptCode
  characters : RangeSet

/-- Reads one entry of the table of shared characters. -/
def Shared.read? (s : List Char) : Option Shared :=
  (Text.splitFirst? ':' s).map fun (scripts, ranges) =>
    ⟨Text.split '/' scripts, .ofRanges ((Text.split '/' ranges).filterMap Range.read?)⟩

def shared : List Shared :=
  sharedScriptRows.flatMap fun row => (Text.split ' ' row.toList).filterMap Shared.read?

/-- The characters that are used in a script: those that belong to it and are not listed as shared,
and those that are listed for it. -/
def extendedSet (code : ScriptCode) : RangeSet :=
  let listed := RangeSet.unions (shared.map Shared.characters)
  let here := RangeSet.unions ((shared.filter (·.scripts.contains code)).map Shared.characters)
  (code.set.diff listed).union here

/-- Reads one entry of the table of names. -/
def readNames (s : List Char) : ScriptCode × List (List Char) :=
  match Text.splitFirst? ':' s with
  | some (code, names) => (code, code.map Char.toLower :: Text.split '/' names)
  | none => (s, [s.map Char.toLower])

/-- The scripts with their names in small letters. -/
def names : List (ScriptCode × List (List Char)) :=
  scriptNameRows.flatMap fun row => (Text.split ' ' row.toList).map readNames

/-- The script with a name in small letters, without spaces, hyphens and underscores. -/
def named? (name : String) : Option ScriptCode :=
  (names.find? fun entry => entry.2.contains name.toList).map (·.1)

end ScriptCode

end TraceSampler.Unicode
