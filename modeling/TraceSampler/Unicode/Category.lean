import TraceSampler.Unicode.CategoryTable
import TraceSampler.Unicode.Runs

/-!
# General categories

The Unicode general category of a character, read off the tables of runs, and the sets that the
categories and their groups are in patterns. Patterns follow edition 16.0 of the character data, and
all other text follows edition 17.0.
-/

namespace TraceSampler.Unicode

/-- The editions of the character data that are in use. -/
inductive Edition
  | sixteen
  | seventeen
  deriving DecidableEq, Repr

/-- The general categories under their standard two-letter names. -/
inductive Category
  | lu | ll | lt | lm | lo
  | mn | mc | me
  | nd | nl | no
  | pc | pd | ps | pe | pi | pf | po
  | sm | sc | sk | so
  | zs | zl | zp
  | cc | cf | cs | co | cn
  deriving DecidableEq, Repr

/-- What a run of the table says about its code points: one category for all of them, or capital
and small letters in turn. -/
inductive RunKind
  | all (category : Category)
  | alternating (capitalFirst : Bool)

namespace RunKind

def ofName? : List Char → Option RunKind
  | ['L', 'A'] => some (.alternating true)
  | ['L', 'B'] => some (.alternating false)
  | ['L', 'u'] => some (.all .lu)
  | ['L', 'l'] => some (.all .ll)
  | ['L', 't'] => some (.all .lt)
  | ['L', 'm'] => some (.all .lm)
  | ['L', 'o'] => some (.all .lo)
  | ['M', 'n'] => some (.all .mn)
  | ['M', 'c'] => some (.all .mc)
  | ['M', 'e'] => some (.all .me)
  | ['N', 'd'] => some (.all .nd)
  | ['N', 'l'] => some (.all .nl)
  | ['N', 'o'] => some (.all .no)
  | ['P', 'c'] => some (.all .pc)
  | ['P', 'd'] => some (.all .pd)
  | ['P', 's'] => some (.all .ps)
  | ['P', 'e'] => some (.all .pe)
  | ['P', 'i'] => some (.all .pi)
  | ['P', 'f'] => some (.all .pf)
  | ['P', 'o'] => some (.all .po)
  | ['S', 'm'] => some (.all .sm)
  | ['S', 'c'] => some (.all .sc)
  | ['S', 'k'] => some (.all .sk)
  | ['S', 'o'] => some (.all .so)
  | ['Z', 's'] => some (.all .zs)
  | ['Z', 'l'] => some (.all .zl)
  | ['Z', 'p'] => some (.all .zp)
  | ['C', 'c'] => some (.all .cc)
  | ['C', 'f'] => some (.all .cf)
  | ['C', 's'] => some (.all .cs)
  | ['C', 'o'] => some (.all .co)
  | ['C', 'n'] => some (.all .cn)
  | _ => none

/-- The category of the code point that stands `offset` places after the start of the run. -/
def category (kind : RunKind) (offset : Nat) : Category :=
  match kind with
  | .all c => c
  | .alternating capitalFirst => if (offset % 2 == 0) == capitalFirst then .lu else .ll

end RunKind

/-- The runs of edition 16.0. -/
def categoryRuns : Runs RunKind := .ofRows RunKind.ofName? categoryRows

/-- The runs of edition 17.0, where it differs. -/
def laterCategoryRuns : Runs (Option RunKind) := .ofRows (some ∘ RunKind.ofName?) laterCategoryRows

/-- The general category of a code point in a table. -/
def categoryIn (runs : Runs RunKind) (n : Nat) : Category :=
  match runs.find? n with
  | some run => run.kind.category (n - run.start)
  | none => .cn

/-- The general category of a character. -/
def categoryOf (e : Edition) (c : Char) : Category :=
  match e with
  | .sixteen => categoryIn categoryRuns c.toNat
  | .seventeen =>
    match laterCategoryRuns.find? c.toNat with
    | some ⟨start, some kind⟩ => kind.category (c.toNat - start)
    | _ => categoryIn categoryRuns c.toNat

/-- Every second code point of a range. -/
def everySecond (r : Range) : List Range :=
  (List.range ((r.last + 2 - r.first) / 2)).map fun i => ⟨r.first + 2 * i, r.first + 2 * i⟩

/-- The code points of a run that are in some of the categories. -/
def RunKind.ranges (wanted : Category → Bool) (kind : RunKind) (r : Range) : List Range :=
  match kind with
  | .all category => if wanted category then [r] else []
  | .alternating capitalFirst =>
    (if wanted .lu then everySecond (if capitalFirst then r else ⟨r.first + 1, r.last⟩) else []) ++
      if wanted .ll then everySecond (if capitalFirst then ⟨r.first + 1, r.last⟩ else r) else []

namespace Category

/-- The characters that edition 16.0 puts into one of the categories. -/
def set (cs : List Category) : RangeSet := categoryRuns.collect (RunKind.ranges cs.contains)

/-- The characters that edition 16.0 knows. -/
def assigned : RangeSet := (set [.cn]).complement

/-- The categories of letters. -/
def letters : List Category := [.lu, .ll, .lt, .lm, .lo]

/-- The categories under a name, in small letters without spaces, hyphens and underscores, of one
category or of a group of them. -/
def group? (name : String) : Option (List Category) :=
  match name with
  | "lu" | "uppercaseletter" => some [.lu]
  | "ll" | "lowercaseletter" => some [.ll]
  | "lt" | "titlecaseletter" => some [.lt]
  | "lc" | "casedletter" => some [.lu, .ll, .lt]
  | "lm" | "modifierletter" => some [.lm]
  | "lo" | "otherletter" => some [.lo]
  | "l" | "letter" => some letters
  | "mn" | "nonspacingmark" => some [.mn]
  | "mc" | "spacingmark" => some [.mc]
  | "me" | "enclosingmark" => some [.me]
  | "m" | "mark" | "combiningmark" => some [.mn, .mc, .me]
  | "nd" | "decimalnumber" | "digit" => some [.nd]
  | "nl" | "letternumber" => some [.nl]
  | "no" | "othernumber" => some [.no]
  | "n" | "number" => some [.nd, .nl, .no]
  | "pc" | "connectorpunctuation" => some [.pc]
  | "pd" | "dashpunctuation" => some [.pd]
  | "ps" | "openpunctuation" => some [.ps]
  | "pe" | "closepunctuation" => some [.pe]
  | "pi" | "initialpunctuation" => some [.pi]
  | "pf" | "finalpunctuation" => some [.pf]
  | "po" | "otherpunctuation" => some [.po]
  | "p" | "punctuation" | "punct" => some [.pc, .pd, .ps, .pe, .pi, .pf, .po]
  | "sm" | "mathsymbol" => some [.sm]
  | "sc" | "currencysymbol" => some [.sc]
  | "sk" | "modifiersymbol" => some [.sk]
  | "so" | "othersymbol" => some [.so]
  | "s" | "symbol" => some [.sm, .sc, .sk, .so]
  | "zs" | "spaceseparator" => some [.zs]
  | "zl" | "lineseparator" => some [.zl]
  | "zp" | "paragraphseparator" => some [.zp]
  | "z" | "separator" => some [.zs, .zl, .zp]
  | "cc" | "control" | "cntrl" => some [.cc]
  | "cf" | "format" => some [.cf]
  | "co" | "privateuse" => some [.co]
  | "cn" | "unassigned" => some [.cn]
  | "c" | "other" => some [.cc, .cf, .cs, .co, .cn]
  | _ => none

/-- The set under a name of categories, or under one of the three names that stand beside them. -/
def named? (name : String) : Option RangeSet :=
  match name with
  | "any" => some .all
  | "assigned" => some assigned
  | "ascii" => some (.range 0 0x7F)
  | _ => (group? name).map set

end Category

end TraceSampler.Unicode
