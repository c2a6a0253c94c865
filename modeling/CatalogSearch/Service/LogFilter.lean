import CatalogSearch.Text.Blank
import CatalogSearch.Text.LetterCase

/-!
# What is logged

The filter of log events is a list of directives with commas between them. A directive is a level,
which holds for every target, or a target, an equals sign and a level, which holds for the targets
that start with it. Of the directives that hold for a target the longest decides, of equal ones the
last, and where none holds nothing is logged.
-/

namespace CatalogSearch.Service

/-- The levels of log events. -/
inductive LogLevel where
  | error
  | warn
  | info
  | debug
  | trace
  deriving DecidableEq

namespace LogLevel

/-- All levels, the gravest first. -/
def all : List LogLevel := [.error, .warn, .info, .debug, .trace]

/-- How much has to be logged for events of a level to be logged. -/
def rank : LogLevel → Nat
  | .error => 1
  | .warn => 2
  | .info => 3
  | .debug => 4
  | .trace => 5

/-- The name of a level. -/
def name : LogLevel → String
  | .error => "ERROR"
  | .warn => "WARN"
  | .info => "INFO"
  | .debug => "DEBUG"
  | .trace => "TRACE"

end LogLevel

/-- How much is logged: nothing, or all levels up to one. -/
abbrev Verbosity := Option LogLevel

/-- Whether events of a level are logged. -/
def Verbosity.allows (v : Verbosity) (level : LogLevel) : Bool :=
  v.any fun most => level.rank ≤ most.rank

/-- The words for how much is logged: a name in any letter case, or a digit. -/
def Verbosity.ofWord? (word : String) : Option Verbosity :=
  if word = "0" ∨ Text.lower word = "off" then some none
  else
    (LogLevel.all.find? fun l =>
      word = toString l.rank ∨ Text.sameIgnoringCase word l.name).map some

/-- How much is logged for some targets. -/
structure LogDirective where
  /-- How the targets start; nothing for every target. -/
  target : Option String
  verbosity : Verbosity
  deriving DecidableEq

namespace LogDirective

/-- Whether a character may stand in the name of a target. -/
def isTargetChar (c : Char) : Bool :=
  c.isAlphanum || c == '_' || c == ':' || c == '-' || 0x80 ≤ c.toNat

/-- A directive for the targets that start with a name. -/
def forTarget? (target : String) (verbosity : Option Verbosity) : Option LogDirective :=
  if target ≠ "" ∧ target.toList.all isTargetChar then
    verbosity.map fun v => ⟨some target, v⟩
  else none

/-- The directive of a text. A target without a level, or with an empty one, is logged in full. -/
def parse? (s : String) : Option LogDirective :=
  match Verbosity.ofWord? s, Text.splitAtEach (· == '=') s.toList with
  | some v, _ => some ⟨none, v⟩
  | none, [target] => forTarget? (String.ofList target) (some (some .trace))
  | none, [target, []] => forTarget? (String.ofList target) (some (some .trace))
  | none, [target, level] =>
    forTarget? (String.ofList target) (Verbosity.ofWord? (String.ofList level))
  | none, _ => none

/-- Whether a directive holds for a target. -/
def holdsFor (d : LogDirective) (target : String) : Bool :=
  d.target.all fun start => start.toList.isPrefixOf target.toList

/-- How much a directive says about its targets: one that holds for all of them says least. -/
def weight (d : LogDirective) : Nat :=
  match d.target with
  | none => 0
  | some start => start.length + 1

end LogDirective

/-- A filter of log events. -/
structure LogFilter where
  directives : List LogDirective

namespace LogFilter

/-- The filter that is used when none is given. -/
def default : LogFilter := ⟨[⟨none, some .info⟩]⟩

/-- The filter of a text, if all of its directives can be read. -/
def parse? (s : String) : Option LogFilter := do
  let texts := ((Text.splitAtEach (· == ',') s.toList).filter (!·.isEmpty)).map String.ofList
  return ⟨← texts.mapM LogDirective.parse?⟩

/-- The filter of a variable. One that is missing or cannot be read gives the default. -/
def ofVariable (text : Option String) : LogFilter := (text.bind parse?).getD default

/-- The directive that decides about a target. -/
def deciding? (f : LogFilter) (target : String) : Option LogDirective :=
  (f.directives.filter (·.holdsFor target)).foldl
    (fun best d =>
      match best with
      | none => some d
      | some b => if b.weight ≤ d.weight then some d else best)
    none

/-- Whether an event is logged. -/
def allows (f : LogFilter) (target : String) (level : LogLevel) : Bool :=
  (f.deciding? target).any fun d => d.verbosity.allows level

end LogFilter

end CatalogSearch.Service
