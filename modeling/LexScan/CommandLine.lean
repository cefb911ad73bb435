import LexScan.Text

/-!
# Command lines

A template lists the options of a program. Parsing takes the items of a command
line one by one: an item that names an option is that option, with the text
behind an equals sign or the next item as its value if it takes one; every other
item is positional. An equals sign only counts in items that start with a hyphen.
-/

namespace LexScan.CommandLine

/-- An option and what the usage says about it. -/
structure Switch where
  long : Text
  description : Text := []
  short : Option Text := none
  /-- The value it takes, as the usage shows it. -/
  parameter : Option Text := none
deriving DecidableEq, Repr

def Switch.hasName (s : Switch) (name : Text) : Bool := s.long = name || s.short = some name

/-- The options of a program and the text around its usage. -/
structure Template where
  switches : List Switch := []
  header : Text := []
  trailer : Text := []
deriving DecidableEq, Repr

/-- What a command line gives: values by long names in the order of the items,
with an empty value for options that take none, and the positional items. -/
structure Arguments where
  given : List (Text × Text) := []
  rest : List Text := []
deriving DecidableEq, Repr

namespace Arguments

def give (a : Arguments) (long value : Text) : Arguments :=
  { a with given := (long, value) :: a.given }

/-- The value that an option was given last. -/
def value? (a : Arguments) (long : Text) : Option Text :=
  (a.given.reverse.find? (·.1 = long)).map (·.2)

def has (a : Arguments) (long : Text) : Bool := (a.value? long).isSome

end Arguments

/-- Why a command line does not fit a template. -/
inductive Fault where
  | missingValue (long : Text)
  | unexpectedValue (long : Text)
deriving DecidableEq, Repr

def Fault.message : Fault → Text
  | missingValue long => "Missing required argument for ".toList ++ long
  | unexpectedValue long => long ++ " does not take an argument".toList

/-- An item as a name and the value attached to it. -/
def splitItem (item : Text) : Text × Option Text :=
  if item.head? = some '-' ∧ '=' ∈ item then
    (item.takeWhile (· ≠ '='), some (item.dropWhile (· ≠ '=')).tail)
  else (item, none)

namespace Template

/-- The first option with a name. -/
def switch? (t : Template) (name : Text) : Option Switch :=
  t.switches.find? (·.hasName name)

/-- What a list of items gives. -/
def parse (t : Template) : List Text → Except Fault Arguments
  | [] => .ok {}
  | item :: items =>
      match t.switch? (splitItem item).1 with
      | none => (parse t items).map fun a => { a with rest := item :: a.rest }
      | some s =>
          match s.parameter, (splitItem item).2, items with
          | some _, some value, items => (parse t items).map (·.give s.long value)
          | some _, none, value :: items => (parse t items).map (·.give s.long value)
          | some _, none, [] => .error (.missingValue s.long)
          | none, some _, _ => .error (.unexpectedValue s.long)
          | none, none, items => (parse t items).map (·.give s.long [])

/-- What a command line gives whose first item names the program. -/
def parseLine (t : Template) (line : List Text) : Except Fault Arguments := t.parse line.tail

end Template

end LexScan.CommandLine
