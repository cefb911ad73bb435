import LexScan.CharClass
import LexScan.LineBreak

/-!
# Names of line break modes

Settings give a mode by name. White space around the name does not count, and
the message for an unknown name shows it without that white space.
-/

namespace LexScan.LineBreakMode

/-- The mode that a setting names, or the trimmed name if no mode has it. -/
def ofName (name : Text) : Except Text LineBreakMode :=
  if name.trim = ascii.name then .ok ascii
  else if name.trim = unicode.name then .ok unicode
  else .error name.trim

/-- The message for a name that no mode has. -/
def unknownMessage (name : Text) : Text :=
  "Unknown line break mode '".toList ++ name ++ "', expected '".toList ++ ascii.name
    ++ "' or '".toList ++ unicode.name ++ "'".toList

end LexScan.LineBreakMode
