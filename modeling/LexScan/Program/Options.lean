import LexScan.CommandLine
import LexScan.Encoding

/-!
# Options of `textscan`

The names by which a run is told what to do: options of the command line and
variables of the environment. An option counts before the variable for the same
thing.
-/

namespace LexScan.Program

/-- The name of the program if its command line does not tell it. -/
def defaultName : Text := "textscan".toList

def title : Text := "textscan - lexical summary of text files".toList

def version : Text := "0.1.0".toList

def defaultLogFile : Text := "textscan.log".toList

def helpOption : Text := "--help".toList

def colorModeOption : Text := "--color-mode".toList

def logLevelOption : Text := "--log-level".toList

def logFileOption : Text := "--log-file".toList

def encodingOption : Text := "--encoding".toList

def lineBreaksOption : Text := "--line-breaks".toList

def jsonOption : Text := "--json".toList

def versionOption : Text := "--version".toList

def logLevelVariable : Text := "TEXTSCAN_LOG_LEVEL".toList

def logFileVariable : Text := "TEXTSCAN_LOG_FILE".toList

def colorModeVariable : Text := "TEXTSCAN_COLOR_MODE".toList

/-- The options of the program. -/
def template : CommandLine.Template where
  header := title
  trailer := "Every file argument may be a glob pattern.".toList
  switches := [
    { long := helpOption, description := "Prints this help text".toList,
      short := some "-h".toList },
    { long := colorModeOption,
      description := ("Selects how color is used in the output:\n"
        ++ "- auto: auto-detect color capabilities (default)\n"
        ++ "- none: Do not use color\n"
        ++ "- 8:    8-color palette\n"
        ++ "- 256:  256-color palette").toList,
      short := some "-cm".toList, parameter := some "<mode>".toList },
    { long := logLevelOption,
      description := ("Selects the logging level. Valid values are \"error\", \"warn\", "
        ++ "\"info\", \"debug\" and \"trace\"").toList,
      short := some "-ll".toList, parameter := some "<level>".toList },
    { long := logFileOption,
      description := "The name of the log file. Default is ".toList ++ defaultLogFile,
      short := some "-lf".toList, parameter := some "<path>".toList },
    { long := encodingOption,
      description := "Encoding of the input files. Default is ".toList ++ Encoding.defaultLabel,
      short := some "-e".toList, parameter := some "<label>".toList },
    { long := lineBreaksOption,
      description := ("Line terminators to recognize:\n"
        ++ "- ascii: CRLF, LF and CR (default)\n"
        ++ "- unicode: also VT, FF, NEL, LS and PS").toList,
      short := some "-lb".toList, parameter := some "<mode>".toList },
    { long := jsonOption, description := "Prints the reports as JSON".toList,
      short := some "-j".toList },
    { long := versionOption, description := "Prints the program version and exits".toList }]

end LexScan.Program
