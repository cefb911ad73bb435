import LexScan.Cursor
import LexScan.Encoding
import LexScan.FileTree
import LexScan.Log
import LexScan.TextPosition

/-!
# Sources

A source is a text with a name, decoded as a whole from bytes. Malformed bytes
are never replaced: decoding fails with the malformed bytes and the position in
the text before them.
-/

namespace LexScan

structure Source where
  name : Text
  text : Text
  mode : LineBreakMode := .ascii
deriving DecidableEq, Repr

namespace Source

/-- A cursor at the start of the text. -/
def cursor (s : Source) : Cursor := .start s.mode s.text

def withMode (s : Source) (mode : LineBreakMode) : Source := { s with mode }

end Source

/-- Why there is no source. -/
inductive SourceError where
  | io (cause : FileError)
  /-- Bytes that are malformed in an encoding, and where the text before them ends. -/
  | malformed (bytes : Bytes) (encoding : Encoding) (position : TextPosition)
  | unknownEncoding (label : Text)
deriving DecidableEq, Repr

/-- Bytes as diagnostics list them. -/
def Bytes.display (bytes : Bytes) : Text :=
  ['['] ++ Text.join [',', ' '] (bytes.map fun b => Text.ofNat b.toNat) ++ [']']

namespace SourceError

def message : SourceError → Text
  | io cause => "IO error: ".toList ++ cause.message
  | malformed bytes encoding position =>
      "Could not decode ".toList ++ Bytes.display bytes ++ " as valid ".toList ++ encoding.name
        ++ " at ".toList ++ position.display
  | unknownEncoding label => "Unknown encoding '".toList ++ label ++ ['\'']

end SourceError

namespace Source

/-- The encoding that a label names. -/
def encodingOf (label : Text) : Except SourceError Encoding :=
  match Encoding.ofLabel? label with
  | some e => .ok e
  | none => .error (.unknownEncoding label)

/-- The malformed bytes, given how many bytes were read in all, how many of them
are malformed and how many lie behind these. -/
def malformedBytes (bytes : Bytes) (consumed bad ahead : Nat) : Bytes :=
  (bytes.take (consumed - ahead)).drop (consumed - ahead - bad)

/-- The text that bytes say in an encoding. -/
def decode (tables : Encoding.Tables) (bytes : Bytes) (encoding : Encoding) :
    Logged (Except SourceError Text) :=
  match encoding.decode tables bytes with
  | .complete text => pure (.ok text)
  | .malformed text consumed bad ahead => do
      let wrong := malformedBytes bytes consumed bad ahead
      let position := TextPosition.atOffset .ascii text text.size
      Logged.debug ("Malformed ".toList ++ encoding.name ++ " input at ".toList
        ++ position.display ++ ": ".toList ++ Bytes.display wrong)
      pure (.error (.malformed wrong encoding position))

/-- The record made before a file is opened. -/
def opening (path : Text) : Log.Record :=
  ⟨.trace, "Opening file ".toList ++ path ++ "...".toList⟩

/-- The source in the file at a path, named by the path. -/
def load (tables : Encoding.Tables) (tree : FileTree) (path : Text) (encoding : Encoding) :
    Logged (Except SourceError Source) := do
  Logged.tell (opening path)
  match tree.read path with
  | .error cause => pure (.error (.io cause))
  | .ok bytes =>
      Logged.trace ("Decoding ".toList ++ Text.ofNat bytes.length ++ " bytes from ".toList
        ++ path ++ " as ".toList ++ encoding.name ++ "...".toList)
      match ← decode tables bytes encoding with
      | .error e => pure (.error e)
      | .ok text => pure (.ok ⟨path, text, .ascii⟩)

end Source

end LexScan
