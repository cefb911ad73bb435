import LexScan.Text

/-!
# Styled output

Output is a list of pieces: texts, and changes of colour between them that name
what the next text is for. What a reader sees as text does not depend on the
colours.
-/

namespace LexScan

/-- What a text is for. -/
inductive Role where
  | primary
  | secondary
  | highlight
  | error
deriving DecidableEq, Repr

inductive Piece where
  | text (t : Text)
  | color (role : Role)
  | reset
deriving DecidableEq, Repr

abbrev Styled := List Piece

/-- The colours a terminal is given. -/
inductive ColorMode where
  | none
  | eight
  | twoHundredFiftySix
deriving DecidableEq, Repr

namespace Styled

/-- The texts without the colours. -/
def plain (pieces : Styled) : Text :=
  pieces.flatMap fun piece =>
    match piece with
    | .text t => t
    | .color _ => []
    | .reset => []

@[simp] theorem plain_nil : plain [] = [] := rfl

@[simp] theorem plain_text_cons (t : Text) (pieces : Styled) :
    plain (.text t :: pieces) = t ++ plain pieces := rfl

@[simp] theorem plain_color_cons (role : Role) (pieces : Styled) :
    plain (.color role :: pieces) = plain pieces := rfl

@[simp] theorem plain_reset_cons (pieces : Styled) :
    plain (.reset :: pieces) = plain pieces := rfl

theorem plain_append (pieces more : Styled) :
    plain (pieces ++ more) = plain pieces ++ plain more := List.flatMap_append

theorem plain_cons (piece : Piece) (pieces : Styled) :
    plain (piece :: pieces) = plain [piece] ++ plain pieces := plain_append [piece] pieces

theorem plain_flatMap {α : Type} (pieces : α → Styled) (l : List α) :
    plain (l.flatMap pieces) = l.flatMap fun a => plain (pieces a) := List.flatMap_assoc

/-- The colour of a role, as an index into the palette. -/
def paletteIndex : ColorMode → Role → Option Nat
  | .none, _ => Option.none
  | .eight, .primary => some 14
  | .eight, .secondary => some 7
  | .eight, .highlight => some 11
  | .eight, .error => some 9
  | .twoHundredFiftySix, .primary => some 39
  | .twoHundredFiftySix, .secondary => some 244
  | .twoHundredFiftySix, .highlight => some 214
  | .twoHundredFiftySix, .error => some 196

/-- A terminal control sequence. -/
def control (parameters : Text) : Text := ['\x1b', '['] ++ parameters ++ ['m']

def renderPiece (mode : ColorMode) : Piece → Text
  | .text t => t
  | .color role =>
      match paletteIndex mode role with
      | some n => control ("38;5;".toList ++ Text.ofNat n)
      | Option.none => []
  | .reset => if mode = .none then [] else control "39".toList

/-- The pieces as they are sent to a terminal. -/
def render (mode : ColorMode) (pieces : Styled) : Text := pieces.flatMap (renderPiece mode)

/-- A number of spaces. -/
def blanks (n : Nat) : Text := List.replicate n ' '

end Styled

end LexScan
