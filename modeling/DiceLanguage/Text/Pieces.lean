import DiceLanguage.Text.Span

/-!
# Cutting text into pieces

A text is cut by giving each character a role: it separates, it stands alone,
or it joins its neighbours that join too. One pass over the characters keeps
the run that is still open, so a piece is always as long as possible.
-/

set_option autoImplicit false

namespace DiceLanguage.Text

inductive Role where
  /-- It ends the piece before it and belongs to none. -/
  | separating
  /-- It is a piece of its own. -/
  | alone
  /-- It belongs to the run of joining characters around it. -/
  | joining
  deriving DecidableEq

structure Piece where
  start : Nat
  characters : List Char
  deriving DecidableEq

def Piece.span (piece : Piece) : Span := Span.of piece.start piece.characters

/-- A cut in progress: the run that is still open begins at byte `start`, and
both the run and the finished pieces are held latest first. -/
structure Cutting where
  start : Nat
  run : List Char
  pieces : List Piece

namespace Cutting

def initial : Cutting := ⟨0, [], []⟩

/-- Ends the open run. An empty run leaves no piece. -/
def close (cutting : Cutting) : Cutting :=
  match cutting.run with
  | [] => cutting
  | run =>
      { start := cutting.start + byteLength run
        run := []
        pieces := ⟨cutting.start, run.reverse⟩ :: cutting.pieces }

def skip (cutting : Cutting) (character : Char) : Cutting :=
  { cutting with start := cutting.start + character.utf8Size }

def single (cutting : Cutting) (character : Char) : Cutting :=
  { cutting with
    start := cutting.start + character.utf8Size
    pieces := ⟨cutting.start, [character]⟩ :: cutting.pieces }

def join (cutting : Cutting) (character : Char) : Cutting :=
  { cutting with run := character :: cutting.run }

def step (role : Char → Role) (cutting : Cutting) (character : Char) : Cutting :=
  match role character with
  | .separating => cutting.close.skip character
  | .alone => cutting.close.single character
  | .joining => cutting.join character

end Cutting

def pieces (role : Char → Role) (text : List Char) : List Piece :=
  (text.foldl (Cutting.step role) Cutting.initial).close.pieces.reverse

end DiceLanguage.Text
