/-!
# Laid out text

Nested output is a list of pieces: text, and line breaks that know how deep the
next line stands. The depth is turned into spaces only when the pieces are
rendered, so what is written does not depend on the width of the indentation.
-/

namespace BlockData

/-- A piece of laid out text. -/
inductive Piece where
  /-- Text within a line. -/
  | text (content : String)
  /-- The end of a line, and the depth of the next one. -/
  | newLine (depth : Nat)
deriving DecidableEq, Repr

/-- The text of a piece when a level is indented by `width` spaces. Any width will do: a text may
be as long as it needs to be, where a machine runs out of memory at some length. -/
def Piece.render (width : Nat) : Piece → String
  | .text content => content
  | .newLine depth => String.ofList ('\n' :: List.replicate (depth * width) ' ')

/-- The text of some pieces when a level is indented by `width` spaces. -/
def renderPieces (width : Nat) (pieces : List Piece) : String :=
  pieces.foldl (fun written piece => written ++ piece.render width) ""

end BlockData
