namespace VisualNovel

/-- The parts of a face that are set; the others are left to the character's default. -/
structure Expression where
  eye : Option String := none
  mouth : Option String := none
  brow : Option String := none
  cheek : Option String := none
deriving DecidableEq, Repr, Inhabited

namespace Expression

/-- Fills every part that is not set from `defaults`. -/
def orDefault (expression defaults : Expression) : Expression where
  eye := expression.eye.or defaults.eye
  mouth := expression.mouth.or defaults.mouth
  brow := expression.brow.or defaults.brow
  cheek := expression.cheek.or defaults.cheek

def isEmpty (expression : Expression) : Bool :=
  expression.eye.isNone && expression.mouth.isNone && expression.brow.isNone &&
    expression.cheek.isNone

end Expression

end VisualNovel
