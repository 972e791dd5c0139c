import DocLint.Pattern.Matching
import DocLint.Pattern.Meaning
import DocLint.Pattern.Reader
import DocLint.Pattern.Size

/-!
# Patterns

A pattern is a text that could be read, together with what it means. `compile` accepts exactly the
texts without a fault that are not too large, and `isMatch` asks whether any part of a line matches.
-/

namespace DocLint

/-- A pattern, ready for matching. -/
structure Pattern where
  text : String
  node : Pattern.Node

namespace Pattern

/-- What keeps a text from being a pattern. -/
inductive Obstacle
  /-- It cannot be read. -/
  | fault (f : Fault)
  /-- It can be read, but is too large. -/
  | size
  deriving DecidableEq, Repr

/-- Why a text is no pattern. -/
structure Error where
  pattern : String
  obstacle : Obstacle
  deriving DecidableEq, Repr

/-- The text of an error: the pattern with the faulty span marked, or the limit of its size. -/
def Error.message (e : Error) : String :=
  match e.obstacle with
  | .fault f => f.render e.pattern
  | .size => "Compiled regex exceeds size limit of " ++ sizeLimit.repr ++ " bytes."

/-- What a text means as a pattern, of whatever size. -/
def Node.ofText (text : String) : Except Fault Node := do
  let tree ← read text.toList
  let (node, _) ← tree.meaning {}
  return node

/-- Reads a text as a pattern. -/
def compile (text : String) : Except Error Pattern :=
  match Node.ofText text with
  | .error f => .error ⟨text, .fault f⟩
  | .ok node => if node.isTooLarge then .error ⟨text, .size⟩ else .ok ⟨text, node⟩

/-- Whether a pattern matches some part of a line. -/
def isMatch (p : Pattern) (line : String) : Bool := p.node.isMatch line

end Pattern

end DocLint
