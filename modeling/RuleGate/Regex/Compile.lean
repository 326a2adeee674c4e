import RuleGate.Regex.Meaning
import RuleGate.Regex.Reader
import RuleGate.Regex.Search
import RuleGate.Regex.Size

/-!
From the text of a pattern to a search. The result depends on the text of the pattern alone.
-/

namespace RuleGate

namespace Regex

/-- Why a pattern cannot be searched for. -/
inductive Error where
  | malformed
  | tooLarge
  deriving DecidableEq, Repr

/-- The first line of the words for what is wrong with a pattern. The further lines about a
malformed one, which show the pattern and the place in it, are not modelled. -/
def Error.message : Error → String
  | .malformed => "regex parse error:"
  | .tooLarge => "Compiled regex exceeds size limit of " ++ toString sizeLimit ++ " bytes."

end Regex

/-- A pattern ready to be searched for. -/
structure Search where
  tree : Regex.Marked
  deriving Inhabited

namespace Search

def ofPattern (text : String) : Except Regex.Error Search :=
  match (Regex.Pattern.ofText? text).bind (Regex.Pattern.meaning? Regex.Mode.start) with
  | none => .error .malformed
  | some (regex, _) => if regex.isTooLarge then .error .tooLarge else .ok ⟨regex.marked⟩

def isMatch (search : Search) (text : String) : Bool :=
  Regex.finds search.tree text.toList

end Search

end RuleGate
