import RuleGate.Text.Dictionary

/-!
The metadata of a rule document: top-level keys with a scalar, a truth value or a flat list. A list
holds scalars and flat maps; nothing is nested deeper.
-/

namespace RuleGate

namespace Metadata

/-- An item of a list: a scalar, or a flat map of texts. -/
inductive Item where
  | scalar (text : String)
  | map (pairs : Dictionary String)
  deriving DecidableEq

/-- What a top-level key holds. -/
inductive Value where
  | scalar (text : String)
  | bool (value : Bool)
  | list (items : List Item)
  deriving DecidableEq

def Item.map? : Item → Option (Dictionary String)
  | .map pairs => some pairs
  | .scalar _ => none

def Value.text? : Value → Option String
  | .scalar text => some text
  | _ => none

def Value.bool? : Value → Option Bool
  | .bool value => some value
  | _ => none

def Value.items? : Value → Option (List Item)
  | .list items => some items
  | _ => none

end Metadata

/-- The metadata of a rule document. -/
abbrev Metadata := Dictionary Metadata.Value

/-- The text of the scalar under a key. -/
def Metadata.text? (m : Metadata) (key : String) : Option String :=
  (m.find? key).bind Metadata.Value.text?

end RuleGate
