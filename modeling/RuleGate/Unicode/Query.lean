import RuleGate.Unicode.Age
import RuleGate.Unicode.ScriptExtension
import RuleGate.Unicode.Segmentation

/-!
Sets of characters by the names of the Unicode standard. Names are matched loosely: case, spaces,
underscores and hyphens do not count, nor do characters outside ASCII, nor a leading `is`.
-/

namespace RuleGate.Unicode

/-- The form of a name in which two names that match loosely are equal. A lone `c` after `is` keeps
its prefix, because `isc` abbreviates a property of its own. -/
def looseName (name : List Char) : List Char :=
  let hasIs := (name.take 2).map Char.toLower == ['i', 's']
  let bare := (if hasIs then name.drop 2 else name).filter fun c =>
    c.toNat < 0x80 && c != ' ' && c != '_' && c != '-'
  let lower := bare.map Char.toLower
  if hasIs && lower == ['c'] then ['i', 's', 'c'] else lower

/-- The first of the named entries that has the given loose name. -/
def named? {α : Type} (loose : List Char) (entries : List (String × α)) : Option α :=
  (entries.find? fun e => (words e.1).any fun name => looseName name == loose).map Prod.snd

/-- The characters of a general category or of a group of them. -/
def categorySet? (loose : List Char) : Option CharSet :=
  if loose == "any".toList then some CharSet.all
  else if loose == "assigned".toList then some (category "Cn").complement
  else if loose == "ascii".toList then some (CharSet.ofRanges [(0, 0x7F)])
  else
    match named? loose categories with
    | some table => some (readSet table)
    | none => (named? loose categoryGroups).map anyCategory

/-- The characters that are written in a script. -/
def scriptSet? (loose : List Char) : Option CharSet :=
  (named? loose scripts).map readSet

/-- The characters that are used with a script. -/
def scriptExtensionSet? (loose : List Char) : Option CharSet :=
  (scriptSet? loose).map fun set =>
    let extras := ((named? loose scriptExtras).map readSet).getD CharSet.empty
    let losses := ((named? loose scriptLosses).map readSet).getD CharSet.empty
    (set.union extras).diff losses

/-- The characters with a property that is true or false. -/
def propertySet? (loose : List Char) : Option CharSet :=
  match named? loose tabledProperties with
  | some table => some (readSet table)
  | none => (named? loose derivedProperties).map fun set => set ()

/-- The characters that a single name stands for: a property, a general category or a script, looked
up in this order. -/
def setOfName? (name : List Char) : Option CharSet :=
  let loose := looseName name
  (propertySet? loose).or ((categorySet? loose).or (scriptSet? loose))

/-- The characters that have been in the standard since a version of it. -/
def ageSet? (loose : List Char) : Option CharSet :=
  (additions.findIdx? fun e => (words e.1).any fun name => looseName name == loose).map fun i =>
    CharSet.unions ((additions.take (i + 1)).map fun e => readSet e.2)

/-- The characters with a value of a property by which texts are cut. -/
def segmentSet? (values : List (String × (Unit → CharSet))) (loose : List Char) : Option CharSet :=
  (named? loose values).map fun set => set ()

/-- The properties that can be asked for a value, under their names, and the set of each value. -/
def valuedProperties : List (String × (List Char → Option CharSet)) := [
    ("gc General_Category", categorySet?),
    ("sc Script", scriptSet?),
    ("scx Script_Extensions", scriptExtensionSet?),
    ("age", ageSet?),
    ("GCB Grapheme_Cluster_Break", segmentSet? clusterBreaks),
    ("WB Word_Break", segmentSet? wordBreaks),
    ("SB Sentence_Break", segmentSet? sentenceBreaks)
  ]

/-- The characters for which the property called `name` has the value called `value`. -/
def setOfValue? (name value : List Char) : Option CharSet :=
  (named? (looseName name) valuedProperties).bind fun set => set (looseName value)

end RuleGate.Unicode
