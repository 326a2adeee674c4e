import RuleGate.Metadata.Reader

/-!
Rule documents: a metadata block between two delimiters of three dashes, and the message below it.
Reading never fails. A text without both delimiters has no metadata and is all message, which is how
a malformed document is recognised.
-/

namespace RuleGate

open Text

/-- A rule document: its metadata, and the message that follows. -/
structure Document where
  metadata : Metadata
  body : String
  deriving DecidableEq

namespace Document

/-- Three dashes open and close the metadata block, wherever they stand. -/
def delimiter : List Char :=
  ['-', '-', '-']

/-- The metadata block and the message of a text that opens with the delimiter and holds another. -/
def split? (content : List Char) : Option (List Char × List Char) :=
  if delimiter.isPrefixOf content then cutAt? delimiter (content.drop delimiter.length) else none

/-- Reads a document. The message is trimmed, and further delimiters belong to it; a text without
a metadata block is its own message, as it stands. -/
def ofText (content : String) : Document :=
  match split? content.toList with
  | none => ⟨Dictionary.empty, content⟩
  | some (block, body) => ⟨Metadata.ofText block, String.ofList (trim body)⟩

end Document

end RuleGate
