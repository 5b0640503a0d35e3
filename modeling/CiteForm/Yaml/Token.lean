import CiteForm.Yaml.Mark
/-!
# YAML tokens

The tokens a YAML text is read into: indicators of structure, the block structure that
indentation implies, and the properties and scalars of nodes. Each token knows where it
starts and ends.

* `Token.Kind`, `Token` — tokens and their marks.
* `Token.Kind.name` — how an error message names a token.
-/

namespace CiteForm.Yaml

/-- What a directive says. -/
inductive DirectiveValue where
  /-- `%YAML major.minor` -/
  | version (major minor : Nat)
  /-- `%TAG handle prefix` -/
  | tagPrefix (handle pre : String)
  /-- Any other directive, which is ignored. -/
  | other
  deriving DecidableEq, Repr

namespace Token

/-- The kinds of token. -/
inductive Kind where
  | streamStart
  | streamEnd
  | directive (name : String) (value : DirectiveValue)
  | documentStart
  | documentEnd
  | blockSequenceStart
  | blockMappingStart
  | blockEnd
  | flowSequenceStart
  | flowMappingStart
  | flowSequenceEnd
  | flowMappingEnd
  | key
  | value
  | blockEntry
  | flowEntry
  /-- An alias: a reference to the node an anchor named. -/
  | reference (name : String)
  | anchor (name : String)
  /-- A tag: its handle, if it has one, and its suffix. -/
  | tag (handle : Option String) (suffix : String)
  /-- A scalar: its value, whether it was written plain, and its quote or block style. -/
  | scalar (value : String) (plain : Bool) (style : Option Char)
  deriving DecidableEq, Repr, Inhabited

/-- How error messages name a kind of token. -/
def Kind.name : Kind → String
  | streamStart => "<stream start>"
  | streamEnd => "<stream end>"
  | directive _ _ => "<directive>"
  | documentStart => "<document start>"
  | documentEnd => "<document end>"
  | blockSequenceStart => "<block sequence start>"
  | blockMappingStart => "<block mapping start>"
  | blockEnd => "<block end>"
  | flowSequenceStart => "["
  | flowMappingStart => "\x7b"
  | flowSequenceEnd => "]"
  | flowMappingEnd => "\x7d"
  | key => "?"
  | value => ":"
  | blockEntry => "-"
  | flowEntry => ","
  | reference _ => "<alias>"
  | anchor _ => "<anchor>"
  | tag _ _ => "<tag>"
  | scalar _ _ _ => "<scalar>"

end Token

/-- A token with the marks of its start and end. -/
structure Token where
  kind : Token.Kind
  start : Mark
  stop : Mark
  deriving DecidableEq, Repr, Inhabited

end CiteForm.Yaml
