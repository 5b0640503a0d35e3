import CiteForm.Yaml.Mark
/-!
# YAML events

The events a YAML text is parsed into: the start and end of the stream, of each document
and of each collection, scalars, and aliases. Each event knows where it starts and ends.

A scalar carries two flags for how its tag is found when it has none: `plainImplicit`
when its value decides (a plain scalar), `quotedImplicit` when it is a string whatever its
value (a quoted or block scalar).
-/

namespace CiteForm.Yaml

namespace Event

/-- The kinds of event. -/
inductive Kind where
  | streamStart
  | streamEnd
  | documentStart (explicit : Bool)
  | documentEnd (explicit : Bool)
  /-- An alias: a reference to the node an anchor named. -/
  | reference (anchor : String)
  | scalar (anchor : Option String) (tag : Option String) (plainImplicit quotedImplicit : Bool)
      (value : String) (style : Option Char)
  | sequenceStart (anchor : Option String) (tag : Option String) (implicit : Bool) (flow : Bool)
  | sequenceEnd
  | mappingStart (anchor : Option String) (tag : Option String) (implicit : Bool) (flow : Bool)
  | mappingEnd
  deriving DecidableEq, Repr, Inhabited

/-- The anchor an event gives its node, if any. -/
def Kind.anchor? : Kind → Option String
  | scalar a _ _ _ _ _ | sequenceStart a _ _ _ | mappingStart a _ _ _ => a
  | _ => none

end Event

/-- An event with the marks of its start and end. -/
structure Event where
  kind : Event.Kind
  start : Mark
  stop : Mark
  deriving DecidableEq, Repr, Inhabited

end CiteForm.Yaml
