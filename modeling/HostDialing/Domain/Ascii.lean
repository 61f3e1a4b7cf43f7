import HostDialing.Domain.Direction
import HostDialing.Domain.Label
import HostDialing.Text.Fields

/-!
# Domain names in ASCII

The one form in which a domain name is sent, whatever characters and case it is written in. Names
that count as the same have the same form. This is the compatibility processing of the Unicode
standard for internationalized names, where hyphens may stand anywhere and labels have any length.
-/

namespace HostDialing

/-- The labels of a name: its characters are mapped and composed, and what counts as a dot divides
them. -/
def domainLabels? (name : List Char) : Option (List (List Char)) := do
  return fields '.' (normalForm (← name.mapM mapped?).flatten)

/-- A domain name in ASCII, if it is one. -/
def asciiDomain? (name : List Char) : Option (List Char) := do
  let labels ← domainLabels? name
  let texts ← labels.mapM labelText?
  if texts.any hasRightToLeft && !texts.all runsOneWay then none
  else return joined '.' (labels.map asciiLabel)

end HostDialing
