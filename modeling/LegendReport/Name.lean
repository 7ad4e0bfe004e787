/-!
# Expanded names

An element is known by its namespace URI, which may be missing, and its local
name.  Being in the namespace whose URI is the empty text is different from
being in no namespace.  A name matches an element exactly if the two expanded
names are equal.
-/

namespace LegendReport

/-- A local name together with the URI of its namespace, if it is in one. -/
structure ExpandedName where
  uri : Option String
  localName : String
  deriving DecidableEq, Repr

namespace ExpandedName

/-- The name with its URI, if any, in braces before the local part. -/
def render (name : ExpandedName) : String :=
  match name.uri with
  | some uri => "\x7b" ++ uri ++ "\x7d" ++ name.localName
  | none => name.localName

end ExpandedName

end LegendReport
