import LegendReport.Xml.CharacterData
import LegendReport.Xml.Markup
import LegendReport.Name

/-!
# Namespaces

An attribute `xmlns:p` declares the prefix `p`, and an attribute whose local
part is `xmlns` declares the namespace of names without prefix; the first such
declaration of a tag counts.  A declaration holds for its element and everything
below, unless it is declared again there.  The empty URI is a namespace like any
other.
-/

namespace LegendReport
namespace Xml

/-- The URI that the prefix `xml` stands for. -/
def xmlUri : List Char := "http://www.w3.org/XML/1998/namespace".toList

/-- The URI of the namespace of declarations. -/
def xmlnsUri : List Char := "http://www.w3.org/2000/xmlns/".toList

/-- The declarations in force, the innermost first; the default namespace has the prefix `none`. -/
abbrev Scope := List (Option (List Char) × List Char)

namespace Scope

/-- The URI of a prefix.  A prefix that is not declared is an error; the empty prefix need not be
declared. -/
def uri? (scope : Scope) (space : List Char) : Option (Option (List Char)) :=
  if space = [] then some (scope.lookup none)
  else (scope.lookup (some space)).map some

end Scope

/-- What an attribute says: a declaration, which may be of no consequence, or a proper attribute. -/
inductive AttributeRole where
  | declaration (space : Option (List Char)) (uri : List Char)
  | redundant
  | proper (name : TagName)
  deriving DecidableEq, Repr

namespace Attribute

/-- The role of an attribute, unless its value or the declaration it makes is bad. -/
def role? (written : Attribute) : Option AttributeRole :=
  (attributeValue? written.value).bind fun value =>
    if written.name.space = "xmlns".toList then
      if value = xmlnsUri then none
      else if written.name.localPart = "xml".toList then
        if value = xmlUri then some .redundant else none
      else if value = xmlUri then none
      else some (.declaration (some written.name.localPart) value)
    else if written.name.localPart = "xmlns".toList then
      if value = xmlUri ∨ value = xmlnsUri then none else some (.declaration none value)
    else some (.proper written.name)

end Attribute

namespace AttributeRole

/-- The declarations among the roles, in order. -/
def declarations (roles : List AttributeRole) : Scope :=
  roles.filterMap fun role =>
    match role with
    | declaration space uri => some (space, uri)
    | redundant => none
    | proper _ => none

/-- The names of the proper attributes among the roles, in order. -/
def properNames (roles : List AttributeRole) : List TagName :=
  roles.filterMap fun role =>
    match role with
    | declaration _ _ => none
    | redundant => none
    | proper name => some name

end AttributeRole

/-- The expanded name of a proper attribute.  Without a prefix it is in no namespace. -/
def attributeKey? (scope : Scope) (name : TagName) : Option (Option (List Char) × List Char) :=
  if name.space = [] then some (none, name.localPart)
  else if name.space = "xml".toList then some (some xmlUri, name.localPart)
  else (scope.uri? name.space).map fun uri => (uri, name.localPart)

/-- Whether no element of a list occurs twice. -/
def allDistinct {α : Type} [DecidableEq α] : List α → Bool
  | [] => true
  | a :: rest => !rest.contains a && allDistinct rest

/-- The expanded name of a start tag and the scope inside its element.  No prefix is declared twice
in one tag, and no two attributes have the same expanded name. -/
def openTag?
    (scope : Scope)
    (name : TagName)
    (attributes : List Attribute) :
    Option (ExpandedName × Scope) := do
  if name.space = "xmlns".toList ∨ name.space = "xml".toList then none
  let roles ← attributes.mapM Attribute.role?
  let declared := AttributeRole.declarations roles
  if !allDistinct (declared.filterMap Prod.fst) then none
  let inner := declared ++ scope
  let keys ← (AttributeRole.properNames roles).mapM (attributeKey? inner)
  if !allDistinct keys then none
  let uri ← inner.uri? name.space
  return (⟨uri.map String.ofList, String.ofList name.localPart⟩, inner)

end Xml
end LegendReport
