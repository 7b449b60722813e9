/-!
Spelling of names: words joined by underscores, and words joined by capitals.
-/
namespace FleetPlan.Text

/-- Writes a name in camel case: each underscore goes and the letter behind it is a capital. -/
def camelCase : List Char → List Char
  | [] => []
  | ['_'] => ['_']
  | '_' :: c :: cs => c.toUpper :: camelCase cs
  | c :: cs => c :: camelCase cs

def toCamelCase (s : String) : String := String.ofList (camelCase s.toList)

end FleetPlan.Text
