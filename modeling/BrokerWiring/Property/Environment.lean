import BrokerWiring.Property.Set

/-!
# Properties from environment variables

A variable names a property when its name has a double underscore: `SCOPE__SEGMENT__KEY` stands
for `scope.segment.key`. The whole key is lowered as a text, and the variable counts only if the
key lies below the scope in relaxed form.
-/

namespace BrokerWiring

namespace Property

/-- The characters with a dot for every double underscore, from the left and without overlap. -/
def dotted : List Char → List Char
  | '_' :: '_' :: rest => '.' :: dotted rest
  | c :: rest => c :: dotted rest
  | [] => []

/-- Whether two underscores stand side by side. -/
def hasDoubleUnderscore : List Char → Bool
  | '_' :: '_' :: _ => true
  | _ :: rest => hasDoubleUnderscore rest
  | [] => false

/-- The key that the name of a variable spells. -/
def variableKey (name : String) : String := Text.lowerText (String.ofList (dotted name.toList))

/-- A variable that names a property. -/
structure Variable where
  name : String
  key : String
  value : String
  deriving Repr, DecidableEq

/-- The property that a variable, given by its name and its value, sets below a scope. -/
def settingOf? (scope : String) (pair : String × String) : Option Variable :=
  if hasDoubleUnderscore pair.1.toList then
    let key := variableKey pair.1
    let lead := (canonicalKey scope).toList ++ ['.']
    if lead.isPrefixOf (canonicalKey key).toList then some ⟨pair.1, key, pair.2⟩ else none
  else none

/-- The variables that name properties below a scope, in order. -/
def variablesBelow (scope : String) (environment : List (String × String)) : List Variable :=
  environment.filterMap (settingOf? scope)

end Property

/-- The properties that an environment sets below a scope; of two variables for one property the
later one counts. -/
def PropertySet.ofEnvironment (scope : String) (environment : List (String × String)) :
    PropertySet :=
  PropertySet.empty.insertAll
    ((Property.variablesBelow scope environment).map fun v => (v.key, v.value))

end BrokerWiring
