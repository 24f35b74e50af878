import SearchFilter.Kind
/-!
# The standard kinds

The sixteen kinds in the order in which names are resolved.
-/

namespace SearchFilter

namespace Kind

def equals : Kind where
  name := "equals"
  aliases := ["is", "eq"]
  types := SemanticType.all
  operation := .compare "="
  bare := true

def doesNotEqual : Kind where
  name := "does_not_equal"
  aliases := ["is_not", "not", "ne"]
  types := SemanticType.all
  operation := .compare "!="

def contains : Kind where
  name := "contains"
  aliases := ["like", "has"]
  types := [.text]
  operation := .pattern false "%" "%"

def doesNotContain : Kind where
  name := "does_not_contain"
  aliases := ["not_like", "not_have"]
  types := [.text]
  operation := .pattern true "%" "%"

def beginsWith : Kind where
  name := "begins_with"
  aliases := ["bw", "sw", "starts_with"]
  types := [.text]
  operation := .pattern false "" "%"

def endsWith : Kind where
  name := "ends_with"
  aliases := ["ew", "ends"]
  types := [.text]
  operation := .pattern false "%" ""

def greaterThan : Kind where
  name := "greater_than"
  aliases := ["gt", "after"]
  types := SemanticType.ordered
  operation := .compare ">"
  temporalAlias := some "after"

def greaterThanOrEqualTo : Kind where
  name := "greater_than_or_equal_to"
  aliases := ["gte", "at_least"]
  types := SemanticType.ordered
  operation := .compare ">="

def lessThan : Kind where
  name := "less_than"
  aliases := ["lt", "before"]
  types := SemanticType.ordered
  operation := .compare "<"
  temporalAlias := some "before"

def lessThanOrEqualTo : Kind where
  name := "less_than_or_equal_to"
  aliases := ["lte", "at_most"]
  types := SemanticType.ordered
  operation := .compare "<="

def isNull : Kind where
  name := "is_null"
  aliases := ["null", "nil"]
  types := SemanticType.all
  operation := .nullCheck false

def isNotNull : Kind where
  name := "is_not_null"
  aliases := ["not_null", "not_nil"]
  types := SemanticType.all
  operation := .nullCheck true

def isIn : Kind where
  name := "in"
  aliases := ["in_set", "one_of"]
  types := [.text, .integer, .float, .boolean, .temporal]
  operation := .membership false

def notIn : Kind where
  name := "not_in"
  aliases := ["not_in_set"]
  types := [.text, .integer, .float, .boolean, .temporal]
  operation := .membership true

def keywords : Kind where
  name := "keywords"
  aliases := ["kwords", "kw"]
  types := [.text]
  operation := .keywords

def between : Kind where
  name := "between"
  types := SemanticType.ordered
  operation := .between

def standard : List Kind :=
  [equals, doesNotEqual, contains, doesNotContain, beginsWith, endsWith,
    greaterThan, greaterThanOrEqualTo, lessThan, lessThanOrEqualTo,
    isNull, isNotNull, isIn, notIn, keywords, between]

end Kind

end SearchFilter
