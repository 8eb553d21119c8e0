import NarIndex.Sql.Dialect

/-!
# NarIndex.Sql.Template

Statements are written once, as templates: a question mark stands for a bind parameter and
backticks stand around reserved names.  Rendering numbers the parameters from left to right and
puts the quote character of the dialect in the place of each backtick.
-/

namespace NarIndex.Sql

/-- Rendering that goes on after `count` parameters. -/
def renderFrom (dialect : Dialect) : Nat → List Char → List Char
  | _, [] => []
  | count, c :: template =>
    if c = '?' then dialect.placeholder (count + 1) ++ renderFrom dialect (count + 1) template
    else if c = '\x60' then dialect.quote :: renderFrom dialect count template
    else c :: renderFrom dialect count template

/-- A template in a dialect. -/
def render (dialect : Dialect) (template : String) : String :=
  String.ofList (renderFrom dialect 0 template.toList)

end NarIndex.Sql
