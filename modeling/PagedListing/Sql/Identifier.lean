/-!
# Delimited identifiers

A name in a statement stands between double quotes, a quote inside it written twice. Reading takes
characters up to the first quote that is not doubled.
-/

namespace PagedListing.Sql

/-- The characters of a name with every quote doubled. -/
def doubleQuotes : List Char → List Char
  | [] => []
  | c :: cs => if c = '"' then '"' :: '"' :: doubleQuotes cs else c :: doubleQuotes cs

/-- A name between quotes. -/
def quote (name : String) : String :=
  String.ofList ('"' :: doubleQuotes name.toList ++ ['"'])

/-- The name up to the closing quote, and what follows. -/
def readQuoted? : List Char → Option (List Char × List Char)
  | [] => none
  | '"' :: '"' :: cs => (readQuoted? cs).map fun (name, rest) => ('"' :: name, rest)
  | '"' :: cs => some ([], cs)
  | c :: cs => (readQuoted? cs).map fun (name, rest) => (c :: name, rest)

/-- The delimited identifier at the front of a text, and what follows. -/
def readIdentifier? : List Char → Option (List Char × List Char)
  | '"' :: cs => readQuoted? cs
  | _ => none

end PagedListing.Sql
