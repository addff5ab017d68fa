import PagedListing.Web.UrlProblem

/-!
# Errors

Every way in which a request, a query or a configuration can fail, with its wording. The errors that
the parameters of a request cause are the errors of the client.
-/

namespace PagedListing

open PagedListing.Web (UrlProblem)

/-- Why an operation failed. -/
inductive Error where
  /-- A directive key outside the grammar of keys. -/
  | malformedKey (key : String)
  | unknownOperator (token : String)
  /-- An operator got the wrong number of values. -/
  | wrongArity (operator expected : String) (found : Nat)
  | unknownField (field : String)
  | invalidValue (field value expected : String)
  | unsupportedOperator (operator field : String)
  | invalidDirection (field value : String)
  | invalidParameter (name problem : String)
  | storage (problem : String)
  | config (problem : String)
  | yaml (problem : String)
  | json (problem : String)
  | url (problem : UrlProblem)
  | io (problem : String)
  /-- Any other failure, in its own words. -/
  | other (problem : String)
  deriving DecidableEq, Inhabited

namespace Error

/-- The wording of an error. -/
def message : Error → String
  | malformedKey key =>
    "Malformed filter key '" ++ key ++
      "': expected 'where__<field>[__<operator>]' or 'order__<field>'"
  | unknownOperator token => "Unknown filter operator: " ++ token
  | wrongArity operator expected found =>
    "Operator '" ++ operator ++ "' expects " ++ expected ++ " comma-separated value(s), got " ++
      toString found
  | unknownField field => "Unknown field: " ++ field
  | invalidValue field value expected =>
    "Invalid value '" ++ value ++ "' for field '" ++ field ++ "': expected " ++ expected
  | unsupportedOperator operator field =>
    "Operator '" ++ operator ++ "' is not supported on field '" ++ field ++ "'"
  | invalidDirection field value =>
    "Invalid order direction '" ++ value ++ "' for field '" ++ field ++ "': expected ASC or DESC"
  | invalidParameter name problem => "Invalid parameter '" ++ name ++ "': " ++ problem
  | storage problem => "Storage error: " ++ problem
  | config problem => "Configuration error: " ++ problem
  | yaml problem => "Failed to parse YAML: " ++ problem
  | json problem => "Failed to parse JSON: " ++ problem
  | url problem => "Invalid URL: " ++ problem.message
  | io problem => "IO error: " ++ problem
  | other problem => problem

/-- Whether the parameters of the request caused the error. -/
def isClientError : Error → Bool
  | malformedKey _ | unknownOperator _ | wrongArity _ _ _ | unknownField _ | invalidValue _ _ _
  | unsupportedOperator _ _ | invalidDirection _ _ | invalidParameter _ _ => true
  | _ => false

/-- The error told in a context: the context, a colon and the wording of the error. -/
def withContext (e : Error) (context : String) : Error :=
  other (context ++ ": " ++ e.message)

end Error

end PagedListing
