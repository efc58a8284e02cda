import SchemaKit.Text.Quoted

/-!
# Rejections

Why a fragment is not fit to be spliced into SQL text.  `Rejection.message` is the wording.
-/

namespace SchemaKit.Sql

/-- Why a fragment may not be spliced into SQL text. -/
inductive Rejection
  | emptyIdentifier
  | invalidIdentifier (text : String)
  | emptyInterval
  | invalidInterval (text : String)
  | invalidMethod (text : String)
deriving DecidableEq

/-- The wording of a rejection.  The refused text is shown quoted. -/
def Rejection.message : Rejection → String
  | .emptyIdentifier => "Identifier cannot be empty"
  | .invalidIdentifier text =>
    "Invalid identifier: " ++ Text.quote text ++
      ". Must start with a letter or underscore and contain only letters, digits, and underscores."
  | .emptyInterval => "Interval cannot be empty"
  | .invalidInterval text =>
    "Invalid interval: " ++ Text.quote text ++
      ". Expected format: '<number> <unit>' where unit is second, minute, hour, day, week, " ++
      "month, or year."
  | .invalidMethod text =>
    "Invalid index method: " ++ Text.quote text ++
      ". Must be one of: brin, btree, gin, gist, hash, spgist"

/-- The name of a kind of rejection, for callers that tell rejections apart by name. -/
def Rejection.kind : Rejection → String
  | .emptyIdentifier => "Empty"
  | .invalidIdentifier _ => "Invalid"
  | .emptyInterval => "EmptyInterval"
  | .invalidInterval _ => "InvalidInterval"
  | .invalidMethod _ => "InvalidIndexMethod"

end SchemaKit.Sql
