/-!
**Failures of a single query.**

* `Failure`: why a query brought no answer;
* `Failure.isTransient`: whether asking again may help.
-/

namespace ServiceLocation.Naptr

/-- Why a query brought no answer. -/
inductive Failure where
  /-- Asking again may help. -/
  | tryAgain (reason : String)
  /-- The name does not exist. -/
  | hostNotFound
  /-- Asking again does not help. -/
  | unrecoverable (reason : String)
  deriving Repr, DecidableEq

namespace Failure

/-- Whether asking again may help. -/
def isTransient : Failure → Bool
  | tryAgain _ => true
  | hostNotFound => false
  | unrecoverable _ => false

/-- The failure in words. -/
def message : Failure → String
  | tryAgain reason => "temporary failure: " ++ reason
  | hostNotFound => "host not found"
  | unrecoverable reason => "unrecoverable lookup failure: " ++ reason

end Failure

end ServiceLocation.Naptr
