/-!
# Errors of services
-/

namespace Runbook

/-- Why a call to a service gave no answer that can be used. -/
inductive PortError where
  | service (operation resource message : String)
  | transport (operation resource message : String)
  | missingField (operation resource field : String)
  | invalidRequest (operation resource detail : String)
deriving DecidableEq, Repr

/-- The display text of an error. -/
def PortError.message : PortError → String
  | service operation resource message =>
      operation ++ " failed for '" ++ resource ++ "': " ++ message
  | transport operation resource message =>
      operation ++ " for '" ++ resource ++ "' did not reach the service: " ++ message
  | missingField operation resource field =>
      operation ++ " returned no " ++ field ++ " for '" ++ resource ++ "'"
  | invalidRequest operation resource detail =>
      "invalid " ++ operation ++ " request for '" ++ resource ++ "': " ++ detail

end Runbook
