import Readership.Number.Numeral

/-!
# What can go wrong with a server

A statement is refused before it is sent, or the server cannot be reached, or
it does not answer in time, or it answers with an error, or its answer cannot
be understood. Only the second and the third may go away by themselves.
-/

namespace Readership

/-- **A failed query.** -/
inductive ServerFault where
  /-- The server could not be reached. -/
  | connection (detail : String)
  /-- The server did not answer in time. -/
  | timeout (detail : String)
  /-- The server answered with an error status. -/
  | status (code : Nat) (message : String)
  /-- The statement was refused before it was sent. -/
  | statement (detail : String)
  /-- The answer does not have the form it should have. -/
  | answer (detail : String)
deriving DecidableEq, Repr

namespace ServerFault

/-- Whether the same statement may succeed when it is sent again. -/
def isTransient : ServerFault → Bool
  | connection _ | timeout _ => true
  | status _ _ | statement _ | answer _ => false

/-- The message of a failed query. -/
def message : ServerFault → String
  | connection detail => "connection failed: " ++ detail
  | timeout detail => "query timed out: " ++ detail
  | status code text => "server error (" ++ Numeral.ofNat code ++ "): " ++ text
  | statement detail => "invalid SQL: " ++ detail
  | answer detail => "malformed response: " ++ detail

end ServerFault

end Readership
