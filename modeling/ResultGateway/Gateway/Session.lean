-- Sessions. A session has a slot for the token of the API, and a store of
-- result records. Neither changes the other.
import ResultGateway.Result.Store

namespace ResultGateway.Gateway

structure Session where
  token : Option String := none
  store : Result.Store := .empty
deriving Repr

namespace Session

def withToken (s : Session) (token : String) : Session := { s with token := some token }

def clearToken (s : Session) : Session := { s with token := none }

end Session

end ResultGateway.Gateway
