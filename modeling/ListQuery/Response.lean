import ListQuery.Error
import ListQuery.Json.Writer
import ListQuery.Text.Quoted

/-!
# Error responses

A request fails because its query is rejected, because the database reports an error, or
because an answer of the database makes no sense.  Only the first tells the client what is
wrong; what the others know about the cause is for the log.
-/

namespace ListQuery

inductive DatabaseError where
  | reported (reason : String)
  /-- A column is missing, null or of another type than it has to be. -/
  | undecodable (column : String)
  | unanswered
  deriving DecidableEq, Repr

def DatabaseError.description : DatabaseError → String
  | .reported reason => "Custom(" ++ Text.quoted reason ++ ")"
  | .undecodable column =>
      "Type(" ++ Text.quoted
        ("A null value was encountered while decoding " ++ Text.quoted column) ++ ")"
  | .unanswered =>
      "Query(Internal(" ++ Text.quoted "`query_results` buffer is empty." ++ "))"

inductive ApiError where
  | badRequest (message : String)
  | database (error : DatabaseError)
  | internal (message : String) (details? : Option String)
  deriving DecidableEq, Repr

inductive Status where
  | badRequest
  | internalServerError
  deriving DecidableEq, Repr

namespace Status

def code : Status → Nat
  | .badRequest => 400
  | .internalServerError => 500

def text : Status → String
  | .badRequest => "400 Bad Request"
  | .internalServerError => "500 Internal Server Error"

end Status

structure Response where
  status : Status
  contentType : String
  body : String
  deriving DecidableEq, Repr

namespace ApiError

def ofQueryError (error : QueryError) : ApiError := .badRequest error.message

def status : ApiError → Status
  | .badRequest _ => .badRequest
  | .database _ => .internalServerError
  | .internal _ _ => .internalServerError

def message : ApiError → String
  | .badRequest message => message
  | .database _ => "A database error occurred"
  | .internal message _ => message

def response (error : ApiError) : Response :=
  { status := error.status
    contentType := "application/json"
    body := Json.write (.object [("error", .text error.message)]) }

end ApiError

end ListQuery
