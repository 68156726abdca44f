import Mathlib.Data.String.Basic
import ListQuery.Proofs.Shown

/-!
# Outcomes of fetching a page

A page takes two answers of the database.  The first has to have a total and the second rows;
otherwise the page fails in one of two ways, each of which has one response.  What the database
reported and what it answered instead of a total are not part of it.
-/

namespace ListQuery

/-! ## Columns in their order -/

namespace Row

variable {row : Row}

end Row

/-! ## Faults -/

/-- Why a page cannot be had: by an answer that is missing or of another kind, or by one that
makes no sense. -/
inductive Fault where
  | database
  | internal
  deriving DecidableEq, Repr

namespace Fault

def response : Fault → Response
  | .database =>
      ⟨.internalServerError, "application/json", "\x7b\"error\":\"A database error occurred\"\x7d"⟩
  | .internal =>
      ⟨.internalServerError, "application/json", "\x7b\"error\":\"Failed to count rows\"\x7d"⟩

end Fault

/-! ## Answers -/

namespace Reply

end Reply

/-! ## Statements that are asked -/

namespace Connection

end Connection

section Asked

variable {connection : Connection} {model : Model} {draft : Draft} {query : Query}

end Asked

end ListQuery
