import ListQuery.Service.Connection
import ListQuery.Service.Prepare

/-!
# Fetching rows

All rows of a draft take one statement.  A page takes two: the rows of all pages are
counted first, and only after a usable count are the rows of the page asked for.
-/

namespace ListQuery

def fetchAll (connection : Connection) (model : Model) (draft : Draft) :
    Except ApiError (List Json) × Connection :=
  match connection.ask draft.rows with
  | (.error error, connection) => (.error (.database error), connection)
  | (.ok rows, connection) => (.ok (rows.map fun row => model.present (.object row)), connection)

def totalOf (rows : List Row) : Except ApiError Nat :=
  match rows with
  | [] => .error (.internal "Failed to count rows" (some "empty count result"))
  | row :: _ =>
      match row.lookup "total" with
      | some (.number (.integer total)) =>
          if signedLimit ≤ total then .error (.database (.undecodable "total"))
          else if total < 0 then
            .error (.internal "Failed to count rows"
              (some (toString total ++ ": number too small to fit in target type")))
          else .ok total.toNat
      | _ => .error (.database (.undecodable "total"))

def fetchTotal (connection : Connection) (draft : Draft) :
    Except ApiError Nat × Connection :=
  match connection.ask draft.count with
  | (.error error, connection) => (.error (.database error), connection)
  | (.ok rows, connection) => (totalOf rows, connection)

def fetchPage (connection : Connection) (model : Model) (draft : Draft) (query : Query) :
    Except ApiError (Page Json) × Connection :=
  match fetchTotal connection draft with
  | (.error error, connection) => (.error error, connection)
  | (.ok total, connection) =>
      match fetchAll connection model draft with
      | (.error error, connection) => (.error error, connection)
      | (.ok rows, connection) => (.ok (.of rows total query.perPage query.page), connection)

def Page.json (page : Page Json) : Json :=
  .object
    [("total", .number (.integer page.total)),
      ("per_page", .number (.integer page.perPage)),
      ("current_page", .number (.integer page.current)),
      ("last_page", .number (.integer page.lastPage)),
      ("from", .number (.integer page.first)),
      ("to", .number (.integer page.last)),
      ("data", .array page.rows)]

end ListQuery
