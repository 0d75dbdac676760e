import SelectBinding.Sql.Reading

/-!
Statements as queries over the tables of a catalog.
-/

namespace SelectBinding

/-- What decides on the meaning of statements. -/
structure Reader where
  catalog : Lookup
  dialect : Sql.Dialect := .ansi
  reserved : Reserved := .builtin

namespace Reader

/-- A statement with its tokens. -/
def reading (reader : Reader) (sql : String) : Sql.Reading :=
  { text := .of reader.dialect sql, reserved := reader.reserved }

/-- The query that a statement stands for. An error may have no place yet. -/
def query? (reader : Reader) (sql : String) : Except Diagnostic Query := do
  let r := reader.reading sql
  if sql.toList.all Text.isBlank then .error { kind := .input, message := "No query specified" }
  else
    let statements ← (Sql.statementsOf reader.dialect sql).mapError r.diagnostic
    let parts ← r.fragments (← r.onlyQuery sql statements)
    let q ← parts.build reader.catalog
    return q.setStatement sql

/-- The query that a statement stands for. An error without a place is about the end of the
statement. -/
def query (reader : Reader) (sql : String) : Except Diagnostic Query :=
  (reader.query? sql).mapError fun e => e.orAt "" (some (reader.reading sql).text.length)

/-- A query as a statement that the reader reads. -/
def render (reader : Reader) (q : Query) : String :=
  q.render reader.reserved

/-- A statement read, written and read again. -/
def roundTrip (reader : Reader) (sql : String) :
    Except Diagnostic (Query × String × Except Diagnostic Query) := do
  let q ← reader.query sql
  let rendered := reader.render q
  return (q, rendered, reader.query rendered)

end Reader

end SelectBinding
