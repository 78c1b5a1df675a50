import SearchSql.Error
import SearchSql.Output.Csv
import SearchSql.Output.Format

/-!
# Encoding rows chunk by chunk

A result is written as chunks whose concatenation is one JSON document or one CSV document. Between
chunks the encoder remembers whether the opening or the header is out, whether the next row needs a
comma before it, which columns a CSV document has, and whether the document is closed. A closed
encoder accepts no further rows.
-/

namespace SearchSql

structure Encoder where
  format : OutputFormat
  /-- A download ends without metadata. -/
  download : Bool := false
  metadata : Option Json := none
  opened : Bool := false
  headerWritten : Bool := false
  commaDue : Bool := false
  closed : Bool := false
  /-- The columns of a CSV document; without any, those of the first rows. -/
  columns : List String := []

namespace Encoder

def opener (encoder : Encoder) : String :=
  match encoder.format with
  | .geoJson => "\x7b\"data\":[\x7b\"type\":\"FeatureCollection\",\"features\":["
  | _ => "\x7b\"data\":["

/-- What ends a document: the brackets, and the metadata unless it is a download. -/
def closer (encoder : Encoder) : String :=
  (match encoder.format with
    | .geoJson => "]\x7d]"
    | _ => "]") ++
  (if encoder.download then ""
    else ",\"meta\":" ++ (encoder.metadata.getD (.object [])).compact) ++ "\x7d"

/-- Rows separated by commas, with one before the first row if it is due. -/
def rowsText (commaDue : Bool) : List Record → String
  | [] => ""
  | row :: rest =>
    (if commaDue then "," else "") ++ (Json.object row).compact ++ rowsText true rest

def encodeJson (encoder : Encoder) (rows : List Record) (more : Bool) : String × Encoder :=
  ((if encoder.opened then "" else encoder.opener) ++ rowsText encoder.commaDue rows ++
      (if more then "" else encoder.closer),
    { encoder with
      opened := true
      commaDue := encoder.commaDue || !rows.isEmpty })

def encodeCsv (encoder : Encoder) (rows : List Record) : String × Encoder :=
  if rows.isEmpty then ("", encoder)
  else
    let columns := if encoder.columns.isEmpty then Csv.columnsOf rows else encoder.columns
    ((if encoder.headerWritten then "" else Csv.recordText columns) ++
        String.join (rows.map fun row => Csv.recordText (Csv.cells columns row)),
      { encoder with columns, headerWritten := true })

/-- Encodes a batch of rows; a batch after which there is no more closes the document. -/
def encode (encoder : Encoder) (rows : List Record) (more : Bool) :
    Except QueryError (String × Encoder) :=
  if encoder.closed then .error .envelopeClosed
  else
    let (chunk, next) :=
      match encoder.format with
      | .csv => encoder.encodeCsv rows
      | _ => encoder.encodeJson rows more
    .ok (chunk, { next with closed := !more })

/-- Closes the document if it is open; one that has not been opened becomes an empty one. -/
def finish (encoder : Encoder) : Except QueryError (String × Encoder) :=
  if encoder.closed then .ok ("", encoder) else encoder.encode [] false

end Encoder

/-- One chunk of a document whose other chunks are written elsewhere. -/
def encodeChunk (format : OutputFormat) (download : Bool) (metadata : Option Json)
    (rows : List Record) (first more : Bool) : Except QueryError String :=
  let encoder : Encoder :=
    { format, download, metadata, opened := !first, headerWritten := !first, commaDue := !first }
  (encoder.encode rows more).map (·.1)

end SearchSql
