import ParamGate.Http.Header
import ParamGate.Http.Multipart
import ParamGate.Json.Reader

/-!
# Sources of a request

The raw values that a request brings, by source: the parameters of its path, its query, its body,
its headers and its cookies. A body is a JSON object or a form, as its content type says; any other
body, and one that cannot be read, has no values.
-/

namespace ParamGate.Http

open Text

/-- A request as it arrives. The path is decoded already. -/
structure Request where
  method : String
  path : String
  query : List UInt8
  headers : Headers
  body : List UInt8

/-- The media type of a content type: what stands before the first semicolon, in lower case. -/
def mediaType (contentType : String) : String :=
  lower (trim (String.ofList (cut ';' contentType.toList).1))

/-- Values of a JSON body. -/
def jsonSource (body : List UInt8) : Table Value :=
  match (decodeDetected? body).bind Json.read? with
  | some (.map entries) => entries
  | _ => []

/-- Values of a form body of the given content type. -/
def formSource (contentType : String) (body : List UInt8) : Table Value :=
  match headerOptions? contentType with
  | some ("application/x-www-form-urlencoded", _) => gather .string .string (formPairs body)
  | some ("multipart/form-data", options) =>
      gather .ofCodes Entry.toValue (multipartPairs options body)
  | _ => []

/-- Values of the body. -/
def bodySource (r : Request) : Table Value :=
  let contentType := (r.headers.first? "content-type").getD ""
  match mediaType contentType with
  | "application/json" => jsonSource r.body
  | "application/x-www-form-urlencoded" => formSource contentType r.body
  | "multipart/form-data" => formSource contentType r.body
  | _ => []

/-- Values of the cookies. -/
def cookieSource (r : Request) : Table Value :=
  ((r.headers.first? "cookie").map cookies).getD []

/-- All sources of a request by name. -/
def sources (pathParams : Table Value) (r : Request) : Table Value :=
  [(.string "params", .map pathParams),
    (.string "query", .map (gather .string .string (queryPairs r.query))),
    (.string "body", .map (bodySource r)),
    (.string "headers", .map r.headers.toTable),
    (.string "cookies", .map (cookieSource r))]

end ParamGate.Http
