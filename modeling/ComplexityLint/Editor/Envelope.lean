import ComplexityLint.Editor.Protocol

/-!
The envelopes in which messages travel: JSON-RPC 2.0 objects, each behind a header that tells its
number of bytes.
-/

namespace ComplexityLint.Editor

/-- A message in its envelope. Only what expects an answer has an identifier. -/
structure Call where
  id : Option Json
  method : String
  params : Json

/-- Opens an envelope. -/
def Call.ofJson? (v : Json) : Option Call := do
  let method ← (member? v "method").bind text?
  return { id := member? v "id", method := method, params := (member? v "params").getD .null }

/-- The message in an envelope, if it can be read. -/
def Call.message? (c : Call) : Option Message := Message.ofCall? c.method c.params

/-- An envelope with some members. -/
def envelope (members : List (String × Json)) : Json :=
  .object (("jsonrpc", .string "2.0") :: members)

/-- A notice in its envelope. -/
def Notice.sealed (n : Notice) : Json :=
  envelope [("method", .string n.call.1), ("params", n.call.2)]

/-- A response in its envelope, for the message with that identifier. -/
def Response.sealed? (id : Json) : Response → Option Json
  | silence => none
  | result v => some (envelope [("id", id), ("result", v)])
  | error code text =>
    some (envelope
      [("id", id), ("error", .object [("code", .number code), ("message", .string text)])])

/-- The response to a message that cannot be read. -/
def unreadable : Response := .error (-32601) "Method not found"

end ComplexityLint.Editor
