import ConsoleLink.Json.Decoder
import ConsoleLink.Json.Printer

/-! # Messages of remote calls

A call is an object with a protocol version, a method, parameters and an id; an answer repeats the
id beside a result or an error. What may be left out of a call is `null` then.
-/

namespace ConsoleLink.Rpc

open Json (Decoder Record field needed)

/-- The version of the protocol. -/
def version : String := "2.0"

/-- A call. -/
structure Call where
  version : String
  method : String
  params : Json
  id : Json

namespace Call

/-- What has been read of a call. -/
structure Draft where
  version : Option String := none
  method : Option String := none
  params : Option Json := none
  id : Option Json := none

def record : Record Call Draft where
  name := "RpcRequest"
  fields :=
    [field "jsonrpc" .text (·.version) fun v b => { b with version := some v },
     field "method" .text (·.method) fun v b => { b with method := some v },
     field "params" .any (·.params) fun v b => { b with params := some v },
     field "id" .any (·.id) fun v b => { b with id := some v }]
  blank := {}
  finish b := do
    return { version := ← needed "jsonrpc" b.version
             method := ← needed "method" b.method
             params := b.params.getD .null
             id := b.id.getD .null }

def decoder : Decoder Call := record.decoder

end Call

/-- What an answer tells of an error. -/
structure Failure where
  code : Int
  message : String
  deriving DecidableEq

namespace Failure

/-- What has been read of a failure. -/
structure Draft where
  code : Option Int := none
  message : Option String := none

def record : Record Failure Draft where
  name := "RpcError"
  fields :=
    [field "code" (.integer (-0x80000000) 0x7FFFFFFF "i32") (·.code)
       fun v b => { b with code := some v },
     field "message" .text (·.message) fun v b => { b with message := some v }]
  blank := {}
  finish b := do
    return { code := ← needed "code" b.code, message := ← needed "message" b.message }

def decoder : Decoder Failure := record.decoder

def toJson (f : Failure) : Json :=
  .object [("code", .number (.ofInt f.code)), ("message", .text f.message)]

end Failure

/-- An answer. -/
structure Answer where
  version : String := Rpc.version
  result : Option Json := none
  error : Option Failure := none
  id : Json

namespace Answer

/-- The answer to a call that succeeded. -/
def success (id result : Json) : Answer := { result := some result, id := id }

/-- The answer to a call that failed. -/
def failure (id : Json) (code : Int) (message : String) : Answer :=
  { error := some ⟨code, message⟩, id := id }

/-- What has been read of an answer. -/
structure Draft where
  version : Option String := none
  result : Option (Option Json) := none
  error : Option (Option Failure) := none
  id : Option Json := none

def record : Record Answer Draft where
  name := "RpcResponse"
  fields :=
    [field "jsonrpc" .text (·.version) fun v b => { b with version := some v },
     field "result" Decoder.any.optional (·.result) fun v b => { b with result := some v },
     field "error" Failure.decoder.optional (·.error) fun v b => { b with error := some v },
     field "id" .any (·.id) fun v b => { b with id := some v }]
  blank := {}
  finish b := do
    return { version := ← needed "jsonrpc" b.version
             result := b.result.getD none
             error := b.error.getD none
             id := ← needed "id" b.id }

def decoder : Decoder Answer := record.decoder

/-- The members of an answer in their order; what it does not hold is left out. -/
def fields (a : Answer) : List (String × Json) :=
  [("jsonrpc", .text a.version)] ++ (a.result.map fun v => ("result", v)).toList ++
    (a.error.map fun f => ("error", f.toJson)).toList ++ [("id", a.id)]

/-- The line that an answer is written on. -/
def line (a : Answer) : String := Json.compactFields a.fields

end Answer

end ConsoleLink.Rpc
