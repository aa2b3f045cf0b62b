import Catalog.Json.Token
import Catalog.Json.Layout

/-!
Reading JSON. The reader steps over the tokens once, holding the arrays and objects that are still
open; at most 127 of them may be open at a time.
-/
namespace Catalog.Json

/-- An array or object that is still open, with what it holds so far. -/
inductive Frame where
  | items (done : List Value)
  | members (done : Members) (name : String)

/-- What may come next. -/
inductive Expect where
  | value
  /-- The first element of an array, or its end. -/
  | firstItem
  /-- The first name of an object, or its end. -/
  | firstName (done : Members)
  | name (done : Members)
  | colon
  /-- A comma or the end of what is open; the value is complete. -/
  | after (v : Value)

structure Progress where
  expect : Expect
  frames : List Frame

namespace Progress

def start : Progress := ⟨.value, []⟩

/-- The most arrays and objects that may be open at a time. -/
def deepest : Nat := 127


def value? (p : Progress) (token : Token) : Option Progress :=
  match token with
  | .scalar v => some ⟨.after v, p.frames⟩
  | .text s => some ⟨.after (.text s), p.frames⟩
  | .openArray =>
    if p.frames.length < deepest then some ⟨.firstItem, .items [] :: p.frames⟩ else none
  | .openObject =>
    if p.frames.length < deepest then some ⟨.firstName [], p.frames⟩ else none
  | _ => none

def step? (p : Progress) (token : Token) : Option Progress :=
  match p.expect, token with
  | .value, token => p.value? token
  | .firstItem, .closeArray =>
    match p.frames with
    | .items _ :: frames => some ⟨.after (.array []), frames⟩
    | _ => none
  | .firstItem, token => p.value? token
  | .firstName done, .closeObject => some ⟨.after (.object done), p.frames⟩
  | .firstName done, .text s => some ⟨.colon, .members done s :: p.frames⟩
  | .name done, .text s => some ⟨.colon, .members done s :: p.frames⟩
  | .colon, .colon => some ⟨.value, p.frames⟩
  | .after v, .comma =>
    match p.frames with
    | .items done :: frames => some ⟨.value, .items (v :: done) :: frames⟩
    | .members done name :: frames => some ⟨.name (done.insert name v), frames⟩
    | [] => none
  | .after v, .closeArray =>
    match p.frames with
    | .items done :: frames => some ⟨.after (.array (v :: done).reverse), frames⟩
    | _ => none
  | .after v, .closeObject =>
    match p.frames with
    | .members done name :: frames => some ⟨.after (.object (done.insert name v)), frames⟩
    | _ => none
  | _, _ => none

def run? (p : Progress) : List Token → Option Progress
  | [] => some p
  | token :: rest => do (← p.step? token).run? rest

/-- The value read, when nothing is open any more. -/
def finished? (p : Progress) : Option Value :=
  match p.expect, p.frames with
  | .after v, [] => some v
  | _, _ => none

end Progress

namespace Value

def ofChars? (cs : List Char) : Option Value := do
  let tokens ← tokens? cs
  let progress ← Progress.start.run? tokens
  progress.finished?

def parse? (s : String) : Option Value := ofChars? s.toList

def ofBytes? (bytes : List UInt8) : Option Value := do
  let s ← String.fromUTF8? (ByteArray.mk bytes.toArray)
  parse? s

end Value

end Catalog.Json
