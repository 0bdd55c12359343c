import TokenAuth.Http.MediaType
import TokenAuth.Http.Message
import TokenAuth.Json.Doc

/-!
Forms: request bodies whose fields are texts. The first fault in a body decides, in the order
in which its bytes stand, also where the body breaks off later.
-/

namespace TokenAuth.Http

/-- The texts of a form's fields by name. -/
abbrev Form := List (String × String)

/-- Why a body holds no form: it is no JSON text, or one of another shape. -/
inductive FormFault
  | malformed
  | mismatch
deriving DecidableEq

namespace Form

open Json (Doc Frame Reading)

/-- The text of a field; one that is absent is empty. -/
def get (form : Form) (name : String) : String := (form.lookup name).getD ""

/-- The fault of a value that is not the text or the container it should be. -/
def misfit : Doc → FormFault
  | .text raw => if (Json.textOf? raw).isSome then .mismatch else .malformed
  | .number n => if n.number?.isSome then .mismatch else .malformed
  | _ => .mismatch

def fieldText : Doc → Except FormFault String
  | .text raw =>
    match Json.textOf? raw with
    | some s => .ok s
    | none => .error .malformed
  | doc => .error (misfit doc)

/-- The field that a key names, if it is one of `names`. No field may be named twice. -/
def fieldName (names : List String) (form : Form) (raw : Bytes) :
    Except FormFault (Option String) :=
  match Json.textOf? raw with
  | none => .error .malformed
  | some name =>
    if !names.contains name then .ok none
    else if (form.lookup name).isSome then .error .mismatch
    else .ok (some name)

/-- Adds a member of an object; one that is no field is ignored. -/
def addMember (names : List String) (form : Form) (member : Bytes × Doc) :
    Except FormFault Form := do
  match ← fieldName names form member.1 with
  | none => return form
  | some name => return (name, ← fieldText member.2) :: form

/-- The fields of an object's members. -/
def ofMembers (names : List String) (members : List (Bytes × Doc)) : Except FormFault Form :=
  members.foldlM (addMember names) []

/-- The fields of an array's items, in the order of the names. -/
def ofItems (names : List String) (items : List Doc) : Except FormFault Form := do
  let texts ← (items.take names.length).mapM fieldText
  if items.length ≤ names.length then return names.zip texts else .error .malformed

def ofDoc (names : List String) : Doc → Except FormFault Form
  | .object members => ofMembers names members
  | .array items => ofItems names items
  | doc => .error (misfit doc)

/-- The fault of an object that breaks off. `inner` says that the value of its last key had
been opened. -/
def objectCut (names : List String) (members : List (Bytes × Doc)) (key : Option Bytes)
    (inner : Bool) : FormFault :=
  match ofMembers names members with
  | .error fault => fault
  | .ok form =>
    match key.map (fieldName names form) with
    | some (.error fault) => fault
    | some (.ok (some _)) => if inner then .mismatch else .malformed
    | _ => .malformed

/-- The fault of an array that breaks off. -/
def arrayCut (names : List String) (items : List Doc) (inner : Bool) : FormFault :=
  match ofItems names items with
  | .error fault => fault
  | .ok _ => if inner && items.length < names.length then .mismatch else .malformed

/-- The fault of a text that breaks off inside containers, the innermost first. -/
def cut (names : List String) (frames : List Frame) : FormFault :=
  let inner := 1 < frames.length
  match frames.getLast? with
  | some (.object members key) => objectCut names members.reverse key inner
  | some (.array items) => arrayCut names items.reverse inner
  | none => .malformed

/-- Reads a form at the start of a byte string. What follows its value is not looked at. -/
def ofBytes (names : List String) (bs : Bytes) : Except FormFault Form :=
  match Json.read bs with
  | .complete root _ => ofDoc names root
  | .cut frames => .error (cut names frames)

end Form

/-- Why the body of a request is refused. -/
inductive BodyFault
  | mediaType
  | tooLarge
  | form (fault : FormFault)
deriving DecidableEq

namespace BodyFault

def status : BodyFault → Status
  | mediaType => .unsupportedMediaType
  | tooLarge => .contentTooLarge
  | form .malformed => .badRequest
  | form .mismatch => .unprocessable

def message : BodyFault → String
  | mediaType => "Expected request with \x60Content-Type: application/json\x60"
  | tooLarge => "Failed to buffer the request body: length limit exceeded"
  | form .malformed => "Failed to parse the request body as JSON"
  | form .mismatch => "Failed to deserialize the JSON body into the target type"

def response (fault : BodyFault) : Response := .text fault.status fault.message

end BodyFault

namespace Request

/-- The number of bytes that a body may have. -/
def bodyLimit : Nat := 2 * 1024 * 1024

/-- Whether the first content type is one of JSON. -/
def hasJson (request : Request) : Bool :=
  match ((request.header? "content-type").bind fun value =>
      if value.all Header.isTextByte then MediaType.ofBytes? value else none) with
  | some mediaType => mediaType.isJson
  | none => false

/-- The form in the body of a request. -/
def form (request : Request) (names : List String) : Except BodyFault Form :=
  if !request.hasJson then .error .mediaType
  else if bodyLimit < request.body.length then .error .tooLarge
  else (Form.ofBytes names request.body).mapError .form

end Request

end TokenAuth.Http
