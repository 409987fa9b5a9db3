import Patchwise.Host
import Patchwise.Json.Mismatch
import Patchwise.Json.Printer
import Patchwise.Json.Reader
import Patchwise.Pipeline
import Patchwise.Url.Reader

/-!
# The CircleCI service

Starting pipelines and asking for their workflows by the second version of the service's interface.

## Main definitions

- `CircleCi` — a project at the service, and the token to act for it
- `CircleCi.trigger`, `CircleCi.status` — starting a pipeline, and how far it has come
- `CircleCi.createdId`, `CircleCi.workflowStatuses` — what the service's answers tell
-/

namespace Patchwise

/-- A project at the service, and the token to act for it. -/
structure CircleCi where
  /-- The address that all others begin with. -/
  base : String
  /-- The project, such as `gh/org/repo`. -/
  slug : String
  token : String
  deriving DecidableEq, Repr

namespace CircleCi

def name : String := "circleci"

/-- The address of the service, unless another one is configured. -/
def usualBase : String := "https://circleci.com/api/v2"

/-- What the program calls itself to the service. -/
def userAgent : String := "safeup/0.3.0"

/-- A project at the service. Slashes at the end of the base do not count. -/
def ofBase (base slug token : String) : CircleCi :=
  { base := .ofList (base.toList.reverse.dropWhile (· == '/')).reverse, slug, token }

def triggerUrl (ci : CircleCi) : String :=
  ci.base ++ "/project/" ++ ci.slug ++ "/pipeline"

def workflowUrl (ci : CircleCi) (pipeline : String) : String :=
  ci.base ++ "/pipeline/" ++ pipeline ++ "/workflow"

/-! ## Requests -/

/-- Whether a text can be sent as the value of a header. -/
def isHeaderValue (value : String) : Bool :=
  value.toList.all fun c => c == '\t' || (0x20 ≤ c.toNat && c.toNat != 0x7F)

def builderMessage : String := "builder error"

/-- What is said of an address that something went wrong with. -/
def forUrl (what : String) (url : Url) : String :=
  what ++ " for url (" ++ url.toText ++ ")"

/-- The address that a request goes to, if the request can be built. -/
def target (ci : CircleCi) (url : String) : Except String Url :=
  match Url.ofText? url with
  | none => .error builderMessage
  | some found =>
    let address := found.withoutUser
    if address.host?.isNone then .error (forUrl builderMessage address)
    else if !isHeaderValue ci.token then .error builderMessage
    else if !address.isSendable then .error (forUrl builderMessage address)
    else .ok address

/-- The names of the statuses that end a request, as the registry of statuses has them. -/
def statusNames : List (Nat × String) :=
  [(200, "OK"), (201, "Created"), (202, "Accepted"), (203, "Non Authoritative Information"),
   (204, "No Content"), (205, "Reset Content"), (206, "Partial Content"), (207, "Multi-Status"),
   (208, "Already Reported"), (226, "IM Used"), (300, "Multiple Choices"),
   (301, "Moved Permanently"), (302, "Found"), (303, "See Other"), (304, "Not Modified"),
   (305, "Use Proxy"), (307, "Temporary Redirect"), (308, "Permanent Redirect"),
   (400, "Bad Request"), (401, "Unauthorized"), (402, "Payment Required"), (403, "Forbidden"),
   (404, "Not Found"), (405, "Method Not Allowed"), (406, "Not Acceptable"),
   (407, "Proxy Authentication Required"), (408, "Request Timeout"), (409, "Conflict"),
   (410, "Gone"), (411, "Length Required"), (412, "Precondition Failed"),
   (413, "Payload Too Large"), (414, "URI Too Long"), (415, "Unsupported Media Type"),
   (416, "Range Not Satisfiable"), (417, "Expectation Failed"), (418, "I'm a teapot"),
   (421, "Misdirected Request"), (422, "Unprocessable Entity"), (423, "Locked"),
   (424, "Failed Dependency"), (425, "Too Early"), (426, "Upgrade Required"),
   (428, "Precondition Required"), (429, "Too Many Requests"),
   (431, "Request Header Fields Too Large"), (451, "Unavailable For Legal Reasons"),
   (500, "Internal Server Error"), (501, "Not Implemented"), (502, "Bad Gateway"),
   (503, "Service Unavailable"), (504, "Gateway Timeout"), (505, "HTTP Version Not Supported"),
   (506, "Variant Also Negotiates"), (507, "Insufficient Storage"), (508, "Loop Detected"),
   (510, "Not Extended"), (511, "Network Authentication Required")]

/-- A status with its name. -/
def statusText (status : Nat) : String :=
  toString status ++ " " ++ ((statusNames.lookup status).getD "<unknown status code>")

/-- Sends a request and reads the answer, whose status must be the expected one. -/
def exchange {α : Type} (ci : CircleCi) (method url : String) (body : Option String)
    (expected : Nat) (read : Json → Except Json.Mismatch α) :
    Session Host.interface (Except VerifyError α) :=
  match ci.target url with
  | .error detail => .done (.error (.network url detail))
  | .ok address =>
    let headers := [("Circle-Token", ci.token), ("user-agent", userAgent)] ++
      (body.map fun _ => ("content-type", "application/json")).toList
    .call (Host.Call.send { method, url := address.toText, headers, body })
      fun (answer : Option Http.Response) =>
        let refuse (detail : String) : Except VerifyError α := .error (.network url detail)
        .done <|
          match answer with
          | none => refuse (forUrl "error sending request" address)
          | some response =>
            if response.status ≠ expected then
              refuse ("HTTP " ++ statusText response.status ++ " (expected " ++
                statusText expected ++ ")")
            else
              let found := ((Text.Utf8.decode? response.body).bind Json.read).bind fun value =>
                (read value).toOption
              match found with
              | some found => .ok found
              | none =>
                refuse ("failed to parse JSON: " ++ forUrl "error decoding response body" address)

/-! ## Answers -/

/-- A field that must be there once. -/
def onlyField {α : Type} (members : List (String × Json)) (name : String)
    (read : Json → Except Json.Mismatch α) : Except Json.Mismatch α := do
  if 1 < members.countP (·.1 == name) then
    throw (.wrongLength 2 ("one field `" ++ name ++ "`"))
  Json.required name (← Json.field? members name read)

/-- A record of one field. -/
def onlyFieldOf {α : Type} (record name : String) (read : Json → Except Json.Mismatch α) :
    Json → Except Json.Mismatch α :=
  Json.asRecord record (fun members => onlyField members name read) fun items => do
    let value ← Json.item items record 1 0 read
    Json.noMoreItems items 1
    return value

/-- The name of the pipeline that was started. -/
def createdId : Json → Except Json.Mismatch String :=
  onlyFieldOf "PipelineCreated" "id" Json.asText

/-- The statuses of a pipeline's workflows. -/
def workflowStatuses : Json → Except Json.Mismatch (List String) :=
  onlyFieldOf "WorkflowPage" "items" (Json.asList (onlyFieldOf "Workflow" "status" Json.asText))

/-! ## Calls -/

def trigger (ci : CircleCi) (branch : String) :
    Session Host.interface (Except VerifyError String) :=
  let body : Json := .object [("branch", .text branch)]
  ci.exchange "POST" ci.triggerUrl (some (.ofList body.compact)) 201 createdId

def status (ci : CircleCi) (pipeline : String) :
    Session Host.interface (Except VerifyError Pipeline.Status) :=
  (ci.exchange "GET" (ci.workflowUrl pipeline) none 200 workflowStatuses).bind fun answer =>
    .done (answer.map Pipeline.Status.ofWorkflows)

end CircleCi

end Patchwise
