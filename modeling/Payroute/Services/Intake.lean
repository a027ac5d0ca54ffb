import Payroute.Data.Bytes
import Payroute.Data.Json
import Payroute.Services.Webhooks

/-! # The way of a provider callback

The provider posts a signed JSON text. The backend collects the bytes of the
request, parses and validates them and adds a job to the webhook queue, whose
data is JSON again with the bytes as base64 inside. A worker takes the job apart
and processes the webhook. References are texts here and numbers elsewhere.
-/

namespace Payroute

open EffectSystem ByteText JsonText

/-! ## Collecting the body -/

/-- `WEBHOOK_MAX_BODY_BYTES`. -/
def webhookMaxBodyBytes : Nat := 1_048_576

/-- The `data` and `end` events of a request after some chunks and `totalBytes`
bytes. A request that becomes too large is destroyed and has no further events. -/
def collectBody (chunks : List (List UInt8)) (totalBytes : Nat) :
    List (List UInt8) → Option (List UInt8)
  | [] => some chunks.flatten
  | chunk :: rest =>
      if webhookMaxBodyBytes < totalBytes + chunk.length then none
      else collectBody (chunks ++ [chunk]) (totalBytes + chunk.length) rest

/-- `req.rawBody`, unless the request is answered with 413. -/
def rawBody (upload : List (List UInt8)) : Option (List UInt8) := collectBody [] 0 upload

/-! ## Payloads -/

/-- `WebhookPayloadDto` as it was received. A timestamp that is `null` counts as absent. -/
structure ReceivedPayload (ν : Type) where
  reference : Text
  status : Text
  amount : ν
  currency : Text
  timestamp : Option Text

/-- How the model's reference numbers stand for texts, and what validation and
`parseFloat` do with texts. -/
structure Notation (ν : Type) where
  numerals : Numerals ν
  naming : Text ≃ ProviderReference
  /-- `isISO8601(value)`. -/
  isDate : Text → Bool
  parseFloat : Text → ν

namespace ReceivedPayload

variable {ν : Type}

def names : List Text := ["reference".toList, "status".toList, "amount".toList,
  "currency".toList, "timestamp".toList]

def statuses : List Text := ["completed".toList, "failed".toList, "processing".toList]

/-- `@IsString()`. -/
def string? : Option (Json ν) → Option Text
  | some (.string chars) => some chars
  | _ => none

/-- `@IsString() @IsNotEmpty()`. -/
def nonempty? (value : Option (Json ν)) : Option Text :=
  (string? value).filter fun text => !text.isEmpty

/-- `@IsNumber()`, which refuses infinities. -/
def number? (numerals : Numerals ν) : Option (Json ν) → Option ν
  | some (.number n) => if (numerals.print n).isSome then some n else none
  | _ => none

/-- `@IsDateString() @IsOptional()`. -/
def date? (isDate : Text → Bool) : Option (Json ν) → Option (Option Text)
  | none => some none
  | some .null => some none
  | some (.string chars) => if isDate chars then some (some chars) else none
  | some _ => none

/-- What the checks of the class do with a parsed body: members it does not declare are
forbidden, and every declared one passes its own checks. The pipe of the framework skips
members named `__proto__` and `constructor` instead of forbidding them. -/
def validate (style : Notation ν) : Json ν → Option (ReceivedPayload ν)
  | .object members =>
      if members.all fun member => names.contains member.1 then do
        let reference ← nonempty? (member? members "reference".toList)
        let status ← (string? (member? members "status".toList)).filter statuses.contains
        let amount ← number? style.numerals (member? members "amount".toList)
        let currency ← nonempty? (member? members "currency".toList)
        let timestamp ← date? style.isDate (member? members "timestamp".toList)
        return { reference, status, amount, currency, timestamp }
      else none
  | _ => none

/-- The members of the object of a payload. -/
def members (payload : ReceivedPayload ν) : List (Text × Json ν) :=
  [("reference".toList, .string payload.reference), ("status".toList, .string payload.status),
    ("amount".toList, .number payload.amount), ("currency".toList, .string payload.currency)] ++
      payload.timestamp.toList.map fun timestamp => ("timestamp".toList, .string timestamp)

def json (payload : ReceivedPayload ν) : Json ν := .object payload.members

end ReceivedPayload

/-! ## Provider -/

namespace ProviderService

variable {ν : Type}

/-- What is posted for a callback that was scheduled. -/
def callbackPayload (style : Notation ν) (callback : ProviderCallback) (timestamp : Text) :
    ReceivedPayload ν where
  reference := style.naming.symm callback.reference
  status := "completed".toList
  amount := style.parseFloat callback.amount
  currency := callback.currency.toList
  timestamp := some timestamp

def callbackText (style : Notation ν) (callback : ProviderCallback) (timestamp : Text) : Text :=
  stringify style.numerals (callbackPayload style callback timestamp).json

/-- The header `X-Webhook-Signature` that is posted with a text. -/
def sign (deployment : Deployment) (payload : Text) : String :=
  deployment.hmacSha256 deployment.webhookSecret (utf8 payload)

end ProviderService

/-! ## Controller and worker -/

namespace WebhooksController

variable {ν : Type}

/-- What becomes of a request to `/api/webhooks/provider`: the answer 413, the answer
400, or the data of a job. -/
inductive Intake where
  | tooLarge
  | invalid
  | enqueued (data : Text)
  deriving DecidableEq, Repr

/-- `WebhookJobData`. -/
def jobData (payload : ReceivedPayload ν) (rawBody : List UInt8) (signature : Text) : Json ν :=
  .object [("payload".toList, payload.json), ("rawBody".toList, .string (base64 rawBody)),
    ("signature".toList, .string signature)]

/-- `req.body`. -/
def parsedBody (style : Notation ν) (rawBody : List UInt8) : Json ν :=
  (parse style.numerals (text rawBody)).getD (.object [])

/-- `handleProviderWebhook` behind the body reader and a validation pipe. -/
def handleProviderWebhook (style : Notation ν) (pipe : Json ν → Option (ReceivedPayload ν))
    (upload : List (List UInt8)) (signature : Option Text) : Intake :=
  match rawBody upload with
  | none => .tooLarge
  | some rawBody =>
      match pipe (parsedBody style rawBody) with
      | none => .invalid
      | some payload =>
          .enqueued (stringify style.numerals (jobData payload rawBody (signature.getD [])))

end WebhooksController

namespace WebhookProcessor

variable {ν : Type}

/-- A member of an object in the data of a job. -/
def text? (name : Text) : Json ν → Option Text
  | .object members => ReceivedPayload.string? (member? members name)
  | _ => none

def payload? : Json ν → Option (Json ν)
  | .object members => member? members "payload".toList
  | _ => none

/-- The call of a worker for a job: the payload, the raw body and the signature. -/
def arguments (style : Notation ν) (data : Json ν) :
    Option (WebhookPayloadDto × List UInt8 × String) := do
  let payload ← payload? data
  let reference ← text? "reference".toList payload
  let status ← text? "status".toList payload
  let rawBody ← text? "rawBody".toList data
  let signature ← text? "signature".toList data
  return ({ reference := style.naming reference, status := String.ofList status },
    ofBase64 rawBody, String.ofList signature)

/-- `process(job)`, where `job.data` is parsed from the text in the queue. -/
def process (style : Notation ν) (deployment : Deployment) (data : Text) :
    Option (Service Unit) := do
  let data ← parse style.numerals data
  let ⟨payload, rawBody, signature⟩ ← arguments style data
  return WebhooksService.processWebhook deployment payload rawBody signature

end WebhookProcessor
end Payroute
