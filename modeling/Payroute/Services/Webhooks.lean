import Payroute.Services.Payments

/-! # Webhooks service -/

namespace Payroute

open EffectSystem Program

namespace WebhooksService

/-- Whether the signature is the HMAC of the raw body under the webhook secret. -/
def verifySignature (deployment : Deployment) (rawBody : List UInt8) (signature : String) : Bool :=
  if signature = "" then false
  else
    let expected := deployment.hmacSha256 deployment.webhookSecret rawBody
    if expected.utf8ByteSize ≠ signature.utf8ByteSize then false
    else expected == signature

def unknownReference (reference : ProviderReference) : String :=
  s!"No transaction found for provider reference {reference}"

/-- What a delivery with the given status does to the ledger and to the
transaction. A status that is neither `completed` nor `failed` does nothing. -/
def settle (transaction : Transaction) (status : String) : Service Unit :=
  if status = "completed" then do
    let _ ← LedgerService.credit transaction.recipientAccountId
      (amountText transaction.destinationAmount) transaction.id
    let completedAt ← newDate
    sql (.updateTransaction transaction.id
      { status := some .completed, completedAt := some completedAt })
  else if status = "failed" then do
    let _ ← LedgerService.createCompensatingEntries transaction.id
    sql (.updateTransaction transaction.id { status := some .failed })
  else return ()

/-- The body of the transaction of `processWebhook` once the payment is found. -/
def applyWebhook (transaction : Transaction) (payload : WebhookPayloadDto) (eventId : Nat) :
    Service Unit := do
  PaymentsService.validateTransition transaction.status payload.status
  settle transaction payload.status
  sql (.insertHistory transaction.id (some transaction.status.text) payload.status)
  let processedAt ← newDate
  sql (.updateEvent eventId { processedAt := some processedAt })

/-- The body of the transaction of `processWebhook`. -/
def webhookBody (payload : WebhookPayloadDto) (eventId : Nat) : Service (Option Transaction) := do
  let found ← sql (.lockTransactionByReference payload.reference)
  match found with
  | none => do
      sql (.updateEvent eventId { error := some (unknownReference payload.reference) })
      return none
  | some transaction => do
      applyWebhook transaction payload eventId
      return some transaction

/-- The transaction of `processWebhook`. A failure is noted on the event and raised again. -/
def applyEvent (payload : WebhookPayloadDto) (eventId : Nat) : Service (Option Transaction) :=
  tryCatch (transaction .readCommitted (webhookBody payload eventId)) fun error => do
    swallow (sql (.updateEvent eventId { error := some error.message }))
    .fail error

/-- The event a processed delivery emits. -/
def announce (transaction : Transaction) (payload : WebhookPayloadDto) : Service Unit :=
  if payload.status = "completed" then
    call (.emit (.completed transaction.id transaction.recipientAccountId
      (amountText transaction.destinationAmount) transaction.destinationCurrency payload.reference))
  else if payload.status = "failed" then
    call (.emit (.failed transaction.id (some payload.reference) "Provider reported failure"))
  else return ()

/-- What follows the insertion of the event row. -/
def handleEvent (payload : WebhookPayloadDto) (signatureValid : Bool) (eventId : Nat) :
    Service Unit :=
  if signatureValid = true then do
    let processed ← applyEvent payload eventId
    match processed with
    | none => return ()
    | some transaction => do
        PaymentsService.invalidatePaymentCaches
        announce transaction payload
  else sql (.updateEvent eventId { error := some "Invalid HMAC signature" })

def processWebhook (deployment : Deployment) (payload : WebhookPayloadDto) (rawBody : List UInt8)
    (signature : String) : Service Unit := do
  let signatureValid := verifySignature deployment rawBody signature
  let result ← sql (.insertEvent
    { providerReference := payload.reference
      eventType := payload.status
      signatureValid := signatureValid })
  match result with
  | none => return ()
  | some webhookEvent => handleEvent payload signatureValid webhookEvent.id

end WebhooksService
end Payroute
