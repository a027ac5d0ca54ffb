import Mathlib.Logic.Equiv.List
import Payroute.Guarantees.Retry
import Payroute.Services.Intake

/-! # Provider callbacks arrive as they were sent

However the bytes of a request are cut into chunks, a worker verifies the
signature over exactly these bytes and acts on the payload parsed from them. A
callback the provider posts passes the body reader and the validation pipe and
reaches the worker as a signed completion of its payment.
-/

namespace Payroute

open EffectSystem KeyedTable ByteText JsonText

/-! ## The body -/

theorem collectBody_eq (chunks upload : List (List UInt8)) (totalBytes : Nat)
    (counted : chunks.flatten.length = totalBytes) (small : totalBytes ≤ webhookMaxBodyBytes) :
    collectBody chunks totalBytes upload =
      if webhookMaxBodyBytes < (chunks ++ upload).flatten.length then none
      else some (chunks ++ upload).flatten := by
  induction upload generalizing chunks totalBytes with
  | nil =>
      rw [collectBody, List.append_nil, counted, if_neg (Nat.not_lt.mpr small)]
  | cons chunk rest ih =>
      have total : (chunks ++ [chunk]).flatten.length = totalBytes + chunk.length := by
        rw [List.flatten_append, List.length_append, counted, List.flatten_singleton]
      rw [collectBody]
      split
      · next large =>
        have larger : webhookMaxBodyBytes < (chunks ++ chunk :: rest).flatten.length := by
          simp only [List.flatten_append, List.flatten_cons, List.length_append, counted]
          omega
        rw [if_pos larger]
      · next fits =>
        rw [ih (chunks ++ [chunk]) _ total (Nat.not_lt.mp fits), List.append_assoc,
          List.singleton_append]

/-- The chunks a body comes in do not matter. -/
theorem rawBody_eq (upload : List (List UInt8)) :
    rawBody upload = if webhookMaxBodyBytes < upload.flatten.length then none
      else some upload.flatten :=
  collectBody_eq [] upload 0 rfl (Nat.zero_le _)

/-! ## Payloads in JSON -/

namespace ReceivedPayload

variable {ν : Type} (style : Notation ν)

/-- The amount of a payload has a text. -/
def Printable (payload : ReceivedPayload ν) : Prop :=
  (style.numerals.print payload.amount).isSome = true

variable {style} {payload : ReceivedPayload ν}

theorem printable_of_number? {value : Option (Json ν)} {amount : ν}
    (read : number? style.numerals value = some amount) :
    (style.numerals.print amount).isSome = true := by
  unfold number? at read
  split at read
  · split at read
    · next finite =>
      obtain rfl := Option.some.inj read
      exact finite
    · cases read
  · cases read

/-- A payload that was accepted has a finite amount. -/
theorem printable_of_validate {json : Json ν} (valid : validate style json = some payload) :
    payload.Printable style := by
  cases json with
  | object members =>
      rw [validate] at valid
      by_cases known : (members.all fun member => names.contains member.1) = true
      · rw [if_pos known] at valid
        simp only [Option.bind_eq_bind, Option.bind_eq_some_iff, Option.pure_def,
          Option.some.injEq] at valid
        obtain ⟨reference, _, status, _, amount, read, currency, _, timestamp, _, rfl⟩ := valid
        exact printable_of_number? read
      · rw [if_neg known] at valid
        cases valid
  | null => cases valid
  | bool value => cases valid
  | number value => cases valid
  | string chars => cases valid
  | array items => cases valid

/-- A finite amount is written as it is. -/
theorem written_json (printable : payload.Printable style) :
    written style.numerals payload.json = payload.json := by
  unfold Printable at printable
  obtain ⟨reference, status, amount, currency, timestamp⟩ := payload
  cases timestamp <;>
    simp only [json, members, Option.toList, List.map_nil, List.map_cons, List.cons_append,
      List.nil_append, written, writtenMembers, printable, ↓reduceIte]

end ReceivedPayload

/-! ## Jobs -/

namespace WebhookProcessor

variable {ν : Type} {style : Notation ν} {payload : ReceivedPayload ν}

/-- What the worker finds in the data of a job is what the controller put there. -/
theorem arguments_jobData (rawBody : List UInt8) (signature : Text) :
    arguments style (WebhooksController.jobData payload rawBody signature) =
      some ({ reference := style.naming payload.reference,
              status := String.ofList payload.status }, rawBody, String.ofList signature) := by
  have found : payload? (WebhooksController.jobData payload rawBody signature) =
      some payload.json := rfl
  have reference : text? "reference".toList payload.json = some payload.reference := by
    obtain ⟨reference, status, amount, currency, timestamp⟩ := payload
    cases timestamp <;> rfl
  have status : text? "status".toList payload.json = some payload.status := by
    obtain ⟨reference, status, amount, currency, timestamp⟩ := payload
    cases timestamp <;> rfl
  have body : text? "rawBody".toList (WebhooksController.jobData payload rawBody signature) =
      some (base64 rawBody) := rfl
  have signed : text? "signature".toList (WebhooksController.jobData payload rawBody signature) =
      some signature := rfl
  simp only [arguments, found, reference, status, body, signed, Option.bind_eq_bind,
    Option.bind_some, Option.pure_def, ofBase64_base64]

/-- The worker for an enqueued job processes the payload with the raw body and the signature. -/
theorem process_jobData (deployment : Deployment) (printable : payload.Printable style)
    (rawBody : List UInt8) (signature : Text) :
    process style deployment (stringify style.numerals
        (WebhooksController.jobData payload rawBody signature)) =
      some (WebhooksService.processWebhook deployment
        { reference := style.naming payload.reference, status := String.ofList payload.status }
        rawBody (String.ofList signature)) := by
  have same : written style.numerals (WebhooksController.jobData payload rawBody signature) =
      WebhooksController.jobData payload rawBody signature := by
    simp only [WebhooksController.jobData, written, writtenMembers,
      ReceivedPayload.written_json printable]
  rw [process, parse_stringify, same]
  simp only [Option.bind_eq_bind, Option.bind_some, arguments_jobData, Option.pure_def]

end WebhookProcessor

/-! ## From the request to the worker -/

variable {ν : Type}

/-- The data of the job a request leads to, if it leads to one. -/
def WebhooksController.Intake.job? : WebhooksController.Intake → Option Text
  | .enqueued data => some data
  | .tooLarge => none
  | .invalid => none

/-- The payload of a request, read off all its bytes at once. -/
def WebhooksController.accepted (style : Notation ν) (pipe : Json ν → Option (ReceivedPayload ν))
    (body : List UInt8) : Option (ReceivedPayload ν) :=
  if webhookMaxBodyBytes < body.length then none else pipe (parsedBody style body)

open WebhooksController in
/-- The job of a request is that of all its bytes at once. -/
theorem job?_handleProviderWebhook (style : Notation ν) (pipe : Json ν → Option (ReceivedPayload ν))
    (upload : List (List UInt8)) (signature : Option Text) :
    (handleProviderWebhook style pipe upload signature).job? =
      (accepted style pipe upload.flatten).map fun payload =>
        stringify style.numerals (jobData payload upload.flatten (signature.getD [])) := by
  rw [handleProviderWebhook, accepted, rawBody_eq]
  by_cases large : webhookMaxBodyBytes < upload.flatten.length
  · rw [if_pos large, if_pos large]
    rfl
  · rw [if_neg large, if_neg large]
    cases valid : pipe (parsedBody style upload.flatten) with
    | none => simp only [valid, Intake.job?, Option.map_none]
    | some payload => simp only [valid, Intake.job?, Option.map_some]

open WebhooksController in
/-- **What a worker does for a request depends only on the bytes received.** It checks the
signature over exactly these bytes and acts on the payload that the validation pipe makes of
them, however they were cut into chunks; a request whose payload is refused leads to no
job. The pipe may be any that accepts finite amounts only. -/
theorem process_handleProviderWebhook (style : Notation ν) (deployment : Deployment)
    (pipe : Json ν → Option (ReceivedPayload ν))
    (finite : ∀ body payload, pipe body = some payload → payload.Printable style)
    (upload : List (List UInt8)) (signature : Option Text) :
    (handleProviderWebhook style pipe upload signature).job?.bind
        (WebhookProcessor.process style deployment) =
      (accepted style pipe upload.flatten).map fun payload =>
        WebhooksService.processWebhook deployment
          { reference := style.naming payload.reference, status := String.ofList payload.status }
          upload.flatten (String.ofList (signature.getD [])) := by
  rw [job?_handleProviderWebhook]
  cases taken : accepted style pipe upload.flatten with
  | none => rfl
  | some payload =>
      have printable : payload.Printable style := by
        unfold accepted at taken
        split at taken
        · cases taken
        · exact finite _ _ taken
      rw [Option.map_some, Option.map_some, Option.bind_some]
      exact WebhookProcessor.process_jobData deployment printable _ _

/-! ## Callbacks the provider posts -/

namespace ReceivedPayload

theorem member?_members (payload : ReceivedPayload ν) :
    member? payload.members "reference".toList = some (.string payload.reference) ∧
    member? payload.members "status".toList = some (.string payload.status) ∧
    member? payload.members "amount".toList = some (.number payload.amount) ∧
    member? payload.members "currency".toList = some (.string payload.currency) ∧
    member? payload.members "timestamp".toList = payload.timestamp.map .string := by
  obtain ⟨reference, status, amount, currency, timestamp⟩ := payload
  cases timestamp <;> exact ⟨rfl, rfl, rfl, rfl, rfl⟩

theorem members_known (payload : ReceivedPayload ν) :
    (payload.members.all fun member => names.contains member.1) = true := by
  obtain ⟨reference, status, amount, currency, timestamp⟩ := payload
  cases timestamp <;> rfl

theorem nonempty?_string {text : Text} (filled : text ≠ []) :
    nonempty? (some (.string text : Json ν)) = some text := by
  cases text with
  | nil => exact (filled rfl).elim
  | cons first rest => rfl

/-- The payload of a callback passes the validation pipe. -/
theorem validate_json {style : Notation ν} {payload : ReceivedPayload ν}
    (printable : payload.Printable style) (reference : payload.reference ≠ [])
    (status : payload.status ∈ statuses) (currency : payload.currency ≠ [])
    (timestamp : ∀ timestamp ∈ payload.timestamp, style.isDate timestamp = true) :
    validate style payload.json = some payload := by
  obtain ⟨foundReference, foundStatus, foundAmount, foundCurrency, foundTimestamp⟩ :=
    member?_members payload
  have admitted : Option.filter statuses.contains (some payload.status) = some payload.status :=
    Option.filter_eq_some_iff.mpr ⟨rfl, List.contains_iff_mem.mpr status⟩
  have finite : number? style.numerals (some (.number payload.amount)) = some payload.amount :=
    if_pos printable
  have dated : date? style.isDate (payload.timestamp.map (.string : Text → Json ν)) =
      some payload.timestamp := by
    cases given : payload.timestamp with
    | none => rfl
    | some date => exact if_pos (timestamp date given)
  change validate style (.object payload.members) = _
  rw [validate, if_pos (members_known payload)]
  simp only [foundReference, foundStatus, foundAmount, foundCurrency, foundTimestamp,
    nonempty?_string reference, nonempty?_string currency, string?, admitted, finite, dated,
    Option.bind_eq_bind, Option.bind_some, Option.pure_def]

end ReceivedPayload

/-- A callback as the provider posts it: its texts are present, its amount is finite,
its timestamp is a date, and it is not longer than the backend accepts. -/
structure ProviderCallback.Postable (style : Notation ν) (callback : ProviderCallback)
    (timestamp : Text) : Prop where
  named : style.naming.symm callback.reference ≠ []
  currency : callback.currency ≠ ""
  printable : (ProviderService.callbackPayload style callback timestamp).Printable style
  dated : style.isDate timestamp = true
  length : (utf8 (ProviderService.callbackText style callback timestamp)).length ≤
    webhookMaxBodyBytes

open WebhooksController in
/-- A posted callback is accepted. -/
theorem accepted_callback {style : Notation ν} {callback : ProviderCallback} {timestamp : Text}
    (postable : callback.Postable style timestamp) {body : List UInt8}
    (sent : body = utf8 (ProviderService.callbackText style callback timestamp)) :
    accepted style (ReceivedPayload.validate style) body =
      some (ProviderService.callbackPayload style callback timestamp) := by
  have parsed : parsedBody style body =
      (ProviderService.callbackPayload style callback timestamp).json := by
    rw [parsedBody, sent, text_utf8, ProviderService.callbackText, parse_stringify,
      ReceivedPayload.written_json postable.printable, Option.getD_some]
  have fits : ¬ webhookMaxBodyBytes < body.length := by
    rw [sent]
    exact postable.length.not_gt
  rw [accepted, if_neg fits, parsed]
  exact ReceivedPayload.validate_json postable.printable postable.named List.mem_cons_self
    (fun empty => postable.currency (String.toList_eq_nil_iff.mp empty))
    fun date given => by rw [← Option.some.inj given]; exact postable.dated

open WebhooksController in
/-- A callback reaches the worker as a completion with the provider's signature. -/
theorem callback_arrives {style : Notation ν} (deployment : Deployment)
    {callback : ProviderCallback} {timestamp : Text} (postable : callback.Postable style timestamp)
    {upload : List (List UInt8)}
    (sent : upload.flatten = utf8 (ProviderService.callbackText style callback timestamp)) :
    (handleProviderWebhook style (ReceivedPayload.validate style) upload
        (some (ProviderService.sign deployment
          (ProviderService.callbackText style callback timestamp)).toList)).job?.bind
        (WebhookProcessor.process style deployment) =
      some (WebhooksService.processWebhook deployment
        { reference := callback.reference, status := "completed" } upload.flatten
        (ProviderService.sign deployment
          (ProviderService.callbackText style callback timestamp))) := by
  rw [job?_handleProviderWebhook, accepted_callback postable sent, Option.map_some,
    Option.bind_some, WebhookProcessor.process_jobData deployment postable.printable]
  simp only [ProviderService.callbackPayload, Equiv.apply_symm_apply, Option.getD_some,
    String.ofList_toList]

/-- The signature the provider posts is accepted. -/
theorem verifySignature_sign {deployment : Deployment} {payload : Text}
    (digest : ProviderService.sign deployment payload ≠ "") :
    WebhooksService.verifySignature deployment (utf8 payload)
      (ProviderService.sign deployment payload) = true := by
  unfold WebhooksService.verifySignature
  rw [if_neg digest]
  simp only [ProviderService.sign, ne_eq, not_true_eq_false, ↓reduceIte, beq_self_eq_true]

/-- **A posted callback completes its payment.** In every reachable state without an open
transaction, the callback of a submitted payment whose report has not arrived yet leads,
however its bytes are cut, to a job whose worker completes the payment, provided the
recipient has room for the amount. -/
theorem callback_completes {style : Notation ν} (deployment : Deployment) {initial : World}
    (rest : initial.AtRest) (empty : initial.db.transactions.rows = [])
    (constrained : initial.db.Constrained) {pool : Pool ProcessId Failure Operation.Reply World}
    (reached : Pool.Reachable backend (surroundings (Command.Starts deployment fun _ => True))
      initial pool) (closed : ∀ who, pool.shared.sessions who = none)
    (callback : ProviderCallback) {row : Transaction}
    (looked : pool.shared.db.byReference callback.reference = some row)
    (processing : row.status = .processing)
    (absent : pool.shared.db.webhookEvents.get? (callback.reference, "completed") = none)
    (room : pool.shared.db.HasRoom row.recipientAccountId row.destinationAmount)
    {timestamp : Text} (postable : callback.Postable style timestamp)
    (digest : ProviderService.sign deployment
      (ProviderService.callbackText style callback timestamp) ≠ "")
    {upload : List (List UInt8)}
    (sent : upload.flatten = utf8 (ProviderService.callbackText style callback timestamp))
    (who : ProcessId) :
    ∃ service, (WebhooksController.handleProviderWebhook style
        (ReceivedPayload.validate style) upload (some (ProviderService.sign deployment
          (ProviderService.callbackText style callback timestamp)).toList)).job?.bind
        (WebhookProcessor.process style deployment) = some service ∧
      Succeeds who (fun _ last => last.db.statusOf row.id = some .completed) service
        pool.shared := by
  obtain ⟨sound, kept⟩ :=
    Database.Kept.of_reachable rest (Database.kept_of_empty constrained empty) reached
  have found : pool.shared.db.transactions.get? row.id = some row :=
    Table.get?_of_mem (List.mem_of_find?_eq_some looked)
  obtain ⟨account, payee, fits⟩ := room
  refine ⟨_, callback_arrives deployment postable sent, ?_⟩
  refine succeeds_processWebhook (.of_sound sound closed) absent
    (by rw [sent]; exact verifySignature_sign digest) looked ?_ ?_
  · rw [processing]
    change TransactionStatus.processing.Allows "completed"
    decide
  obtain ⟨owed, _, _⟩ := kept.anchored row (Table.mem_of_get? found)
  exact .completed owed payee (kept.constrained account (Table.mem_of_get? payee)).1 fits

/-! ## A sample -/

theorem isNumeric_of_isDigit {char : Char} (digit : char.isDigit = true) :
    isNumeric char = true := by
  simp only [isNumeric, digit, Bool.true_or]

/-- The text of a number is numeric and begins with a digit. -/
theorem numberText_numeric (units : Nat) :
    (∃ first rest, numberText units = first :: rest ∧ first.isDigit = true) ∧
      ∀ char ∈ numberText units, isNumeric char = true := by
  have digits : ∀ n, ∀ char ∈ Nat.toDigits 10 n, isNumeric char = true := fun n char member =>
    isNumeric_of_isDigit (FixedPoint.isDigit_toDigits member)
  have kept : ∀ {text : List Char}, (∀ char ∈ text, char.isDigit = true) →
      ∀ char ∈ FixedPoint.significant text, isNumeric char = true := fun all char member =>
    isNumeric_of_isDigit (FixedPoint.isDigit_significant all char member)
  unfold numberText FixedPoint.numberText
  split
  · next tiny =>
    obtain ⟨first, rest, shape⟩ :=
      List.exists_cons_of_ne_nil (FixedPoint.significant_ne_nil tiny.1)
    have all : ∀ char ∈ first :: rest, isNumeric char = true := by
      rw [← shape]
      exact kept fun _ => FixedPoint.isDigit_toDigits
    have digit : first.isDigit = true :=
      FixedPoint.isDigit_significant (fun _ => FixedPoint.isDigit_toDigits) first
        (by rw [shape]; exact List.mem_cons_self)
    unfold FixedPoint.exponentText
    simp only [shape, List.take_succ_cons, List.take_zero, List.drop_succ_cons, List.drop_zero]
    refine ⟨⟨first, _, rfl, digit⟩, ?_⟩
    intro char member
    simp only [List.mem_append, List.mem_cons, List.not_mem_nil, or_false] at member
    rcases member with (rfl | inside) | rfl | rfl | member
    · exact all char List.mem_cons_self
    · split at inside
      · cases inside
      · rcases List.mem_cons.mp inside with rfl | inside
        · rfl
        · exact all char (List.mem_cons_of_mem _ inside)
    · rfl
    · rfl
    · exact digits _ char member
  · obtain ⟨first, rest, whole⟩ := List.exists_cons_of_ne_nil
      (Nat.toDigits_ne_nil (b := 10) (n := units / 10 ^ scale))
    refine ⟨⟨first, _, by simp only [whole]; rfl, ?_⟩, ?_⟩
    · exact FixedPoint.isDigit_toDigits (by rw [whole]; exact List.mem_cons_self)
    · intro char member
      rcases List.mem_append.mp member with inside | inside
      · exact digits _ char inside
      · split at inside
        · cases inside
        · rcases List.mem_cons.mp inside with rfl | inside
          · rfl
          · exact kept (fun _ => FixedPoint.isDigit_padded) char inside

/-- Amounts of at most eight decimals as numbers. -/
def amountNumerals : Numerals Nat where
  print units := some (numberText units)
  read text := (numericOfText text).map Int.toNat
  starts := by
    rintro n text ⟨⟩
    obtain ⟨⟨first, rest, shape, digit⟩, _⟩ := numberText_numeric n
    exact ⟨first, rest, shape, by simp only [isNumberStart, digit, Bool.true_or]⟩
  numeric := by
    rintro n text ⟨⟩
    exact (numberText_numeric n).2
  read_print := by
    rintro n text ⟨⟩
    change (FixedPoint.read? scale (FixedPoint.numberText scale n)).map Int.toNat = some n
    rw [FixedPoint.read?_numberText (by decide) n]
    rfl

/-- Texts can be numbered so that a given one has a given number. -/
theorem exists_naming (text : Text) (reference : ProviderReference) :
    ∃ naming : Text ≃ ProviderReference, naming.symm reference = text := by
  have countable : Countable Char := ⟨Char.toNat, fun _ _ => Char.toNat_inj.mp⟩
  obtain ⟨numbering⟩ : Nonempty (Text ≃ Nat) := nonempty_equiv_of_countable
  refine ⟨numbering.trans (Equiv.swap (numbering text) reference), ?_⟩
  rw [Equiv.symm_apply_eq, Equiv.trans_apply, Equiv.swap_apply_left]

def sampleTimestamp : Text := "2024-01-01T00:00:00.000Z".toList

def sampleNotation (naming : Text ≃ ProviderReference) : Notation Nat where
  numerals := amountNumerals
  naming := naming
  isDate text := text == sampleTimestamp
  parseFloat text := ((numericOfText text).getD 0).toNat

/-- The callback that was scheduled for the sample payment. -/
def postedCallback : ProviderCallback where
  reference := 0
  amount := amountText 100
  currency := "USD"

/-- The body of the sample callback comes in two chunks. -/
def postedChunks (naming : Text ≃ ProviderReference) : List (List UInt8) :=
  let bytes := utf8 (ProviderService.callbackText (sampleNotation naming) postedCallback
    sampleTimestamp)
  [bytes.take 10, bytes.drop 10]

theorem postedCallback_postable {naming : Text ≃ ProviderReference}
    (named : naming.symm 0 = "prov_0".toList) :
    postedCallback.Postable (sampleNotation naming) sampleTimestamp where
  named := by
    change naming.symm 0 ≠ []
    rw [named]
    decide
  currency := by decide
  printable := rfl
  dated := beq_self_eq_true _
  length := by
    unfold ProviderService.callbackText ProviderService.callbackPayload
    change (utf8 (stringify amountNumerals (ReceivedPayload.json
      ⟨naming.symm 0, "completed".toList, ((numericOfText (amountText 100)).getD 0).toNat,
        "USD".toList, some sampleTimestamp⟩))).length ≤ webhookMaxBodyBytes
    rw [named]
    decide +kernel

theorem flatten_postedChunks (naming : Text ≃ ProviderReference) :
    (postedChunks naming).flatten = utf8 (ProviderService.callbackText
      (sampleNotation naming) postedCallback sampleTimestamp) := by
  simp only [postedChunks, List.flatten_cons, List.flatten_nil, List.append_nil,
    List.take_append_drop]

theorem process_handleProviderWebhook_sample :
    ∃ naming, (WebhooksController.handleProviderWebhook (sampleNotation naming)
        (ReceivedPayload.validate (sampleNotation naming)) (postedChunks naming)
          (some "secret".toList)).job?.bind
        (WebhookProcessor.process (sampleNotation naming) sampleDeployment) =
      some (WebhooksService.processWebhook sampleDeployment
        { reference := 0, status := "completed" } (postedChunks naming).flatten "secret") := by
  obtain ⟨naming, named⟩ := exists_naming "prov_0".toList 0
  have arrives := process_handleProviderWebhook (sampleNotation naming) sampleDeployment
    (ReceivedPayload.validate _) (fun _ _ => ReceivedPayload.printable_of_validate)
    (postedChunks naming) (some "secret".toList)
  rw [accepted_callback (postedCallback_postable named) (flatten_postedChunks naming),
    Option.map_some] at arrives
  refine ⟨naming, arrives.trans ?_⟩
  have reference : naming (naming.symm 0) = 0 := naming.apply_symm_apply 0
  change some (WebhooksService.processWebhook sampleDeployment
    { reference := naming (naming.symm 0), status := "completed" } _ "secret") = _
  rw [reference]

theorem callback_completes_sample :
    ∃ naming service, (WebhooksController.handleProviderWebhook (sampleNotation naming)
        (ReceivedPayload.validate (sampleNotation naming)) (postedChunks naming)
        (some (ProviderService.sign sampleDeployment
          (ProviderService.callbackText (sampleNotation naming) postedCallback
            sampleTimestamp)).toList)).job?.bind
        (WebhookProcessor.process (sampleNotation naming) sampleDeployment) = some service ∧
      Succeeds 0 (fun _ last => last.db.statusOf 0 = some .completed) service submittedWorld := by
  obtain ⟨naming, named⟩ := exists_naming "prov_0".toList 0
  have shape : (submittedWorld.db.byReference 0).map (fun row =>
      (row.id, row.status, row.recipientAccountId, row.destinationAmount)) =
        some (0, .processing, 1, 100) := by decide +kernel
  obtain ⟨row, looked, same⟩ := Option.map_eq_some_iff.mp shape
  simp only [Prod.mk.injEq] at same
  obtain ⟨id, processing, recipient, amount⟩ := same
  have funds : (submittedWorld.db.accounts.get? 1).map Account.balance = some 1000 := by
    decide +kernel
  obtain ⟨account, payee, balance⟩ := Option.map_eq_some_iff.mp funds
  have room : submittedWorld.db.HasRoom row.recipientAccountId row.destinationAmount := by
    rw [recipient, amount]
    exact ⟨account, payee, by rw [balance]; decide⟩
  have digest : ProviderService.sign sampleDeployment
      (ProviderService.callbackText (sampleNotation naming) postedCallback sampleTimestamp) ≠
        "" := by
    change "secret" ≠ ""
    decide
  have completes := callback_completes sampleDeployment sampleWorld_atRest rfl (by decide +kernel)
    (SerialRun.steps sampleWorld_atRest submittedWorld_run)
    (submittedWorld_run.atRest sampleWorld_atRest).sessions postedCallback looked processing
    (by decide +kernel) room (postedCallback_postable named) digest
    (flatten_postedChunks naming) 0
  rw [id] at completes
  exact ⟨naming, completes⟩

end Payroute
