import Payroute.Services.Support

/-! # FX service

Rates and amounts are exact decimals in units of `10⁻⁸`; the conversion rounds
half up to eight decimals as `toFixed(8)` does.
-/

namespace Payroute

open EffectSystem Program

namespace FxService

/-- `SIMULATED_RATES`, in units of `10⁻⁸`. -/
def simulatedRates : String → String → Option Nat
  | "NGN", "USD" => some 64500
  | "NGN", "GBP" => some 51300
  | "NGN", "EUR" => some 60600
  | "USD", "NGN" => some 155000000000
  | "GBP", "NGN" => some 195000000000
  | "EUR", "NGN" => some 165000000000
  | "USD", "GBP" => some 79000000
  | "GBP", "USD" => some 127000000
  | "USD", "EUR" => some 94000000
  | "EUR", "USD" => some 106000000
  | "GBP", "EUR" => some 119000000
  | "EUR", "GBP" => some 84000000
  | _, _ => none

def rateCacheTtlMs : Nat := 60_000

/-- `QUOTE_TTL_SECONDS`, in microseconds. -/
def quoteTtl : Nat := 60 * 1_000_000

def getRate (fromCurrency toCurrency : String) : Service Nat :=
  if fromCurrency = toCurrency then return 10 ^ scale
  else do
    let cached ← call (.cacheGet (.rate fromCurrency toCurrency))
    match cached with
    | some (.rate units) => return units
    | _ =>
        let rate ← orThrow
          (.badRequest s!"Unsupported currency pair: {fromCurrency} → {toCurrency}")
          (simulatedRates fromCurrency toCurrency)
        call (.cacheSet (.rate fromCurrency toCurrency) (.rate rate) rateCacheTtlMs)
        return rate

/-- `(parseFloat(sourceAmount) * rate).toFixed(8)`; `parseFloat`, the product and `toFixed` are
taken exact, with halves rounded up. -/
def convert (sourceAmount : Int) (rate : Nat) : Int :=
  (sourceAmount * rate + 10 ^ scale / 2) / 10 ^ scale

/-- `parseFloat`. -/
def parseAmount (text : Text) : Int := (numericOfText text).getD 0

def createQuote (fromCurrency toCurrency : String) (sourceAmount : Text) : Service FxQuote := do
  let rate ← getRate fromCurrency toCurrency
  let now ← newDate
  sql (.insertQuote
    { fromCurrency := fromCurrency
      toCurrency := toCurrency
      rate := rate
      sourceAmount := sourceAmount
      destinationAmount := convert (parseAmount sourceAmount) rate
      expiresAt := now + quoteTtl })

end FxService
end Payroute
