import ChatGateway.Binary64
import ChatGateway.Chat.Request
import ChatGateway.Chat.Response
import ChatGateway.InsertionMap

/-!
# Prices and costs

Prices are in dollars per million tokens, for input and for output. The table holds for every
provider its models in the order in which they were first priced; a model without a price of its
own borrows that of the provider's first. From the table come the estimate for a request, which
takes four characters for a token and half as much output as input, and the cost of the tokens
that were used, rounded to a hundredth of a cent.
-/

namespace ChatGateway

/-- The price of a model per million tokens. -/
structure Price where
  input : Float
  output : Float
deriving DecidableEq

namespace Price

/-- The price of what costs nothing. -/
def zero : Price := ⟨0.0, 0.0⟩

def isFree (p : Price) : Bool := p.input == 0.0 && p.output == 0.0

/-- The cost of so many tokens. -/
def cost (p : Price) (inputTokens outputTokens : Float) : Float :=
  (inputTokens / 1000000.0) * p.input + (outputTokens / 1000000.0) * p.output

end Price

/-- The prices of every provider's models. -/
abbrev PriceTable := InsertionMap (InsertionMap Price)

/-- A price that is set by hand. -/
structure PriceEntry where
  provider : String
  model : String
  price : Price
deriving DecidableEq

namespace PriceTable

/-- The prices that are known from the start. -/
def builtin : PriceTable :=
  [("openai",
      [("gpt-4o", ⟨5.0, 15.0⟩), ("gpt-4o-mini", ⟨0.15, 0.6⟩), ("gpt-4", ⟨30.0, 60.0⟩),
        ("gpt-4-turbo-preview", ⟨10.0, 30.0⟩), ("gpt-3.5-turbo", ⟨0.5, 1.5⟩),
        ("gpt-3.5-turbo-0125", ⟨0.5, 1.5⟩)]),
    ("anthropic",
      [("claude-3-5-sonnet-20241022", ⟨3.0, 15.0⟩), ("claude-3-opus-20240229", ⟨15.0, 75.0⟩),
        ("claude-3-sonnet-20240229", ⟨3.0, 15.0⟩), ("claude-3-haiku-20240307", ⟨0.25, 1.25⟩)]),
    ("google",
      [("gemini-pro", ⟨0.0, 0.0⟩), ("gemini-1.5-pro", ⟨1.25, 5.0⟩),
        ("gemini-1.5-flash", ⟨0.075, 0.30⟩)]),
    ("local", [("llama2", ⟨0.0, 0.0⟩), ("mistral", ⟨0.0, 0.0⟩), ("codellama", ⟨0.0, 0.0⟩)])]

/-- The table with the price of one model set. -/
def set (t : PriceTable) (provider model : String) (price : Price) : PriceTable :=
  InsertionMap.put t provider
    (InsertionMap.put ((InsertionMap.get? t provider).getD []) model price)

/-- The table with a list of prices set in order. -/
def setAll (t : PriceTable) (entries : List PriceEntry) : PriceTable :=
  entries.foldl (fun t e => t.set e.provider e.model e.price) t

/-- The built-in table with some prices set. -/
def ofEntries (entries : List PriceEntry) : PriceTable := builtin.setAll entries

/-- The price of a model: its own, or the provider's first, or none if the provider has no
prices. -/
def price? (t : PriceTable) (provider model : String) : Option Price :=
  match InsertionMap.get? t provider with
  | none => none
  | some models =>
    match InsertionMap.get? models model, models with
    | some p, _ => some p
    | none, (_, p) :: _ => some p
    | none, [] => some .zero

/-- What an estimate says of a provider without prices. -/
def unknownCost : Float := 999999.0

/-- What the request is expected to cost with a provider. -/
def estimate (t : PriceTable) (provider : String) (r : ChatRequest) : Float :=
  match t.price? provider r.model with
  | none => unknownCost
  | some p =>
    if p.isFree then 0.0
    else
      let input := Float.ofNat r.textLength / 4.0
      p.cost input (input * 0.5)

/-- What the tokens cost, rounded to four decimals; nothing with a provider without prices. -/
def actual (t : PriceTable) (provider model : String) (usage : Usage) : Float :=
  match t.price? provider model with
  | none => 0.0
  | some p =>
    let cost := p.cost (Float.ofNat usage.promptTokens.toNat)
      (Float.ofNat usage.completionTokens.toNat)
    Binary64.roundHalfAway (cost * 10000.0) / 10000.0

end PriceTable

end ChatGateway
