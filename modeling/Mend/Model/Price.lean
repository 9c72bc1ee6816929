import Mend.Number.Basic

namespace Mend.Price

structure Rate where
  input : Binary64
  output : Binary64

def hundredths (n : Nat) : Binary64 := .ofDecimal false n (-2)

def rates : List (String × Rate) :=
  [("claude-sonnet-4-6", ⟨hundredths 300, hundredths 1500⟩),
    ("claude-sonnet-4-20250514", ⟨hundredths 300, hundredths 1500⟩),
    ("claude-haiku-3-5-20241022", ⟨hundredths 80, hundredths 400⟩),
    ("gpt-4o", ⟨hundredths 250, hundredths 1000⟩),
    ("gpt-4o-mini", ⟨hundredths 15, hundredths 60⟩)]

def defaultRate : Rate := ⟨hundredths 300, hundredths 1500⟩

def rate (model : String) : Rate := (rates.lookup model).getD defaultRate

def million : Binary64 := .ofDecimal false 1 6

def estimate? (model : String) (inputTokens outputTokens : Int) : Option Binary64 := do
  let r := rate model
  let input ← Binary64.ofInt? inputTokens
  let output ← Binary64.ofInt? outputTokens
  return (input * r.input + output * r.output) / million

def thousandth : Number := .real (.ofDecimal false 1 (-3))

def text (cost : Number) : Option String :=
  if cost.lt thousandth then some "<$0.001"
  else cost.toReal?.map fun x => "$" ++ Decimal.fixedText 3 x

end Mend.Price
