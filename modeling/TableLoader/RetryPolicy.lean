/-
# Retry policies

How often a batch is sent again, and after which errors. An error is worth
another attempt if its code is among the codes of the policy; each batch has the
same number of further attempts.

Key definitions: `RetryPolicy`, `RetryPolicy.ofConfig`, `codeSet`.
-/
import TableLoader.Config

namespace TableLoader

/-- Which errors are retried and how often. -/
structure RetryPolicy where
  codes : List Int
  retries : Int
deriving DecidableEq, Repr

/-- Puts a code in its place among codes in increasing order, unless it is there. -/
def insertCode (code : Int) : List Int → List Int
  | [] => [code]
  | c :: cs =>
    if code < c then code :: c :: cs
    else if code = c then c :: cs
    else c :: insertCode code cs

/-- The codes in increasing order, each of them once. -/
def codeSet (codes : List Int) : List Int := codes.foldr insertCode []

namespace RetryPolicy

/-- The number of further attempts where none is configured. -/
def defaultRetries : Nat := 1

/-- One further attempt, and no code that is worth it. -/
def default : RetryPolicy := ⟨[], defaultRetries⟩

/-- The policy in a configuration. -/
def ofConfig (config : Config) : Except Error RetryPolicy := do
  let retry := (← config.integer? "retry").getD defaultRetries
  let codes ← config.integers "retry_codes"
  return ⟨codeSet codes, max retry 0⟩

end RetryPolicy
end TableLoader
