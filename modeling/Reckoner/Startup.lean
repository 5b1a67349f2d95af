import Reckoner.Web.Client

/-!
# Choosing a service

When the calculator starts it waits a few seconds for the server to give a sign of life. If one
comes it announces the server and uses it; otherwise it computes locally.
-/

namespace Reckoner

namespace Startup

/-- The address of the server unless another is given. -/
def defaultBase : Text := "http://127.0.0.1:8888"

/-- The seconds that a request may take. -/
def timeout : Double := .ofInt 5

/-- The pause between two questions for a sign of life, in quarters of a second. -/
def pauseQuarters : Nat := 1

/-- The time to wait for a sign of life, in quarters of a second. -/
def waitQuarters : Nat := 12

/-- The pause in seconds. -/
def pause : Double := .ofInt pauseQuarters / .ofInt 4

/-- How often the question is repeated: after each pause, until the time is up. -/
def retries : Nat := waitQuarters / pauseQuarters

/-- A line across the screen. -/
def rule : Text := List.replicate 60 '='

/-- What is printed when the server has been found. -/
def announcement (base : Text) : Text :=
  rule ++ "\nConnected to " ++ appName ++ " API at " ++ base ++ "\n" ++ rule ++ "\n"

/-- Waits for the server: whether it gave a sign of life, and what is printed. -/
def choose {σ : Type} (carrier : Web.Carrier σ) (base : Text) (state : σ) :
    Except ServiceError (Bool × Text) × σ :=
  match Web.Client.await carrier base retries state with
  | (.ok true, state) => (.ok (true, announcement base), state)
  | (.ok false, state) => (.ok (false, []), state)
  | (.error e, state) => (.error e, state)

end Startup

end Reckoner
