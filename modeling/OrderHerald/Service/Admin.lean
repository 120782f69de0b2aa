import OrderHerald.Http.Answer

/-!
# The doors for operators

Operators ask whether the service is alive and whether it is ready.  It is ready once it has a
routing definition.

* `probe` — the answer to a path.
-/

namespace OrderHerald

/-- **The answer to a path**: the service is alive if it answers at all. -/
def probe (isReady : Bool) (path : String) : Answer :=
  if path = "/health" then .text 200 "ok\n"
  else if path = "/ready" then
    if isReady then .text 200 "ok\n" else .error 503
  else .error 404

end OrderHerald
