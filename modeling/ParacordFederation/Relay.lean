import ParacordFederation.StateInspector
import Mathlib.Data.String.Basic

/-!
The relay check both scripts run after a message of node A has reached node C, whose only
trusted path from A goes through B, and the final check of node A's trusted peers. The e2e
script demands no delivery attempt from A to C, one from B to C, and the event ingested at C;
the live script asks less, here and in the final check.
-/

namespace ParacordFederation

namespace E2e

/-- The relay check of the e2e script, on the stores of A, B and C. -/
def verifyRelay (a b c : NodeStore) (originEventId serverC : String) : Except PyException Unit :=
  if a.countDeliveryAttempts originEventId serverC ≠ 0 then
    .error ⟨"AssertionError", "A unexpectedly delivered message directly to C"⟩
  else if b.countDeliveryAttempts originEventId serverC ≤ 0 ∨ c.countFederationEvents originEventId ≤ 0 then
    .error ⟨"AssertionError", "Relay evidence missing: expected B->C delivery and C event"⟩
  else .ok ()

end E2e

namespace Live

/-- The relay check of the live script. -/
def verifyRelay (a b c : NodeStore) (originEventId serverC : String) : Except PyException Unit :=
  if c.countFederationEvents originEventId ≤ 0 then
    .error ⟨"AssertionError", "C did not ingest A-origin event"⟩
  else if a.countDeliveryAttempts originEventId serverC ≤ 0 ∧
      b.countDeliveryAttempts originEventId serverC ≤ 0 then
    .error ⟨"AssertionError", "No delivery attempt to C observed from A or B"⟩
  else .ok ()

end Live

/-! ## The final trust check -/

namespace E2e

/-- The final check of the e2e script on node A: its trusted peers, `ORDER BY server_name`,
are exactly `[B]`. -/
def checkTrustedPeers (servers : List FederatedServer) (serverB : String) :
    Except PyException Unit :=
  let peerNames := (trustedPeerNames servers).mergeSort fun x y => decide (x ≤ y)
  if peerNames ≠ [serverB] then
    .error ⟨"AssertionError", "Unexpected A trusted peers: " ++ pyReprStrList peerNames⟩
  else .ok ()

end E2e

namespace Live

/-- The final check of the live script on node A: B is among its trusted peers. -/
def checkTrustedPeers (servers : List FederatedServer) (serverB : String) :
    Except PyException Unit :=
  let peerNames := trustedPeerNames servers
  if serverB ∉ peerNames then
    .error ⟨"AssertionError",
      "A is missing trusted peer " ++ serverB ++ ": " ++ pyReprStrList peerNames⟩
  else .ok ()

end Live

end ParacordFederation
