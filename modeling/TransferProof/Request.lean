import TransferProof.Number.Seconds

/-!
# Verification requests

What is to be proved about one transfer, by which service, and since when it is asked for.
-/

namespace TransferProof

structure Request where
  txHash : Text
  recipientAddress : Text
  txKey : Text
  serviceAddress : Text
  tradeId : Text
  /-- The expected amount in piconero. -/
  amount : Int
  /-- Seconds since the epoch. -/
  tradeDate : Double
  requiredConfirmations : Int
  /-- The time of the first request, by the clock that the verifier reads. -/
  firstRequest : Seconds

namespace Request

def query (request : Request) : Text :=
  "/api/outputs?txhash=" ++ request.txHash ++ "&address=" ++ request.recipientAddress
    ++ "&viewkey=" ++ request.txKey ++ "&txprove=1"

end Request

end TransferProof
