import AIUnblock.Relay.UdpAssociation

/-! # `LocalSocksRelay`: sessions and their tasks

`handleClient` serves one accepted connection. The blocks that it hands to the
executor run as programs of their own.
-/

namespace AIUnblock.LocalSocksRelay

def handleClient (config : RelayConfig) (client : SocketId) : RelayM Unit :=
  Prog.tryFinally
    (tryCatch (do
        negotiate config client
        let request ← readRequest client
        if request.command = COMMAND_CONNECT then
          handleConnect config client request.destination
        else if request.command = COMMAND_UDP_ASSOCIATE then handleUdpAssociate config client
        else writeReply client 7 unbound)
      fun _ => closeQuietly client)
    (relayCall (.removeSession client))

/-- `while (input.read() >= 0) Unit`, for at most `loops` turns. -/
def drain (input : SocketId) : Nat → RelayM Unit
  | 0 => do nomatch ← relayCall .diverge
  | loops + 1 => do
    match ← relayCall (.read input 1) with
    | none => return
    | some _ => drain input loops

/-- The block that a task runs. -/
def runTask (loops : Nat) : RelayTask → RelayM Unit
  | .upstreamToClient client upstream => copyDirection loops upstream client client upstream
  | .watchControl client relay =>
    Prog.tryFinally (tryCatch (drain client loops) fun _ => pure ()) (closeQuietly relay)

end AIUnblock.LocalSocksRelay
