import AIUnblock.Gateway.GatewaySelector

/-! # `AiUnblockVpnService`

The callbacks of the service, on the main thread, and the callback that it hands to
its gateway selector, on the scheduler's thread.
-/

namespace AIUnblock

inductive TunnelState
  | off
  | starting
  | on (gatewaySummary : String)
  | error (message : String)
  deriving DecidableEq, Repr

/-- Whether the app says that it is on. -/
def TunnelState.IsOn : TunnelState → Prop
  | .on _ => True
  | _ => False

namespace AiUnblockVpnService

open Prog GatewaySelector

abbrev TunId : Type := Nat

abbrev RelayId : Type := Nat

abbrev SelectorId : Type := Nat

/-- What the service asks of its fields, of the platform and of its parts. The
builder of the interface is configured and established in two calls. -/
inductive ServiceOp
  | getTunInterface
  | setTunInterface (tun : Option TunId)
  | getSocksRelay
  | setSocksRelay (relay : Option RelayId)
  | getGatewaySelector
  | setGatewaySelector (selector : Option SelectorId)
  | update (value : TunnelState)
  | tProxyStartService (configPath : String) (tun : TunId)
  | tProxyStopService
  | tProxyIsRunning
  | activePackages
  | getPackageInfo (packageName : String)
  | newSelector
  | selector (id : SelectorId) (op : SelectorOp)
  | loadRules
  | newRelay
  | startRelay (relay : RelayId)
  | relayPort (relay : RelayId)
  | relayPassword (relay : RelayId)
  | closeRelay (relay : RelayId)
  | configureBuilder (packages : List String)
  | establish
  | closeTun (tun : TunId)
  | writeTunnelConfig (port : Nat) (username password : String)
  | putEnabled (enabled : Bool)
  | startForeground
  | stopForeground
  | stopSelf

namespace ServiceOp

abbrev Value : ServiceOp → Type
  | .getTunInterface => Option TunId
  | .getSocksRelay => Option RelayId
  | .getGatewaySelector => Option SelectorId
  | .tProxyStartService _ _ => Bool
  | .tProxyStopService => Bool
  | .tProxyIsRunning => Bool
  | .activePackages => List String
  | .newSelector => SelectorId
  | .selector _ op => op.Value
  | .newRelay => RelayId
  | .relayPort _ => Nat
  | .relayPassword _ => String
  | .establish => Option TunId
  | .writeTunnelConfig _ _ _ => String
  | _ => Unit

abbrev Answer (op : ServiceOp) : Type := Except Exception op.Value

end ServiceOp

abbrev ServiceM : Type → Type := ExceptT Exception (Prog ServiceOp ServiceOp.Answer)

def serviceCall (op : ServiceOp) : ServiceM op.Value := Prog.io op

/-! ## The selector of the service -/

/-- The callback of the selector. -/
def onSelectionUpdated (summary : String) : ServiceM Unit := do
  match ← serviceCall .getTunInterface with
  | some _ => serviceCall (.update (.on summary))
  | none => return

/-- A call of the selector; its callback is the service's. -/
def selectorBody (id : SelectorId) :
    (op : SelectorOp) → Prog ServiceOp ServiceOp.Answer op.Answer
  | .onSelectionUpdated summary => (onSelectionUpdated summary).run
  | op => perform (ServiceOp.selector id op)

/-- Code of the selector in the service. -/
def ofSelector {α : Type} (id : SelectorId) (code : SelectorM α) : ServiceM α :=
  ExceptT.mk (code.run.interpret (selectorBody id))

/-! ## Stopping -/

def closeSelector : ServiceM Unit := do
  match ← serviceCall .getGatewaySelector with
  | some selector => ofSelector selector close
  | none => return

def stopEngine : ServiceM Unit := do
  if ← serviceCall .tProxyIsRunning then
    let _ ← serviceCall .tProxyStopService

/-- `tunInterface?.close()`, with its `IOException` ignored. -/
def closeTunInterface : ServiceM Unit := do
  match ← serviceCall .getTunInterface with
  | some tun =>
    tryCatch (serviceCall (.closeTun tun)) fun error =>
      if error.kind = .io then pure () else throw error
  | none => return

def closeSocksRelay : ServiceM Unit := do
  match ← serviceCall .getSocksRelay with
  | some relay => serviceCall (.closeRelay relay)
  | none => return

def cleanupTunnel : ServiceM Unit := do
  closeSelector
  serviceCall (.setGatewaySelector none)
  stopEngine
  closeTunInterface
  serviceCall (.setTunInterface none)
  closeSocksRelay
  serviceCall (.setSocksRelay none)

def stopTunnel : ServiceM Unit := do
  cleanupTunnel
  serviceCall (.putEnabled false)
  serviceCall (.update .off)
  serviceCall .stopForeground
  serviceCall .stopSelf

/-! ## Starting -/

def isPackageInstalled (packageName : String) : ServiceM Bool :=
  tryCatch (do
      serviceCall (.getPackageInfo packageName)
      return true)
    fun error => if error.kind = .nameNotFound then pure false else throw error

/-- `packages.filter(::isPackageInstalled)`. -/
def filterInstalled : List String → ServiceM (List String)
  | [] => pure []
  | packageName :: packageNames => do
    let installed ← isPackageInstalled packageName
    let rest ← filterInstalled packageNames
    return if installed then packageName :: rest else rest

def installedPackages : ServiceM (List String) := do
  let packages ← filterInstalled (← serviceCall .activePackages)
  if packages = [] then
    throw { kind := .illegalState, message := "Не найдено ни одного выбранного приложения" }
  else return packages

/-- The username of every relay. -/
def relayUsername : String := "aiunblock"

/-- The part of `startTunnel` after the interface is up. -/
def startEngine (selector : SelectorId) (relay : RelayId) (established : TunId) :
    ServiceM Unit := do
  let port ← serviceCall (.relayPort relay)
  let password ← serviceCall (.relayPassword relay)
  let configFile ← serviceCall (.writeTunnelConfig port relayUsername password)
  if ← serviceCall (.tProxyStartService configFile established) then
    serviceCall (.putEnabled true)
    serviceCall (.update (.on (← ofSelector selector currentSummary)))
    ofSelector selector start
  else throw { kind := .illegalState, message := "Не удалось запустить TUN-движок" }

/-- The `try` block of `startTunnel`. -/
def bringUp : ServiceM Unit := do
  let installed ← installedPackages
  let selector ← serviceCall .newSelector
  serviceCall (.setGatewaySelector (some selector))
  serviceCall .loadRules
  let relay ← serviceCall .newRelay
  serviceCall (.startRelay relay)
  serviceCall (.setSocksRelay (some relay))
  serviceCall (.configureBuilder installed)
  match ← serviceCall .establish with
  | some established =>
    serviceCall (.setTunInterface (some established))
    startEngine selector relay established
  | none => throw { kind := .illegalState, message := "Android не создал VPN-интерфейс" }

/-- `error.message ?: "Ошибка запуска VPN"`. -/
def failureMessage (error : Exception) : String := error.message.getD "Ошибка запуска VPN"

/-- The `catch` block of `startTunnel`. -/
def startFailed (error : Exception) : ServiceM Unit := do
  cleanupTunnel
  serviceCall (.update (.error (failureMessage error)))
  serviceCall .stopForeground
  serviceCall .stopSelf

/-- The test at the head of `startTunnel`. -/
def isUp : ServiceM Bool := do
  match ← serviceCall .getTunInterface with
  | some _ => return true
  | none => serviceCall .tProxyIsRunning

def startTunnel : ServiceM Unit := do
  if ← isUp then return
  serviceCall (.update .starting)
  tryCatch bringUp startFailed

/-! ## Callbacks -/

def ACTION_CONNECT : String := "ru.ecubz.aiunblock.CONNECT"

def ACTION_DISCONNECT : String := "ru.ecubz.aiunblock.DISCONNECT"

def onStartCommand (action : Option String) : ServiceM Unit :=
  if action = some ACTION_DISCONNECT then stopTunnel
  else do
    serviceCall .startForeground
    startTunnel

def onRevoke : ServiceM Unit := stopTunnel

def onDestroy : ServiceM Unit := stopTunnel

/-- `MainActivity.startVpnService`, as far as it touches the published state; the
start command follows. -/
def startVpnService : ServiceM Unit := serviceCall (.update .starting)

end AiUnblockVpnService

end AIUnblock
