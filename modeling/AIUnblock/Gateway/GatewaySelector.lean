import AIUnblock.Foundation.Program
import AIUnblock.Kotlin.Maps
import AIUnblock.Kotlin.Network
import AIUnblock.Routing.RoutingRules

/-! # `GatewaySelector`

The selector keeps one address for each gateway group. A scheduled refresh probes
the addresses, selects the ones that work and saves them; `close` ends it.
-/

namespace AIUnblock

def PUBLIC_PROXIES : List String :=
  [ "62.133.62.97",
    "103.27.157.38",
    "103.27.157.100",
    "45.155.204.190",
    "37.230.192.51",
    "95.182.120.241",
    "95.216.204.218",
    "80.253.249.40",
    "185.246.223.127",
    "87.228.47.204" ]

def PUBLIC_AI_PROXIES : List String :=
  [ "87.228.47.204",
    "185.246.223.127",
    "103.27.157.38",
    "103.27.157.100",
    "62.133.62.97",
    "45.155.204.190",
    "37.230.192.51",
    "95.182.120.241",
    "95.216.204.218",
    "80.253.249.40" ]

def AUTH_DNS : List String :=
  [ "62.133.62.97",
    "87.228.47.204",
    "80.253.249.40",
    "103.27.157.38",
    "103.27.157.100",
    "95.216.204.218",
    "111.88.96.50",
    "111.88.96.51" ]

structure GatewaySpec where
  group : GatewayGroup
  preferenceKey : String
  defaultAddress : String
  checkDomains : List String
  candidates : List String
  deriving DecidableEq, Repr

def GATEWAY_SPECS : List GatewaySpec :=
  [ { group := .googleAi
      preferenceKey := "gateway_google_ai"
      defaultAddress := "62.133.62.97"
      checkDomains :=
        [ "gemini.google.com",
          "robinfrontend-pa.googleapis.com",
          "proactivebackend-pa.googleapis.com" ]
      candidates := PUBLIC_PROXIES },
    { group := .notebookLm
      preferenceKey := "gateway_notebook_lm"
      defaultAddress := "62.133.62.97"
      checkDomains := ["notebooklm-pa.googleapis.com"]
      candidates := PUBLIC_PROXIES },
    { group := .chatGpt
      preferenceKey := "gateway_chatgpt"
      defaultAddress := "87.228.47.204"
      checkDomains := ["chatgpt.com"]
      candidates := PUBLIC_AI_PROXIES },
    { group := .claude
      preferenceKey := "gateway_claude"
      defaultAddress := "87.228.47.204"
      checkDomains := ["claude.ai"]
      candidates := PUBLIC_AI_PROXIES },
    { group := .geoHide
      preferenceKey := "gateway_geohide"
      defaultAddress := "45.155.204.190"
      checkDomains := ["deepl.com"]
      candidates := PUBLIC_PROXIES } ]

namespace GatewaySelector

open Prog

/-- `Map<GatewayGroup, String>`. -/
abbrev Gateways : Type := KMap GatewayGroup String

structure ProbeKey where
  group : GatewayGroup
  address : String
  domain : String
  deriving DecidableEq, Repr

/-- What the selector asks of its fields, its executors and its owner. A probe or
an authorization is submitted to the pool before anything waits for its future. -/
inductive SelectorOp
  | isClosed
  | compareAndSetClosed
  | hasPeriodicTask
  | schedulePeriodicTask
  | cancelPeriodicTask
  | clearPeriodicTask
  | shutdownScheduler
  | shutdownProbePool
  | getSelected
  | setSelected (gateways : Gateways)
  | awaitAuthorization (address : String)
  | awaitProbe (key : ProbeKey)
  | applyPreferences (entries : List (String × String))
  | onSelectionUpdated (summary : String)

namespace SelectorOp

abbrev Value : SelectorOp → Type
  | .isClosed => Bool
  | .compareAndSetClosed => Bool
  | .hasPeriodicTask => Bool
  | .getSelected => Gateways
  | .awaitAuthorization _ => Bool
  | .awaitProbe _ => Bool
  | _ => Unit

abbrev Answer (op : SelectorOp) : Type := Except Exception op.Value

end SelectorOp

abbrev SelectorM : Type → Type := ExceptT Exception (Prog SelectorOp SelectorOp.Answer)

def selectorCall (op : SelectorOp) : SelectorM op.Value := Prog.io op

/-- The selection that the preferences give. -/
def loadSavedGateways (preferences : KMap String String) : Gateways :=
  KMap.ofPairs <| GATEWAY_SPECS.map fun spec =>
    let saved := (preferences spec.preferenceKey).filter spec.candidates.contains
    (spec.group, saved.getD spec.defaultAddress)

/-- `GATEWAY_SPECS.first { it.group == group }`. -/
def firstSpec (group : GatewayGroup) : Except Exception GatewaySpec :=
  match GATEWAY_SPECS.find? fun spec => spec.group = group with
  | some spec => .ok spec
  | none => .error { kind := .noSuchElement }

/-- The address that a connection of the group goes to. -/
def addressFor (getByName : String → Except Exception InetAddress) (group : GatewayGroup) :
    SelectorM InetAddress := do
  let selected ← selectorCall .getSelected
  let address ← match selected group with
    | some address => pure address
    | none => liftM (firstSpec group >>= fun spec => pure spec.defaultAddress)
  liftM (getByName address)

def summary (gateways : Gateways) : Except Exception String := do
  let google ← gateways.getValue .googleAi
  let notebook ← gateways.getValue .notebookLm
  let chatGpt ← gateways.getValue .chatGpt
  let claude ← gateways.getValue .claude
  let geoHide ← gateways.getValue .geoHide
  let googleLines :=
    if google = notebook then ["Gemini/NotebookLM · " ++ google]
    else ["Gemini/Google · " ++ google, "NotebookLM · " ++ notebook]
  let chatGptLines :=
    if chatGpt = claude then ["ChatGPT/Claude · " ++ chatGpt]
    else ["ChatGPT · " ++ chatGpt, "Claude · " ++ claude]
  return "\n".intercalate (googleLines ++ chatGptLines ++ ["GeoHide · " ++ geoHide])

/-- The public `summary()`. -/
def currentSummary : SelectorM String := do
  liftM (summary (← selectorCall .getSelected))

def persist (gateways : Gateways) : SelectorM Unit := do
  let entries ← liftM (GATEWAY_SPECS.mapM fun spec => do
    return (spec.preferenceKey, ← gateways.getValue spec.group))
  selectorCall (.applyPreferences entries)

/-! ## Probes -/

/-- `runCatching { future.get() }.getOrDefault(false)`. -/
def resultOf (wait : SelectorM Bool) : SelectorM Bool := tryCatch wait fun _ => pure false

/-- The waits of `authorizeSmartDns`; their count is only logged. -/
def authorizeSmartDns : List String → SelectorM Unit
  | [] => pure ()
  | address :: addresses => do
    let _ ← resultOf (selectorCall (.awaitAuthorization address))
    authorizeSmartDns addresses

/-- `spec.checkDomains.all { .. }`. -/
def passesAll (group : GatewayGroup) (candidate : String) : List String → SelectorM Bool
  | [] => pure true
  | domain :: domains => do
    if ← resultOf (selectorCall (.awaitProbe { group, address := candidate, domain })) then
      passesAll group candidate domains
    else return false

/-- The probes of the candidates of one group. -/
def probeCandidates (spec : GatewaySpec) :
    List String → KMap String Bool → SelectorM (KMap String Bool)
  | [], groupResults => pure groupResults
  | candidate :: candidates, groupResults => do
    let passed ← passesAll spec.group candidate spec.checkDomains
    probeCandidates spec candidates (groupResults.put candidate passed)

/-- Only groups with candidates have results. -/
def probeMatrix (candidatesByGroup : KMap GatewayGroup (List String)) :
    List GatewaySpec → KMap GatewayGroup (KMap String Bool) →
      SelectorM (KMap GatewayGroup (KMap String Bool))
  | [], results => pure results
  | spec :: specs, results => do
    let candidates := (candidatesByGroup spec.group).getD []
    let groupResults ← probeCandidates spec candidates KMap.empty
    probeMatrix candidatesByGroup specs
      (if candidates = [] then results else results.put spec.group groupResults)

/-- The keys of `futures`: what `probeMatrix` submits before it waits. -/
def submittedProbes (candidatesByGroup : KMap GatewayGroup (List String))
    (specs : List GatewaySpec) : List ProbeKey :=
  specs.flatMap fun spec => ((candidatesByGroup spec.group).getD []).flatMap fun address =>
    spec.checkDomains.map fun domain => { group := spec.group, address, domain }

/-- `results[group]?.get(address) == true`. -/
def passed (results : KMap GatewayGroup (KMap String Bool)) (group : GatewayGroup)
    (address : String) : Bool :=
  (results group).bind (· address) = some true

/-! ## The refresh -/

def currentCandidates (previous : Gateways) :
    Except Exception (KMap GatewayGroup (List String)) := do
  return KMap.ofPairs (← GATEWAY_SPECS.mapM fun spec => do
    return (spec.group, [← previous.getValue spec.group]))

def failedSpecs (previous : Gateways) (currentResults : KMap GatewayGroup (KMap String Bool)) :
    Except Exception (List GatewaySpec) :=
  GATEWAY_SPECS.filterM fun spec => do
    return !passed currentResults spec.group (← previous.getValue spec.group)

def alternatives (previous : Gateways) (failed : List GatewaySpec) :
    Except Exception (KMap GatewayGroup (List String)) := do
  return KMap.ofPairs (← failed.mapM fun spec => do
    let current ← previous.getValue spec.group
    return (spec.group, spec.candidates.filter (· ≠ current)))

/-- The selection loop. -/
def selectGateways (previous : Gateways)
    (currentResults alternativeResults : KMap GatewayGroup (KMap String Bool)) :
    List GatewaySpec → Gateways → Except Exception Gateways
  | [], updated => .ok updated
  | spec :: specs, updated => do
    let current ← previous.getValue spec.group
    let replacement :=
      if passed currentResults spec.group current then some current
      else spec.candidates.find? (passed alternativeResults spec.group)
    selectGateways previous currentResults alternativeResults specs
      (match replacement with
        | some address => updated.put spec.group address
        | none => updated)

/-- What a refresh does with its selection. -/
def publish (updated : Gateways) : SelectorM Unit := do
  selectorCall (.setSelected updated)
  persist updated
  if ← selectorCall .isClosed then return
  selectorCall (.onSelectionUpdated (← liftM (summary updated)))

def refresh : SelectorM Unit := do
  let previous ← selectorCall .getSelected
  Prog.tryFinally (do
      authorizeSmartDns AUTH_DNS
      let current ← liftM (currentCandidates previous)
      let currentResults ← probeMatrix current GATEWAY_SPECS KMap.empty
      let failed ← liftM (failedSpecs previous currentResults)
      let others ← liftM (alternatives previous failed)
      let alternativeResults ← probeMatrix others GATEWAY_SPECS KMap.empty
      let updated ← liftM (selectGateways previous currentResults alternativeResults GATEWAY_SPECS
        previous)
      publish updated)
    (selectorCall .shutdownProbePool)

def refreshSafely : SelectorM Unit := do
  if ← selectorCall .isClosed then return
  tryCatch refresh fun _ => pure ()

def start : SelectorM Unit := do
  if ← selectorCall .isClosed then return
  if ← selectorCall .hasPeriodicTask then return
  selectorCall .schedulePeriodicTask

def close : SelectorM Unit := do
  if ← selectorCall .compareAndSetClosed then
    selectorCall .cancelPeriodicTask
    selectorCall .clearPeriodicTask
    selectorCall .shutdownScheduler

end GatewaySelector

end AIUnblock
