import AIUnblock.Foundation.Program
import AIUnblock.Relay.DnsAnswers

/-! # The lookups of `DnsOverride`

As a program whose operations are the calls of `fixedAddressFor`, `response` shows how
often it looks something up, and what. Whatever the lookup answers, the program ends as
`response` does.
-/

namespace AIUnblock.DnsOverride

open DnsMessage Prog

/-- Code that may throw, and that looks fixed addresses up. -/
abbrev LookupM : Type → Type := ExceptT Exception (Prog Text fun _ => Option Text)

/-- `fixedAddressFor(host)`. -/
def lookupCall (host : Text) : LookupM (Option Text) := ExceptT.lift (Prog.perform host)

/-- `response`, with its lookups as calls. -/
def responseCalls (platform : Platform) (getByName : Text → Except Exception InetAddress)
    (query : Bytes) : LookupM (Option Bytes) :=
  responseIn platform getByName query lookupCall

variable {platform : Platform} {getByName : Text → Except Exception InetAddress}
  {fixedAddressFor : Text → Option Text} {head : HeaderBytes} {labels : List Bytes}
  {type tail query : Bytes}

/-- Answered by `fixedAddressFor`, the program ends as `response` does. -/
theorem responseCalls_reads :
    Reads (fun host state => some (fixedAddressFor host, state)) ()
      (responseCalls platform getByName query)
      (response platform getByName query fixedAddressFor) := by
  have hlookup : ∀ host, Reads (fun host state => some (fixedAddressFor host, state)) ()
      (lookupCall host) (.ok (fixedAddressFor host) : Except Exception _) := fun _ => rfl
  rw [← responseIn_pure]
  unfold responseCalls responseIn
  apply Reads.ite Reads.pure
  apply Reads.bind Reads.lift
  intro count
  apply Reads.ite Reads.pure
  apply Reads.bind Reads.lift
  intro flags
  apply Reads.ite Reads.pure
  apply Reads.bind Reads.lift
  intro found
  cases found with
  | none => exact Reads.pure
  | some question =>
      apply Reads.ite Reads.pure
      apply Reads.bind Reads.lift
      intro queryType
      apply Reads.bind Reads.lift
      intro queryClass
      apply Reads.ite Reads.pure
      refine Reads.bind (hlookup _) fun text => ?_
      rcases text.map getByName with _ | error | octets | octets
      all_goals exact Reads.pure

/-- A question takes one lookup, of its host. -/
theorem responseCalls_encodeQuery (hasks : Asks head labels type) :
    (responseCalls platform getByName (encodeQuery head labels type tail)).run =
      .call (hostOf platform labels) fun found =>
        .ret (.ok (answerTo getByName head labels type found)) := by
  rw [responseCalls, responseIn_encodeQuery lift_ok_bind hasks]
  rfl

end AIUnblock.DnsOverride
