import AIUnblock.Relay.Checked
import AIUnblock.Tls.Checked

/-! # The parsers stay within their arrays

An access outside of an array is an exception in the model, and a sum that wraps is one
in the checked functions. Neither happens in a parser, whatever the network sends, and
as functions of Lean their loops end.
-/

namespace AIUnblock

namespace LocalSocksRelay

variable {getByName : Text → Except Exception InetAddress} {data : Bytes} {start length : Nat}

/-- Bytes at and after `start + length` are not looked at. -/
theorem parseUdpRequest_window (hfits : start + length ≤ data.length) (rest : Bytes) :
    parseUdpRequest getByName (data.take (start + length) ++ rest) start length =
      parseUdpRequest getByName data start length := by
  have htake : (data.take (start + length)).length = start + length :=
    List.length_take_of_le hfits
  have hslice : slice (data.take (start + length) ++ rest) start (start + length) =
      slice data start (start + length) := by
    rw [slice, slice, List.take_left' htake]
  have hroom : start + length ≤ (data.take (start + length) ++ rest).length := by
    rw [List.length_append, htake]
    exact Nat.le_add_right _ _
  rw [parseUdpRequest_eq hroom, hslice, parseUdpRequest_eq hfits]

end LocalSocksRelay

/-- No byte array makes `TlsClientHello.parse` or `DnsOverride.response` fail, and
`parseUdpRequest` fails only where a name is not resolved. In arrays of up to 65536 bytes
no sum of the three wraps. `parseUdpRequest` depends on no byte behind its datagram,
not even on there being one. -/
theorem parsers_stay_in_bounds :
    (∀ bytes, (∃ result, TlsClientHello.parse bytes = .ok result) ∧
      (bytes.length ≤ 65536 →
        TlsClientHello.Checked.parse bytes = TlsClientHello.parse bytes)) ∧
    (∀ platform getByName query fixedAddressFor,
      (∃ answer, DnsOverride.response platform getByName query fixedAddressFor = .ok answer) ∧
      (query.length ≤ 65536 →
        DnsOverride.Checked.response platform getByName query fixedAddressFor =
          DnsOverride.response platform getByName query fixedAddressFor)) ∧
    ∀ getByName data start length, start + length ≤ data.length →
      (∀ error, LocalSocksRelay.parseUdpRequest getByName data start length = .error error →
        ∃ host, getByName host = .error error) ∧
      (∀ rest, LocalSocksRelay.parseUdpRequest getByName
          (data.take (start + length) ++ rest) start length =
        LocalSocksRelay.parseUdpRequest getByName data start length) ∧
      (data.length ≤ 65536 →
        LocalSocksRelay.Checked.parseUdpRequest getByName data start length =
          LocalSocksRelay.parseUdpRequest getByName data start length) := by
  have hsmall : ∀ size : Nat, size ≤ 65536 → size < 2 ^ 30 := by
    intro size hsize
    omega
  refine ⟨?_, ?_, ?_⟩
  · intro bytes
    refine ⟨⟨_, Tls.parse_eq bytes⟩, fun hsize => ?_⟩
    exact TlsClientHello.Checked.parse_eq bytes (hsmall _ hsize)
  · intro platform getByName query fixedAddressFor
    refine ⟨DnsOverride.response_returns platform getByName query fixedAddressFor, ?_⟩
    intro hsize
    exact DnsOverride.Checked.response_eq platform getByName query fixedAddressFor (hsmall _ hsize)
  · intro getByName data start length hfits
    refine ⟨fun error => LocalSocksRelay.parseUdpRequest_error hfits,
      LocalSocksRelay.parseUdpRequest_window hfits, fun hsize => ?_⟩
    exact LocalSocksRelay.Checked.parseUdpRequest_eq hfits (hsmall _ hsize)

end AIUnblock
