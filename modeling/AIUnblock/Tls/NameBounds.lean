import AIUnblock.Tls.Fragments

/-! # Where the name stands

The name that the parser reports is the content of the first `host_name` entry of the
first `server_name` extension. It lies inside the message, the extension block and the
extension by their lengths. The length of the list around the entries is not read, so
the name lies inside the list only if that length happens to be large enough.
-/

namespace AIUnblock.Tls

open LengthPrefixed TlsClientHello

/-- A hello with a host name, cut into its fields. -/
structure NameLayout where
  fixedFields : Bytes
  fixedFields_length : fixedFields.length = 2 + 32
  sessionId : Opaque 1
  cipherSuites : Opaque 2
  compression : Opaque 1
  before : List Extension
  before_type : ∀ extension ∈ before, extension.type ≠ SERVER_NAME_EXTENSION
  /-- The length of the list, as it stands in the message. -/
  listLength : Bytes
  listLength_length : listLength.length = 2
  others : List NameEntry
  others_type : ∀ entry ∈ others, entry.nameType ≠ 0
  name : Opaque 2
  behindName : Bytes
  serverName : Opaque 2
  serverName_content : serverName.content =
    listLength ++ (others.flatMap NameEntry.encode ++ ([0] ++ (name.encode ++ behindName)))
  behindServerName : Bytes
  extensions : Opaque 2
  extensions_content : extensions.content = before.flatMap Extension.encode ++
    (toBigEndian 2 SERVER_NAME_EXTENSION ++ (serverName.encode ++ behindServerName))
  behindExtensions : Bytes
  body : Opaque 3
  body_content : body.content = fixedFields ++ (sessionId.encode ++ (cipherSuites.encode ++
    (compression.encode ++ (extensions.encode ++ behindExtensions))))

namespace NameLayout

variable (layout : NameLayout)

def encode : Bytes := UInt8.ofNat CLIENT_HELLO :: layout.body.encode

/-- Where the length of the extension block stands. -/
def extensionsAt : Nat :=
  4 + (2 + 32) + layout.sessionId.encode.length + layout.cipherSuites.encode.length +
    layout.compression.encode.length

/-- Where the length of the `server_name` extension stands. -/
def serverNameAt : Nat :=
  layout.extensionsAt + 2 + (layout.before.flatMap Extension.encode).length + 2

/-- Where the length of the list stands. -/
def listAt : Nat := layout.serverNameAt + 2

def nameStart : Nat := layout.listAt + 2 + (layout.others.flatMap NameEntry.encode).length + 1 + 2

def nameEnd : Nat := layout.nameStart + layout.name.content.length

/-! ## The fields behind one another -/

theorem drop_body : layout.encode.drop 1 = layout.body.encode ++ [] := (List.append_nil _).symm

/-- The extension block stands where the message says. -/
theorem drop_extensions :
    layout.encode.drop layout.extensionsAt =
      layout.extensions.encode ++ layout.behindExtensions := by
  have hbody : layout.encode.drop 4 = layout.body.content ++ [] :=
    Opaque.drop_content layout.drop_body
  rw [List.append_nil, layout.body_content] at hbody
  have hsession := drop_behind hbody layout.fixedFields_length
  have hsuites := drop_behind hsession rfl
  have hcompression := drop_behind hsuites rfl
  exact drop_behind hcompression rfl

/-- So does the `server_name` extension in it. -/
theorem drop_serverName :
    layout.encode.drop layout.serverNameAt =
      layout.serverName.encode ++ (layout.behindServerName ++ layout.behindExtensions) := by
  have hblock := Opaque.drop_content layout.drop_extensions
  rw [layout.extensions_content] at hblock
  simp only [List.append_assoc] at hblock
  have hbefore := drop_behind hblock rfl
  exact drop_behind hbefore (length_toBigEndian 2 _)

/-- And its list. -/
theorem drop_list :
    layout.encode.drop layout.listAt =
      layout.listLength ++ (layout.others.flatMap NameEntry.encode ++ ([0] ++
        (layout.name.encode ++ (layout.behindName ++
          (layout.behindServerName ++ layout.behindExtensions))))) := by
  have hcontent := Opaque.drop_content layout.drop_serverName
  rw [layout.serverName_content] at hcontent
  simp only [List.append_assoc] at hcontent
  exact hcontent

/-- And the name in the list. -/
theorem drop_name :
    layout.encode.drop layout.nameStart = layout.name.content ++ (layout.behindName ++
      (layout.behindServerName ++ layout.behindExtensions)) := by
  have hentries := drop_behind layout.drop_list layout.listLength_length
  have hothers := drop_behind hentries rfl
  have hentry := drop_behind hothers rfl
  exact Opaque.drop_content hentry

/-- The name is what stands between its bounds. -/
theorem slice_name : slice layout.encode layout.nameStart layout.nameEnd = layout.name.content := by
  have hcount : layout.nameEnd - layout.nameStart = layout.name.content.length := by
    rw [nameEnd, Nat.add_sub_cancel_left]
  rw [slice, List.drop_take, hcount]
  exact take_field layout.drop_name rfl

/-- The name ends before the message, the block and the extension do. -/
theorem nameEnd_le :
    layout.nameEnd ≤ declaredEnd layout.encode 1 3 ∧
      layout.nameEnd ≤ declaredEnd layout.encode layout.extensionsAt 2 ∧
      layout.nameEnd ≤ declaredEnd layout.encode layout.serverNameAt 2 := by
  have hbody := congrArg List.length layout.body_content
  have hextensions := congrArg List.length layout.extensions_content
  have hserverName := congrArg List.length layout.serverName_content
  simp only [List.length_append, layout.fixedFields_length, layout.listLength_length,
    Opaque.length_encode, length_toBigEndian, List.length_singleton]
    at hbody hextensions hserverName
  rw [Opaque.declaredEnd_of_drop layout.drop_body,
    Opaque.declaredEnd_of_drop layout.drop_extensions,
    Opaque.declaredEnd_of_drop layout.drop_serverName]
  simp only [nameEnd, nameStart, listAt, serverNameAt, extensionsAt, Opaque.length_encode]
  omega

/-- The announced length of the message is its own. -/
theorem messageLength_encode :
    messageLength layout.encode = some layout.encode.length := by
  have hnumber := bigEndian_toBigEndian 3 _ layout.body.fits
  have hlength : layout.encode.length = layout.body.content.length + 4 := by
    rw [encode, List.length_cons, Opaque.length_encode]
    omega
  have hslice : slice layout.encode 1 4 = toBigEndian 3 layout.body.content.length := by
    rw [slice, List.drop_take]
    exact take_field layout.drop_body (length_toBigEndian 3 _)
  rw [messageLength, hslice, hnumber, if_pos (by omega), hlength]

end NameLayout

/-! ## The parser finds the name of the layout, and no other -/

/-- A field that is read was encoded. -/
theorem exists_opaque {width : Nat} {bytes content rest : Bytes}
    (hread : takeVector width bytes = some (content, rest)) :
    ∃ v : Opaque width, v.content = content ∧ bytes = v.encode ++ rest := by
  obtain ⟨hbytes, hfits⟩ := takeVector_eq_some_iff.mp hread
  exact ⟨⟨content, hfits⟩, rfl, hbytes⟩

/-- The reported name of a list closes the entries of other types in front of it. -/
theorem hostName_eq_some {entries : Bytes} {host : Text} (hname : hostName entries = some host) :
    ∃ (others : List NameEntry) (name : Opaque 2) (rest : Bytes),
      (∀ entry ∈ others, entry.nameType ≠ 0) ∧
      entries = others.flatMap NameEntry.encode ++ ([0] ++ (name.encode ++ rest)) ∧
      host = decodeUsAscii name.content ∧ isNotBlank host = true := by
  induction hmeasure : entries.length using Nat.strong_induction_on generalizing entries with
  | _ measure ih =>
    cases entries with
    | nil =>
        rw [hostName] at hname
        contradiction
    | cons nameType rest =>
        cases hread : takeVector 2 rest with
        | none =>
            rw [hostName_cons_none hread] at hname
            contradiction
        | some found =>
            obtain ⟨content, behind⟩ := found
            obtain ⟨name, rfl, hrest⟩ := exists_opaque hread
            rw [hostName_cons_some hread] at hname
            split at hname
            next hzero =>
              obtain rfl : nameType = 0 := UInt8.toNat_inj.mp hzero
              split at hname
              next hnotBlank =>
                cases hname
                exact ⟨[], name, behind, List.forall_mem_nil _, congrArg (List.cons 0) hrest, rfl,
                  hnotBlank⟩
              next => contradiction
            next hother =>
              have hless : behind.length < measure := by
                rw [← hmeasure, hrest, List.length_cons, List.length_append, Opaque.length_encode]
                omega
              obtain ⟨others, found, tail, hothers, hbehind, hhost⟩ := ih _ hless hname rfl
              refine ⟨⟨nameType, name⟩ :: others, found, tail, ?_, ?_, hhost⟩
              · rw [List.forall_mem_cons]
                refine ⟨fun heq => hother ?_, hothers⟩
                change nameType = 0 at heq
                rw [heq]
                rfl
              · rw [List.flatMap_cons, List.append_assoc, ← hbehind, hrest]
                rfl

/-- The extension that a name is reported from is the first `server_name` extension. -/
theorem extensionsResult_eq_some {extensions : Bytes} {host : Text}
    (hresult : extensionsResult extensions = .parsed (some host)) :
    ∃ (before : List Extension) (serverName : Opaque 2) (rest : Bytes),
      (∀ extension ∈ before, extension.type ≠ SERVER_NAME_EXTENSION) ∧
      extensions = before.flatMap Extension.encode ++
        (toBigEndian 2 SERVER_NAME_EXTENSION ++ (serverName.encode ++ rest)) ∧
      hostName (serverName.content.drop 2) = some host := by
  induction hmeasure : extensions.length using Nat.strong_induction_on generalizing extensions with
  | _ measure ih =>
    match extensions with
    | [] | [_] | [_, _] | [_, _, _] =>
      rw [extensionsResult_short (by simp)] at hresult
      cases hresult
    | high :: low :: third :: fourth :: tail =>
      rw [extensionsResult_cons (by simp)] at hresult
      cases hread : takeVector 2 (third :: fourth :: tail) with
      | none =>
          rw [hread] at hresult
          cases hresult
      | some found =>
          obtain ⟨content, behind⟩ := found
          obtain ⟨body, rfl, hrest⟩ := exists_opaque hread
          rw [hread] at hresult
          dsimp only at hresult
          have htype : toBigEndian 2 (bigEndian [high, low]) = [high, low] :=
            toBigEndian_bigEndian [high, low]
          split at hresult
          next hserverName =>
            rw [hserverName] at htype
            refine ⟨[], body, behind, List.forall_mem_nil _, ?_, Result.parsed.inj hresult⟩
            rw [htype, hrest]
            rfl
          next hother =>
            have hless : behind.length < measure := by
              have hlengths := congrArg List.length hrest
              rw [List.length_append, Opaque.length_encode] at hlengths
              rw [← hmeasure]
              simp only [List.length_cons] at hlengths ⊢
              omega
            obtain ⟨before, serverName, rest, hbefore, hbehind, hhost⟩ := ih _ hless hresult rfl
            refine ⟨⟨bigEndian [high, low], bigEndian_lt [high, low], body⟩ :: before, serverName,
              rest, List.forall_mem_cons.mpr ⟨hother, hbefore⟩, ?_, hhost⟩
            rw [List.flatMap_cons, List.append_assoc, ← hbehind, Extension.encode, htype, hrest]
            rfl

/-- The fields in front of the extension block. -/
theorem extensionBlock_eq_some {body extensions : Bytes}
    (hblock : extensionBlock body = some (some extensions)) :
    ∃ (fixedFields : Bytes) (sessionId : Opaque 1) (cipherSuites : Opaque 2) (compression : Opaque 1)
        (block : Opaque 2) (rest : Bytes),
      fixedFields.length = 2 + 32 ∧ block.content = extensions ∧
      body = fixedFields ++ (sessionId.encode ++ (cipherSuites.encode ++
        (compression.encode ++ (block.encode ++ rest)))) := by
  simp only [extensionBlock, Option.bind_eq_bind, Option.bind_eq_some_iff, Prod.exists] at hblock
  obtain ⟨fixedFields, behindFixed, hfixed, _, behindSession, hsession, _, behindSuites, hsuites, _,
    behindCompression, hcompression, hend⟩ := hblock
  split at hend
  next => cases hend
  next =>
    obtain ⟨⟨content, rest⟩, hextensions, hcontent⟩ := Option.bind_eq_some_iff.mp hend
    cases hcontent
    obtain ⟨rfl, hlength⟩ := takeExactly_eq_some_iff.mp hfixed
    obtain ⟨sessionId, rfl, rfl⟩ := exists_opaque hsession
    obtain ⟨cipherSuites, rfl, rfl⟩ := exists_opaque hsuites
    obtain ⟨compression, rfl, rfl⟩ := exists_opaque hcompression
    obtain ⟨block, rfl, rfl⟩ := exists_opaque hextensions
    exact ⟨fixedFields, sessionId, cipherSuites, compression, block, rest, hlength, rfl, rfl⟩

/-- The first message is its type and its body, by the length it announces. -/
theorem message_eq_body {message : Bytes}
    (hlength : messageLength message = some message.length) :
    ∃ (type : UInt8) (body : Opaque 3), message = type :: body.encode := by
  cases message with
  | nil =>
      rw [messageLength, if_neg (by simp)] at hlength
      cases hlength
  | cons type rest =>
      have hslice : slice (type :: rest) 1 4 = rest.take 3 := by simp [slice]
      rw [messageLength, hslice] at hlength
      split at hlength
      next hfits =>
        obtain ⟨hfour, hwhole⟩ := hfits
        have hnumber := Option.some.inj hlength
        rw [List.length_cons] at hfour hnumber
        have hcount : (rest.take 3).length = 3 := by
          rw [List.length_take]
          omega
        have hread : takeVector 3 rest = some (rest.drop 3, []) := by
          rw [← List.take_append_drop 3 rest, takeVector, takeExactly_append _ _ _ hcount,
            Option.bind_eq_bind, Option.bind_some, List.take_append_drop]
          rw [takeExactly_eq_some_iff, List.append_nil, List.length_drop]
          exact ⟨rfl, by omega⟩
        obtain ⟨body, _, hbody⟩ := exists_opaque hread
        exact ⟨type, body, by rw [hbody, List.append_nil]⟩
      next => cases hlength

/-- A message that a name is reported from has a layout with that name. -/
theorem exists_layout {message : Bytes} {host : Text}
    (hlength : messageLength message = some message.length)
    (hresult : messageResult message = .parsed (some host)) :
    ∃ layout : NameLayout, message = layout.encode ∧ host = decodeUsAscii layout.name.content ∧
      isNotBlank host = true := by
  obtain ⟨type, body, rfl⟩ := message_eq_body hlength
  have hdrop : body.encode.drop 3 = body.content := by
    rw [Opaque.encode, vector, List.drop_left' (length_toBigEndian 3 _)]
  rw [messageResult, hdrop] at hresult
  split at hresult
  next => cases hresult
  next htype =>
    have hhello : type = UInt8.ofNat CLIENT_HELLO := UInt8.toNat_inj.mp (not_not.mp htype)
    cases hblock : extensionBlock body.content with
    | none =>
        rw [hblock] at hresult
        cases hresult
    | some found =>
        cases found with
        | none =>
            rw [hblock] at hresult
            cases hresult
        | some extensions =>
            rw [hblock] at hresult
            obtain ⟨fixedFields, sessionId, cipherSuites, compression, block, behindExtensions,
              hfixed, rfl, hbody⟩ := extensionBlock_eq_some hblock
            obtain ⟨before, serverName, behindServerName, hbefore, hextensions, hlist⟩ :=
              extensionsResult_eq_some hresult
            obtain ⟨others, name, behindName, hothers, hentries, hhost, hnotBlank⟩ :=
              hostName_eq_some hlist
            have hcount : (serverName.content.take 2).length = 2 := by
              have hlengths := congrArg List.length hentries
              simp only [List.length_drop, List.length_append, List.length_singleton] at hlengths
              rw [List.length_take]
              omega
            have hserverName : serverName.content = serverName.content.take 2 ++
                (others.flatMap NameEntry.encode ++ ([0] ++ (name.encode ++ behindName))) := by
              rw [← hentries, List.take_append_drop]
            rw [hhello]
            exact ⟨⟨fixedFields, hfixed, sessionId, cipherSuites, compression, before, hbefore, _,
              hcount, others, hothers, name, behindName, serverName, hserverName, behindServerName,
              block, hextensions, behindExtensions, body, hbody⟩, rfl, hhost, hnotBlank⟩

/-- The name of a layout is reported unless it is blank. -/
theorem messageResult_layout (layout : NameLayout)
    (hnotBlank : isNotBlank (decodeUsAscii layout.name.content) = true) :
    messageResult layout.encode = .parsed (some (decodeUsAscii layout.name.content)) := by
  have hdrop : layout.body.encode.drop 3 = layout.body.content := by
    rw [Opaque.encode, vector, List.drop_left' (length_toBigEndian 3 _)]
  have hlist : layout.serverName.content.drop 2 = layout.others.flatMap NameEntry.encode ++
      ([0] ++ (layout.name.encode ++ layout.behindName)) := by
    rw [layout.serverName_content, List.drop_left' layout.listLength_length]
  have hname : hostName (layout.serverName.content.drop 2) =
      some (decodeUsAscii layout.name.content) := by
    rw [hlist, hostName_entries layout.others layout.others_type]
    exact (hostName_cons_some (layout.name.takeVector_encode _)).trans (by
      rw [if_pos UInt8.toNat_zero, if_pos hnotBlank])
  have hextensions : extensionsResult layout.extensions.content =
      .parsed (some (decodeUsAscii layout.name.content)) := by
    rw [layout.extensions_content, extensionsResult_before layout.before layout.before_type,
      ← List.append_assoc, Opaque.encode,
      extensionsResult_extension SERVER_NAME_EXTENSION (by decide) _ _ layout.serverName.fits,
      if_pos rfl, hname]
  have hnonempty : layout.extensions.encode ++ layout.behindExtensions ≠ [] := by
    apply List.ne_nil_of_length_pos
    rw [List.length_append, Opaque.length_encode]
    omega
  rw [NameLayout.encode, messageResult, if_neg (by decide), hdrop, layout.body_content,
    extensionBlock, takeExactly_append _ _ _ layout.fixedFields_length]
  simp only [Option.bind_eq_bind, Option.bind_some, Opaque.takeVector_encode]
  rw [if_neg hnonempty]
  simp only [Option.pure_def, blockResult, hextensions]

/-! ## A message has one layout -/

/-- An entry is decided by its bytes. -/
theorem NameEntry.encode_append_inj {entry entry' : NameEntry} {rest rest' : Bytes}
    (heq : entry.encode ++ rest = entry'.encode ++ rest') : entry = entry' ∧ rest = rest' := by
  obtain ⟨htype, htail⟩ := List.cons.inj heq
  obtain ⟨hname, hrest⟩ := Opaque.encode_append_inj htail
  cases entry
  cases entry'
  cases htype
  cases hname
  exact ⟨rfl, hrest⟩

/-- And so is an extension. -/
theorem Extension.encode_append_inj {extension extension' : Extension} {rest rest' : Bytes}
    (heq : extension.encode ++ rest = extension'.encode ++ rest') :
    extension = extension' ∧ rest = rest' := by
  rw [Extension.encode, Extension.encode, List.append_assoc, List.append_assoc] at heq
  obtain ⟨htype, htail⟩ := List.append_inj heq (by rw [length_toBigEndian, length_toBigEndian])
  obtain ⟨hbody, hrest⟩ := Opaque.encode_append_inj htail
  have hnumber := congrArg bigEndian htype
  rw [bigEndian_toBigEndian 2 _ extension.type_lt, bigEndian_toBigEndian 2 _ extension'.type_lt]
    at hnumber
  cases extension
  cases extension'
  cases hnumber
  cases hbody
  exact ⟨rfl, hrest⟩

/-- The first `server_name` extension ends those before it. -/
theorem serverName_stop {extension : Extension} {rest tail : Bytes}
    (htype : extension.type ≠ SERVER_NAME_EXTENSION) :
    toBigEndian 2 SERVER_NAME_EXTENSION ++ rest ≠ extension.encode ++ tail := by
  intro heq
  rw [Extension.encode, List.append_assoc] at heq
  have hnumber := congrArg bigEndian (List.append_inj_left heq (by simp only [length_toBigEndian]))
  rw [bigEndian_toBigEndian 2 _ (by decide), bigEndian_toBigEndian 2 _ extension.type_lt] at hnumber
  exact htype hnumber.symm

/-- The first `host_name` ends the entries before it. -/
theorem hostName_stop {entry : NameEntry} {rest tail : Bytes} (htype : entry.nameType ≠ 0) :
    [0] ++ rest ≠ entry.encode ++ tail :=
  fun heq => htype (List.cons.inj heq).1.symm

/-- So the bytes of a message decide its layout. -/
theorem NameLayout.encode_inj {layout layout' : NameLayout} (heq : layout.encode = layout'.encode) :
    layout = layout' := by
  have hbodies : layout.body.encode ++ [] = layout'.body.encode ++ [] := by
    rw [List.append_nil, List.append_nil]
    exact (List.cons.inj heq).2
  have hbody := (Opaque.encode_append_inj hbodies).1
  have hfields := layout.body_content.symm.trans ((congrArg _ hbody).trans layout'.body_content)
  obtain ⟨hfixed, hfields⟩ := List.append_inj hfields
    (layout.fixedFields_length.trans layout'.fixedFields_length.symm)
  obtain ⟨hsession, hfields⟩ := Opaque.encode_append_inj hfields
  obtain ⟨hsuites, hfields⟩ := Opaque.encode_append_inj hfields
  obtain ⟨hcompression, hfields⟩ := Opaque.encode_append_inj hfields
  obtain ⟨hextensions, hbehindExtensions⟩ := Opaque.encode_append_inj hfields
  -- the extensions in front of the first `server_name`
  have hblocks := layout.extensions_content.symm.trans
    ((congrArg _ hextensions).trans layout'.extensions_content)
  obtain ⟨hbefore, hblocks⟩ := flatMap_append_inj
    (fun _ _ _ _ => Extension.encode_append_inj) layout.before_type layout'.before_type
    (fun _ _ => serverName_stop) (fun _ _ => serverName_stop) hblocks
  obtain ⟨hserverName, hbehindServerName⟩ := Opaque.encode_append_inj
    (List.append_cancel_left hblocks)
  -- the entries in front of the first `host_name`
  have hlists := layout.serverName_content.symm.trans
    ((congrArg _ hserverName).trans layout'.serverName_content)
  obtain ⟨hlistLength, hlists⟩ := List.append_inj hlists
    (layout.listLength_length.trans layout'.listLength_length.symm)
  obtain ⟨hothers, hlists⟩ := flatMap_append_inj
    (fun _ _ _ _ => NameEntry.encode_append_inj) layout.others_type layout'.others_type
    (fun _ _ => hostName_stop) (fun _ _ => hostName_stop) hlists
  obtain ⟨hname, hbehindName⟩ := Opaque.encode_append_inj (List.append_cancel_left hlists)
  cases layout
  cases layout'
  cases hbody
  cases hfixed
  cases hsession
  cases hsuites
  cases hcompression
  cases hextensions
  cases hbehindExtensions
  cases hbefore
  cases hserverName
  cases hbehindServerName
  cases hlistLength
  cases hothers
  cases hname
  cases hbehindName
  rfl

/-! ## The first message of a stream -/

/-- The first handshake message, once the records hold all of it. -/
def firstMessage (handshake stream : Bytes) : Option Bytes :=
  match stream with
  | type :: _ :: _ :: high :: low :: rest =>
    if type.toNat ≠ TLS_HANDSHAKE ∨ rest.length < bigEndian [high, low] then none
    else
      match messageLength (handshake ++ rest.take (bigEndian [high, low])) with
      | some limit => some ((handshake ++ rest.take (bigEndian [high, low])).take limit)
      | none =>
        firstMessage (handshake ++ rest.take (bigEndian [high, low]))
          (rest.drop (bigEndian [high, low]))
  | _ => none
termination_by stream.length
decreasing_by
  simp only [List.length_drop, List.length_cons]
  omega

/-- A complete message is as long as it says. -/
theorem messageLength_take {handshake : Bytes} {limit : Nat}
    (hlimit : messageLength handshake = some limit) :
    messageLength (handshake.take limit) = some (handshake.take limit).length := by
  obtain ⟨hfour, hfits⟩ := messageLength_eq_some hlimit
  have hslice : slice (handshake.take limit) 1 4 = slice handshake 1 4 := by
    rw [slice, slice, List.take_take, Nat.min_eq_left hfour]
  have hlength : (handshake.take limit).length = limit := by
    rw [List.length_take]
    omega
  rw [messageLength] at hlimit
  split at hlimit
  next =>
    have hnumber := Option.some.inj hlimit
    rw [messageLength, hslice, hlength, if_pos (by omega), hnumber]
  next => cases hlimit

theorem firstMessage_short {handshake stream : Bytes} (hshort : stream.length < 5) :
    firstMessage handshake stream = none := by
  rw [firstMessage]
  intro type major minor high low rest heq
  subst heq
  simp only [List.length_cons] at hshort
  omega

/-- The first message alone decides what is reported. -/
theorem recordsResult_eq_parsed (handshake stream : Bytes) (name : Option Text) :
    recordsResult handshake stream = .parsed name ↔
      ∃ message, firstMessage handshake stream = some message ∧
        messageLength message = some message.length ∧ messageResult message = .parsed name := by
  induction hmeasure : stream.length using Nat.strong_induction_on
    generalizing handshake stream with
  | _ measure ih =>
    by_cases hshort : stream.length < 5
    · rw [recordsResult_short hshort, firstMessage_short hshort]
      exact ⟨nofun, fun ⟨_, hnone, _⟩ => nomatch hnone⟩
    · obtain ⟨type, major, minor, high, low, rest, rfl⟩ := exists_header hshort
      rw [recordsResult_record, firstMessage]
      by_cases hbad : type.toNat ≠ TLS_HANDSHAKE ∨ rest.length < bigEndian [high, low]
      · rw [if_pos hbad]
        refine ⟨fun hresult => ?_, fun ⟨_, hnone, _⟩ => nomatch hnone⟩
        split at hresult
        next =>
          split at hresult
          next => cases hresult
          next => cases hresult
        next htype =>
          rw [if_pos (hbad.resolve_left htype)] at hresult
          cases hresult
      · rw [if_neg hbad]
        rw [not_or] at hbad
        rw [if_neg hbad.1, if_neg hbad.2]
        cases hlength : messageLength (handshake ++ rest.take (bigEndian [high, low])) with
        | some limit =>
            have htake := messageLength_take hlength
            constructor
            · exact fun hresult => ⟨_, rfl, htake, hresult⟩
            · rintro ⟨_, ⟨⟩, _, hresult⟩
              exact hresult
        | none =>
            apply ih _ _ _ _ rfl
            rw [← hmeasure, List.length_drop]
            simp only [List.length_cons]
            omega

theorem firstMessage_encode {handshake : Bytes} {record : TlsRecord} {limit : Nat} (rest : Bytes)
    (hlimit : messageLength (handshake ++ record.payload.content) = some limit) :
    firstMessage handshake (record.encode ++ rest) =
      some ((handshake ++ record.payload.content).take limit) := by
  obtain ⟨high, low, hencode, hvalue⟩ := record.encode_eq
  rw [hencode]
  simp only [List.cons_append]
  have hwhole : ¬ ((UInt8.ofNat TLS_HANDSHAKE).toNat ≠ TLS_HANDSHAKE ∨
      (record.payload.content ++ rest).length < bigEndian [high, low]) := by
    rw [hvalue, List.length_append, not_or]
    exact ⟨by decide, by omega⟩
  rw [firstMessage, if_neg hwhole, hvalue, List.take_left, hlimit]

/-! ## The bounds -/

/-- The name lies inside the message, the extension block, the extension and the list,
as each of them declares its length. -/
structure InsideBounds (layout : NameLayout) : Prop where
  message : layout.nameEnd ≤ declaredEnd layout.encode 1 3
  extensions : layout.nameEnd ≤ declaredEnd layout.encode layout.extensionsAt 2
  serverName : layout.nameEnd ≤ declaredEnd layout.encode layout.serverNameAt 2
  list : layout.nameEnd ≤ declaredEnd layout.encode layout.listAt 2

/-- All other bounds hold by the way the message is read. -/
theorem insideBounds_iff (layout : NameLayout) :
    InsideBounds layout ↔ layout.nameEnd ≤ declaredEnd layout.encode layout.listAt 2 := by
  obtain ⟨hmessage, hextensions, hserverName⟩ := layout.nameEnd_le
  exact ⟨fun hinside => hinside.list, fun hlist => ⟨hmessage, hextensions, hserverName, hlist⟩⟩

/-- The reported name is the content of the first `host_name` entry of the first
`server_name` extension of the first message. It lies inside all four declared bounds
exactly when the length of the list, which the parser does not read, reaches to the
end of that entry. -/
theorem parse_bounds_iff (bytes : Bytes) :
    (∀ name, parse bytes = .ok (.parsed (some name)) →
      ∃ layout : NameLayout, firstMessage [] bytes = some layout.encode ∧
        name = decodeUsAscii (slice layout.encode layout.nameStart layout.nameEnd) ∧
        InsideBounds layout) ↔
    ∀ layout : NameLayout, firstMessage [] bytes = some layout.encode →
      isNotBlank (decodeUsAscii layout.name.content) = true →
      layout.nameEnd ≤ declaredEnd layout.encode layout.listAt 2 := by
  simp only [parse_eq, Except.ok.injEq, recordsResult_eq_parsed]
  constructor
  · intro hbounds layout hfirst hnotBlank
    obtain ⟨layout', hfirst', _, hinside⟩ := hbounds _
      ⟨layout.encode, hfirst, layout.messageLength_encode, messageResult_layout layout hnotBlank⟩
    rw [hfirst, Option.some.injEq] at hfirst'
    rw [NameLayout.encode_inj hfirst']
    exact hinside.list
  · rintro hlist name ⟨message, hfirst, hlength, hresult⟩
    obtain ⟨layout, rfl, rfl, hnotBlank⟩ := exists_layout hlength hresult
    refine ⟨layout, hfirst, ?_, (insideBounds_iff layout).mpr (hlist layout hfirst hnotBlank)⟩
    rw [layout.slice_name]

/-- The name `a` in a list that is empty by its length. -/
def emptyList : NameLayout where
  fixedFields := 3 :: 3 :: List.replicate 32 7
  fixedFields_length := rfl
  sessionId := namedHello.sessionId
  cipherSuites := namedHello.cipherSuites
  compression := namedHello.compression
  before := []
  before_type := List.forall_mem_nil _
  listLength := [0, 0]
  listLength_length := rfl
  others := []
  others_type := List.forall_mem_nil _
  name := ⟨[97], by decide⟩
  behindName := []
  serverName := ⟨[0, 0, 0, 0, 1, 97], by decide⟩
  serverName_content := rfl
  behindServerName := []
  extensions := ⟨[0, 0, 0, 6, 0, 0, 0, 0, 1, 97], by decide⟩
  extensions_content := rfl
  behindExtensions := []
  body := ⟨3 :: 3 :: List.replicate 32 7 ++
    [1, 9, 0, 2, 0x13, 0x01, 1, 0, 0, 10, 0, 0, 0, 6, 0, 0, 0, 0, 1, 97], by decide⟩
  body_content := by decide

/-- It is reported none the less. -/
theorem emptyList_reported :
    ∃ (bytes : Bytes) (name : Text), parse bytes = .ok (.parsed (some name)) ∧
      ¬ ∃ layout : NameLayout, firstMessage [] bytes = some layout.encode ∧
        name = decodeUsAscii (slice layout.encode layout.nameStart layout.nameEnd) ∧
        InsideBounds layout := by
  let record : TlsRecord := ⟨3, 1, ⟨emptyList.encode, by decide⟩⟩
  have hfirst : firstMessage [] (record.encode ++ []) = some emptyList.encode := by
    have hlength := emptyList.messageLength_encode
    rw [@firstMessage_encode [] record _ [] hlength]
    exact congrArg some List.take_length
  have hnotBlank : isNotBlank (decodeUsAscii emptyList.name.content) = true := by decide
  refine ⟨record.encode ++ [], decodeUsAscii emptyList.name.content, ?_, ?_⟩
  · rw [parse_eq, (recordsResult_eq_parsed [] _ _).mpr ⟨emptyList.encode, hfirst,
      emptyList.messageLength_encode, messageResult_layout emptyList hnotBlank⟩]
  · rintro ⟨layout, hlayout, _, hinside⟩
    rw [hfirst, Option.some.injEq] at hlayout
    rw [← NameLayout.encode_inj hlayout, insideBounds_iff] at hinside
    exact absurd hinside (by decide)

end AIUnblock.Tls
