import AIUnblock.Routing.Assets

/-! # The exact-only endpoints behind the shipped tables

`RoutingRules` sends the Google AI and notebook endpoints, and nothing below
them, to their gateways. Hosts that it leaves alone are then looked up by suffix
in the shipped tables, and those decide what happens below an endpoint.
-/

namespace AIUnblock

open RoutingRules GeoHideRoutingRules

/-! ## Rules in US-ASCII are read alike everywhere -/

section Ascii

variable {f g : Char → Bool} {text : Text}

theorem takeWhile_congr (hfg : ∀ c ∈ text, f c = g c) : text.takeWhile f = text.takeWhile g := by
  induction text with
  | nil => rfl
  | cons c rest ih =>
      rw [List.forall_mem_cons] at hfg
      rw [List.takeWhile_cons, List.takeWhile_cons, hfg.1, ih hfg.2]

theorem dropWhile_congr (hfg : ∀ c ∈ text, f c = g c) : text.dropWhile f = text.dropWhile g := by
  induction text with
  | nil => rfl
  | cons c rest ih =>
      rw [List.forall_mem_cons] at hfg
      rw [List.dropWhile_cons, List.dropWhile_cons, hfg.1, ih hfg.2]

def IsAscii (text : Text) : Prop := ∀ c ∈ text, c.toNat < 128

theorem IsAscii.mono {text' : Text} (hascii : IsAscii text) (hsub : text'.Sublist text) :
    IsAscii text' :=
  fun c hmem => hascii c (hsub.subset hmem)

theorem IsAscii.trim (hascii : IsAscii text) : IsAscii (trim text) :=
  hascii.mono ((List.rdropWhile_prefix ..).sublist.trans (List.dropWhile_sublist _))

theorem IsAscii.trimEnd (hascii : IsAscii text) : IsAscii (trimEnd '.' text) :=
  hascii.mono (List.rdropWhile_prefix ..).sublist

variable (platform : Platform)

theorem normalizeRule_ascii (hascii : IsAscii text) :
    normalizeRule platform text = normalizeRule Platform.ascii text := by
  have hrule : IsAscii (trimEnd '.' (trim (substringBefore '#' text))) :=
    (hascii.mono (List.takeWhile_sublist _)).trim.trimEnd
  have hlower : platform.lowercase (trimEnd '.' (trim (substringBefore '#' text))) =
      Platform.ascii.lowercase (trimEnd '.' (trim (substringBefore '#' text))) :=
    platform.lowercase_wire _ fun c hmem => Or.inl (hrule c hmem)
  simp only [normalizeRule, hlower]

theorem splitAtSpaces_ascii (hascii : IsAscii text) :
    splitAtSpaces platform text = splitAtSpaces Platform.ascii text := by
  have hspace : ∀ c ∈ text, platform.isRegexSpace c = Platform.ascii.isRegexSpace c :=
    fun c hmem => platform.isRegexSpace_ascii c (hascii c hmem)
  have hnot : ∀ c ∈ text, (!platform.isRegexSpace c) = !Platform.ascii.isRegexSpace c :=
    fun c hmem => congrArg _ (hspace c hmem)
  have hdrop := dropWhile_congr hnot
  have hrest : ∀ c ∈ text.dropWhile fun c => !Platform.ascii.isRegexSpace c,
      platform.isRegexSpace c = Platform.ascii.isRegexSpace c :=
    fun c hmem => hspace c ((List.dropWhile_sublist _).subset hmem)
  simp only [splitAtSpaces, hdrop, takeWhile_congr hnot]
  cases hcut : text.dropWhile fun c => !Platform.ascii.isRegexSpace c with
  | nil => rfl
  | cons space rest =>
      rw [hcut] at hrest
      simp only [dropWhile_congr hrest]

theorem parseHostLine_ascii (hascii : IsAscii text) :
    parseHostLine platform text = parseHostLine Platform.ascii text := by
  have hparts : ∀ part ∈ splitAtSpaces Platform.ascii (trim text), IsAscii part := by
    intro part hmem
    rw [splitAtSpaces] at hmem
    split at hmem
    next =>
      rw [List.mem_singleton.mp hmem]
      exact hascii.trim
    next space rest hcut =>
      have hafter : IsAscii (space :: rest) := by
        rw [← hcut]
        exact hascii.trim.mono (List.dropWhile_sublist _)
      rcases List.mem_pair.mp hmem with rfl | rfl
      · exact hascii.trim.mono (List.takeWhile_sublist _)
      · exact hafter.mono (List.dropWhile_sublist _)
  rw [parseHostLine, parseHostLine, splitAtSpaces_ascii platform hascii.trim]
  split
  next address name hsplit =>
    rw [hsplit] at hparts
    rw [normalizeRule_ascii platform (hparts name (by simp))]
  next => rfl

end Ascii

/-! ## What the loaded tables contain -/

section Load

variable {platform : Platform} {domainLines hostLines : List Text}

/-- In loaded tables the point records are supported domains, so the tables are
silent about exactly the unsupported names. -/
theorem targetOf_load_eq_none {candidate : Text} :
    targetOf (load platform domainLines hostLines) candidate = none ↔
      candidate ∉ (load platform domainLines hostLines).supportedDomains := by
  have hkeys : ∀ address, (candidate, address) ∈
      (load platform domainLines hostLines).fixedAddresses →
        candidate ∈ (load platform domainLines hostLines).supportedDomains := by
    intro address hmem
    exact List.mem_append_right _ (List.mem_map_of_mem (f := Prod.fst) hmem)
  rw [targetOf]
  split
  next address hlookup =>
    obtain ⟨before, after, hsplit, _⟩ := List.lookup_eq_some_iff.mp hlookup
    have hmem := hkeys address (by simp [hsplit])
    simp [hmem]
  next => simp

/-- A host goes direct past loaded tables when none of its suffixes is listed. -/
theorem targetFor_load_eq_none {host : Text} (hhost : normalizeHost platform host ≠ []) :
    targetFor platform (load platform domainLines hostLines) (some host) = none ↔
      ∀ candidate ∈ Separators.candidates '.' (normalizeHost platform host),
        candidate ∉ (load platform domainLines hostLines).supportedDomains := by
  rw [targetFor, normalizedHost?_eq_some hhost, Option.bind_some, targetLoop_eq,
    List.findSome?_eq_none_iff]
  simp only [targetOf_load_eq_none]

end Load

/-! ## The shipped tables -/

/-- The endpoints that `RoutingRules` matches exactly. -/
def exactDomains : List String := googleAiDomains ++ notebookDomains

/-- The one endpoint that the shipped tables do not list. -/
def signalerDomain : Text := "signaler-pa.googleapis.com".toList

/-- The rule that `rule` reads from the line, if any, says nothing about the names
below the unlisted endpoint. -/
def lineSilent (rule : Text → Option Text) (line : String) : Bool :=
  (utf8Bytes line).all (fun byte => byte.toNat < 128) &&
    (rule (decodeUsAscii (utf8Bytes line))).all fun key =>
      !('.' :: signalerDomain).isSuffixOf key &&
        !(Separators.candidates '.' signalerDomain).contains key

theorem domainsAsset_silent :
    ∀ line ∈ geohideDomainsAsset, lineSilent (normalizeRule Platform.ascii) line = true := by
  decide +kernel

theorem hostsAsset_silent : ∀ line ∈ geohideHostsAsset,
    lineSilent (fun line => (parseHostLine Platform.ascii line).map Prod.fst) line = true := by
  decide +kernel

theorem exactDomains_listed : ∀ name ∈ exactDomains,
    name.toList = signalerDomain ∨ name ∈ geohideDomainsAsset := by
  decide +kernel

theorem exactDomains_normal : ∀ name ∈ exactDomains,
    (∀ byte ∈ utf8Bytes name, byte.toNat < 128) ∧
      normalizeRule Platform.ascii (decodeUsAscii (utf8Bytes name)) =
        some (decodeUsAscii (utf8Bytes name)) := by
  decide +kernel

theorem exactDomains_unrelated : ∀ name ∈ exactDomains, ∀ domain ∈ openAiDomains ++ claudeDomains,
    ¬ name.toList <:+ domain.toList ∧ ¬ '.' :: domain.toList <:+ name.toList := by
  decide

theorem lineSilent_iff {rule : Text → Option Text} {line : String} :
    lineSilent rule line = true ↔ (∀ byte ∈ utf8Bytes line, byte.toNat < 128) ∧
      ∀ key, rule (decodeUsAscii (utf8Bytes line)) = some key →
        ¬ '.' :: signalerDomain <:+ key ∧ key ∉ Separators.candidates '.' signalerDomain := by
  simp [lineSilent, Option.all_eq_true, ← List.isSuffixOf_iff_suffix]

theorem isAscii_decodeUsAscii {bytes : Bytes} (hascii : ∀ byte ∈ bytes, byte.toNat < 128) :
    IsAscii (decodeUsAscii bytes) := by
  intro c hmem
  obtain ⟨byte, hbyte, rfl⟩ := List.mem_map.mp hmem
  have hlt := hascii byte hbyte
  rwa [if_pos hlt, toNat_ofNat_ascii hlt]

section Shipped

variable (platform : Platform)

/-- Nothing in the tables concerns names below the unlisted endpoint. -/
theorem shipped_silent {key : Text} (hkey : key ∈ (shippedRules platform).supportedDomains) :
    ¬ '.' :: signalerDomain <:+ key ∧ key ∉ Separators.candidates '.' signalerDomain := by
  simp only [shippedRules, mem_supportedDomains_load, List.mem_map] at hkey
  rcases hkey with ⟨_, ⟨line, hline, rfl⟩, hrule⟩ | ⟨_, ⟨line, hline, rfl⟩, hrule⟩
  · obtain ⟨hascii, hkeys⟩ := lineSilent_iff.mp (domainsAsset_silent line hline)
    rw [toList_eq_decodeUsAscii hascii,
      normalizeRule_ascii platform (isAscii_decodeUsAscii hascii)] at hrule
    exact hkeys key hrule
  · obtain ⟨hascii, hkeys⟩ := lineSilent_iff.mp (hostsAsset_silent line hline)
    rw [toList_eq_decodeUsAscii hascii,
      parseHostLine_ascii platform (isAscii_decodeUsAscii hascii)] at hrule
    exact hkeys key hrule

/-- Every other endpoint is a supported domain. -/
theorem shipped_lists {name : String} (hname : name ∈ exactDomains)
    (hother : name.toList ≠ signalerDomain) :
    name.toList ∈ (shippedRules platform).supportedDomains := by
  have hline := (exactDomains_listed name hname).resolve_left hother
  obtain ⟨hascii, hnormal⟩ := exactDomains_normal name hname
  rw [shippedRules, mem_supportedDomains_load]
  refine Or.inl ⟨name.toList, List.mem_map_of_mem hline, ?_⟩
  rw [toList_eq_decodeUsAscii hascii,
    normalizeRule_ascii platform (isAscii_decodeUsAscii hascii), hnormal]

variable {platform} {host sub : Text} {base : String}

/-- Below a listed endpoint the tables answer. -/
theorem targetFor_shipped_ne_none (hbase : base ∈ exactDomains)
    (hhost : normalizeHost platform host = sub ++ '.' :: base.toList)
    (hother : base.toList ≠ signalerDomain) :
    targetFor platform (shippedRules platform) (some host) ≠ none := by
  rw [shippedRules, ne_eq, targetFor_load_eq_none (by simp [hhost]), ← shippedRules, hhost]
  intro hnone
  apply hnone base.toList _ (shipped_lists platform hbase hother)
  rw [Separators.mem_candidates]
  exact Or.inr (List.suffix_append _ _)

/-- Below the unlisted endpoint they do not. -/
theorem targetFor_shipped_eq_none
    (hhost : '.' :: signalerDomain <:+ normalizeHost platform host) :
    targetFor platform (shippedRules platform) (some host) = none := by
  have hne : normalizeHost platform host ≠ [] := by
    intro hnil
    rw [hnil, List.suffix_nil] at hhost
    exact List.cons_ne_nil _ _ hhost
  rw [shippedRules, targetFor_load_eq_none hne, ← shippedRules]
  intro candidate hcandidate hkey
  obtain ⟨hlonger, hshorter⟩ := shipped_silent platform hkey
  rcases Separators.candidate_cases hhost hcandidate with h | h
  · exact hlonger h
  · exact hshorter h

/-- No gateway of its own for names below an endpoint. -/
theorem gatewayFor_eq_none (hbase : base ∈ exactDomains)
    (hhost : normalizeHost platform host = sub ++ '.' :: base.toList)
    (hexact : normalizeHost platform host ∉ exactDomains.map String.toList) :
    gatewayFor platform (some host) = none := by
  have hbelow : '.' :: base.toList <:+ normalizeHost platform host := by
    rw [hhost]
    exact List.suffix_append _ _
  have hunrelated := exactDomains_unrelated base hbase
  have hopenAi : matchesDomain openAiDomains (normalizeHost platform host) = false :=
    matchesDomain_eq_false hbelow fun domain hmem =>
      hunrelated domain (List.mem_append_left _ hmem)
  have hclaude : matchesDomain claudeDomains (normalizeHost platform host) = false :=
    matchesDomain_eq_false hbelow fun domain hmem =>
      hunrelated domain (List.mem_append_right _ hmem)
  rw [exactDomains, List.map_append, List.mem_append, not_or] at hexact
  have hnonempty : normalizeHost platform host ≠ [] := by simp [hhost]
  simp only [gatewayFor, normalizedHost?_eq_some hnonempty]
  rw [if_neg hexact.2, if_neg hexact.1, if_neg (by simp [hopenAi]), if_neg (by simp [hclaude])]

end Shipped

/-- Below an exact-only endpoint a connection stays on the direct path exactly when
the endpoint is the one that the shipped tables do not list. -/
theorem subdomain_direct_iff (platform : Platform) (host sub : Text) (base : String)
    (hbase : base ∈ googleAiDomains ++ notebookDomains)
    (hhost : normalizeHost platform host = sub ++ '.' :: base.toList)
    (hexact : normalizeHost platform host ∉
      (googleAiDomains ++ notebookDomains).map String.toList) :
    (gatewayFor platform (some host) = none ∧
        targetFor platform (shippedRules platform) (some host) = none) ↔
      ".signaler-pa.googleapis.com".toList <:+ normalizeHost platform host := by
  constructor
  · rintro ⟨_, htarget⟩
    have hsignaler : base.toList = signalerDomain := by
      by_contra hother
      exact targetFor_shipped_ne_none hbase hhost hother htarget
    rw [hhost, hsignaler]
    exact List.suffix_append _ _
  · intro hsignaler
    exact ⟨gatewayFor_eq_none hbase hhost hexact, targetFor_shipped_eq_none hsignaler⟩

/-- A host that stays direct. -/
theorem signaler_subdomain_direct :
    gatewayFor Platform.ascii (some "alt1.signaler-pa.googleapis.com".toList) = none ∧
      targetFor Platform.ascii (shippedRules Platform.ascii)
        (some "alt1.signaler-pa.googleapis.com".toList) = none :=
  (subdomain_direct_iff Platform.ascii "alt1.signaler-pa.googleapis.com".toList "alt1".toList
    "signaler-pa.googleapis.com" (by decide) (by decide) (by decide)).mpr
    (by decide)

/-- A host below an endpoint that does not. -/
theorem gemini_subdomain_not_direct :
    "gemini.google.com" ∈ googleAiDomains ++ notebookDomains ∧
      normalizeHost Platform.ascii "subdomain.gemini.google.com".toList =
        "subdomain".toList ++ '.' :: "gemini.google.com".toList ∧
      normalizeHost Platform.ascii "subdomain.gemini.google.com".toList ∉
        (googleAiDomains ++ notebookDomains).map String.toList ∧
      ¬ (gatewayFor Platform.ascii (some "subdomain.gemini.google.com".toList) = none ∧
        targetFor Platform.ascii (shippedRules Platform.ascii)
          (some "subdomain.gemini.google.com".toList) = none) := by
  have hbase : "gemini.google.com" ∈ googleAiDomains ++ notebookDomains := by decide
  have hhost : normalizeHost Platform.ascii "subdomain.gemini.google.com".toList =
      "subdomain".toList ++ '.' :: "gemini.google.com".toList := by decide
  refine ⟨hbase, hhost, by decide, ?_⟩
  rintro ⟨_, htarget⟩
  exact targetFor_shipped_ne_none hbase hhost (by decide) htarget

end AIUnblock
