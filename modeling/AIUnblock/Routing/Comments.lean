import AIUnblock.Routing.PointRecords

/-! # Comments in the rule assets

`normalizeRule` cuts a rule at its first `#`, so a comment line of the domains asset
is no rule. The reader of the hosts asset takes the address off the line before
that, and a comment line with a second word is read as a record of its own.
-/

namespace AIUnblock

/-- The first character that is not blank is `#`. -/
def IsComment (line : Text) : Prop := (line.dropWhile isWhitespace).head? = some '#'

instance : DecidablePred IsComment := fun _ => inferInstanceAs (Decidable (_ = _))

theorem head?_trim (text : Text) : (trim text).head? = (text.dropWhile isWhitespace).head? := by
  rw [trim]
  cases htext : text.dropWhile isWhitespace with
  | nil => rfl
  | cons c rest =>
      have hc : isWhitespace c = false := by
        have hhead := List.head?_dropWhile_not isWhitespace text
        rw [htext] at hhead
        exact hhead
      have hprefix := @List.rdropWhile_prefix _ isWhitespace (c :: rest)
      cases hrest : (c :: rest).rdropWhile isWhitespace with
      | nil =>
          have hblank := List.rdropWhile_eq_nil_iff.mp hrest c List.mem_cons_self
          rw [hc] at hblank
          contradiction
      | cons first others =>
          rw [hrest, List.cons_prefix_cons] at hprefix
          rw [List.head?_cons, List.head?_cons, hprefix.1]

namespace GeoHideRoutingRules

section Lines

variable {platform : Platform} {line key address : Text}

/-- A comment line of the domains asset is no rule. -/
theorem normalizeRule_comment (hcomment : IsComment line) : normalizeRule platform line = none := by
  have hblank : ∀ c ∈ substringBefore '#' line, isWhitespace c = true := by
    rw [IsComment] at hcomment
    induction line with
    | nil => simp [substringBefore]
    | cons c rest ih =>
        intro other hmem
        rw [substringBefore, List.takeWhile_cons] at hmem
        by_cases hc : isWhitespace c = true
        · rw [List.dropWhile_cons_of_pos hc] at hcomment
          split at hmem
          next =>
            rcases List.mem_cons.mp hmem with rfl | hrest
            · exact hc
            · exact ih hcomment other hrest
          next => contradiction
        · rw [List.dropWhile_cons_of_neg hc, List.head?_cons] at hcomment
          rw [Option.some.inj hcomment] at hmem
          simp at hmem
  have htrim : trim (substringBefore '#' line) = [] := by
    rw [trim, List.dropWhile_eq_nil_iff.mpr hblank, List.rdropWhile_nil]
  have hlower : platform.lowercase [] = [] := platform.lowercase_wire [] (by simp)
  simp [normalizeRule, htrim, trimEnd, hlower]

theorem splitAtSpaces_pair {text name : Text}
    (hsplit : splitAtSpaces platform text = [address, name]) :
    address = text.takeWhile fun c => !platform.isRegexSpace c := by
  rw [splitAtSpaces] at hsplit
  split at hsplit
  next => simp at hsplit
  next => exact (List.cons.inj hsplit).1.symm

/-- An address begins with `#` exactly when it was read off a comment line. -/
theorem parseHostLine_head (hline : parseHostLine platform line = some (key, address)) :
    address.head? = some '#' ↔ IsComment line := by
  obtain ⟨name, hsplit, _⟩ := parseHostLine_eq_some hline
  have hspace : platform.isRegexSpace '#' = false := by
    rw [platform.isRegexSpace_ascii '#' (by decide)]
    decide
  rw [splitAtSpaces_pair hsplit, List.head?_takeWhile, head?_trim, IsComment,
    Option.filter_eq_some_iff]
  simp [hspace]

/-- Every key is the normal form of some host. -/
theorem parseHostLine_host (hline : parseHostLine platform line = some (key, address)) :
    ∃ host, normalizeHost platform host = key := by
  obtain ⟨name, _, hrule⟩ := parseHostLine_eq_some hline
  refine ⟨substringBefore '#' name, ?_⟩
  simp only [normalizeRule] at hrule
  split at hrule
  next => contradiction
  next => exact Option.some.inj hrule

end Lines

/-! ## The records of a list of lines -/

/-- The line is a record of the name. -/
def Names (platform : Platform) (line key : Text) : Prop :=
  ∃ address, parseHostLine platform line = some (key, address)

theorem names_iff {platform : Platform} {line key : Text} :
    Names platform line key ↔ (parseHostLine platform line).map Prod.fst = some key := by
  simp [Names]

/-- Of the lines that record the name, the last gives the address. -/
def LastGives (platform : Platform) (lines : List Text) (key address : Text) : Prop :=
  ∃ before line after, lines = before ++ line :: after ∧
    parseHostLine platform line = some (key, address) ∧
    ∀ later ∈ after, ¬ Names platform later key

section Records

variable {platform : Platform} {domainLines lines before after : List Text}
  {line key address : Text}

theorem lookup_load : (load platform domainLines lines).fixedAddresses.lookup key =
    (lines.reverse.filterMap (parseHostLine platform)).lookup key := by
  rw [load, toMap, List.filterMap_reverse]

theorem lookup_load_append :
    (load platform domainLines (before ++ after)).fixedAddresses.lookup key =
      ((load platform domainLines after).fixedAddresses.lookup key).or
        ((load platform domainLines before).fixedAddresses.lookup key) := by
  simp only [lookup_load, List.reverse_append, List.filterMap_append, List.lookup_append]

theorem lookup_load_cons :
    (load platform domainLines (line :: after)).fixedAddresses.lookup key =
      ((load platform domainLines after).fixedAddresses.lookup key).or
        ((load platform domainLines [line]).fixedAddresses.lookup key) :=
  @lookup_load_append platform domainLines [line] after key

theorem lookup_load_singleton :
    (load platform domainLines [line]).fixedAddresses.lookup key = some address ↔
      parseHostLine platform line = some (key, address) := by
  rw [lookup_load, List.reverse_singleton, List.filterMap_cons]
  cases hline : parseHostLine platform line with
  | none => simp
  | some entry =>
      obtain ⟨recorded, given⟩ := entry
      by_cases hkey : key = recorded
      · simp [hkey]
      · rw [List.lookup_cons, beq_eq_false_iff_ne.mpr hkey]
        simp [Ne.symm hkey]

theorem lookup_load_eq_none :
    (load platform domainLines lines).fixedAddresses.lookup key = none ↔
      ∀ line ∈ lines, ¬ Names platform line key := by
  induction lines with
  | nil => simp [lookup_load]
  | cons line lines ih =>
      rw [lookup_load_cons, Option.or_eq_none_iff, ih, List.forall_mem_cons, and_comm]
      rw [Option.eq_none_iff_forall_ne_some, Names, not_exists]
      simp only [ne_eq, lookup_load_singleton]

theorem lookup_load_eq_some :
    (load platform domainLines lines).fixedAddresses.lookup key = some address ↔
      LastGives platform lines key address := by
  constructor
  · intro hlookup
    rw [lookup_load] at hlookup
    obtain ⟨front, back, hsplit, hfree⟩ := List.lookup_eq_some_iff.mp hlookup
    obtain ⟨later, earlier, hlines, hfront, hback⟩ := List.filterMap_eq_append_iff.mp hsplit
    obtain ⟨skipped, line, rest, hearlier, hskipped, hline, _⟩ :=
      List.filterMap_eq_cons_iff.mp hback
    refine ⟨rest.reverse, line, (later ++ skipped).reverse, ?_, hline, ?_⟩
    · rw [← List.reverse_reverse lines, hlines, hearlier]
      simp
    · rintro other hother ⟨given, hgiven⟩
      rcases List.mem_append.mp (List.mem_reverse.mp hother) with hmem | hmem
      · have hkey := hfree (key, given) (hfront ▸ List.mem_filterMap.mpr ⟨other, hmem, hgiven⟩)
        simp at hkey
      · rw [hskipped other hmem] at hgiven
        contradiction
  · rintro ⟨before, line, after, rfl, hline, hafter⟩
    rw [lookup_load_append, lookup_load_cons, lookup_load_eq_none.mpr hafter,
      lookup_load_singleton.mpr hline]
    rfl

end Records

/-! ## Inserting a comment line -/

/-- No lookup tells the two tables apart. -/
def SameRules (platform : Platform) (rules rules' : GeoHideRoutingRules) : Prop :=
  (∀ host, targetFor platform rules host = targetFor platform rules' host) ∧
    ∀ host, fixedAddressFor platform rules host = fixedAddressFor platform rules' host

theorem sameRules_of_tables {platform : Platform} {rules rules' : GeoHideRoutingRules}
    (hfixed : ∀ key, rules.fixedAddresses.lookup key = rules'.fixedAddresses.lookup key)
    (hsupported : ∀ key, key ∈ rules.supportedDomains ↔ key ∈ rules'.supportedDomains) :
    SameRules platform rules rules' := by
  have htargetOf : targetOf rules = targetOf rules' := by
    funext candidate
    simp only [targetOf, hfixed, hsupported]
  constructor
  · intro host
    have hloop : targetLoop rules = targetLoop rules' := by
      funext candidate
      rw [targetLoop_eq, targetLoop_eq, htargetOf]
    rw [targetFor, targetFor, hloop]
  · intro host
    exact hfixed _

section Insertion

variable {platform : Platform} {before after other : List Text} {comment : Text}

theorem load_domain_comment (hcomment : IsComment comment) :
    load platform (before ++ comment :: after) other = load platform (before ++ after) other := by
  have hnone := @normalizeRule_comment platform _ hcomment
  simp only [load, List.filterMap_append, List.filterMap_cons_none hnone]

/-- What the inserted line would record is recorded by a later line, or already is
what the last line before it records. -/
def Shadowed (platform : Platform) (before after : List Text) (comment : Text) : Prop :=
  ∀ key address, parseHostLine platform comment = some (key, address) →
    (∃ later ∈ after, Names platform later key) ∨ LastGives platform before key address

theorem lookup_insert {key : Text} :
    (load platform other (before ++ comment :: after)).fixedAddresses.lookup key =
      (load platform other (before ++ after)).fixedAddresses.lookup key ↔
    ∀ address, parseHostLine platform comment = some (key, address) →
      (∃ later ∈ after, Names platform later key) ∨ LastGives platform before key address := by
  rw [lookup_load_append, lookup_load_append, lookup_load_cons]
  cases hafter : (load platform other after).fixedAddresses.lookup key with
  | some recorded =>
      have hnames : ∃ later ∈ after, Names platform later key := by
        by_contra hnone
        push Not at hnone
        rw [lookup_load_eq_none.mpr hnone] at hafter
        contradiction
      simp [hnames]
  | none =>
      have hnames : ¬ ∃ later ∈ after, Names platform later key := by
        have hnone := lookup_load_eq_none.mp hafter
        push Not
        exact hnone
      simp only [Option.none_or, hnames, false_or, ← @lookup_load_singleton platform other,
        ← @lookup_load_eq_some platform other]
      cases (load platform other [comment]).fixedAddresses.lookup key with
      | none => simp
      | some given => simp [eq_comm]

theorem mem_supportedDomains_insert (hshadowed : Shadowed platform before after comment)
    {key : Text} :
    key ∈ (load platform other (before ++ comment :: after)).supportedDomains ↔
      key ∈ (load platform other (before ++ after)).supportedDomains := by
  have hrecorded : ∀ lines : List Text,
      key ∈ (load platform other lines).supportedDomains ↔
        key ∈ other.filterMap (normalizeRule platform) ∨
          ∃ line ∈ lines, Names platform line key := by
    intro lines
    simp only [mem_supportedDomains_load, List.mem_filterMap, names_iff]
  rw [hrecorded, hrecorded]
  simp only [List.mem_append, List.mem_cons]
  constructor
  · rintro (hdomain | ⟨line, hbefore | rfl | hafter, hnames⟩)
    · exact Or.inl hdomain
    · exact Or.inr ⟨line, Or.inl hbefore, hnames⟩
    · obtain ⟨address, hline⟩ := hnames
      rcases hshadowed key address hline with
        ⟨later, hlater, hnames⟩ | ⟨front, earlier, back, rfl, hearlier, _⟩
      · exact Or.inr ⟨later, Or.inr hlater, hnames⟩
      · exact Or.inr ⟨earlier, Or.inl (by simp), ⟨address, hearlier⟩⟩
    · exact Or.inr ⟨line, Or.inr hafter, hnames⟩
  · rintro (hdomain | ⟨line, hbefore | hafter, hnames⟩)
    · exact Or.inl hdomain
    · exact Or.inr ⟨line, Or.inl hbefore, hnames⟩
    · exact Or.inr ⟨line, Or.inr (Or.inr hafter), hnames⟩

theorem sameRules_insert_iff :
    SameRules platform (load platform other (before ++ comment :: after))
        (load platform other (before ++ after)) ↔
      Shadowed platform before after comment := by
  constructor
  · rintro ⟨_, hfixed⟩ key address hline
    obtain ⟨host, rfl⟩ := parseHostLine_host hline
    exact lookup_insert.mp (hfixed host) address hline
  · intro hshadowed
    exact sameRules_of_tables (fun key => lookup_insert.mpr (hshadowed key))
      fun key => mem_supportedDomains_insert hshadowed

end Insertion

/-- The line is no comment and gives the address. -/
def GivenOutsideComments (platform : Platform) (lines : List Text) (address : Text) : Prop :=
  ∃ line ∈ lines, ¬ IsComment line ∧ ∃ key, parseHostLine platform line = some (key, address)

/-- An address that only comments give is never looked up where every record in a
comment is overridden by a later line. -/
theorem givenOutsideComments_iff {platform : Platform} {other lines : List Text} :
    (∀ host address, fixedAddressFor platform (load platform other lines) host = some address →
        GivenOutsideComments platform lines address) ↔
      ∀ before line after, lines = before ++ line :: after → IsComment line →
        ∀ key, Names platform line key → ∃ later ∈ after, Names platform later key := by
  constructor
  · rintro hgiven before line after rfl hcomment key ⟨address, hline⟩
    by_contra hlast
    push Not at hlast
    obtain ⟨host, rfl⟩ := parseHostLine_host hline
    have hlookup := (@lookup_load_eq_some platform other _ _ _).mpr
      ⟨before, line, after, rfl, hline, hlast⟩
    obtain ⟨source, _, hsource, key, hparse⟩ := hgiven host address hlookup
    exact hsource ((parseHostLine_head hparse).mp ((parseHostLine_head hline).mpr hcomment))
  · intro hoverridden host address hlookup
    obtain ⟨before, line, after, hlines, hline, hlast⟩ := lookup_load_eq_some.mp hlookup
    refine ⟨line, by simp [hlines], ?_, _, hline⟩
    intro hcomment
    obtain ⟨later, hmem, hnames⟩ := hoverridden before line after hlines hcomment _ ⟨address, hline⟩
    exact hlast later hmem hnames

/-- A comment inserted into the domains asset changes nothing. One inserted into the
hosts asset changes nothing exactly when what it would record is shadowed, and no
address in a comment is used exactly when every record in a comment is overridden. -/
theorem comment_inert_iff (platform : Platform) (before after other : List Text) (comment : Text)
    (hcomment : IsComment comment) :
    SameRules platform (load platform (before ++ comment :: after) other)
        (load platform (before ++ after) other) ∧
      (SameRules platform (load platform other (before ++ comment :: after))
          (load platform other (before ++ after)) ↔
        ∀ key address, parseHostLine platform comment = some (key, address) →
          (∃ later ∈ after, Names platform later key) ∨ LastGives platform before key address) ∧
      ((∀ host address,
          fixedAddressFor platform (load platform other (before ++ comment :: after)) host =
              some address →
            GivenOutsideComments platform (before ++ comment :: after) address) ↔
        ∀ front line back, before ++ comment :: after = front ++ line :: back → IsComment line →
          ∀ key, Names platform line key → ∃ later ∈ back, Names platform later key) := by
  refine ⟨?_, sameRules_insert_iff, givenOutsideComments_iff⟩
  rw [load_domain_comment hcomment]
  exact ⟨fun _ => rfl, fun _ => rfl⟩

theorem comment_inert_iff_heading :
    IsComment "# Smart DNS".toList ∧
      SameRules .ascii (load .ascii (["openai.com".toList] ++ "# Smart DNS".toList :: []) [])
        (load .ascii (["openai.com".toList] ++ []) []) :=
  ⟨by decide, (comment_inert_iff .ascii ["openai.com".toList] [] [] "# Smart DNS".toList
    (by decide)).1⟩

/-- A record that is commented out stays a record, with `#` in its address. -/
theorem commented_record_loaded :
    IsComment "#45.155.204.190 openai.com".toList ∧
      fixedAddressFor .ascii (load .ascii [] []) "openai.com".toList = none ∧
      fixedAddressFor .ascii (load .ascii [] ["#45.155.204.190 openai.com".toList])
          "openai.com".toList = some "#45.155.204.190".toList ∧
      ¬ SameRules .ascii (load .ascii [] ([] ++ "#45.155.204.190 openai.com".toList :: []))
        (load .ascii [] ([] ++ [])) := by
  refine ⟨by decide, by decide, by decide, ?_⟩
  rintro ⟨_, hfixed⟩
  have hhost := hfixed "openai.com".toList
  revert hhost
  decide

end GeoHideRoutingRules

end AIUnblock
