import AIUnblock.Engine.SessionSet
import Mathlib.Data.Nat.Bitwise

/-! # The mapped DNS of the tunnel

`hev-mapped-dns.c` answers queries with addresses of its own and gives the name of an address
back when a session goes there. It has `max` addresses. The name that was not asked for the
longest time loses its address when all of them are in use.
-/

namespace AIUnblock

variable {κ : Type} [DecidableEq κ]

/-- `HevMappedDNS`. A node is known by its name, the tree has the index of each. -/
structure HevMappedDNS (κ : Type) where
  use : Nat
  max : Nat
  net : Nat
  /-- `~mask` -/
  host : Nat
  list : HevList κ
  tree : κ → Option Nat
  records : Nat → Option κ

namespace HevMappedDNS

/-- `hev_mapped_dns_construct`. The test compares two `int`s. -/
def construct (net host max : Nat) (links : κ → LinkedList.Links κ) :
    Option (HevMappedDNS κ) :=
  if (max : Int) > (BitVec.ofNat 32 host).toInt then none
  else
    some {
      use := 0, max, net, host
      list := ⟨none, none, links⟩
      tree := fun _ => none
      records := fun _ => none }

/-- `hev_list_del` and `hev_list_add_tail` of one node. -/
def touch (self : HevMappedDNS κ) (name : κ) : HevMappedDNS κ :=
  { self with list := (self.list.del name).addTail name }

/-- The new node gets an index. -/
def record (self : HevMappedDNS κ) (name : κ) (idx : Nat) : HevMappedDNS κ :=
  { self with
    tree := Function.update self.tree name (some idx)
    records := Function.update self.records idx (some name) }

theorem record_tree (self : HevMappedDNS κ) (name other : κ) (idx : Nat) :
    (self.record name idx).tree other =
      if other = name then some idx else self.tree other := by
  simp only [record, Function.update_apply]

theorem record_records (self : HevMappedDNS κ) (name : κ) (idx place : Nat) :
    (self.record name idx).records place =
      if place = idx then some name else self.records place := by
  simp only [record, Function.update_apply]

/-- `hev_rbtree_erase` and `hev_list_del` of the first node. -/
def erase (self : HevMappedDNS κ) (first : κ) : HevMappedDNS κ :=
  { self with
    list := self.list.del first
    tree := Function.update self.tree first none }

theorem erase_tree (self : HevMappedDNS κ) (first other : κ) :
    (self.erase first).tree other = if other = first then none else self.tree other := by
  simp only [erase, Function.update_apply]

/-- `hev_mapped_dns_find`, which fails where there is no memory for a node. -/
def find (self : HevMappedDNS κ) (name : κ) (memory : Bool) : HevMappedDNS κ × Option Nat :=
  match self.tree name with
  | some idx => (self.touch name, some idx)
  | none =>
    if memory then
      let self := { self with list := self.list.addTail name }
      if self.use < self.max then
        ({ self with use := self.use + 1 }.record name self.use, some self.use)
      else
        match self.list.head.bind fun first => (self.tree first).map fun idx => (first, idx) with
        | some (first, idx) => ((self.erase first).record name idx, some idx)
        -- without any address the new node would itself be the first
        | none => (self, none)
    else (self, none)

/-- The address that `hev_mapped_dns_handle` answers with. -/
def address (self : HevMappedDNS κ) (idx : Nat) : Nat := self.net ||| idx

/-- `hev_mapped_dns_lookup`. -/
def lookup (self : HevMappedDNS κ) (ip : Nat) : HevMappedDNS κ × Option κ :=
  let idx := ip &&& self.host
  if self.max ≤ idx then (self, none)
  else
    match self.records idx with
    | some name => (self.touch name, some name)
    | none => (self, none)

inductive Event (κ : Type)
  | find (name : κ) (memory : Bool)
  | lookup (ip : Nat)

def step (self : HevMappedDNS κ) : Event κ → HevMappedDNS κ
  | .find name memory => (self.find name memory).1
  | .lookup ip => (self.lookup ip).1

/-- The names that have an address, in the order in which they were asked for last. -/
structure Holds (order : List κ) (dns : HevMappedDNS κ) : Prop where
  list : dns.list.Represents order
  absent : ∀ name, dns.tree name = none ↔ name ∉ order
  records : ∀ name idx, dns.tree name = some idx ↔ dns.records idx = some name
  bound : ∀ name idx, dns.tree name = some idx → idx < dns.use
  use : dns.use = order.length
  room : dns.use ≤ dns.max

/-- What an operation does to the order. -/
inductive Moves (max : Nat) : List κ → List κ → Prop
  | stays (order : List κ) : Moves max order order
  | touched (front : List κ) (name : κ) (rest : List κ) :
      Moves max (front ++ name :: rest) (front ++ rest ++ [name])
  | added (order : List κ) (name : κ) : Moves max order (order ++ [name])
  | evicted (first : κ) (rest : List κ) (name : κ) (hfull : max ≤ rest.length + 1) :
      Moves max (first :: rest) (rest ++ [name])

section Step

variable {dns : HevMappedDNS κ} {order front rest : List κ} {name first : κ} {idx : Nat}

theorem touch_holds (hholds : dns.Holds (front ++ name :: rest)) :
    (dns.touch name).Holds (front ++ rest ++ [name]) := by
  refine ⟨hholds.list.del.addTail hholds.list.not_mem, ?_, hholds.records, hholds.bound, ?_,
    hholds.room⟩
  · intro other
    refine (hholds.absent other).trans (not_congr ?_)
    simp only [List.mem_append, List.mem_cons]
    tauto
  · change dns.use = _
    rw [hholds.use]
    simp only [List.length_append, List.length_cons, List.length_nil]
    omega

theorem add_holds (hholds : dns.Holds order) (hname : name ∉ order) (hroom : dns.use < dns.max) :
    ({ dns with list := dns.list.addTail name, use := dns.use + 1 }.record name dns.use).Holds
      (order ++ [name]) := by
  have hnone := (hholds.absent name).mpr hname
  refine ⟨hholds.list.addTail hname, ?_, ?_, ?_, ?_, hroom⟩
  · intro other
    have habsent := hholds.absent other
    rw [record_tree, List.mem_append, List.mem_singleton]
    split
    · simp_all
    · rw [habsent]
      tauto
  · intro other place
    have hplaces := hholds.records other place
    rw [record_tree, record_records]
    dsimp only
    by_cases hsame : other = name
    · subst hsame
      rw [if_pos rfl]
      by_cases hplace : place = dns.use
      · simp [hplace]
      · rw [if_neg hplace, ← hplaces, hnone]
        simp [Ne.symm hplace]
    · rw [if_neg hsame]
      by_cases hplace : place = dns.use
      · subst hplace
        rw [if_pos rfl]
        constructor
        · intro hother
          exact absurd (hholds.bound other dns.use hother) (lt_irrefl _)
        · intro hother
          exact absurd (Option.some.inj hother).symm hsame
      · rw [if_neg hplace, hplaces]
  · intro other place hplace
    change place < dns.use + 1
    rw [record_tree] at hplace
    split at hplace
    · obtain rfl := Option.some.inj hplace
      exact Nat.lt_succ_self _
    · exact (hholds.bound other place hplace).trans (Nat.lt_succ_self _)
  · rw [List.length_append, ← hholds.use]
    rfl

theorem evict_holds (hholds : dns.Holds (first :: rest)) (hname : name ∉ first :: rest)
    (hidx : dns.tree first = some idx) :
    (({ dns with list := dns.list.addTail name }.erase first).record name idx).Holds
      (rest ++ [name]) := by
  have hother : first ≠ name := fun hsame => hname (hsame ▸ List.mem_cons_self)
  have hnone := (hholds.absent name).mpr hname
  have hlist : (dns.list.addTail name).Represents ([] ++ first :: (rest ++ [name])) :=
    hholds.list.addTail hname
  have hapart := (List.nodup_cons.mp hholds.list.nodup).1
  have hrecord := (hholds.records first idx).mp hidx
  -- what the tree and the records have afterwards
  have htree : ∀ other, (({ dns with list := dns.list.addTail name }.erase first).record name
      idx).tree other =
        if other = name then some idx else if other = first then none else dns.tree other := by
    intro other
    rw [record_tree, erase_tree]
  have hrecords : ∀ place, (({ dns with list := dns.list.addTail name }.erase first).record name
      idx).records place = if place = idx then some name else dns.records place := by
    intro place
    rw [record_records]
    rfl
  refine ⟨hlist.del, ?_, ?_, ?_, ?_, hholds.room⟩
  · intro other
    have habsent := hholds.absent other
    rw [htree, List.mem_append, List.mem_singleton]
    rw [List.mem_cons] at habsent
    split
    · simp_all
    · split
      · simp_all
      · rw [habsent]
        tauto
  · intro other place
    have hplaces := hholds.records other place
    rw [htree, hrecords]
    by_cases hsame : other = name
    · subst hsame
      rw [if_pos rfl]
      by_cases hplace : place = idx
      · simp [hplace]
      · rw [if_neg hplace, ← hplaces, hnone]
        simp [Ne.symm hplace]
    · rw [if_neg hsame]
      by_cases hplace : place = idx
      · subst hplace
        rw [if_pos rfl]
        by_cases hgone : other = first
        · simp [hgone, hother.symm]
        · rw [if_neg hgone, hplaces, hrecord]
          simp [Ne.symm hgone, Ne.symm hsame]
      · rw [if_neg hplace]
        by_cases hgone : other = first
        · subst hgone
          rw [if_pos rfl, ← hplaces, hidx]
          simp [Ne.symm hplace]
        · rw [if_neg hgone, hplaces]
  · intro other place hplace
    change place < dns.use
    rw [htree] at hplace
    split at hplace
    · obtain rfl := Option.some.inj hplace
      exact hholds.bound first idx hidx
    · split at hplace
      · exact absurd hplace (by simp)
      · exact hholds.bound other place hplace
  · change dns.use = _
    rw [hholds.use]
    simp

/-- A step keeps the order, and the places of the names that stay. -/
structure Keeps (dns : HevMappedDNS κ) (order : List κ) (dns' : HevMappedDNS κ)
    (order' : List κ) : Prop where
  holds : dns'.Holds order'
  moves : Moves dns.max order order'
  places : ∀ name ∈ order, name ∈ order' → dns'.tree name = dns.tree name
  same : dns'.max = dns.max ∧ dns'.net = dns.net ∧ dns'.host = dns.host

theorem touch_keeps (hholds : dns.Holds order) (hidx : dns.tree name = some idx) :
    ∃ front, Keeps dns order (dns.touch name) (front ++ [name]) := by
  have hname : name ∈ order := by
    by_contra habsent
    rw [(hholds.absent name).mpr habsent] at hidx
    exact absurd hidx (by simp)
  obtain ⟨front, rest, rfl⟩ := List.append_of_mem hname
  exact ⟨_, touch_holds hholds, .touched front name rest, fun _ _ _ => rfl, rfl, rfl, rfl⟩

/-- A query fails and changes nothing, or its name comes to the end and has an index. -/
theorem find_keeps (hmax : 0 < dns.max) (hholds : dns.Holds order) (name : κ) (memory : Bool) :
    dns.find name memory = (dns, none) ∨
      ∃ front idx, Keeps dns order (dns.find name memory).1 (front ++ [name]) ∧
        (dns.find name memory).2 = some idx ∧
        (dns.find name memory).1.tree name = some idx := by
  unfold find
  cases hidx : dns.tree name with
  | some idx =>
      obtain ⟨front, hkeeps⟩ := touch_keeps hholds hidx
      exact .inr ⟨front, idx, hkeeps, rfl, hidx⟩
  | none =>
      have hname := (hholds.absent name).mp hidx
      cases memory with
      | false => exact .inl rfl
      | true =>
          right
          dsimp only
          rw [if_pos rfl]
          by_cases hroom : dns.use < dns.max
          · rw [if_pos hroom]
            refine ⟨order, dns.use, ⟨add_holds hholds hname hroom, .added order name, ?_, rfl, rfl,
              rfl⟩, rfl, Function.update_self ..⟩
            intro other hother _
            have hnot : other ≠ name := by
              rintro rfl
              exact hname hother
            rw [record_tree, if_neg hnot]
          · rw [if_neg hroom]
            have hfull := hholds.use
            cases order with
            | nil =>
                rw [List.length_nil] at hfull
                omega
            | cons first rest =>
                have hfirst : (dns.list.addTail name).head = some first :=
                  (hholds.list.addTail hname).head
                obtain ⟨idx, hidx⟩ : ∃ idx, dns.tree first = some idx := by
                  apply Option.ne_none_iff_exists'.mp
                  rw [Ne, hholds.absent]
                  simp
                rw [hfirst, Option.bind_some, hidx, Option.map_some]
                rw [List.length_cons] at hfull
                refine ⟨rest, idx, ⟨evict_holds hholds hname hidx,
                  .evicted first rest name (by omega), ?_, rfl, rfl, rfl⟩, rfl,
                  Function.update_self ..⟩
                intro other hother hkept
                have hnot : other ≠ name := by
                  rintro rfl
                  exact hname hother
                have hlater : other ≠ first := by
                  rintro rfl
                  rcases List.mem_append.mp hkept with hmem | hmem
                  · exact (List.nodup_cons.mp hholds.list.nodup).1 hmem
                  · exact hnot (List.mem_singleton.mp hmem)
                rw [record_tree, if_neg hnot, erase_tree, if_neg hlater]

theorem step_keeps (hmax : 0 < dns.max) (hholds : dns.Holds order) (event : Event κ) :
    ∃ order', Keeps dns order (dns.step event) order' := by
  have hstays : Keeps dns order dns order :=
    ⟨hholds, .stays order, fun _ _ _ => rfl, rfl, rfl, rfl⟩
  cases event with
  | find name memory =>
      rcases find_keeps hmax hholds name memory with hfails | ⟨front, _, hkeeps, _⟩
      · rw [step, hfails]
        exact ⟨order, hstays⟩
      · exact ⟨_, hkeeps⟩
  | lookup ip =>
      unfold step lookup
      dsimp only
      split
      · exact ⟨order, hstays⟩
      · split
        · next hrecord =>
            obtain ⟨front, hkeeps⟩ := touch_keeps hholds ((hholds.records _ _).mpr hrecord)
            exact ⟨_, hkeeps⟩
        · exact ⟨order, hstays⟩

end Step

section Recent

/-- The name is among the last ones that were asked for. -/
def Recent (steps : Nat) (name : κ) (order : List κ) : Prop :=
  ∃ front rest, order = front ++ name :: rest ∧ rest.length ≤ steps

variable {max steps : Nat} {order order' : List κ} {name : κ}

omit [DecidableEq κ] in
theorem Recent.moves (hrecent : Recent steps name order) (hmoves : Moves max order order')
    (hsteps : steps + 1 < max) : Recent (steps + 1) name order' := by
  obtain ⟨front, rest, horder, hlength⟩ := hrecent
  cases hmoves with
  | stays => exact ⟨front, rest, horder, hlength.trans (Nat.le_succ _)⟩
  | added _ new =>
      refine ⟨front, rest ++ [new], ?_, ?_⟩
      · rw [horder, List.append_assoc, List.cons_append]
      · rw [List.length_append]
        exact Nat.succ_le_succ hlength
  | evicted first later new hfull =>
      cases front with
      | nil =>
          obtain ⟨rfl, rfl⟩ := List.cons.inj horder
          omega
      | cons other front =>
          obtain ⟨rfl, rfl⟩ := List.cons.inj horder
          refine ⟨front, rest ++ [new], ?_, ?_⟩
          · simp
          · rw [List.length_append]
            exact Nat.succ_le_succ hlength
  | touched before other after =>
      -- where the other name was
      rcases List.append_eq_append_iff.mp horder with ⟨between, hfront, hrest⟩ |
        ⟨between, hfront, hrest⟩
      · cases between with
        | nil =>
            obtain ⟨rfl, rfl⟩ := List.cons.inj hrest
            exact ⟨before ++ after, [], rfl, Nat.zero_le _⟩
        | cons _ between =>
            obtain ⟨rfl, rfl⟩ := List.cons.inj hrest
            refine ⟨before ++ between, rest ++ [other], by simp, ?_⟩
            rw [List.length_append]
            exact Nat.succ_le_succ hlength
      · cases between with
        | nil =>
            obtain ⟨rfl, rfl⟩ := List.cons.inj hrest
            exact ⟨before ++ rest, [], rfl, Nat.zero_le _⟩
        | cons _ between =>
            obtain ⟨rfl, hlater⟩ := List.cons.inj hrest
            have hlater : rest = between ++ other :: after := hlater
            rw [hlater] at hlength
            refine ⟨front, between ++ after ++ [other], by simp [hfront], ?_⟩
            simp only [List.length_append, List.length_cons, List.length_nil] at hlength ⊢
            omega

omit [DecidableEq κ] in
theorem Recent.mem (hrecent : Recent steps name order) : name ∈ order := by
  obtain ⟨front, rest, rfl, _⟩ := hrecent
  simp

end Recent

section Run

variable {dns : HevMappedDNS κ} {order : List κ} {name : κ} {idx steps : Nat}

theorem run_holds (hmax : 0 < dns.max) (hholds : dns.Holds order) (events : List (Event κ)) :
    (∃ order, (events.foldl step dns).Holds order) ∧ (events.foldl step dns).max = dns.max ∧
      (events.foldl step dns).net = dns.net ∧ (events.foldl step dns).host = dns.host := by
  induction events generalizing dns order with
  | nil => exact ⟨⟨order, hholds⟩, rfl, rfl, rfl⟩
  | cons event events ih =>
      obtain ⟨order', hkeeps⟩ := step_keeps hmax hholds event
      obtain ⟨hmax', hnet, hhost⟩ := hkeeps.same
      rw [← hmax', ← hnet, ← hhost]
      exact ih (hmax'.symm ▸ hmax) hkeeps.holds

/-- A name keeps its place while not too many others can have come. -/
theorem run_recent (hmax : 0 < dns.max) (hholds : dns.Holds order)
    (hrecent : Recent steps name order) (hidx : dns.tree name = some idx)
    (events : List (Event κ)) (hfew : steps + events.length < dns.max) :
    (events.foldl step dns).tree name = some idx := by
  induction events generalizing dns order steps with
  | nil => exact hidx
  | cons event events ih =>
      obtain ⟨order', hkeeps⟩ := step_keeps hmax hholds event
      rw [List.length_cons] at hfew
      have hrecent' := hrecent.moves hkeeps.moves (by omega)
      have hplace := (hkeeps.places name hrecent.mem hrecent'.mem).trans hidx
      refine ih ?_ hkeeps.holds hrecent' hplace ?_
      · rw [hkeeps.same.1]
        exact hmax
      · rw [hkeeps.same.1]
        omega

theorem toInt_ofNat_le (host : Nat) : (BitVec.ofNat 32 host).toInt ≤ host := by
  have hword := Nat.mod_le host (2 ^ 32)
  rw [BitVec.toInt_eq_toNat_cond, BitVec.toNat_ofNat]
  split <;> omega

omit [DecidableEq κ] in
theorem construct_holds {net host max : Nat} {links : κ → LinkedList.Links κ}
    (hstart : construct net host max links = some dns) :
    dns.Holds [] ∧ dns.max = max ∧ dns.net = net ∧ dns.host = host ∧ max ≤ host := by
  obtain ⟨hroom, hstart⟩ := Option.ite_none_left_eq_some.mp hstart
  obtain rfl := Option.some.inj hstart
  have hword := toInt_ofNat_le host
  refine ⟨⟨⟨rfl, rfl, trivial, List.nodup_nil⟩, ?_, ?_, ?_, rfl, Nat.zero_le _⟩, rfl, rfl, rfl,
    by omega⟩
  · exact fun _ => ⟨fun _ => List.not_mem_nil, fun _ => rfl⟩
  · exact fun _ _ => ⟨fun h => (nomatch h), fun h => (nomatch h)⟩
  · exact fun _ _ h => nomatch h

omit [DecidableEq κ] in
/-- An address of a proper subnet leads back to its index. -/
theorem address_host {bits : Nat} (hnet : 2 ^ bits ∣ dns.net) (hhost : dns.host = 2 ^ bits - 1)
    (hidx : idx ≤ dns.host) : dns.address idx &&& dns.host = idx := by
  have hpos : 0 < 2 ^ bits := Nat.two_pow_pos bits
  rw [address, hhost, Nat.and_two_pow_sub_one_eq_mod, Nat.or_mod_two_pow,
    Nat.mod_eq_zero_of_dvd hnet, Nat.zero_or, Nat.mod_eq_of_lt (by omega)]

/-- A name that was answered with an address is what the address leads to, and no other name
has that address, whatever is asked for after it as long as it is less than `max` times. -/
theorem address_resolves {net bits max : Nat} {links : κ → LinkedList.Links κ}
    (hmax : 0 < max) (hnet : 2 ^ bits ∣ net)
    (hstart : construct net (2 ^ bits - 1) max links = some dns) {past : List (Event κ)}
    {memory : Bool} {answered : HevMappedDNS κ}
    (hfind : (past.foldl step dns).find name memory = (answered, some idx))
    {events : List (Event κ)} (hfew : events.length < max) :
    ((events.foldl step answered).lookup (answered.address idx)).2 = some name ∧
      ∀ other, (events.foldl step answered).tree other = some idx → other = name := by
  obtain ⟨hempty, rfl, rfl, hhost, hroom⟩ := construct_holds hstart
  obtain ⟨⟨order, hholds⟩, hmax', hnet', hhost'⟩ := run_holds hmax hempty past
  generalize past.foldl step dns = before at *
  have hsome : before.find name memory ≠ (before, none) := by
    rw [hfind]
    exact fun hsame => nomatch (Prod.mk.inj hsame).2
  obtain ⟨front, place, hkeeps, hplace, htree⟩ :=
    (find_keeps (hmax' ▸ hmax) hholds name memory).resolve_left hsome
  rw [hfind] at hkeeps hplace htree
  dsimp only at hkeeps hplace htree
  obtain rfl := Option.some.inj hplace
  obtain ⟨hmax'', hnet'', hhost''⟩ := hkeeps.same
  -- the name is the last one, and the run is too short to bring it to the front
  have hanswered : 0 < answered.max := by
    rw [hmax'', hmax']
    exact hmax
  have hlater := run_recent hanswered hkeeps.holds ⟨front, [], rfl, Nat.le_refl 0⟩ htree events
    (by rw [hmax'', hmax']; omega)
  obtain ⟨⟨order', hholds'⟩, hmax₃, hnet₃, hhost₃⟩ := run_holds hanswered hkeeps.holds events
  generalize events.foldl step answered = after at *
  have hrecord := (hholds'.records name idx).mp hlater
  have hidx : idx < after.max := (hholds'.bound name idx hlater).trans_le hholds'.room
  have hsubnet : answered.host = 2 ^ bits - 1 := by rw [hhost'', hhost', hhost]
  have hinside : 2 ^ bits ∣ answered.net := by
    rw [hnet'', hnet']
    exact hnet
  have hback : answered.address idx &&& after.host = idx := by
    rw [hhost₃]
    exact address_host hinside hsubnet (by omega)
  constructor
  · unfold lookup
    dsimp only
    rw [hback, if_neg (Nat.not_le_of_lt hidx), hrecord]
  · intro other hother
    have hsame := (hholds'.records other idx).mp hother
    rw [hrecord] at hsame
    exact (Option.some.inj hsame).symm

theorem address_resolves_reused : ∃ dns answered : HevMappedDNS Nat,
    construct 256 255 2 (fun _ => ⟨none, none⟩) = some dns ∧
      ([.find 7 true, .find 8 true].foldl step dns).find 9 true = (answered, some 0) ∧
      (([.lookup 257].foldl step answered).lookup (answered.address 0)).2 = some 9 := by
  have hstart : construct 256 (2 ^ 8 - 1) 2 (fun _ : Nat => ⟨none, none⟩) = some _ := rfl
  have hresolves := @address_resolves _ _ _ 9 0 256 8 2 _ (by decide) (by decide) hstart
    [.find 7 true, .find 8 true] true _ rfl [.lookup 257] (by decide)
  exact ⟨_, _, hstart, rfl, hresolves.1⟩

end Run

end HevMappedDNS

end AIUnblock
