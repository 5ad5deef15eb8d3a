import AIUnblock.Foundation.LinkedList
import AIUnblock.Foundation.Runs
import Mathlib.Data.Finset.Card

/-! # The sessions of the tunnel

`hev-socks5-tunnel.c` keeps its sessions in a `HevList`, moves a session to the end when it
does something, and stops the first one when there are too many. When the tunnel is stopped,
its event task goes through the list and stops them all.
-/

namespace AIUnblock

open LinkedList

variable {κ : Type} [DecidableEq κ]

/-- `HevList`, with the links of the nodes. -/
structure HevList (κ : Type) where
  head : Option κ
  tail : Option κ
  links : κ → Links κ

namespace HevList

def setPrev (self : HevList κ) (node : κ) (prev : Option κ) : HevList κ :=
  { self with links := Function.update self.links node { self.links node with prev } }

def setNext (self : HevList κ) (node : κ) (next : Option κ) : HevList κ :=
  { self with links := Function.update self.links node { self.links node with next } }

/-- `hev_list_add_tail`. -/
def addTail (self : HevList κ) (new : κ) : HevList κ :=
  let self := self.setPrev new self.tail
  let self := self.setNext new none
  let self :=
    match self.tail with
    | some tail => self.setNext tail (some new)
    | none => { self with head := some new }
  { self with tail := some new }

/-- The first half of `hev_list_del`. -/
def delPrev (self : HevList κ) (node : κ) : HevList κ :=
  match (self.links node).prev with
  | some prev => self.setNext prev (self.links node).next
  | none => { self with head := (self.links node).next }

/-- The second half of `hev_list_del`. -/
def delNext (self : HevList κ) (node : κ) : HevList κ :=
  match (self.links node).next with
  | some next => self.setPrev next (self.links node).prev
  | none => { self with tail := (self.links node).prev }

/-- `hev_list_del`. -/
def del (self : HevList κ) (node : κ) : HevList κ := (self.delPrev node).delNext node

/-- What a loop over `hev_list_first` and `hev_list_node_next` visits in `fuel` turns. -/
def walk (self : HevList κ) : Nat → Option κ → List κ
  | 0, _ => []
  | _ + 1, none => []
  | fuel + 1, some node => node :: self.walk fuel (self.links node).next

/-- The list holds these nodes, in this order. -/
structure Represents (list : HevList κ) (nodes : List κ) : Prop where
  head : list.head = nodes.head?
  tail : list.tail = nodes.getLast?
  linked : Linked list.links none nodes none
  nodup : nodes.Nodup

section Represents

variable {self : HevList κ} {nodes : List κ}

theorem Represents.addTail (hlist : self.Represents nodes) {new : κ} (hnew : new ∉ nodes) :
    (self.addTail new).Represents (nodes ++ [new]) := by
  have hnodup : (nodes ++ [new]).Nodup := by
    rw [List.nodup_append]
    refine ⟨hlist.nodup, List.nodup_singleton new, ?_⟩
    rintro node hnode _ hother rfl
    obtain rfl := List.mem_singleton.mp hother
    exact hnew hnode
  have hlinked := hlist.linked
  unfold HevList.addTail setPrev setNext
  dsimp only
  rcases List.eq_nil_or_concat' nodes with rfl | ⟨front, last, rfl⟩
  · have htail : self.tail = none := hlist.tail
    simp only [htail]
    refine ⟨rfl, rfl, ?_, hnodup⟩
    rw [List.nil_append, linked_singleton]
    simp
  · have htail : self.tail = some last := by
      rw [hlist.tail, List.getLast?_concat]
    have hlast : last ≠ new := by
      rintro rfl
      exact hnew (by simp)
    have hfront : last ∉ front := by
      have hnodup := hlist.nodup
      rw [List.nodup_append] at hnodup
      exact fun hmem => hnodup.2.2 last hmem last (by simp) rfl
    simp only [htail]
    refine ⟨?_, ?_, ?_, hnodup⟩
    · rw [hlist.head]
      cases front <;> rfl
    · rw [List.getLast?_concat]
    · refine linked_concat.mpr ⟨?_, ?_⟩
      · exact ((hlinked.update hnew _).update hnew _).setLast hfront
      · dsimp only
        rw [Function.update_of_ne hlast.symm, List.getLast?_concat]
        simp

omit [DecidableEq κ] in
theorem Represents.not_mem {front rest : List κ} {node : κ}
    (hlist : self.Represents (front ++ node :: rest)) : node ∉ front ++ rest :=
  (List.nodup_cons.mp (List.nodup_middle.mp hlist.nodup)).1

/-- The front of the list leads to what is behind the node. -/
theorem delPrev_linked {front rest : List κ} {node : κ}
    (hhead : self.head = (front ++ node :: rest).head?)
    (hlinked : Linked self.links none (front ++ node :: rest) none)
    (hnodup : (front ++ node :: rest).Nodup) :
    (self.delPrev node).head = (front ++ rest).head? ∧
      Linked (self.delPrev node).links none front rest.head? ∧
      (self.delPrev node).links node = ⟨front.getLast?, rest.head?⟩ ∧
      Linked (self.delPrev node).links (some node) rest none := by
  obtain ⟨hfront, hprev, hnext, hrest⟩ := linked_append.mp hlinked
  rw [Option.or_none] at hprev hnext
  obtain ⟨_, hnode, hapart⟩ := List.nodup_append.mp hnodup
  unfold delPrev
  rcases List.eq_nil_or_concat' front with rfl | ⟨front, last, rfl⟩
  · have hfirst : (self.links node).prev = none := hprev
    simp only [hfirst]
    refine ⟨hnext, trivial, ?_, hrest⟩
    cases hlink : self.links node
    rw [hlink] at hfirst hnext
    simp_all
  · have hlast : (self.links node).prev = some last := by
      rw [hprev, List.getLast?_concat]
    have hother : last ≠ node := hapart last (by simp) node (by simp)
    have hbehind : last ∉ rest := fun hmem => hapart last (by simp) last (by simp [hmem]) rfl
    have hbefore : last ∉ front := by
      obtain ⟨hnodup, _⟩ := List.nodup_append.mp hnodup
      exact fun hmem => (List.nodup_append.mp hnodup).2.2 last hmem last (by simp) rfl
    simp only [hlast]
    refine ⟨?_, ?_, ?_, hrest.update hbehind _⟩
    · change self.head = _
      rw [hhead]
      cases front <;> rfl
    · rw [hnext]
      exact hfront.setLast hbefore
    · change Function.update _ _ _ node = _
      rw [Function.update_of_ne hother.symm, List.getLast?_concat]
      cases hlink : self.links node
      rw [hlink] at hlast hnext
      simp_all

theorem Represents.del {front rest : List κ} {node : κ}
    (hlist : self.Represents (front ++ node :: rest)) :
    (self.del node).Represents (front ++ rest) := by
  obtain ⟨hhead, htail, hlinked, hnodup⟩ := hlist
  obtain ⟨hhead', hfront, hnode, hrest⟩ := delPrev_linked hhead hlinked hnodup
  have hnodup' : (front ++ rest).Nodup :=
    hnodup.sublist ((List.sublist_cons_self node rest).append_left front)
  have htail' : (self.delPrev node).tail = (front ++ node :: rest).getLast? := by
    rw [← htail, delPrev]
    split <;> rfl
  unfold HevList.del delNext
  rw [hnode]
  cases rest with
  | nil =>
      refine ⟨hhead', ?_, ?_, hnodup'⟩
      · rw [List.append_nil]
        rfl
      · rw [List.append_nil]
        exact hfront
  | cons next rest =>
      have hapart := (List.nodup_append.mp hnodup').2.2
      have hbehind := (List.nodup_cons.mp (List.nodup_append.mp hnodup').2.1).1
      refine ⟨hhead', ?_, ?_, hnodup'⟩
      · change (self.delPrev node).tail = _
        rw [htail']
        simp [List.getLast?_append, List.getLast?_cons]
      · refine linked_append.mpr ⟨?_, ?_⟩
        · exact hfront.update (fun hmem => hapart next hmem next (by simp) rfl) _
        · rw [Option.or_none]
          exact hrest.setFirst hbehind

omit [DecidableEq κ] in
theorem walk_linked {nodes : List κ} {before : Option κ} {fuel : Nat}
    (hlinked : Linked self.links before nodes none) (hfuel : nodes.length ≤ fuel) :
    self.walk fuel nodes.head? = nodes := by
  induction nodes generalizing before fuel with
  | nil => cases fuel <;> rfl
  | cons node rest ih =>
      cases fuel with
      | zero => simp at hfuel
      | succ fuel =>
          obtain ⟨_, hnext, hrest⟩ := hlinked
          rw [Option.or_none] at hnext
          rw [List.head?_cons, walk, hnext, ih hrest (Nat.le_of_succ_le_succ hfuel)]

end Represents

end HevList

/-- `session_set` and `session_count`, and the sessions that were terminated on its account. -/
structure SessionSet (κ : Type) where
  list : HevList κ
  count : Nat
  terminated : List κ

namespace SessionSet

/-- `hev_socks5_tunnel_insert_session`. -/
def insertSession (max : Nat) (self : SessionSet κ) (node : κ) : SessionSet κ :=
  let self := { self with list := self.list.addTail node, count := self.count + 1 }
  if max = 0 ∨ self.count < max then self
  else { self with terminated := self.terminated ++ self.list.head.toList }

theorem insertSession_list (max : Nat) (self : SessionSet κ) (node : κ) :
    (self.insertSession max node).list = self.list.addTail node := by
  unfold insertSession
  dsimp only
  split <;> rfl

theorem insertSession_count (max : Nat) (self : SessionSet κ) (node : κ) :
    (self.insertSession max node).count = self.count + 1 := by
  unfold insertSession
  dsimp only
  split <;> rfl

/-- `hev_socks5_tunnel_delete_session`. -/
def deleteSession (self : SessionSet κ) (node : κ) : SessionSet κ :=
  { self with list := self.list.del node, count := self.count - 1 }

/-- `hev_socks5_tunnel_update_session`. -/
def updateSession (max : Nat) (self : SessionSet κ) (node : κ) : SessionSet κ :=
  if max = 0 then self
  else { self with list := (self.list.del node).addTail node }

end SessionSet

/-- Which sessions there are, and when each did something last. -/
structure Activity (κ : Type) where
  present : Finset κ
  clock : Nat
  lastActive : κ → Nat

/-- A session does something. -/
def Activity.touch (activity : Activity κ) (node : κ) : Activity κ :=
  { activity with
    clock := activity.clock + 1
    lastActive := Function.update activity.lastActive node (activity.clock + 1) }

structure Sessions (κ : Type) where
  set : SessionSet κ
  activity : Activity κ

namespace Sessions

inductive Event (κ : Type)
  /-- A connection is accepted, or a datagram comes from a new port. -/
  | insert (node : κ)
  /-- The yielder of a session. -/
  | update (node : κ)
  /-- The task of a session ends. -/
  | delete (node : κ)

def fresh (links : κ → Links κ) : Sessions κ where
  set := ⟨⟨none, none, links⟩, 0, []⟩
  activity := ⟨∅, 0, fun _ => 0⟩

def step (max : Nat) (self : Sessions κ) : Event κ → Option (Sessions κ)
  | .insert node =>
    if node ∉ self.activity.present then
      some {
        set := self.set.insertSession max node
        activity :=
          { self.activity.touch node with present := insert node self.activity.present } }
    else none
  | .update node =>
    if node ∈ self.activity.present then
      some { set := self.set.updateSession max node, activity := self.activity.touch node }
    else none
  | .delete node =>
    if node ∈ self.activity.present then
      some {
        set := self.set.deleteSession node
        activity := { self.activity with present := self.activity.present.erase node } }
    else none

/-- The list holds the sessions there are; where their number matters, the one that was
active last is at its end. -/
structure Holds (max : Nat) (order : List κ) (sessions : Sessions κ) : Prop where
  list : sessions.set.list.Represents order
  present : ∀ node, node ∈ order ↔ node ∈ sessions.activity.present
  count : sessions.set.count = order.length
  clock : ∀ node ∈ order, sessions.activity.lastActive node ≤ sessions.activity.clock
  sorted : max ≠ 0 → order.Pairwise fun older newer =>
    sessions.activity.lastActive older < sessions.activity.lastActive newer

section Step

variable {max : Nat} {order : List κ} {sessions sessions' : Sessions κ}

/-- Who does something comes to the end of an order it is not in. -/
theorem touch_sorted {activity : Activity κ} {node : κ} (hnode : node ∉ order)
    (hclock : ∀ other ∈ order, activity.lastActive other ≤ activity.clock)
    (hsorted : order.Pairwise fun older newer =>
      activity.lastActive older < activity.lastActive newer) :
    (order ++ [node]).Pairwise fun older newer =>
      (activity.touch node).lastActive older < (activity.touch node).lastActive newer := by
  have hothers : ∀ other ∈ order,
      (activity.touch node).lastActive other = activity.lastActive other := by
    intro other hother
    apply Function.update_of_ne
    rintro rfl
    exact hnode hother
  rw [List.pairwise_append]
  refine ⟨?_, List.pairwise_singleton _ _, ?_⟩
  · refine hsorted.imp_of_mem ?_
    intro older newer holder hnewer hless
    rw [hothers older holder, hothers newer hnewer]
    exact hless
  · intro older holder newer hnewer
    obtain rfl := List.mem_singleton.mp hnewer
    rw [hothers older holder, Activity.touch]
    dsimp only
    rw [Function.update_self]
    exact Nat.lt_succ_of_le (hclock older holder)

theorem touch_clock {activity : Activity κ} {node : κ} {nodes : List κ}
    (hclock : ∀ other ∈ nodes, other ≠ node → activity.lastActive other ≤ activity.clock) :
    ∀ other ∈ nodes, (activity.touch node).lastActive other ≤ (activity.touch node).clock := by
  intro other hother
  unfold Activity.touch
  dsimp only
  by_cases hsame : other = node
  · rw [hsame, Function.update_self]
  · rw [Function.update_of_ne hsame]
    exact (hclock other hother hsame).trans (Nat.le_succ _)

theorem insert_holds (hholds : sessions.Holds max order) {node : κ}
    (hnode : node ∉ sessions.activity.present) :
    Holds max (order ++ [node])
      { set := sessions.set.insertSession max node
        activity :=
          { sessions.activity.touch node with
            present := insert node sessions.activity.present } } := by
  have hnew : node ∉ order := fun hmem => hnode ((hholds.present node).mp hmem)
  refine ⟨?_, ?_, ?_, ?_, ?_⟩
  · rw [SessionSet.insertSession_list]
    exact hholds.list.addTail hnew
  · intro other
    rw [List.mem_append, List.mem_singleton, Finset.mem_insert, hholds.present, or_comm]
  · rw [SessionSet.insertSession_count, hholds.count, List.length_append,
      List.length_singleton]
  · apply touch_clock
    intro other hother hnot
    rcases List.mem_append.mp hother with hother | hother
    · exact hholds.clock other hother
    · exact absurd (List.mem_singleton.mp hother) hnot
  · exact fun hmax => touch_sorted hnew hholds.clock (hholds.sorted hmax)

theorem update_holds {front rest : List κ} {node : κ}
    (hholds : sessions.Holds max (front ++ node :: rest)) :
    ∃ order, Holds max order
      { set := sessions.set.updateSession max node, activity := sessions.activity.touch node } := by
  have hclock := hholds.clock
  unfold SessionSet.updateSession
  by_cases hmax : max = 0
  · rw [if_pos hmax]
    refine ⟨_, hholds.list, hholds.present, hholds.count, ?_, fun hnot => absurd hmax hnot⟩
    exact touch_clock fun other hother _ => hclock other hother
  · rw [if_neg hmax]
    have hnode := hholds.list.not_mem
    have hsub : (front ++ rest).Sublist (front ++ node :: rest) :=
      (List.sublist_cons_self node rest).append_left front
    refine ⟨front ++ rest ++ [node], ?_, ?_, ?_, ?_, ?_⟩
    · exact hholds.list.del.addTail hnode
    · intro other
      refine Iff.trans ?_ (hholds.present other)
      simp only [List.mem_append, List.mem_cons]
      tauto
    · change sessions.set.count = _
      rw [hholds.count]
      simp only [List.length_append, List.length_cons, List.length_nil]
      omega
    · apply touch_clock
      intro other hother hnot
      rcases List.mem_append.mp hother with hother | hother
      · exact hclock other (hsub.subset hother)
      · exact absurd (List.mem_singleton.mp hother) hnot
    · exact fun hmax => touch_sorted hnode (fun other hother => hclock other (hsub.subset hother))
        ((hholds.sorted hmax).sublist hsub)

theorem delete_holds {front rest : List κ} {node : κ}
    (hholds : sessions.Holds max (front ++ node :: rest)) :
    Holds max (front ++ rest)
      { set := sessions.set.deleteSession node
        activity :=
          { sessions.activity with present := sessions.activity.present.erase node } } := by
  have hnode := hholds.list.not_mem
  have hsub : (front ++ rest).Sublist (front ++ node :: rest) :=
    (List.sublist_cons_self node rest).append_left front
  refine ⟨hholds.list.del, ?_, ?_, fun other hother => hholds.clock other (hsub.subset hother),
    fun hmax => (hholds.sorted hmax).sublist hsub⟩
  · intro other
    have hother := hholds.present other
    rw [Finset.mem_erase, ← hother]
    simp only [List.mem_append, List.mem_cons] at hnode ⊢
    constructor
    · intro hmem
      refine ⟨?_, by tauto⟩
      rintro rfl
      exact hnode hmem
    · tauto
  · change sessions.set.count - 1 = _
    rw [hholds.count]
    simp only [List.length_append, List.length_cons]
    omega

theorem step_holds {event : Event κ} (hholds : sessions.Holds max order)
    (hstep : sessions.step max event = some sessions') : ∃ order, sessions'.Holds max order := by
  cases event with
  | insert node =>
      obtain ⟨hnode, hstep⟩ := Option.ite_none_right_eq_some.mp hstep
      obtain rfl := Option.some.inj hstep
      exact ⟨_, insert_holds hholds hnode⟩
  | update node =>
      obtain ⟨hnode, hstep⟩ := Option.ite_none_right_eq_some.mp hstep
      obtain rfl := Option.some.inj hstep
      obtain ⟨front, rest, rfl⟩ := List.append_of_mem ((hholds.present node).mpr hnode)
      exact update_holds hholds
  | delete node =>
      obtain ⟨hnode, hstep⟩ := Option.ite_none_right_eq_some.mp hstep
      obtain rfl := Option.some.inj hstep
      obtain ⟨front, rest, rfl⟩ := List.append_of_mem ((hholds.present node).mpr hnode)
      exact ⟨_, delete_holds hholds⟩

end Step

section Run

variable {max : Nat} {links : κ → Links κ} {events : List (Event κ)} {sessions : Sessions κ}

theorem run_holds (hrun : events.foldlM (step max) (fresh links) = some sessions) :
    ∃ order, sessions.Holds max order := by
  refine @Runs.invariant _ _ _ _ _ _ (fun sessions => ∃ order, sessions.Holds max order)
    ?_ ?_ hrun
  · exact ⟨[], ⟨rfl, rfl, trivial, List.nodup_nil⟩, fun _ => by simp [fresh], rfl, by simp,
      by simp⟩
  · rintro before event after ⟨order, hholds⟩ hstep
    exact step_holds hholds hstep

theorem Holds.card {order : List κ} (hholds : sessions.Holds max order) :
    sessions.activity.present.card = order.length := by
  rw [← List.toFinset_card_of_nodup hholds.list.nodup]
  congr 1
  ext node
  rw [List.mem_toFinset, hholds.present]

/-- After any run the counter counts the sessions there are, and the loop of the event task
comes to each of them once and then ends; where their number matters, in the order in which
they were active last. -/
theorem event_task_visits_all
    (hrun : events.foldlM (step max) (fresh links) = some sessions) {fuel : Nat}
    (hfuel : sessions.set.count ≤ fuel) :
    sessions.set.count = sessions.activity.present.card ∧
      (sessions.set.list.walk fuel sessions.set.list.head).Nodup ∧
      (∀ node, node ∈ sessions.set.list.walk fuel sessions.set.list.head ↔
        node ∈ sessions.activity.present) ∧
      (max ≠ 0 → (sessions.set.list.walk fuel sessions.set.list.head).Pairwise
        fun older newer =>
          sessions.activity.lastActive older < sessions.activity.lastActive newer) := by
  obtain ⟨order, hholds⟩ := run_holds hrun
  rw [hholds.count] at hfuel
  have hwalk : sessions.set.list.walk fuel sessions.set.list.head = order := by
    rw [hholds.list.head, HevList.walk_linked hholds.list.linked hfuel]
  rw [hwalk]
  exact ⟨hholds.count.trans hholds.card.symm, hholds.list.nodup, hholds.present, hholds.sorted⟩

theorem event_task_visits_all_two : ∃ sessions : Sessions Nat,
    [.insert 1, .insert 2, .update 1].foldlM (step 3) (fresh fun _ => ⟨none, none⟩) =
        some sessions ∧
      sessions.set.list.walk 2 sessions.set.list.head = [2, 1] ∧
      sessions.set.count = sessions.activity.present.card := by
  have hrun : [Event.insert 1, .insert 2, .update 1].foldlM (step 3)
      (fresh fun _ => ⟨none, none⟩) = some _ := rfl
  have hvisits := event_task_visits_all hrun (Nat.le_refl 2)
  exact ⟨_, hrun, rfl, hvisits.1⟩

/-- A session that comes when there are too many stops exactly one, the one that has done
nothing for the longest time. -/
theorem oldest_session_terminated
    (hrun : events.foldlM (step max) (fresh links) = some sessions) {node : κ}
    {sessions' : Sessions κ} (hstep : sessions.step max (.insert node) = some sessions') :
    (max = 0 ∨ sessions'.activity.present.card < max →
        sessions'.set.terminated = sessions.set.terminated) ∧
      (max ≠ 0 → max ≤ sessions'.activity.present.card →
        ∃ oldest ∈ sessions'.activity.present,
          sessions'.set.terminated = sessions.set.terminated ++ [oldest] ∧
          ∀ other ∈ sessions'.activity.present, other ≠ oldest →
            sessions'.activity.lastActive oldest < sessions'.activity.lastActive other) := by
  obtain ⟨order, hholds⟩ := run_holds hrun
  obtain ⟨hnode, hstep⟩ := Option.ite_none_right_eq_some.mp hstep
  have hholds' := insert_holds hholds hnode
  obtain rfl := Option.some.inj hstep
  have hcard := hholds'.card.trans
    (hholds'.count.symm.trans (SessionSet.insertSession_count max sessions.set node))
  rw [hcard]
  constructor
  · intro hroom
    unfold SessionSet.insertSession
    dsimp only
    rw [if_pos hroom]
  · intro hmax hfull
    have hmany : ¬ (max = 0 ∨ sessions.set.count + 1 < max) := by omega
    have hinserted : sessions.set.insertSession max node =
        { list := sessions.set.list.addTail node
          count := sessions.set.count + 1
          terminated :=
            sessions.set.terminated ++ (sessions.set.list.addTail node).head.toList } := by
      unfold SessionSet.insertSession
      dsimp only
      rw [if_neg hmany]
    have hhead := hholds'.list.head
    have hpresent := hholds'.present
    have hsorted := hholds'.sorted hmax
    have hnonempty : order ++ [node] ≠ [] := by simp
    generalize order ++ [node] = later at *
    cases later with
    | nil => exact absurd rfl hnonempty
    | cons oldest rest =>
        refine ⟨oldest, (hpresent oldest).mp List.mem_cons_self, ?_, ?_⟩
        · rw [hinserted] at hhead ⊢
          dsimp only at hhead ⊢
          rw [hhead]
          rfl
        · intro other hother hnot
          have hlater := (List.mem_cons.mp ((hpresent other).mpr hother)).resolve_left hnot
          exact (List.pairwise_cons.mp hsorted).1 other hlater

theorem oldest_session_terminated_two : ∃ sessions sessions' : Sessions Nat,
    [.insert 1, .insert 2, .update 1].foldlM (step 3) (fresh fun _ => ⟨none, none⟩) =
        some sessions ∧
      sessions.step 3 (.insert 3) = some sessions' ∧ sessions'.set.terminated = [2] ∧
      ∃ oldest ∈ sessions'.activity.present,
        sessions'.set.terminated = sessions.set.terminated ++ [oldest] := by
  have hrun : [Event.insert 1, .insert 2, .update 1].foldlM (step 3)
      (fresh fun _ => ⟨none, none⟩) = some _ := rfl
  obtain ⟨oldest, hpresent, hterminated, _⟩ :=
    (@oldest_session_terminated _ _ _ _ _ _ hrun 3 _ rfl).2 (by decide) (by decide)
  exact ⟨_, _, hrun, rfl, rfl, oldest, hpresent, hterminated⟩

end Run

end Sessions

end AIUnblock
