import Mathlib.Data.List.Nodup
import Mathlib.Logic.Function.Basic

/-! # Doubly linked lists in a memory

The nodes hold their own links, and a list is its first and its last node. A list of nodes
is represented when the links lead through it both ways.
-/

namespace LinkedList

variable {κ : Type}

/-- The links of a node. -/
structure Links (κ : Type) where
  prev : Option κ
  next : Option κ

/-- A stretch of nodes between two ends that are given by their neighbours. -/
def Linked (links : κ → Links κ) (before : Option κ) : List κ → Option κ → Prop
  | [], _ => True
  | node :: rest, after =>
    (links node).prev = before ∧ (links node).next = rest.head?.or after ∧
      Linked links (some node) rest after

variable {links links' : κ → Links κ} {before after : Option κ}

theorem Linked.congr {nodes : List κ} (hsame : ∀ node ∈ nodes, links' node = links node)
    (hlinked : Linked links before nodes after) : Linked links' before nodes after := by
  induction nodes generalizing before with
  | nil => trivial
  | cons node rest ih =>
      obtain ⟨hnode, hrest⟩ := List.forall_mem_cons.mp hsame
      obtain ⟨hprev, hnext, hlater⟩ := hlinked
      rw [Linked, hnode]
      exact ⟨hprev, hnext, ih hrest hlater⟩

theorem linked_append {first second : List κ} :
    Linked links before (first ++ second) after ↔
      Linked links before first (second.head?.or after) ∧
        Linked links (first.getLast?.or before) second after := by
  induction first generalizing before with
  | nil => simp [Linked]
  | cons node rest ih =>
      have hlast : (node :: rest).getLast?.or before = rest.getLast?.or (some node) := by
        cases rest with
        | nil => rfl
        | cons other rest => simp [List.getLast?_cons]
      rw [List.cons_append, Linked, Linked, ih, hlast, List.head?_append, Option.or_assoc]
      tauto

theorem linked_singleton {node : κ} :
    Linked links before [node] after ↔ links node = ⟨before, after⟩ := by
  rw [Linked, Linked, List.head?_nil, Option.none_or]
  cases links node
  simp

/-- What follows a stretch is seen by its last node only. -/
theorem linked_concat {nodes : List κ} {node : κ} :
    Linked links before (nodes ++ [node]) after ↔
      Linked links before nodes (some node) ∧ links node = ⟨nodes.getLast?.or before, after⟩ := by
  rw [linked_append, linked_singleton, List.head?_cons, Option.some_or]

section Update

variable [DecidableEq κ]

theorem Linked.update {nodes : List κ} {node : κ} (hnode : node ∉ nodes) (link : Links κ)
    (hlinked : Linked links before nodes after) :
    Linked (Function.update links node link) before nodes after := by
  apply hlinked.congr
  intro other hother
  apply Function.update_of_ne
  rintro rfl
  exact hnode hother

/-- The last node of a stretch leads somewhere else. -/
theorem Linked.setLast {nodes : List κ} {node : κ} {after' : Option κ} (hnode : node ∉ nodes)
    (hlinked : Linked links before (nodes ++ [node]) after) :
    Linked (Function.update links node { links node with next := after' }) before
      (nodes ++ [node]) after' := by
  obtain ⟨hnodes, hlast⟩ := linked_concat.mp hlinked
  refine linked_concat.mpr ⟨hnodes.update hnode _, ?_⟩
  rw [Function.update_self, hlast]

/-- The first node of a stretch leads back somewhere else. -/
theorem Linked.setFirst {nodes : List κ} {node : κ} {before' : Option κ} (hnode : node ∉ nodes)
    (hlinked : Linked links before (node :: nodes) after) :
    Linked (Function.update links node { links node with prev := before' }) before'
      (node :: nodes) after := by
  obtain ⟨_, hnext, hnodes⟩ := hlinked
  refine ⟨?_, ?_, hnodes.update hnode _⟩
  · rw [Function.update_self]
  · rw [Function.update_self]
    exact hnext

end Update

end LinkedList
