import LayeredConfig.Path.Document
import Mathlib.Data.List.Forall2

/-!
# Places in documents

A path is read against a document: the same segment is a key in an object and an index in an array.
A place keeps what was meant. Following a path is going to the one place that it reads as, and two
places that read as one path only part where an object stands against an array.
-/
set_option autoImplicit false

namespace LayeredConfig

/-- One hop down a document: to a member of an object, or to an item of an array. -/
inductive Hop where
  | member (key : String)
  | item (index : Nat)
deriving DecidableEq, Repr

/-- Whether a segment of a path means a hop, in the container that the hop is for. -/
def Hop.Reads : Hop → String → Prop
  | .member key, segment => segment = key
  | .item index, segment => Path.index? segment = some index

def Hop.Agrees : Hop → Hop → Prop
  | .member key, .member other => key = other
  | .item index, .item other => index = other
  | _, _ => True

theorem hop_agrees_refl (hop : Hop) : hop.Agrees hop := by
  cases hop <;> rfl

theorem hop_agrees_of_reads (first second : Hop) (segment : String)
    (firstReads : first.Reads segment) (secondReads : second.Reads segment) :
    first.Agrees second := by
  cases first <;> cases second <;> simp_all [Hop.Reads, Hop.Agrees]

theorem place_agrees_refl (place : List Hop) : List.Forall₂ Hop.Agrees place place :=
  List.forall₂_same.2 fun hop _ => hop_agrees_refl hop

theorem place_agrees_of_reads (first second : List Hop) (keys : List String)
    (firstReads : List.Forall₂ Hop.Reads first keys)
    (secondReads : List.Forall₂ Hop.Reads second keys) :
    List.Forall₂ Hop.Agrees first second := by
  induction firstReads generalizing second with
  | nil =>
      cases secondReads
      exact List.Forall₂.nil
  | cons head tail ih =>
      cases secondReads with
      | cons otherHead otherTail =>
          exact List.Forall₂.cons (hop_agrees_of_reads _ _ _ head otherHead) (ih _ otherTail)

namespace Json

def below? : Hop → Json → Option Json
  | .member key, .object members => Members.find? key members
  | .item index, .array items => items[index]?
  | _, _ => none

def at? : List Hop → Json → Option Json
  | [], node => some node
  | hop :: rest, node => (below? hop node).bind (at? rest)

@[simp] theorem at_nil (node : Json) : at? [] node = some node := rfl

@[simp] theorem at_cons (hop : Hop) (rest : List Hop) (node : Json) :
    at? (hop :: rest) node = (below? hop node).bind (at? rest) := rfl

/-- Another reading of a place goes through an object by the same key. -/
theorem at_object (key : String) (rest other : List Hop) (members : List (String × Json)) (held : Json)
    (agrees : List.Forall₂ Hop.Agrees (.member key :: rest) other)
    (reached : at? other (.object members) = some held) :
    ∃ others below, Members.find? key members = some below ∧
      List.Forall₂ Hop.Agrees rest others ∧ at? others below = some held := by
  obtain ⟨otherHop, others, head, tail, rfl⟩ := List.forall₂_cons_left_iff.1 agrees
  obtain ⟨below, down, heldBelow⟩ := Option.bind_eq_some_iff.1 reached
  cases otherHop with
  | item index => cases down
  | member otherKey =>
      obtain rfl : key = otherKey := head
      exact ⟨others, below, down, tail, heldBelow⟩

theorem at_array (index : Nat) (rest other : List Hop) (items : List Json) (held : Json)
    (agrees : List.Forall₂ Hop.Agrees (.item index :: rest) other)
    (reached : at? other (.array items) = some held) :
    ∃ others below, items[index]? = some below ∧
      List.Forall₂ Hop.Agrees rest others ∧ at? others below = some held := by
  obtain ⟨otherHop, others, head, tail, rfl⟩ := List.forall₂_cons_left_iff.1 agrees
  obtain ⟨below, down, heldBelow⟩ := Option.bind_eq_some_iff.1 reached
  cases otherHop with
  | member key => cases down
  | item otherIndex =>
      obtain rfl : index = otherIndex := head
      exact ⟨others, below, down, tail, heldBelow⟩

theorem child_eq_ok (path segment : String) (node below : Json) :
    child path node segment = .ok below ↔ ∃ hop : Hop, hop.Reads segment ∧ below? hop node = some below := by
  constructor
  · intro found
    cases node with
    | object members =>
        refine ⟨.member segment, rfl, ?_⟩
        simp only [child] at found
        split at found <;> simp_all [below?]
    | array items =>
        simp only [child] at found
        split at found
        · cases found
        · rename_i index read
          refine ⟨.item index, read, ?_⟩
          split at found <;> simp_all [below?]
    | _ => simp [child] at found
  · intro held
    obtain ⟨hop, reads, found⟩ := held
    cases hop with
    | member key =>
        obtain rfl : segment = key := reads
        cases node <;> simp_all [below?, child]
    | item index =>
        have read : Path.index? segment = some index := reads
        cases node <;> simp_all [below?, child]

theorem follow_eq_ok (path : String) (keys : List String) (document found : Json) :
    document.follow path keys = .ok found ↔
      ∃ place, List.Forall₂ Hop.Reads place keys ∧ at? place document = some found := by
  induction keys generalizing document with
  | nil =>
      constructor
      · intro followed
        cases followed
        exact ⟨[], List.Forall₂.nil, rfl⟩
      · intro otherHeld
        obtain ⟨place, reads, held⟩ := otherHeld
        cases reads
        cases held
        rfl
  | cons segment rest ih =>
      constructor
      · intro followed
        simp only [follow] at followed
        split at followed
        · rename_i below down
          obtain ⟨hop, reads, found⟩ := (child_eq_ok path segment document below).1 down
          obtain ⟨place, restReads, held⟩ := (ih below).1 followed
          exact ⟨hop :: place, List.Forall₂.cons reads restReads, by simpa [found] using held⟩
        · cases followed
      · intro otherHeld
        obtain ⟨place, reads, held⟩ := otherHeld
        cases reads with
        | cons head tail =>
            obtain ⟨below, down, held⟩ := Option.bind_eq_some_iff.1 held
            have led := (child_eq_ok path segment document below).2 ⟨_, head, down⟩
            simp only [follow, led]
            exact (ih below).2 ⟨_, tail, held⟩

theorem place_unique (document : Json) (keys : List String) (first second : List Hop)
    (firstReads : List.Forall₂ Hop.Reads first keys)
    (secondReads : List.Forall₂ Hop.Reads second keys)
    (firstHeld : (at? first document).isSome) (secondHeld : (at? second document).isSome) :
    first = second := by
  induction firstReads generalizing second document with
  | nil =>
      cases secondReads
      rfl
  | @cons hop segment rest keys head tail ih =>
      cases secondReads with
      | @cons other _ others _ otherHead otherTail =>
          have agrees := hop_agrees_of_reads _ _ _ head otherHead
          have same : hop = other := by
            cases document <;> cases hop <;> cases other <;>
              simp_all [below?, Hop.Agrees]
          subst same
          cases down : below? hop document with
          | none => simp [down] at firstHeld
          | some below =>
              rw [ih below others otherTail (by simpa [down] using firstHeld)
                (by simpa [down] using secondHeld)]

end Json

end LayeredConfig
