import PropertyGraph.Graph.Entity
import PropertyGraph.Request.Error

/-!
# Order of traversal results

A store lists the nodes it reached and the edges that led to them as two lists of
one length. An answer lists nodes by ascending key and keeps each edge at the place
of its node.

- `keyOrder`: the places of nodes by ascending key, equal keys in their order.
- `readThrough`: a list read in the order of given places, each of which is emptied by that.
- `pairByKey`: both lists read in the same order.
-/

universe u

namespace PropertyGraph

/-- The places of nodes, ordered by the string form of their keys; equal keys keep their
order. -/
def keyOrder (nodes : List Node) : List Nat :=
  (((nodes.map Node.key).zipIdx).mergeSort fun a b => a.1 ≤ b.1).map (·.2)

/-- The items that slots hold at the given places. An item is taken out of its slot, so that
nothing is found there again. -/
def takeThrough {α : Type u} (slots : List (Option α)) : List Nat → List α
  | [] => []
  | i :: places =>
    match slots[i]?.join with
    | some item => item :: takeThrough (slots.set i none) places
    | none => takeThrough slots places

/-- The items at the given places. -/
def readThrough {α : Type u} (items : List α) (places : List Nat) : List α :=
  takeThrough (items.map some) places

/-- Order nodes by key and keep each edge with its node. Lists of different lengths
cannot be paired. -/
def pairByKey (nodes : List Node) (edges : List Edge) :
    Except RequestError (List Node × List Edge) :=
  if nodes.length ≠ edges.length then
    .error (.fetchFailure (.storage ("Traversal returned " ++ decimal nodes.length ++
      " nodes but " ++ decimal edges.length ++ " edges")))
  else .ok (readThrough nodes (keyOrder nodes), readThrough edges (keyOrder nodes))

end PropertyGraph
