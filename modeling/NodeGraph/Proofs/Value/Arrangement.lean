import Mathlib.Data.List.Basic
import NodeGraph.Value.Arrangement

/-!
# Members in another order

However often the table of a set grows, and whatever gives way to what in it, the set lists just the
members that were put in. So `Value.arranged` gives a permutation of the members; which one it gives
is left open here.
-/

namespace NodeGraph

theorem Cell.insert_perm (c : Cell) (cells : List Cell) : (c.insert cells).Perm (c :: cells) := by
  induction cells with
  | nil => exact .refl _
  | cons other more ih =>
      unfold Cell.insert
      split
      · exact .refl _
      · exact (ih.cons other).trans (.swap _ _ _)

namespace HashTable

variable {t : HashTable}

theorem members_put (t : HashTable) (hash : Nat) (v : Value) :
    (t.put hash v).members.Perm (v :: t.members) :=
  (Cell.insert_perm _ t.cells).map Cell.member

theorem members_foldl_put (cells : List Cell) (t : HashTable) :
    (cells.foldl (fun table c => table.put c.hash c.member) t).members.Perm
      (t.members ++ cells.map (·.member)) := by
  induction cells generalizing t with
  | nil => simp
  | cons c cells ih =>
      rw [List.foldl_cons, List.map_cons]
      exact (ih _).trans (((members_put t c.hash c.member).append_right _).trans
        List.perm_middle.symm)

theorem members_grown (t : HashTable) (least : Nat) : (t.grown least).members.Perm t.members :=
  members_foldl_put t.cells (withMore least)

theorem members_add (t : HashTable) (hash : Nat) (v : Value) :
    (t.add hash v).members.Perm (v :: t.members) := by
  unfold add
  dsimp only
  split
  · exact members_put t hash v
  · exact (members_grown _ _).trans (members_put t hash v)

theorem members_foldl_add (hashed : List (Nat × Value)) (t : HashTable) :
    (hashed.foldl (fun table (hash, v) => table.add hash v) t).members.Perm
      (t.members ++ hashed.map Prod.snd) := by
  induction hashed generalizing t with
  | nil => simp
  | cons entry hashed ih =>
      rw [List.foldl_cons, List.map_cons]
      exact (ih _).trans (((members_add t entry.1 entry.2).append_right _).trans
        List.perm_middle.symm)

end HashTable

namespace Value

variable {members : List Value}

theorem map_snd_of_hashed? {hashed : List (Nat × Value)} (h : hashed? members = some hashed) :
    hashed.map Prod.snd = members := by
  induction members generalizing hashed with
  | nil =>
      obtain rfl := Option.some.inj h
      rfl
  | cons v members ih =>
      rw [hashed?] at h
      split at h
      · rename_i hash rest _ hrest
        obtain rfl := Option.some.inj h
        rw [List.map_cons, ih hrest]
      · cases h

theorem arranged_perm (least : Nat) (members : List Value) :
    (arranged least members).Perm members := by
  unfold arranged
  split
  · rename_i hashed hmembers
    rw [← map_snd_of_hashed? hmembers]
    exact HashTable.members_foldl_add hashed (.withMore least)
  · exact .refl _

end Value

end NodeGraph
