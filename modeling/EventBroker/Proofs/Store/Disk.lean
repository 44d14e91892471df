/-
What happens in one directory.

All that a store does, it does to names in its directory. As long as that directory is there, whatever is done to names
in it leaves it there; `Disk.Sets` is the effect of a single operation, and the lemmas on `read`, `write`, `rename` and
`removeFile` say when the operation succeeds and what its effect is.
-/
import Mathlib.Data.List.Nodup
import Mathlib.Tactic.Common
import EventBroker.Store.Disk

namespace EventBroker.Disk

variable {d d' : Disk} {dir : Path} {n : String}

/-! ## Finding -/

theorem child_ne_nil (dir : Path) (n : String) : dir ++ [n] ≠ [] := by simp

theorem child_inj {n m : String} : dir ++ [n] = dir ++ [m] ↔ n = m := by simp

theorem node?_child (d : Disk) (dir : Path) (n : String) : d.node? (dir ++ [n]) = d.nodes.find? (dir ++ [n]) := by
  unfold node?
  rw [if_neg (child_ne_nil dir n)]

/-- below a directory there is what the node says, under a name that a file can have -/
theorem walk_child {here : Path} {ns : List String} (h : d.walk here ns = .ok .directory) (n : String) :
    d.walk here (ns ++ [n]) =
      if isName n then (d.node? (here ++ ns ++ [n])).elim (.error .missing) .ok else .error .unusable := by
  induction ns generalizing here with
  | nil =>
    have hnode : d.node? here = some .directory := by
      unfold walk at h
      cases hn : d.node? here with
      | none =>
        rw [hn] at h
        cases h
      | some node =>
        rw [hn] at h
        cases h
        rfl
    simp only [List.nil_append, List.append_nil]
    rw [walk, hnode]
    rfl
  | cons m ns ih =>
    rw [walk] at h
    rw [List.cons_append, walk]
    cases hn : d.node? here with
    | none =>
      rw [hn] at h
      cases h
    | some node =>
      rw [hn] at h
      cases node with
      | file number bytes => cases h
      | directory =>
        dsimp only at h ⊢
        split at h
        · rename_i hm
          rw [if_pos hm, ih h]
          simp only [List.append_assoc, List.singleton_append]
        · cases h

theorem find_child (h : d.find dir = .ok .directory) (n : String) :
    d.find (dir ++ [n]) =
      if isName n then (d.node? (dir ++ [n])).elim (.error .missing) .ok else .error .unusable :=
  walk_child h n

/-- what is found depends on nothing further down -/
theorem walk_congr {here : Path} {ns : List String}
    (h : ∀ p : Path, p.length ≤ here.length + ns.length → d'.node? p = d.node? p) :
    d'.walk here ns = d.walk here ns := by
  induction ns generalizing here with
  | nil =>
    unfold walk
    rw [h here (Nat.le_refl _)]
  | cons m ns ih =>
    have hnext : d'.walk (here ++ [m]) ns = d.walk (here ++ [m]) ns := by
      refine ih fun p hp => h p ?_
      simp only [List.length_append, List.length_cons, List.length_nil] at hp ⊢
      omega
    unfold walk
    rw [h here (Nat.le_add_right _ _), hnext]

/-! ## Effects -/

/-- a name in a directory gets this node or loses its own, and everything else stays -/
structure Sets (d d' : Disk) (dir : Path) (n : String) (node : Option Node) : Prop where
  locks : d'.locks = d.locks
  nodes : ∀ p, d'.node? p = if p = dir ++ [n] then node else d.node? p

namespace Sets

variable {node : Option Node}

theorem find_eq (h : Sets d d' dir n node) : d'.find dir = d.find dir := by
  refine walk_congr fun p hp => ?_
  rw [h.nodes, if_neg]
  rintro rfl
  simp only [List.length_append, List.length_cons, List.length_nil] at hp
  omega

theorem node?_self (h : Sets d d' dir n node) : d'.node? (dir ++ [n]) = node := by rw [h.nodes, if_pos rfl]

theorem node?_of_ne (h : Sets d d' dir n node) {m : String} (hm : m ≠ n) :
    d'.node? (dir ++ [m]) = d.node? (dir ++ [m]) := by
  rw [h.nodes, if_neg]
  exact fun heq => hm (child_inj.1 heq)

end Sets

theorem sets_insert (node : Node) (nextNumber : Nat) :
    Sets d { d with nodes := d.nodes.insert (dir ++ [n]) node, nextNumber } dir n (some node) := by
  refine ⟨rfl, fun p => ?_⟩
  unfold node?
  split
  · rename_i hp
    rw [hp, if_neg (child_ne_nil dir n).symm]
  · exact Table.find?_insert _ _ _ _

theorem sets_erase : Sets d { d with nodes := d.nodes.erase (dir ++ [n]) } dir n none := by
  refine ⟨rfl, fun p => ?_⟩
  unfold node?
  split
  · rename_i hp
    rw [hp, if_neg (child_ne_nil dir n).symm]
  · exact Table.find?_erase _ _ _

/-! ## Operations -/

theorem read_child (h : d.find dir = .ok .directory) (hn : isName n = true) :
    d.read (dir ++ [n]) = match d.node? (dir ++ [n]) with
      | some (.file _ bytes) => .ok bytes
      | some .directory => .error .unusable
      | none => .error .missing := by
  unfold read
  rw [find_child h, if_pos hn]
  cases d.node? (dir ++ [n]) with
  | none => rfl
  | some node => cases node <;> rfl

theorem read_child_eq_ok (h : d.find dir = .ok .directory) {bytes : List UInt8} :
    d.read (dir ++ [n]) = .ok bytes ↔
      isName n = true ∧ ∃ number, d.node? (dir ++ [n]) = some (.file number bytes) := by
  by_cases hn : isName n = true
  · rw [read_child h hn]
    cases d.node? (dir ++ [n]) with
    | none => simp
    | some node => cases node <;> simp [hn]
  · have hread : d.read (dir ++ [n]) = .error .unusable := by
      unfold read
      rw [find_child h, if_neg hn]
    rw [hread]
    simp [hn]

theorem read_congr (h : d.find dir = .ok .directory) (h' : d'.find dir = .ok .directory)
    (hnode : d'.node? (dir ++ [n]) = d.node? (dir ++ [n])) : d'.read (dir ++ [n]) = d.read (dir ++ [n]) := by
  unfold read
  rw [find_child h, find_child h', hnode]

theorem parent_child (dir : Path) (n : String) : parent (dir ++ [n]) = dir := List.dropLast_concat

theorem place_child (h : d.find dir = .ok .directory) (hn : isName n = true) :
    d.place (dir ++ [n]) = match d.node? (dir ++ [n]) with
      | some (.file number _) => .ok (some number)
      | some .directory => .error .unusable
      | none => .ok none := by
  unfold place
  rw [parent_child, h, find_child h, if_pos hn]
  cases d.node? (dir ++ [n]) with
  | none => rfl
  | some node => cases node <;> rfl

theorem place_bad_name (h : d.find dir = .ok .directory) (hn : isName n = false) :
    d.place (dir ++ [n]) = .error .unusable := by
  unfold place
  rw [parent_child, h, find_child h, hn]
  rfl

/-- a file is written under a name that no directory has -/
theorem write_child (h : d.find dir = .ok .directory) (hn : isName n = true)
    (hfree : d.node? (dir ++ [n]) ≠ some .directory) (bytes : List UInt8) :
    ∃ number d', d.write (dir ++ [n]) bytes = .ok d' ∧ Sets d d' dir n (some (.file number bytes)) := by
  unfold write
  rw [place_child h hn]
  cases hnode : d.node? (dir ++ [n]) with
  | none => exact ⟨_, _, rfl, sets_insert _ _⟩
  | some node =>
    cases node with
    | directory => exact absurd hnode hfree
    | file number old => exact ⟨_, _, rfl, sets_insert _ _⟩

theorem removeFile_child (h : d.find dir = .ok .directory) (hn : isName n = true) {number : Nat}
    {bytes : List UInt8} (hnode : d.node? (dir ++ [n]) = some (.file number bytes)) :
    ∃ d', d.removeFile (dir ++ [n]) = .ok d' ∧ Sets d d' dir n none := by
  unfold removeFile
  rw [find_child h, if_pos hn, hnode]
  exact ⟨_, rfl, sets_erase⟩

/-- whenever a file is removed, its node goes -/
theorem removeFile_sets (hd : d.removeFile (dir ++ [n]) = .ok d') : Sets d d' dir n none := by
  unfold removeFile at hd
  split at hd
  · cases hd
    exact sets_erase
  · cases hd
  · cases hd

/-- a file takes the place of another one, or a free place -/
theorem rename_child (h : d.find dir = .ok .directory) (hn : isName n = true) {m : String} (hm : isName m = true)
    {number : Nat} {bytes : List UInt8} (hnode : d.node? (dir ++ [n]) = some (.file number bytes))
    (hfree : d.node? (dir ++ [m]) ≠ some .directory) :
    ∃ d₁ d₂, d.rename (dir ++ [n]) (dir ++ [m]) = .ok d₂ ∧ Sets d d₁ dir n none ∧
      Sets d₁ d₂ dir m (some (.file number bytes)) := by
  unfold rename
  rw [find_child h, if_pos hn, hnode, place_child h hm]
  cases hother : d.node? (dir ++ [m]) with
  | none => exact ⟨_, _, rfl, sets_erase, sets_insert _ _⟩
  | some node =>
    cases node with
    | directory => exact absurd hother hfree
    | file number old => exact ⟨_, _, rfl, sets_erase, sets_insert _ _⟩

theorem nameIn?_eq_some {p : Path} : nameIn? dir p = some n ↔ p = dir ++ [n] := by
  unfold nameIn?
  constructor
  · intro h
    split at h
    · rename_i m hm
      obtain ⟨q, rfl⟩ := List.getLast?_eq_some_iff.1 hm
      rw [List.dropLast_concat] at h
      split at h
      · rename_i hq
        cases h
        rw [hq]
      · cases h
    · cases h
  · rintro rfl
    simp

/-- the names in a directory are those that have nodes -/
theorem names_child (h : d.find dir = .ok .directory) :
    ∃ ns, d.names dir = .ok ns ∧ ns.Nodup ∧ ∀ n, n ∈ ns ↔ d.node? (dir ++ [n]) ≠ none := by
  refine ⟨_, by unfold names; rw [h], ?_, fun n => ?_⟩
  · rw [(List.mergeSort_perm _ _).nodup_iff]
    refine List.Nodup.filterMap (fun p q m hp hq => ?_) d.nodes.nodup
    rw [nameIn?_eq_some.1 hp, nameIn?_eq_some.1 hq]
  · rw [List.mem_mergeSort, List.mem_filterMap, node?_child, Option.ne_none_iff_exists']
    constructor
    · rintro ⟨p, hp, hname⟩
      rw [nameIn?_eq_some.1 hname] at hp
      exact Table.mem_keys_iff.1 hp
    · intro hnode
      exact ⟨dir ++ [n], Table.mem_keys_iff.2 hnode, nameIn?_eq_some.2 rfl⟩

end EventBroker.Disk
