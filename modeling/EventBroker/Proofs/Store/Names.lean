/-
The names in a store's directory.

A name is cut at its last dot, if something stands on both sides of it (`splitExtension_eq_some`, `splitExtension_of_eq`).
So records, temporary files and the lock file never get in each other's way, whatever the ids, and the id of a record can
be told from the name of its file.
-/
import Mathlib.Data.List.Nodup
import Mathlib.Tactic.Common
import EventBroker.Store.File

namespace EventBroker

/-! ## Extensions -/

/-- what stands behind the last dot, and what stands before it -/
theorem splitExtension_eq_some {name stem ext : String} (h : splitExtension name = (stem, some ext)) :
    name.toList = stem.toList ++ '.' :: ext.toList ∧ '.' ∉ ext.toList ∧ stem.toList ≠ [] := by
  unfold splitExtension at h
  set cs := name.toList with hcs
  set tail := cs.reverse.takeWhile (· != '.') with htail
  dsimp only at h
  split at h
  · cases h
  · rename_i hcond
    simp only [List.length_reverse, Bool.or_eq_true, beq_iff_eq, not_or, List.isEmpty_iff] at hcond
    obtain ⟨⟨-, hstem⟩, hlen⟩ := hcond
    cases h
    have hsplit : tail ++ cs.reverse.dropWhile (· != '.') = cs.reverse := List.takeWhile_append_dropWhile
    -- a dot is left, since not all of the name stands behind the last one
    cases hrest : cs.reverse.dropWhile (· != '.') with
    | nil =>
      rw [hrest, List.append_nil] at hsplit
      rw [← htail, hsplit, List.length_reverse] at hlen
      exact absurd rfl hlen
    | cons c rest =>
      have hdot : c = '.' := by
        have hhead := List.head?_dropWhile_not (· != '.') cs.reverse
        rw [hrest] at hhead
        simpa using hhead
      rw [hrest, hdot] at hsplit
      have hname : cs = rest.reverse ++ '.' :: tail.reverse := by
        have := congrArg List.reverse hsplit
        simpa using this.symm
      have htake : cs.take (cs.length - tail.reverse.length - 1) = rest.reverse := by
        have hcount : cs.length - tail.reverse.length - 1 = rest.reverse.length := by
          rw [hname]
          simp only [List.length_append, List.length_cons, List.length_reverse]
          omega
        rw [hcount]
        conv_lhs => rw [hname]
        exact List.take_left
      rw [List.length_reverse] at htake
      rw [String.toList_ofList, String.toList_ofList, List.length_reverse, htake]
      refine ⟨hname, fun hmem => ?_, ?_⟩
      · have hall := List.all_takeWhile (l := cs.reverse) (p := (· != '.'))
        rw [← htail, List.all_eq_true] at hall
        simpa using hall '.' (List.mem_reverse.1 hmem)
      · rw [← htake]
        simpa [List.length_reverse] using hstem

theorem splitExtension_of_eq {name stem ext : String} (hname : name.toList = stem.toList ++ '.' :: ext.toList)
    (hext : '.' ∉ ext.toList) (hne : ext.toList ≠ []) (hstem : stem.toList ≠ []) :
    splitExtension name = (stem, some ext) := by
  have htail : name.toList.reverse.takeWhile (· != '.') = ext.toList.reverse := by
    rw [hname, List.reverse_append, List.reverse_cons, List.append_assoc, List.takeWhile_append_of_pos]
    · simp
    · intro c hc
      have : c ≠ '.' := fun heq => hext (heq ▸ List.mem_reverse.1 hc)
      simpa using this
  have hcount : name.toList.length - ext.toList.length - 1 = stem.toList.length := by
    rw [hname, List.length_append, List.length_cons]
    omega
  have htake : name.toList.take (name.toList.length - ext.toList.length - 1) = stem.toList := by
    rw [hcount, hname]
    exact List.take_left
  have hdots : (name == "..") = false := by
    rw [beq_eq_false_iff_ne]
    rintro rfl
    have hlen := congrArg List.length hname
    rw [List.length_append, List.length_cons] at hlen
    have h₁ : 0 < stem.toList.length := List.length_pos_iff.2 hstem
    have h₂ : 0 < ext.toList.length := List.length_pos_iff.2 hne
    have h₃ : "..".toList.length = 2 := rfl
    omega
  have hall : (ext.toList.length == name.toList.length) = false := by
    rw [beq_eq_false_iff_ne, hname, List.length_append, List.length_cons]
    omega
  have hempty : stem.toList.isEmpty = false := by simpa using hstem
  unfold splitExtension
  simp only [htail, List.reverse_reverse, htake, hdots, hall, hempty, String.ofList_toList, Bool.or_self,
    Bool.false_eq_true, if_false]

namespace FileStore

/-! ## Records and temporary files -/

theorem recordName_toList (id : String) : (recordName id).toList = id.toList ++ '.' :: recordExtension.toList := by
  simp [recordName, recordExtension]

theorem temporaryName_toList (id : String) :
    (temporaryName id).toList = (recordName id).toList ++ '.' :: temporaryExtension.toList := by
  simp [temporaryName, temporaryExtension]

theorem splitExtension_recordName {id : String} (h : id.toList ≠ []) :
    splitExtension (recordName id) = (id, some recordExtension) :=
  splitExtension_of_eq (recordName_toList id) (by decide) (by decide) h

theorem splitExtension_temporaryName (id : String) :
    splitExtension (temporaryName id) = (recordName id, some temporaryExtension) :=
  splitExtension_of_eq (temporaryName_toList id) (by decide) (by decide) (by rw [recordName_toList]; simp)

theorem splitExtension_lockName : splitExtension lockName = (lockName, none) := by decide

theorem recordName_inj {id id' : String} : recordName id = recordName id' ↔ id = id' := by
  constructor
  · intro h
    have hlist := congrArg String.toList h
    rw [recordName_toList, recordName_toList] at hlist
    exact String.toList_inj.1 (List.append_cancel_right hlist)
  · exact congrArg recordName

theorem temporaryName_ne_recordName {id id' : String} : temporaryName id ≠ recordName id' := by
  intro heq
  have hlist := congrArg String.toList heq
  rw [temporaryName_toList, recordName_toList id'] at hlist
  have hlast := congrArg List.getLast? hlist
  simp [temporaryExtension, recordExtension] at hlast

theorem recordName_ne_lockName {id : String} : recordName id ≠ lockName := by
  intro heq
  have hlist := congrArg String.toList heq
  rw [recordName_toList] at hlist
  have hlast := congrArg List.getLast? hlist
  simp [recordExtension, lockName] at hlast

theorem temporaryName_ne_lockName {id : String} : temporaryName id ≠ lockName := by
  intro heq
  have hlist := congrArg String.toList heq
  rw [temporaryName_toList] at hlist
  have hlast := congrArg List.getLast? hlist
  simp [temporaryExtension, lockName] at hlast

/-- no record counts as a temporary file -/
theorem splitExtension_recordName_ne (id : String) :
    (splitExtension (recordName id)).2 ≠ some temporaryExtension := by
  intro h
  cases hsplit : splitExtension (recordName id) with
  | mk stem ext =>
    rw [hsplit] at h
    cases h
    obtain ⟨hname, -, -⟩ := splitExtension_eq_some hsplit
    rw [recordName_toList] at hname
    have hlast := congrArg List.getLast? hname
    simp [temporaryExtension, recordExtension] at hlast

theorem isName_iff {n : String} :
    Disk.isName n = true ↔ n.utf8ByteSize ≤ Disk.maxNameLength ∧ '\x00' ∉ n.toList := by
  unfold Disk.isName
  rw [Bool.and_eq_true, decide_eq_true_eq, Bool.not_eq_true', ← Bool.not_eq_true, List.contains_iff_mem]

theorem isName_lockName : Disk.isName lockName = true := isName_iff.2 (by decide)

theorem isValidId_ne_nil {id : String} (h : isValidId id = true) : id.toList ≠ [] := by
  intro hnil
  rw [isValidId, hnil] at h
  cases h

/-- the name of a record is shorter than that of its temporary file -/
theorem isName_recordName {id : String} (h : Disk.isName (temporaryName id) = true) :
    Disk.isName (recordName id) = true := by
  rw [isName_iff] at h ⊢
  obtain ⟨hlen, hnul⟩ := h
  constructor
  · refine Nat.le_trans ?_ hlen
    rw [temporaryName, String.utf8ByteSize_append, String.utf8ByteSize_append]
    omega
  · intro hmem
    refine hnul ?_
    rw [temporaryName_toList]
    exact List.mem_append_left _ hmem

/-- a file is the record of an id by its name alone -/
theorem recordId_eq_some {n id : String} :
    (match splitExtension n with
      | (stem, some ext) => if ext == recordExtension then some stem else none
      | (_, none) => none) = some id ↔ n = recordName id ∧ id.toList ≠ [] := by
  constructor
  · intro h
    cases hsplit : splitExtension n with
    | mk stem ext =>
      rw [hsplit] at h
      cases ext with
      | none => cases h
      | some ext =>
        dsimp only at h
        split at h
        · rename_i hext
          cases h
          rw [eq_of_beq hext] at hsplit
          obtain ⟨hname, -, hstem⟩ := splitExtension_eq_some hsplit
          exact ⟨String.toList_inj.1 (hname.trans (recordName_toList id).symm), hstem⟩
        · cases h
  · rintro ⟨rfl, hne⟩
    rw [splitExtension_recordName hne]
    simp

/-- every id has its own record -/
theorem mem_recordIds {names : List String} {id : String} :
    id ∈ recordIds names ↔ recordName id ∈ names ∧ id.toList ≠ [] := by
  unfold recordIds
  rw [List.mem_filterMap]
  constructor
  · rintro ⟨n, hn, hid⟩
    obtain ⟨rfl, hne⟩ := recordId_eq_some.1 hid
    exact ⟨hn, hne⟩
  · rintro ⟨hmem, hne⟩
    exact ⟨recordName id, hmem, recordId_eq_some.2 ⟨rfl, hne⟩⟩

theorem recordIds_nodup {names : List String} (h : names.Nodup) : (recordIds names).Nodup := by
  refine List.Nodup.filterMap (fun n m id hn hm => ?_) h
  rw [(recordId_eq_some.1 hn).1, (recordId_eq_some.1 hm).1]

end FileStore

end EventBroker
