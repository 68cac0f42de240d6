import FatCrabTrading.Calls
import Mathlib.Data.List.AList

/-! # Stored data of the purse

The purse's store is a table of allocations by funds id, with the network and the
last known height.
-/

namespace FatCrabTrading

/-- `PurseDataStore`. -/
structure PurseData where
  network : Network
  height : ℕ
  allocatedFunds : AList fun _ : Uuid => ℕ

namespace PurseData

/-- `PurseData::new`, when there is no file to restore from. -/
def new (network : Network) (height : ℕ) : PurseData := ⟨network, height, ∅⟩

/-- The exact sum of all allocations. -/
def allocated (data : PurseData) : ℕ := (data.allocatedFunds.entries.map Sigma.snd).sum

def totalFundsAllocated (overflowChecks : Bool) (data : PurseData) : Option ℕ :=
  u64 overflowChecks data.allocated

def getAllocatedFunds (uuid : Uuid) (data : PurseData) : Option ℕ :=
  data.allocatedFunds.lookup uuid

def setHeight (height : ℕ) (data : PurseData) : PurseData := { data with height := height }

def allocateFunds (uuid : Uuid) (amount : ℕ) (height : Option ℕ) (data : PurseData) :
    PurseData :=
  { data with
    allocatedFunds := data.allocatedFunds.insert uuid amount
    height := height.getD data.height }

/-- `deallocate_funds`; what was removed is the earlier `getAllocatedFunds`. -/
def deallocateFunds (uuid : Uuid) (height : Option ℕ) (data : PurseData) : PurseData :=
  { data with
    allocatedFunds := data.allocatedFunds.erase uuid
    height := height.getD data.height }

section Lemmas

variable (data : PurseData) (uuid other : Uuid) (amount number : ℕ) (height : Option ℕ)

@[simp] theorem getAllocatedFunds_new (network : Network) :
    (new network number).getAllocatedFunds uuid = none :=
  AList.lookup_empty uuid

@[simp] theorem getAllocatedFunds_setHeight :
    (data.setHeight number).getAllocatedFunds uuid = data.getAllocatedFunds uuid := rfl

theorem getAllocatedFunds_allocateFunds :
    (data.allocateFunds uuid amount height).getAllocatedFunds other =
      if other = uuid then some amount else data.getAllocatedFunds other := by
  unfold getAllocatedFunds allocateFunds
  split
  next h =>
    subst h
    exact AList.lookup_insert _
  next h => exact AList.lookup_insert_ne h

theorem getAllocatedFunds_deallocateFunds :
    (data.deallocateFunds uuid height).getAllocatedFunds other =
      if other = uuid then none else data.getAllocatedFunds other := by
  unfold getAllocatedFunds deallocateFunds
  split
  next h =>
    subst h
    exact AList.lookup_erase _ _
  next h => exact AList.lookup_erase_ne h

@[simp] theorem allocated_setHeight : (data.setHeight number).allocated = data.allocated := rfl

@[simp] theorem network_setHeight : (data.setHeight number).network = data.network := rfl

@[simp] theorem network_allocateFunds :
    (data.allocateFunds uuid amount height).network = data.network := rfl

@[simp] theorem network_deallocateFunds :
    (data.deallocateFunds uuid height).network = data.network := rfl

variable {data uuid amount}

/-- An id in the table has one entry, which is what removing the id takes out. -/
theorem entries_deallocateFunds (hfound : data.getAllocatedFunds uuid = some amount) :
    ∃ before after, data.allocatedFunds.entries = before ++ ⟨uuid, amount⟩ :: after ∧
      (data.deallocateFunds uuid height).allocatedFunds.entries = before ++ after := by
  have hmem : uuid ∈ data.allocatedFunds := by
    apply AList.lookup_isSome.mp
    unfold getAllocatedFunds at hfound
    rw [hfound]
    rfl
  obtain ⟨found, before, after, hbefore, hentries, herased⟩ := List.exists_of_kerase hmem
  have hamount : found = amount := by
    unfold getAllocatedFunds AList.lookup at hfound
    rw [hentries, List.dlookup_append, List.dlookup_eq_none.mpr hbefore] at hfound
    simpa using hfound
  rw [hamount] at hentries
  exact ⟨before, after, hentries, herased⟩

/-- Removing an id takes its amount from the total. -/
theorem allocated_deallocateFunds (hfound : data.getAllocatedFunds uuid = some amount) :
    data.allocated = (data.deallocateFunds uuid height).allocated + amount := by
  obtain ⟨before, after, hentries, hafter⟩ := entries_deallocateFunds height hfound
  unfold allocated
  rw [hafter, hentries]
  simp
  omega

/-- Removing an id that is not there changes no amount. -/
theorem allocated_deallocateFunds_of_none (hnone : data.getAllocatedFunds uuid = none) :
    (data.deallocateFunds uuid height).allocated = data.allocated := by
  have hnot : uuid ∉ data.allocatedFunds.keys := AList.lookup_eq_none.mp hnone
  unfold allocated deallocateFunds
  have herase : (data.allocatedFunds.erase uuid).entries = data.allocatedFunds.entries :=
    List.kerase_of_notMem_keys hnot
  rw [herase]

theorem allocated_deallocateFunds_le (data : PurseData) (uuid : Uuid) (height : Option ℕ) :
    (data.deallocateFunds uuid height).allocated ≤ data.allocated := by
  cases hlookup : data.getAllocatedFunds uuid with
  | none => exact (allocated_deallocateFunds_of_none height hlookup).le
  | some amount =>
      rw [allocated_deallocateFunds height hlookup]
      exact Nat.le_add_right _ _

/-- An id that is already there is replaced, so the total is at most the sum. -/
theorem allocated_allocateFunds_le (data : PurseData) (uuid : Uuid) (amount : ℕ)
    (height : Option ℕ) :
    (data.allocateFunds uuid amount height).allocated ≤ data.allocated + amount := by
  have hentries : (data.allocateFunds uuid amount height).allocated =
      amount + (data.deallocateFunds uuid height).allocated := by
    unfold allocated allocateFunds deallocateFunds
    rw [AList.entries_insert]
    rfl
  rw [hentries, Nat.add_comm]
  exact Nat.add_le_add_right (allocated_deallocateFunds_le data uuid height) amount

end Lemmas

end PurseData

end FatCrabTrading
