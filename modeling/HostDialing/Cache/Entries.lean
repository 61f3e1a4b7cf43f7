/-!
# Entries of a cache

The known hosts with their addresses, in the order in which they became known. Hosts are compared
as exact text.
-/

namespace HostDialing

structure Entries where
  list : List (String × List String)

def Entries.empty : Entries := ⟨[]⟩

def Entries.get? (e : Entries) (host : String) : Option (List String) := e.list.lookup host

/-- The addresses that a lookup is answered with: no answer is made of an empty list. -/
def Entries.known? (e : Entries) (host : String) : Option (List String) :=
  (e.get? host).filter fun addresses => !addresses.isEmpty

def Entries.hosts (e : Entries) : List String := e.list.map Prod.fst

def Entries.size (e : Entries) : Nat := e.list.length

/-- Replaces the addresses of a host, if it is known. -/
def Entries.replace (e : Entries) (host : String) (addresses : List String) : Entries :=
  ⟨e.list.map fun entry => if entry.1 = host then (host, addresses) else entry⟩

/-- Makes a host known by these addresses. -/
def Entries.insert (e : Entries) (host : String) (addresses : List String) : Entries :=
  if (e.get? host).isSome then e.replace host addresses else ⟨e.list ++ [(host, addresses)]⟩

theorem Entries.isSome_get?_iff (e : Entries) (host : String) :
    (e.get? host).isSome ↔ host ∈ e.hosts := by
  simp [get?, hosts]

theorem Entries.hosts_replace (e : Entries) (host : String) (addresses : List String) :
    (e.replace host addresses).hosts = e.hosts := by
  simp only [hosts, replace, List.map_map]
  refine List.map_congr_left fun entry _ => ?_
  by_cases h : entry.1 = host <;> simp [h]

theorem Entries.get?_replace (e : Entries) (host other : String) (addresses : List String) :
    (e.replace host addresses).get? other =
      if other = host ∧ host ∈ e.hosts then some addresses else e.get? other := by
  obtain ⟨l⟩ := e
  simp only [get?, hosts, replace]
  induction l with
  | nil => simp
  | cons entry rest ih =>
    obtain ⟨name, old⟩ := entry
    by_cases hn : name = host <;> by_cases ho : other = name <;>
      by_cases hh : other = host <;> grind

theorem Entries.get?_insert (e : Entries) (host other : String) (addresses : List String) :
    (e.insert host addresses).get? other =
      if other = host then some addresses else e.get? other := by
  unfold insert
  split
  · next h =>
    rw [get?_replace]
    simp [(e.isSome_get?_iff host).1 h]
  · next h =>
    have h : e.list.lookup host = none := Option.not_isSome_iff_eq_none.1 h
    simp only [get?, List.lookup_append]
    by_cases ho : other = host
    · simp [ho, h]
    · have hb : (other == host) = false := by simp [ho]
      simp [ho, hb, List.lookup_cons]

end HostDialing
