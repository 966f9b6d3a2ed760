/-!
# Catalogs

A catalog holds values under texts, in ascending order of the texts, each of which stands once. It is
therefore determined by what can be looked up in it.
-/

namespace Lending

structure Catalog (α : Type) where
  entries : List (String × α)
  ascending : entries.Pairwise fun a b => a.1 < b.1

namespace Catalog

variable {α : Type}

theorem ext_entries {c d : Catalog α} (h : c.entries = d.entries) : c = d := by
  cases c; cases d; simp_all

instance [DecidableEq α] : DecidableEq (Catalog α) := fun c d =>
  decidable_of_iff (c.entries = d.entries) ⟨ext_entries, fun h => h ▸ rfl⟩

def empty : Catalog α := ⟨[], .nil⟩

instance : Inhabited (Catalog α) := ⟨empty⟩

def names (c : Catalog α) : List String := c.entries.map (·.1)

def size (c : Catalog α) : Nat := c.entries.length

def find? (c : Catalog α) (name : String) : Option α := c.entries.lookup name

/-- Puts a value under a name into an ascending list, in the place of one that stands there. -/
def insertEntry (name : String) (value : α) : List (String × α) → List (String × α)
  | [] => [(name, value)]
  | (other, held) :: rest =>
    if name < other then (name, value) :: (other, held) :: rest
    else if name = other then (name, value) :: rest
    else (other, held) :: insertEntry name value rest

theorem mem_insertEntry {name : String} {value : α} {entries : List (String × α)}
    {entry : String × α} (h : entry ∈ insertEntry name value entries) :
    entry = (name, value) ∨ entry ∈ entries := by
  induction entries with
  | nil => simpa [insertEntry] using h
  | cons head rest ih =>
    obtain ⟨other, held⟩ := head
    rw [insertEntry] at h
    split at h
    · simpa using h
    · split at h
      · rcases List.mem_cons.1 h with h | h
        · exact Or.inl h
        · exact Or.inr (List.mem_cons_of_mem _ h)
      · rcases List.mem_cons.1 h with h | h
        · exact Or.inr (h ▸ List.mem_cons_self)
        · exact (ih h).imp_right (List.mem_cons_of_mem _)

theorem pairwise_insertEntry {name : String} {value : α} {entries : List (String × α)}
    (h : entries.Pairwise fun a b => a.1 < b.1) :
    (insertEntry name value entries).Pairwise fun a b => a.1 < b.1 := by
  induction entries with
  | nil => simp [insertEntry]
  | cons head rest ih =>
    obtain ⟨other, held⟩ := head
    obtain ⟨hhead, hrest⟩ := List.pairwise_cons.1 h
    rw [insertEntry]
    split
    · rename_i hlt
      refine List.pairwise_cons.2 ⟨fun entry hentry => ?_, h⟩
      rcases List.mem_cons.1 hentry with rfl | hentry
      · exact hlt
      · exact String.lt_trans hlt (hhead entry hentry)
    · rename_i hlt
      split
      · rename_i heq
        exact List.pairwise_cons.2 ⟨fun entry hentry => heq ▸ hhead entry hentry, hrest⟩
      · rename_i hne
        refine List.pairwise_cons.2 ⟨fun entry hentry => ?_, ih hrest⟩
        rcases mem_insertEntry hentry with rfl | hentry
        · have hle : other ≤ name := String.not_lt.1 hlt
          rcases String.le_total name other with hge | hge
          · exact absurd (String.le_antisymm hge hle) hne
          · exact String.not_le.1 fun h => hne (String.le_antisymm h hle)
        · exact hhead entry hentry

/-- Puts a value under a name, in the place of one that stands there. -/
def insert (c : Catalog α) (name : String) (value : α) : Catalog α :=
  ⟨insertEntry name value c.entries, pairwise_insertEntry c.ascending⟩

/-- The catalog of entries given in any order; of those under one name the last one stays. -/
def ofList (entries : List (String × α)) : Catalog α :=
  entries.foldl (fun c entry => c.insert entry.1 entry.2) empty

end Catalog
end Lending
