import Mathlib.Data.List.Nodup
import Lending.Proofs.Cache.Lookup

/-!
# The two sides of a cache

A cache keeps its entries by key, and the keys by the number of their insertion. `Consistent` says that the
two tell the same story: the numbers ascend, they are the numbers of the entries, and the next number is
above all of them. Every operation keeps this. The rest may rely on which entries an operation leaves
(`remove_entries` and its like); the numbers follow the entries.
-/

namespace Lending.Cache

variable {κ ν : Type} {c d : Cache κ ν}

/-- Keys and numbers stand in one order, and no more entries are held than there is room for. -/
structure Consistent (c : Cache κ ν) : Prop where
  keys_nodup : (c.entries.map Prod.fst).Nodup
  order_eq : c.order = c.entries.map fun held => (held.2.sequence, held.1)
  ascending : c.entries.Pairwise fun a b => a.2.sequence < b.2.sequence
  sequence_lt : ∀ held ∈ c.entries, held.2.sequence < c.nextSequence
  size_le : c.size ≤ c.capacity
  capacity_pos : 0 < c.capacity

theorem consistent_empty (capacity timeToLive : Nat) :
    (empty capacity timeToLive : Cache κ ν).Consistent := by
  refine ⟨?_, rfl, .nil, ?_, Nat.zero_le _, Nat.le_max_right capacity 1⟩
  · simp [empty]
  · simp [empty]

theorem Consistent.eq_of_key_eq (h : c.Consistent) {a b : κ × Entry ν} (ha : a ∈ c.entries)
    (hb : b ∈ c.entries) (hkey : a.1 = b.1) : a = b :=
  List.inj_on_of_nodup_map h.keys_nodup ha hb hkey

theorem Consistent.eq_of_sequence_eq (h : c.Consistent) {a b : κ × Entry ν} (ha : a ∈ c.entries)
    (hb : b ∈ c.entries) (hsequence : a.2.sequence = b.2.sequence) : a = b := by
  have hnodup : (c.entries.map fun held => held.2.sequence).Nodup :=
    List.pairwise_map.2 (h.ascending.imp fun hlt => Nat.ne_of_lt hlt)
  exact List.inj_on_of_nodup_map hnodup ha hb hsequence

/-- Entries may be taken out of a consistent cache, as long as their numbers go too. -/
theorem Consistent.of_sublist (h : c.Consistent) (hsetup : SameSetup c d)
    (hentries : d.entries.Sublist c.entries)
    (horder : d.order = d.entries.map fun held => (held.2.sequence, held.1)) : d.Consistent where
  keys_nodup := h.keys_nodup.sublist (hentries.map _)
  order_eq := horder
  ascending := h.ascending.sublist hentries
  sequence_lt held hheld := hsetup.nextSequence ▸ h.sequence_lt held (hentries.subset hheld)
  size_le := hsetup.capacity ▸ Nat.le_trans hentries.length_le h.size_le
  capacity_pos := hsetup.capacity ▸ h.capacity_pos

theorem Consistent.clear (h : c.Consistent) : c.clear.Consistent :=
  h.of_sublist ⟨rfl, rfl, rfl⟩ (List.nil_sublist _) rfl

variable [DecidableEq κ] {key : κ}

/-! ### Removing -/

theorem Consistent.remove_order (h : c.Consistent) (key : κ) :
    (c.remove key).order = (c.remove key).entries.map fun held => (held.2.sequence, held.1) := by
  rw [remove_entries]
  unfold remove
  split
  · rename_i e hsome
    have hmem := mem_of_find? hsome
    rw [h.order_eq, List.filter_map]
    refine congrArg _ (List.filter_congr fun held hheld => ?_)
    by_cases hkey : held.1 = key
    · have heq : held = (key, e) := h.eq_of_key_eq hheld hmem hkey
      simp [heq]
    · have hsequence : held.2.sequence ≠ e.sequence := by
        intro hsequence
        have heq : held = (key, e) := h.eq_of_sequence_eq hheld hmem hsequence
        exact hkey (congrArg Prod.fst heq)
      rw [Function.comp_apply, bne_iff_ne.2 hsequence, bne_iff_ne.2 hkey]
  · rename_i hnone
    rw [h.order_eq, List.filter_eq_self.2 fun held hheld => by
      simpa using find?_eq_none_iff.1 hnone held hheld]

theorem Consistent.remove (h : c.Consistent) (key : κ) : (c.remove key).Consistent := by
  refine h.of_sublist (remove_sameSetup c key) ?_ (h.remove_order key)
  rw [remove_entries]
  exact List.filter_sublist

theorem Consistent.get (h : c.Consistent) (key : κ) (now : Nat) : (c.get key now).2.Consistent := by
  unfold Cache.get
  split
  · split
    · exact h
    · exact h.remove key
  · exact h

/-! ### Making room -/

theorem Consistent.dropOldest_eq (h : c.Consistent) :
    c.dropOldest = (c.entries.head?.map Prod.fst,
      { c with
        entries := c.entries.tail
        order := c.entries.tail.map fun held => (held.2.sequence, held.1) }) := by
  have horder := h.order_eq
  have hnodup := h.keys_nodup
  obtain ⟨entries, order, next, capacity, timeToLive⟩ := c
  cases entries with
  | nil =>
      have hnil : order = [] := horder
      rw [hnil]
      rfl
  | cons head rest =>
      have hcons : order = (head.2.sequence, head.1) :: rest.map fun held => (held.2.sequence, held.1) :=
        horder
      rw [List.map_cons, List.nodup_cons] at hnodup
      have hrest : (head :: rest).filter (fun held => held.1 != head.1) = rest := by
        rw [List.filter_cons_of_neg (by simp), List.filter_eq_self]
        intro held hheld
        have hne : held.1 ≠ head.1 := fun heq =>
          hnodup.1 (heq ▸ List.mem_map_of_mem (f := Prod.fst) hheld)
        simpa using hne
      simp only [dropOldest, hcons, hrest, List.head?_cons, Option.map_some, List.tail_cons]

theorem Consistent.dropOldest (h : c.Consistent) : c.dropOldest.2.Consistent := by
  rw [h.dropOldest_eq]
  exact h.of_sublist ⟨rfl, rfl, rfl⟩ (List.tail_sublist _) rfl

theorem Consistent.makeRoom (h : c.Consistent) (key : κ) : (c.makeRoom key).2.Consistent := by
  unfold Cache.makeRoom
  split
  · exact h.remove key
  · split
    · exact h.dropOldest
    · exact h

theorem Consistent.size_makeRoom_lt (h : c.Consistent) (key : κ) :
    (c.makeRoom key).2.size < c.capacity := by
  have hsize := h.size_le
  have hpos := h.capacity_pos
  unfold Cache.makeRoom
  split
  · rename_i hpresent
    obtain ⟨e, he⟩ := Option.isSome_iff_exists.1 hpresent
    refine Nat.lt_of_lt_of_le ?_ hsize
    rw [size, size, remove_entries]
    exact List.length_filter_lt_length_iff_exists.2 ⟨(key, e), mem_of_find? he, by simp⟩
  · split
    · rw [h.dropOldest_eq]
      simp only [size, List.length_tail] at hsize ⊢
      omega
    · rename_i hroom
      exact Nat.lt_of_not_le hroom

theorem Consistent.insert (h : c.Consistent) (key : κ) (value : ν) (now : Nat) :
    (c.insert key value now).2.Consistent := by
  have hroom := h.makeRoom key
  have hsize := h.size_makeRoom_lt key
  have hcapacity := (makeRoom_sameSetup c key).capacity
  constructor
  · simp only [Cache.insert, List.map_append, List.map_cons, List.map_nil]
    refine List.nodup_append.2 ⟨hroom.keys_nodup, by simp, ?_⟩
    intro other hother fresh hfresh
    obtain ⟨held, hheld, rfl⟩ := List.mem_map.1 hother
    rw [List.mem_singleton.1 hfresh]
    exact find?_eq_none_iff.1 (find?_makeRoom_self c key) held hheld
  · simp only [Cache.insert, List.map_append, List.map_cons, List.map_nil, hroom.order_eq]
  · simp only [Cache.insert]
    refine List.pairwise_append.2 ⟨hroom.ascending, by simp, ?_⟩
    intro held hheld fresh hfresh
    rw [List.mem_singleton.1 hfresh]
    exact hroom.sequence_lt held hheld
  · intro held hheld
    simp only [Cache.insert] at hheld ⊢
    rcases List.mem_append.1 hheld with hheld | hfresh
    · exact Nat.lt_succ_of_lt (hroom.sequence_lt held hheld)
    · rw [List.mem_singleton.1 hfresh]
      exact Nat.lt_succ_self _
  · simp only [Cache.insert, size, List.length_append, List.length_singleton] at hsize ⊢
    omega
  · simp only [Cache.insert]
    exact hroom.capacity_pos

/-! ### Purging -/

theorem foldl_remove_entries (c : Cache κ ν) (keys : List κ) :
    (keys.foldl Cache.remove c).entries = c.entries.filter fun held => !keys.contains held.1 := by
  induction keys generalizing c with
  | nil => simp
  | cons key keys ih =>
      rw [List.foldl_cons, ih, remove_entries, List.filter_filter]
      refine List.filter_congr fun held _ => ?_
      by_cases hkey : held.1 = key
      · simp [hkey]
      · simp [hkey, bne]

theorem find?_of_foldl_remove {keys : List κ} {e : Entry ν}
    (h : (keys.foldl Cache.remove c).find? key = some e) : c.find? key = some e := by
  induction keys generalizing c with
  | nil => exact h
  | cons removed keys ih => exact find?_of_remove (ih h)

theorem foldl_remove_sameSetup (c : Cache κ ν) (keys : List κ) :
    SameSetup c (keys.foldl Cache.remove c) := by
  induction keys generalizing c with
  | nil => exact .refl c
  | cons key keys ih =>
      obtain ⟨hnext, hcapacity, htime⟩ := remove_sameSetup c key
      obtain ⟨hnext', hcapacity', htime'⟩ := ih (c.remove key)
      exact ⟨hnext'.trans hnext, hcapacity'.trans hcapacity, htime'.trans htime⟩

theorem Consistent.foldl_remove (h : c.Consistent) (keys : List κ) :
    (keys.foldl Cache.remove c).Consistent := by
  induction keys generalizing c with
  | nil => exact h
  | cons key keys ih => exact ih (h.remove key)

theorem Consistent.purge (h : c.Consistent) (now : Nat) : (c.purge now).2.Consistent :=
  h.foldl_remove _

theorem purge_sameSetup (c : Cache κ ν) (now : Nat) : SameSetup c (c.purge now).2 :=
  foldl_remove_sameSetup c _

theorem Consistent.purge_entries (h : c.Consistent) (now : Nat) :
    (c.purge now).2.entries = c.entries.filter fun held => c.isFresh now held.2 := by
  simp only [Cache.purge, foldl_remove_entries]
  refine List.filter_congr fun held hheld => ?_
  cases hfresh : c.isFresh now held.2 with
  | false =>
      have hmem : held.1 ∈ (c.entries.filter fun held => !c.isFresh now held.2).map (·.1) :=
        List.mem_map_of_mem (f := (·.1)) (List.mem_filter.2 ⟨hheld, by simp [hfresh]⟩)
      simpa using hmem
  | true =>
      have hnot : held.1 ∉ (c.entries.filter fun held => !c.isFresh now held.2).map (·.1) := by
        intro hmem
        obtain ⟨stale, hstale, hkey⟩ := List.mem_map.1 hmem
        obtain ⟨hstaleMem, hstaleNot⟩ := List.mem_filter.1 hstale
        rw [h.eq_of_key_eq hstaleMem hheld hkey, hfresh] at hstaleNot
        cases hstaleNot
      simpa using hnot

end Lending.Cache
