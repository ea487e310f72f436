import Mathlib.Data.List.Lex
import Mathlib.Order.Lattice
import Mathlib.Data.List.Basic
import Mathlib.Tactic.Common

/-! # Ordered maps

`std::map` and the members of a JSON object: entries with strictly increasing keys, so that
`begin?` is the entry with the smallest key.
-/

namespace Foundations
set_option autoImplicit false

instance linearOrderUInt8 : LinearOrder UInt8 :=
  { le_refl := fun _ => UInt8.le_refl _
    le_trans := fun _ _ _ => UInt8.le_trans
    le_antisymm := fun _ _ => UInt8.le_antisymm
    le_total := UInt8.le_total
    lt_iff_le_not_ge := fun a b => by simp only [UInt8.lt_iff_toNat_lt, UInt8.le_iff_toNat_le]; omega
    toDecidableLE := inferInstance }

instance linearOrderUInt16 : LinearOrder UInt16 :=
  { le_refl := fun _ => UInt16.le_refl _
    le_trans := fun _ _ _ => UInt16.le_trans
    le_antisymm := fun _ _ => UInt16.le_antisymm
    le_total := UInt16.le_total
    lt_iff_le_not_ge := fun a b => by
      simp only [UInt16.lt_iff_toNat_lt, UInt16.le_iff_toNat_le]; omega
    toDecidableLE := inferInstance }

instance linearOrderUInt32 : LinearOrder UInt32 :=
  { le_refl := fun _ => UInt32.le_refl _
    le_trans := fun _ _ _ => UInt32.le_trans
    le_antisymm := fun _ _ => UInt32.le_antisymm
    le_total := UInt32.le_total
    lt_iff_le_not_ge := fun a b => by
      simp only [UInt32.lt_iff_toNat_lt, UInt32.le_iff_toNat_le]; omega
    toDecidableLE := inferInstance }

structure OrderedMap (K V : Type) [LinearOrder K] where
  entries : List (K × V)
  sorted : entries.Pairwise fun a b => a.1 < b.1

namespace OrderedMap
variable {K V : Type} [LinearOrder K]

/-! ## Inserting into a list of entries -/

def insertEntry (key : K) (value : V) : List (K × V) → List (K × V)
  | [] => [(key, value)]
  | (k, v) :: rest =>
    if key < k then (key, value) :: (k, v) :: rest
    else if key = k then (key, value) :: rest
    else (k, v) :: insertEntry key value rest

def findEntry (key : K) : List (K × V) → Option V
  | [] => none
  | (k, v) :: rest => if key = k then some v else findEntry key rest

theorem mem_insertEntry {key : K} {value : V} {entry : K × V} {entries : List (K × V)}
    (h : entry ∈ insertEntry key value entries) : entry = (key, value) ∨ entry ∈ entries := by
  induction entries with
  | nil => exact Or.inl (List.mem_singleton.mp h)
  | cons head rest ih =>
    obtain ⟨k, v⟩ := head
    unfold insertEntry at h
    split_ifs at h with hlt heq
    · exact List.mem_cons.mp h
    · obtain rfl | h := List.mem_cons.mp h
      · exact Or.inl rfl
      · exact Or.inr (List.mem_cons_of_mem _ h)
    · obtain rfl | h := List.mem_cons.mp h
      · exact Or.inr List.mem_cons_self
      · exact (ih h).imp_right (List.mem_cons_of_mem _)

theorem pairwise_insertEntry (key : K) (value : V) {entries : List (K × V)}
    (h : entries.Pairwise fun a b => a.1 < b.1) :
    (insertEntry key value entries).Pairwise fun a b => a.1 < b.1 := by
  induction entries with
  | nil => exact List.pairwise_singleton _ _
  | cons head rest ih =>
    obtain ⟨k, v⟩ := head
    obtain ⟨above, tail⟩ := List.pairwise_cons.mp h
    unfold insertEntry
    split_ifs with hlt heq
    · refine List.pairwise_cons.mpr ⟨?_, h⟩
      intro entry hm
      obtain rfl | hm := List.mem_cons.mp hm
      · exact hlt
      · exact hlt.trans (above entry hm)
    · subst heq
      exact List.pairwise_cons.mpr ⟨above, tail⟩
    · refine List.pairwise_cons.mpr ⟨?_, ih tail⟩
      intro entry hm
      obtain rfl | hm := mem_insertEntry hm
      · exact lt_of_le_of_ne (not_lt.mp hlt) fun e => heq e.symm
      · exact above entry hm

/-! ## The map -/

def empty : OrderedMap K V := ⟨[], List.Pairwise.nil⟩

def insert (map : OrderedMap K V) (key : K) (value : V) : OrderedMap K V :=
  ⟨insertEntry key value map.entries, pairwise_insertEntry key value map.sorted⟩

def ofList (entries : List (K × V)) : OrderedMap K V :=
  entries.foldl (fun map entry => map.insert entry.1 entry.2) empty

def find? (map : OrderedMap K V) (key : K) : Option V :=
  findEntry key map.entries

def size (map : OrderedMap K V) : ℕ := map.entries.length

def begin? (map : OrderedMap K V) : Option (K × V) := map.entries.head?

def keys (map : OrderedMap K V) : List K := map.entries.map Prod.fst

/-- The keys increase, so none stands twice. -/
theorem keys_nodup (map : OrderedMap K V) : map.keys.Nodup :=
  (List.pairwise_map.mpr map.sorted).imp ne_of_lt

theorem findEntry_insertEntry (key k : K) (value : V) (entries : List (K × V)) :
    findEntry k (insertEntry key value entries) = if k = key then some value else findEntry k entries := by
  induction entries with
  | nil => simp only [insertEntry, findEntry]
  | cons head rest ih =>
    obtain ⟨k', v⟩ := head
    by_cases hlt : key < k'
    · simp only [insertEntry, hlt, if_true, findEntry]
    · by_cases heq : key = k'
      · subst heq
        by_cases hk : k = key <;> simp [insertEntry, findEntry, hk]
      · by_cases hk : k = key
        · subst hk
          simp only [insertEntry, hlt, heq, if_false, findEntry, ih, if_true]
        · simp only [insertEntry, hlt, heq, if_false, findEntry, ih, hk]

theorem find?_insert (map : OrderedMap K V) (key k : K) (value : V) :
    (map.insert key value).find? k = if k = key then some value else map.find? k :=
  findEntry_insertEntry key k value map.entries

/-- `std::map::insert`: a key that is there keeps its value. -/
def insertNew (map : OrderedMap K V) (key : K) (value : V) : OrderedMap K V :=
  if (map.find? key).isSome then map else map.insert key value

theorem find?_insertNew (map : OrderedMap K V) (key k : K) (value : V) :
    (map.insertNew key value).find? k = (map.find? k).or (if k = key then some value else none) := by
  unfold insertNew
  by_cases here : k = key
  · subst here
    cases there : map.find? k with
    | none =>
      rw [if_neg (by simp), find?_insert, if_pos rfl, if_pos rfl]
      rfl
    | some before =>
      rw [if_pos (by rfl), there]
      rfl
  · rw [if_neg here, Option.or_none]
    split_ifs
    · rfl
    · rw [find?_insert, if_neg here]

theorem mem_entries_iff (map : OrderedMap K V) (key : K) (value : V) :
    (key, value) ∈ map.entries ↔ map.find? key = some value := by
  obtain ⟨entries, sorted⟩ := map
  show (key, value) ∈ entries ↔ findEntry key entries = some value
  induction entries with
  | nil => exact iff_of_false List.not_mem_nil (by simp [findEntry])
  | cons entry rest ih =>
    obtain ⟨k, v⟩ := entry
    obtain ⟨above, tail⟩ := List.pairwise_cons.mp sorted
    rw [List.mem_cons, findEntry, ih tail]
    by_cases here : key = k
    · have once : findEntry key rest ≠ some value := fun again =>
        lt_irrefl key (here ▸ above (key, value) ((ih tail).mpr again))
      rw [if_pos here]
      simp only [here, Prod.mk.injEq, true_and, Option.some.injEq] at once ⊢
      exact ⟨fun either => (either.resolve_right once).symm, fun same => .inl same.symm⟩
    · simp [here]

/-- To insert what is there changes nothing. -/
theorem insert_of_find? (map : OrderedMap K V) {key : K} {value : V} (there : map.find? key = some value) :
    map.insert key value = map := by
  obtain ⟨entries, sorted⟩ := map
  have same : insertEntry key value entries = entries := by
    replace there : findEntry key entries = some value := there
    induction entries with
    | nil => cases there
    | cons entry rest ih =>
      obtain ⟨k, v⟩ := entry
      obtain ⟨above, tail⟩ := List.pairwise_cons.mp sorted
      by_cases here : key = k
      · rw [findEntry, if_pos here] at there
        rw [insertEntry, if_neg (by rw [here]; exact lt_irrefl k), if_pos here, here, Option.some.inj there]
      · rw [findEntry, if_neg here] at there
        have behind : ¬ key < k := fun before =>
          absurd (above _ ((mem_entries_iff ⟨rest, tail⟩ key value).mpr there)) (not_lt.mpr (le_of_lt before))
        rw [insertEntry, if_neg behind, if_neg here, ih tail there]
  unfold insert
  simp only [same]

theorem mem_keys_iff (map : OrderedMap K V) (key : K) : key ∈ map.keys ↔ (map.find? key).isSome := by
  unfold keys find?
  induction map.entries with
  | nil => exact iff_of_false List.not_mem_nil (by simp [findEntry])
  | cons entry rest ih =>
    obtain ⟨k, value⟩ := entry
    rw [List.map_cons, List.mem_cons, ih]
    by_cases here : key = k
    · simp [findEntry, here]
    · simp [findEntry, here]

def erase (map : OrderedMap K V) (key : K) : OrderedMap K V :=
  ⟨map.entries.filter fun entry => entry.1 ≠ key, map.sorted.filter _⟩

theorem find?_erase (map : OrderedMap K V) (key k : K) :
    (map.erase key).find? k = if k = key then none else map.find? k := by
  unfold erase find?
  dsimp only
  induction map.entries with
  | nil => simp [findEntry]
  | cons entry rest ih =>
    obtain ⟨k', value⟩ := entry
    rw [List.filter_cons]
    by_cases gone : k' = key
    · rw [if_neg (by simp [gone]), ih]
      by_cases here : k = key
      · rw [if_pos here, if_pos here]
      · rw [if_neg here, if_neg here, findEntry, if_neg (fun same => here (same.trans gone))]
    · rw [if_pos (by simp [gone]), findEntry, findEntry, ih]
      by_cases here : k = k'
      · rw [if_pos here, if_pos here, if_neg (fun same => gone (here.symm.trans same))]
      · rw [if_neg here, if_neg here]

theorem insertEntry_of_above {key : K} {value : V} {entries : List (K × V)}
    (above : ∀ entry ∈ entries, entry.1 < key) : insertEntry key value entries = entries ++ [(key, value)] := by
  induction entries with
  | nil => rfl
  | cons entry rest ih =>
    obtain ⟨first, later⟩ := List.forall_mem_cons.mp above
    rw [insertEntry, if_neg (not_lt_of_gt first), if_neg (ne_of_gt first), ih later]
    rfl

/-- A map is built again from its entries. -/
theorem ofList_entries (map : OrderedMap K V) : ofList map.entries = map := by
  have appends (rest : List (K × V)) : ∀ built : OrderedMap K V,
      (built.entries ++ rest).Pairwise (fun a b => a.1 < b.1) →
      (rest.foldl (fun map entry => map.insert entry.1 entry.2) built).entries = built.entries ++ rest := by
    induction rest with
    | nil => exact fun built _ => (List.append_nil _).symm
    | cons entry rest ih =>
      intro built sorted
      have last : (built.insert entry.1 entry.2).entries = built.entries ++ [entry] := by
        refine insertEntry_of_above fun earlier there => ?_
        exact (List.pairwise_append.mp sorted).2.2 earlier there entry List.mem_cons_self
      have further : (built.entries ++ [entry] ++ rest).Pairwise (fun a b => a.1 < b.1) := by
        rw [List.append_assoc]
        exact sorted
      rw [List.foldl_cons, ih _ (by rw [last]; exact further), last, List.append_assoc]
      rfl
  have same := appends map.entries empty map.sorted
  obtain ⟨entries, sorted⟩ := map
  unfold ofList
  generalize List.foldl _ _ _ = built at same ⊢
  obtain ⟨entries', sorted'⟩ := built
  cases same
  rfl

theorem find?_of_size_zero {map : OrderedMap K V} (h : map.size = 0) (key : K) :
    map.find? key = none := by
  have nil : map.entries = [] := List.length_eq_zero_iff.mp h
  simp only [find?, nil, findEntry]

/-- Inserting into an empty map makes a map of one entry. -/
theorem insert_of_size_zero {map : OrderedMap K V} (h : map.size = 0) (key : K) (value : V) :
    (map.insert key value).entries = [(key, value)] := by
  have nil : map.entries = [] := List.length_eq_zero_iff.mp h
  simp only [insert, nil, insertEntry]

end OrderedMap
end Foundations
