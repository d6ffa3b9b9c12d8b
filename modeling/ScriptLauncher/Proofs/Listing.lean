import Mathlib.Data.List.Nodup
import ScriptLauncher.Text.Bytes

namespace ScriptLauncher

namespace Bytes

-- The order in which texts are listed is that of lists of bytes.
theorem le_exact {s t : Bytes} : le s t = true ↔ s ≤ t := by
  induction s generalizing t with
  | nil => simp [le]
  | cons a s ih =>
    cases t with
    | nil => simp [le]
    | cons b t => simp [le,List.cons_le_cons_iff,ih]

theorem lt_of_le {s t : Bytes} (ordered : s ≤ t) (other : s ≠ t) : s < t := by
  by_cases before : s < t
  · exact before
  · exact (other (List.le_antisymm ordered (List.not_lt.mp before))).elim

end Bytes

section

variable {α : Type} (key : α → Bytes)

theorem listed_trans (a b c : α) (ab : Bytes.le (key a) (key b) = true)
    (bc : Bytes.le (key b) (key c) = true) : Bytes.le (key a) (key c) = true := by
  rw [Bytes.le_exact] at ab bc ⊢
  exact List.le_trans ab bc

theorem listed_total (a b : α) : (Bytes.le (key a) (key b) || Bytes.le (key b) (key a)) = true := by
  rw [Bool.or_eq_true,Bytes.le_exact,Bytes.le_exact]
  exact List.le_total _ _

-- Entries with different keys, listed by their keys: each key comes before all later ones.
theorem listed_ascending {entries : List α} (distinct : (entries.map key).Nodup) :
    (entries.mergeSort fun a b => Bytes.le (key a) (key b)).Pairwise
      fun a b => key a < key b := by
  have listed := List.pairwise_mergeSort (listed_trans key) (listed_total key) entries
  have apart : (entries.mergeSort fun a b => Bytes.le (key a) (key b)).Pairwise
      fun a b => key a ≠ key b :=
    List.pairwise_map.mp (((List.mergeSort_perm entries _).map key).nodup_iff.mpr distinct)
  refine (listed.and apart).imp ?_
  rintro a b ⟨ordered,other⟩
  exact Bytes.lt_of_le (Bytes.le_exact.mp ordered) other

theorem ascending_unique {listed other : List α} (same : listed.Perm other)
    (ascending : listed.Pairwise fun a b => key a < key b)
    (again : other.Pairwise fun a b => key a < key b) : listed = other := by
  refine same.eq_of_pairwise ?_ ascending again
  intro a b _ _ before after
  exact (List.lt_irrefl _ (List.lt_trans before after)).elim

-- And there is only one such list, in whatever order the entries come.
theorem listed_unique {entries other : List α} (distinct : (entries.map key).Nodup)
    (same : other.Perm entries) :
    other.mergeSort (fun a b => Bytes.le (key a) (key b)) =
      entries.mergeSort fun a b => Bytes.le (key a) (key b) := by
  have shuffled := (List.mergeSort_perm other fun a b => Bytes.le (key a) (key b)).trans
    (same.trans (List.mergeSort_perm entries fun a b => Bytes.le (key a) (key b)).symm)
  exact ascending_unique key shuffled
    (listed_ascending key ((same.map key).nodup_iff.mpr distinct)) (listed_ascending key distinct)

end

-- A key that stands once is found with its own value.
theorem keyed_exact {α : Type} {entries : List (Bytes × α)} (distinct : (entries.map (·.1)).Nodup)
    {key : Bytes} {value : α} :
    (entries.find? (·.1 == key)).map (·.2) = some value ↔ (key,value) ∈ entries := by
  constructor
  · intro found
    obtain ⟨entry,first,rfl⟩ := Option.map_eq_some_iff.mp found
    have named : entry.1 = key := by simpa using List.find?_some first
    subst named
    exact List.mem_of_find?_eq_some first
  · intro there
    cases first : entries.find? (·.1 == key) with
    | none => simpa using List.find?_eq_none.mp first (key,value) there
    | some other =>
      have named : other.1 = key := by simpa using List.find?_some first
      rw [List.inj_on_of_nodup_map distinct (List.mem_of_find?_eq_some first) there named]
      rfl

end ScriptLauncher
