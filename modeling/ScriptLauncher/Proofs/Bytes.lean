import ScriptLauncher.Text.Bytes

namespace ScriptLauncher.Bytes

theorem splitOn_ne_nil (sep : UInt8) (s : Bytes) : splitOn sep s ≠ [] := by
  cases s with
  | nil => simp [splitOn]
  | cons b s =>
    simp only [splitOn]
    split
    · simp
    · split <;> simp

-- Cutting at a byte loses nothing: that byte between the pieces gives the text back.
theorem join_splitOn (sep : UInt8) (s : Bytes) : join [sep] (splitOn sep s) = s := by
  induction s with
  | nil => rfl
  | cons b s ih =>
    cases pieces : splitOn sep s with
    | nil => exact (splitOn_ne_nil _ _ pieces).elim
    | cons piece rest =>
      rw [pieces] at ih
      by_cases cut : b = sep
      · simp [splitOn,cut,pieces,join,ih]
      · cases rest with
        | nil => simp_all [splitOn,join]
        | cons next rest => simp_all [splitOn,join]

theorem splitOn_free (sep : UInt8) (s : Bytes) : ∀ piece ∈ splitOn sep s, sep ∉ piece := by
  induction s with
  | nil => simp [splitOn]
  | cons b s ih =>
    by_cases cut : b = sep
    · simpa [splitOn,cut] using ih
    · cases pieces : splitOn sep s with
      | nil => exact (splitOn_ne_nil _ _ pieces).elim
      | cons first rest =>
        rw [pieces] at ih
        intro piece present
        simp only [splitOn,beq_iff_eq,cut,if_false,pieces,List.mem_cons] at present
        rcases present with rfl | later
        · have free := ih first (by simp)
          simp [free,Ne.symm cut]
        · exact ih piece (List.mem_cons_of_mem _ later)

theorem splitOn_append (sep : UInt8) (s t : Bytes) :
    splitOn sep (s ++ sep :: t) = splitOn sep s ++ splitOn sep t := by
  induction s with
  | nil => simp [splitOn]
  | cons b s ih =>
    by_cases cut : b = sep
    · simp [splitOn,cut,ih]
    · cases pieces : splitOn sep s with
      | nil => exact (splitOn_ne_nil _ _ pieces).elim
      | cons piece rest => simp [splitOn,cut,ih,pieces]

theorem splitOn_whole {sep : UInt8} {s : Bytes} (free : sep ∉ s) : splitOn sep s = [s] := by
  induction s with
  | nil => rfl
  | cons b s ih =>
    have other : b ≠ sep := fun equal => free (by simp [equal])
    have tail : sep ∉ s := fun present => free (by simp [present])
    simp [splitOn,other,ih tail]

theorem splitOn_join {sep : UInt8} {pieces : List Bytes} (some_ : pieces ≠ [])
    (free : ∀ piece ∈ pieces, sep ∉ piece) : splitOn sep (join [sep] pieces) = pieces := by
  induction pieces with
  | nil => exact (some_ rfl).elim
  | cons piece rest ih =>
    obtain ⟨first,others⟩ := List.forall_mem_cons.mp free
    have whole := splitOn_whole first
    cases rest with
    | nil => simpa [join] using whole
    | cons next rest =>
      have tail := ih (by simp) others
      have glued : join [sep] (piece :: next :: rest) = piece ++ sep :: join [sep] (next :: rest) := by
        simp [join]
      rw [glued,splitOn_append,whole,tail]
      rfl

theorem join_append (sep : UInt8) {front back : List Bytes} (some_ : front ≠ [])
    (more : back ≠ []) :
    join [sep] (front ++ back) = join [sep] front ++ sep :: join [sep] back := by
  induction front with
  | nil => exact (some_ rfl).elim
  | cons piece rest ih =>
    cases rest with
    | nil =>
      cases back with
      | nil => exact (more rfl).elim
      | cons first back => simp [join]
    | cons next rest =>
      have tail := ih (by simp)
      simp only [List.cons_append,join,List.append_assoc] at tail ⊢
      rw [tail]

theorem join_snoc (sep : UInt8) {pieces : List Bytes} (some_ : pieces ≠ []) (last : Bytes) :
    join [sep] (pieces ++ [last]) = join [sep] pieces ++ sep :: last :=
  join_append sep some_ (List.cons_ne_nil last [])

end ScriptLauncher.Bytes
