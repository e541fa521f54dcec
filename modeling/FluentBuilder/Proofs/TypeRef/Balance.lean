import FluentBuilder.Proofs.TypeRef.Reading

/-!
Brackets of accepted texts. From the first opening bracket on they match; a closing one in front of
it is taken for a part of a name.
-/

namespace FluentBuilder.TypeRef

/-- The text from its first opening bracket on. -/
def restOf (cs : List Char) : List Char := cs.dropWhile (· ≠ '<')

theorem baseOf_append_restOf (cs : List Char) : baseOf cs ++ restOf cs = cs :=
  List.takeWhile_append_dropWhile

theorem notMem_baseOf (cs : List Char) : '<' ∉ baseOf cs := fun h => by
  have := List.mem_takeWhile_imp h
  simp at this

theorem restOf_of_notMem {cs : List Char} (h : '<' ∉ cs) : restOf cs = [] :=
  List.dropWhile_eq_nil_iff.mpr fun c hc => by
    have : c ≠ '<' := fun he => h (he ▸ hc)
    simpa using this

theorem restOf_append_cons {base : List Char} (h : '<' ∉ base) (rest : List Char) :
    restOf (base ++ '<' :: rest) = '<' :: rest := by
  rw [restOf, List.dropWhile_append_of_pos (by grind)]
  simp

theorem balanced_restOf_append {x y : List Char} (hx : Balanced (restOf x)) (hy : Plain y) :
    Balanced (restOf (x ++ y)) := by
  by_cases ho : '<' ∈ x
  · obtain ⟨base, rest, rfl, hbase⟩ := List.eq_append_cons_of_mem ho
    rw [restOf_append_cons hbase] at hx
    rw [List.append_assoc, List.cons_append, restOf_append_cons hbase]
    exact hx.append hy.sealed.toBalanced
  · rw [restOf_of_notMem (by simp [ho, hy.noOpen])]
    exact balanced_of_notMem (by simp) (by simp)

/-- With a balanced rest only a closing bracket in front of it unbalances a text. -/
theorem balanced_iff_of_balanced_restOf {cs : List Char} (h : Balanced (restOf cs)) :
    Balanced cs ↔ '>' ∉ baseOf cs := by
  have ho := notMem_baseOf cs
  constructor
  · intro hb
    have hle := hb.prefixes (baseOf cs) ⟨restOf cs, baseOf_append_restOf cs⟩
    rw [List.count_eq_zero_of_not_mem ho] at hle
    exact List.count_eq_zero.mp (Nat.le_zero.mp hle)
  · intro hc
    rw [← baseOf_append_restOf cs]
    exact (balanced_of_notMem ho hc).append h

theorem Denotes.balanced_restOf {cs : List Char} {t : TypeRef} (h : Denotes cs t) :
    Balanced (restOf cs) := by
  induction h with
  | leaf _ _ ho =>
    rw [restOf_of_notMem ho]
    exact balanced_of_notMem (by simp) (by simp)
  | array hb _ ih => exact balanced_restOf_append ih (plain_arrayMark.append (plain_of_blank hb))
  | @generic base b args ho hb _ hs _ _ =>
    rw [restOf_append_cons ho]
    exact ((balanced_arguments hs).sealed_between (plain_of_blank Text.blank_nil) hb).toBalanced

/-- An accepted text is balanced from its first opening bracket on, and as a whole exactly if no
closing bracket stands in front of that one. -/
theorem balanced_iff_of_accepted {s : String} {t : TypeRef} (h : ofString s = .ok t) :
    Balanced (restOf s.toList) ∧ (Balanced s.toList ↔ '>' ∉ baseOf s.toList) := by
  have hrest := (parse_eq_ok_iff.mp h).balanced_restOf
  exact ⟨hrest, balanced_iff_of_balanced_restOf hrest⟩

theorem balanced_iff_of_accepted_nested :
    ∃ t, ofString "Map<K, List<V[]>> []" = .ok t ∧
      Balanced (restOf "Map<K, List<V[]>> []".toList) ∧
      (Balanced "Map<K, List<V[]>> []".toList ↔ '>' ∉ baseOf "Map<K, List<V[]>> []".toList) := by
  obtain ⟨t, ht⟩ := exists_eq_ok_of_toBool (x := ofString "Map<K, List<V[]>> []")
    (by decide +kernel)
  exact ⟨t, ht, balanced_iff_of_accepted ht⟩

/-- A closing bracket that nothing opens is read as the end of a name. -/
theorem accepts_stray_bracket : ∃ t, ofString "int>" = .ok t ∧ ¬ Balanced "int>".toList := by
  refine ⟨{ name := "int>" }, by cbv, fun h => ?_⟩
  have := h.total
  revert this
  decide +kernel

end FluentBuilder.TypeRef
