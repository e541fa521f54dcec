/-!
Type arguments between angle brackets: `pieces?` cuts a text at the commas that no bracket encloses,
and refuses a text whose brackets are not balanced.
-/

namespace FluentBuilder.TypeRef

def consToFirst (c : Char) : List (List Char) → List (List Char)
  | [] => [[c]]
  | piece :: pieces => (c :: piece) :: pieces

/-- The pieces of a text that stands inside `depth` open brackets. -/
def piecesAt? (depth : Nat) : List Char → Option (List (List Char))
  | [] => if depth = 0 then some [[]] else none
  | c :: cs =>
    if c = '<' then (piecesAt? (depth + 1) cs).map (consToFirst c)
    else if c = '>' then
      match depth with
      | 0 => none
      | outer + 1 => (piecesAt? outer cs).map (consToFirst c)
    else if c = ',' ∧ depth = 0 then (piecesAt? 0 cs).map ([] :: ·)
    else (piecesAt? depth cs).map (consToFirst c)

/-- The pieces between the commas outside all brackets. -/
def pieces? (cs : List Char) : Option (List (List Char)) := piecesAt? 0 cs

theorem length_le_of_mem_consToFirst {c : Char} {n : Nat} {pieces : List (List Char)}
    (h : ∀ p ∈ pieces, p.length ≤ n) : ∀ p ∈ consToFirst c pieces, p.length ≤ n + 1 := by
  intro p hp
  cases pieces with
  | nil =>
    have : p = [c] := by simpa [consToFirst] using hp
    simp [this]
  | cons q qs =>
    rcases List.mem_cons.1 hp with rfl | hq
    · have := h q (by simp)
      simp only [List.length_cons]
      omega
    · have := h p (by simp [hq])
      omega

theorem length_le_of_mem_piecesAt? {depth : Nat} {cs : List Char} {pieces : List (List Char)}
    (h : piecesAt? depth cs = some pieces) : ∀ p ∈ pieces, p.length ≤ cs.length := by
  fun_induction piecesAt? depth cs generalizing pieces with
  | case1 =>
    obtain rfl := Option.some.inj h
    simp
  | case2 => simp at h
  | case3 depth cs ih =>
    obtain ⟨q, hq, rfl⟩ := Option.map_eq_some_iff.1 h
    exact length_le_of_mem_consToFirst (ih hq)
  | case4 => simp at h
  | case5 cs _ outer ih =>
    obtain ⟨q, hq, rfl⟩ := Option.map_eq_some_iff.1 h
    exact length_le_of_mem_consToFirst (ih hq)
  | case6 depth c cs _ _ _ ih =>
    obtain ⟨q, hq, rfl⟩ := Option.map_eq_some_iff.1 h
    intro p hp
    rcases List.mem_cons.1 hp with rfl | hp
    · simp
    · have := ih hq p hp
      simp only [List.length_cons]
      omega
  | case7 depth c cs _ _ _ ih =>
    obtain ⟨q, hq, rfl⟩ := Option.map_eq_some_iff.1 h
    exact length_le_of_mem_consToFirst (ih hq)

end FluentBuilder.TypeRef
