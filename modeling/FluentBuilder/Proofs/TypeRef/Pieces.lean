import FluentBuilder.Proofs.TypeRef.Reading

/-!
The pieces of a text between the commas outside all brackets. Every text has one list of them, and
cutting it gives that list exactly if the text is balanced and no piece is blank.
-/

namespace FluentBuilder.TypeRef

open Text (Blank)

/-- No comma stands behind as many closing brackets as opening ones. -/
def Uncut (cs : List Char) : Prop := ∀ p q, cs = p ++ ',' :: q → p.count '<' ≠ p.count '>'

/-- The longest pieces of a text between its commas at depth zero, in their order. The depth behind
a piece that a comma ends is zero, so it is counted anew from there. -/
inductive OuterPieces : List Char → List (List Char) → Prop
  | last {p : List Char} : Uncut p → OuterPieces p [p]
  | cut {p cs : List Char} {ps : List (List Char)} : Uncut p → p.count '<' = p.count '>' →
      OuterPieces cs ps → OuterPieces (p ++ ',' :: cs) (p :: ps)

variable {x y cs : List Char} {ps qs : List (List Char)}

namespace OuterPieces

theorem ne_nil (h : OuterPieces cs ps) : ps ≠ [] := by
  cases h <;> exact List.cons_ne_nil _ _

theorem intercalate_eq (h : OuterPieces cs ps) : [','].intercalate ps = cs := by
  induction h with
  | last => simp
  | @cut p cs ps _ _ hps ih =>
    obtain ⟨q, rest, rfl⟩ := List.exists_cons_of_ne_nil hps.ne_nil
    rw [List.intercalate_cons_cons, ih, List.append_assoc]
    rfl

theorem append (hx : OuterPieces x ps) (htotal : x.count '<' = x.count '>')
    (hy : OuterPieces y qs) : OuterPieces (x ++ ',' :: y) (ps ++ qs) := by
  induction hx with
  | last hp => exact .cut hp htotal hy
  | @cut p cs ps hp hzero _ ih =>
    have hsum : p.count '<' + cs.count '<' = p.count '>' + cs.count '>' := by simpa using htotal
    have hcs : cs.count '<' = cs.count '>' := by omega
    rw [List.append_assoc, List.cons_append]
    exact .cut hp hzero (ih hcs)

/-- Two outer commas with uncut texts in front of them are the same one. -/
theorem eq_of_append_cons (hx : Uncut x) (hxz : x.count '<' = x.count '>') (hy : Uncut y)
    (hyz : y.count '<' = y.count '>') {u v : List Char} (h : x ++ ',' :: u = y ++ ',' :: v) :
    x = y ∧ u = v := by
  rcases List.append_eq_append_iff.mp h with ⟨r, hr, hu⟩ | ⟨r, hr, hv⟩
  · cases r with
    | nil => exact ⟨by simpa using hr.symm, by simpa using hu⟩
    | cons c r =>
      obtain ⟨rfl, -⟩ := List.cons_eq_cons.mp hu
      exact absurd hxz (hy x r hr)
  · cases r with
    | nil => exact ⟨by simpa using hr, by simpa using hv.symm⟩
    | cons c r =>
      obtain ⟨rfl, -⟩ := List.cons_eq_cons.mp hv
      exact absurd hyz (hx y r hr)

theorem eq_singleton (hcs : Uncut cs) (h : OuterPieces cs ps) : ps = [cs] := by
  cases h with
  | last => rfl
  | cut _ hzero _ => exact absurd hzero (hcs _ _ rfl)

theorem exists_cons (hx : Uncut x) (hzero : x.count '<' = x.count '>')
    (h : OuterPieces (x ++ ',' :: y) ps) : ∃ rest, OuterPieces y rest ∧ ps = x :: rest := by
  generalize hcs : x ++ ',' :: y = cs at h
  cases h with
  | last hp => exact absurd hzero (hp x y hcs.symm)
  | cut hp hpzero hrest =>
    obtain ⟨rfl, rfl⟩ := eq_of_append_cons hx hzero hp hpzero hcs
    exact ⟨_, hrest, rfl⟩

theorem unique (hp : OuterPieces cs ps) (hq : OuterPieces cs qs) : qs = ps := by
  induction hp generalizing qs with
  | last hp => exact hq.eq_singleton hp
  | cut hp hzero _ ih =>
    obtain ⟨rest, hrest, rfl⟩ := hq.exists_cons hp hzero
    rw [ih hrest]

theorem sealed (h : OuterPieces cs ps) (hb : Balanced cs) : ∀ p ∈ ps, Sealed p := by
  induction h with
  | last hp => exact List.forall_mem_singleton.mpr { hb with uncut := hp }
  | @cut p cs ps hp hzero _ ih =>
    have hpb : Balanced p :=
      ⟨fun q hq => hb.prefixes q (hq.trans (List.prefix_append ..)), hzero.symm⟩
    have hcomma : Balanced [','] := balanced_of_notMem (by decide) (by decide)
    have hcs : Balanced cs := (hb.of_append_left hpb : Balanced ([','] ++ cs)).of_append_left hcomma
    exact List.forall_mem_cons.mpr ⟨{ hpb with uncut := hp }, ih hcs⟩

end OuterPieces

theorem exists_outerPieces (cs : List Char) : ∃ ps, OuterPieces cs ps := by
  induction hn : cs.length using Nat.strong_induction_on generalizing cs with
  | _ n ih =>
    by_cases hcut : Uncut cs
    · exact ⟨[cs], .last hcut⟩
    · -- Any outer comma will do: both sides of it are shorter, and their pieces stand in a row.
      obtain ⟨x, y, rfl, hzero⟩ : ∃ x y, cs = x ++ ',' :: y ∧ x.count '<' = x.count '>' := by
        simpa [Uncut] using hcut
      have hlength : x.length < n ∧ y.length < n := by
        rw [List.length_append, List.length_cons] at hn
        omega
      obtain ⟨ps, hps⟩ := ih x.length hlength.1 x rfl
      obtain ⟨qs, hqs⟩ := ih y.length hlength.2 y rfl
      exact ⟨ps ++ qs, hps.append hzero hqs⟩

theorem outerPieces_intercalate (hne : ps ≠ []) (hs : ∀ p ∈ ps, Sealed p) :
    OuterPieces ([','].intercalate ps) ps := by
  induction ps with
  | nil => exact absurd rfl hne
  | cons p ps ih =>
    obtain ⟨hp, hps⟩ := List.forall_mem_cons.mp hs
    cases ps with
    | nil => simpa using OuterPieces.last hp.uncut
    | cons q ps =>
      have hrest := ih (List.cons_ne_nil q ps) hps
      have hzero : p.count '<' = p.count '>' := hp.total.symm
      rw [List.intercalate_cons_cons, List.append_assoc]
      exact .cut hp.uncut hzero hrest

/-- Cutting gives the pieces of a balanced text, and nothing else is cut. -/
theorem pieces?_eq_some_iff_outerPieces :
    pieces? cs = some ps ↔ Balanced cs ∧ OuterPieces cs ps := by
  rw [pieces?_eq_some_iff]
  constructor
  · rintro ⟨hne, rfl, hs⟩
    have hcomma : Balanced [','] := balanced_of_notMem (by decide) (by decide)
    exact ⟨balanced_intercalate hcomma fun p hp => (hs p hp).toBalanced,
      outerPieces_intercalate hne hs⟩
  · rintro ⟨hb, h⟩
    exact ⟨h.ne_nil, h.intercalate_eq, h.sealed hb⟩

theorem pieces?_eq_none_iff : pieces? cs = none ↔ ¬ Balanced cs := by
  obtain ⟨ps, hps⟩ := exists_outerPieces cs
  constructor
  · intro hnone hb
    have hsome := pieces?_eq_some_iff_outerPieces.mpr ⟨hb, hps⟩
    rw [hnone] at hsome
    cases hsome
  · intro hb
    rw [Option.eq_none_iff_forall_ne_some]
    intro qs hqs
    exact hb (pieces?_eq_some_iff_outerPieces.mp hqs).1

theorem splitArguments_eq_error_iff {inner whole : List Char} {e : TypeError} :
    (splitArguments inner whole).map Subtype.val = .error e ↔
      (pieces? inner = none ∧ e = .unbalanced (String.ofList whole)) ∨
      ∃ ps, pieces? inner = some ps ∧ (∃ p ∈ ps, Blank p) ∧
        e = .emptyArgument (String.ofList whole) := by
  have hblank (qs : List (List Char)) :
      (qs.any fun p => (Text.trim p).isEmpty) = true ↔ ∃ p ∈ qs, Blank p := by
    simp [Text.trim_eq_nil_iff]
  unfold splitArguments
  split
  · rename_i h
    simp [h, Except.map, eq_comm]
  · rename_i qs hqs
    split_ifs with hb
    · have hsome := (hblank qs).mp hb
      simp [hqs, hsome, Except.map, eq_comm]
    · have hnone := mt (hblank qs).mpr hb
      simp [hqs, hnone, Except.map]

/-- A text has one list of pieces between its commas at depth zero. The text between the brackets of
a type is split into these exactly if it is balanced and none of them is blank, and each is balanced
then and has no comma at depth zero. It is refused otherwise. -/
theorem splitArguments_exact (inner whole : List Char) :
    ∃ ps, OuterPieces inner ps ∧ (∀ qs, OuterPieces inner qs → qs = ps) ∧
      [','].intercalate ps = inner ∧
      ((splitArguments inner whole).map Subtype.val = .ok ps ↔
        Balanced inner ∧ ∀ p ∈ ps, ¬ Blank p) ∧
      ((splitArguments inner whole).map Subtype.val =
          .error (.unbalanced (String.ofList whole)) ↔ ¬ Balanced inner) ∧
      ((splitArguments inner whole).map Subtype.val =
          .error (.emptyArgument (String.ofList whole)) ↔
        Balanced inner ∧ ∃ p ∈ ps, Blank p) ∧
      (Balanced inner → ∀ p ∈ ps, Balanced p ∧ Uncut p) := by
  obtain ⟨ps, hps⟩ := exists_outerPieces inner
  have hpieces (qs : List (List Char)) :
      pieces? inner = some qs ↔ Balanced inner ∧ qs = ps := by
    rw [pieces?_eq_some_iff_outerPieces]
    constructor
    · exact fun ⟨hb, hqs⟩ => ⟨hb, hps.unique hqs⟩
    · rintro ⟨hb, rfl⟩
      exact ⟨hb, hps⟩
  refine ⟨ps, hps, fun qs hqs => hps.unique hqs, hps.intercalate_eq, ?ok, ?unbalanced, ?empty,
    ?parts⟩
  case ok =>
    rw [splitArguments_eq_ok_iff, hpieces]
    simp
  case unbalanced =>
    rw [splitArguments_eq_error_iff, pieces?_eq_none_iff]
    simp
  case empty =>
    rw [splitArguments_eq_error_iff, pieces?_eq_none_iff]
    simp [hpieces]
  case parts =>
    intro hb p hp
    have hsealed := hps.sealed hb p hp
    exact ⟨hsealed.toBalanced, hsealed.uncut⟩

end FluentBuilder.TypeRef
