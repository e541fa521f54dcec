import FluentBuilder.Proofs.Yaml.Syntax

/-! Making the values of a document. The work keeps the nodes of the document, apart from what
following merge keys makes of them, and it can be spoiled only by a scalar that is no value of its
kind. -/

namespace FluentBuilder.Yaml

/-- What following merge keys may make of a node: a mapping can get other entries, and the kind of a
key can become that of texts. -/
structure Node.Stems (node original : Node) : Prop where
  kind : node.kind = original.kind ∨ node.kind = .text
  shape : node.shape = original.shape ∨
    ∃ entries others, node.shape = .mapping entries ∧ original.shape = .mapping others

/-- The document holds a scalar that is no value of the kind of a node, or a mapping in the place of
a moment. -/
inductive Node.Document.Spoils (d : Node.Document) : ContentFault → Prop
  | scalar {owner node : Node} {text : List Char} {fault : ContentFault} : owner ∈ d.nodes →
      node ∈ d.nodes → node.shape = .scalar text →
      readScalar owner.kind text = .error (.content fault) → Spoils d fault
  | mapping {node : Node} {entries : List (Nat × Nat)} : node ∈ d.nodes →
      node.kind = .timestamp → node.shape = .mapping entries → Spoils d .mappedMoment

/-- The nodes of the work are those of the document, as far as merge keys have left them. -/
def Work.Keeps (w : Work) (d : Node.Document) : Prop :=
  ∀ (number : ℕ) (node : Node), w.nodes[number]? = some node →
    ∃ original ∈ d.nodes, node.Stems original

/-- A step of the work on the document ends with no faults but those of the document, and keeps its
nodes. -/
structure Runs {α : Type} (d : Node.Document) (x : Except Flaw (α × Work)) : Prop where
  faults : FaultsOnly d.Spoils x
  keeps : ∀ a w, x = .ok (a, w) → w.Keeps d

variable {α β : Type} {d : Node.Document} {w : Work}

namespace Runs

theorem pure (h : w.Keeps d) (a : α) : Runs d ((Pure.pure a : Make α).run w) := by
  refine ⟨FaultsOnly.pure _, fun b v hb => ?_⟩
  obtain ⟨-, rfl⟩ := Prod.mk.inj (Except.ok.inj hb)
  exact h

theorem refuseNode : Runs d ((Make.refuseNode : Make α).run w) :=
  ⟨FaultsOnly.malformed, nofun⟩

theorem bind {m : Make α} {f : α → Make β} (hm : Runs d (m.run w))
    (hf : ∀ a v, m.run w = .ok (a, v) → v.Keeps d → Runs d ((f a).run v)) :
    Runs d ((m >>= f).run w) := by
  rw [StateT.run_bind]
  constructor
  · rw [FaultsOnly.bind_iff]
    exact ⟨hm.faults, fun ⟨a, v⟩ ha => (hf a v ha (hm.keeps a v ha)).faults⟩
  · intro b v hb
    obtain ⟨⟨a, u⟩, ha, hb⟩ := (bind_eq_ok_iff ..).mp hb
    exact (hf a u ha (hm.keeps a u ha)).keeps b v hb

theorem get (h : w.Keeps d) : Runs d ((MonadStateOf.get : Make Work).run w) := by
  refine ⟨FaultsOnly.pure _, fun b v hb => ?_⟩
  obtain ⟨-, rfl⟩ := Prod.mk.inj (Except.ok.inj hb)
  exact h

theorem mapM {f : α → Make β} (hf : ∀ a v, v.Keeps d → Runs d ((f a).run v)) (h : w.Keeps d)
    (xs : List α) : Runs d ((xs.mapM f).run w) := by
  induction xs generalizing w with
  | nil => exact pure h _
  | cons x xs ih =>
    rw [List.mapM_cons]
    refine bind (hf x w h) fun a v _ hv => bind (ih hv) fun bs u _ hu => pure hu _

theorem forM {f : α → Make PUnit} (hf : ∀ a v, v.Keeps d → Runs d ((f a).run v)) (h : w.Keeps d)
    (xs : List α) : Runs d ((xs.forM f).run w) := by
  induction xs generalizing w with
  | nil => exact pure h _
  | cons x xs ih =>
    exact bind (hf x w h) fun a v _ hv => ih hv

theorem modify {f : Work → Work} (h : w.Keeps d) (hf : (f w).nodes = w.nodes) :
    Runs d ((modifyGet fun w => (PUnit.unit, f w) : Make PUnit).run w) := by
  refine ⟨FaultsOnly.ok _, fun a v hv => ?_⟩
  obtain ⟨-, rfl⟩ := Prod.mk.inj (Except.ok.inj hv)
  unfold Work.Keeps
  rw [hf]
  exact h

theorem lift {x : Except Flaw α} (h : w.Keeps d) (hx : FaultsOnly d.Spoils x) :
    Runs d ((monadLift x : Make α).run w) := by
  rw [StateT.run_monadLift]
  constructor
  · simpa using hx
  · intro a v hv
    obtain ⟨b, -, hb⟩ := (bind_eq_ok_iff ..).mp hv
    obtain ⟨-, rfl⟩ := Prod.mk.inj (Except.ok.inj hb)
    exact h

end Runs

theorem node_run_eq (number : ℕ) (w : Work) :
    (Make.node number).run w =
      match w.nodes[number]? with
      | some node => .ok (node, w)
      | none => .error .malformed := by
  change (match w.nodes[number]? with
    | some node => (Pure.pure node : Make Node)
    | none => Make.refuseNode).run w = _
  cases w.nodes[number]? <;> rfl

theorem node_run_eq_ok_iff {number : ℕ} {node : Node} {v : Work} :
    (Make.node number).run w = .ok (node, v) ↔ w.nodes[number]? = some node ∧ v = w := by
  rw [node_run_eq]
  cases w.nodes[number]? <;> simp [eq_comm]

theorem runs_node (h : w.Keeps d) (number : ℕ) : Runs d ((Make.node number).run w) := by
  constructor
  · rw [node_run_eq]
    split <;> simp
  · intro node v hv
    obtain ⟨-, rfl⟩ := node_run_eq_ok_iff.mp hv
    exact h

theorem runs_change (h : w.Keeps d) (number : ℕ) {node : Node}
    (hn : ∃ original ∈ d.nodes, node.Stems original) :
    Runs d ((Make.change number node).run w) := by
  refine ⟨FaultsOnly.ok _, fun a v hv => ?_⟩
  obtain ⟨-, rfl⟩ := Prod.mk.inj (Except.ok.inj hv)
  intro i m hm
  simp only [Array.getElem?_setIfInBounds] at hm
  split_ifs at hm
  · obtain rfl := Option.some.inj hm
    exact hn
  · exact h i m hm

theorem entriesAt_run_eq_ok_iff {number : ℕ} {entries : List (ℕ × ℕ)} {v : Work} :
    (entriesAt number).run w = .ok (entries, v) ↔
      (∃ node, w.nodes[number]? = some node ∧ node.shape = .mapping entries) ∧ v = w := by
  unfold entriesAt
  rw [StateT.run_bind, node_run_eq]
  cases w.nodes[number]? with
  | none => simp [bind, Except.bind]
  | some node =>
    obtain ⟨kind, shape⟩ := node
    cases shape with
    | mapping others =>
      change Except.ok (others, w) = _ ↔ _
      simp [eq_comm]
    | _ => simp [bind, Except.bind, Make.refuseNode, throw, throwThe, MonadExceptOf.throw]

theorem runs_entriesAt (h : w.Keeps d) (number : ℕ) : Runs d ((entriesAt number).run w) := by
  refine .bind (runs_node h number) fun node v _ hv => ?_
  split
  · exact .pure hv _
  · exact .refuseNode

theorem runs_itemsAt (h : w.Keeps d) (number : ℕ) : Runs d ((itemsAt number).run w) := by
  refine .bind (runs_node h number) fun node v _ hv => ?_
  split
  · exact .pure hv _
  · exact .refuseNode

theorem exists_scalar_of_textOf {nodes : Nodes} {depth number : ℕ} {text : List Char}
    (h : textOf nodes depth number = some text) :
    ∃ (i : ℕ) (node : Node), nodes[i]? = some node ∧ node.shape = .scalar text := by
  induction depth generalizing number with
  | zero => cases h
  | succ depth ih =>
    unfold textOf at h
    split at h
    · rename_i hshape
      obtain ⟨node, hn, hs⟩ := Option.map_eq_some_iff.mp hshape
      obtain rfl := Option.some.inj h
      exact ⟨number, node, hn, hs⟩
    · obtain ⟨⟨key, value⟩, -, hvalue⟩ := Option.bind_eq_some_iff.mp h
      exact ih hvalue
    · cases h

theorem exists_scalar_of_text? (h : w.Keeps d) {number : ℕ} {text : List Char}
    (ht : w.text? number = some text) : ∃ node ∈ d.nodes, node.shape = .scalar text := by
  obtain ⟨i, node, hn, hs⟩ := exists_scalar_of_textOf ht
  obtain ⟨original, ho, -, hshape⟩ := h i node hn
  obtain he | ⟨entries, _, he, -⟩ := hshape
  · exact ⟨original, ho, he ▸ hs⟩
  · rw [hs] at he
    cases he

theorem spoils_of_readScalar (h : w.Keeps d) {number : ℕ} {node original : Node}
    {text : List Char} (ho : original ∈ d.nodes) (hn : node.Stems original)
    (ht : w.text? number = some text) :
    FaultsOnly d.Spoils (readScalar node.kind text) := by
  intro fault hf
  obtain ⟨scalar, hs, hscalar⟩ := exists_scalar_of_text? h ht
  obtain hk | hk := hn.kind
  · exact .scalar ho hs hscalar (hk ▸ hf)
  -- Every text is a value of the kind of texts.
  · rw [hk] at hf
    cases hf

theorem runs_scalarValue (h : w.Keeps d) (number : ℕ) {node : Node}
    (hn : ∃ original ∈ d.nodes, node.Stems original) :
    Runs d ((scalarValue number node).run w) := by
  obtain ⟨original, ho, hstems⟩ := hn
  refine .bind (.get h) fun v u hv hu => ?_
  obtain ⟨rfl, rfl⟩ := Prod.mk.inj (Except.ok.inj hv)
  split
  · exact .refuseNode
  · refine ⟨fun fault hf => ?_, nofun⟩
    cases hf
    obtain hk | hk := hstems.kind
    · obtain hs | ⟨_, others, -, hs⟩ := hstems.shape
      · exact .mapping ho hk.symm hs.symm
      · exact .mapping ho hk.symm hs
    · cases hk
  · rename_i text ht _
    exact .lift h (spoils_of_readScalar h ho hstems ht)

theorem runs_make (h : w.Keeps d) (number : ℕ) : Runs d ((make number).run w) := by
  unfold make
  refine .bind (.get h) fun v u hv hu => ?_
  split
  · exact .pure hu _
  · refine .bind (runs_node hu number) fun node x hx hk => ?_
    obtain ⟨hnode, rfl⟩ := node_run_eq_ok_iff.mp hx
    split_ifs
    · refine .bind (.modify hk rfl) fun _ y _ hy => .bind (.pure hy _) fun value z _ hz => ?_
      exact .bind (.modify hz rfl) fun _ u _ hu => .pure hu _
    · refine .bind (runs_scalarValue hk number (hk number node hnode)) fun value y _ hy => ?_
      exact .bind (.modify hy rfl) fun _ z _ hz => .pure hz _

theorem runs_addCell (h : w.Keeps d) (v : Value) : Runs d ((addCell v).run w) := by
  refine .bind (.get h) fun _ u _ hu => ?_
  exact .bind (.modify hu rfl) fun _ x _ hx => .pure hx _

theorem runs_mergedEntries {flattened : ℕ → Make Unit}
    (hf : ∀ n v, v.Keeps d → Runs d ((flattened n).run v)) (h : w.Keeps d) (number : ℕ) :
    Runs d ((mergedEntries flattened number).run w) := by
  have hentries (n : ℕ) (v : Work) (hv : v.Keeps d) :
      Runs d ((do discard <| entriesAt n; flattened n; entriesAt n : Make _).run v) := by
    refine .bind (.bind (runs_entriesAt hv n) fun _ x _ hx => .pure hx _) fun _ x _ hx => ?_
    exact .bind (hf n x hx) fun _ y _ hy => runs_entriesAt hy n
  unfold mergedEntries
  refine .bind (runs_node h number) fun node v _ hv => ?_
  split
  · exact hentries _ v hv
  · exact .bind (.mapM hentries hv _) fun _ x _ hx => .pure hx _
  · exact .refuseNode

theorem runs_flattenFrom (h : w.Keeps d) (fuel number index : ℕ) (merged : List (ℕ × ℕ)) :
    Runs d ((flattenFrom fuel number index merged).run w) := by
  induction fuel generalizing w number index merged with
  | zero => exact .refuseNode
  | succ fuel ih =>
    unfold flattenFrom
    refine .bind (runs_node h number) fun mapping u hu hk => ?_
    obtain ⟨hnumber, rfl⟩ := node_run_eq_ok_iff.mp hu
    refine .bind (runs_entriesAt hk number) fun entries v hv hk => ?_
    obtain ⟨⟨node, hnode, hshape⟩, rfl⟩ := entriesAt_run_eq_ok_iff.mp hv
    obtain rfl := Option.some.inj (hnumber.symm.trans hnode)
    obtain ⟨original, ho, hstems⟩ := hk number mapping hnumber
    -- The node stays a mapping, whatever its entries become.
    have hmapping (others : List (ℕ × ℕ)) :
        ∃ original ∈ d.nodes, Node.Stems { mapping with shape := .mapping others } original := by
      refine ⟨original, ho, hstems.kind, ?_⟩
      obtain hs | ⟨_, before, -, hs⟩ := hstems.shape
      · exact .inr ⟨others, entries, rfl, hs ▸ hshape⟩
      · exact .inr ⟨others, before, rfl, hs⟩
    split
    · split_ifs
      · exact runs_change hk number (hmapping _)
      · exact .pure hk _
    · rename_i key value _
      refine .bind (runs_node hk key) fun keyNode x hx hk => ?_
      obtain ⟨hkey, rfl⟩ := node_run_eq_ok_iff.mp hx
      split_ifs
      · refine .bind (runs_change hk number (hmapping _)) fun _ y _ hy => ?_
        refine .bind (runs_mergedEntries (fun n z hz => ih hz n 0 []) hy value) fun more z _ hz => ?_
        exact ih hz number index _
      · obtain ⟨original, ho, hstems⟩ := hk key keyNode hkey
        have htext : ∃ original ∈ d.nodes, Node.Stems { keyNode with kind := .text } original :=
          ⟨original, ho, .inr rfl, hstems.shape⟩
        exact .bind (runs_change hk key htext) fun _ y _ hy => ih hy number (index + 1) merged
      · exact ih hk number (index + 1) merged

theorem runs_makeKey (h : w.Keeps d) (number : ℕ) : Runs d ((makeKey number).run w) := by
  refine .bind (runs_make h number) fun value v _ hv => ?_
  split
  · exact .refuseNode
  · exact .bind (.get hv) fun _ x _ hx => .pure hx _

theorem runs_makeEntries (h : w.Keeps d) (number : ℕ) : Runs d ((makeEntries number).run w) := by
  have hpair (p : ℕ × ℕ) (v : Work) (hv : v.Keeps d) :
      Runs d ((do let key ← makeKey p.1; return (key, ← make p.2) : Make (Key × Value)).run v) :=
    .bind (runs_makeKey hv p.1) fun _ x _ hx => .bind (runs_make hx p.2) fun _ y _ hy => .pure hy _
  unfold makeEntries
  refine .bind (.bind (runs_entriesAt h number) fun _ v _ hv => .pure hv _) fun _ v _ hv => ?_
  refine .bind (runs_flattenFrom hv mergeSteps number 0 []) fun _ x _ hx => ?_
  refine .bind (runs_entriesAt hx number) fun entries y _ hy => ?_
  exact .bind (.mapM hpair hy entries) fun _ z _ hz => .pure hz _

theorem runs_makePair (h : w.Keeps d) (number : ℕ) : Runs d ((makePair number).run w) := by
  refine .bind (runs_entriesAt h number) fun entries v _ hv => ?_
  split
  · rename_i key value _
    refine .bind (runs_make hv key) fun _ x _ hx => .bind (runs_make hx value) fun _ y _ hy => ?_
    exact runs_addCell hy _
  · exact .refuseNode

theorem runs_makeCollection (h : w.Keeps d) (number : ℕ) :
    Runs d ((makeCollection number).run w) := by
  refine .bind (runs_node h number) fun node v _ hv => ?_
  split
  · exact .bind (runs_itemsAt hv number) fun items x _ hx =>
      .bind (.mapM (fun n y hy => runs_make hy n) hx items) fun _ y _ hy => .pure hy _
  · exact .bind (runs_itemsAt hv number) fun items x _ hx =>
      .bind (.mapM (fun n y hy => runs_makePair hy n) hx items) fun _ y _ hy => .pure hy _
  · exact .bind (runs_makeEntries hv number) fun _ x _ hx => .pure hx _
  · exact .bind (runs_makeEntries hv number) fun _ x _ hx => .pure hx _

theorem runs_fill (h : w.Keeps d) (number : ℕ) : Runs d ((fill number).run w) :=
  .bind (runs_makeCollection h number) fun _ _ _ hv => .modify hv rfl

theorem runs_fillAll (h : w.Keeps d) (rounds : ℕ) : Runs d ((fillAll rounds).run w) := by
  induction rounds generalizing w with
  | zero => exact .pure h _
  | succ rounds ih =>
    unfold fillAll
    refine .bind (.get h) fun _ v _ hv => ?_
    dsimp only
    split_ifs
    · refine .bind (.modify hv rfl) fun _ x _ hx => ?_
      exact .bind (.forM (fun n y hy => runs_fill hy n) hx _) fun _ y _ hy => ih hy
    · exact .pure hv _

theorem faultsOnly_value (d : Node.Document) : FaultsOnly d.Spoils d.value := by
  let start : Work :=
    { nodes := d.nodes
      made := Array.replicate d.nodes.size none
      cells := Array.replicate d.nodes.size .null }
  have hstart : start.Keeps d := fun number node hn =>
    ⟨node, Array.mem_of_getElem? hn, .inl rfl, .inl rfl⟩
  have hroot := runs_make hstart d.root
  unfold Node.Document.value
  rw [FaultsOnly.bind_iff]
  refine ⟨hroot.faults, fun ⟨value, afterRoot⟩ ha => ?_⟩
  have hfill := runs_fillAll (hroot.keeps value afterRoot ha) (d.nodes.size + 1)
  rw [FaultsOnly.bind_iff]
  refine ⟨hfill.faults, fun _ _ => ?_⟩
  dsimp only
  split <;> simp

/-- What a text that is not malformed holds in the place of a value: an escape of no character, or a
scalar that is no value of its kind. -/
inductive Spoils (text : List Char) : ContentFault → Prop
  | escape {ts : Tokens} {code : ℕ} : tokensOf text = .ok ts →
      ts.fault = some (.beyondUnicode code) → 0x10FFFF < code → Spoils text (.beyondUnicode code)
  | value {ts : Tokens} {document : Node.Document} {fault : ContentFault} :
      tokensOf text = .ok ts → Node.ofTokens? ts = .ok (some document) →
      document.Spoils fault → Spoils text fault

theorem faultsOnly_read (text : List Char) : FaultsOnly (Spoils text) (read text) := by
  unfold read
  rw [FaultsOnly.bind_iff]
  refine ⟨FaultsOnly.monadLift _, fun ts hlift => ?_⟩
  have htokens : tokensOf text = .ok ts := by
    cases ht : tokensOf text with
    | error e =>
      rw [ht] at hlift
      cases hlift
    | ok us =>
      rw [ht] at hlift
      cases hlift
      rfl
  rw [FaultsOnly.bind_iff]
  constructor
  · intro fault h
    have hfault := Node.fault_of_ofTokens? fault h
    obtain ⟨hcode⟩ := escapeFault_of_tokensOf htokens hfault
    exact .escape htokens hfault hcode
  · intro document hdocument
    cases document with
    | none => simp
    | some document =>
      intro fault h
      exact .value htokens hdocument (faultsOnly_value document fault h)

/-- The library that the program runs with raises an error only for what a text holds in the place of
a value. -/
theorem safeLoad_raises {text : List Char} {error : ForeignError}
    (h : safeLoad text = .error (.raised error)) : ∃ fault, Spoils text fault ∧ error = fault.raised := by
  unfold safeLoad at h
  cases hread : read text with
  | ok v =>
    rw [hread] at h
    cases h
  | error flaw =>
    rw [hread] at h
    cases flaw with
    | malformed => cases h
    | content fault =>
      cases h
      exact ⟨fault, faultsOnly_read text fault hread, rfl⟩

end FluentBuilder.Yaml
