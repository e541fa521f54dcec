import FluentBuilder.Builder.Session
import FluentBuilder.Proofs.Traversal

/-! What each operation gives and what it leaves of a builder, on success and on failure. -/

namespace FluentBuilder

variable {α β : Type}

namespace Work

@[simp] theorem on_get (b : Builder) : (get : Work Builder).on b = (.ok b, b) := rfl

@[simp] theorem on_liftM (x : Except CallError α) (b : Builder) :
    (liftM x : Work α).on b = (x, b) := rfl

/-- The second step starts from what the first leaves; after a failure nothing more is done. -/
theorem on_bind (w : Work α) (k : α → Work β) (b : Builder) :
    (w >>= k).on b =
      match w.on b with
      | (.ok a, after) => (k a).on after
      | (.error e, after) => (.error e, after) := by
  have h : (w >>= k).on b = (ExceptT.bindCont k (w.on b).1).run (w.on b).2 := rfl
  rw [h]
  rcases w.on b with ⟨r, after⟩
  cases r <;> rfl

theorem on_bind_of_ok {w : Work α} {b after : Builder} {a : α} (h : w.on b = (.ok a, after))
    (k : α → Work β) : (w >>= k).on b = (k a).on after := by
  rw [on_bind, h]

theorem on_bind_of_error {w : Work α} {b after : Builder} {e : CallError}
    (h : w.on b = (.error e, after)) (k : α → Work β) : (w >>= k).on b = (.error e, after) := by
  rw [on_bind, h]

end Work

theorem checkAll_eq_forM (v : Value) (rules : List Rule) :
    checkAll v rules = rules.forM (·.check v) := by
  induction rules with
  | nil => rfl
  | cons r rules ih =>
    rw [checkAll, ih]
    rfl

theorem Builder.validate_append (b : Builder) (first second : List Rule) :
    b.validate (first ++ second) = b.validate first >>= fun _ => b.validate second := by
  induction first with
  | nil => rfl
  | cons r first ih =>
    rw [List.cons_append, Builder.validate, Builder.validate, ih, bind_assoc]

theorem Builder.validate_of_fieldName_eq (b : Builder) {field : String} {rules : List Rule}
    (h : ∀ r ∈ rules, r.fieldName = field) : b.validate rules = checkAll (b.get field) rules := by
  induction rules with
  | nil => rfl
  | cons r rules ih =>
    rw [Builder.validate, checkAll, h r List.mem_cons_self,
      ih fun q hq => h q (List.mem_cons_of_mem _ hq)]

namespace BuilderSpec

variable (s : BuilderSpec) (b : Builder)

theorem ensureOpen_on :
    s.ensureOpen.on b = (if b.built then .error (.consumed s.qualifiedName) else .ok (), b) := by
  unfold ensureOpen
  rw [Work.on_bind_of_ok (Work.on_get b)]
  cases b.built <;> rfl

theorem assign_on_of_built (field : String) (v : Value) (rules : List Rule) (h : b.built = true) :
    (s.assign field v rules).on b = (.error (.consumed s.qualifiedName), b) := by
  unfold assign
  exact Work.on_bind_of_error (by rw [ensureOpen_on, h]; rfl) _

theorem assign_on_of_error (field : String) {v : Value} {rules : List Rule} (h : b.built = false)
    {e : CheckError} (he : checkAll v rules = .error e) :
    (s.assign field v rules).on b = (.error e.callError, b) := by
  unfold assign
  rw [Work.on_bind_of_ok (by rw [ensureOpen_on, h]; rfl), he]
  rfl

theorem assign_on_of_ok (field : String) {v : Value} {rules : List Rule} (h : b.built = false)
    (hv : checkAll v rules = .ok ()) : (s.assign field v rules).on b = (.ok (), b.set field v) := by
  unfold assign
  rw [Work.on_bind_of_ok (by rw [ensureOpen_on, h]; rfl), hv]
  rfl

theorem validateAll_on :
    s.validateAll.on b = ((b.validate s.validate.rules).mapError CheckError.callError, b) := by
  unfold validateAll
  rw [Work.on_bind_of_ok (Work.on_get b)]
  rfl

theorem read_on (name : String) :
    (s.read name).on b = match s.attribute? b name with
      | some a => (.ok a.reading, b)
      | none => (.error (.noAttribute name), b) := by
  unfold read
  rw [Work.on_bind_of_ok (Work.on_get b)]
  cases s.attribute? b name <;> rfl

end BuilderSpec

end FluentBuilder
