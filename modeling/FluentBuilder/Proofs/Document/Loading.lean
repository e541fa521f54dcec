import FluentBuilder.Document.Load
import FluentBuilder.Proofs.Document.Refusal
import FluentBuilder.Yaml.Document

/-! Reading the classes of a file, with any library that reads YAML. What is no file, no text or no
YAML is refused, and so is what describes no classes, each in words of its own. Three things escape
that: a path that is none, a value that its constructor refuses, and a number too long for the words
of a refusal. -/

namespace FluentBuilder

open Text

/-- The text has no null character, and no half of a pair but those that keep a byte. -/
@[mk_iff]
structure IsPath (text : String) : Prop where
  noNull : '\x00' ∉ text.toList
  written : ∀ code ∈ codes text.toList, isHalf code = true → isByteHalf code = true

theorem pathFault?_eq_none_iff (path : String) : pathFault? path = none ↔ IsPath path := by
  rw [isPath_iff, ← encodeFault?_eq_none_iff, pathFault?]
  cases encodeFault? isByteHalf path.toList with
  | some fault => simp
  | none => simp

abbrev LoadError.refusal (d : DocumentError) : LoadError := .failure (.generation (.badDocument d))

namespace FileTree

inductive Holds (files : FileTree) (path : String) (text : List Char) : Prop
  | intro {bytes : List UInt8} : IsPath (plainPath path) → files.read path = .ok bytes →
      textOfUtf8 bytes = .ok text → Holds files path text

/-- Why the classes of a file are refused. -/
inductive Refuses (files : FileTree) (read : YamlReader) (path : String) : DocumentError → Prop
  | unreadable {e : FileError} : IsPath (plainPath path) → files.read path = .error e →
      Refuses files read path (.unreadableFile path (e.message (plainPath path)))
  | undecodable {bytes : List UInt8} {fault : Utf8Fault} : IsPath (plainPath path) →
      files.read path = .ok bytes → textOfUtf8 bytes = .error fault →
      Refuses files read path (.unreadableFile path fault.message)
  | malformed {text : List Char} {reason : String} : files.Holds path text →
      read text = .error (.malformed reason) → Refuses files read path (.malformedFile path reason)
  | document {text : List Char} {document : Value} {d : DocumentError} :
      files.Holds path text → read text = .ok document →
      ClassDescriptor.listOfDocument document = .error (.generation (.badDocument d)) →
      Refuses files read path d

/-- Why reading the classes of a file ends otherwise. -/
inductive Escapes (files : FileTree) (read : YamlReader) (path : String) : LoadError → Prop
  | path {fault : PathFault} : pathFault? (plainPath path) = some fault →
      Escapes files read path (.path fault)
  | raised {text : List Char} {error : ForeignError} : files.Holds path text →
      read text = .error (.raised error) → Escapes files read path (.raised error)
  | longNumber {text : List Char} {document : Value} : files.Holds path text →
      read text = .ok document → ClassDescriptor.DocumentUnwritten document →
      Escapes files read path (.failure (.fault (.longNumber none)))

variable {files : FileTree} {read : YamlReader} {path : String}

theorem Holds.readDocument_eq {text : List Char} (h : files.Holds path text) :
    readDocument read files path = match read text with
      | .ok document => .ok document
      | .error (.malformed reason) => .error (.refusal (.malformedFile path reason))
      | .error (.raised error) => .error (.raised error) := by
  obtain ⟨hpath, hread, htext⟩ := h
  have hpath := (pathFault?_eq_none_iff _).mpr hpath
  have htext : readText files path = .ok text := by
    rw [readText, hread]
    exact congrArg (Except.mapError _) htext
  unfold readDocument
  rw [hpath, htext]
  rfl

theorem loadClasses_of_document {text : List Char} {document : Value} (h : files.Holds path text)
    (hdocument : read text = .ok document) :
    loadClasses read files path =
      (ClassDescriptor.listOfDocument document).mapError .failure := by
  rw [loadClasses, h.readDocument_eq, hdocument]
  rfl

theorem Refuses.loadClasses_eq {d : DocumentError} (h : files.Refuses read path d) :
    loadClasses read files path = .error (.refusal d) := by
  cases h with
  | unreadable hpath hread =>
    have hpath := (pathFault?_eq_none_iff _).mpr hpath
    rw [loadClasses, readDocument, hpath, readText, hread]
    rfl
  | undecodable hpath hread htext =>
    have hpath := (pathFault?_eq_none_iff _).mpr hpath
    rw [loadClasses, readDocument, hpath, readText, hread]
    dsimp only
    rw [htext]
    rfl
  | malformed hholds hflaw =>
    rw [loadClasses, hholds.readDocument_eq, hflaw]
    rfl
  | document hholds hdocument hrefused =>
    rw [loadClasses_of_document hholds hdocument, hrefused]
    rfl

theorem Escapes.loadClasses_eq {x : LoadError} (h : files.Escapes read path x) :
    loadClasses read files path = .error x ∧ ∀ d, x ≠ .refusal d := by
  cases h with
  | path hpath =>
    refine ⟨?_, nofun⟩
    rw [loadClasses, readDocument, hpath]
    rfl
  | raised hholds herror =>
    refine ⟨?_, nofun⟩
    rw [loadClasses, hholds.readDocument_eq, herror]
    rfl
  | longNumber hholds hdocument hunwritten =>
    refine ⟨?_, nofun⟩
    have hfault := (ClassDescriptor.failsBy_listOfDocument _).fault_iff.mpr hunwritten
    rw [loadClasses_of_document hholds hdocument, hfault]
    rfl

theorem loadClasses_cases (files : FileTree) (read : YamlReader) (path : String) :
    (∃ ds, loadClasses read files path = .ok ds) ∨ (∃ d, files.Refuses read path d) ∨
      ∃ x, files.Escapes read path x := by
  cases hpath : pathFault? (plainPath path) with
  | some fault => exact .inr (.inr ⟨_, .path hpath⟩)
  | none =>
    have hpath := (pathFault?_eq_none_iff _).mp hpath
    cases hread : files.read path with
    | error e => exact .inr (.inl ⟨_, .unreadable hpath hread⟩)
    | ok bytes =>
      cases htext : textOfUtf8 bytes with
      | error fault => exact .inr (.inl ⟨_, .undecodable hpath hread htext⟩)
      | ok text =>
        have hholds : files.Holds path text := ⟨hpath, hread, htext⟩
        cases hyaml : read text with
        | error e =>
          cases e with
          | malformed reason => exact .inr (.inl ⟨_, .malformed hholds hyaml⟩)
          | raised error => exact .inr (.inr ⟨_, .raised hholds hyaml⟩)
        | ok document =>
          have hfails := ClassDescriptor.failsBy_listOfDocument document
          cases hlist : ClassDescriptor.listOfDocument document with
          | ok ds =>
            refine .inl ⟨ds, ?_⟩
            rw [loadClasses_of_document hholds hyaml, hlist]
            rfl
          | error e =>
            obtain ⟨d, rfl⟩ | rfl := hfails.error e hlist
            · exact .inr (.inl ⟨d, .document hholds hyaml hlist⟩)
            · exact .inr (.inr ⟨_, .longNumber hholds hyaml (hfails.fault_iff.mp hlist)⟩)

end FileTree

/-- What goes wrong is an error of a value: of a path, of a scalar, or of a number to be written. -/
inductive LoadError.OfValue : LoadError → Prop
  | path (fault : PathFault) : OfValue (.path fault)
  | raised {error : ForeignError} : error.kind = "ValueError" → OfValue (.raised error)
  | longNumber (digits : Option ℕ) : OfValue (.failure (.fault (.longNumber digits)))

/-- Loading gives classes or refuses the file, unless something escapes: the path is none, the value
of a scalar cannot be constructed, or a refusal cannot be written. If constructors raise errors of
values only, then all that escapes is one. Files that cannot be read or that are malformed are
refused, each in the words for it. -/
theorem loading_refuses_iff {read : YamlReader} (hread : read.RaisesValueErrors) (files : FileTree)
    (path : String) :
    (((∃ ds, loadClasses read files path = .ok ds) ∨
        ∃ d, loadClasses read files path = .error (.refusal d)) ↔
          ∀ x, ¬ files.Escapes read path x) ∧
      (∀ x, files.Escapes read path x ↔
        loadClasses read files path = .error x ∧ ∀ d, x ≠ .refusal d) ∧
      (∀ x, files.Escapes read path x → x.OfValue) ∧
      ((∃ fault, files.Escapes read path (.path fault)) ↔ ¬ IsPath (plainPath path)) ∧
      ∀ d, files.Refuses read path d ↔ loadClasses read files path = .error (.refusal d) := by
  have hcases := files.loadClasses_cases read path
  refine ⟨⟨fun h x hx => ?_, fun h => ?_⟩, fun x => ⟨fun h => h.loadClasses_eq, fun h => ?_⟩,
    fun x h => ?_, ?_, fun d => ⟨fun h => h.loadClasses_eq, fun h => ?_⟩⟩
  · obtain ⟨herror, hother⟩ := hx.loadClasses_eq
    obtain ⟨ds, hds⟩ | ⟨d, hd⟩ := h
    · cases herror.symm.trans hds
    · exact hother d (Except.error.inj (herror.symm.trans hd))
  · obtain hds | ⟨d, hd⟩ | ⟨x, hx⟩ := hcases
    · exact .inl hds
    · exact .inr ⟨d, hd.loadClasses_eq⟩
    · exact absurd hx (h x)
  · obtain ⟨herror, hother⟩ := h
    obtain ⟨ds, hds⟩ | ⟨d, hd⟩ | ⟨y, hy⟩ := hcases
    · cases herror.symm.trans hds
    · exact absurd (Except.error.inj (herror.symm.trans hd.loadClasses_eq)) (hother d)
    · rwa [Except.error.inj (herror.symm.trans hy.loadClasses_eq.1)]
  · cases h with
    | path hpath => exact .path _
    | raised _ herror => exact .raised (hread _ _ herror)
    | longNumber => exact .longNumber none
  · rw [← pathFault?_eq_none_iff, ← ne_eq, ← Option.isSome_iff_ne_none, Option.isSome_iff_exists]
    refine exists_congr fun fault => ⟨fun h => ?_, .path⟩
    cases h with
    | path hpath => exact hpath
  · obtain ⟨ds, hds⟩ | ⟨e, he⟩ | ⟨y, hy⟩ := hcases
    · cases h.symm.trans hds
    · obtain rfl : d = e := by simpa using h.symm.trans he.loadClasses_eq
      exact he
    · obtain ⟨herror, hother⟩ := hy.loadClasses_eq
      exact absurd (Except.error.inj (herror.symm.trans h)) (hother d)

section Month

/-- A day of a month that there is not. -/
def monthText : String := "2020-13-45\n"

def monthBytes : List UInt8 := monthText.toList.map fun c => UInt8.ofNat c.toNat

def monthFile : FileTree where
  entries := [(["c.yaml"], .file monthBytes)]

def monthError : ForeignError := { kind := "ValueError", message := "month must be in 1..12" }

theorem safeLoad_month : Yaml.safeLoad monthText.toList = .error (.raised monthError) := by
  have herror : (match Yaml.safeLoad monthText.toList with
      | .error (.raised error) => some error
      | _ => none) = some monthError := by
    decide +kernel
  split at herror
  · rename_i error h
    rw [h, Option.some.inj herror]
  · cases herror

theorem monthFile_holds : monthFile.Holds "c.yaml" monthText.toList := by
  have hpath : pathFault? (plainPath "c.yaml") = none :=
    Option.isNone_iff_eq_none.mp (by decide +kernel)
  have hbytes : monthFile.read "c.yaml" = .ok monthBytes := eq_ok_of_toOption (by decide +kernel)
  exact .intro ((pathFault?_eq_none_iff _).mp hpath) hbytes (eq_ok_of_toOption (by decide +kernel))

/-- A library that reads as the installed one does, but lets no other errors through than those of
values. -/
def valuesOnly : YamlReader := fun text =>
  match Yaml.safeLoad text with
  | .error (.raised error) =>
    if error.kind = "ValueError" then .error (.raised error) else .error (.malformed error.message)
  | result => result

theorem valuesOnly_raisesValueErrors : valuesOnly.RaisesValueErrors := by
  intro text error h
  unfold valuesOnly at h
  split at h
  · split_ifs at h with hkind
    · cases h
      exact hkind
    · cases h
  · rename_i hother
    exact absurd h (hother error)

/-- The file is neither read nor refused. -/
theorem loading_refuses_iff_month :
    valuesOnly.RaisesValueErrors ∧ monthFile.Escapes valuesOnly "c.yaml" (.raised monthError) := by
  have hread : valuesOnly monthText.toList = .error (.raised monthError) := by
    rw [valuesOnly, safeLoad_month]
    rfl
  have hload : loadClasses valuesOnly monthFile "c.yaml" = .error (.raised monthError) := by
    rw [loadClasses, monthFile_holds.readDocument_eq, hread]
    rfl
  obtain ⟨-, hescapes, -⟩ :=
    loading_refuses_iff valuesOnly_raisesValueErrors monthFile "c.yaml"
  exact ⟨valuesOnly_raisesValueErrors, (hescapes _).mpr ⟨hload, nofun⟩⟩

/-- With the library that the program runs with, the error of the date goes through. -/
theorem loading_lets_moment_escape :
    loadClasses Yaml.safeLoad monthFile "c.yaml" =
      .error (.raised { kind := "ValueError", message := "month must be in 1..12" }) := by
  rw [loadClasses, monthFile_holds.readDocument_eq, safeLoad_month]
  rfl

end Month

end FluentBuilder
