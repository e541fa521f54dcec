import FluentBuilder.Proofs.Text.Blank
import FluentBuilder.Proofs.Traversal
import FluentBuilder.Settings.Basic
import FluentBuilder.Settings.Reference

/-!
Which source a setting comes from, with any library that reads files of variables. What each file
says is taken as a map from names to values or to none, and the settings are determined by the
environment and these maps: the environment decides if it has the name, and otherwise the last file
that gives the name a value.
-/

namespace FluentBuilder

/-- The file has a value for the name. -/
def Mentions.Gives (m : Mentions) (name value : String) : Prop := m.lookup name = some (some value)

/-- The files give the same values; which names they mention only does not matter. -/
def Mentions.SameValues (m n : Mentions) : Prop :=
  ∀ name value, m.Gives name value ↔ n.Gives name value

def merged : List Mentions → Variables
  | [] => []
  | m :: later => merged later ++ variablesOf m

/-- What the regular files of some paths say, in the order of the paths. -/
def mentionsOf (readVariables : VariableReader) (environment : Variables) (files : FileTree) :
    List String → Except ForeignError (List Mentions)
  | [] => .ok []
  | path :: paths =>
    match files.regularFile? path with
    | none => mentionsOf readVariables environment files paths
    | some bytes => do
      let said ← (readVariables environment bytes).said
      let later ← mentionsOf readVariables environment files paths
      return said :: later

/-- The value of a name in the strongest source that has it: the environment, or else the last of
the files that give it one. -/
inductive Raw (environment : Variables) (mentions : List Mentions) (name : String) :
    Option String → Prop
  | environment {value : String} : environment.lookup name = some value →
      Raw environment mentions name (some value)
  | file {before after : List Mentions} {m : Mentions} {value : String} :
      environment.lookup name = none → mentions = before ++ m :: after → m.Gives name value →
      (∀ later ∈ after, ∀ v, ¬ later.Gives name v) →
      Raw environment mentions name (some value)
  | absent : environment.lookup name = none → (∀ m ∈ mentions, ∀ v, ¬ m.Gives name v) →
      Raw environment mentions name none

/-- What a raw value stands for: itself without the blanks around it, or the default if it is blank
or missing. -/
inductive Settled (default : String) : Option String → String → Prop
  | value {text : String} : ¬ Text.Blank text.toList →
      Settled default (some text) (Text.trimmed text)
  | blank {text : String} : Text.Blank text.toList → Settled default (some text) default
  | absent : Settled default none default

/-- The sources give a name the text, or leave it to the default. -/
def Yields (environment : Variables) (mentions : List Mentions) (name default text : String) :
    Prop :=
  ∃ raw, Raw environment mentions name raw ∧ Settled default raw text

namespace Settings

/-- The settings that the environment and what files say give. -/
def ofMentions (environment : Variables) (mentions : List Mentions) : Settings :=
  ofVariables environment (merged mentions)

/-- The settings are those that the sources give. -/
structure Follows (sources : Variables) (mentions : List Mentions) (s : Settings) : Prop where
  environment : Yields sources mentions "BUILDERGEN_ENV" "development" s.environment
  logLevel : Yields sources mentions "BUILDERGEN_LOG_LEVEL" "INFO" s.logLevel
  outputFormat : ∃ text, Yields sources mentions "BUILDERGEN_OUTPUT_FORMAT" "yaml" text ∧
    s.outputFormat = String.ofList (Text.lower text.toList)
  emitDocs : ∃ text, Yields sources mentions "BUILDERGEN_EMIT_DOCS" "0" text ∧
    (s.emitDocs = true ↔ text = "1" ∨ text = "true" ∨ text = "yes")

/-- The settings agree in what is read from variables of the given names. -/
structure AgreeOn (names : String → Prop) (s t : Settings) : Prop where
  environment : names "BUILDERGEN_ENV" → s.environment = t.environment
  logLevel : names "BUILDERGEN_LOG_LEVEL" → s.logLevel = t.logLevel
  outputFormat : names "BUILDERGEN_OUTPUT_FORMAT" → s.outputFormat = t.outputFormat
  emitDocs : names "BUILDERGEN_EMIT_DOCS" → s.emitDocs = t.emitDocs

end Settings

theorem lookup_variablesOf (m : Mentions) (name : String) :
    (variablesOf m).lookup name = (m.lookup name).join := by
  induction m with
  | nil => rfl
  | cons entry above ih =>
    obtain ⟨key, value⟩ := entry
    unfold variablesOf
    by_cases hk : name = key
    · subst hk
      have hgone : ((variablesOf above).filter (·.1 ≠ name)).lookup name = none := by
        rw [List.lookup_eq_none_iff]
        intro p hp
        have hne : p.1 ≠ name := by simpa using (List.mem_filter.mp hp).2
        exact bne_iff_ne.mpr hne.symm
      cases value with
      | none => simpa using hgone
      | some value => simp
    · have hb : (name == key) = false := by simpa using hk
      have hrest := lookup_filter_of_ne hk (variablesOf above)
      cases value with
      | none => simpa [List.lookup_cons, hb, ih] using hrest
      | some value => simpa [List.lookup_cons, hb, ih] using hrest

theorem lookup_variablesOf_eq_some_iff {m : Mentions} {name value : String} :
    (variablesOf m).lookup name = some value ↔ m.Gives name value := by
  rw [lookup_variablesOf, Option.join_eq_some_iff]
  rfl

theorem lookup_merged_cons (m : Mentions) (later : List Mentions) (name : String) :
    (merged (m :: later)).lookup name =
      ((merged later).lookup name).or ((variablesOf m).lookup name) := by
  rw [merged, List.lookup_append]

theorem lookup_merged_eq_none_iff {mentions : List Mentions} {name : String} :
    (merged mentions).lookup name = none ↔ ∀ m ∈ mentions, ∀ v, ¬ m.Gives name v := by
  induction mentions with
  | nil => simp [merged]
  | cons m later ih =>
    have hown : (variablesOf m).lookup name = none ↔ ∀ v, ¬ m.Gives name v := by
      simp only [Option.eq_none_iff_forall_ne_some, ne_eq, lookup_variablesOf_eq_some_iff]
    rw [lookup_merged_cons, Option.or_eq_none_iff, ih, hown, List.forall_mem_cons, and_comm]

/-- The last of the files that give a name a value decides. -/
theorem lookup_merged_eq_some_iff {mentions : List Mentions} {name value : String} :
    (merged mentions).lookup name = some value ↔
      ∃ before m after, mentions = before ++ m :: after ∧ m.Gives name value ∧
        ∀ later ∈ after, ∀ v, ¬ later.Gives name v := by
  induction mentions with
  | nil => simp [merged]
  | cons first rest ih =>
    rw [lookup_merged_cons, Option.or_eq_some_iff, ih, lookup_merged_eq_none_iff,
      lookup_variablesOf_eq_some_iff]
    constructor
    · rintro (⟨before, m, after, rfl, hm, hafter⟩ | ⟨hrest, hfirst⟩)
      · exact ⟨first :: before, m, after, rfl, hm, hafter⟩
      · exact ⟨[], first, rest, rfl, hfirst, hrest⟩
    · rintro ⟨before, m, after, hsplit, hm, hafter⟩
      cases before with
      | nil =>
        obtain ⟨rfl, rfl⟩ := List.cons_eq_cons.mp hsplit
        exact .inr ⟨hafter, hm⟩
      | cons b before =>
        obtain ⟨rfl, rfl⟩ := List.cons_eq_cons.mp hsplit
        exact .inl ⟨before, m, after, rfl, hm, hafter⟩

theorem lookup_merged_congr {mentions others : List Mentions}
    (h : List.Forall₂ Mentions.SameValues mentions others) (name : String) :
    (merged mentions).lookup name = (merged others).lookup name := by
  induction h with
  | nil => rfl
  | @cons m n later rest hmn _ ih =>
    have hown : (variablesOf m).lookup name = (variablesOf n).lookup name := by
      ext value
      rw [lookup_variablesOf_eq_some_iff, lookup_variablesOf_eq_some_iff]
      exact hmn name value
    rw [lookup_merged_cons, lookup_merged_cons, ih, hown]

section

variable {environment : Variables} {mentions others : List Mentions}
variable {name default text : String}

theorem raw_iff {raw : Option String} :
    Raw environment mentions name raw ↔
      Settings.raw environment (merged mentions) name = raw := by
  unfold Settings.raw
  constructor
  · rintro (henv | ⟨henv, hsplit, hm, hafter⟩ | ⟨henv, hnone⟩)
    · rw [henv, Option.some_or]
    · rw [henv, Option.none_or]
      exact lookup_merged_eq_some_iff.mpr ⟨_, _, _, hsplit, hm, hafter⟩
    · rw [henv, Option.none_or]
      exact lookup_merged_eq_none_iff.mpr hnone
  · intro h
    cases henv : environment.lookup name with
    | some value =>
      rw [henv, Option.some_or] at h
      exact h ▸ .environment henv
    | none =>
      rw [henv, Option.none_or] at h
      cases raw with
      | none => exact .absent henv (lookup_merged_eq_none_iff.mp h)
      | some value =>
        obtain ⟨before, m, after, hsplit, hm, hafter⟩ := lookup_merged_eq_some_iff.mp h
        exact .file henv hsplit hm hafter

theorem trimmed_eq_empty_iff (s : String) : Text.trimmed s = "" ↔ Text.Blank s.toList := by
  rw [Text.trimmed, String.ofList_eq_empty_iff, Text.trim_eq_nil_iff]

theorem settled_iff {raw : Option String} :
    Settled default raw text ↔ Settings.orDefault default raw = text := by
  have hnone : Settings.orDefault default none = default := by
    have hblank : Text.trimmed "" = "" := (trimmed_eq_empty_iff "").mpr (by simp [Text.blank_nil])
    simp [Settings.orDefault, hblank]
  have hsome (v : String) : Settings.orDefault default (some v) =
      if Text.trimmed v = "" then default else Text.trimmed v := rfl
  constructor
  · rintro (hv | hv | -)
    · rw [hsome, if_neg (mt (trimmed_eq_empty_iff _).mp hv)]
    · rw [hsome, if_pos ((trimmed_eq_empty_iff _).mpr hv)]
    · exact hnone
  · rintro rfl
    cases raw with
    | none => exact hnone ▸ .absent
    | some v =>
      by_cases hv : Text.Blank v.toList
      · rw [hsome, if_pos ((trimmed_eq_empty_iff v).mpr hv)]
        exact .blank hv
      · rw [hsome, if_neg (mt (trimmed_eq_empty_iff v).mp hv)]
        exact .value hv

theorem yields_iff :
    Yields environment mentions name default text ↔
      Settings.orDefault default (Settings.raw environment (merged mentions) name) = text := by
  unfold Yields
  simp only [raw_iff, settled_iff, exists_eq_left']

namespace Settings

theorem ofMentions_eq_iff {s : Settings} :
    ofMentions environment mentions = s ↔ s.Follows environment mentions := by
  have hdocs (word : String) :
      docsWords.contains word = true ↔ word = "1" ∨ word = "true" ∨ word = "yes" := by
    simp [docsWords]
  obtain ⟨e, l, f, d⟩ := s
  dsimp only [ofMentions, ofVariables]
  rw [mk.injEq]
  constructor
  · rintro ⟨he, hl, hf, hd⟩
    have hword := hdocs (orDefault "0" (raw environment (merged mentions) "BUILDERGEN_EMIT_DOCS"))
    rw [hd] at hword
    exact ⟨yields_iff.mpr he, yields_iff.mpr hl, ⟨_, yields_iff.mpr rfl, hf.symm⟩,
      ⟨_, yields_iff.mpr rfl, hword⟩⟩
  · rintro ⟨he, hl, ⟨format, hf, hlower⟩, ⟨word, hd, hwords⟩⟩
    rw [yields_iff] at he hl hf hd
    have hflag : docsWords.contains word = d := by
      rw [Bool.eq_iff_iff, hdocs]
      exact hwords.symm
    rw [hf, hd]
    exact ⟨he, hl, hlower.symm, hflag⟩

theorem agreeOn_of_raw {names : String → Prop}
    (h : ∀ name, names name →
      raw environment (merged mentions) name = raw environment (merged others) name) :
    AgreeOn names (ofMentions environment mentions) (ofMentions environment others) := by
  constructor <;> intro hn <;> simp only [ofMentions, ofVariables, h _ hn]

theorem AgreeOn.eq {s t : Settings} (h : AgreeOn (fun _ => True) s t) : s = t := by
  obtain ⟨he, hl, hf, hd⟩ := h
  cases s
  cases t
  rw [mk.injEq]
  exact ⟨he trivial, hl trivial, hf trivial, hd trivial⟩

end Settings

end

section

variable (readVariables : VariableReader) (environment : Variables) (files : FileTree)

theorem fileVariables_eq (paths : List String) :
    fileVariables readVariables environment files paths =
      (mentionsOf readVariables environment files paths).map merged := by
  induction paths with
  | nil => rfl
  | cons path paths ih =>
    unfold fileVariables mentionsOf variablesAt
    rw [ih]
    cases files.regularFile? path with
    | none =>
      change ((mentionsOf readVariables environment files paths).map merged >>= fun later =>
        pure (later ++ variablesOf [])) = _
      cases mentionsOf readVariables environment files paths with
      | error e => rfl
      | ok later => exact congrArg Except.ok (List.append_nil _)
    | some bytes =>
      dsimp only
      cases (readVariables environment bytes).said with
      | error e => rfl
      | ok said => cases mentionsOf readVariables environment files paths <;> rfl

/-- Paths that lead to no regular file say nothing. -/
theorem mentionsOf_filter (paths : List String) :
    mentionsOf readVariables environment files
        (paths.filter fun p => (files.regularFile? p).isSome) =
      mentionsOf readVariables environment files paths := by
  induction paths with
  | nil => rfl
  | cons path paths ih =>
    cases hfile : files.regularFile? path with
    | none => simp [mentionsOf, hfile, ih]
    | some bytes => simp [mentionsOf, hfile, ih]

end

/-- The settings that are read are determined by the environment and by what the regular files say,
in the order of their paths: each comes from the strongest source that has its variable, and a blank
there stands for the default. What the files say does not matter to a setting whose variable is in
the environment; a name without a value and a path without a regular file matter to none. -/
theorem settings_follow_sources (readVariables : VariableReader) (environment : Variables)
    (files : FileTree) (paths : List String) :
    Settings.read readVariables environment files paths =
        (mentionsOf readVariables environment files paths).map
          (Settings.ofMentions environment) ∧
      (∀ mentions s, Settings.ofMentions environment mentions = s ↔
        s.Follows environment mentions) ∧
      (∀ mentions others, Settings.AgreeOn (fun name => (environment.lookup name).isSome)
        (Settings.ofMentions environment mentions) (Settings.ofMentions environment others)) ∧
      (∀ mentions others, List.Forall₂ Mentions.SameValues mentions others →
        Settings.ofMentions environment mentions = Settings.ofMentions environment others) ∧
      Settings.read readVariables environment files
          (paths.filter fun p => (files.regularFile? p).isSome) =
        Settings.read readVariables environment files paths := by
  have hread (paths : List String) : Settings.read readVariables environment files paths =
      (mentionsOf readVariables environment files paths).map
        (Settings.ofMentions environment) := by
    rw [Settings.read, fileVariables_eq]
    cases mentionsOf readVariables environment files paths <;> rfl
  refine ⟨hread paths, fun mentions s => Settings.ofMentions_eq_iff, ?known, ?values, ?missing⟩
  case known =>
    intro mentions others
    apply Settings.agreeOn_of_raw
    intro name hname
    obtain ⟨value, hvalue⟩ := Option.isSome_iff_exists.mp hname
    rw [Settings.raw, Settings.raw, hvalue, Option.some_or, Option.some_or]
  case values =>
    intro mentions others h
    apply Settings.AgreeOn.eq
    apply Settings.agreeOn_of_raw
    intro name _
    rw [Settings.raw, Settings.raw, lookup_merged_congr h]
  case missing => rw [hread, mentionsOf_filter, ← hread]

/-- A file with three values, and one that mentions a name and gives a value in quotes. -/
def layeredFiles : FileTree where
  entries := [
    (["base.env"],
      .file ("BUILDERGEN_ENV=prod\nBUILDERGEN_LOG_LEVEL=DEBUG\nBUILDERGEN_EMIT_DOCS=yes".toList.map
        fun c => UInt8.ofNat c.toNat)),
    (["own.env"],
      .file ("BUILDERGEN_LOG_LEVEL\nBUILDERGEN_OUTPUT_FORMAT=' JSON '".toList.map
        fun c => UInt8.ofNat c.toNat))]

def layeredMentions : List Mentions :=
  [[("BUILDERGEN_EMIT_DOCS", some "yes"), ("BUILDERGEN_LOG_LEVEL", some "DEBUG"),
      ("BUILDERGEN_ENV", some "prod")],
    [("BUILDERGEN_OUTPUT_FORMAT", some " JSON "), ("BUILDERGEN_LOG_LEVEL", none)]]

/-- The blank in the environment hides the value of the first file, and the mention in the second
one does not. -/
theorem settings_follow_sources_layered :
    Settings.read readStatements [("BUILDERGEN_ENV", " ")] layeredFiles
          ["base.env", "missing.env", "own.env"] =
        .ok { logLevel := "DEBUG", outputFormat := "json", emitDocs := true } ∧
      ∃ mentions, mentionsOf readStatements [("BUILDERGEN_ENV", " ")] layeredFiles
          ["base.env", "missing.env", "own.env"] = .ok mentions ∧
        Settings.Follows [("BUILDERGEN_ENV", " ")] mentions
          { logLevel := "DEBUG", outputFormat := "json", emitDocs := true } := by
  obtain ⟨hread, hfollows, -⟩ := settings_follow_sources readStatements
    [("BUILDERGEN_ENV", " ")] layeredFiles ["base.env", "missing.env", "own.env"]
  have hmentions : mentionsOf readStatements [("BUILDERGEN_ENV", " ")] layeredFiles
      ["base.env", "missing.env", "own.env"] = .ok layeredMentions :=
    eq_ok_of_toOption (by decide +kernel)
  have hsettings : Settings.ofMentions [("BUILDERGEN_ENV", " ")] layeredMentions =
      { logLevel := "DEBUG", outputFormat := "json", emitDocs := true } := by decide +kernel
  refine ⟨?_, layeredMentions, hmentions, (hfollows layeredMentions _).mp hsettings⟩
  rw [hread, hmentions, ← hsettings]
  rfl

end FluentBuilder
