import FluentBuilder.Cli.Run
import FluentBuilder.Library.Installed
import FluentBuilder.Proofs.Spec.Setters

/-! The two commands judge a file alike, with any libraries and on any printer. If one of its classes
has no builder, either of them reports why and prints nothing else; otherwise one prints a line for
each class, and the other the descriptions that are asked for. -/

namespace FluentBuilder

open Number

namespace Printer

def Takes (printer : Printer) (text : String) : Prop := printer.refusal? text = none

/-- Written as UTF-8, a text is refused only for half of a pair that stands alone. -/
theorem takes_utf8_iff (text : String) :
    utf8.Takes text ↔ ∀ code ∈ Text.codes text.toList, Text.isHalf code = false := by
  have hkept : (∀ code ∈ Text.codes text.toList, Text.isHalf code = true → false = true) ↔
      ∀ code ∈ Text.codes text.toList, Text.isHalf code = false := by simp
  rw [← hkept, ← Text.encodeFault?_eq_none_iff]
  exact Option.map_eq_none_iff

end Printer

/-- How a run of the program ends, and what it prints. -/
def Printed.answer (p : Printed) : Exit × String := (p.exit, p.output)

def Command.path : Command → String
  | .describe path _ | .check path => path

/-- The description of the builder of a class, with comments or without. -/
def Describes (docs : Bool) (c : ClassDescriptor) (description : Tree) : Prop :=
  ∃ s, assemble c = .ok s ∧
    description = if docs then describeDocumented c s else s.describe

section Derivation

variable {files : FileTree} {readYaml : YamlReader} {path : String}
  {classes : List ClassDescriptor}

end Derivation

section Answers

variable {c : ClassDescriptor} {s : BuilderSpec} {classes : List ClassDescriptor}
  {specs : List BuilderSpec}

variable (lib : Libraries) (path format : String) (docs : Bool) {className : Option String}
  {builders : List (ClassDescriptor × BuilderSpec)}

end Answers

section Run

variable {lib : Libraries} {printer : Printer} {environment : Variables} {files : FileTree}
  {settings : Settings}

end Run

/-- A file with a class whose field has half of a pair for a name, and no type. -/
def halfFile : FileTree where
  entries := [(["half.yaml"],
    .file ("name: P\nfields: [\x7bname: \"\\ud800\"\x7d]".toList.map fun c =>
      UInt8.ofNat c.toNat))]

/-- The refusal of the file shows the name, so that it cannot be written as UTF-8. -/
example :
    (match (runProgram .installed .utf8 [] halfFile ["check", "half.yaml"]).exit with
      | .crash crash => crash.message
      | .code _ => "") =
      "'utf-8' codec can't encode character '\\ud800' in position 14: surrogates not allowed" := by
  decide +kernel

section Cell

end Cell

end FluentBuilder
